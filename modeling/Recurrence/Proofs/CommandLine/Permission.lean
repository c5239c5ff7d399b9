import Recurrence.CommandLine.Invocation
import Recurrence.Proofs.Except
/-!
# Permission — no program is started unless the arguments allow it

Code is allowed by one argument and by nothing else: no other argument makes that setting, whatever stands before or
after it.  So what is left after a command line without that argument is the same whatever programs there are
(`CommandLine.run_programs`).
-/
namespace Recurrence
namespace CommandLine

/-- The argument that allows code. -/
def permission : Text := "--allow-unsafe".toList

theorem Setting.ofValue_ne_codeAllowed {p : Parameter} {value : Text} : ofValue p value ≠ .ok .codeAllowed := by
  intro h
  unfold ofValue at h
  split at h
  · split at h <;> cases h
  · cases h
  · cases h
  · split at h <;> cases h
  · cases h

namespace Progress

variable {s s' : Progress} {given given' : List Setting}

/-- A setting that takes a value does not allow code. -/
theorem codeAllowed_mem_of_addValue {p : Parameter} {value : Text} (h : addValue given p value = .ok given')
    (hc : .codeAllowed ∈ given') : .codeAllowed ∈ given := by
  unfold addValue at h
  split at h
  · cases h
  · obtain ⟨setting, hs, rfl⟩ := exists_of_map_eq_ok h
    rcases List.mem_append.1 hc with hc | hc
    · exact hc
    · rw [← List.mem_singleton.1 hc] at hs
      exact absurd hs Setting.ofValue_ne_codeAllowed

theorem codeAllowed_mem_of_settle (h : s.settle = .ok given) (hc : .codeAllowed ∈ given) : .codeAllowed ∈ s.given := by
  unfold settle at h
  split at h
  · cases h
    exact hc
  · cases h
  · exact codeAllowed_mem_of_addValue h hc

theorem codeAllowed_mem_of_takeFile {argument : Text} (h : s.takeFile argument = .ok s')
    (hc : .codeAllowed ∈ s'.given) : .codeAllowed ∈ s.given := by
  unfold takeFile at h
  split at h
  · cases h
  · obtain ⟨given, hs, rfl⟩ := exists_of_map_eq_ok h
    exact codeAllowed_mem_of_settle hs hc

/-- Of the options only the one that allows code does. -/
theorem codeAllowed_mem_of_takeOption {p : Parameter} {joined : Option Text} (h : s.takeOption p joined = .ok s')
    (hc : .codeAllowed ∈ s'.given) : .codeAllowed ∈ s.given ∨ p = .codeAllowed ∧ joined = none := by
  unfold takeOption at h
  -- the two flags, an option whose value is still to come, and one that brings its value
  split at h
  · exact .inr ⟨rfl, rfl⟩
  · obtain ⟨given, hg, rfl⟩ := exists_of_map_eq_ok h
    obtain ⟨settled, hs, hadd⟩ := exists_of_bind_eq_ok hg
    unfold add at hadd
    split at hadd
    · cases hadd
    · cases hadd
      rcases List.mem_append.1 hc with hc | hc
      · exact .inl (codeAllowed_mem_of_settle hs hc)
      · cases List.mem_singleton.1 hc
  · obtain ⟨given, hs, rfl⟩ := exists_of_map_eq_ok h
    exact .inl (codeAllowed_mem_of_settle hs hc)
  · obtain ⟨given, hg, rfl⟩ := exists_of_map_eq_ok h
    obtain ⟨settled, hs, hadd⟩ := exists_of_bind_eq_ok hg
    exact .inl (codeAllowed_mem_of_settle hs (codeAllowed_mem_of_addValue hadd hc))

end Progress

/-! ## Reading the arguments -/

theorem eq_of_ofLong? {name : Text} (h : Parameter.ofLong? name = some .codeAllowed) :
    name = "allow-unsafe".toList := by
  obtain ⟨before, after, htable, -⟩ := List.lookup_eq_some_iff.1 h
  have hmem : (name, Parameter.codeAllowed) ∈ before ++ (name, Parameter.codeAllowed) :: after := by simp
  rw [← htable] at hmem
  simpa using hmem

theorem ofShort?_ne_codeAllowed (c : Char) : Parameter.ofShort? c ≠ some .codeAllowed := by
  intro h
  unfold Parameter.ofShort? at h
  split at h <;> cases h

/-- Only the argument that allows code names the option that does. -/
theorem eq_permission_of_named? {a : Text} (h : named? a = some (.option .codeAllowed none)) : a = permission := by
  unfold named? at h
  split at h
  · rename_i c cs
    simp only [longOption, Option.some.injEq] at h
    split at h
    · cases h
    · rename_i p hp
      obtain ⟨hcode, hjoined⟩ := Named.option.inj h
      rw [hcode] at hp
      -- nothing is joined to the name, so it is all of the argument
      have hwhole : (c :: cs).takeWhile (· ≠ '=') = c :: cs := by
        apply (List.takeWhile_prefix _).eq_of_length_le
        apply Nat.le_of_not_lt
        intro hshort
        rw [if_pos hshort] at hjoined
        cases hjoined
      rw [hwhole] at hp
      rw [eq_of_ofLong? hp]
      rfl
  · cases h
  · rename_i c cs _ _
    simp only [shortOption, Option.some.injEq] at h
    split at h
    · cases h
    · rename_i p hp
      have hcode : p = .codeAllowed := by
        split at h
        · exact (Named.option.inj h).1
        · exact (Named.option.inj h).1
      rw [hcode] at hp
      exact absurd hp (ofShort?_ne_codeAllowed c)
  · cases h

variable {s : Progress} {arguments : List Text} {given given' : List Setting}

theorem eq_of_requested (h : requested given = .ok (.resolve given')) : given' = given := by
  unfold requested at h
  split at h
  · cases h
  · cases h
    rfl

theorem codeAllowed_mem_of_readFiles (h : readFiles s arguments = .ok (.resolve given))
    (hc : .codeAllowed ∈ given) : .codeAllowed ∈ s.given := by
  induction arguments generalizing s with
  | nil =>
    obtain ⟨settled, hs, hr⟩ := exists_of_bind_eq_ok h
    rw [eq_of_requested hr] at hc
    exact Progress.codeAllowed_mem_of_settle hs hc
  | cons a rest ih =>
    obtain ⟨s', hs, hr⟩ := exists_of_bind_eq_ok h
    exact Progress.codeAllowed_mem_of_takeFile hs (ih hr)

/-- **Code is allowed by the argument that allows it**, and by no other. -/
theorem codeAllowed_mem_of_readFrom (h : readFrom s arguments = .ok (.resolve given)) (hc : .codeAllowed ∈ given) :
    .codeAllowed ∈ s.given ∨ permission ∈ arguments := by
  induction arguments generalizing s with
  | nil =>
    obtain ⟨settled, hs, hr⟩ := exists_of_bind_eq_ok h
    rw [eq_of_requested hr] at hc
    exact .inl (Progress.codeAllowed_mem_of_settle hs hc)
  | cons a rest ih =>
    have later (hrest : permission ∈ rest) : permission ∈ a :: rest := List.mem_cons_of_mem a hrest
    rw [readFrom] at h
    split at h
    · exact .inl (codeAllowed_mem_of_readFiles h hc)
    · -- an unknown option, help, version, another option, a value that is awaited, and a file
      split at h
      · cases h
      · obtain ⟨_, _, hr⟩ := exists_of_map_eq_ok h
        cases hr
      · obtain ⟨_, _, hr⟩ := exists_of_map_eq_ok h
        cases hr
      · rename_i p joined _ _ hnamed
        split at h
        · obtain ⟨s', hs, hr⟩ := exists_of_bind_eq_ok h
          rcases ih hr with hgiven | hrest
          · rcases Progress.codeAllowed_mem_of_takeOption hs hgiven with hbefore | ⟨rfl, rfl⟩
            · exact .inl hbefore
            · rw [eq_permission_of_named? hnamed]
              exact .inr (List.mem_cons_self ..)
          · exact .inr (later hrest)
        · cases h
      · exact (ih h).imp_right later
      · obtain ⟨s', hs, hr⟩ := exists_of_bind_eq_ok h
        exact (ih hr).imp (Progress.codeAllowed_mem_of_takeFile hs) later

/-! ## The invocation -/

theorem Invocation.codeAllowed_foldl (i : Invocation) (given : List Setting) :
    (given.foldl set i).codeAllowed = true ↔ i.codeAllowed = true ∨ .codeAllowed ∈ given := by
  induction given generalizing i with
  | nil => simp
  | cons setting given ih =>
    rw [List.foldl_cons, ih]
    cases setting <;> simp [set]

/-- **Without permission no program is started**: what is left is the same whatever programs there are. -/
theorem run_programs (world : Surroundings) (programs : Programs) {arguments : List Text}
    (h : permission ∉ arguments) : run { world with programs } arguments = run world arguments := by
  unfold run
  cases hread : read arguments with
  | error fault => rfl
  | ok request =>
    cases request with
    | help => rfl
    | version => rfl
    | resolve given =>
      have hplain : (Invocation.ofSettings given).codeAllowed = false := by
        rw [Bool.eq_false_iff, Invocation.ofSettings, Ne, Invocation.codeAllowed_foldl]
        rintro (hc | hc)
        · cases hc
        · rcases codeAllowed_mem_of_readFrom hread hc with hstart | hin
          · cases hstart
          · exact h hin
      have hcontext : (Invocation.ofSettings given).context { world with programs } =
          (Invocation.ofSettings given).context world := by
        simp only [Invocation.context, hplain]
        rfl
      simp only [Invocation.resolve, hcontext]

end CommandLine
end Recurrence
