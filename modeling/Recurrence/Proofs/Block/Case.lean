import Recurrence.Proofs.Block.Transfer
/-!
# Letter case — texts that differ in nothing else

Two texts agree up to letter case when they are the same in lower case.  Comments in them begin and end at the same
characters (`Comment.cut_lowered`), and so do tokens, which are of the same kinds, unless one is a block of code
(`Lexeme.read_lowered`).  Where nothing opens a block of code, both texts have the same tokens at the same positions, or
the same fault, and name the same days (`Context.letterCase_irrelevant`).
-/
namespace Recurrence

/-! ## Letters -/

namespace Text

open Lexeme (toNat_toLower isAlpha_toLower)

theorem toLower_toLower (c : Char) : c.toLower.toLower = c.toLower := by
  rw [← Char.toNat_inj, toNat_toLower c.toLower, if_neg]
  rw [toNat_toLower]
  split <;> omega

theorem toLower_of_not_isAlpha {c : Char} (h : c.isAlpha = false) : c.toLower = c := by
  rw [← Bool.not_eq_true, Lexeme.isAlpha_iff] at h
  rw [← Char.toNat_inj, toNat_toLower, if_neg (by omega)]

/-- A character that is no letter is the lower case of no other. -/
theorem toLower_eq_iff {c d : Char} (hd : d.isAlpha = false) : c.toLower = d ↔ c = d := by
  constructor
  · rintro rfl
    rw [isAlpha_toLower] at hd
    exact (toLower_of_not_isAlpha hd).symm
  · rintro rfl
    exact toLower_of_not_isAlpha hd

/-- A class without letters does not tell cases apart. -/
theorem apply_toLower {p : Char → Bool} (hp : ∀ c, c.isAlpha = true → p c = false) (c : Char) : p c.toLower = p c := by
  cases hc : c.isAlpha with
  | false => rw [toLower_of_not_isAlpha hc]
  | true => rw [hp c hc, hp c.toLower (by rw [isAlpha_toLower, hc])]

theorem isDigit_toLower (c : Char) : c.toLower.isDigit = c.isDigit :=
  apply_toLower (fun _ => Lexeme.isDigit_eq_false_of_isAlpha) c

theorem isBlank_toLower (c : Char) : isBlank c.toLower = isBlank c :=
  apply_toLower (fun _ => Lexeme.isBlank_eq_false_of Lexeme.isAlpha_eq_false_of_isBlank) c

@[simp] theorem lowered_nil : lowered [] = [] := rfl

@[simp] theorem lowered_cons (c : Char) (t : Text) : lowered (c :: t) = c.toLower :: lowered t := rfl

theorem lowered_append (s t : Text) : lowered (s ++ t) = lowered s ++ lowered t := List.map_append

theorem lowered_lowered (t : Text) : lowered (lowered t) = lowered t := by
  rw [lowered, lowered, List.map_map]
  exact List.map_congr_left fun c _ => toLower_toLower c

theorem lowered_of_not_isAlpha : ∀ {t : Text}, (∀ c ∈ t, c.isAlpha = false) → lowered t = t
  | [], _ => rfl
  | c :: t, h => by
    rw [lowered_cons, toLower_of_not_isAlpha (h c List.mem_cons_self),
      lowered_of_not_isAlpha fun d hd => h d (List.mem_cons_of_mem c hd)]

/-- A word without letters stands at the start of a text if it does so in lower case. -/
theorem prefix_lowered_iff {w : Text} (hw : ∀ c ∈ w, c.isAlpha = false) (t : Text) : w <+: lowered t ↔ w <+: t := by
  induction w generalizing t with
  | nil => simp
  | cons d w ih =>
    cases t with
    | nil => simp
    | cons c t =>
      rw [lowered_cons, List.cons_prefix_cons, List.cons_prefix_cons, ih fun c hc => hw c (List.mem_cons_of_mem d hc),
        eq_comm, toLower_eq_iff (hw d List.mem_cons_self), eq_comm]

theorem infix_lowered_iff {w : Text} (hw : ∀ c ∈ w, c.isAlpha = false) (t : Text) : w <:+: lowered t ↔ w <:+: t := by
  induction t with
  | nil => exact Iff.rfl
  | cons c t ih =>
    rw [lowered_cons, List.infix_cons_iff, List.infix_cons_iff, ← lowered_cons, prefix_lowered_iff hw, ih]

theorem takeWhile_lowered {p : Char → Bool} (hp : ∀ c, p c.toLower = p c) (t : Text) :
    (lowered t).takeWhile p = lowered (t.takeWhile p) := by
  rw [lowered, List.takeWhile_map, show p ∘ Char.toLower = p from funext hp, ← lowered]

theorem length_lowered (t : Text) : (lowered t).length = t.length := List.length_map _

theorem take_lowered (n : Nat) (t : Text) : (lowered t).take n = lowered (t.take n) := (List.map_take ..).symm

theorem drop_lowered (n : Nat) (t : Text) : (lowered t).drop n = lowered (t.drop n) := (List.map_drop ..).symm

end Text

open Text (lowered toLower_eq_iff toLower_of_not_isAlpha lowered_cons)

theorem Position.next_toLower (p : Position) (c : Char) : p.next (some c.toLower) = p.next (some c) := by
  have hnewline : c.toLower = '\n' ↔ c = '\n' := toLower_eq_iff (by decide)
  simp only [next, Option.some.injEq, hnewline]

theorem Position.through_lowered (p : Position) (w : Text) : p.through (lowered w) = p.through w := by
  induction w generalizing p with
  | nil => rfl
  | cons c w ih => rw [lowered_cons, through_cons, through_cons, next_toLower, ih]

/-! ## Comments -/

namespace Comment

theorem head?_lowered_eq_iff {d : Char} (hd : d.isAlpha = false) (t : Text) :
    (lowered t).head? = some d ↔ t.head? = some d := by
  cases t with
  | nil => exact Iff.rfl
  | cons c t =>
    rw [lowered_cons, List.head?_cons, List.head?_cons, Option.some.injEq, Option.some.injEq, toLower_eq_iff hd]

theorem lowered_gap (n : Nat) : lowered (gap n) = gap n := by
  refine Text.lowered_of_not_isAlpha fun c hc => ?_
  cases n with
  | zero => rw [List.mem_singleton.1 hc]; rfl
  | succ n => rw [(List.mem_replicate.1 hc).2]; rfl

/-- **Comments are cut out alike in any case.** -/
theorem cut_lowered (r : Region) (t : Text) : cut r (lowered t) = lowered (cut r t) := by
  -- there are no letters in the marks of comments, so lower case neither makes nor removes one
  fun_induction cut r t with
  | case1 => rfl
  | case2 cs ih => exact ih
  | case3 cs ih => exact ih
  | case4 cs ih => exact ih
  | case5 c cs h1 h2 h3 ih =>
    have hslash : c.toLower = '/' → ¬ Continues (lowered cs) := by
      rw [toLower_eq_iff (by decide), Continues, head?_lowered_eq_iff (by decide), head?_lowered_eq_iff (by decide)]
      exact not_continues_of_forall h1 h3
    rw [lowered_cons, cut_cons (mt (toLower_eq_iff (by decide)).1 h2) hslash, ih, lowered_cons]
  | case6 => rfl
  | case7 cs ih => exact congrArg ('\n' :: ·) ih
  | case8 c cs h ih => rw [lowered_cons, cut_line_cons (mt (toLower_eq_iff (by decide)).1 h), ih]
  | case9 n => exact (lowered_gap n).symm
  | case10 n cs ih =>
    have hcut : cut (.block n) (lowered ('*' :: '/' :: cs)) = gap n ++ cut .phrase (lowered cs) := rfl
    rw [hcut, ih, Text.lowered_append, lowered_gap]
  | case11 n cs ih => exact ih
  | case12 n c cs h1 h2 ih =>
    have hstar : c.toLower = '*' → (lowered cs).head? ≠ some '/' := by
      rw [toLower_eq_iff (by decide), Ne, head?_lowered_eq_iff (by decide)]
      exact head?_ne_of_forall h1
    rw [lowered_cons, cut_block_cons hstar (mt (toLower_eq_iff (by decide)).1 h2), ih]

end Comment

theorem Text.withoutComments_lowered (t : Text) : (lowered t).withoutComments = lowered t.withoutComments := by
  rw [withoutComments, Comment.cut_lowered, withoutComments, lowered_append]
  rfl

/-! ## Tokens -/

namespace Lexeme

theorem startsWithSuffix_lowered (t : Text) : startsWithSuffix (lowered t) = startsWithSuffix t := by
  rw [startsWithSuffix, Text.take_lowered, Text.lowered_lowered, startsWithSuffix]

theorem number_lowered {c : Char} (hc : c.isDigit = true) (cs : Text) :
    number c.toLower (lowered cs) = number c cs := by
  have hdigit (d : Char) (hd : d.isDigit = true) : d.isAlpha = false := by
    rw [← Bool.not_eq_true]
    intro ha
    rw [isDigit_eq_false_of_isAlpha ha] at hd
    cases hd
  have hrun : (lowered cs).takeWhile Char.isDigit = cs.takeWhile Char.isDigit := by
    rw [Text.takeWhile_lowered Text.isDigit_toLower]
    exact Text.lowered_of_not_isAlpha fun d hd => hdigit d (List.all_eq_true.1 List.all_takeWhile d hd)
  rw [number, number, hrun, toLower_of_not_isAlpha (hdigit c hc), Text.drop_lowered, startsWithSuffix_lowered]

theorem word_lowered (c : Char) (cs : Text) : word c.toLower (lowered cs) = word c cs := by
  have hrun : (lowered cs).takeWhile Char.isAlpha = lowered (cs.takeWhile Char.isAlpha) :=
    Text.takeWhile_lowered isAlpha_toLower cs
  rw [word, word, hrun, ← lowered_cons, Text.lowered_lowered, Text.length_lowered]

theorem isAlpha_of_mem_opening : ∀ c ∈ opening, c.isAlpha = false := by simp [opening]

theorem read_of_not_opening {c : Char} {cs : Text} (h : ¬ opening <+: c :: cs) :
    read c cs =
      if c.isDigit then number c cs
      else if c.isAlpha then word c cs
      else if c = ',' then ⟨.ok .separator, 0⟩
      else ⟨.error (.unexpectedCharacter c), 0⟩ := by
  rw [read, if_neg (mt List.isPrefixOf_iff_prefix.1 h)]

/-- **Outside code, the same token begins at a character in any case.** -/
theorem read_lowered {c : Char} {cs : Text} (h : ¬ opening <+: c :: cs) :
    read c.toLower (lowered cs) = read c cs := by
  have hlowered : ¬ opening <+: c.toLower :: lowered cs :=
    mt (Text.prefix_lowered_iff isAlpha_of_mem_opening (c :: cs)).1 h
  rw [read_of_not_opening h, read_of_not_opening hlowered, Text.isDigit_toLower, isAlpha_toLower]
  by_cases hdigit : c.isDigit = true
  · rw [if_pos hdigit, if_pos hdigit, number_lowered hdigit]
  by_cases halpha : c.isAlpha = true
  · rw [if_neg hdigit, if_neg hdigit, if_pos halpha, if_pos halpha, word_lowered]
  · have hfixed : c.toLower = c := toLower_of_not_isAlpha (Bool.eq_false_iff.2 halpha)
    rw [if_neg hdigit, if_neg hdigit, if_neg halpha, if_neg halpha, hfixed]

end Lexeme

namespace Token

theorem stopOf_lowered (p : Position) {c : Char} {cs : Text} (h : ¬ Lexeme.opening <+: c :: cs) :
    stopOf p c.toLower (lowered cs) = stopOf p c cs := by
  rw [stopOf, Lexeme.read_lowered h, Position.next_toLower, Text.take_lowered, Position.through_lowered, stopOf]

/-- **Where nothing opens a block of code, the same tokens are scanned in any case**, or there is the same fault. -/
theorem scan_lowered (text : Text) (p : Position) (rest : Text) (h : ¬ Lexeme.opening <:+: rest) :
    scan text p (lowered rest) = scan text p rest := by
  fun_induction scan text p rest with
  | case1 p => rw [Text.lowered_nil, scan_nil]
  | case2 p c cs hc ih =>
    have hlater : ¬ Lexeme.opening <:+: cs := mt (fun h => List.infix_cons h) h
    rw [lowered_cons, scan_blank _ _ ((Text.isBlank_toLower c).trans hc), Position.next_toLower, ih hlater]
  | case3 p c cs hc lexeme stop span cause hkind =>
    have hread := mt List.IsPrefix.isInfix h
    have hkind' : (Lexeme.read c.toLower (lowered cs)).kind = .error cause := by rw [Lexeme.read_lowered hread, hkind]
    rw [lowered_cons, scan_error _ _ (by rwa [Text.isBlank_toLower]) hkind', stopOf_lowered p hread]
    rfl
  | case4 p c cs hc lexeme stop span kind hkind ih =>
    have hread := mt List.IsPrefix.isInfix h
    have hlater : ¬ Lexeme.opening <:+: cs.drop lexeme.more := fun hin =>
      h (List.infix_cons (hin.trans (List.drop_suffix lexeme.more cs).isInfix))
    have hkind' : (Lexeme.read c.toLower (lowered cs)).kind = .ok kind := by rw [Lexeme.read_lowered hread, hkind]
    rw [lowered_cons, scan_ok _ _ (by rwa [Text.isBlank_toLower]) hkind', stopOf_lowered p hread,
      Lexeme.read_lowered hread, Text.drop_lowered]
    exact congrArg (Except.map _) (ih hlater)

/-- **Texts that agree up to letter case have the same tokens**, or the same fault, unless there is a block of code. -/
theorem ofText_of_lowered_eq {s s' : Text} (h : lowered s = lowered s')
    (hcode : ¬ Lexeme.opening <:+: s.withoutComments) : ofText s' = scannedIn s'.withoutComments (ofText s) := by
  have hcut : lowered s.withoutComments = lowered s'.withoutComments := by
    rw [← Text.withoutComments_lowered, ← Text.withoutComments_lowered, h]
  have hcode' : ¬ Lexeme.opening <:+: s'.withoutComments := by
    rwa [← Text.infix_lowered_iff Lexeme.isAlpha_of_mem_opening, ← hcut,
      Text.infix_lowered_iff Lexeme.isAlpha_of_mem_opening]
  rw [ofText, scanAll, ← scan_lowered _ _ _ hcode', ← hcut, scan_lowered _ _ _ hcode, ofText, scanAll]
  exact scan_inText _ _ _ _

end Token

/-! ## Days -/

namespace Context

open Diagnostic (faultIn)

/-- **Letter case does not matter outside code.**  Two texts that agree up to letter case, and in which nothing opens a
block of code, have the same tokens at the same positions, or the same fault there, and so they have, as a line and as a
block and in every context, the same days, and the same faults at the same positions. -/
theorem letterCase_irrelevant {s s' : Text} (h : lowered s = lowered s')
    (hcode : ¬ Lexeme.opening <:+: s.withoutComments) :
    Token.ofText s' = Token.scannedIn s'.withoutComments (Token.ofText s) ∧
      ∀ (ctx : Context) (n : Nat),
        ctx.runLine n s' = (ctx.runLine n s).map (faultIn s'.withoutComments) ∧
          ctx.runBlock n s' =
            (ctx.runBlock n s).map fun x =>
              faultIn s'.withoutComments (x.map (List.map (faultIn s'.withoutComments))) := by
  have htokens := Token.ofText_of_lowered_eq h hcode
  exact ⟨htokens, fun ctx n => ⟨runLine_inText ctx n htokens, runBlock_inText ctx n htokens⟩⟩

/-- A block in two spellings, with one phrase that names a day and one that is not finished. -/
def mixed : Text × Text :=
  ("Every 2 WEEKS, may 21ST // Or Later\nDAILY, 8tH /* then */ january".toList,
    "every 2 Weeks, MAY 21st // OR later\ndaily, 8TH /* THEN */ January".toList)

theorem letterCase_irrelevant_mixed :
    lowered mixed.1 = lowered mixed.2 ∧ ¬ Lexeme.opening <:+: mixed.1.withoutComments ∧
      Token.ofText mixed.2 = Token.scannedIn mixed.2.withoutComments (Token.ofText mixed.1) ∧
      sevenDays.runLine 0 mixed.2 = (sevenDays.runLine 0 mixed.1).map (faultIn mixed.2.withoutComments) ∧
      sevenDays.runBlock 0 mixed.2 =
        (sevenDays.runBlock 0 mixed.1).map fun x =>
          faultIn mixed.2.withoutComments (x.map (List.map (faultIn mixed.2.withoutComments))) := by
  have h : lowered mixed.1 = lowered mixed.2 := by decide +kernel
  have hcode : ¬ Lexeme.opening <:+: mixed.1.withoutComments := by decide +kernel
  obtain ⟨htokens, hruns⟩ := letterCase_irrelevant h hcode
  exact ⟨h, hcode, htokens, hruns sevenDays 0⟩

example : (sevenDays.runBlock 0 mixed.1).result.toOption.map (List.map Except.toBool) = some [true, false] := by
  decide +kernel

end Context
end Recurrence
