import Recurrence.Script.Library.Bytes
import Recurrence.Script.Library.Collection
import Recurrence.Script.Library.Date
import Recurrence.Script.Library.Notation
import Recurrence.Script.Library.Pattern
import Recurrence.Script.Library.Process
import Recurrence.Script.Library.Promise
/-!
# Realms — what a script finds

The tables of the library are laid out in a store: prototypes and makers at their addresses, and functions by numbers.
-/
namespace Recurrence.Script

open Library

/-- The objects of the library and its functions by their numbers. -/
structure Realm where
  objects : Array Object
  natives : Array Native

namespace Realm

/-- A realm in which nothing stands yet. -/
def empty : Realm :=
  ⟨Array.replicate firstFreeAddress ⟨.plain, some Family.object.prototype, #[], true⟩, #[]⟩

def update (r : Realm) (address : Nat) (change : Object → Object) : Realm :=
  { r with objects := r.objects.modify address change }

def put (r : Realm) (owner : Nat) (k : Key) (f : Field) : Realm := r.update owner (·.put k f)

/-- What a function of the library is, with the number that it gets. -/
def functionObject (r : Realm) (f : Native) (making : Bool) (parent : Nat) (name : Text) (length : Nat) :
    Object × Realm :=
  (⟨.native r.natives.size making, some parent, Interpreter.describedFields length name, true⟩,
    { r with natives := r.natives.push f })

/-- Puts a function at an address. -/
def functionAt (r : Realm) (address : Nat) (f : Native) (making : Bool) (parent : Nat) (name : Text) (length : Nat) :
    Realm :=
  let (o, r) := r.functionObject f making parent name length
  r.update address fun _ => o

/-- Puts a function at the next free address. -/
def newFunction (r : Realm) (f : Native) (name : Text) (length : Nat) : Value × Realm :=
  let (o, r) := r.functionObject f false Family.function.prototype name length
  (.object r.objects.size, { r with objects := r.objects.push o })

/-- Puts a prototype and a maker in their places. -/
def withPlan (r : Realm) (p : Plan) : Realm :=
  let prototype := p.family.prototype
  let name := p.family.name.toList
  let r := match p.call with
    | some f => r.functionAt prototype f false Family.object.prototype [] 0
    | none => r.update prototype fun _ => ⟨p.kind, p.parent, #[], true⟩
  match p.maker with
  | some (length, f) =>
    let maker := p.family.maker
    ((r.functionAt maker f p.makes p.makerParent name length).put maker (Key.ofString "prototype")
      (.fixed (.object prototype))).put prototype (Key.ofString "constructor") (.unlisted (.object maker))
  | none => r

/-- Puts an entry into an object. -/
def withEntry (owner : Nat) (r : Realm) : Entry → Realm
  | .method k name length f =>
    let (v, r) := r.newFunction f name length
    r.put owner k (.unlisted v)
  | .accessor k name tell take =>
    let (getter, r) := r.newFunction tell ("get ".toList ++ name) 0
    let (setter, r) := match take with
      | some f => r.newFunction f ("set ".toList ++ name) 1
      | none => (.undefined, r)
    r.put owner k ⟨.accessor getter setter, false, true⟩
  | .content k f => r.put owner k f
  | .same k other listed =>
    match ((r.objects.getD owner .blank).stored? other) with
    | some f => r.put owner k { f with listed }
    | none => r

def withPart (r : Realm) (p : Part) : Realm := p.entries.foldl (withEntry p.owner) r

/-! ## The whole library -/

def plans : List Plan :=
  recordPlans ++ functionPlans ++ listPlans ++ numberPlans ++ faultPlans ++ walkPlans ++ promisePlans ++
    collectionPlans ++ localePlans ++ textPlans ++ patternPlans ++ datePlans ++ bytePlans ++ processPlans

def parts : List Part :=
  recordParts ++ functionParts ++ listParts ++ numberParts ++ faultParts ++ walkParts ++ promiseParts ++
    collectionParts ++ localeParts ++ textParts ++ patternParts ++ dateParts ++ notationParts ++ byteParts ++
    processParts

/-- Functions with addresses of their own. -/
def functions : List (Landmark × String × Nat × Native) :=
  [(.eval, "eval", 1, evaluate), (.keepPromise, "", 1, Run.keepPromise), (.breakPromise, "", 1, Run.breakPromise),
    (.takeSettlers, "", 2, Run.takeSettlers), (.revokeProxy, "", 0, revokeProxy), (.codedText, "toString", 0, codedText),
    (.listValues, "values", 0, listValues), (.formatDate, "", 1, formatDate), (.formatNumber, "", 1, formatNumber),
    (.compareTexts, "", 2, compareByFormat)]

/-- Families whose makers have no name that all code sees. -/
def withoutName : List Family :=
  [.generatorFunction, .asyncFunction, .asyncGeneratorFunction, .view, .dateFormat, .numberFormat, .collator,
    .pluralRules, .listFormat, .relativeFormat]

/-- Objects that all code sees under a name. -/
def landmarks : List (String × Landmark) :=
  [("globalThis", .globalObject), ("Math", .math), ("JSON", .jsonNotation), ("Reflect", .reflection),
    ("Atomics", .atomics), ("Intl", .locales), ("eval", .eval), ("console", .console), ("process", .process)]

def globalNames : List Entry :=
  ((plans.filter fun p => p.maker.isSome && !withoutName.contains p.family).map fun p =>
    content p.family.name (.object p.family.maker)) ++
  landmarks.map (fun l => content l.1 (.object l.2.address)) ++
  [shownContent "global" (.object Landmark.globalObject.address)]

/-- **What a script finds.** -/
def whole : Realm :=
  let r := plans.foldl withPlan empty
  let r := functions.foldl (fun r (l, name, length, f) =>
    r.functionAt l.address f false Family.function.prototype name.toList length) r
  let everywhere : Part := ⟨Landmark.globalObject.address, globalNames⟩
  (parts ++ [everywhere]).foldl withPart r

/-- The store at the start of a script. -/
def store : Store :=
  { objects := whole.objects
    environments := #[
      { object := some Landmark.globalObject.address, wide := true,
        activation := some ⟨some (.object Landmark.globalObject.address), .undefined, .undefined⟩ },
      { outer := some 0 }]
    symbols := (Key.knownSymbols.map fun n => some ("Symbol.".toList ++ n.toList)).toArray }

end Realm
end Recurrence.Script
