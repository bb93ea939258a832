/-
**When a chain can read an entry.**

A chain raises where it reads, compares or subtracts a value of the scenario, of the quirks or of the
request that has not the type that it expects. `Gives` says that a computation does not. This module has
what the four JSON-RPC chains share: which entries they can read (`readAs`), which stubs they know
(`KnownStub`), and the numbers that they subtract, compare and write.

* `front_gives` — the first half of a reply.
-/

import Mathlib.Tactic.Common
import ProviderSimulator.Chains.Stages

namespace ProviderSimulator.Chains

open ProviderSimulator.Lib ProviderSimulator.Python ProviderSimulator.Domain ProviderSimulator.Stubs

/-! ### Computations that give a value -/

/-- The computation does not raise. -/
def Gives {T : Type} (result : Except PyError T) : Prop := ∃ value, result = .ok value

section

variable {S T : Type} {first : Except PyError S} {next : S → Except PyError T}

theorem gives_ok (value : T) : Gives (.ok value : Except PyError T) := ⟨value, rfl⟩

theorem not_gives_error (error : PyError) : ¬ Gives (.error error : Except PyError T) := nofun

theorem gives_ok_iff {condition : Prop} (holds : condition) (value : T) :
    Gives (.ok value : Except PyError T) ↔ condition :=
  iff_of_true (gives_ok value) holds

theorem gives_error_iff {condition : Prop} (fails : ¬ condition) (error : PyError) :
    Gives (.error error : Except PyError T) ↔ condition :=
  iff_of_false (not_gives_error error) fails

theorem gives_bind : Gives (first >>= next) ↔ ∃ found, first = .ok found ∧ Gives (next found) := by
  constructor
  · rintro ⟨value, gave⟩
    obtain ⟨found, here, later⟩ := ok_of_bind gave
    exact ⟨found, here, value, later⟩
  · rintro ⟨found, rfl, value, later⟩
    exact ⟨value, later⟩

/-- A sequence whose second half always gives a value. -/
theorem gives_bind_of_forall (always : ∀ found, first = .ok found → Gives (next found)) :
    Gives (first >>= next) ↔ Gives first := by
  rw [gives_bind]
  exact ⟨fun ⟨found, here, _⟩ => ⟨found, here⟩, fun ⟨found, here⟩ => ⟨found, here, always found here⟩⟩

theorem gives_bind_pure (wrap : S → T) : (Gives do return wrap (← first)) ↔ Gives first :=
  gives_bind_of_forall fun found _ => gives_ok (wrap found)

end

/-! ### Entries -/

/-- The entry of a method: its own, or else the one of `default`, or else the empty one. -/
def entryAt (entries : List (Key × Value)) (method : Value) : Value :=
  let own := match method with
    | .str name => Dict.get entries (.text name)
    | _ => none
  if (own.getD .none).truthy then own.getD .none
  else (Dict.get entries (.text "default")).getD (.dict [])

/-- The entry that a chain reads. -/
theorem methodCfgOf_eq (entries : List (Key × Value)) {method : Value} (hashable : method.hashable = true) :
    methodCfgOf (.dict entries) method = .ok (entryAt entries method) := by
  have plain : ∀ own, orDefault (.dict entries) own = .ok (if (own.getD .none).truthy then own.getD .none
      else (Dict.get entries (.text "default")).getD (.dict [])) := by
    intro own
    unfold orDefault
    split
    · rfl
    · rfl
  cases method with
  | list items => cases hashable
  | dict items => cases hashable
  | str name => exact plain _
  | _ => exact plain none

/-- The names of the stubs that an entry asks for are known. -/
def KnownStub (stubs : Dict String Value) (cfg : List (Key × Value)) : Prop :=
  ∀ name, Dict.get cfg (.text "error_stub") = some name → ∃ text, name = .str text ∧ stubs.has text = true

/-- Does the entry ask for an error? -/
def asksError (cfg : List (Key × Value)) : Bool :=
  Dict.has cfg (.text "error_stub") || !((Dict.get cfg (.text "error")).getD .none).isNone

theorem tableItem_gives (stubs : Dict String Value) (name : Value) :
    Gives (tableItem stubs name) ↔ ∃ text, name = .str text ∧ stubs.has text = true := by
  cases name with
  | str text =>
      unfold tableItem tableGet Dict.has
      rw [ok_bind]
      cases found : stubs.get text with
      | none =>
          refine ⟨fun gave => absurd gave (not_gives_error _), ?_⟩
          rintro ⟨_, same, has⟩
          cases same
          rw [found] at has
          cases has
      | some value =>
          refine ⟨fun _ => ⟨text, rfl, ?_⟩, fun _ => gives_ok value⟩
          rw [found]
          rfl
  | _ =>
      refine ⟨fun gave => absurd gave (not_gives_error _), ?_⟩
      rintro ⟨_, same, _⟩
      cases same

/-- The error of an entry that is an object. -/
theorem overrideError_dict (stubs : Dict String Value) (cfg : List (Key × Value)) :
    Gives (overrideError stubs (.dict cfg)) ↔ KnownStub stubs cfg := by
  unfold overrideError KnownStub
  simp only [Value.contains, Value.item, Dict.has, ok_bind]
  cases Dict.get cfg (.text "error_stub") with
  | some name =>
      simp only [Option.isSome_some, if_true, ok_bind, Option.some.injEq]
      rw [tableItem_gives]
      exact ⟨fun known other same => same ▸ known, fun known => known name rfl⟩
  | none =>
      simp only [Option.isSome_none, Bool.false_eq_true, if_false]
      refine ⟨fun _ _ same => absurd same (by simp), fun _ => ?_⟩
      cases Dict.get cfg (.text "error") with
      | none => exact gives_ok _
      | some error => exact gives_ok error

/-- An object that gives an error asks for it. -/
theorem overrideError_isNone {stubs : Dict String Value} (errors : ∀ item ∈ stubs, item.2 ≠ .none)
    {cfg : List (Key × Value)} {error : Value} (gave : overrideError stubs (.dict cfg) = .ok error) :
    error.isNone = !asksError cfg := by
  unfold overrideError at gave
  unfold asksError
  simp only [Value.contains, Value.item, Dict.has, ok_bind] at gave ⊢
  cases stub : Dict.get cfg (.text "error_stub") with
  | some name =>
      simp only [stub, Option.isSome_some, if_true, ok_bind] at gave
      obtain ⟨found, get, later⟩ := ok_of_bind gave
      cases found with
      | none => cases later
      | some value =>
          cases later
          unfold tableGet at get
          split at get
          · have given := errors _ (Dict.get_mem (Except.ok.inj get))
            cases error with
            | none => exact absurd rfl given
            | _ => rfl
          · split at get
            · cases get
            · cases get
  | none =>
      simp only [stub, Option.isSome_none, Bool.false_eq_true, if_false] at gave ⊢
      cases given : Dict.get cfg (.text "error") with
      | none =>
          rw [given] at gave
          cases gave
          rfl
      | some value =>
          simp only [given, Option.isSome_some, if_true] at gave
          cases gave
          simp

/-- The object as which an entry is read. An object is read as it is, and a list or a text that holds none
of the names that are asked of it is read as the empty one. -/
def readAs (names : List String) : Value → Option (List (Key × Value))
  | .dict cfg => some cfg
  | other => if names.all fun name => (other.contains name).toOption = some false then some [] else none

/-- An entry that is no object asks for no error, if it is read at all. -/
theorem overrideError_other {stubs : Dict String Value} {entry error : Value} (other : entry.isDict = false)
    (gave : overrideError stubs entry = .ok error) : error = .none := by
  have noItem : ∀ name value, entry.item name ≠ .ok value := by
    intro name value found
    cases entry with
    | dict cfg => cases other
    | _ => cases found
  unfold overrideError at gave
  obtain ⟨stub, -, gave⟩ := ok_of_bind gave
  split at gave
  · obtain ⟨name, item, -⟩ := ok_of_bind gave
    exact absurd item (noItem _ _)
  · obtain ⟨raw, -, gave⟩ := ok_of_bind gave
    split at gave
    · exact absurd gave (noItem _ _)
    · cases gave
      rfl

/-- **The first half.** A chain reads an entry that is an object, and of the others those that `read` takes
for the empty one. -/
theorem front_gives {stubs : Dict String Value} (errors : ∀ item ∈ stubs, item.2 ≠ .none)
    {entries : List (Key × Value)} {method requestId : Value} {rest : Value → Except PyError Content}
    (read : Value → Option (List (Key × Value))) (hashable : method.hashable = true)
    (object : ∀ cfg, read (.dict cfg) = some cfg)
    (taken : ∀ entry cfg, entry.isDict = false → read entry = some cfg →
      cfg = [] ∧ overrideError stubs entry = .ok .none ∧ (Gives (rest entry) ↔ Gives (rest (.dict []))))
    (refused : ∀ entry, read entry = none → overrideError stubs entry = .ok .none → ¬ Gives (rest entry)) :
    Gives (front stubs (.dict entries) method requestId rest) ↔
      ∃ cfg, read (entryAt entries method) = some cfg ∧ KnownStub stubs cfg ∧
        (asksError cfg = true ∨ Gives (rest (.dict cfg))) := by
  unfold front
  rw [methodCfgOf_eq entries hashable, ok_bind]
  generalize entryAt entries method = entry
  cases kind : entry.isDict with
  | true =>
      cases entry with
      | dict cfg =>
          rw [object, gives_bind]
          constructor
          · rintro ⟨error, gave, later⟩
            refine ⟨cfg, rfl, (overrideError_dict stubs cfg).mp ⟨error, gave⟩, ?_⟩
            have asked := overrideError_isNone errors gave
            cases asks : asksError cfg with
            | true => exact .inl rfl
            | false =>
                rw [asked, asks] at later
                exact .inr later
          · rintro ⟨_, same, known, either⟩
            cases same
            obtain ⟨error, gave⟩ := (overrideError_dict stubs cfg).mpr known
            refine ⟨error, gave, ?_⟩
            rw [overrideError_isNone errors gave, Bool.not_not]
            rcases either with asks | later
            · rw [asks]
              exact gives_ok _
            · split
              · exact gives_ok _
              · exact later
      | _ => cases kind
  | false =>
      rw [gives_bind]
      constructor
      · rintro ⟨error, gave, later⟩
        cases overrideError_other kind gave
        cases taking : read entry with
        | none => exact absurd later (refused entry taking gave)
        | some cfg =>
            obtain ⟨rfl, -, same⟩ := taken entry cfg kind taking
            exact ⟨[], rfl, nofun, .inr (same.mp later)⟩
      · rintro ⟨cfg, taking, -, either⟩
        obtain ⟨rfl, quiet, same⟩ := taken entry cfg kind taking
        refine ⟨.none, quiet, same.mpr (either.resolve_left ?_)⟩
        decide

theorem readAs_other {names : List String} {entry : Value} (other : entry.isDict = false) :
    readAs names entry =
      if names.all fun name => (entry.contains name).toOption = some false then some [] else none := by
  cases entry with
  | dict cfg => cases other
  | _ => rfl

/-- What an entry that is no object, and that is read, holds of the names. -/
theorem readAs_taken {names : List String} {entry : Value} {cfg : List (Key × Value)}
    (other : entry.isDict = false) (taking : readAs names entry = some cfg) :
    cfg = [] ∧ ∀ name ∈ names, entry.contains name = .ok false := by
  rw [readAs_other other] at taking
  split at taking
  · next absent =>
      cases taking
      refine ⟨rfl, fun name member => ?_⟩
      have none := of_decide_eq_true (List.all_eq_true.mp absent name member)
      cases found : entry.contains name with
      | ok held =>
          rw [found] at none
          exact congrArg Except.ok (Option.some.inj none)
      | error error =>
          rw [found] at none
          cases none
  · cases taking

/-- A container can be asked for any name. -/
theorem contains_of_contains {entry : Value} {name : String} {held : Bool}
    (asked : entry.contains name = .ok held) (other : String) : Gives (entry.contains other) := by
  cases entry with
  | list items => exact gives_ok _
  | dict items => exact gives_ok _
  | str text => exact gives_ok _
  | _ => cases asked

/-- The names that a chain asks of an entry that need not be an object. -/
def entryNames : List String := ["error_stub", "error", "result"]

section

variable {stubs : Dict String Value} {entry : Value}

/-- An entry that holds none of the names asks for no error. -/
theorem overrideError_of_absent (absent : ∀ name ∈ entryNames, entry.contains name = .ok false) :
    overrideError stubs entry = .ok .none := by
  unfold overrideError
  rw [absent "error_stub" (by decide), absent "error" (by decide)]
  rfl

/-- An entry that is not read, and that asks for no error, holds a `result`. -/
theorem result_of_refused (refused : readAs entryNames entry = none)
    (quiet : overrideError stubs entry = .ok .none) :
    entry.contains "result" = .ok true ∧ entry.isDict = false := by
  have other : entry.isDict = false := by
    cases entry with
    | dict cfg => cases refused
    | _ => rfl
  refine ⟨?_, other⟩
  have noItem : ∀ name value, entry.item name ≠ .ok value := by
    intro name value found
    cases entry with
    | dict cfg => cases other
    | _ => cases found
  unfold overrideError at quiet
  obtain ⟨stub, stubHere, quiet⟩ := ok_of_bind quiet
  split at quiet
  · obtain ⟨name, item, -⟩ := ok_of_bind quiet
    exact absurd item (noItem _ _)
  · next noStub =>
      obtain ⟨raw, rawHere, quiet⟩ := ok_of_bind quiet
      split at quiet
      · exact absurd quiet (noItem _ _)
      · next noError =>
          obtain ⟨held, here⟩ := contains_of_contains stubHere "result"
          cases held with
          | true => exact here
          | false =>
              rw [Bool.not_eq_true] at noStub noError
              rw [noStub] at stubHere
              rw [noError] at rawHere
              rw [readAs_other other] at refused
              simp [entryNames, stubHere, rawHere, here, Except.toOption] at refused

end

/-! ### Numbers -/

section

variable {host : Host} {head : ℤ} {value other : Value}

/-- A whole number is subtracted from the head. -/
theorem sub_of_integer (host : Host) (head : ℤ) (whole : value.integer.isSome = true) :
    ∃ number, host.sub (.int head) value = .ok (.int number) := by
  cases value with
  | bool flag => exact ⟨_, rfl⟩
  | int number => exact ⟨_, rfl⟩
  | _ => cases whole

/-- What is left is a whole number only if a whole number was subtracted, and it is a number. -/
theorem integer_of_sub (gave : host.sub (.int head) value = .ok other) :
    other.integer.isSome = value.integer.isSome ∧ other.number.isSome = true := by
  cases value with
  | bool flag =>
      cases gave
      exact ⟨rfl, rfl⟩
  | int number =>
      cases gave
      exact ⟨rfl, rfl⟩
  | float number =>
      unfold Host.sub Host.add at gave
      obtain ⟨first, -, gave⟩ := ok_of_bind gave
      obtain ⟨second, -, gave⟩ := ok_of_bind gave
      cases gave
      exact ⟨rfl, rfl⟩
  | _ =>
      unfold Host.sub Host.add at gave
      obtain ⟨first, -, gave⟩ := ok_of_bind gave
      obtain ⟨second, never, -⟩ := ok_of_bind gave
      cases never

/-- Two numbers compare. -/
theorem less_gives : Gives (value.less other) ↔ value.number.isSome = true ∧ other.number.isSome = true := by
  unfold Value.less
  cases value.number with
  | none => exact gives_error_iff (fun both => Bool.false_ne_true both.1) _
  | some first =>
      cases other.number with
      | none => exact gives_error_iff (fun both => Bool.false_ne_true both.2) _
      | some second => exact gives_ok_iff ⟨rfl, rfl⟩ _

theorem lessEq_gives (first : value.number.isSome = true) (second : other.number.isSome = true) :
    Gives (value.lessEq other) := by
  obtain ⟨a, here⟩ := Option.isSome_iff_exists.mp first
  obtain ⟨b, there⟩ := Option.isSome_iff_exists.mp second
  unfold Value.lessEq
  rw [here, there]
  exact gives_ok _

theorem hexUpper_gives : Gives (Eth.hexUpper value) ↔ value.integer.isSome = true := by
  unfold Eth.hexUpper formatUpperHex
  cases value.integer with
  | none => exact gives_error_iff Bool.false_ne_true _
  | some number => exact gives_ok_iff rfl _

/-- A table with text keys can be asked for a key that can be hashed. -/
theorem tableGet_gives (table : Dict String Value) : Gives (tableGet table value) ↔ value.hashable = true := by
  unfold tableGet
  cases value with
  | str text => exact gives_ok_iff rfl _
  | list items => exact gives_error_iff Bool.false_ne_true _
  | dict items => exact gives_error_iff Bool.false_ne_true _
  | _ => exact gives_ok_iff rfl _

/-- The entry of a method in a table with text keys. -/
def stubOf (table : Dict String Value) : Value → Option Value
  | .str name => table.get name
  | _ => none

theorem tableGet_eq (table : Dict String Value) (hashable : value.hashable = true) :
    tableGet table value = .ok (stubOf table value) := by
  cases value with
  | list items => cases hashable
  | dict items => cases hashable
  | _ => rfl

end

end ProviderSimulator.Chains
