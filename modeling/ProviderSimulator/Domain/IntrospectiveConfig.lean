/-
**Configs by reflection.**

A config object has one value for each field, and `update` applies a partial block of them: it asks the
class for its rules first (`check`), so a block that is refused writes nothing, and then it writes field
by field (`assign`). A snapshot is the whole function from fields to values.

`Block` is a partial block of an update. Its keys are distinct, since it is a dictionary.

`Raised` is how a check ends a call: with a `ValueError`, whose refusal the caller turns into an answer,
or with an exception that nobody expects.
-/

import Mathlib.Tactic.Common
import Mathlib.Logic.Function.Basic
import ProviderSimulator.Python.Value

namespace ProviderSimulator.Domain

open ProviderSimulator.Lib ProviderSimulator.Python

/-! ### Refusals -/

/-- A `ValueError` with the refusal that it stands for, or an exception that nothing catches. -/
inductive Raised (Refusal : Type)
  | refused (refusal : Refusal)
  | raised (error : PyError)

variable {Refusal Other T : Type}

/-- Let an exception of the language through. -/
def lift : Except PyError T → Except (Raised Refusal) T
  | .ok value => .ok value
  | .error error => .error (.raised error)

/-- Raise a refusal when the flag is set. -/
def refuseIf (flag : Bool) (refusal : Refusal) : Except (Raised Refusal) Unit :=
  if flag then .error (.refused refusal) else .ok ()

/-- Give the refusals of a callee their place among those of the caller. -/
def mapRefusal (place : Refusal → Other) : Except (Raised Refusal) T → Except (Raised Other) T
  | .ok value => .ok value
  | .error (.refused refusal) => .error (.refused (place refusal))
  | .error (.raised error) => .error (.raised error)

theorem refuseIf_eq_ok {flag : Bool} {refusal : Refusal}
    (passed : refuseIf flag refusal = .ok ()) : flag = false := by
  unfold refuseIf at passed
  split at passed
  · cases passed
  · next unset => exact Bool.not_eq_true _ ▸ unset

theorem refuseIf_eq_ok_iff {flag : Bool} {refusal : Refusal} : refuseIf flag refusal = .ok () ↔ flag = false := by
  refine ⟨refuseIf_eq_ok, ?_⟩
  rintro rfl
  rfl

theorem refuseIf_bind_eq_ok {flag : Bool} {refusal : Refusal} {next : Unit → Except (Raised Refusal) T} {value : T} :
    refuseIf flag refusal >>= next = .ok value ↔ flag = false ∧ next () = .ok value := by
  cases flag with
  | false => exact ⟨fun later => ⟨rfl, later⟩, fun both => both.2⟩
  | true => exact iff_of_false nofun fun both => by cases both.1

theorem lift_eq_ok {result : Except PyError T} {value : T}
    (passed : (lift result : Except (Raised Refusal) T) = .ok value) : result = .ok value := by
  cases result with
  | ok found =>
      cases passed
      rfl
  | error error => cases passed

theorem mapRefusal_eq_ok {place : Refusal → Other} {result : Except (Raised Refusal) T} {value : T}
    (passed : mapRefusal place result = .ok value) : result = .ok value := by
  cases result with
  | ok found =>
      cases passed
      rfl
  | error error => cases error <;> cases passed

/-- A sequence of two checks that passed. -/
theorem bind_eq_ok {S : Type} {first : Except (Raised Refusal) S}
    {next : S → Except (Raised Refusal) T} {value : T} (passed : first >>= next = .ok value) :
    ∃ found, first = .ok found ∧ next found = .ok value := by
  cases first with
  | ok found => exact ⟨found, rfl, passed⟩
  | error error => cases passed

/-- The check ends in an exception that nothing catches. -/
def Escapes (result : Except (Raised Refusal) T) : Prop := ∃ error, result = .error (.raised error)

theorem not_escapes_ok (value : T) : ¬ Escapes (.ok value : Except (Raised Refusal) T) := nofun

theorem not_escapes_refused (refusal : Refusal) : ¬ Escapes (.error (.refused refusal) : Except (Raised Refusal) T) :=
  nofun

theorem not_escapes_refuseIf (flag : Bool) (refusal : Refusal) : ¬ Escapes (refuseIf flag refusal) := by
  unfold refuseIf
  split
  · exact not_escapes_refused refusal
  · exact not_escapes_ok ()

/-- A check passes, refuses or escapes. -/
theorem ok_or_refused {result : Except (Raised Refusal) T} (stays : ¬ Escapes result) :
    (∃ value, result = .ok value) ∨ ∃ refusal, result = .error (.refused refusal) := by
  cases result with
  | ok value => exact .inl ⟨value, rfl⟩
  | error raised =>
      cases raised with
      | refused refusal => exact .inr ⟨refusal, rfl⟩
      | raised error => exact absurd ⟨error, rfl⟩ stays

/-- **A sequence escapes** at its first part, or at the second one after the first passed. -/
theorem escapes_bind {S : Type} {first : Except (Raised Refusal) S} {next : S → Except (Raised Refusal) T} :
    Escapes (first >>= next) ↔ Escapes first ∨ ∃ found, first = .ok found ∧ Escapes (next found) := by
  cases first with
  | ok found =>
      refine ⟨fun later => .inr ⟨found, rfl, later⟩, ?_⟩
      rintro (⟨_, never⟩ | ⟨_, same, later⟩)
      · cases never
      · cases same
        exact later
  | error raised =>
      refine ⟨?_, ?_⟩
      · rintro ⟨error, same⟩
        cases same
        exact .inl ⟨error, rfl⟩
      · rintro (⟨error, same⟩ | ⟨_, never, _⟩)
        · cases same
          exact ⟨error, rfl⟩
        · cases never

theorem not_escapes_bind {S : Type} {first : Except (Raised Refusal) S} {next : S → Except (Raised Refusal) T}
    (begins : ¬ Escapes first) (goes : ∀ found, first = .ok found → ¬ Escapes (next found)) :
    ¬ Escapes (first >>= next) := by
  rw [escapes_bind]
  rintro (here | ⟨found, passed, later⟩)
  · exact begins here
  · exact goes found passed later

@[simp] theorem escapes_mapRefusal {place : Refusal → Other} {result : Except (Raised Refusal) T} :
    Escapes (mapRefusal place result) ↔ Escapes result := by
  cases result with
  | ok value => exact iff_of_false nofun nofun
  | error raised =>
      cases raised with
      | refused refusal => exact iff_of_false nofun nofun
      | raised error => exact iff_of_true ⟨error, rfl⟩ ⟨error, rfl⟩

/-! ### Writing a block -/

section

variable {F : Type} [DecidableEq F]

/-- `setattr` for each item of a block. -/
def assign (values : F → Value) (block : Dict F Value) : F → Value :=
  block.foldl (fun written item => Function.update written item.1 item.2) values

@[simp] theorem assign_nil (values : F → Value) : assign values [] = values := rfl

theorem assign_cons (values : F → Value) (field : F) (value : Value) (rest : Dict F Value) :
    assign values ((field, value) :: rest) = assign (Function.update values field value) rest := rfl

/-- **A field that the block does not name keeps its value.** -/
theorem assign_of_not_mem {block : Dict F Value} {field : F} (values : F → Value)
    (unnamed : field ∉ block.keys) : assign values block field = values field := by
  induction block generalizing values with
  | nil => rfl
  | cons item rest ih =>
      obtain ⟨first, value⟩ := item
      rw [Dict.keys_cons, List.mem_cons, not_or] at unnamed
      rw [assign_cons, ih _ unnamed.2, Function.update_of_ne unnamed.1]

/-- **A field that the block names gets its value.** -/
theorem assign_of_mem {block : Dict F Value} (distinct : block.keys.Nodup) {field : F}
    {value : Value} (values : F → Value) (named : (field, value) ∈ block) :
    assign values block field = value := by
  induction block generalizing values with
  | nil => cases named
  | cons item rest ih =>
      obtain ⟨first, stored⟩ := item
      rw [Dict.keys_cons, List.nodup_cons] at distinct
      rcases List.mem_cons.mp named with here | later
      · cases here
        rw [assign_cons, assign_of_not_mem _ distinct.1, Function.update_self]
      · rw [assign_cons, ih distinct.2 _ later]

/-- A field after items with distinct keys: the value that they give it, or its old one. -/
theorem assign_eq (values : F → Value) {block : Dict F Value} (distinct : block.keys.Nodup)
    (field : F) : assign values block field = (block.get field).getD (values field) := by
  cases found : block.get field with
  | none => exact assign_of_not_mem values ((Dict.get_eq_none_iff block field).mp found)
  | some value => exact assign_of_mem distinct values (Dict.get_mem found)

/-- A partial block: the fields that an update names, with their values. -/
structure Block (F : Type) [DecidableEq F] where
  items : Dict F Value
  distinct : items.keys.Nodup

namespace Block

/-- A block that names no field. -/
def empty : Block F := ⟨[], List.nodup_nil⟩

/-- `block[field] = value`. -/
def set (block : Block F) (field : F) (value : Value) : Block F :=
  ⟨block.items.set field value, Dict.keys_set_nodup block.distinct field value⟩

/-- `block.get(field)`, with null for a field that the block does not name. -/
def given (block : Block F) (field : F) : Value := (block.items.get field).getD .none

/-- `field in block`. -/
def names (block : Block F) (field : F) : Bool := block.items.has field

end Block

/-- `{**stored, **block}`. -/
def Block.over (block : Block F) (values : F → Value) : F → Value := assign values block.items

/-- **A field after a block.** -/
theorem Block.over_eq (block : Block F) (values : F → Value) (field : F) :
    block.over values field = (block.items.get field).getD (values field) :=
  assign_eq values block.distinct field

/-- What a field holds after a block is what the block gives, or the old value. -/
theorem Block.over_given (block : Block F) (values : F → Value) (field : F) :
    block.over values field = block.given field ∨ block.over values field = values field := by
  rw [over_eq, given]
  cases block.items.get field with
  | none => exact .inr rfl
  | some value => exact .inl rfl

end

end ProviderSimulator.Domain
