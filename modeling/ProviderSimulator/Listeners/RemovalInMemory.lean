/-
**The removal of a field, on objects in memory.**

The body of a plan is an object that others may hold as well. `_remove_dotted` builds new objects on its way down the path
and writes into none. The path is a text: it is split at its dots, and the rest of it is joined again for the next step.

* `Container` and `Holds` — the containers in memory, and the value that one of them holds;
* `removeDotted` — the code, which gives the memory afterwards and the address of its result;
* `removeDotted_holds` — one run: the old containers are as they were, and the result is the object without the field;
* `removed_in_memory` — **the removal is exact, and the input is unchanged**.
-/

import Mathlib.Tactic.Common
import ProviderSimulator.Lib.Split
import ProviderSimulator.Listeners.DottedRemoval

namespace ProviderSimulator.Listeners.InMemory

open ProviderSimulator.Lib ProviderSimulator.Python

/-! ### Containers in memory -/

/-- What stands in a container: a value that is no container, or the address of a container. -/
inductive Slot
  | plain (value : Value)
  | address (place : ℕ)

/-- A container. -/
inductive Container
  | dict (slots : List (Key × Slot))
  | list (slots : List Slot)

/-- The containers, by address. A new one is put at the end. -/
abbrev Memory := List Container

/-- The value is no container. -/
def isPlain : Value → Bool
  | .list _ | .dict _ => false
  | _ => true

mutual

/-- What stands in the slot is the value. -/
inductive Holds (memory : Memory) : Slot → Value → Prop
  | plain {value : Value} (isValue : isPlain value = true) : Holds memory (.plain value) value
  | list {place : ℕ} {slots : List Slot} {items : List Value} (stored : memory[place]? = some (.list slots))
      (each : HoldsItems memory slots items) : Holds memory (.address place) (.list items)
  | dict {place : ℕ} {slots : List (Key × Slot)} {entries : List (Key × Value)}
      (stored : memory[place]? = some (.dict slots)) (each : HoldsEntries memory slots entries) :
      Holds memory (.address place) (.dict entries)

/-- The same for the items of a list. -/
inductive HoldsItems (memory : Memory) : List Slot → List Value → Prop
  | nil : HoldsItems memory [] []
  | cons {slot : Slot} {slots : List Slot} {item : Value} {items : List Value} (first : Holds memory slot item)
      (others : HoldsItems memory slots items) : HoldsItems memory (slot :: slots) (item :: items)

/-- The same for the members of an object. -/
inductive HoldsEntries (memory : Memory) : List (Key × Slot) → List (Key × Value) → Prop
  | nil : HoldsEntries memory [] []
  | cons {key : Key} {slot : Slot} {slots : List (Key × Slot)} {value : Value} {entries : List (Key × Value)}
      (first : Holds memory slot value) (others : HoldsEntries memory slots entries) :
      HoldsEntries memory ((key, slot) :: slots) ((key, value) :: entries)

end

/-! ### The code -/

/-- The joined rest of a path has one segment fewer. -/
theorem segments_rest {path head : String} {rest : List String} (split : path.splitOn "." = head :: rest)
    (more : rest ≠ []) : (".".intercalate rest).splitOn "." = rest := by
  refine Split.splitOn_intercalate '.' more fun part member => ?_
  have listed : part ∈ path.splitOn "." := split ▸ List.mem_cons_of_mem head member
  exact Split.notMem_of_splitOn '.' listed

/-- `_remove_dotted`, on the object at an address: the memory afterwards, and the address of the result. -/
def removeDotted (memory : Memory) (place : ℕ) (path : String) : Memory × ℕ :=
  if path = "" then (memory, place)
  else
    match segments : path.splitOn ".", memory[place]? with
    | [last], some (.dict slots) => (memory ++ [.dict (slots.filter fun slot => slot.1 ≠ .text last)], memory.length)
    | head :: second :: others, some (.dict slots) =>
        match Dict.get slots (.text head) with
        | some (.address inner) =>
            match memory[inner]? with
            | some (.dict _) =>
                let (after, replaced) := removeDotted memory inner (".".intercalate (second :: others))
                (after ++ [.dict (Dict.set slots (.text head) (.address replaced))], after.length)
            | _ => (memory, place)
        | _ => (memory, place)
    | _, _ => (memory, place)
termination_by (path.splitOn ".").length
decreasing_by
  rw [segments_rest segments (List.cons_ne_nil second others), segments]
  exact Nat.lt_succ_self _

/-! ### More memory -/

section

variable {memory after : Memory}

theorem stored_later (added : memory <+: after) {place : ℕ} {container : Container}
    (stored : memory[place]? = some container) : after[place]? = some container := by
  obtain ⟨new, rfl⟩ := added
  obtain ⟨inside, -⟩ := List.getElem?_eq_some_iff.mp stored
  rw [List.getElem?_append_left inside]
  exact stored

mutual

/-- A value that is held stays held when containers are added. -/
theorem Holds.mono (added : memory <+: after) : ∀ {slot : Slot} {value : Value}, Holds memory slot value →
    Holds after slot value
  | _, _, .plain isValue => .plain isValue
  | _, _, .list stored each => .list (stored_later added stored) (each.mono added)
  | _, _, .dict stored each => .dict (stored_later added stored) (each.mono added)

theorem HoldsItems.mono (added : memory <+: after) : ∀ {slots : List Slot} {items : List Value},
    HoldsItems memory slots items → HoldsItems after slots items
  | _, _, .nil => .nil
  | _, _, .cons first others => .cons (first.mono added) (others.mono added)

theorem HoldsEntries.mono (added : memory <+: after) : ∀ {slots : List (Key × Slot)} {entries : List (Key × Value)},
    HoldsEntries memory slots entries → HoldsEntries after slots entries
  | _, _, .nil => .nil
  | _, _, .cons first others => .cons (first.mono added) (others.mono added)

end

variable {slots : List (Key × Slot)} {entries : List (Key × Value)}

/-- A key is there in both, or in neither. -/
theorem HoldsEntries.get (held : HoldsEntries memory slots entries) (key : Key) :
    (Dict.get slots key = none ∧ Dict.get entries key = none) ∨
      ∃ slot value, Dict.get slots key = some slot ∧ Dict.get entries key = some value ∧ Holds memory slot value := by
  induction slots generalizing entries with
  | nil =>
      cases held
      exact .inl ⟨rfl, rfl⟩
  | cons item slots ih =>
      cases held with
      | @cons name slot _ value entries first others =>
          rw [Dict.get_cons, Dict.get_cons]
          by_cases same : name = key
          · rw [if_pos same, if_pos same]
            exact .inr ⟨slot, value, rfl, rfl, first⟩
          · rw [if_neg same, if_neg same]
            exact ih others

theorem HoldsEntries.pop (held : HoldsEntries memory slots entries) (key : Key) :
    HoldsEntries memory (Dict.pop slots key) (Dict.pop entries key) := by
  induction slots generalizing entries with
  | nil =>
      cases held
      exact .nil
  | cons item slots ih =>
      cases held with
      | @cons name slot _ value entries first others =>
          unfold Dict.pop
          by_cases same : name = key
          · rw [List.filter_cons_of_neg (by simpa using same), List.filter_cons_of_neg (by simpa using same)]
            exact ih others
          · rw [List.filter_cons_of_pos (by simpa using same), List.filter_cons_of_pos (by simpa using same)]
            exact .cons first (ih others)

theorem HoldsEntries.set (held : HoldsEntries memory slots entries) {slot : Slot} {value : Value}
    (new : Holds memory slot value) (key : Key) :
    HoldsEntries memory (Dict.set slots key slot) (Dict.set entries key value) := by
  induction slots generalizing entries with
  | nil =>
      cases held
      exact .cons new .nil
  | cons item slots ih =>
      cases held with
      | @cons name old _ before entries first others =>
          unfold Dict.set
          by_cases same : name = key
          · rw [if_pos same, if_pos same]
            exact .cons new others
          · rw [if_neg same, if_neg same]
            exact .cons first (ih others)

/-! ### One run -/

variable {path : String} {place : ℕ}

/-- A path with one segment is this segment. -/
theorem eq_of_segments {last : String} (split : path.splitOn "." = [last]) : path = last := by
  have joined : ".".intercalate (path.splitOn ".") = path := Split.intercalate_splitOn '.' path
  rw [split, String.intercalate_singleton] at joined
  exact joined.symm

theorem segments_empty : "".splitOn "." = [""] :=
  Split.splitOn_intercalate '.' (List.cons_ne_nil "" []) (by simp)

/-- A new object at the end of the memory. -/
theorem holds_new {slots : List (Key × Slot)} {entries : List (Key × Value)} (each : HoldsEntries memory slots entries) :
    Holds (memory ++ [.dict slots]) (.address memory.length) (.dict entries) := by
  refine .dict ?_ (each.mono (List.prefix_append _ _))
  rw [List.getElem?_append_right (Nat.le_refl _), Nat.sub_self]
  rfl

theorem removeDotted_one {last : String} (given : path ≠ "") (segments : path.splitOn "." = [last])
    (stored : memory[place]? = some (.dict slots)) :
    removeDotted memory place path = (memory ++ [.dict (Dict.pop slots (.text last))], memory.length) := by
  rw [removeDotted, if_neg given]
  split
  · next last' slots' segments' stored' =>
      rw [segments] at segments'
      rw [stored] at stored'
      cases segments'
      cases stored'
      rfl
  · next segments' _ =>
      rw [segments] at segments'
      cases segments'
  · next other _ => exact absurd stored (other last slots segments)

theorem removeDotted_more {head second : String} {others : List String} (given : path ≠ "")
    (segments : path.splitOn "." = head :: second :: others) (stored : memory[place]? = some (.dict slots)) :
    removeDotted memory place path =
      match Dict.get slots (.text head) with
      | some (.address inner) =>
          match memory[inner]? with
          | some (.dict _) =>
              let run := removeDotted memory inner (".".intercalate (second :: others))
              (run.1 ++ [.dict (Dict.set slots (.text head) (.address run.2))], run.1.length)
          | _ => (memory, place)
      | _ => (memory, place) := by
  rw [removeDotted, if_neg given]
  split
  · next segments' _ =>
      rw [segments] at segments'
      cases segments'
  · next head' second' others' slots' segments' stored' =>
      rw [segments] at segments'
      rw [stored] at stored'
      cases segments'
      cases stored'
      rfl
  · next _ other => exact absurd stored (other head second others slots segments)

/-- **One run**: the containers that were there stay as they were, and the result is the object without the field. -/
theorem removeDotted_holds {segments : List String} (split : path.splitOn "." = segments)
    (held : Holds memory (.address place) (.dict entries)) :
    memory <+: (removeDotted memory place path).1 ∧
      Holds (removeDotted memory place path).1 (.address (removeDotted memory place path).2)
        (.dict (Wire.removeDotted segments entries)) := by
  induction segments generalizing path place entries with
  | nil => exact absurd split (Split.splitOn_ne_nil '.' path)
  | cons head rest ih =>
      obtain ⟨slots, stored, each⟩ : ∃ slots, memory[place]? = some (.dict slots) ∧ HoldsEntries memory slots entries := by
        cases held with
        | dict stored each => exact ⟨_, stored, each⟩
      have unchanged : memory <+: memory ∧ Holds memory (.address place) (.dict entries) := ⟨List.prefix_rfl, held⟩
      by_cases empty : path = ""
      · subst empty
        rw [segments_empty] at split
        cases split
        rw [removeDotted, if_pos rfl]
        exact unchanged
      · cases rest with
        | nil =>
            have given : head ≠ "" := eq_of_segments split ▸ empty
            rw [removeDotted_one empty split stored, Wire.removeDotted, if_neg given]
            exact ⟨List.prefix_append _ _, holds_new (each.pop (.text head))⟩
        | cons second others =>
            rw [removeDotted_more empty split stored, Dotted.removeDotted_cons]
            rcases each.get (.text head) with ⟨slotless, valueless⟩ | ⟨slot, value, there, there', inside⟩
            · rw [slotless, valueless]
              exact unchanged
            · rw [there, there']
              cases inside with
              | plain isValue =>
                  cases value with
                  | dict inner => cases isValue
                  | _ => exact unchanged
              | list storedInner _ =>
                  dsimp only
                  rw [storedInner]
                  exact unchanged
              | @dict inner _ members storedInner eachInner =>
                  have shorter := segments_rest split (List.cons_ne_nil second others)
                  obtain ⟨added, replaced⟩ := ih shorter (.dict storedInner eachInner)
                  dsimp only
                  rw [storedInner]
                  exact ⟨added.trans (List.prefix_append _ _), holds_new ((each.mono added).set replaced (.text head))⟩

/-- **The removal is exact, and the input is unchanged**: every container that was in memory is as it was, so the input
holds the object that it held, and the result holds one that is without the field and with all else. -/
theorem removed_in_memory (named : ∀ last ∈ (path.splitOn ".").getLast?, last ≠ "")
    (held : Holds memory (.address place) (.dict entries)) :
    ∃ after result removed, removeDotted memory place path = (after, result) ∧ memory <+: after ∧
      Holds after (.address place) (.dict entries) ∧ Holds after (.address result) (.dict removed) ∧
      Dotted.Exact (path.splitOn ".") entries removed := by
  obtain ⟨added, replaced⟩ := removeDotted_holds rfl held
  have path' : Dotted.Named (path.splitOn ".") := ⟨Split.splitOn_ne_nil '.' path, named⟩
  exact ⟨_, _, _, rfl, added, held.mono added, replaced, Dotted.removeDotted_exact path' entries⟩

end

theorem segments_two : "a.b".splitOn "." = ["a", "b"] :=
  Split.splitOn_intercalate '.' (List.cons_ne_nil "a" ["b"]) (by decide)

/-- The object `a` in an object, with the field `b`, from which `a.b` goes. -/
theorem removed_in_two_objects :
    ∃ after result removed,
      removeDotted [.dict [(.text "a", .address 1)], .dict [(.text "b", .plain (.int 1))]] 0 "a.b" = (after, result) ∧
      [.dict [(.text "a", .address 1)], .dict [(.text "b", .plain (.int 1))]] <+: after ∧
      Holds after (.address 0) (.object [("a", .object [("b", .int 1)])]) ∧
      Holds after (.address result) (.dict removed) ∧
      Dotted.Exact ("a.b".splitOn ".") [(.text "a", .object [("b", .int 1)])] removed := by
  have inner : Holds [.dict [(.text "a", .address 1)], .dict [(.text "b", .plain (.int 1))]] (.address 1)
      (.object [("b", .int 1)]) := .dict rfl (.cons (.plain rfl) .nil)
  have named : ∀ last ∈ ("a.b".splitOn ".").getLast?, last ≠ "" := by
    rw [segments_two]
    intro last found
    obtain rfl : "b" = last := Option.some.inj found
    decide
  exact removed_in_memory named (.dict rfl (.cons inner .nil))

/-- The path `a` does not start with `a.b`, and its value is another one after `a.b` is removed. -/
theorem value_above_changes :
    ¬ "a.b".splitOn "." <+: ["a"] ∧
      Dotted.valueAt ["a"] (.object [("a", .object [("b", .int 1)])]) = some (.object [("b", .int 1)]) ∧
      Dotted.valueAt ["a"] (.dict (Wire.removeDotted ("a.b".splitOn ".") [(.text "a", .object [("b", .int 1)])])) =
        some (.object []) := by
  rw [segments_two]
  exact ⟨by decide, rfl, rfl⟩

end ProviderSimulator.Listeners.InMemory
