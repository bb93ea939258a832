/-
**The Python values that the simulator handles.**

`Value` is a value that `json.loads` can give: null, a Boolean, an integer of any size, a float, a
text, a list or a dictionary. The one value that JSON does not give is a dictionary with the keys
that `_normalise_responses` makes of REST overrides, the tuples `(verb, template)`, so a `Key` is a
text or a pair of scalars.

Python compares values by number and not by type: `True == 1 == 1.0`. `Value.eqInt` and
`Value.eqText` are the comparisons with the literals of the source, `Value.truthy` is the truth value
of `if value:`, and `Value.contains` is the operator `in`, which raises `TypeError` for a container
that is none.

`Value.WellFormed` says that no dictionary holds a key twice, which is so of each Python value.
-/

import Mathlib.Tactic.Common
import Mathlib.Data.Rat.Defs
import Mathlib.Algebra.Order.Ring.Rat
import ProviderSimulator.Lib.Dict

namespace ProviderSimulator.Python

open ProviderSimulator.Lib

/-- A float: a finite one is the rational number that it holds. -/
inductive PyFloat
  | nan
  | posInf
  | negInf
  | finite (value : ℚ)
  deriving DecidableEq

/-- A scalar that can be a part of a tuple key. -/
inductive Scalar
  | none
  | bool (value : Bool)
  | int (value : ℤ)
  | float (value : PyFloat)
  | str (value : String)
  deriving DecidableEq

/-- A dictionary key: a text, or the pair `(verb, template)` of a REST override. -/
inductive Key
  | text (name : String)
  | pair (verb template : Scalar)
  deriving DecidableEq

/-- A value of a request body, of a scenario field or of a reply body. -/
inductive Value
  | none
  | bool (value : Bool)
  | int (value : ℤ)
  | float (value : PyFloat)
  | str (value : String)
  | list (items : List Value)
  | dict (entries : List (Key × Value))

/-- The exceptions that Python raises on its own in the modelled code. -/
inductive PyError
  | typeError
  | valueError
  | keyError
  | indexError
  | attributeError
  | overflowError
  | recursionError
  deriving DecidableEq

/-- A sequence of two steps that gave a value. -/
theorem ok_of_bind {E S T : Type} {first : Except E S} {next : S → Except E T} {value : T}
    (gave : first >>= next = .ok value) : ∃ found, first = .ok found ∧ next found = .ok value := by
  cases first with
  | ok found => exact ⟨found, rfl, gave⟩
  | error error => cases gave

/-- A sequence whose first step gave a value. -/
theorem ok_bind {E S T : Type} (value : S) (next : S → Except E T) :
    (Except.ok value : Except E S) >>= next = next value := rfl

/-- A sequence of two steps that failed. -/
theorem error_of_bind {E S T : Type} {first : Except E S} {next : S → Except E T} {error : E}
    (failed : first >>= next = .error error) :
    first = .error error ∨ ∃ found, first = .ok found ∧ next found = .error error := by
  cases first with
  | ok found => exact .inr ⟨found, rfl, failed⟩
  | error other =>
      cases failed
      exact .inl rfl

theorem ok_of_bind_iff {E S T : Type} {first : Except E S} {next : S → Except E T} {value : T} :
    first >>= next = .ok value ↔ ∃ found, first = .ok found ∧ next found = .ok value := by
  refine ⟨ok_of_bind, ?_⟩
  rintro ⟨found, rfl, gave⟩
  exact gave

namespace Value

instance : Inhabited Value := ⟨.none⟩

/-! ### Equality of values -/

mutual

/-- Are the two values the same, types included? -/
def same : Value → Value → Bool
  | .none, .none => true
  | .bool a, .bool b => a = b
  | .int a, .int b => a = b
  | .float a, .float b => a = b
  | .str a, .str b => a = b
  | .list a, .list b => sameItems a b
  | .dict a, .dict b => sameEntries a b
  | _, _ => false

/-- The same items, one by one. -/
def sameItems : List Value → List Value → Bool
  | [], [] => true
  | a :: restA, b :: restB => same a b && sameItems restA restB
  | _, _ => false

/-- The same keys and values, one by one. -/
def sameEntries : List (Key × Value) → List (Key × Value) → Bool
  | [], [] => true
  | (keyA, a) :: restA, (keyB, b) :: restB => keyA = keyB && same a b && sameEntries restA restB
  | _, _ => false

end

mutual

theorem same_iff : ∀ a b : Value, same a b = true ↔ a = b
  | .none, b => by cases b <;> simp [same]
  | .bool _, b => by cases b <;> simp [same]
  | .int _, b => by cases b <;> simp [same]
  | .float _, b => by cases b <;> simp [same]
  | .str _, b => by cases b <;> simp [same]
  | .list items, b => by cases b <;> simp [same, sameItems_iff items]
  | .dict entries, b => by cases b <;> simp [same, sameEntries_iff entries]

theorem sameItems_iff : ∀ a b : List Value, sameItems a b = true ↔ a = b
  | [], b => by cases b <;> simp [sameItems]
  | item :: rest, b => by cases b <;> simp [sameItems, same_iff item, sameItems_iff rest]

theorem sameEntries_iff : ∀ a b : List (Key × Value), sameEntries a b = true ↔ a = b
  | [], b => by cases b <;> simp [sameEntries]
  | (key, value) :: rest, b => by
      cases b with
      | nil => simp [sameEntries]
      | cons other rest' =>
          obtain ⟨key', value'⟩ := other
          simp [sameEntries, same_iff value, sameEntries_iff rest, Prod.ext_iff]

end

instance : DecidableEq Value := fun a b => decidable_of_iff (same a b = true) (same_iff a b)

/-! ### Dictionaries with text keys -/

/-- A JSON object with these members. -/
def object (members : List (String × Value)) : Value :=
  .dict (members.map fun member => (.text member.1, member.2))

mutual

/-- No dictionary of the value holds a key twice. -/
def WellFormed : Value → Prop
  | .list items => WellFormedItems items
  | .dict entries => (Dict.keys entries).Nodup ∧ WellFormedEntries entries
  | _ => True

/-- The items of a list. -/
def WellFormedItems : List Value → Prop
  | [] => True
  | item :: rest => WellFormed item ∧ WellFormedItems rest

/-- The values of a dictionary. -/
def WellFormedEntries : List (Key × Value) → Prop
  | [] => True
  | (_, value) :: rest => WellFormed value ∧ WellFormedEntries rest

end

/-- The value under a key of a well-formed dictionary is well formed. -/
theorem WellFormedEntries.mem {entries : List (Key × Value)} (formed : WellFormedEntries entries)
    {key : Key} {value : Value} (member : (key, value) ∈ entries) : value.WellFormed := by
  induction entries with
  | nil => cases member
  | cons item rest ih =>
      obtain ⟨first, stored⟩ := item
      rcases List.mem_cons.mp member with here | later
      · cases here
        exact formed.1
      · exact ih formed.2 later

/-! ### The operators of the language -/

/-- `isinstance(value, dict)`. -/
def isDict : Value → Bool
  | .dict _ => true
  | _ => false

/-- `isinstance(value, list)`: JSON gives no tuple. -/
def isList : Value → Bool
  | .list _ => true
  | _ => false

/-- `isinstance(value, str)`. -/
def isStr : Value → Bool
  | .str _ => true
  | _ => false

/-- The integer of a value that is an `int` and no `bool`. -/
def asInt : Value → Option ℤ
  | .int value => some value
  | _ => Option.none

/-- `value is None`. -/
def isNone : Value → Bool
  | .none => true
  | _ => false

/-- `value == text`. -/
def eqText (value : Value) (text : String) : Bool :=
  match value with
  | .str other => other = text
  | _ => false

/-- `value == number`, for an integer literal. A Boolean and a float compare by their number. -/
def eqInt (value : Value) (number : ℤ) : Bool :=
  match value with
  | .bool flag => (if flag then 1 else 0) = number
  | .int other => other = number
  | .float (.finite other) => other = number
  | _ => false

/-- The truth value of `if value:`. -/
def truthy : Value → Bool
  | .none => false
  | .bool value => value
  | .int value => value ≠ 0
  | .float (.finite value) => value ≠ 0
  | .float _ => true
  | .str value => value ≠ ""
  | .list items => !items.isEmpty
  | .dict entries => !entries.isEmpty

/-- `number < value`. A Boolean compares by its number, and no text, list, dictionary or null has an
order with a number. -/
def exceeds (value : Value) (number : ℚ) : Except PyError Bool :=
  match value with
  | .bool flag => .ok (decide (number < if flag then 1 else 0))
  | .int other => .ok (decide (number < other))
  | .float (.finite other) => .ok (decide (number < other))
  | .float .posInf => .ok true
  | .float _ => .ok false
  | _ => .error .typeError

/-- `value < number`. -/
def lessThan (value : Value) (number : ℚ) : Except PyError Bool :=
  match value with
  | .bool flag => .ok (decide ((if flag then 1 else 0) < number))
  | .int other => .ok (decide ((other : ℚ) < number))
  | .float (.finite other) => .ok (decide (other < number))
  | .float .negInf => .ok true
  | .float _ => .ok false
  | _ => .error .typeError

/-- `type(value).__name__`. -/
def typeName : Value → String
  | .none => "NoneType"
  | .bool _ => "bool"
  | .int _ => "int"
  | .float _ => "float"
  | .str _ => "str"
  | .list _ => "list"
  | .dict _ => "dict"

/-- Can the value be a dictionary key or a member of a set? -/
def hashable : Value → Bool
  | .list _ => false
  | .dict _ => false
  | _ => true

/-- A hashable value as a part of a tuple key. -/
def asScalar : Value → Option Scalar
  | .none => some .none
  | .bool value => some (.bool value)
  | .int value => some (.int value)
  | .float value => some (.float value)
  | .str value => some (.str value)
  | .list _ => Option.none
  | .dict _ => Option.none

/-- Is the text a part of the other one? -/
def isSubtext (part whole : String) : Bool :=
  whole.toList.tails.any fun tail => part.toList.isPrefixOf tail

/-- `text in container`. -/
def contains (container : Value) (text : String) : Except PyError Bool :=
  match container with
  | .list items => .ok (items.any fun item => item.eqText text)
  | .dict entries => .ok (Dict.has entries (.text text))
  | .str whole => .ok (isSubtext text whole)
  | _ => .error .typeError

/-- `number in container`. -/
def containsInt (container : Value) (number : ℤ) : Except PyError Bool :=
  match container with
  | .list items => .ok (items.any fun item => item.eqInt number)
  | .dict _ => .ok false
  | _ => .error .typeError

/-- A key as the value that a loop over a dictionary gives. -/
def ofKey : Key → Value
  | .text name => .str name
  | .pair verb template => .list [ofScalar verb, ofScalar template]
where
  /-- A part of a tuple key. -/
  ofScalar : Scalar → Value
    | .none => .none
    | .bool value => .bool value
    | .int value => .int value
    | .float value => .float value
    | .str value => .str value

/-- The items of `for item in value`. -/
def iterate : Value → Except PyError (List Value)
  | .list items => .ok items
  | .dict entries => .ok (entries.map fun entry => ofKey entry.1)
  | .str text => .ok (text.toList.map fun char => .str (String.singleton char))
  | _ => .error .typeError

/-- The members of a JSON object: each key of one is a text. -/
def members (entries : List (Key × Value)) : List (String × Value) :=
  entries.filterMap fun entry =>
    match entry.1 with
    | .text name => some (name, entry.2)
    | .pair _ _ => Option.none

/-- `container.get(name)`: only a dictionary has the method. -/
def get (container : Value) (name : String) : Except PyError (Option Value) :=
  match container with
  | .dict entries => .ok (Dict.get entries (.text name))
  | _ => .error .attributeError

/-- `entries.get(key)` for any value as the key. A list and a dictionary are no keys, and a value
that is not a text is a key of no JSON object. -/
def lookup (entries : List (Key × Value)) (key : Value) : Except PyError (Option Value) :=
  match key with
  | .str name => .ok (Dict.get entries (.text name))
  | other => if other.hashable then .ok Option.none else .error .typeError

@[simp] theorem eqText_str (text other : String) : eqText (.str other) text = decide (other = text) :=
  rfl

theorem members_names_nodup {entries : List (Key × Value)} (distinct : (Dict.keys entries).Nodup) :
    ((members entries).map Prod.fst).Nodup := by
  induction entries with
  | nil => exact List.nodup_nil
  | cons entry rest ih =>
      obtain ⟨key, value⟩ := entry
      rw [Dict.keys_cons, List.nodup_cons] at distinct
      have later := ih distinct.2
      cases key with
      | pair verb template => exact later
      | text name =>
          refine List.nodup_cons.mpr ⟨fun member => distinct.1 ?_, later⟩
          obtain ⟨⟨other, found⟩, inMembers, rfl⟩ := List.mem_map.mp member
          obtain ⟨⟨key, stored⟩, inRest, same⟩ := List.mem_filterMap.mp inMembers
          cases key with
          | text there =>
              cases same
              exact List.mem_map.mpr ⟨_, inRest, rfl⟩
          | pair verb template => cases same

theorem mem_members {entries : List (Key × Value)} {name : String} {value : Value} :
    (name, value) ∈ members entries ↔ (.text name, value) ∈ entries := by
  unfold members
  rw [List.mem_filterMap]
  constructor
  · rintro ⟨⟨key, stored⟩, member, same⟩
    cases key with
    | text there =>
        cases same
        exact member
    | pair verb template => cases same
  · intro member
    exact ⟨_, member, rfl⟩

theorem isNone_iff (value : Value) : value.isNone = true ↔ value = .none := by
  cases value <;> simp [isNone]

theorem eqText_iff (value : Value) (text : String) : value.eqText text = true ↔ value = .str text := by
  cases value <;> simp [eqText]

end Value

end ProviderSimulator.Python
