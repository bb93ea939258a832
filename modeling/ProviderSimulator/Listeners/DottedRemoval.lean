/-
**The removal of a field.**

`_remove_dotted` takes the value at a dotted path out of an object. A path is the list of its segments here.

* `valueAt` — the value at a path, through objects all the way;
* `valueAt_removed`, `valueAt_above`, `valueAt_beside` — what is at the path, above it and beside it;
* `removeDotted_exact` — **the removal is exact**: nothing is left at the path, an object above it is without the rest of
  the path, and all that is beside it has the value it had.
-/

import Mathlib.Tactic.Common
import Mathlib.Data.List.Infix
import ProviderSimulator.Listeners.Wire

namespace ProviderSimulator.Listeners.Dotted

open ProviderSimulator.Lib ProviderSimulator.Python
open ProviderSimulator.Listeners.Wire (removeDotted)

/-! ### Paths -/

/-- The value at a path, through objects all the way. -/
def valueAt : List String → Value → Option Value
  | [], value => some value
  | segment :: rest, .dict entries => (Dict.get entries (.text segment)).bind (valueAt rest)
  | _ :: _, _ => none

/-- The path has a last segment, and it is not empty. -/
structure Named (path : List String) : Prop where
  given : path ≠ []
  last : ∀ segment ∈ path.getLast?, segment ≠ ""

/-- An object without what is at the path. Any other value is left. -/
def without (path : List String) : Value → Value
  | .dict entries => .dict (removeDotted path entries)
  | other => other

section

variable {path rest : List String} {head : String} {entries : List (Key × Value)}

theorem Named.tail (named : Named (head :: rest)) (more : rest ≠ []) : Named rest := by
  refine ⟨more, fun segment member => named.last segment ?_⟩
  rwa [List.getLast?_cons_of_ne_nil more]

theorem valueAt_append (front back : List String) (value : Value) :
    valueAt (front ++ back) value = (valueAt front value).bind (valueAt back) := by
  induction front generalizing value with
  | nil => rfl
  | cons segment front ih =>
      cases value with
      | dict entries =>
          change (Dict.get entries _).bind (valueAt (front ++ back)) = ((Dict.get entries _).bind (valueAt front)).bind _
          rw [Option.bind_assoc]
          exact congrArg _ (funext ih)
      | _ => rfl

theorem removeDotted_cons (head second : String) (others : List String) (entries : List (Key × Value)) :
    removeDotted (head :: second :: others) entries =
      match Dict.get entries (.text head) with
      | some (.dict inner) => Dict.set entries (.text head) (.dict (removeDotted (second :: others) inner))
      | _ => entries := rfl

/-- The last segment of a path goes. -/
theorem removeDotted_last (named : Named [head]) : removeDotted [head] entries = Dict.pop entries (.text head) := by
  have given : head ≠ "" := named.last head rfl
  unfold removeDotted
  rw [if_neg given]
  rfl

/-- Above the last segment, the value of the first one is without the rest. -/
theorem get_removeDotted_head (more : rest ≠ []) :
    Dict.get (removeDotted (head :: rest) entries) (.text head) = (Dict.get entries (.text head)).map (without rest) := by
  obtain ⟨second, others, rfl⟩ := List.exists_cons_of_ne_nil more
  rw [removeDotted_cons]
  split
  · next inner found =>
      rw [Dict.get_set_self, found]
      rfl
  · next other =>
      cases found : Dict.get entries (.text head) with
      | none => rfl
      | some value =>
          cases value with
          | dict inner => exact absurd found (other inner)
          | _ => rfl

/-- The other members of the object stay. -/
theorem get_removeDotted_other (named : Named (head :: rest)) {key : Key} (other : key ≠ .text head) :
    Dict.get (removeDotted (head :: rest) entries) key = Dict.get entries key := by
  cases rest with
  | nil => rw [removeDotted_last named, Dict.get_pop, if_neg other.symm]
  | cons second others =>
      rw [removeDotted_cons]
      split
      · exact Dict.get_set_of_ne _ other.symm _
      · rfl

/-- The keys that are left keep their order. -/
theorem keys_removeDotted (path : List String) (entries : List (Key × Value)) :
    (Dict.keys (removeDotted path entries)).Sublist (Dict.keys entries) := by
  match path with
  | [] => exact List.Sublist.refl _
  | [last] =>
      rw [removeDotted]
      split
      · exact List.Sublist.refl _
      · exact List.filter_sublist.map Prod.fst
  | head :: second :: others =>
      rw [removeDotted_cons]
      split
      · next inner found =>
          have there : (Key.text head) ∈ Dict.keys entries := by
            by_contra absent
            rw [(Dict.get_eq_none_iff entries _).mpr absent] at found
            cases found
          rw [Dict.keys_set, if_pos there]
      · exact List.Sublist.refl _

/-! ### What a removal does to the paths -/

/-- Nothing is left at the path. -/
theorem valueAt_removed (named : Named path) : valueAt path (.dict (removeDotted path entries)) = none := by
  induction path generalizing entries with
  | nil => exact absurd rfl named.given
  | cons head rest ih =>
      by_cases last : rest = []
      · subst last
        change (Dict.get (removeDotted [head] entries) _).bind (valueAt []) = none
        rw [removeDotted_last named, Dict.get_pop, if_pos rfl]
        rfl
      · change (Dict.get (removeDotted (head :: rest) entries) _).bind (valueAt rest) = none
        rw [get_removeDotted_head last]
        cases found : Dict.get entries (.text head) with
        | none => rfl
        | some value =>
            change valueAt rest (without rest value) = none
            obtain ⟨second, others, split⟩ := List.exists_cons_of_ne_nil last
            cases value with
            | dict inner => exact ih (named.tail last)
            | _ =>
                rw [split]
                rfl

/-- An object above the path is without the rest of it, and any other value stays. -/
theorem valueAt_above (named : Named path) {front rest : List String} (split : path = front ++ rest) (more : rest ≠ []) :
    valueAt front (.dict (removeDotted path entries)) = (valueAt front (.dict entries)).map (without rest) := by
  subst split
  induction front generalizing entries with
  | nil => rfl
  | cons head front ih =>
      have later : front ++ rest ≠ [] := fun none => more (List.append_eq_nil_iff.mp none).2
      change (Dict.get (removeDotted (head :: (front ++ rest)) entries) _).bind (valueAt front) =
        ((Dict.get entries _).bind (valueAt front)).map _
      rw [get_removeDotted_head later]
      cases found : Dict.get entries (.text head) with
      | none => rfl
      | some value =>
          change valueAt front (without (front ++ rest) value) = (valueAt front value).map (without rest)
          cases value with
          | dict inner => exact ih (named.tail later)
          | _ => cases front <;> rfl

/-- **What is beside the path** has the value it had. -/
theorem valueAt_beside (named : Named path) {other : List String} (below : ¬ path <+: other) (above : ¬ other <+: path) :
    valueAt other (.dict (removeDotted path entries)) = valueAt other (.dict entries) := by
  induction path generalizing entries other with
  | nil => exact absurd (List.nil_prefix) below
  | cons head rest ih =>
      cases other with
      | nil => exact absurd (List.nil_prefix) above
      | cons segment others =>
          change (Dict.get (removeDotted (head :: rest) entries) _).bind (valueAt others) =
            (Dict.get entries _).bind (valueAt others)
          by_cases same : segment = head
          · subst same
            rw [List.prefix_cons_inj] at below above
            have more : rest ≠ [] := by
              rintro rfl
              exact below List.nil_prefix
            rw [get_removeDotted_head more]
            cases found : Dict.get entries (.text segment) with
            | none => rfl
            | some value =>
                change valueAt others (without rest value) = valueAt others value
                cases value with
                | dict inner => exact ih (named.tail more) below above
                | _ => rfl
          · rw [get_removeDotted_other named fun equal => same (Key.text.inj equal)]

/-- A path that is not there is not removed. -/
theorem removeDotted_absent (named : Named path) (absent : valueAt path (.dict entries) = none) :
    removeDotted path entries = entries := by
  induction path generalizing entries with
  | nil => rfl
  | cons head rest ih =>
      change (Dict.get entries _).bind (valueAt rest) = none at absent
      cases rest with
      | nil =>
          have missing : Key.text head ∉ Dict.keys entries := by
            rw [← Dict.get_eq_none_iff]
            cases found : Dict.get entries (.text head) with
            | none => rfl
            | some value =>
                rw [found] at absent
                cases absent
          rw [removeDotted_last named]
          refine List.filter_eq_self.mpr fun entry member => decide_eq_true fun same => missing ?_
          exact same ▸ List.mem_map_of_mem member
      | cons second others =>
          rw [removeDotted_cons]
          split
          · next inner found =>
              rw [found] at absent
              rw [ih (named.tail (List.cons_ne_nil second others)) absent]
              exact (Dict.set_eq_self_iff entries _ _).mpr found
          · rfl

/-- The objects that are left have no new keys, and keep the order of the others. -/
theorem keys_kept (named : Named path) {place : List String} {inner : List (Key × Value)}
    (left : valueAt place (.dict (removeDotted path entries)) = some (.dict inner)) :
    ∃ before, valueAt place (.dict entries) = some (.dict before) ∧ (Dict.keys inner).Sublist (Dict.keys before) := by
  by_cases below : path <+: place
  · obtain ⟨rest, rfl⟩ := below
    rw [valueAt_append, valueAt_removed named] at left
    cases left
  · by_cases above : place <+: path
    · obtain ⟨rest, split⟩ := above
      have more : rest ≠ [] := by
        rintro rfl
        exact below (by rw [← split, List.append_nil])
      rw [valueAt_above named split.symm more] at left
      obtain ⟨value, found, changed⟩ := Option.map_eq_some_iff.mp left
      cases value with
      | dict before =>
          cases changed
          exact ⟨before, found, keys_removeDotted rest before⟩
      | _ => cases changed
    · rw [valueAt_beside named below above] at left
      exact ⟨inner, left, List.Sublist.refl _⟩

/-- **An exact removal**: what it does to every path. -/
structure Exact (path : List String) (entries removed : List (Key × Value)) : Prop where
  absent : valueAt path (.dict removed) = none
  beside : ∀ other, ¬ path <+: other → ¬ other <+: path →
    valueAt other (.dict removed) = valueAt other (.dict entries)
  above : ∀ front rest, path = front ++ rest → rest ≠ [] →
    valueAt front (.dict removed) = (valueAt front (.dict entries)).map (without rest)
  order : ∀ place inner, valueAt place (.dict removed) = some (.dict inner) →
    ∃ before, valueAt place (.dict entries) = some (.dict before) ∧ (Dict.keys inner).Sublist (Dict.keys before)
  same : valueAt path (.dict entries) = none → removed = entries
  twice : removeDotted path removed = removed

/-- **The removal is exact.** -/
theorem removeDotted_exact (named : Named path) (entries : List (Key × Value)) :
    Exact path entries (removeDotted path entries) where
  absent := valueAt_removed named
  beside _ := valueAt_beside named
  above _ _ := valueAt_above named
  order _ _ := keys_kept named
  same := removeDotted_absent named
  twice := removeDotted_absent named (valueAt_removed named)

end

end ProviderSimulator.Listeners.Dotted
