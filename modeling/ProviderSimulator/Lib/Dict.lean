/-
**Insertion-ordered dictionaries.**

`Dict K V` is the list of the items of a dictionary, in the order in which their keys were first
written. `Dict.set` replaces the value of a key in place and puts a new key at the end, `Dict.pop`
drops a key, and `Dict.get` reads one. The laws below are the ones of finite maps:

* `get_set`, `get_pop` — reading after a write and after a removal;
* `keys_set_nodup`, `keys_pop_nodup` — the two operations keep the keys distinct;
* `Tallies` — the counters that a dictionary holds, and how `bump` and `lower` move them and their
  sum (`Tallies.bump`, `Tallies.lower`, `total_bump`, `total_lower`).
-/

import Mathlib.Tactic.Common
import Mathlib.Algebra.GroupWithZero.Nat
import Mathlib.Data.List.Basic
import Mathlib.Algebra.BigOperators.Group.List.Basic

set_option linter.unusedSectionVars false

namespace ProviderSimulator.Lib

/-- The items of a dictionary, in insertion order. -/
abbrev Dict (K V : Type) := List (K × V)

namespace Dict

variable {K V : Type} [DecidableEq K]

/-- The value stored under a key. -/
def get : Dict K V → K → Option V
  | [], _ => none
  | (key, value) :: rest, wanted => if key = wanted then some value else get rest wanted

/-- Write a key: in place when it is there, at the end when it is new. -/
def set : Dict K V → K → V → Dict K V
  | [], wanted, new => [(wanted, new)]
  | (key, value) :: rest, wanted, new =>
      if key = wanted then (key, new) :: rest else (key, value) :: set rest wanted new

/-- Drop a key. -/
def pop (dict : Dict K V) (wanted : K) : Dict K V :=
  dict.filter fun item => item.1 ≠ wanted

/-- The keys, in insertion order. -/
def keys (dict : Dict K V) : List K := dict.map Prod.fst

@[simp] theorem keys_nil : keys ([] : Dict K V) = [] := rfl

@[simp] theorem keys_cons (key : K) (value : V) (rest : Dict K V) :
    keys ((key, value) :: rest) = key :: keys rest := rfl

/-- Is the key there? -/
def has (dict : Dict K V) (wanted : K) : Bool := (dict.get wanted).isSome

/-- Write every item of the second dictionary over the first. -/
def update (dict other : Dict K V) : Dict K V :=
  other.foldl (fun written item => written.set item.1 item.2) dict

@[simp] theorem get_nil (wanted : K) : get ([] : Dict K V) wanted = none := rfl

theorem get_cons (key wanted : K) (value : V) (rest : Dict K V) :
    get ((key, value) :: rest) wanted = if key = wanted then some value else get rest wanted := rfl

/-- **Reading after a write.** -/
theorem get_set (dict : Dict K V) (wanted key : K) (new : V) :
    (dict.set wanted new).get key = if wanted = key then some new else dict.get key := by
  induction dict with
  | nil => simp [set, get_cons]
  | cons item rest ih =>
      obtain ⟨first, value⟩ := item
      by_cases same : first = wanted
      · subst same
        simp only [set, if_true, get_cons]
        split <;> rfl
      · simp only [set, if_neg same, get_cons, ih]
        by_cases here : first = key
        · subst here
          simp [Ne.symm same]
        · simp [here]

@[simp] theorem get_set_self (dict : Dict K V) (key : K) (new : V) :
    (dict.set key new).get key = some new := by
  rw [get_set, if_pos rfl]

theorem get_set_of_ne (dict : Dict K V) {wanted key : K} (other : wanted ≠ key) (new : V) :
    (dict.set wanted new).get key = dict.get key := by
  rw [get_set, if_neg other]

/-- A new key comes last. -/
theorem set_of_notMem {dict : Dict K V} {key : K} (absent : key ∉ dict.keys) (new : V) :
    dict.set key new = dict ++ [(key, new)] := by
  induction dict with
  | nil => rfl
  | cons entry rest ih =>
      obtain ⟨first, value⟩ := entry
      rw [keys_cons, List.mem_cons, not_or] at absent
      rw [set, if_neg (Ne.symm absent.1), ih absent.2]
      rfl

/-- Items with new keys come last, in their order. -/
theorem update_eq_append {dict other : Dict K V} (distinct : (dict.keys ++ other.keys).Nodup) :
    dict.update other = dict ++ other := by
  induction other generalizing dict with
  | nil => exact (List.append_nil dict).symm
  | cons entry rest ih =>
      obtain ⟨key, value⟩ := entry
      have absent : key ∉ dict.keys := by
        intro member
        exact (List.nodup_append.mp distinct).2.2 key member key List.mem_cons_self rfl
      have moved : (keys (dict ++ [(key, value)]) ++ keys rest).Nodup := by
        unfold keys at distinct ⊢
        rw [List.map_append, List.append_assoc]
        exact distinct
      change (dict.set key value).update rest = _
      rw [set_of_notMem absent, ih moved, List.append_assoc]
      rfl

/-- A write of what is there already changes nothing. -/
theorem set_eq_self_iff (dict : Dict K V) (key : K) (new : V) :
    dict.set key new = dict ↔ dict.get key = some new := by
  constructor
  · intro same
    rw [← same]
    exact get_set_self dict key new
  · induction dict with
    | nil => nofun
    | cons item rest ih =>
        obtain ⟨first, value⟩ := item
        intro found
        rw [get_cons] at found
        unfold set
        split at found
        · next same =>
            rw [if_pos same, Option.some.inj found]
        · next other =>
            rw [if_neg other, ih found]

/-- **Reading after a removal.** -/
theorem get_pop (dict : Dict K V) (wanted key : K) :
    (dict.pop wanted).get key = if wanted = key then none else dict.get key := by
  induction dict with
  | nil => simp [pop]
  | cons item rest ih =>
      obtain ⟨first, value⟩ := item
      simp only [pop] at ih ⊢
      by_cases same : first = wanted
      · subst same
        rw [List.filter_cons_of_neg (by simp), ih, get_cons]
        split <;> rfl
      · rw [List.filter_cons_of_pos (by simpa using same), get_cons, get_cons, ih]
        by_cases here : first = key
        · subst here
          simp [Ne.symm same]
        · simp [here]

theorem get_eq_none_iff (dict : Dict K V) (key : K) : dict.get key = none ↔ key ∉ dict.keys := by
  induction dict with
  | nil => simp
  | cons item rest ih =>
      obtain ⟨first, value⟩ := item
      by_cases here : first = key
      · simp [get_cons, here]
      · simp [get_cons, here, ih, Ne.symm here]

theorem get_mem {dict : Dict K V} {key : K} {value : V} (found : dict.get key = some value) :
    (key, value) ∈ dict := by
  induction dict with
  | nil => cases found
  | cons item rest ih =>
      obtain ⟨first, stored⟩ := item
      rw [get_cons] at found
      split at found
      · next here =>
          cases found
          subst here
          exact List.mem_cons_self
      · exact List.mem_cons_of_mem _ (ih found)

theorem get_of_mem {dict : Dict K V} (distinct : dict.keys.Nodup) {key : K} {value : V}
    (member : (key, value) ∈ dict) : dict.get key = some value := by
  induction dict with
  | nil => cases member
  | cons item rest ih =>
      obtain ⟨first, stored⟩ := item
      rw [keys_cons, List.nodup_cons] at distinct
      rcases List.mem_cons.mp member with here | later
      · cases here
        rw [get_cons, if_pos rfl]
      · have other : first ≠ key := by
          rintro rfl
          exact distinct.1 (List.mem_map.mpr ⟨_, later, rfl⟩)
        rw [get_cons, if_neg other]
        exact ih distinct.2 later

/-! ### Distinct keys -/

theorem keys_set (dict : Dict K V) (wanted : K) (new : V) :
    (dict.set wanted new).keys = if wanted ∈ dict.keys then dict.keys else dict.keys ++ [wanted] := by
  induction dict with
  | nil => simp [set]
  | cons item rest ih =>
      obtain ⟨first, value⟩ := item
      by_cases same : first = wanted
      · simp [set, same]
      · by_cases later : wanted ∈ keys rest
        · simp [set, same, ih, later]
        · simp [set, same, ih, later, Ne.symm same]

theorem keys_set_nodup {dict : Dict K V} (distinct : dict.keys.Nodup) (wanted : K) (new : V) :
    (dict.set wanted new).keys.Nodup := by
  rw [keys_set]
  split
  · exact distinct
  · next fresh =>
      refine List.nodup_append.mpr ⟨distinct, by simp, ?_⟩
      rintro key member other single rfl
      exact fresh (List.mem_singleton.mp single ▸ member)

theorem keys_pop_nodup {dict : Dict K V} (distinct : dict.keys.Nodup) (wanted : K) :
    (dict.pop wanted).keys.Nodup :=
  distinct.sublist (List.filter_sublist.map Prod.fst)

/-! ### Dictionaries of counters -/

/-- The sum of all counts. -/
def total (counts : Dict K Nat) : Nat := (counts.map Prod.snd).sum

/-- The count of a key, 0 when it is not there. -/
def count (counts : Dict K Nat) (key : K) : Nat := (counts.get key).getD 0

theorem total_cons (key : K) (value : Nat) (rest : Dict K Nat) :
    total ((key, value) :: rest) = value + total rest := by
  simp [total]

/-- A write moves the sum by the difference of the two counts. -/
theorem total_set (counts : Dict K Nat) (key : K) (new : Nat) :
    (counts.set key new).total + counts.count key = counts.total + new := by
  induction counts with
  | nil => simp [set, total, count]
  | cons item rest ih =>
      obtain ⟨first, value⟩ := item
      by_cases same : first = key
      · simp only [set, if_pos same, total_cons, count, get_cons, Option.getD_some]
        omega
      · simp only [set, if_neg same, total_cons, count, get_cons] at ih ⊢
        omega

/-- A removal takes the count of the key off the sum. -/
theorem total_pop {counts : Dict K Nat} (distinct : counts.keys.Nodup) (key : K) :
    (counts.pop key).total + counts.count key = counts.total := by
  induction counts with
  | nil => simp [pop, total, count]
  | cons item rest ih =>
      obtain ⟨first, value⟩ := item
      rw [keys_cons, List.nodup_cons] at distinct
      by_cases same : first = key
      · subst same
        have absent : pop rest first = rest := by
          refine List.filter_eq_self.mpr fun item member => ?_
          have other : item.1 ≠ first := fun equal =>
            distinct.1 (List.mem_map.mpr ⟨item, member, equal⟩)
          simpa using other
        have dropped : pop ((first, value) :: rest) first = rest := by
          rw [pop, List.filter_cons_of_neg (by simp)]
          exact absent
        rw [dropped, total_cons, count, get_cons, if_pos rfl, Option.getD_some, Nat.add_comm]
      · have kept : pop ((first, value) :: rest) key = (first, value) :: pop rest key := by
          rw [pop, List.filter_cons_of_pos (by simpa using same)]
          rfl
        have rest_total := ih distinct.2
        rw [kept, total_cons, total_cons]
        simp only [count, get_cons, if_neg same] at rest_total ⊢
        omega

/-- Count one more of a key. -/
def bump (counts : Dict K Nat) (key : K) : Dict K Nat := counts.set key (counts.count key + 1)

/-- Count one less of a key, and drop the key with its last count. -/
def lower (counts : Dict K Nat) (key : K) : Dict K Nat :=
  if counts.count key - 1 > 0 then counts.set key (counts.count key - 1) else counts.pop key

/-- The dictionary holds the counts `tally`, and only the positive ones. -/
structure Tallies (counts : Dict K Nat) (tally : K → Nat) : Prop where
  distinct : counts.keys.Nodup
  get_eq : ∀ key, counts.get key = if tally key = 0 then none else some (tally key)

namespace Tallies

variable {counts : Dict K Nat} {tally : K → Nat}

theorem count_eq (tallies : Tallies counts tally) (key : K) : counts.count key = tally key := by
  rw [count, tallies.get_eq]
  split
  · next zero => exact zero.symm
  · rfl

theorem nil : Tallies ([] : Dict K Nat) fun _ => 0 := ⟨List.nodup_nil, fun _ => rfl⟩

/-- **Counting one more of a key.** -/
theorem bump (tallies : Tallies counts tally) (key : K) :
    Tallies (counts.bump key) (Function.update tally key (tally key + 1)) := by
  refine ⟨keys_set_nodup tallies.distinct _ _, fun other => ?_⟩
  rw [Dict.bump, get_set, tallies.count_eq]
  by_cases same : key = other
  · subst same
    simp
  · rw [if_neg same, Function.update_of_ne (Ne.symm same)]
    exact tallies.get_eq other

/-- **Counting one less of a key.** -/
theorem lower (tallies : Tallies counts tally) (key : K) :
    Tallies (counts.lower key) (Function.update tally key (tally key - 1)) := by
  rw [Dict.lower, tallies.count_eq]
  by_cases more : tally key - 1 > 0
  · rw [if_pos more]
    refine ⟨keys_set_nodup tallies.distinct _ _, fun other => ?_⟩
    rw [get_set]
    by_cases same : key = other
    · subst same
      rw [if_pos rfl, Function.update_self, if_neg (by omega)]
    · rw [if_neg same, Function.update_of_ne (Ne.symm same)]
      exact tallies.get_eq other
  · rw [if_neg more]
    refine ⟨keys_pop_nodup tallies.distinct _, fun other => ?_⟩
    rw [get_pop]
    by_cases same : key = other
    · subst same
      rw [if_pos rfl, Function.update_self, if_pos (by omega)]
    · rw [if_neg same, Function.update_of_ne (Ne.symm same)]
      exact tallies.get_eq other

end Tallies

theorem total_bump (counts : Dict K Nat) (key : K) : (counts.bump key).total = counts.total + 1 := by
  have moved := total_set counts key (counts.count key + 1)
  rw [bump]
  omega

theorem total_lower {counts : Dict K Nat} (distinct : counts.keys.Nodup) {key : K}
    (positive : 0 < counts.count key) : (counts.lower key).total + 1 = counts.total := by
  rw [lower]
  split
  · have moved := total_set counts key (counts.count key - 1)
    omega
  · have moved := total_pop distinct key
    omega

end Dict

end ProviderSimulator.Lib
