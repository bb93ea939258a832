/-
**A memory of the last newcomers.**

The memory keeps at most a number of keys. A key that is there already keeps its time and its place, and a new one takes
the place of the oldest one where the memory is full.

* `newcomers` — the runs of a history that are remembered anew: those whose key is not among the last newcomers;
* `foldl_remember` — **the memory is the last newcomers**;
* `get_foldl_remember` — a key is there if and only if few enough newcomers came after it.
-/

import Mathlib.Tactic.Common
import Mathlib.Data.List.DropRight
import ProviderSimulator.Lib.Dict

namespace ProviderSimulator.Lib.Recent

section

variable {A : Type} {cap : ℕ}

theorem length_rtake_le (items : List A) (cap : ℕ) : (items.rtake cap).length ≤ cap := by
  unfold List.rtake
  rw [List.length_drop]
  omega

/-- The last items, with one more item and without the oldest one where there are too many. -/
theorem rtake_append_singleton (items : List A) (item : A) :
    (if cap < (items.rtake cap ++ [item]).length then (items.rtake cap ++ [item]).tail else items.rtake cap ++ [item]) =
      (items ++ [item]).rtake cap := by
  unfold List.rtake
  by_cases full : cap ≤ items.length
  · have count : cap < (items.drop (items.length - cap) ++ [item]).length := by
      simp only [List.length_append, List.length_drop, List.length_singleton]
      omega
    rw [if_pos count, List.length_append, List.length_singleton, ← List.drop_append_of_le_length (Nat.sub_le _ _),
      List.tail_drop]
    congr 1
    omega
  · have count : ¬ cap < (items.drop (items.length - cap) ++ [item]).length := by
      simp only [List.length_append, List.length_drop, List.length_singleton]
      omega
    rw [if_neg count, List.length_append, List.length_singleton, ← List.drop_append_of_le_length (Nat.sub_le _ _)]
    congr 1
    omega

end

variable {K T : Type} [DecidableEq K]

/-- One more run. -/
def remember (cap : ℕ) (memory : Dict K T) (run : K × T) : Dict K T :=
  if memory.has run.1 then memory
  else
    let written := memory.set run.1 run.2
    if cap < written.length then written.tail else written

/-- Runs of keys that are there change nothing. -/
theorem foldl_remember_of_has {cap : ℕ} {memory : Dict K T} {runs : List (K × T)}
    (there : ∀ run ∈ runs, memory.has run.1 = true) : runs.foldl (remember cap) memory = memory := by
  induction runs with
  | nil => rfl
  | cons run rest ih =>
      have same : remember cap memory run = memory := by
        unfold remember
        rw [if_pos (there run List.mem_cons_self)]
      rw [List.foldl_cons, same]
      exact ih fun other member => there other (List.mem_cons_of_mem _ member)

/-- One more run is a newcomer unless its key is among the last ones. -/
def grow (cap : ℕ) (found : List (K × T)) (run : K × T) : List (K × T) :=
  if run.1 ∈ Dict.keys (found.rtake cap) then found else found ++ [run]

/-- The newcomers of a history, the oldest first. -/
def newcomers (cap : ℕ) (history : List (K × T)) : List (K × T) := history.foldl (grow cap) []

variable {cap : ℕ} {found history : List (K × T)} {key : K} {time : T}

theorem has_iff (memory : Dict K T) (key : K) : memory.has key = true ↔ key ∈ memory.keys := by
  have absent := Dict.get_eq_none_iff memory key
  unfold Dict.has
  rw [Option.isSome_iff_ne_none, Ne, absent, not_not]

/-- **One step.** -/
theorem remember_rtake (found : List (K × T)) (run : K × T) :
    remember cap (found.rtake cap) run = (grow cap found run).rtake cap := by
  unfold remember grow
  by_cases there : run.1 ∈ Dict.keys (found.rtake cap)
  · rw [if_pos ((has_iff _ _).mpr there), if_pos there]
  · rw [if_neg fun has => there ((has_iff _ _).mp has), if_neg there, Dict.set_of_notMem there]
    exact rtake_append_singleton found run

/-- **The memory is the last newcomers.** -/
theorem foldl_remember (cap : ℕ) (history : List (K × T)) :
    history.foldl (remember cap) [] = (newcomers cap history).rtake cap := by
  induction history using List.reverseRecOn with
  | nil =>
      simp [newcomers]
  | append_singleton history run ih =>
      rw [newcomers, List.foldl_append, List.foldl_append, ih]
      exact remember_rtake _ run

theorem length_foldl_remember (cap : ℕ) (history : List (K × T)) : (history.foldl (remember cap) []).length ≤ cap := by
  rw [foldl_remember]
  exact length_rtake_le _ _

theorem nodup_remember {memory : Dict K T} (distinct : memory.keys.Nodup) (run : K × T) :
    (Dict.keys (remember cap memory run)).Nodup := by
  have written := Dict.keys_set_nodup distinct run.1 run.2
  unfold remember
  by_cases there : memory.has run.1 = true
  · rw [if_pos there]
    exact distinct
  · rw [if_neg there]
    dsimp only
    split
    · have tail : Dict.keys (List.tail (memory.set run.1 run.2)) = (memory.set run.1 run.2).keys.tail := List.map_tail
      rw [tail]
      exact written.tail
    · exact written

/-- The keys of the memory are distinct. -/
theorem nodup_foldl_remember (cap : ℕ) (history : List (K × T)) :
    (Dict.keys (history.foldl (remember cap) [])).Nodup := by
  induction history using List.reverseRecOn with
  | nil => exact List.nodup_nil
  | append_singleton history run ih =>
      rw [List.foldl_append]
      exact nodup_remember ih run

/-- A key has a newcomer if and only if it ran. -/
theorem mem_keys_newcomers (cap : ℕ) (history : List (K × T)) (key : K) :
    key ∈ Dict.keys (newcomers cap history) ↔ key ∈ Dict.keys history := by
  induction history using List.reverseRecOn with
  | nil => exact Iff.rfl
  | append_singleton history run ih =>
      have keys : ∀ items : List (K × T), key ∈ Dict.keys (items ++ [run]) ↔ key ∈ Dict.keys items ∨ key = run.1 := by
        intro items
        simp [Dict.keys]
      rw [newcomers, List.foldl_append]
      change key ∈ Dict.keys (grow cap (newcomers cap history) run) ↔ _
      rw [keys, ← ih]
      unfold grow
      by_cases there : run.1 ∈ Dict.keys ((newcomers cap history).rtake cap)
      · rw [if_pos there]
        refine ⟨.inl, fun either => either.elim id ?_⟩
        rintro rfl
        exact List.map_subset _ (List.drop_subset _ _) there
      · rw [if_neg there, keys]

/-- **A key is remembered if and only if fewer newcomers came after its last one than the memory keeps.** -/
theorem get_foldl_remember (cap : ℕ) (history : List (K × T)) (key : K) (time : T) :
    Dict.get (history.foldl (remember cap) []) key = some time ↔
      ∃ before after, newcomers cap history = before ++ (key, time) :: after ∧ key ∉ Dict.keys after ∧
        after.length < cap := by
  have distinct := nodup_foldl_remember cap history
  rw [foldl_remember] at distinct ⊢
  constructor
  · intro found
    obtain ⟨earlier, after, split⟩ := List.append_of_mem (Dict.get_mem found)
    have short := length_rtake_le (newcomers cap history) cap
    rw [split] at distinct short
    refine ⟨(newcomers cap history).take ((newcomers cap history).length - cap) ++ earlier, after, ?_, ?_, ?_⟩
    · rw [List.append_assoc, ← split, List.rtake, List.take_append_drop]
    · intro again
      simp only [Dict.keys, List.map_append, List.map_cons] at distinct again
      exact (List.nodup_cons.mp (List.nodup_append.mp distinct).2.1).1 again
    · rw [List.length_append, List.length_cons] at short
      omega
  · rintro ⟨before, after, split, -, short⟩
    refine Dict.get_of_mem distinct ?_
    have place : (newcomers cap history).length - cap ≤ before.length := by
      rw [split, List.length_append, List.length_cons]
      omega
    unfold List.rtake
    rw [split] at place ⊢
    rw [List.drop_append_of_le_length place]
    exact List.mem_append_right _ List.mem_cons_self

end ProviderSimulator.Lib.Recent
