/-
**Threads in a list.**

A system with any number of threads keeps their local states in a list; a thread is its position, and
a step of one thread writes over one item. These are the facts about such a write that invariants
over all threads need:

* `countP_set_int` — how the number of threads in a kind of place moves;
* `forall_set` and `forall_append` — what every thread keeps;
* `positions` — the threads of a kind, and how many they are.

Where the threads are named by a type instead, their local states are a function, and
`forall_update` says the same of it.
-/

import Mathlib.Tactic.Common
import Mathlib.Algebra.Order.Ring.Int
import Mathlib.Data.List.Induction
import Mathlib.Logic.Function.Basic

namespace ProviderSimulator.Lib

variable {T : Type} {threads : List T} {id : ℕ} {old : T}

/-- 1 for true and 0 for false. -/
def indicator (flag : Bool) : ℤ := if flag then 1 else 0

/-- A step of one thread moves the number of threads in a kind of place by its own two places. -/
theorem countP_set_int (kind : T → Bool) (new : T) (here : threads[id]? = some old) :
    ((threads.set id new).countP kind : ℤ) =
      threads.countP kind - indicator (kind old) + indicator (kind new) := by
  obtain ⟨bound, value⟩ := List.getElem?_eq_some_iff.mp here
  have counted : (if kind old = true then 1 else 0) ≤ threads.countP kind := by
    rw [← value]
    exact List.boole_getElem_le_countP bound
  rw [List.countP_set bound, value]
  unfold indicator
  generalize kind old = was at counted ⊢
  generalize kind new = is
  cases was <;> cases is <;> simp only [Bool.false_eq_true, if_true, if_false] at counted ⊢ <;> omega

/-- The same between natural numbers: what the old place adds before the step, the new one adds after it. -/
theorem countP_set_add (kind : T → Bool) (new : T) (here : threads[id]? = some old) :
    (threads.set id new).countP kind + (kind old).toNat = threads.countP kind + (kind new).toNat := by
  have moved := countP_set_int kind new here
  unfold indicator at moved
  generalize kind old = was at moved ⊢
  generalize kind new = is at moved ⊢
  cases was <;> cases is <;> simp only [Bool.false_eq_true, if_true, if_false, Bool.toNat_true, Bool.toNat_false] at moved ⊢ <;> omega

/-- What every thread satisfies before a step, and the moved thread after it. -/
theorem forall_set {Holds : ℕ → T → Prop} {new : T}
    (others : ∀ other thread, threads[other]? = some thread → other ≠ id → Holds other thread)
    (moved : Holds id new) :
    ∀ other thread, (threads.set id new)[other]? = some thread → Holds other thread := by
  intro other thread found
  by_cases same : id = other
  · subst same
    obtain ⟨bound, value⟩ := List.getElem?_eq_some_iff.mp found
    rw [List.getElem_set_self] at value
    exact value ▸ moved
  · rw [List.getElem?_set_ne same] at found
    exact others other thread found (Ne.symm same)

/-- What every thread satisfies, a new one included. -/
theorem forall_append {Holds : ℕ → T → Prop} {new : T}
    (others : ∀ other thread, threads[other]? = some thread → Holds other thread)
    (started : Holds threads.length new) :
    ∀ other thread, (threads ++ [new])[other]? = some thread → Holds other thread := by
  intro other thread found
  rcases Nat.lt_trichotomy other threads.length with before | same | after
  · rw [List.getElem?_append_left before] at found
    exact others other thread found
  · subst same
    rw [List.getElem?_concat_length] at found
    cases found
    exact started
  · have outside : (threads ++ [new])[other]? = none :=
      List.getElem?_eq_none (by rw [List.length_append, List.length_singleton]; omega)
    rw [outside] at found
    cases found

/-- The threads of a kind. -/
def positions (kind : T → Bool) (threads : List T) : List ℕ :=
  (List.range threads.length).filter fun id => threads[id]?.any kind

theorem mem_positions {kind : T → Bool} :
    id ∈ positions kind threads ↔ ∃ thread, threads[id]? = some thread ∧ kind thread = true := by
  unfold positions
  rw [List.mem_filter, Option.any_eq_true]
  constructor
  · rintro ⟨-, thread, here, is⟩
    exact ⟨thread, here, is⟩
  · rintro ⟨thread, here, is⟩
    exact ⟨List.mem_range.mpr (List.getElem?_eq_some_iff.mp here).1, thread, here, is⟩

theorem positions_nodup (kind : T → Bool) (threads : List T) : (positions kind threads).Nodup :=
  List.nodup_range.filter _

/-- The threads of a kind are as many as the list counts. -/
theorem length_positions (kind : T → Bool) (threads : List T) :
    (positions kind threads).length = threads.countP kind := by
  induction threads using List.reverseRecOn with
  | nil => rfl
  | append_singleton threads last ih =>
      have before : (List.range threads.length).filter (fun id => (threads ++ [last])[id]?.any kind) =
          positions kind threads := by
        refine List.filter_congr fun id member => ?_
        rw [List.getElem?_append_left (List.mem_range.mp member)]
      unfold positions
      rw [List.length_append, List.length_singleton, List.range_succ, List.filter_append, before,
        List.length_append, ih, List.countP_append]
      refine congrArg _ ?_
      cases is : kind last <;> simp [is]

/-- What every thread satisfies before a step, and the moved thread after it. -/
theorem forall_update {K : Type} [DecidableEq K] {values : K → T} {key : K} {new : T}
    (Holds : K → T → Prop) (others : ∀ other, other ≠ key → Holds other (values other))
    (moved : Holds key new) : ∀ other, Holds other (Function.update values key new other) := by
  intro other
  by_cases same : other = key
  · subst same
    rw [Function.update_self]
    exact moved
  · rw [Function.update_of_ne same]
    exact others other same

end ProviderSimulator.Lib
