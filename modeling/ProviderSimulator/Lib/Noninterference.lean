/-
**Noninterference by unwinding.**

A machine takes every action and answers it. An observer sees some of it: each action is one that concerns the observer,
under a name of his own (`within`), or one that does not, and of an answer he sees a part (`look`). If an action that
does not concern him changes nothing of his view and shows him nothing, and one that does has the same effect on equal
views, then he sees the same in a run and in the run that has nothing but his own actions (`purge`).

* `Unwinding` — the two conditions on one step, over a relation of the states of the two runs;
* `Unwinding.seen_purge` — **the observer sees the same in both runs**, and the states that they leave are related.
-/

import Mathlib.Tactic.Common
import ProviderSimulator.Lib.Machine

namespace ProviderSimulator.Lib

variable {S A B C : Type}

section

variable (react : S → A → S × B) (within : S → A → Option A) (look : S → A → B → List C)

/-- The actions of a run that concern the observer, under his names. -/
def purge : S → List A → List A
  | _, [] => []
  | state, action :: rest => (within state action).toList ++ purge (react state action).1 rest

/-- What the observer sees of a run. -/
def seen : S → List A → List C
  | _, [] => []
  | state, action :: rest => look state action (react state action).2 ++ seen (react state action).1 rest

theorem after_append (state : S) (first later : List A) :
    after react state (first ++ later) = after react (after react state first) later := List.foldl_append

theorem seen_append (state : S) (first later : List A) :
    seen react look state (first ++ later) =
      seen react look state first ++ seen react look (after react state first) later := by
  induction first generalizing state with
  | nil => rfl
  | cons action rest ih =>
      show look state action _ ++ seen react look _ (rest ++ later) = _
      rw [ih, ← List.append_assoc]
      rfl

/-- **The conditions of one step.** `Allowed` limits the actions of the run. -/
structure Unwinding (Allowed : A → Prop) (Like : S → S → Prop) : Prop where
  /-- An action that does not concern the observer. -/
  respects : ∀ {state other action}, Allowed action → Like state other → within state action = none →
    look state action (react state action).2 = [] ∧ Like (react state action).1 other
  /-- An action that does. -/
  consistent : ∀ {state other action mine}, Allowed action → Like state other → within state action = some mine →
    look state action (react state action).2 = look other mine (react other mine).2 ∧
      Like (react state action).1 (react other mine).1

variable {react within look} {Allowed : A → Prop} {Like : S → S → Prop}

/-- **The observer sees nothing of the actions that do not concern him.** -/
theorem Unwinding.seen_purge (unwinding : Unwinding react within look Allowed Like) {state other : S}
    (like : Like state other) {actions : List A} (allowed : ∀ action ∈ actions, Allowed action) :
    seen react look state actions = seen react look other (purge react within state actions) ∧
      Like (after react state actions) (after react other (purge react within state actions)) := by
  induction actions generalizing state other with
  | nil => exact ⟨rfl, like⟩
  | cons action rest ih =>
      obtain ⟨here, later⟩ := List.forall_mem_cons.mp allowed
      unfold purge
      rw [seen_append, after_append]
      cases concerns : within state action with
      | none =>
          obtain ⟨silent, next⟩ := unwinding.respects here like concerns
          obtain ⟨same, final⟩ := ih next later
          refine ⟨?_, final⟩
          show look state action _ ++ seen react look _ rest = _
          rw [silent, same]
          rfl
      | some mine =>
          obtain ⟨shown, next⟩ := unwinding.consistent here like concerns
          obtain ⟨same, final⟩ := ih next later
          refine ⟨?_, final⟩
          show look state action _ ++ seen react look _ rest = (look other mine _ ++ []) ++ _
          rw [shown, same, List.append_nil]
          rfl

end

end ProviderSimulator.Lib
