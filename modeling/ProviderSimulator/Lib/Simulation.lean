/-
**One machine stands for another.**

A machine is followed by a second one when each of its steps is a run of the second one, of any length, between states
that stand for each other. What holds of every run of the second machine is then said of the first.

* `run_append` — two runs, one after the other;
* `FollowedWhere` — each step that meets a condition is a run of the other machine whose steps all meet one of theirs, and
  `FollowedWhere.run` — **so is each run of such steps**;
* `Followed` — the same with no conditions, and `Followed.run`.
-/

import Mathlib.Tactic.Common
import ProviderSimulator.Lib.Machine

namespace ProviderSimulator.Lib

variable {S A T B : Type} {step : S → A → Option S} {other : T → B → Option T}

/-- A run that goes on. -/
theorem run_append {state middle final : S} {first second : List A} (begun : run step state first = some middle)
    (ended : run step middle second = some final) : run step state (first ++ second) = some final := by
  induction first generalizing state with
  | nil =>
      cases begun
      exact ended
  | cons action rest ih =>
      obtain ⟨next, stepped, later⟩ := run_cons_eq_some.mp begun
      exact run_cons_eq_some.mpr ⟨next, stepped, ih later⟩

/-- A run of steps that meet a condition goes on with such steps. -/
theorem MeetsAlong.append {Meets : S → A → Prop} {state middle : S} {first second : List A}
    (one : MeetsAlong step Meets state first) (begun : run step state first = some middle)
    (two : MeetsAlong step Meets middle second) : MeetsAlong step Meets state (first ++ second) := by
  induction first generalizing state with
  | nil =>
      cases begun
      exact two
  | cons action rest ih =>
      obtain ⟨next, stepped, later⟩ := run_cons_eq_some.mp begun
      refine ⟨one.1, fun other found => ?_⟩
      cases stepped.symm.trans found
      exact ih (one.2 next stepped) later

/-- Each step of the machine that meets a condition is a run of the other one whose steps all meet one of theirs, between
states that stand for each other. -/
def FollowedWhere (Meets : S → A → Prop) (Keeps : T → B → Prop) (step : S → A → Option S)
    (other : T → B → Option T) (Stands : S → T → Prop) : Prop :=
  ∀ state action next same, Meets state action → step state action = some next → Stands state same →
    ∃ actions after, run other same actions = some after ∧ MeetsAlong other Keeps same actions ∧ Stands next after

/-- **Each run of such steps is a run of the other machine.** -/
theorem FollowedWhere.run {Meets : S → A → Prop} {Keeps : T → B → Prop} {Stands : S → T → Prop}
    (followed : FollowedWhere Meets Keeps step other Stands) {state final : S} {same : T} {actions : List A}
    (meets : MeetsAlong step Meets state actions) (done : run step state actions = some final)
    (stands : Stands state same) :
    ∃ followers after, Lib.run other same followers = some after ∧ MeetsAlong other Keeps same followers ∧
      Stands final after := by
  induction actions generalizing state same with
  | nil =>
      cases done
      exact ⟨[], same, rfl, trivial, stands⟩
  | cons action rest ih =>
      obtain ⟨next, stepped, later⟩ := run_cons_eq_some.mp done
      obtain ⟨first, between, ran, kept, met⟩ := followed state action next same meets.1 stepped stands
      obtain ⟨second, after, ended, goesOn, last⟩ := ih (meets.2 next stepped) later met
      exact ⟨first ++ second, after, run_append ran ended, kept.append ran goesOn, last⟩

/-- **Each step of the machine is a run of the other one**, between states that stand for each other. -/
def Followed (step : S → A → Option S) (other : T → B → Option T) (Stands : S → T → Prop) : Prop :=
  ∀ state action next same, step state action = some next → Stands state same →
    ∃ actions after, run other same actions = some after ∧ Stands next after

/-- **Each run is a run of the other machine.** -/
theorem Followed.run {Stands : S → T → Prop} (followed : Followed step other Stands) {state final : S} {same : T}
    {actions : List A} (done : run step state actions = some final) (stands : Stands state same) :
    ∃ followers after, Lib.run other same followers = some after ∧ Stands final after := by
  have everywhere : FollowedWhere (fun _ _ => True) (fun _ _ => True) step other Stands := by
    intro state action next same _ stepped stands
    obtain ⟨actions, after, ran, met⟩ := followed state action next same stepped stands
    exact ⟨actions, after, ran, meetsAlong_of_forall (fun _ _ => trivial) same actions, met⟩
  obtain ⟨followers, after, ran, -, met⟩ :=
    everywhere.run (meetsAlong_of_forall (fun _ _ => trivial) state actions) done stands
  exact ⟨followers, after, ran, met⟩

end ProviderSimulator.Lib
