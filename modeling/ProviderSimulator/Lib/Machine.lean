/-
**Step machines.**

A machine is a partial step function `step : S → A → Option S`: `none` means that the action cannot
happen in the state. A run is a list of actions, and `run step` executes it. Every interleaving of
the parties of a system is one such list, so a property of all interleavings is a property of all
lists.

* `run_invariant` — what each step keeps, each run keeps.
* `run_invariant_of_mem` — the same for a run all of whose actions are of one kind.
* `MeetsAlong` and `run_invariant_of_meets` — the same for a run each of whose steps meets a
  condition on the action and on the state before it. `checkAlong` checks such a condition of a given run.
* `Always` — a property of every state that a run goes through; `always_iff_meetsAlong` is the rule for a
  property that one step keeps exactly when it meets a condition.
* `noted` — a machine that notes what an observer sees of each step; every run of
  the machine has such a history (`run_noted`).
* `after` and `outputs` — a machine that takes every action and answers it; `outputs_eq_of_alike` is
  the rule for two states that nobody can tell apart.
-/

import Mathlib.Tactic.Common

namespace ProviderSimulator.Lib

variable {S A : Type}

/-- Execute a list of actions. -/
def run (step : S → A → Option S) : S → List A → Option S
  | state, [] => some state
  | state, action :: rest => (step state action).bind fun next => run step next rest

variable {step : S → A → Option S}

@[simp] theorem run_nil (state : S) : run step state [] = some state := rfl

theorem run_cons (state : S) (action : A) (rest : List A) :
    run step state (action :: rest) = (step state action).bind fun next => run step next rest := rfl

/-- A run that starts with an action goes through the state after it. -/
theorem run_cons_eq_some {state final : S} {action : A} {rest : List A} :
    run step state (action :: rest) = some final ↔
      ∃ next, step state action = some next ∧ run step next rest = some final := by
  rw [run_cons, Option.bind_eq_some_iff]

/-- **A run whose actions are all of one kind.** -/
theorem run_invariant_of_mem (Inv : S → Prop) (Kind : A → Prop)
    (keeps : ∀ state action next, Kind action → step state action = some next →
      Inv state → Inv next) :
    ∀ {actions : List A} {state final : S}, (∀ action ∈ actions, Kind action) →
      run step state actions = some final → Inv state → Inv final := by
  intro actions
  induction actions with
  | nil =>
      intro state final _ done holds
      cases done
      exact holds
  | cons action rest ih =>
      intro state final kinds done holds
      obtain ⟨next, first, later⟩ := run_cons_eq_some.mp done
      exact ih (fun other member => kinds other (List.mem_cons_of_mem _ member)) later
        (keeps state action next (kinds action List.mem_cons_self) first holds)

/-- **What each step keeps, each run keeps.** -/
theorem run_invariant (Inv : S → Prop)
    (keeps : ∀ state action next, step state action = some next → Inv state → Inv next)
    {actions : List A} {state final : S} (done : run step state actions = some final)
    (holds : Inv state) : Inv final :=
  run_invariant_of_mem Inv (fun _ => True)
    (fun state action next _ => keeps state action next) (fun _ _ => trivial) done holds

/-- Every step of the run meets the condition, in the state before it. -/
def MeetsAlong (step : S → A → Option S) (Meets : S → A → Prop) : S → List A → Prop
  | _, [] => True
  | state, action :: rest =>
      Meets state action ∧ ∀ next, step state action = some next → MeetsAlong step Meets next rest

/-- A condition that holds of every step is met along every run. -/
theorem meetsAlong_of_forall {Meets : S → A → Prop} (all : ∀ state action, Meets state action)
    (state : S) (actions : List A) : MeetsAlong step Meets state actions := by
  induction actions generalizing state with
  | nil => trivial
  | cons action rest ih => exact ⟨all state action, fun next _ => ih next⟩

/-- Two conditions that are met along a run. -/
theorem MeetsAlong.and {First Second : S → A → Prop} {state : S} {actions : List A}
    (first : MeetsAlong step First state actions) (second : MeetsAlong step Second state actions) :
    MeetsAlong step (fun state action => First state action ∧ Second state action) state actions := by
  induction actions generalizing state with
  | nil => trivial
  | cons action rest ih =>
      exact ⟨⟨first.1, second.1⟩, fun next stepped => ih (first.2 next stepped) (second.2 next stepped)⟩

/-- A condition on the actions alone. -/
theorem meetsAlong_of_mem {Kind : A → Prop} {state : S} {actions : List A}
    (kinds : ∀ action ∈ actions, Kind action) : MeetsAlong step (fun _ => Kind) state actions := by
  induction actions generalizing state with
  | nil => trivial
  | cons action rest ih =>
      refine ⟨kinds action List.mem_cons_self, fun next _ => ih fun other member => ?_⟩
      exact kinds other (List.mem_cons_of_mem _ member)

/-- Check a condition at every step of the run. -/
def checkAlong (step : S → A → Option S) (check : S → A → Bool) : S → List A → Bool
  | _, [] => true
  | state, action :: rest =>
      check state action && (step state action).all fun next => checkAlong step check next rest

/-- A condition that is checked along a run is met along it. -/
theorem meetsAlong_of_check {check : S → A → Bool} {Meets : S → A → Prop}
    (sound : ∀ state action, check state action = true → Meets state action) {state : S} {actions : List A}
    (checked : checkAlong step check state actions = true) : MeetsAlong step Meets state actions := by
  induction actions generalizing state with
  | nil => trivial
  | cons action rest ih =>
      obtain ⟨here, later⟩ := Bool.and_eq_true_iff.mp checked
      refine ⟨sound state action here, fun next stepped => ih ?_⟩
      rw [stepped] at later
      exact later

/-- **A run whose steps all meet a condition.** -/
theorem run_invariant_of_meets (Inv : S → Prop) (Meets : S → A → Prop)
    (keeps : ∀ state action next, Meets state action → step state action = some next →
      Inv state → Inv next) :
    ∀ {actions : List A} {state final : S}, MeetsAlong step Meets state actions →
      run step state actions = some final → Inv state → Inv final := by
  intro actions
  induction actions with
  | nil =>
      intro state final _ done holds
      cases done
      exact holds
  | cons action rest ih =>
      intro state final meets done holds
      obtain ⟨next, first, later⟩ := run_cons_eq_some.mp done
      exact ih (meets.2 next first) later (keeps state action next meets.1 first holds)

/-- The property holds in every state that the run goes through. -/
def Always (step : S → A → Option S) (Good : S → Prop) : S → List A → Prop
  | state, [] => Good state
  | state, action :: rest => Good state ∧ ∀ next, step state action = some next → Always step Good next rest

theorem Always.start {Good : S → Prop} {state : S} {actions : List A} (always : Always step Good state actions) :
    Good state := by
  cases actions with
  | nil => exact always
  | cons action rest => exact always.1

/-- **A property of every state of a run whose steps all meet a condition.** -/
theorem always_of_meetsAlong {Inv Good : S → Prop} {Meets : S → A → Prop}
    (keeps : ∀ state action next, Meets state action → step state action = some next → Inv state → Inv next)
    (good : ∀ state, Inv state → Good state) {state : S} (holds : Inv state) {actions : List A}
    (meets : MeetsAlong step Meets state actions) : Always step Good state actions := by
  induction actions generalizing state with
  | nil => exact good state holds
  | cons action rest ih =>
      refine ⟨good state holds, fun next stepped => ?_⟩
      exact ih (keeps state action next meets.1 stepped holds) (meets.2 next stepped)

/-- **A property that a step keeps exactly when it meets a condition** holds along the runs whose steps all
meet it, and along no others. -/
theorem always_iff_meetsAlong {Inv Good : S → Prop} {Meets : S → A → Prop}
    (keeps : ∀ state action next, step state action = some next → Inv state → Inv next)
    (exact_ : ∀ state action next, Inv state → Good state → step state action = some next →
      (Good next ↔ Meets state action))
    (stuck : ∀ state action, step state action = none → Meets state action) {state : S} (holds : Inv state)
    (good : Good state) (actions : List A) :
    Always step Good state actions ↔ MeetsAlong step Meets state actions := by
  induction actions generalizing state with
  | nil => exact ⟨fun _ => trivial, fun _ => good⟩
  | cons action rest ih =>
      constructor
      · rintro ⟨-, always⟩
        refine ⟨?_, fun next stepped => ?_⟩
        · cases stepped : step state action with
          | none => exact stuck state action stepped
          | some next => exact (exact_ state action next holds good stepped).mp (always next stepped).start
        · have later := always next stepped
          exact (ih (keeps state action next stepped holds) later.start).mp later
      · rintro ⟨meets, later⟩
        refine ⟨good, fun next stepped => ?_⟩
        have kept := (exact_ state action next holds good stepped).mpr meets
        exact (ih (keeps state action next stepped holds) kept).mpr (later next stepped)

/-! ### A machine with a history -/

section

variable {B : Type}

/-- The machine, with the list of what an observer has seen of its steps. -/
def noted (step : S → A → Option S) (observe : S → A → List B) (state : S × List B) (action : A) :
    Option (S × List B) :=
  (step state.1 action).map fun next => (next, state.2 ++ observe state.1 action)

variable {observe : S → A → List B}

/-- A step of the machine with its history. -/
theorem noted_eq_some {state next : S × List B} {action : A} :
    noted step observe state action = some next ↔
      step state.1 action = some next.1 ∧ next.2 = state.2 ++ observe state.1 action := by
  unfold noted
  rw [Option.map_eq_some_iff]
  constructor
  · rintro ⟨after, moved, rfl⟩
    exact ⟨moved, rfl⟩
  · rintro ⟨moved, seen⟩
    refine ⟨next.1, moved, ?_⟩
    rw [← seen]

/-- **Every run has a history.** -/
theorem run_noted {actions : List A} {state final : S} (seen : List B)
    (done : run step state actions = some final) :
    ∃ later, run (noted step observe) (state, seen) actions = some (final, later) := by
  induction actions generalizing state seen with
  | nil =>
      cases done
      exact ⟨seen, rfl⟩
  | cons action rest ih =>
      obtain ⟨next, first, later⟩ := run_cons_eq_some.mp done
      obtain ⟨history, ran⟩ := ih (seen ++ observe state action) later
      exact ⟨history, run_cons_eq_some.mpr ⟨_, noted_eq_some.mpr ⟨first, rfl⟩, ran⟩⟩

end

/-! ### Machines that answer -/

section

variable {B : Type} (react : S → A → S × B)

/-- The state after a list of actions. -/
def after (state : S) (actions : List A) : S :=
  actions.foldl (fun state action => (react state action).1) state

/-- The answers to a list of actions. -/
def outputs : S → List A → List B
  | _, [] => []
  | state, action :: rest => (react state action).2 :: outputs (react state action).1 rest

variable {react}

/-- What each reaction to an action of one kind keeps, a list of such actions keeps. -/
theorem after_invariant_of_mem (Inv : S → Prop) (Kind : A → Prop)
    (keeps : ∀ state action, Kind action → Inv state → Inv (react state action).1) {state : S}
    (holds : Inv state) {actions : List A} (kinds : ∀ action ∈ actions, Kind action) :
    Inv (after react state actions) := by
  induction actions generalizing state with
  | nil => exact holds
  | cons action rest ih =>
      refine ih (keeps state action (kinds action List.mem_cons_self) holds) fun other member => ?_
      exact kinds other (List.mem_cons_of_mem _ member)

/-- What each reaction keeps, a list of actions keeps. -/
theorem after_invariant (Inv : S → Prop) (keeps : ∀ state action, Inv state → Inv (react state action).1)
    {state : S} (holds : Inv state) (actions : List A) : Inv (after react state actions) :=
  after_invariant_of_mem Inv (fun _ => True) (fun state action _ => keeps state action) holds fun _ _ => trivial

/-- **Two machines that cannot be told apart.** States that answer each action alike, and go on alike, give
the same answers to every list of actions. -/
theorem outputs_eq_of_alike {T : Type} {other : T → A → T × B} (Alike : S → T → Prop)
    (keeps : ∀ state same action, Alike state same →
      (react state action).2 = (other same action).2 ∧ Alike (react state action).1 (other same action).1)
    {state : S} {same : T} (alike : Alike state same) (actions : List A) :
    outputs react state actions = outputs other same actions := by
  induction actions generalizing state same with
  | nil => rfl
  | cons action rest ih =>
      obtain ⟨answer, next⟩ := keeps state same action alike
      unfold outputs
      rw [answer, ih next]

end

end ProviderSimulator.Lib
