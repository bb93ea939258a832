/-
**Two runs of one kind.**

Two programs that find the same value at each read are compared by what they leave and by their ends: effect by effect
they leave related ones, and both raise the same exception, or both return, and what they return is related.

* `Ended` — the relation of two ends, over a relation of two values;
* `Paired` — two programs with related effects and related ends, and `Paired.bind` — related programs that go on in
  related ways.
-/

import Mathlib.Tactic.Common
import Mathlib.Data.List.Forall2
import ProviderSimulator.Lib.Flow

namespace ProviderSimulator.Lib

variable {S E W T U V X : Type}

/-- Both ends are one exception, or two related values. -/
inductive Ended (Related : T → U → Prop) : Except E T → Except E U → Prop
  | ok {first : T} {second : U} (related : Related first second) : Ended Related (.ok first) (.ok second)
  | error (error : E) : Ended Related (.error error) (.error error)

namespace Ended

variable {Related : T → U → Prop} {Later : V → X → Prop}

theorem mono {Weaker : T → U → Prop} {first : Except E T} {second : Except E U} (ended : Ended Related first second)
    (weaker : ∀ one other, Related one other → Weaker one other) : Ended Weaker first second := by
  cases ended with
  | ok related => exact .ok (weaker _ _ related)
  | error error => exact .error error

/-- One end, compared with itself. -/
theorem refl {Related : T → T → Prop} (same : ∀ value, Related value value) (ending : Except E T) :
    Ended Related ending ending := by
  cases ending with
  | ok value => exact .ok (same value)
  | error error => exact .error error

theorem bind {first : Except E T} {second : Except E U} {next : T → Except E V} {next' : U → Except E X}
    (ended : Ended Related first second) (later : ∀ one other, Related one other → Ended Later (next one) (next' other)) :
    Ended Later (first >>= next) (second >>= next') := by
  cases ended with
  | ok related => exact later _ _ related
  | error error => exact .error error

theorem map {first : Except E T} {second : Except E U} {write : T → V} {write' : U → X}
    (ended : Ended Related first second) (later : ∀ one other, Related one other → Later (write one) (write' other)) :
    Ended Later (first.map write) (second.map write') := by
  cases ended with
  | ok related => exact .ok (later _ _ related)
  | error error => exact .error error

theorem ok_ok_iff {first : T} {second : U} :
    Ended Related (.ok first : Except E T) (.ok second) ↔ Related first second := by
  constructor
  · intro ended
    cases ended with
    | ok related => exact related
  · exact .ok

end Ended

namespace Flow

/-- **The programs run alike** where each read finds the value: they leave related effects, and have related ends. -/
structure Paired (Left : W → W → Prop) (Related : T → U → Prop) (value : S) (first : Flow S E W T)
    (second : Flow S E W U) : Prop where
  effects : List.Forall₂ Left (first.outcomeAt value).effects (second.outcomeAt value).effects
  ended : Ended Related (first.outcomeAt value).result (second.outcomeAt value).result

section

variable {Left : W → W → Prop} {Related : T → U → Prop} {Later : V → X → Prop} {value : S}

theorem result_followedBy (first : Flow S E W T) (next : T → Flow S E W U) :
    ((first >>= next).outcomeAt value).result =
      (first.outcomeAt value).result >>= fun found => ((next found).outcomeAt value).result := by
  rw [outcomeAt_bind]
  unfold Outcome.followedBy
  cases (first.outcomeAt value).result with
  | ok found => rfl
  | error error => rfl

/-- **Related programs that go on in related ways.** -/
theorem Paired.bind {first : Flow S E W T} {second : Flow S E W U} {next : T → Flow S E W V} {next' : U → Flow S E W X}
    (paired : Paired Left Related value first second)
    (later : ∀ one other, Related one other → Paired Left Later value (next one) (next' other)) :
    Paired Left Later value (first >>= next) (second >>= next') := by
  constructor
  · have effects := paired.effects
    have ended := paired.ended
    rw [outcomeAt_bind, outcomeAt_bind]
    unfold Outcome.followedBy
    generalize (first.outcomeAt value).result = end₁ at ended
    generalize (second.outcomeAt value).result = end₂ at ended
    cases ended with
    | error error => exact effects
    | ok related => exact List.rel_append effects (later _ _ related).effects
  · rw [result_followedBy, result_followedBy]
    exact paired.ended.bind fun one other related => (later one other related).ended

theorem Paired.done {first : T} {second : U} (related : Related first second) :
    Paired Left Related value (.done first : Flow S E W T) (.done second) := ⟨.nil, .ok related⟩

theorem Paired.ofExcept {first : Except E T} {second : Except E U} (ended : Ended Related first second) :
    Paired Left Related value (Flow.ofExcept first : Flow S E W T) (Flow.ofExcept second) := by
  constructor
  · rw [outcomeAt_ofExcept, outcomeAt_ofExcept]
    exact .nil
  · rw [outcomeAt_ofExcept, outcomeAt_ofExcept]
    exact ended

/-- One computation, and two ways to go on from its value. -/
theorem Paired.ofExcept_bind {computed : Except E T} {next : T → Flow S E W V} {next' : T → Flow S E W X}
    (later : ∀ found, computed = .ok found → Paired Left Later value (next found) (next' found)) :
    Paired Left Later value (Flow.ofExcept computed >>= next) (Flow.ofExcept computed >>= next') := by
  cases computed with
  | ok found => exact later found rfl
  | error error => exact ⟨.nil, .error error⟩

theorem Paired.leave_bind {effect effect' : W} {next : Unit → Flow S E W V} {next' : Unit → Flow S E W X}
    (left : Left effect effect') (later : Paired Left Later value (next ()) (next' ())) :
    Paired Left Later value (Flow.leave effect >>= next) (Flow.leave effect' >>= next') :=
  ⟨.cons left later.effects, later.ended⟩

theorem Paired.leaveAll {effects effects' : List W} (left : List.Forall₂ Left effects effects') :
    Paired Left Eq value (Flow.leaveAll effects : Flow S E W Unit) (Flow.leaveAll effects') := by
  constructor
  · rw [outcomeAt_leaveAll, outcomeAt_leaveAll]
    exact left
  · rw [outcomeAt_leaveAll, outcomeAt_leaveAll]
    exact .ok rfl

/-- One program, compared with itself. -/
theorem Paired.refl {Related : T → T → Prop} (left : ∀ effect, Left effect effect)
    (same : ∀ found, Related found found) (flow : Flow S E W T) : Paired Left Related value flow flow :=
  ⟨List.forall₂_same.mpr fun effect _ => left effect, Ended.refl same _⟩

end

end Flow

end ProviderSimulator.Lib
