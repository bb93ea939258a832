/-
**Programs that read a shared value.**

A `Flow S E W T` is a program that reads a shared value of type `S`, any number of times, leaves effects
of type `W` behind, and ends with a `T` or an error of type `E`. Other parties may write the shared value
between any two of its steps.

* `outcomeAt value` — the effects and the end of a program that finds the same value at each read;
* `outcomeAt_bind` — a sequence of two programs, with `result_bind` for its end and `mem_effects_bind` for
  what it leaves;
* `Returns` — the program ends with a value; `Closes` — it does so only after one of some effects; `Ends` — its
  effects and its value meet a postcondition, if it returns;
* `Within` — which effects a program may leave, and whether it may read. One that reads no more (`ReadFree`)
  is disturbed by nobody (`Within.outcomeAt_eq`);
* `Running` — a program among writers: `Move.advance` is its next step, `Move.write` writes the shared
  value, and `seen` are the values that were stored since it began;
* `Steady` — a program that reads at most once, or whose shared value nobody changes between two of its
  reads. It ends as if one of the values that were stored meanwhile had been stored all the time
  (`Steady.step`, `Steady.ended`).
-/

import Mathlib.Tactic.Common

namespace ProviderSimulator.Lib

/-- A program that reads a shared value, leaves effects and ends. -/
inductive Flow (S E W T : Type) : Type
  | done (value : T)
  | raised (error : E)
  | emit (effect : W) (next : Flow S E W T)
  | read (next : S → Flow S E W T)

namespace Flow

variable {S E W T U : Type}

/-- One program after the other. -/
def bind : Flow S E W T → (T → Flow S E W U) → Flow S E W U
  | .done value, next => next value
  | .raised error, _ => .raised error
  | .emit effect rest, next => .emit effect (bind rest next)
  | .read rest, next => .read fun value => bind (rest value) next

instance : Monad (Flow S E W) where
  pure := .done
  bind := bind

/-- Leave an effect. -/
def leave (effect : W) : Flow S E W Unit := .emit effect (.done ())

/-- Leave effects, one after the other. -/
def leaveAll : List W → Flow S E W Unit
  | [] => .done ()
  | effect :: rest => .emit effect (leaveAll rest)

/-- Read the shared value. -/
def snapshot : Flow S E W S := .read .done

/-- A computation that reads nothing and leaves nothing. -/
def ofExcept : Except E T → Flow S E W T
  | .ok value => .done value
  | .error error => .raised error

@[simp] theorem done_bind (value : T) (next : T → Flow S E W U) :
    (Flow.done value : Flow S E W T) >>= next = next value := rfl

@[simp] theorem pure_eq_done (value : T) : (pure value : Flow S E W T) = .done value := rfl

@[simp] theorem raised_bind (error : E) (next : T → Flow S E W U) :
    (Flow.raised error : Flow S E W T) >>= next = .raised error := rfl

@[simp] theorem leave_bind (effect : W) (next : Unit → Flow S E W U) :
    (leave effect : Flow S E W Unit) >>= next = .emit effect (next ()) := rfl

@[simp] theorem snapshot_bind (next : S → Flow S E W U) :
    (snapshot : Flow S E W S) >>= next = .read next := rfl

@[simp] theorem ofExcept_ok (value : T) : (ofExcept (.ok value) : Flow S E W T) = .done value := rfl

@[simp] theorem ofExcept_error (error : E) :
    (ofExcept (.error error) : Flow S E W T) = .raised error := rfl

theorem bind_assoc {V : Type} (first : Flow S E W T) (second : T → Flow S E W U)
    (third : U → Flow S E W V) : first >>= second >>= third = first >>= fun value => second value >>= third := by
  show bind (bind first second) third = bind first fun value => bind (second value) third
  induction first with
  | done value => rfl
  | raised error => rfl
  | emit effect rest ih => exact congrArg (Flow.emit effect) ih
  | read rest ih => exact congrArg Flow.read (funext ih)

/-! ### The outcome of a program -/

/-- The effects that a program leaves, and its end. -/
structure Outcome (E W T : Type) where
  effects : List W
  result : Except E T

/-- An outcome after earlier effects. -/
def Outcome.after (effects : List W) (outcome : Outcome E W T) : Outcome E W T :=
  ⟨effects ++ outcome.effects, outcome.result⟩

@[simp] theorem Outcome.after_nil (outcome : Outcome E W T) : outcome.after [] = outcome := rfl

theorem Outcome.after_after (first second : List W) (outcome : Outcome E W T) :
    (outcome.after second).after first = outcome.after (first ++ second) := by
  unfold Outcome.after
  rw [List.append_assoc]

/-- The outcome of a program that finds the same value at each read. -/
def outcomeAt (value : S) : Flow S E W T → Outcome E W T
  | .done result => ⟨[], .ok result⟩
  | .raised error => ⟨[], .error error⟩
  | .emit effect next => (outcomeAt value next).after [effect]
  | .read next => outcomeAt value (next value)

@[simp] theorem outcomeAt_ofExcept (value : S) (result : Except E T) :
    (ofExcept result : Flow S E W T).outcomeAt value = ⟨[], result⟩ := by
  cases result with
  | ok found => rfl
  | error error => rfl

/-- How an outcome goes on. -/
def Outcome.followedBy (outcome : Outcome E W T) (next : T → Outcome E W U) : Outcome E W U :=
  match outcome.result with
  | .ok value => (next value).after outcome.effects
  | .error error => ⟨outcome.effects, .error error⟩

/-- **The outcome of a sequence.** -/
theorem outcomeAt_bind (value : S) (first : Flow S E W T) (next : T → Flow S E W U) :
    (first >>= next).outcomeAt value =
      (first.outcomeAt value).followedBy fun result => (next result).outcomeAt value := by
  show (bind first next).outcomeAt value = _
  induction first with
  | done result => rfl
  | raised error => rfl
  | emit effect rest ih =>
      show ((bind rest next).outcomeAt value).after [effect] = _
      rw [ih]
      show _ = ((rest.outcomeAt value).after [effect]).followedBy _
      unfold Outcome.followedBy Outcome.after
      cases (rest.outcomeAt value).result <;> rfl
  | read rest ih => exact ih value

/-- **The end of a sequence.** -/
theorem result_bind {value : S} {first : Flow S E W T} {next : T → Flow S E W U} {result : U} :
    ((first >>= next).outcomeAt value).result = .ok result ↔
      ∃ found, (first.outcomeAt value).result = .ok found ∧
        ((next found).outcomeAt value).result = .ok result := by
  rw [outcomeAt_bind]
  unfold Outcome.followedBy
  cases (first.outcomeAt value).result with
  | ok found => exact ⟨fun ended => ⟨found, rfl, ended⟩, fun ⟨_, same, ended⟩ => by cases same; exact ended⟩
  | error error => exact ⟨nofun, fun ⟨_, same, _⟩ => by cases same⟩

/-- **The end of a sequence**, as a sequence of ends. -/
theorem result_bind_eq {value : S} (first : Flow S E W T) (next : T → Flow S E W U) :
    ((first >>= next).outcomeAt value).result =
      (first.outcomeAt value).result >>= fun found => ((next found).outcomeAt value).result := by
  rw [outcomeAt_bind]
  unfold Outcome.followedBy
  cases (first.outcomeAt value).result <;> rfl

/-- **The effects of a sequence.** -/
theorem mem_effects_bind {value : S} {first : Flow S E W T} {next : T → Flow S E W U} {effect : W} :
    effect ∈ ((first >>= next).outcomeAt value).effects ↔
      effect ∈ (first.outcomeAt value).effects ∨ ∃ found, (first.outcomeAt value).result = .ok found ∧
        effect ∈ ((next found).outcomeAt value).effects := by
  rw [outcomeAt_bind]
  unfold Outcome.followedBy
  cases (first.outcomeAt value).result with
  | ok found =>
      refine Iff.trans List.mem_append (or_congr_right ⟨fun later => ⟨found, rfl, later⟩, ?_⟩)
      rintro ⟨_, same, later⟩
      cases same
      exact later
  | error error => exact ⟨.inl, fun either => either.elim id fun ⟨_, same, _⟩ => by cases same⟩

/-- A computation that leaves nothing, and what follows it. -/
theorem mem_effects_ofExcept_bind {value : S} {first : Except E T} {next : T → Flow S E W U} {effect : W} :
    effect ∈ ((ofExcept first >>= next).outcomeAt value).effects ↔
      ∃ found, first = .ok found ∧ effect ∈ ((next found).outcomeAt value).effects := by
  rw [mem_effects_bind, outcomeAt_ofExcept]
  exact ⟨fun either => either.elim nofun id, .inr⟩

theorem outcomeAt_leaveAll (value : S) (effects : List W) :
    (leaveAll effects : Flow S E W Unit).outcomeAt value = ⟨effects, .ok ()⟩ := by
  induction effects with
  | nil => rfl
  | cons effect rest ih =>
      show (outcomeAt value (leaveAll rest)).after [effect] = _
      rw [ih]
      rfl

/-- Effects, and what follows them. -/
theorem mem_effects_leaveAll_bind {value : S} {effects : List W} {next : Unit → Flow S E W U} {effect : W} :
    effect ∈ ((leaveAll effects >>= next).outcomeAt value).effects ↔
      effect ∈ effects ∨ effect ∈ ((next ()).outcomeAt value).effects := by
  rw [mem_effects_bind, outcomeAt_leaveAll]
  exact or_congr_right ⟨fun ⟨_, _, later⟩ => later, fun later => ⟨(), rfl, later⟩⟩

/-! ### Programs that return -/

/-- The program ends with a value. -/
def Returns (value : S) (flow : Flow S E W T) : Prop := ∃ result, (flow.outcomeAt value).result = .ok result

theorem returns_bind {value : S} {first : Flow S E W T} {next : T → Flow S E W U} :
    (first >>= next).Returns value ↔
      ∃ found, (first.outcomeAt value).result = .ok found ∧ (next found).Returns value := by
  constructor
  · rintro ⟨result, ended⟩
    obtain ⟨found, here, later⟩ := result_bind.mp ended
    exact ⟨found, here, result, later⟩
  · rintro ⟨found, here, result, later⟩
    exact ⟨result, result_bind.mpr ⟨found, here, later⟩⟩

theorem returns_ofExcept_bind {value : S} {first : Except E T} {next : T → Flow S E W U} :
    (ofExcept first >>= next).Returns value ↔ ∃ found, first = .ok found ∧ (next found).Returns value := by
  rw [returns_bind, outcomeAt_ofExcept]

theorem returns_leaveAll_bind {value : S} {effects : List W} {next : Unit → Flow S E W U} :
    (leaveAll effects >>= next).Returns value ↔ (next ()).Returns value := by
  rw [returns_bind, outcomeAt_leaveAll]
  exact ⟨fun ⟨_, _, later⟩ => later, fun later => ⟨(), rfl, later⟩⟩

theorem returns_leave_bind {value : S} {effect : W} {next : Unit → Flow S E W U} :
    (leave effect >>= next).Returns value ↔ (next ()).Returns value := by
  rw [returns_bind]
  exact ⟨fun ⟨_, _, later⟩ => later, fun later => ⟨(), rfl, later⟩⟩

theorem returns_ofExcept {value : S} {result : Except E T} :
    (ofExcept result : Flow S E W T).Returns value ↔ ∃ found, result = .ok found := by
  unfold Returns
  rw [outcomeAt_ofExcept]

/-- A sequence whose second part always returns. -/
theorem returns_bind_of_forall {value : S} {first : Flow S E W T} {next : T → Flow S E W U}
    (always : ∀ found, (next found).Returns value) : (first >>= next).Returns value ↔ first.Returns value := by
  rw [returns_bind]
  exact ⟨fun ⟨found, here, _⟩ => ⟨found, here⟩, fun ⟨found, here⟩ => ⟨found, here, always found⟩⟩

/-- A program that returns has left one of the effects. -/
def Closes (Last : W → Prop) (value : S) (flow : Flow S E W T) : Prop :=
  flow.Returns value → ∃ effect ∈ (flow.outcomeAt value).effects, Last effect

/-- **The last part of a sequence closes it.** -/
theorem Closes.bind {Last : W → Prop} {value : S} {first : Flow S E W T} {next : T → Flow S E W U}
    (last : ∀ found, (next found).Closes Last value) : (first >>= next).Closes Last value := by
  intro returned
  obtain ⟨found, here, later⟩ := returns_bind.mp returned
  obtain ⟨effect, left, closing⟩ := last found later
  exact ⟨effect, mem_effects_bind.mpr (.inr ⟨found, here, left⟩), closing⟩

theorem Closes.bind_first {Last : W → Prop} {value : S} {first : Flow S E W T} {next : T → Flow S E W U}
    (closes : first.Closes Last value) : (first >>= next).Closes Last value := by
  intro returned
  obtain ⟨found, here, -⟩ := returns_bind.mp returned
  obtain ⟨effect, left, closing⟩ := closes ⟨found, here⟩
  exact ⟨effect, mem_effects_bind.mpr (.inl left), closing⟩

theorem Closes.leave {Last : W → Prop} {value : S} {effect : W} (closing : Last effect)
    (next : Unit → Flow S E W T) : (leave effect >>= next).Closes Last value :=
  fun _ => ⟨effect, mem_effects_bind.mpr (.inl (List.mem_singleton_self effect)), closing⟩

/-! ### Postconditions -/

/-- The effects and the value of the program meet the postcondition, if it returns. -/
def Ends (Post : List W → T → Prop) (value : S) (flow : Flow S E W T) : Prop :=
  ∀ result, (flow.outcomeAt value).result = .ok result → Post (flow.outcomeAt value).effects result

/-- **A sequence**: the second part is to meet what is left of the postcondition. -/
theorem Ends.bind {Mid : List W → T → Prop} {Post : List W → U → Prop} {value : S} {first : Flow S E W T}
    {next : T → Flow S E W U} (begins : first.Ends Mid value)
    (goes : ∀ before found, Mid before found → (next found).Ends (fun later => Post (before ++ later)) value) :
    (first >>= next).Ends Post value := by
  intro result ended
  obtain ⟨found, here, later⟩ := result_bind.mp ended
  have effects : ((first >>= next).outcomeAt value).effects =
      (first.outcomeAt value).effects ++ ((next found).outcomeAt value).effects := by
    rw [outcomeAt_bind]
    unfold Outcome.followedBy
    rw [here]
    rfl
  rw [effects]
  exact goes _ found (begins found here) result later

theorem Ends.and {First Second : List W → T → Prop} {value : S} {flow : Flow S E W T} (first : flow.Ends First value)
    (second : flow.Ends Second value) : flow.Ends (fun effects result => First effects result ∧ Second effects result) value :=
  fun result ended => ⟨first result ended, second result ended⟩

theorem Ends.mono {First Second : List W → T → Prop} {value : S} {flow : Flow S E W T} (ends : flow.Ends First value)
    (weaker : ∀ effects result, First effects result → Second effects result) : flow.Ends Second value :=
  fun result ended => weaker _ result (ends result ended)

theorem ends_done {Post : List W → T → Prop} {value : S} {result : T} (holds : Post [] result) :
    (Flow.done result : Flow S E W T).Ends Post value := by
  rintro _ ⟨⟩
  exact holds

theorem ends_ofExcept {Post : List W → T → Prop} {value : S} {computed : Except E T}
    (holds : ∀ result, computed = .ok result → Post [] result) :
    (Flow.ofExcept computed : Flow S E W T).Ends Post value := by
  intro result ended
  rw [outcomeAt_ofExcept] at ended ⊢
  exact holds result ended

/-- A computation that leaves nothing, and what follows it. -/
theorem ends_ofExcept_bind {Post : List W → U → Prop} {value : S} {first : Except E T} {next : T → Flow S E W U}
    (goes : ∀ found, first = .ok found → (next found).Ends Post value) :
    (Flow.ofExcept first >>= next).Ends Post value := by
  have begins : (Flow.ofExcept first : Flow S E W T).Ends (fun before found => before = [] ∧ first = .ok found) value :=
    ends_ofExcept fun found here => ⟨rfl, here⟩
  refine begins.bind fun before found both => ?_
  obtain ⟨rfl, here⟩ := both
  exact goes found here

theorem ends_leaveAll_bind {Post : List W → U → Prop} {value : S} {effects : List W} {next : Unit → Flow S E W U}
    (goes : (next ()).Ends (fun later => Post (effects ++ later)) value) :
    (Flow.leaveAll effects >>= next).Ends Post value := by
  have begins : (Flow.leaveAll effects : Flow S E W Unit).Ends (fun before _ => before = effects) value := by
    intro _ _
    rw [outcomeAt_leaveAll]
  refine begins.bind fun before _ same => ?_
  rw [same]
  exact goes

theorem ends_leave_bind {Post : List W → U → Prop} {value : S} {effect : W} {next : Unit → Flow S E W U}
    (goes : (next ()).Ends (fun later => Post (effect :: later)) value) :
    (Flow.leave effect >>= next).Ends Post value := by
  have all : (Flow.leaveAll [effect] >>= next).Ends Post value := ends_leaveAll_bind goes
  exact all

theorem ends_snapshot_bind {Post : List W → U → Prop} {value : S} {next : S → Flow S E W U}
    (goes : (next value).Ends Post value) : (Flow.snapshot >>= next).Ends Post value := goes

/-! ### What a program may do -/

/-- The program leaves allowed effects only, and it reads only if `Reads` holds. -/
inductive Within (Reads : Prop) (Allowed : W → Prop) : Flow S E W T → Prop
  | done (value : T) : Within Reads Allowed (.done value)
  | raised (error : E) : Within Reads Allowed (.raised error)
  | emit {effect : W} {next : Flow S E W T} (allowed : Allowed effect) :
      Within Reads Allowed next → Within Reads Allowed (.emit effect next)
  | read {next : S → Flow S E W T} (may : Reads) :
      (∀ value, Within Reads Allowed (next value)) → Within Reads Allowed (.read next)

/-- The program reads no more. -/
abbrev ReadFree (flow : Flow S E W T) : Prop := flow.Within False fun _ => True

section

variable {Reads : Prop} {Allowed : W → Prop}

theorem Within.bind {first : Flow S E W T} {next : T → Flow S E W U}
    (within : first.Within Reads Allowed) (later : ∀ value, (next value).Within Reads Allowed) :
    (first >>= next).Within Reads Allowed := by
  show (Flow.bind first next).Within Reads Allowed
  induction within with
  | done value => exact later value
  | raised error => exact .raised error
  | emit allowed _ ih => exact .emit allowed ih
  | read may _ ih => exact .read may ih

theorem Within.ofExcept (result : Except E T) :
    (Flow.ofExcept result : Flow S E W T).Within Reads Allowed := by
  cases result with
  | ok value => exact .done value
  | error error => exact .raised error

theorem Within.leave {effect : W} (allowed : Allowed effect) :
    (Flow.leave effect : Flow S E W Unit).Within Reads Allowed :=
  .emit allowed (.done ())

theorem Within.leaveAll {effects : List W} (allowed : ∀ effect ∈ effects, Allowed effect) :
    (Flow.leaveAll effects : Flow S E W Unit).Within Reads Allowed := by
  induction effects with
  | nil => exact .done ()
  | cons effect rest ih =>
      refine .emit (allowed effect List.mem_cons_self) (ih ?_)
      exact fun other member => allowed other (List.mem_cons_of_mem _ member)

theorem Within.mono {Reads' : Prop} {Allowed' : W → Prop} {flow : Flow S E W T}
    (within : flow.Within Reads Allowed) (reads : Reads → Reads')
    (allowed : ∀ effect, Allowed effect → Allowed' effect) : flow.Within Reads' Allowed' := by
  induction within with
  | done value => exact .done value
  | raised error => exact .raised error
  | emit here _ ih => exact .emit (allowed _ here) ih
  | read may _ ih => exact .read (reads may) ih

/-- The effects of a program are allowed. -/
theorem Within.effects {flow : Flow S E W T} (within : flow.Within Reads Allowed) (value : S) :
    ∀ effect ∈ (flow.outcomeAt value).effects, Allowed effect := by
  induction within with
  | done result =>
      intro effect member
      cases member
  | raised error =>
      intro effect member
      cases member
  | emit here _ ih =>
      intro effect member
      rcases List.mem_cons.mp member with rfl | later
      · exact here
      · exact ih effect later
  | read _ _ ih => exact ih value

/-- What a program with allowed effects leaves. -/
theorem Within.ends {flow : Flow S E W T} (within : flow.Within Reads Allowed) (value : S) :
    flow.Ends (fun effects _ => ∀ effect ∈ effects, Allowed effect) value :=
  fun _ _ => within.effects value

/-- **Nobody disturbs a program that reads no more.** -/
theorem Within.outcomeAt_eq {flow : Flow S E W T} (within : flow.Within False Allowed)
    (value other : S) : flow.outcomeAt value = flow.outcomeAt other := by
  induction within with
  | done result => rfl
  | raised error => rfl
  | emit _ _ ih =>
      unfold outcomeAt
      rw [ih]
  | read may => exact may.elim

/-- The program reads at most once more. -/
inductive ReadOnce : Flow S E W T → Prop
  | free {flow : Flow S E W T} : flow.ReadFree → ReadOnce flow
  | emit {effect : W} {next : Flow S E W T} : ReadOnce next → ReadOnce (.emit effect next)
  | read {next : S → Flow S E W T} : (∀ value, (next value).ReadFree) → ReadOnce (.read next)

theorem ReadOnce.bind {first : Flow S E W T} {next : T → Flow S E W U} (once : first.ReadOnce)
    (later : ∀ value, (next value).ReadFree) : (first >>= next).ReadOnce := by
  show (Flow.bind first next).ReadOnce
  induction once with
  | free whole => exact .free (whole.bind later)
  | emit _ ih => exact .emit ih
  | read free => exact .read fun value => (free value).bind later

/-- A program that reads no more, and then one that reads at most once. -/
theorem Within.bind_readOnce {first : Flow S E W T} {next : T → Flow S E W U}
    (within : first.Within False Allowed) (later : ∀ value, (next value).ReadOnce) :
    (first >>= next).ReadOnce := by
  show (Flow.bind first next).ReadOnce
  induction within with
  | done value => exact later value
  | raised error => exact .free (.raised error)
  | emit _ _ ih => exact .emit ih
  | read may => exact may.elim

end

/-! ### A program among writers -/

/-- A program, what it left so far, and the shared value. -/
structure Running (S E W T : Type) where
  stored : S
  /-- The values that were stored since the program began. -/
  seen : List S
  /-- How often the program has read. -/
  reads : ℕ
  left : List W
  flow : Flow S E W T

/-- What can happen next. -/
inductive Move (S : Type)
  | write (value : S)
  | advance

/-- A program at its begin. -/
def Running.start (stored : S) (flow : Flow S E W T) : Running S E W T :=
  ⟨stored, [stored], 0, [], flow⟩

/-- One write, or one step of the program. A program that has ended takes no step. -/
def Running.step (state : Running S E W T) : Move S → Option (Running S E W T)
  | .write value => some { state with stored := value, seen := state.seen ++ [value] }
  | .advance =>
      match state.flow with
      | .done _ => none
      | .raised _ => none
      | .emit effect next => some { state with left := state.left ++ [effect], flow := next }
      | .read next => some { state with reads := state.reads + 1, flow := next state.stored }

/-- The end of a program that has ended. -/
def Running.ended (state : Running S E W T) : Option (Outcome E W T) :=
  match state.flow with
  | .done value => some ⟨state.left, .ok value⟩
  | .raised error => some ⟨state.left, .error error⟩
  | _ => none

/-- The shared value does not change between two reads of the program. -/
def Undisturbed (state : Running S E W T) : Move S → Prop
  | .write value => state.reads ≠ 0 → ¬ state.flow.ReadFree → value = state.stored
  | .advance => True

/-- What the steps keep: the program is where it would be if one value had been stored all the time. -/
structure OneValue (flow : Flow S E W T) (state : Running S E W T) : Prop where
  stored : state.stored ∈ state.seen
  fresh : state.reads = 0 → ∀ value,
    flow.outcomeAt value = (state.flow.outcomeAt value).after state.left
  read : state.reads ≠ 0 → ∃ value ∈ state.seen,
    flow.outcomeAt value = (state.flow.outcomeAt value).after state.left ∧
      (¬ state.flow.ReadFree → value = state.stored)

theorem OneValue.start (stored : S) (flow : Flow S E W T) :
    OneValue flow (Running.start stored flow) :=
  ⟨List.mem_singleton_self _, fun _ _ => rfl, fun again => absurd rfl again⟩

theorem OneValue.write {flow : Flow S E W T} {state : Running S E W T} (inv : OneValue flow state)
    {value : S} (undisturbed : Undisturbed state (.write value)) :
    OneValue flow { state with stored := value, seen := state.seen ++ [value] } := by
  refine ⟨List.mem_append_right _ (List.mem_singleton_self _), inv.fresh, fun again => ?_⟩
  obtain ⟨one, member, same, current⟩ := inv.read again
  refine ⟨one, List.mem_append_left _ member, same, fun reading => ?_⟩
  rw [current reading]
  exact (undisturbed again reading).symm

theorem OneValue.emit {flow next : Flow S E W T} {state : Running S E W T} (inv : OneValue flow state)
    {effect : W} (here : state.flow = .emit effect next) :
    OneValue flow { state with left := state.left ++ [effect], flow := next } := by
  have moved : ∀ value, (state.flow.outcomeAt value).after state.left =
      (next.outcomeAt value).after (state.left ++ [effect]) := by
    intro value
    rw [here]
    exact Outcome.after_after _ _ _
  refine ⟨inv.stored, fun fresh value => ?_, fun again => ?_⟩
  · rw [inv.fresh fresh value, moved]
  · obtain ⟨one, member, same, current⟩ := inv.read again
    refine ⟨one, member, by rw [same, moved], fun reading => current ?_⟩
    intro free
    rw [here] at free
    cases free with
    | emit _ rest => exact reading rest

theorem OneValue.readNext {flow : Flow S E W T} {next : S → Flow S E W T}
    {state : Running S E W T} (inv : OneValue flow state) (here : state.flow = .read next) :
    OneValue flow { state with reads := state.reads + 1, flow := next state.stored } := by
  have reading : ¬ state.flow.ReadFree := by
    rw [here]
    intro free
    cases free with
    | read may => exact may
  have moved : (state.flow.outcomeAt state.stored).after state.left =
      ((next state.stored).outcomeAt state.stored).after state.left := by
    rw [here]
    rfl
  have later : state.reads + 1 ≠ 0 := Nat.succ_ne_zero _
  refine ⟨inv.stored, fun zero => absurd zero later, fun _ => ⟨state.stored, inv.stored, ?_, ?_⟩⟩
  swap
  · intro _
    rfl
  by_cases first : state.reads = 0
  · rw [inv.fresh first, moved]
  · obtain ⟨one, -, same, current⟩ := inv.read first
    rw [current reading] at same
    rw [same, moved]

/-- **One step.** -/
theorem OneValue.step {flow : Flow S E W T} {state next : Running S E W T} {move : Move S}
    (inv : OneValue flow state) (undisturbed : Undisturbed state move)
    (stepped : state.step move = some next) : OneValue flow next := by
  cases move with
  | write value =>
      cases stepped
      exact inv.write undisturbed
  | advance =>
      simp only [Running.step] at stepped
      split at stepped
      · cases stepped
      · cases stepped
      · next here =>
          cases stepped
          exact inv.emit here
      · next here =>
          cases stepped
          exact inv.readNext here

/-- A program that has ended has the outcome of one value. -/
theorem OneValue.ended {flow : Flow S E W T} {state : Running S E W T} (inv : OneValue flow state)
    {outcome : Outcome E W T} (ended : state.ended = some outcome) :
    ∃ value ∈ state.seen, flow.outcomeAt value = outcome := by
  have held : ∃ value ∈ state.seen,
      flow.outcomeAt value = (state.flow.outcomeAt value).after state.left := by
    by_cases fresh : state.reads = 0
    · exact ⟨state.stored, inv.stored, inv.fresh fresh _⟩
    · obtain ⟨one, member, same, -⟩ := inv.read fresh
      exact ⟨one, member, same⟩
  obtain ⟨value, member, same⟩ := held
  refine ⟨value, member, same.trans ?_⟩
  unfold Running.ended at ended
  split at ended
  · next here =>
      cases ended
      rw [here]
      simp [outcomeAt, Outcome.after]
  · next here =>
      cases ended
      rw [here]
      simp [outcomeAt, Outcome.after]
  · cases ended

/-- What the steps keep of a program that reads at most once. -/
structure ReadsLeft (state : Running S E W T) : Prop where
  once : state.flow.ReadOnce
  free : state.reads ≠ 0 → state.flow.ReadFree

theorem ReadsLeft.undisturbed {state : Running S E W T} (inv : ReadsLeft state) (move : Move S) :
    Undisturbed state move := by
  cases move with
  | write value => exact fun again reading => absurd (inv.free again) reading
  | advance => trivial

theorem ReadsLeft.emit {state : Running S E W T} {effect : W} {next : Flow S E W T}
    (inv : ReadsLeft state) (here : state.flow = .emit effect next) :
    ReadsLeft { state with left := state.left ++ [effect], flow := next } := by
  have once := inv.once
  have free := inv.free
  rw [here] at once free
  refine ⟨?_, fun again => ?_⟩
  · cases once with
    | emit later => exact later
    | free whole =>
        cases whole with
        | emit _ later => exact .free later
  · cases free again with
    | emit _ later => exact later

theorem ReadsLeft.readNext {state : Running S E W T} {next : S → Flow S E W T}
    (inv : ReadsLeft state) (here : state.flow = .read next) :
    ReadsLeft { state with reads := state.reads + 1, flow := next state.stored } := by
  have later : ∀ value, (next value).ReadFree := by
    have once := inv.once
    rw [here] at once
    cases once with
    | read later => exact later
    | free whole =>
        cases whole with
        | read may => exact may.elim
  exact ⟨.free (later _), fun _ => later _⟩

theorem ReadsLeft.step {state next : Running S E W T} {move : Move S}
    (stepped : state.step move = some next) (inv : ReadsLeft state) : ReadsLeft next := by
  cases move with
  | write value =>
      cases stepped
      exact ⟨inv.once, inv.free⟩
  | advance =>
      simp only [Running.step] at stepped
      split at stepped
      · cases stepped
      · cases stepped
      · next here =>
          cases stepped
          exact inv.emit here
      · next here =>
          cases stepped
          exact inv.readNext here

/-- What the steps keep of a program that reads at most once, or whose shared value nobody changes between
two of its reads. -/
structure Steady (flow : Flow S E W T) (state : Running S E W T) : Prop where
  one : OneValue flow state
  reads : flow.ReadOnce → ReadsLeft state

theorem Steady.start (stored : S) (flow : Flow S E W T) : Steady flow (Running.start stored flow) :=
  ⟨OneValue.start stored flow, fun once => ⟨once, fun again => absurd rfl again⟩⟩

theorem Steady.step {flow : Flow S E W T} {state next : Running S E W T} {move : Move S}
    (inv : Steady flow state) (undisturbed : ¬ flow.ReadOnce → Undisturbed state move)
    (stepped : state.step move = some next) : Steady flow next := by
  have quiet : Undisturbed state move := by
    by_cases once : flow.ReadOnce
    · exact (inv.reads once).undisturbed move
    · exact undisturbed once
  exact ⟨inv.one.step quiet stepped, fun once => (inv.reads once).step stepped⟩

/-- **One value for the whole program.** It ends as if one of the values that were stored meanwhile had been
stored all the time. -/
theorem Steady.ended {flow : Flow S E W T} {state : Running S E W T} (inv : Steady flow state)
    {outcome : Outcome E W T} (ended : state.ended = some outcome) :
    ∃ value ∈ state.seen, flow.outcomeAt value = outcome :=
  inv.one.ended ended

end Flow

end ProviderSimulator.Lib
