/-
**Which bodies end a control call with no answer.**

`POST /scenario` answers a body or ends in an exception, and it ends in one if and only if its checks get to one
of the values that they raise at (`Escaping`). A body that it does not apply is answered with a 4xx: the call
answers 500 only after it has written every block. `POST /ws/emit` looks up the subscription id that the body
gives, and a list or an object cannot be looked up.

* `checkBody_escapes` — the check loop, block by block;
* `run_hashablePorts` — the ports that a run stores are numbers, so the rules of a block can compare them;
* `control_answers_iff` — both calls;
* `wsEmit_queued` — an event that a call answers 200 for is on the queue of the owner.
-/

import Mathlib.Tactic.Common
import ProviderSimulator.Control.Escapes
import ProviderSimulator.Control.StoredBlocks
import ProviderSimulator.Lib.Simulation
import ProviderSimulator.Listeners.WsSubscriptions

namespace ProviderSimulator.Control

open ProviderSimulator.Lib ProviderSimulator.Python ProviderSimulator.Domain
open ProviderSimulator.Listeners
open ProviderSimulator.Listeners.WsSubscriptions (System Emit EmitOutcome)

/-! ### Blocks and bodies -/

section

variable (layout : Layout) (state : Stored)

/-- The block passes every check. -/
def BlockPasses (item : String × Value) : Prop := ∃ staged, checkBlock layout state item.1 item.2 = .ok staged

/-- The block of a provider whose `transports` is a number or a Boolean, and that passes the rules before that
one. -/
def TransportsEscape (key : String) (provider : Provider) (entries : List (Key × Value)) : Prop :=
  ∃ updates transports, readFields key provider.chain (Value.members entries) ⟨.empty, .empty⟩ = .ok updates ∧
    blockRules provider (state provider.key).scenario.values updates.scenario layout.gated = .ok () ∧
    Dict.get entries (.text "transports") = some transports ∧ isNumber transports = true

/-- The block of a provider in which the checks get to a field whose rules raise, or to such a `transports`. -/
def BlockEscapes (item : String × Value) : Prop :=
  ∃ entries parts provider, item.2 = .dict entries ∧ partitionKey item.1 = some parts ∧
    layout.registry.provider parts.pool parts.pid = .ok provider ∧
    (GetsTo (FieldPasses provider.chain) (FieldEscapes provider.chain) (Value.members entries) ∨
      TransportsEscape layout state item.1 provider entries)

/-- The checks of a body get to a value that they raise at: every block before its block passes. -/
def Escaping (body : Value) : Prop :=
  ∃ entries providers, body = .dict entries ∧ Dict.get entries (.text "providers") = some (.dict providers) ∧
    GetsTo (BlockPasses layout state) (BlockEscapes layout state) (Value.members providers)

variable {layout state}

theorem given_transports {key : String} {chain : Chain} {entries : List (Key × Value)} {updates : Updates}
    (distinct : (Dict.keys entries).Nodup)
    (read : readFields key chain (Value.members entries) ⟨.empty, .empty⟩ = .ok updates) :
    updates.scenario.given .transports = (Dict.get entries (.text "transports")).getD .none := by
  have reads := (readFields_eq_ok (Value.members_names_nodup distinct) read).scenario .transports
  unfold Block.given
  rw [← get_members entries "transports"]
  split at reads
  · next absent =>
      rw [reads]
      show _ = (Dict.get (Value.members entries) ScenarioField.transports.name).getD _
      rw [absent]
      rfl
  · next value present =>
      obtain ⟨stored, given, form⟩ := reads
      show _ = (Dict.get (Value.members entries) ScenarioField.transports.name).getD _
      rw [given, present]
      exact form

theorem checkUpdates_escapes (hashable : ∀ key, HashablePorts (state key).scenario.values) {key : String}
    {provider : Provider} {updates : Updates} :
    Escapes (checkUpdates layout state key provider updates) ↔
      blockRules provider (state provider.key).scenario.values updates.scenario layout.gated = .ok () ∧
        isNumber (updates.scenario.given .transports) = true := by
  unfold checkUpdates
  rw [escapes_bind, escapes_mapRefusal, or_iff_right (blockRules_not_escapes (hashable _) _)]
  constructor
  · rintro ⟨_, rules, later⟩
    refine ⟨mapRefusal_eq_ok rules, validate_escapes.mp ?_⟩
    rcases escapes_bind.mp later with here | ⟨_, -, quirks⟩
    · exact escapes_mapRefusal.mp here
    · refine absurd quirks (not_escapes_bind ?_ fun _ _ => not_escapes_ok _)
      exact mt escapes_mapRefusal.mp (validateQuirks_not_escapes _ _)
  · rintro ⟨rules, number⟩
    refine ⟨(), by rw [rules]; rfl, ?_⟩
    exact escapes_bind.mpr (.inl (escapes_mapRefusal.mpr (validate_escapes.mpr number)))

/-- **One turn of the check loop.** -/
theorem checkBlock_escapes (hashable : ∀ key, HashablePorts (state key).scenario.values) {item : String × Value}
    (formed : item.2.WellFormed) :
    Escapes (checkBlock layout state item.1 item.2) ↔ BlockEscapes layout state item := by
  obtain ⟨key, block⟩ := item
  cases block with
  | dict entries =>
      dsimp only [checkBlock]
      split
      · next noColon =>
          refine iff_of_false (not_escapes_refused _) ?_
          rintro ⟨_, parts, _, _, split, -⟩
          cases noColon.symm.trans split
      · next parts split =>
          have looked : ¬ Escapes (lookUp layout parts) := by
            unfold lookUp
            split
            · exact not_escapes_ok _
            · exact not_escapes_refused _
          rw [escapes_bind, or_iff_right looked]
          constructor
          · rintro ⟨provider, found, later⟩
            refine ⟨entries, parts, provider, rfl, split, lookUp_eq_ok found, ?_⟩
            rcases escapes_bind.mp later with fields | ⟨updates, read, last⟩
            · exact .inl (readFields_escapes.mp fields)
            · obtain ⟨rules, number⟩ := (checkUpdates_escapes hashable).mp last
              rw [given_transports formed.1 read] at number
              cases given : Dict.get entries (.text "transports") with
              | none =>
                  rw [given] at number
                  cases number
              | some transports =>
                  rw [given] at number
                  exact .inr ⟨updates, transports, read, rules, given, number⟩
          · rintro ⟨_, parts', provider, same, split', served, bad⟩
            cases same
            cases split.symm.trans split'
            refine ⟨provider, by unfold lookUp; rw [served], escapes_bind.mpr ?_⟩
            rcases bad with fields | ⟨updates, transports, read, rules, given, number⟩
            · exact .inl (readFields_escapes.mpr fields)
            · refine .inr ⟨updates, read, (checkUpdates_escapes hashable).mpr ⟨rules, ?_⟩⟩
              rw [given_transports formed.1 read, given]
              exact number
  | _ =>
      refine iff_of_false (not_escapes_refused _) ?_
      rintro ⟨entries, _, _, same, -⟩
      cases same

theorem checkBlocks_escapes (hashable : ∀ key, HashablePorts (state key).scenario.values)
    {blocks : List (String × Value)} (formed : ∀ item ∈ blocks, item.2.WellFormed) :
    Escapes (checkBlocks layout state blocks) ↔
      GetsTo (BlockPasses layout state) (BlockEscapes layout state) blocks := by
  induction blocks with
  | nil => exact iff_of_false (not_escapes_ok _) not_getsTo_nil
  | cons item rest ih =>
      have later := ih fun other member => formed other (List.mem_cons_of_mem _ member)
      rw [getsTo_cons, ← checkBlock_escapes hashable (formed item List.mem_cons_self), ← later]
      show Escapes (checkBlock layout state item.1 item.2 >>= fun staged =>
        checkBlocks layout state rest >>= fun others => pure (staged :: others)) ↔ _
      rw [escapes_bind]
      refine or_congr_right ⟨?_, ?_⟩
      · rintro ⟨staged, passed, others⟩
        refine ⟨⟨staged, passed⟩, ?_⟩
        rcases escapes_bind.mp others with here | ⟨_, -, never⟩
        · exact here
        · exact absurd never (not_escapes_ok _)
      · rintro ⟨⟨staged, passed⟩, others⟩
        exact ⟨staged, passed, escapes_bind.mpr (.inl others)⟩

/-- **The checks of a body.** -/
theorem checkBody_escapes (hashable : ∀ key, HashablePorts (state key).scenario.values) (body : Json) :
    Escapes (checkBody layout state body.value) ↔ Escaping layout state body.value := by
  have found : ¬ Escapes (providersOf body.value) := by
    unfold providersOf
    split
    · split
      · exact not_escapes_ok _
      · exact not_escapes_refused _
    · exact not_escapes_refused _
  unfold checkBody
  rw [escapes_bind, or_iff_right found]
  constructor
  · rintro ⟨providers, read, later⟩
    have formed := (providersOf_formed body.formed read).2
    unfold providersOf at read
    split at read
    · next entries same =>
        split at read
        · next inner here =>
            cases read
            refine ⟨entries, providers, same, here, (checkBlocks_escapes hashable ?_).mp later⟩
            exact fun item member => formed.mem (Value.mem_members.mp member)
        · cases read
    · cases read
  · rintro ⟨entries, providers, same, here, bad⟩
    have read : providersOf body.value = .ok providers := by
      rw [same]
      dsimp only [providersOf]
      rw [here]
    have formed := (providersOf_formed body.formed read).2
    refine ⟨providers, read, (checkBlocks_escapes hashable ?_).mpr bad⟩
    exact fun item member => formed.mem (Value.mem_members.mp member)

end

/-! ### The stored ports -/

theorem HashablePorts.default : HashablePorts ScenarioConfig.default.values := nofun

theorem HashablePorts.over {layout : Layout} {state : Stored} {key : String} {entries : List (Key × Value)}
    {staged : Staged} (passed : Passed layout state key entries staged) {old : Scenario}
    (hashable : HashablePorts old) : HashablePorts (staged.scenario.over old) := by
  intro ports listed
  rcases staged.scenario.over_given old .ports with new | same
  · have valid := (validate_eq_ok passed.scenario).2
    unfold validatePorts at valid
    rw [new.symm.trans listed] at valid
    obtain ⟨_, -, later⟩ := bind_eq_ok valid
    have noneBad := refuseIf_eq_ok later
    rw [List.all_eq_true]
    intro port member
    by_contra unhashable
    have bad : port ∈ ports.filter fun port => !isPort port := by
      refine List.mem_filter.mpr ⟨member, ?_⟩
      cases port <;> first | exact absurd rfl unhashable | rfl
    simp only [Bool.not_eq_false', List.isEmpty_iff] at noneBad
    rw [noneBad] at bad
    cases bad
  · exact hashable ports (same.symm.trans listed)

/-- **The ports that a run stores can be members of a set.** -/
theorem run_hashablePorts {layout : Layout} {actions : List WriteAction} {final : Stored}
    (done : run (writeStep layout) (initial layout) actions = some final) (key : ProviderKey) :
    HashablePorts (final key).scenario.values := by
  have start : ∀ key, HashablePorts (initial layout key).scenario.values := by
    intro key
    rw [initial_values]
    exact HashablePorts.default
  refine run_invariant (fun state : Stored => ∀ key, HashablePorts (state key).scenario.values) ?_ done start key
  intro state action next stepped held
  exact writeStep_keeps HashablePorts.default (fun _ _ _ _ passed _ => HashablePorts.over passed) stepped held

/-! ### `POST /scenario` -/

/-- The call answers, and a body that it does not apply gets a 4xx. -/
def Outcome.Answered (outcome : Outcome) : Prop :=
  ∃ answer, outcome.answer = .ok answer ∧ (¬ outcome.Wrote → 400 ≤ answer.status ∧ answer.status < 500)

theorem ofRaised_answered {state : Stored} {raised : Raised ControlRefusal} :
    (Outcome.ofRaised state raised).Answered ↔ ∀ error, raised ≠ .raised error := by
  cases raised with
  | refused refusal =>
      refine iff_of_true ⟨.refused refusal, rfl, fun _ => ?_⟩ nofun
      show 400 ≤ refusal.status ∧ refusal.status < 500
      rcases refusal.status_eq with status | status
      · omega
      · omega
  | raised error =>
      refine iff_of_false ?_ fun never => never error rfl
      rintro ⟨answer, answered, -⟩
      cases answered

/-- **A call answers unless its checks escape.** -/
theorem applyScenario_answered (layout : Layout) (settlePorts : List Wish → String) (clock : ProviderKey → ℚ)
    (state : Stored) (body : Json) :
    (applyScenario layout settlePorts clock state body).Answered ↔ ¬ Escapes (checkBody layout state body.value) := by
  cases checked : checkBody layout state body.value with
  | error raised =>
      have ended : applyScenario layout settlePorts clock state body = .ofRaised state raised := by
        unfold applyScenario
        rw [checked]
      rw [ended, ofRaised_answered]
      constructor
      · rintro refused ⟨error, same⟩
        cases same
        exact refused error rfl
      · rintro stays error rfl
        exact stays ⟨error, rfl⟩
  | ok staged =>
      refine iff_of_true ?_ (not_escapes_ok _)
      obtain ⟨answer, answered, status⟩ := (applyScenario_of_checked layout settlePorts clock state body checked).1
      exact ⟨answer, answered, fun unwritten => absurd ⟨answer, answered, status⟩ unwritten⟩

/-! ### `POST /ws/emit` -/

/-- How a push to a text id ends: no subscription of this id is there, or it is marked as closed, or its queue is
full, or it gets the event. -/
def pushed (system : System String Value) (full : ℕ → Bool) (id : String) : EmitOutcome :=
  match system.registry.get id with
  | none => .unknown
  | some queue => if id ∈ system.closed then .unknown else if full queue then .full else .emitted

/-- The steps of a call of `emit`, with no other thread between them, take it to its end. -/
def EmitEnds (system : System String Value) (call : ℕ) (ended : Emit String Value) : Prop :=
  ∃ (flags : List Bool) (final : System String Value),
    run System.step system (flags.map fun flag => .emitStep call flag) = some final ∧
      final.emits[call]? = some ended

theorem EmitEnds.step {system next : System String Value} {call : ℕ} {emit ended : Emit String Value} (flag : Bool)
    (here : system.emits[call]? = some emit) (stepped : system.emitStep call flag emit = some next)
    (later : EmitEnds next call ended) : EmitEnds system call ended := by
  obtain ⟨flags, final, goes, last⟩ := later
  refine ⟨flag :: flags, final, ?_, last⟩
  have first : System.step system (.emitStep call flag) = some next := by
    dsimp only [System.step]
    rw [here]
    exact stepped
  rw [List.map_cons, run_cons, first]
  exact goes

/-- **A call of `emit`** ends this way. -/
theorem emit_ends (system : System String Value) (full : ℕ → Bool) {call : ℕ} {id : String} {event : Value}
    (called : system.emits[call]? = some (.called id event)) :
    EmitEnds system call (.answered id event (pushed system full id)) := by
  obtain ⟨bound, -⟩ := List.getElem?_eq_some_iff.mp called
  have placed : ∀ {emits : List (Emit String Value)} {emit}, emits.length = system.emits.length →
      (emits.set call emit)[call]? = some emit := fun same => List.getElem?_set_self (same ▸ bound)
  unfold pushed
  cases found : system.registry.get id with
  | none =>
      refine .step false called (by dsimp only [System.emitStep]; rw [found]) ⟨[], _, rfl, ?_⟩
      exact placed rfl
  | some queue =>
      refine .step false called (by dsimp only [System.emitStep]; rw [found]) ?_
      dsimp only
      by_cases closed : id ∈ system.closed
      · rw [if_pos closed]
        refine .step false (placed rfl) (if_pos closed) ⟨[], _, rfl, ?_⟩
        exact placed List.length_set
      · rw [if_neg closed]
        refine .step false (placed rfl) (if_neg closed) ?_
        cases room : full queue with
        | true =>
            refine .step true (placed List.length_set) rfl ⟨[], _, rfl, ?_⟩
            exact placed (List.length_set.trans List.length_set)
        | false =>
            refine .step false (placed List.length_set) rfl ⟨[], _, rfl, ?_⟩
            exact placed (List.length_set.trans List.length_set)

/-- `WsSubscriptions.emit`: a value that is no text is the id of no subscription. -/
def emit (system : System String Value) (full : ℕ → Bool) (id : Value) : Except PyError EmitOutcome :=
  match id with
  | .str name => .ok (pushed system full name)
  | other => if other.hashable then .ok .unknown else .error .typeError

/-- What the call answers. -/
inductive EmitAnswer
  | bodyNoObject
  | missingId
  | unknown (id : Value)
  | full (id : Value)
  | emitted (id : Value)

/-- The status of an answer. -/
def EmitAnswer.status : EmitAnswer → ℕ
  | .bodyNoObject => 400
  | .missingId => 400
  | .unknown _ => 404
  | .full _ => 503
  | .emitted _ => 200

/-- The body of an answer, where `repr` is the function of the language. -/
def EmitAnswer.reply (repr : Value → String) : EmitAnswer → Value
  | .bodyNoObject => .object [("error", .str "request body must be a JSON object")]
  | .missingId => .object [("error", .str "missing 'subscription_id'")]
  | .unknown id => .object [("error", .str ("no active subscription " ++ repr id))]
  | .full id => .object [("error", .str ("subscription " ++ repr id ++ " queue full"))]
  | .emitted id => .object [("status", .str "emitted"), ("subscription_id", id)]

/-- The answer for an outcome of `emit`. -/
def EmitAnswer.ofOutcome (id : Value) : EmitOutcome → EmitAnswer
  | .unknown => .unknown id
  | .full => .full id
  | .emitted => .emitted id

/-- `ws_emit`. -/
def wsEmit (system : System String Value) (full : ℕ → Bool) (body : Value) : Except PyError EmitAnswer :=
  match body with
  | .dict entries =>
      let id := (Dict.get entries (.text "subscription_id")).getD .none
      if !id.truthy then .ok .missingId
      else do
        let outcome ← emit system full id
        pure (.ofOutcome id outcome)
  | _ => .ok .bodyNoObject

/-- The body names a subscription that is there and not closed. -/
def NamesActive (system : System String Value) (body : Value) : Prop :=
  ∃ entries name, body = .dict entries ∧ Dict.get entries (.text "subscription_id") = some (.str name) ∧
    name ≠ "" ∧ system.registry.has name = true ∧ name ∉ system.closed

/-- The call answers, and a body that names no active subscription gets a 4xx. -/
def EmitAnswered (system : System String Value) (full : ℕ → Bool) (body : Value) : Prop :=
  ∃ answer, wsEmit system full body = .ok answer ∧
    (¬ NamesActive system body → 400 ≤ answer.status ∧ answer.status < 500)

/-- The body gives a subscription id that is a list with an item or an object with a member. -/
def BadId (body : Value) : Prop :=
  ∃ entries id, body = .dict entries ∧ Dict.get entries (.text "subscription_id") = some id ∧
    id.truthy = true ∧ id.hashable = false

/-- An id that can be looked up is unknown, or it is the one of an active subscription. -/
theorem emit_eq_ok (system : System String Value) (full : ℕ → Bool) {id : Value} (hashes : id.hashable = true) :
    ∃ outcome, emit system full id = .ok outcome ∧ (outcome = .unknown ∨
      ∃ name, id = .str name ∧ system.registry.has name = true ∧ name ∉ system.closed) := by
  cases id with
  | str name =>
      refine ⟨_, rfl, ?_⟩
      unfold pushed
      cases found : system.registry.get name with
      | none => exact .inl rfl
      | some queue =>
          by_cases closed : name ∈ system.closed
          · exact .inl (if_pos closed)
          · refine .inr ⟨name, rfl, ?_, closed⟩
            rw [Dict.has, found]
            rfl
  | list items => cases hashes
  | dict entries => cases hashes
  | _ => exact ⟨.unknown, rfl, .inl rfl⟩

theorem wsEmit_answered (system : System String Value) (full : ℕ → Bool) (body : Value) :
    EmitAnswered system full body ↔ ¬ BadId body := by
  cases body with
  | dict entries =>
      generalize given : (Dict.get entries (.text "subscription_id")).getD .none = id
      have shown : wsEmit system full (.dict entries) =
          if !id.truthy then .ok .missingId else emit system full id >>= fun outcome => pure (.ofOutcome id outcome) := by
        dsimp only [wsEmit]
        rw [given]
      have bad : BadId (.dict entries) ↔ id.truthy = true ∧ id.hashable = false := by
        constructor
        · rintro ⟨_, found, same, here, both⟩
          cases same
          rw [here] at given
          cases given
          exact both
        · rintro ⟨truthy, unhashable⟩
          cases here : Dict.get entries (.text "subscription_id") with
          | none =>
              rw [here] at given
              cases given
              cases truthy
          | some found =>
              rw [here] at given
              cases given
              exact ⟨entries, found, rfl, here, truthy, unhashable⟩
      rw [bad]
      unfold EmitAnswered
      rw [shown]
      cases truthy : id.truthy with
      | false => exact iff_of_true ⟨.missingId, rfl, fun _ => by decide⟩ fun both => by cases both.1
      | true =>
          cases hashes : id.hashable with
          | false =>
              have raised : emit system full id = .error .typeError := by
                cases id <;> first | rfl | cases hashes
              rw [raised]
              exact iff_of_false (by rintro ⟨_, never, -⟩; cases never) fun stays => stays ⟨rfl, rfl⟩
          | true =>
              refine iff_of_true ?_ fun both => by cases both.2
              obtain ⟨outcome, ended, unknown | ⟨name, text, there, current⟩⟩ := emit_eq_ok system full hashes
              · rw [ended, unknown]
                exact ⟨.unknown id, rfl, fun _ => (by decide : 400 ≤ 404 ∧ 404 < 500)⟩
              · subst text
                have active : NamesActive system (.dict entries) := by
                  refine ⟨entries, name, rfl, ?_, of_decide_eq_true truthy, there, current⟩
                  cases here : Dict.get entries (.text "subscription_id") with
                  | none =>
                      rw [here] at given
                      cases given
                  | some found =>
                      rw [here] at given
                      exact congrArg some given
                rw [ended]
                exact ⟨_, rfl, fun gone => absurd active gone⟩
  | _ =>
      refine iff_of_true ⟨.bodyNoObject, rfl, fun _ => by decide⟩ ?_
      rintro ⟨entries, _, same, -⟩
      cases same

theorem emit_emitted {system : System String Value} {full : ℕ → Bool} {id : Value}
    (ended : emit system full id = .ok .emitted) : ∃ name, id = .str name ∧ pushed system full name = .emitted := by
  cases id with
  | str name => exact ⟨name, rfl, Except.ok.inj ended⟩
  | _ =>
      simp only [emit] at ended
      split at ended
      · cases ended
      · cases ended

/-- A call that answers 200 names a text id, and its push ends as emitted. -/
theorem wsEmit_emitted {system : System String Value} {full : ℕ → Bool} {body id : Value}
    (answers : wsEmit system full body = .ok (.emitted id)) : ∃ name, id = .str name ∧ pushed system full name = .emitted := by
  cases body with
  | dict entries =>
      simp only [wsEmit] at answers
      generalize (Dict.get entries (.text "subscription_id")).getD .none = given at answers
      split at answers
      · cases answers
      · cases ended : emit system full given with
        | error error =>
            rw [ended] at answers
            cases answers
        | ok outcome =>
            rw [ended] at answers
            cases outcome with
            | emitted =>
                cases answers
                exact emit_emitted ended
            | unknown => cases answers
            | full => cases answers
  | _ => cases answers

/-- **An event that a call answers 200 for is on the queue of the connection that owns the subscription**: the steps of
its `emit`, with no other thread between them, put it there. -/
theorem wsEmit_queued {actions : List (WsSubscriptions.Action String Value)} {system : System String Value}
    (reached : run System.step System.start actions = some system) {full : ℕ → Bool} {body : Value} {name : String}
    (answers : wsEmit system full body = .ok (.emitted (.str name))) {call : ℕ} {event : Value}
    (called : system.emits[call]? = some (.called name event)) :
    ∃ (flags : List Bool) (final : System String Value),
      run System.step system (flags.map fun flag => .emitStep call flag) = some final ∧ final.Pushed name event := by
  obtain ⟨_, ⟨⟩, outcome⟩ := wsEmit_emitted answers
  obtain ⟨flags, final, goes, ended⟩ := emit_ends system full called
  rw [outcome] at ended
  have whole := run_append reached goes
  refine ⟨flags, final, goes, ?_⟩
  exact (run_invariant WsSubscriptions.Inv (fun _ _ _ => WsSubscriptions.step_inv) whole
    WsSubscriptions.start_inv).emitted call _ ended name event rfl

/-- **Which bodies the two calls answer**: in every state that a run of the writers reaches, and for every body,
`POST /scenario` answers it, with a 4xx if it does not apply it, unless its checks get to a value that they raise
at; and `POST /ws/emit` answers it, with a 4xx if it names no active subscription, unless it gives a list or an
object as the id. -/
theorem control_answers_iff (layout : Layout) (actions : List WriteAction) (state : Stored)
    (reached : run (writeStep layout) (initial layout) actions = some state) (settlePorts : List Wish → String)
    (clock : ProviderKey → ℚ) (system : System String Value) (full : ℕ → Bool) (body : Json) :
    ((applyScenario layout settlePorts clock state body).Answered ↔ ¬ Escaping layout state body.value) ∧
      (EmitAnswered system full body.value ↔ ¬ BadId body.value) := by
  refine ⟨?_, wsEmit_answered system full body.value⟩
  rw [applyScenario_answered, checkBody_escapes (run_hashablePorts reached)]

/-- A body that closes the port of the one provider is answered by both calls. -/
theorem control_answers_close :
    run (writeStep soloLayout) (initial soloLayout) [] = some (initial soloLayout) ∧
      ¬ Escaping soloLayout (initial soloLayout) closeBody.value ∧
      EmitAnswered System.start (fun _ => false) closeBody.value := by
  have answers := control_answers_iff soloLayout [] (initial soloLayout) rfl (fun _ => "") (fun _ => 0) System.start
    (fun _ => false) closeBody
  refine ⟨rfl, answers.1.mp ⟨_, rfl, fun unwritten => absurd ⟨_, rfl, .inl rfl⟩ unwritten⟩, answers.2.mpr ?_⟩
  rintro ⟨entries, id, same, found, -⟩
  cases same
  cases found

/-- `{"providers": {"eth-sim:1": {"mode": []}}}`. -/
def listModeBody : Json :=
  ⟨.object [("providers", .object [("eth-sim:1", .object [("mode", .list [])])])],
    by simp [Value.object, Value.WellFormed, Value.WellFormedEntries, Value.WellFormedItems]⟩

/-- `{"subscription_id": ["0x1"]}`. -/
def listIdBody : Json :=
  ⟨.object [("subscription_id", .list [.str "0x1"])],
    by simp [Value.object, Value.WellFormed, Value.WellFormedEntries, Value.WellFormedItems]⟩

/-- **A mode that is a list** ends the call with no answer, and so does a subscription id that is a list. -/
theorem list_mode_has_no_answer :
    (applyScenario soloLayout (fun _ => "") (fun _ => 0) (initial soloLayout) listModeBody).answer =
        .error .typeError ∧
      ¬ (applyScenario soloLayout (fun _ => "") (fun _ => 0) (initial soloLayout) listModeBody).Answered ∧
      wsEmit System.start (fun _ => false) listIdBody.value = .error .typeError ∧
      ¬ EmitAnswered System.start (fun _ => false) listIdBody.value := by
  refine ⟨rfl, ?_, rfl, ?_⟩
  · rintro ⟨answer, answered, -⟩
    cases answered
  · rintro ⟨answer, answered, -⟩
    cases answered

end ProviderSimulator.Control
