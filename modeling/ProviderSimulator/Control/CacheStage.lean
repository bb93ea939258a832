/-
**`POST /cache/.../stage`.**

`cache_stage` reads a body into the arguments of `CacheSim.stage`. What it refuses leaves the cache-sim as
it was. It catches each `ValueError`, but `validate` raises a `TypeError`, and this one escapes. The message
of an error and the malformed body are stored as they come, and nothing looks at them before a lookup in
the mode that sends them.

* `Reaches` — the bodies that get as far as the types of their entry;
* `Staging` and `stageSim_takes` — the four ways in which the call ends, with the state that each leaves.
-/

import Mathlib.Tactic.Common
import ProviderSimulator.CacheSim.Recorded

namespace ProviderSimulator.Control

open ProviderSimulator.Lib ProviderSimulator.Python ProviderSimulator.Domain ProviderSimulator.CacheSim

/-! ### The call -/

/-- Why the call answers something other than 200. -/
inductive CacheRefusal
  | bodyNoObject
  | unknownCache (name : String) (caches : List String)
  | entryNoObject (given : Value)
  | headNoNumber (given : Value)
  | stage (refusal : StageRefusal)
  /-- A `ValueError` of the language. -/
  | language

/-- The status of the answer. -/
def CacheRefusal.status : CacheRefusal → ℕ
  | .unknownCache _ _ => 404
  | _ => 400

/-- The text of the answer, where `repr` is the function of the language. -/
def CacheRefusal.text (repr : Value → String) : CacheRefusal → String
  | .bodyNoObject => "request body must be a JSON object"
  | .unknownCache name _ => "unknown cache-sim " ++ repr (.str name)
  | .entryNoObject given => "entry must be an object, got " ++ given.typeName
  | .headNoNumber given =>
      "seen_block must be a whole number or null, got " ++ repr given ++ ". It is the " ++
        "cache's own view of the chain head; omit it to leave the head alone."
  | .stage refusal => refusal.text repr
  | .language => ""

/-- What the call answers. -/
inductive CacheAnswer
  | refused (refusal : CacheRefusal)
  | staged (cache : State)

/-- `_as_int`. -/
def asInt (host : Host) (value : Value) (default : ℤ) : ℤ := (host.parseInt 10 (host.text value)).getD default

/-- `_cache_head`: the head to set, or null to leave it. -/
def cacheHead (body : List (Key × Value)) : Except CacheRefusal Value :=
  match given body "seen_block" with
  | .none => .ok .none
  | .int head => .ok (.int head)
  | other => .error (.headNoNumber other)

/-- `str(body.get("mode", "hit"))`. -/
def stagedMode (env : Environment) (body : List (Key × Value)) : String :=
  env.host.text ((Dict.get body (.text "mode")).getD (.str "hit"))

/-- The members of the entry of the body. An empty object counts as no entry. -/
def entryOf (body : List (Key × Value)) : Except CacheRefusal (Option (List (Key × Value))) :=
  match given body "entry" with
  | .none => .ok none
  | .dict members => .ok (if members.isEmpty then none else some members)
  | other => .error (.entryNoObject other)

/-- `CacheEntry.from_dict(entry) if entry else None`. -/
def readMembers (env : Environment) : Option (List (Key × Value)) → CacheSim.Checked (Option CacheEntry)
  | none => .ok none
  | some members => do pure (some (← CacheEntry.fromDict env members))

/-- The arguments of `stage`. -/
def stageArgs (env : Environment) (body : List (Key × Value)) (entry : Option CacheEntry) (head : Value) :
    StageArgs where
  mode := stagedMode env body
  entry := entry.map .entry
  latencyMs := .int (asInt env.host (given body "latency_ms") 0)
  errorStatus := given body "error_status"
  errorMessage := given body "error_message"
  malformedBody := .value (given body "malformed_body")
  seenBlock := head

/-- `except (UnknownMode, ValueError)`: the `TypeError` of `validate` is no such error. -/
def caught : Raised StageRefusal → Except PyError CacheAnswer
  | .refused (.fieldType _ _ _) => .error .typeError
  | .refused refusal => .ok (.refused (.stage refusal))
  | .raised .valueError => .ok (.refused .language)
  | .raised error => .error error

/-- The answer, once `stage` has ended. -/
def ended : Sim × CacheSim.Checked Unit → Sim × Except PyError CacheAnswer
  | (next, .error raised) => (next, caught raised)
  | (next, .ok ()) => (next, .ok (.staged next.state))

/-- What `cache_stage` does with the cache-sim that it finds. -/
def stageSim (env : Environment) (sim : Sim) (body : List (Key × Value)) : Sim × Except PyError CacheAnswer :=
  match entryOf body with
  | .error refusal => (sim, .ok (.refused refusal))
  | .ok members =>
      match cacheHead body with
      | .error refusal => (sim, .ok (.refused refusal))
      | .ok head =>
          match readMembers env members with
          | .error raised => (sim, caught raised)
          | .ok entry => ended (sim.stage env (stageArgs env body entry head))

/-- `cache_stage`. -/
def cacheStage (env : Environment) (caches : Dict String Sim) (name : String) (body : Value) :
    Dict String Sim × Except PyError CacheAnswer :=
  match body with
  | .dict entries =>
      match Dict.get caches name with
      | some sim => (Dict.set caches name (stageSim env sim entries).1, (stageSim env sim entries).2)
      | none => (caches, .ok (.refused (.unknownCache name (sortedTexts (Dict.keys caches)))))
  | _ => (caches, .ok (.refused .bodyNoObject))

/-! ### How the call ends -/

/-- No check before the types of the entry refuses the body. -/
structure Reaches (env : Environment) (body : List (Key × Value)) (entry : Option CacheEntry) (head : Value) : Prop where
  members : ∃ members, entryOf body = .ok members ∧ readMembers env members = .ok entry
  head : cacheHead body = .ok head
  mode : CacheSim.modes.contains (stagedMode env body) = true
  hit : stagedMode env body = "hit" → entry.isSome = true
  status : (given body "error_status").isNone = false → checkStatus env (given body "error_status") = .ok ()

/-- Every entry that the body stores has the types that `validate` wants. -/
def Validated (entry : Option CacheEntry) : Prop := ∀ stored, entry = some stored → stored.validate = .ok ()

/-- The malformed body that a lookup is to get, with a text as its bytes. -/
def malformedOf (env : Environment) (body : List (Key × Value)) : Except PyError Raw :=
  encoded env (.value (given body "malformed_body"))

/-- The state that a body leaves when it is accepted. -/
def Sim.stagedBy (env : Environment) (sim : Sim) (body : List (Key × Value)) (entry : Option CacheEntry)
    (head : Value) (malformed : Raw) : Sim :=
  { sim with
    mode := stagedMode env body
    entry := entry.or sim.entry
    latencyMs := asInt env.host (given body "latency_ms") 0
    errorStatus := keep (given body "error_status") sim.errorStatus
    errorMessage := keep (given body "error_message") sim.errorMessage
    malformedBody := keepRaw malformed sim.malformedBody
    seenBlock := head.asInt.getD sim.seenBlock }

/-- The ends of the call. -/
inductive Staging (env : Environment) (sim : Sim) (body : List (Key × Value)) :
    Sim × Except PyError CacheAnswer → Prop
  /-- A check refuses the body. -/
  | refused (refusal : CacheRefusal) (early : ¬∃ entry head, Reaches env body entry head) :
      Staging env sim body (sim, .ok (.refused refusal))
  /-- The `TypeError` of `validate` escapes. -/
  | escapes {entry : Option CacheEntry} {head : Value} (reaches : Reaches env body entry head)
      (mistyped : ¬Validated entry) : Staging env sim body (sim, .error .typeError)
  /-- The malformed body is a text that cannot be encoded. -/
  | unwritten {entry : Option CacheEntry} {head : Value} {error : PyError} (reaches : Reaches env body entry head)
      (valid : Validated entry) (raises : malformedOf env body = .error error) :
      Staging env sim body (sim, .ok (.refused .language))
  | staged {entry : Option CacheEntry} {head : Value} {malformed : Raw} (reaches : Reaches env body entry head)
      (valid : Validated entry) (writes : malformedOf env body = .ok malformed) :
      Staging env sim body
        (Sim.stagedBy env sim body entry head malformed,
          .ok (.staged (Sim.stagedBy env sim body entry head malformed).state))

section

variable {env : Environment} {sim : Sim} {body : List (Key × Value)} {entry : Option CacheEntry} {head : Value}

/-- A body reaches the types with one entry and one head. -/
theorem Reaches.unique {other : Option CacheEntry} {above : Value} (first : Reaches env body entry head)
    (second : Reaches env body other above) : entry = other ∧ head = above := by
  obtain ⟨members, found, reads⟩ := first.members
  obtain ⟨members', found', reads'⟩ := second.members
  cases found.symm.trans found'
  cases reads.symm.trans reads'
  cases first.head.symm.trans second.head
  exact ⟨rfl, rfl⟩

/-- `validate` raises nothing but its `TypeError`. -/
theorem validate_error {stored : CacheEntry} {raised : Raised StageRefusal} (fails : stored.validate = .error raised) :
    ∃ name wanted found, raised = .refused (.fieldType name wanted found) := by
  have blob : ∀ {name : String} {raw : Raw}, checkBlob name raw = .error raised →
      ∃ name wanted found, raised = .refused (.fieldType name wanted found) := by
    intro name raw fails
    cases raw with
    | bytes content => cases fails
    | value value => cases value <;> cases fails <;> exact ⟨_, _, _, rfl⟩
  have flag : ∀ {flag : Bool} {name wanted found : String},
      refuseIf flag (.fieldType name wanted found) = (.error raised : CacheSim.Checked Unit) →
        ∃ name wanted found, raised = .refused (.fieldType name wanted found) := by
    intro flag name wanted found fails
    cases flag with
    | false => cases fails
    | true =>
        cases fails
        exact ⟨_, _, _, rfl⟩
  -- The checks stand in a row, so the one that fails is the first that does.
  have next : ∀ {first : CacheSim.Checked Unit} {rest : Unit → CacheSim.Checked Unit}, first >>= rest = .error raised →
      first = .error raised ∨ rest () = .error raised := by
    intro first rest fails
    cases first with
    | error found => exact .inl fails
    | ok _ => exact .inr fails
  unfold CacheEntry.validate at fails
  rcases next fails with fails | fails
  · exact blob fails
  rcases next fails with fails | fails
  · exact blob fails
  rcases next fails with fails | fails
  · exact blob fails
  rcases next fails with fails | fails
  · exact blob fails
  rcases next fails with fails | fails
  · exact flag fails
  rcases next fails with fails | fails
  · exact flag fails
  rcases next fails with fails | fails
  · exact flag fails
  cases flagged : stored.isNodeError with
  | bool value =>
      rw [flagged] at fails
      rcases next fails with fails | fails
      · exact flag fails
      rcases next fails with fails | fails
      · exact flag fails
      · exact flag fails
  | _ =>
      rw [flagged] at fails
      cases fails
      exact ⟨_, _, _, rfl⟩

/-- Whatever the checks raise is a `ValueError`, so it is caught. -/
def Catches {T : Type} (result : CacheSim.Checked T) : Prop :=
  ∀ raised, result = .error raised → ∃ refusal, caught raised = .ok (.refused refusal)

namespace Catches

variable {S T : Type}

theorem ok (value : T) : Catches (.ok value) := nofun

theorem bind {first : CacheSim.Checked S} {next : S → CacheSim.Checked T} (one : Catches first)
    (two : ∀ value, Catches (next value)) :
    Catches (first >>= next) := by
  cases first with
  | ok value => exact two value
  | error found =>
      intro raised fails
      cases fails
      exact one found rfl

theorem refuseIf {flag : Bool} {refusal : StageRefusal} {answer : CacheRefusal}
    (answers : caught (.refused refusal) = .ok (.refused answer)) : Catches (refuseIf flag refusal) := by
  intro raised fails
  cases flag with
  | false => cases fails
  | true =>
      cases fails
      exact ⟨answer, answers⟩

end Catches

/-- What `from_dict` refuses is a `ValueError`. -/
theorem catches_readMembers (members : Option (List (Key × Value))) : Catches (readMembers env members) := by
  cases members with
  | none => exact .ok none
  | some members =>
      refine .bind ?_ fun entry => .ok (some entry)
      unfold CacheEntry.fromDict
      refine .bind (.refuseIf rfl) fun _ => .bind (.refuseIf rfl) fun _ => .bind (.refuseIf rfl) fun _ => ?_
      dsimp only
      split
      · exact .ok _
      · exact .ok _
      · exact .ok _

/-- What `stage` refuses before it looks at its entry is a `ValueError`. -/
theorem catches_stageChecks (args : StageArgs) : Catches (stageChecks env args) := by
  unfold stageChecks
  refine .bind (.refuseIf rfl) fun _ => .bind (.refuseIf rfl) fun _ => ?_
  split
  · exact .ok ()
  · exact .refuseIf rfl

/-- A text that cannot be encoded is a `ValueError`, so it is caught. -/
theorem malformedOf_error {error : PyError} (raises : malformedOf env body = .error error) : error = .valueError := by
  unfold malformedOf at raises
  cases given : given body "malformed_body" with
  | str text =>
      rw [given] at raises
      replace raises : (do pure (.bytes (← encodeText env text))) = (.error error : Except PyError Raw) := raises
      unfold encodeText at raises
      cases encodes : env.encode text with
      | none =>
          rw [encodes] at raises
          cases raises
          rfl
      | some content =>
          rw [encodes] at raises
          cases raises
  | _ =>
      rw [given] at raises
      cases raises

theorem malformedOf_ok_iff :
    (∃ malformed, malformedOf env body = .ok malformed) ↔ Encodes env (.value (given body "malformed_body")) := by
  unfold malformedOf
  cases given body "malformed_body" with
  | str text =>
      refine Iff.trans ⟨?_, ?_⟩ encodeText_ok_iff
      · rintro ⟨malformed, writes⟩
        obtain ⟨content, encodes, -⟩ := ok_of_bind writes
        exact ⟨content, encodes⟩
      · rintro ⟨content, encodes⟩
        refine ⟨.bytes content, ?_⟩
        show encodeText env text >>= _ = _
        rw [encodes]
        rfl
  | _ => exact iff_of_true ⟨_, rfl⟩ trivial

/-- What an accepted body leaves. -/
theorem write_stageArgs {malformed : Raw} (reads : cacheHead body = .ok head) :
    sim.write env (stageArgs env body entry head) entry malformed =
      (Sim.stagedBy env sim body entry head malformed, .ok ()) := by
  unfold cacheHead at reads
  split at reads
  · cases reads
    rfl
  · cases reads
    rfl
  · cases reads

/-- How the call ends, from the entry and the head on. -/
theorem stage_takes (members : ∃ members, entryOf body = .ok members ∧ readMembers env members = .ok entry)
    (above : cacheHead body = .ok head) :
    Staging env sim body (ended (sim.stage env (stageArgs env body entry head))) := by
  have early : ∀ {refusal : CacheRefusal}, ¬Reaches env body entry head →
      Staging env sim body (sim, .ok (.refused refusal)) := by
    intro refusal fails
    refine .refused refusal ?_
    rintro ⟨other, above', reaches⟩
    obtain ⟨found, finds, reads⟩ := members
    obtain ⟨found', finds', reads'⟩ := reaches.members
    cases finds.symm.trans finds'
    cases reads.symm.trans reads'
    cases above.symm.trans reaches.head
    exact fails reaches
  cases checks : stageChecks env (stageArgs env body entry head) with
  | error raised =>
      obtain ⟨refusal, same⟩ := catches_stageChecks _ raised checks
      have whole : checkStage env (stageArgs env body entry head) = .error raised := by
        rw [checkStage_eq, checks]
        rfl
      unfold Sim.stage
      rw [whole]
      show Staging env sim body (sim, caught raised)
      rw [same]
      refine early fun reaches => ?_
      have passes : stageChecks env (stageArgs env body entry head) = .ok () :=
        stageChecks_eq_ok_iff.mpr ⟨reaches.mode, fun hit => (Option.isSome_map).trans (reaches.hit hit), reaches.status⟩
      cases checks.symm.trans passes
  | ok _ =>
      obtain ⟨mode, hit, status⟩ := stageChecks_eq_ok_iff.mp checks
      have reaches : Reaches env body entry head :=
        ⟨members, above, mode, fun hits => (Option.isSome_map).symm.trans (hit hits), status⟩
      -- With an entry of the right types, the malformed body is all that can still be refused.
      have passed : readEntry env (entry.map .entry) = .ok entry → Validated entry →
          Staging env sim body (ended (sim.stage env (stageArgs env body entry head))) := by
        intro reads types
        have whole : checkStage env (stageArgs env body entry head) = .ok entry := by
          rw [checkStage_eq, checks]
          exact reads
        unfold Sim.stage
        rw [whole]
        dsimp only
        cases writes : malformedOf env body with
        | error error =>
            rw [show encoded env (stageArgs env body entry head).malformedBody = .error error from writes]
            have same := malformedOf_error writes
            subst same
            exact .unwritten reaches types writes
        | ok malformed =>
            rw [show encoded env (stageArgs env body entry head).malformedBody = .ok malformed from writes]
            dsimp only
            rw [write_stageArgs above]
            exact .staged reaches types writes
      cases entry with
      | none => exact passed rfl nofun
      | some stored =>
          cases valid : stored.validate with
          | ok _ =>
              refine passed ?_ ?_
              · show stored.validate >>= _ = _
                rw [valid]
                rfl
              · rintro other ⟨⟩
                exact valid
          | error raised =>
              obtain ⟨name, wanted, found, rfl⟩ := validate_error valid
              have reads : readEntry env ((some stored).map .entry) = .error (.refused (.fieldType name wanted found)) := by
                show stored.validate >>= _ = _
                rw [valid]
                rfl
              have whole : checkStage env (stageArgs env body (some stored) head) =
                  .error (.refused (.fieldType name wanted found)) := by
                rw [checkStage_eq, checks]
                exact reads
              unfold Sim.stage
              rw [whole]
              exact .escapes reaches fun all => by cases valid.symm.trans (all stored rfl)

/-- **How the call ends.** -/
theorem stageSim_takes : Staging env sim body (stageSim env sim body) := by
  unfold stageSim
  cases found : entryOf body with
  | error refusal =>
      refine .refused refusal ?_
      rintro ⟨entry, head, reaches⟩
      obtain ⟨members, finds, -⟩ := reaches.members
      cases found.symm.trans finds
  | ok members =>
      dsimp only
      cases above : cacheHead body with
      | error refusal =>
          refine .refused refusal ?_
          rintro ⟨entry, head, reaches⟩
          cases above.symm.trans reaches.head
      | ok head =>
          dsimp only
          cases reads : readMembers env members with
          | error raised =>
              obtain ⟨refusal, same⟩ := catches_readMembers members raised reads
              dsimp only
              rw [same]
              refine .refused refusal ?_
              rintro ⟨entry, head, reaches⟩
              obtain ⟨members', finds, reads'⟩ := reaches.members
              cases found.symm.trans finds
              cases reads.symm.trans reads'
          | ok entry => exact stage_takes ⟨members, found, reads⟩ above

end

end ProviderSimulator.Control
