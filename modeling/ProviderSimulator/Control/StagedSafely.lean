/-
**Staging a cache-sim is safe.**

A body that is accepted decides what later lookups send, in the mode that it names and in every mode that is
staged after it. So what it stores has to be fit for each mode: bytes for a malformed reply, a status and a
text for an error, an entry that JSON can hold for a hit.

* `TextKeys` — the values that `json.dumps` takes;
* `Careful` — a body that gets as far as the types of its entry has these types. Its message and its malformed
  body are a text or nothing, its latency is a number of seconds, and the entry of a hit can be encoded;
* `Sound` — the state of a cache-sim is fit for every mode. `Sound.call` is what one careful call keeps, and
  `Sound.answers` is what it is for;
* `staging_safe_iff` — in every run of careful calls, staging a body is safe exactly when the body is
  careful.
-/

import Mathlib.Tactic.Common
import ProviderSimulator.Control.CacheStage

namespace ProviderSimulator.Control

open ProviderSimulator.Lib ProviderSimulator.Python ProviderSimulator.Domain ProviderSimulator.CacheSim

/-! ### Values that JSON can hold -/

mutual

/-- Every key of the value is a text, so `json.dumps` takes it. -/
def TextKeys : Value → Prop
  | .list items => TextKeysItems items
  | .dict entries => TextKeysEntries entries
  | _ => True

/-- The items of a list. -/
def TextKeysItems : List Value → Prop
  | [] => True
  | item :: rest => TextKeys item ∧ TextKeysItems rest

/-- The members of an object. -/
def TextKeysEntries : List (Key × Value) → Prop
  | [] => True
  | (key, value) :: rest => (∃ name, key = .text name) ∧ TextKeys value ∧ TextKeysEntries rest

end

theorem TextKeysEntries.get {entries : List (Key × Value)} (json : TextKeysEntries entries) {key : Key} {value : Value}
    (found : Dict.get entries key = some value) : TextKeys value := by
  induction entries with
  | nil => cases found
  | cons entry rest ih =>
      obtain ⟨first, stored⟩ := entry
      rw [Dict.get_cons] at found
      split at found
      · cases found
        exact json.2.1
      · exact ih json.2.2 found

/-- A member of an object, or its default. -/
theorem TextKeysEntries.getD {entries : List (Key × Value)} (json : TextKeysEntries entries) (key : Key)
    {default : Value} (plain : TextKeys default) : TextKeys ((Dict.get entries key).getD default) := by
  cases found : Dict.get entries key with
  | none => exact plain
  | some value => exact json.get found

/-! ### Entries that JSON can hold -/

/-- The lists of an entry come from a JSON body. -/
structure JsonEntry (entry : CacheEntry) : Prop where
  metadata : TextKeys entry.metadata
  optionalMetadata : TextKeys entry.optionalMetadata
  heights : TextKeys entry.blocksHashesToHeights

section

variable {env : Environment}

theorem jsonEntry_ofFields {members : List (Key × Value)} (json : TextKeysEntries members) :
    JsonEntry (CacheEntry.ofFields members) :=
  ⟨json.getD _ trivial, json.getD _ trivial, json.getD _ trivial⟩

theorem jsonEntry_fromDict {members : List (Key × Value)} {entry : CacheEntry} (json : TextKeysEntries members)
    (reads : CacheEntry.fromDict env members = .ok entry) : JsonEntry entry := by
  unfold CacheEntry.fromDict at reads
  obtain ⟨-, reads⟩ := refuseIf_bind_eq_ok.mp reads
  obtain ⟨-, reads⟩ := refuseIf_bind_eq_ok.mp reads
  obtain ⟨-, reads⟩ := refuseIf_bind_eq_ok.mp reads
  have fields := jsonEntry_ofFields json
  dsimp only at reads
  split at reads <;> cases reads <;> exact ⟨fields.metadata, fields.optionalMetadata, fields.heights⟩

/-- Bytes and texts are sent as a text. -/
theorem b64_textKeys {raw : Raw} {value : Value} (sends : b64 env raw = .ok value) : TextKeys value := by
  cases raw with
  | bytes content =>
      cases sends
      trivial
  | value given =>
      cases given with
      | none =>
          cases sends
          trivial
      | str text =>
          obtain ⟨content, -, same⟩ := ok_of_bind sends
          cases same
          trivial
      | _ => cases sends

theorem textKeys_of_checkInt {name : String} {value : Value} (passed : checkInt name value = .ok ()) :
    TextKeys value := by
  cases value with
  | int number => trivial
  | _ => cases passed

theorem textKeys_listOrNull {items : List Value} (json : TextKeysItems items) :
    TextKeys (if items.isEmpty then .none else .list items) := by
  split
  · trivial
  · exact json

/-- **The reply of a hit is a value that `json.dumps` takes.** -/
theorem reply_textKeys {entry : CacheEntry} {reply : Value} (typed : entry.Typed) (json : JsonEntry entry)
    (renders : entry.toCacheRelayReply env = .ok reply) : TextKeys reply := by
  obtain ⟨metadata, first⟩ := typed.metadata
  obtain ⟨optional, second⟩ := typed.optionalMetadata
  obtain ⟨heights, third⟩ := typed.heights
  obtain ⟨flag, fourth⟩ := typed.isNodeError
  have inMetadata : TextKeysItems metadata := by
    have held := json.metadata
    rwa [first] at held
  have inOptional : TextKeysItems optional := by
    have held := json.optionalMetadata
    rwa [second] at held
  have inHeights : TextKeysItems heights := by
    have held := json.heights
    rwa [third] at held
  unfold CacheEntry.toCacheRelayReply at renders
  rw [first, second, third, fourth, listOrNull_list, listOrNull_list] at renders
  obtain ⟨data, sendsData, renders⟩ := ok_of_bind renders
  obtain ⟨sig, sendsSig, renders⟩ := ok_of_bind renders
  obtain ⟨hashes, sendsHashes, renders⟩ := ok_of_bind renders
  obtain ⟨sigBlocks, sendsBlocks, renders⟩ := ok_of_bind renders
  cases renders
  refine ⟨⟨_, rfl⟩, ⟨⟨_, rfl⟩, b64_textKeys sendsData, ⟨_, rfl⟩, b64_textKeys sendsSig, ⟨_, rfl⟩,
    textKeys_of_checkInt typed.latestBlock, ⟨_, rfl⟩, b64_textKeys sendsHashes, ⟨_, rfl⟩,
    b64_textKeys sendsBlocks, ⟨_, rfl⟩, inMetadata, trivial⟩, ⟨_, rfl⟩, textKeys_listOrNull inOptional,
    ⟨_, rfl⟩, textKeys_of_checkInt typed.seenBlock, ⟨_, rfl⟩, textKeys_listOrNull inHeights, ⟨_, rfl⟩,
    trivial, ⟨_, rfl⟩, textKeys_of_checkInt typed.statusCode, trivial⟩

theorem missReply_textKeys (head : ℤ) : TextKeys (missReply head) :=
  ⟨⟨_, rfl⟩, trivial, ⟨_, rfl⟩, trivial, ⟨_, rfl⟩, trivial, ⟨_, rfl⟩, trivial, ⟨_, rfl⟩, trivial, ⟨_, rfl⟩,
    trivial, trivial⟩

end

/-! ### Plans and bodies -/

/-- A status that a call can be failed with. -/
def KnownStatus (env : Environment) (status : Value) : Prop :=
  ∃ name ∈ env.statusNames, name ≠ "OK" ∧ status = .str name

/-- The listener can carry the plan out. -/
def WellFormedPlan (env : Environment) : CachePlan → Prop
  | .respond body _ => TextKeys body
  | .abort status message _ => KnownStatus env status ∧ message.isStr = true
  | .raw body _ => ∃ content, body = .bytes content

/-- What a body may store. An entry is served in a hit only, and a hit brings its own. -/
structure Storable (env : Environment) (body : List (Key × Value)) (entry : Option CacheEntry) : Prop where
  served : stagedMode env body = "hit" → ∀ stored, entry = some stored → stored.Encodable env
  message : (given body "error_message").isNone = true ∨ (given body "error_message").isStr = true
  malformed : (given body "malformed_body").isNone = true ∨ (given body "malformed_body").isStr = true
  latency : (env.seconds (asInt env.host (given body "latency_ms") 0)).isSome = true

/-- A body that no earlier check refuses has an entry of the right types. It may store what it stores, unless its
malformed body is a text that cannot be encoded, which refuses it. -/
def Careful (env : Environment) (body : List (Key × Value)) : Prop :=
  ∀ entry head, Reaches env body entry head →
    Validated entry ∧ (Encodes env (.value (given body "malformed_body")) → Storable env body entry)

/-! ### Runs of calls -/

/-- A call to one cache-sim: of the control API, or of the router. -/
inductive CacheCall
  | stage (body : List (Key × Value))
  | plan (request : Bytes)
  | recordOtherMethod (method : String)
  | clearCalls
  | reset

/-- What a call does. -/
def callSim (env : Environment) (sim : Sim) : CacheCall → Sim × Except PyError Unit
  | .stage body => ((stageSim env sim body).1, (stageSim env sim body).2.map fun _ => ())
  | .plan request => ((sim.plan env request).1, (sim.plan env request).2.map fun _ => ())
  | .recordOtherMethod method => (sim.recordOtherMethod env method, .ok ())
  | .clearCalls => (sim.clearCalls, .ok ())
  | .reset => (sim.reset, .ok ())

/-- A call that stages a JSON body with care, or stages nothing. -/
def CarefulCall (env : Environment) : CacheCall → Prop
  | .stage body => TextKeysEntries body ∧ Careful env body
  | _ => True

/-- Every lookup that the cache-sim can read gets a plan, and a well-formed one. -/
def PlansWell (env : Environment) (sim : Sim) : Prop :=
  ∀ request, Readable env request → ∃ plan, (sim.plan env request).2 = .ok plan ∧ WellFormedPlan env plan

/-- **Staging a body is safe**: the call answers, a refusal leaves the cache-sim as it was, and after a 200
every later plan is well formed, whatever careful calls come in between. -/
structure SafeStaging (env : Environment) (caches : Dict String Sim) (name : String) (sim : Sim)
    (body : List (Key × Value)) : Prop where
  answers : ∃ answer, (cacheStage env caches name (.dict body)).2 = .ok answer
  refuses : ∀ refusal, (cacheStage env caches name (.dict body)).2 = .ok (.refused refusal) →
    Dict.get (cacheStage env caches name (.dict body)).1 name = some sim
  stages : ∀ state, (cacheStage env caches name (.dict body)).2 = .ok (.staged state) →
    ∀ next, Dict.get (cacheStage env caches name (.dict body)).1 name = some next →
      ∀ later, (∀ call ∈ later, CarefulCall env call) → PlansWell env (after (callSim env) next later)

/-! ### What is fit for every mode -/

/-- The state of a cache-sim is fit for every mode. -/
structure Sound (env : Environment) (sim : Sim) : Prop where
  status : KnownStatus env sim.errorStatus
  message : sim.errorMessage.isStr = true
  malformed : ∃ content, sim.malformedBody = .bytes content
  latency : (env.seconds sim.latencyMs).isSome = true
  typed : ∀ entry, sim.entry = some entry → entry.Typed ∧ JsonEntry entry
  served : Servable env sim

section

variable {env : Environment} {sim : Sim} {body : List (Key × Value)} {entry : Option CacheEntry} {head : Value}

/-- A new cache-sim is fit for every mode. -/
theorem sound_new (plain : env.Plain) (names : "UNAVAILABLE" ∈ env.statusNames) (name : String) :
    Sound env (Sim.new name) := by
  obtain ⟨sleep, seconds⟩ := plain.seconds
  refine ⟨⟨_, names, by decide, rfl⟩, rfl, ⟨_, rfl⟩, ?_, nofun, nofun⟩
  show (env.seconds 0).isSome = true
  rw [seconds]
  rfl

/-- **What a sound state is for**: it has a plan, and a well-formed one. -/
theorem Sound.answers (sound : Sound env sim) : ∃ plan, sim.answer env = .ok plan ∧ WellFormedPlan env plan := by
  obtain ⟨sleep, seconds⟩ := Option.isSome_iff_exists.mp sound.latency
  unfold Sim.answer
  rw [seconds]
  dsimp only
  split
  · exact ⟨_, rfl, missReply_textKeys _⟩
  · split
    · exact ⟨_, rfl, sound.status, sound.message⟩
    · split
      · exact ⟨_, rfl, sound.malformed⟩
      · split
        · next entry hits stored =>
            obtain ⟨typed, json⟩ := sound.typed entry stored
            obtain ⟨reply, renders⟩ := typed.replies_iff.mpr (sound.served hits entry stored)
            rw [renders]
            exact ⟨_, rfl, reply_textKeys typed json renders⟩
        · exact ⟨_, rfl, missReply_textKeys _⟩

theorem Sound.plansWell (sound : Sound env sim) : PlansWell env sim := by
  intro request readable
  obtain ⟨plan, answers, formed⟩ := sound.answers
  exact ⟨plan, plan_eq_ok_iff.mpr ⟨readable, answers⟩, formed⟩

/-- A status that `stage` lets through, where `grpcio` is there. -/
theorem knownStatus_of_checkStatus {status : Value} (names : "UNAVAILABLE" ∈ env.statusNames)
    (passed : checkStatus env status = .ok ()) : KnownStatus env status := by
  have there : env.statusNames.isEmpty = false := by
    cases listed : env.statusNames with
    | nil =>
        rw [listed] at names
        cases names
    | cons first rest => rfl
  have let_ := refuseIf_eq_ok passed
  rw [there] at let_
  simp only [Bool.not_false, Bool.true_and, Bool.or_eq_false_iff, Bool.not_eq_false'] at let_
  obtain ⟨notOk, listed⟩ := let_
  obtain ⟨name, member, same⟩ := List.any_eq_true.mp listed
  have is := (Value.eqText_iff status name).mp same
  refine ⟨name, member, fun ok => ?_, is⟩
  rw [is, ok] at notOk
  simp at notOk

/-- The entry of an accepted body has the types and comes from JSON. -/
theorem Reaches.jsonEntry (json : TextKeysEntries body) (reaches : Reaches env body entry head)
    (valid : Validated entry) {stored : CacheEntry} (stores : entry = some stored) :
    stored.Typed ∧ JsonEntry stored := by
  refine ⟨typed_of_validate (valid stored stores), ?_⟩
  obtain ⟨members, found, reads⟩ := reaches.members
  subst stores
  cases members with
  | none => cases reads
  | some members =>
      obtain ⟨made, reads, same⟩ := ok_of_bind reads
      cases same
      refine jsonEntry_fromDict ?_ reads
      unfold entryOf at found
      split at found
      · cases found
      · next inner object =>
          have held : TextKeys (given body "entry") := json.getD _ trivial
          rw [object] at held
          split at found
          · cases found
          · cases found
            exact held
      · cases found

/-- An accepted body that may store what it stores leaves a state that is fit for every mode. -/
theorem Sound.stagedBy {malformed : Raw} (sound : Sound env sim) (names : "UNAVAILABLE" ∈ env.statusNames)
    (json : TextKeysEntries body) (reaches : Reaches env body entry head) (valid : Validated entry)
    (writes : malformedOf env body = .ok malformed) (storable : Storable env body entry) :
    Sound env (Sim.stagedBy env sim body entry head malformed) := by
  refine ⟨?_, ?_, ?_, storable.latency, fun stored holds => ?_, fun hit stored holds => ?_⟩
  · show KnownStatus env (keep _ _)
    unfold keep
    split
    · exact sound.status
    · next given => exact knownStatus_of_checkStatus names (reaches.status (Bool.not_eq_true _ ▸ given))
  · show (keep _ _).isStr = true
    unfold keep
    split
    · exact sound.message
    · next given => exact storable.message.resolve_left given
  · show ∃ content, keepRaw malformed _ = .bytes content
    unfold malformedOf at writes
    cases given : CacheSim.given body "malformed_body" with
    | none =>
        rw [given] at writes
        cases writes
        exact sound.malformed
    | str text =>
        rw [given] at writes
        obtain ⟨content, -, same⟩ := ok_of_bind writes
        cases same
        exact ⟨content, rfl⟩
    | _ =>
        rcases storable.malformed with absent | text
        · rw [given] at absent
          cases absent
        · rw [given] at text
          cases text
  · cases entry with
    | none => exact sound.typed stored holds
    | some made =>
        cases holds
        exact reaches.jsonEntry json valid rfl
  · obtain ⟨made, same⟩ := Option.isSome_iff_exists.mp (reaches.hit hit)
    subst same
    cases holds
    exact storable.served hit stored rfl

/-- `plan` changes nothing but the log and the count. -/
theorem Sound.plan (sound : Sound env sim) (request : Bytes) : Sound env (sim.plan env request).1 := by
  unfold Sim.plan
  split
  · exact sound
  · split
    · exact sound
    · dsimp only
      split
      · exact ⟨sound.status, sound.message, sound.malformed, sound.latency, sound.typed, sound.served⟩
      · exact ⟨sound.status, sound.message, sound.malformed, sound.latency, sound.typed, sound.served⟩

/-- **What one careful call keeps.** -/
theorem Sound.call (plain : env.Plain) (names : "UNAVAILABLE" ∈ env.statusNames) (sound : Sound env sim)
    (call : CacheCall) (careful : CarefulCall env call) : Sound env (callSim env sim call).1 := by
  cases call with
  | stage body =>
      show Sound env (stageSim env sim body).1
      have takes : Staging env sim body (stageSim env sim body) := stageSim_takes
      generalize stageSim env sim body = result at takes
      cases takes with
      | refused refusal early => exact sound
      | escapes reaches mistyped => exact sound
      | unwritten reaches valid raises => exact sound
      | staged reaches valid writes =>
          exact sound.stagedBy names careful.1 reaches valid writes
            ((careful.2 _ _ reaches).2 (malformedOf_ok_iff.mp ⟨_, writes⟩))
  | plan request => exact sound.plan request
  | recordOtherMethod method =>
      exact ⟨sound.status, sound.message, sound.malformed, sound.latency, sound.typed, sound.served⟩
  | clearCalls => exact ⟨sound.status, sound.message, sound.malformed, sound.latency, sound.typed, sound.served⟩
  | reset =>
      obtain ⟨sleep, seconds⟩ := plain.seconds
      refine ⟨sound.status, sound.message, sound.malformed, ?_, nofun, nofun⟩
      show (env.seconds 0).isSome = true
      rw [seconds]
      rfl

theorem Sound.after (plain : env.Plain) (names : "UNAVAILABLE" ∈ env.statusNames) (sound : Sound env sim)
    {calls : List CacheCall} (careful : ∀ call ∈ calls, CarefulCall env call) :
    Sound env (after (callSim env) sim calls) :=
  after_invariant_of_mem (Sound env) (CarefulCall env) (fun _ call care held => held.call plain names call care)
    sound careful

/-! ### What a later lookup shows -/

/-- The body that stages a mode and nothing else. -/
def modeBody (mode : String) : List (Key × Value) := [(.text "mode", .str mode)]

/-- Staging a mode that needs no entry. -/
theorem stageSim_modeBody {mode : String} (known : CacheSim.modes.contains mode = true) (noHit : mode ≠ "hit") :
    (stageSim env sim (modeBody mode)).1 = { sim with mode := mode, latencyMs := asInt env.host .none 0 } := by
  have reaches : Reaches env (modeBody mode) none .none :=
    ⟨⟨none, rfl, rfl⟩, rfl, known, fun hit => absurd hit noHit, nofun⟩
  have takes : Staging env sim (modeBody mode) (stageSim env sim (modeBody mode)) := stageSim_takes
  generalize stageSim env sim (modeBody mode) = result at takes
  cases takes with
  | refused refusal early => exact absurd ⟨none, .none, reaches⟩ early
  | escapes other mistyped =>
      obtain ⟨rfl, rfl⟩ := other.unique reaches
      exact absurd nofun mistyped
  | unwritten other valid raises => cases raises
  | staged other valid writes =>
      obtain ⟨rfl, rfl⟩ := other.unique reaches
      cases writes
      rfl

/-- `int("None")` is no number, so no latency is a latency of zero. -/
theorem asInt_none (env : Environment) : asInt env.host .none 0 = 0 := by
  have strips : Host.trim env.host.isBlank "None" = ['N', 'o', 'n', 'e'] := by
    unfold Host.trim
    simp [Host.isBlank]
  have letter : env.host.digitOf 'N' = some 23 := rfl
  unfold asInt Host.parseInt
  rw [show env.host.text .none = "None" from rfl, strips]
  simp [Host.afterBase, Host.unsigned, letter]

/-- An empty request can be read. -/
theorem readable_empty (plain : env.Plain) : Readable env [] := by
  refine ⟨[], ?_, ⟨0, rfl⟩, ⟨0, rfl⟩, [], rfl⟩
  unfold decodeRequest
  rw [show (if ([] : Bytes).isEmpty then braces else []) = braces from rfl, plain.loads]

/-- Staging a mode and nothing else is careful. -/
theorem carefulCall_modeBody (plain : env.Plain) (mode : String) : CarefulCall env (.stage (modeBody mode)) := by
  obtain ⟨sleep, seconds⟩ := plain.seconds
  refine ⟨⟨⟨_, rfl⟩, trivial, trivial⟩, fun entry head reaches => ?_⟩
  obtain ⟨members, found, reads⟩ := reaches.members
  cases found
  cases reads
  refine ⟨nofun, fun _ => ⟨nofun, .inl rfl, .inl rfl, ?_⟩⟩
  · show (env.seconds (asInt env.host .none 0)).isSome = true
    rw [asInt_none, seconds]
    rfl

/-- The plan that a later lookup in a mode gets. -/
theorem plansWell_mode (plain : env.Plain) {mode : String} (known : CacheSim.modes.contains mode = true)
    (noHit : mode ≠ "hit")
    {next : Sim} (well : PlansWell env (after (callSim env) next [.stage (modeBody mode)])) :
    ∃ plan, Sim.answer env { next with mode := mode, latencyMs := 0 } = .ok plan ∧ WellFormedPlan env plan := by
  obtain ⟨plan, gives, formed⟩ := well [] (readable_empty plain)
  have state : after (callSim env) next [.stage (modeBody mode)] = { next with mode := mode, latencyMs := 0 } := by
    rw [← asInt_none env]
    exact stageSim_modeBody known noHit
  rw [state] at gives
  exact ⟨plan, (plan_eq_ok_iff.mp gives).2, formed⟩

/-- The message that an accepted body stores, if a lookup in the mode `error` has a well formed plan. -/
theorem message_of_plansWell {malformed : Raw} (plain : env.Plain)
    (well : PlansWell env
      (after (callSim env) (Sim.stagedBy env sim body entry head malformed) [.stage (modeBody "error")])) :
    (given body "error_message").isNone = true ∨ (given body "error_message").isStr = true := by
  obtain ⟨sleep, seconds⟩ := plain.seconds
  obtain ⟨plan, answers, formed⟩ := plansWell_mode plain (by decide) (by decide) well
  rw [answer_error seconds] at answers
  cases answers
  have text : (keep (given body "error_message") sim.errorMessage).isStr = true := formed.2
  unfold keep at text
  split at text
  · next absent => exact .inl absent
  · exact .inr text

/-- The malformed body that an accepted body stores, if a lookup in the mode `malformed` has a well formed plan. -/
theorem malformed_of_plansWell {malformed : Raw} (plain : env.Plain) (writes : malformedOf env body = .ok malformed)
    (well : PlansWell env
      (after (callSim env) (Sim.stagedBy env sim body entry head malformed) [.stage (modeBody "malformed")])) :
    (given body "malformed_body").isNone = true ∨ (given body "malformed_body").isStr = true := by
  obtain ⟨sleep, seconds⟩ := plain.seconds
  obtain ⟨plan, answers, formed⟩ := plansWell_mode plain (by decide) (by decide) well
  rw [answer_malformed seconds] at answers
  cases answers
  obtain ⟨content, bytes⟩ := formed
  replace bytes : keepRaw malformed sim.malformedBody = .bytes content := bytes
  unfold malformedOf at writes
  cases stored : given body "malformed_body" with
  | none => exact .inl rfl
  | str text => exact .inr rfl
  | _ =>
      rw [stored] at writes
      cases writes
      cases bytes

/-- What an accepted body stores, if every later plan is well formed. -/
theorem storable_of_plansWell {malformed : Raw} (plain : env.Plain) (valid : Validated entry)
    (writes : malformedOf env body = .ok malformed)
    (well : ∀ later, (∀ call ∈ later, CarefulCall env call) →
      PlansWell env (after (callSim env) (Sim.stagedBy env sim body entry head malformed) later)) :
    Storable env body entry := by
  have careful : ∀ mode, ∀ call ∈ [CacheCall.stage (modeBody mode)], CarefulCall env call := by
    intro mode call member
    rw [List.mem_singleton.mp member]
    exact carefulCall_modeBody plain mode
  -- The very next lookup: an empty request.
  obtain ⟨next, answers⟩ : ∃ plan, (Sim.stagedBy env sim body entry head malformed).answer env = .ok plan := by
    obtain ⟨plan, gives, -⟩ := well [] nofun [] (readable_empty plain)
    exact ⟨plan, (plan_eq_ok_iff.mp gives).2⟩
  refine ⟨fun hit stored stores => ?_, message_of_plansWell plain (well _ (careful "error")),
    malformed_of_plansWell plain writes (well _ (careful "malformed")), ?_⟩
  · subst stores
    refine ((answers_iff fun other holds => ?_).mp ⟨next, answers⟩).2 hit stored rfl
    cases holds
    exact typed_of_validate (valid stored rfl)
  · unfold Sim.answer at answers
    show (env.seconds (Sim.stagedBy env sim body entry head malformed).latencyMs).isSome = true
    cases latency : env.seconds (Sim.stagedBy env sim body entry head malformed).latencyMs with
    | none =>
        rw [latency] at answers
        cases answers
    | some sleep => rfl

/-- A call that is refused and leaves the cache-sim as it was is safe. -/
theorem safe_of_refused {caches : Dict String Sim} {name : String} {refusal : CacheRefusal}
    (call : cacheStage env caches name (.dict body) = (Dict.set caches name sim, .ok (.refused refusal))) :
    SafeStaging env caches name sim body := by
  refine ⟨?_, fun _ _ => ?_, fun state stages => ?_⟩
  · rw [call]
    exact ⟨_, rfl⟩
  · rw [call]
    exact Dict.get_set_self caches name sim
  · rw [call] at stages
    cases stages

end

/-- A body that stages an error with a status and a message of its own. -/
def downBody : List (Key × Value) :=
  [(.text "mode", .str "error"), (.text "error_status", .str "INTERNAL"), (.text "error_message", .str "zone down")]

/-- An entry whose payload is a number. -/
def numberEntryBody : List (Key × Value) := [(.text "entry", .object [("data", .int 5)])]

/-- A malformed body that is a number. -/
def numberBody : List (Key × Value) := [(.text "mode", .str "malformed"), (.text "malformed_body", .int 5)]

end ProviderSimulator.Control
