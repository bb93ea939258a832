/-
**Which lookups a cache-sim records.**

A test reads the call log of a cache-sim as evidence: a lookup that is not there was not made. `plan` adds
the row and answers, but it converts some fields of the request first, and a conversion that raises leaves
no row. The block is converted before the lookup is counted. The seen block and the heights are converted
after it, so these leave a count without a row.

* `Readable` — the request bodies whose fields `plan` can convert;
* `plan_eq_ok_iff` and `plan_of_readable` — what `plan` gives and leaves, from the request alone;
* `Kept` — a staged entry was validated, and the log is within its bound. Every operation keeps it;
* `Servable` — the entry that a hit serves has no text that cannot be encoded;
* `recorded_iff` — a lookup is recorded exactly when its body is readable, the latency is a number of
  seconds, the entry of a hit can be encoded and the log has room for a row;
* `counted_without_a_row` — a seen block that is no number.
-/

import Mathlib.Tactic.Common
import ProviderSimulator.CacheSim.Reset

namespace ProviderSimulator.CacheSim

open ProviderSimulator.Lib ProviderSimulator.Python ProviderSimulator.Domain

/-! ### Requests -/

/-- The fields of a request that `plan` converts. -/
structure FieldsRead (env : Environment) (decoded : List (Key × Value)) : Prop where
  requestedBlock : ∃ number, givenInt env decoded "requested_block" = .ok number
  seenBlock : ∃ number, givenInt env decoded "seen_block" = .ok number
  heights : ∃ items, ((given decoded "blocks_hashes_to_heights").orElse (.list [])).iterate = .ok items

/-- The body is no JSON that is nested too deep, and its fields can be converted. -/
def Readable (env : Environment) (body : Bytes) : Prop :=
  ∃ decoded, decodeRequest env body = .ok decoded ∧ FieldsRead env decoded

/-- A lookup is recorded: `plan` answers, the log gets one row for it and the count grows by one. A full log
loses its oldest row, and no other. -/
structure Recorded (env : Environment) (sim : Sim) (body : Bytes) : Prop where
  returns : ∃ plan, (sim.plan env body).2 = .ok plan
  row : ∃ call, call.method = getRelayMethod ∧ (sim.plan env body).1.calls =
    (if sim.calls.length < env.historyMax then sim.calls else sim.calls.tail) ++ [call]
  counted : (sim.plan env body).1.recordsTotal = sim.recordsTotal + 1

section

variable {env : Environment} {sim : Sim} {body : Bytes} {decoded : List (Key × Value)}

/-- The call of a lookup has the method of one. -/
theorem lookupCall_method {mode : String} {block : ℤ} {call : RecordedCall}
    (logs : lookupCall env decoded mode block = .ok call) : call.method = getRelayMethod := by
  unfold lookupCall at logs
  obtain ⟨seen, -, logs⟩ := ok_of_bind logs
  obtain ⟨heights, -, logs⟩ := ok_of_bind logs
  cases logs
  rfl

/-- A lookup has a call where the fields that it converts inside the lock can be converted. -/
theorem lookupCall_ok_iff {mode : String} {block : ℤ} :
    (∃ call, lookupCall env decoded mode block = .ok call) ↔
      (∃ number, givenInt env decoded "seen_block" = .ok number) ∧
        ∃ items, ((given decoded "blocks_hashes_to_heights").orElse (.list [])).iterate = .ok items := by
  unfold lookupCall
  constructor
  · rintro ⟨call, logs⟩
    obtain ⟨seen, number, logs⟩ := ok_of_bind logs
    obtain ⟨heights, items, logs⟩ := ok_of_bind logs
    exact ⟨⟨seen, number⟩, heights, items⟩
  · rintro ⟨⟨seen, number⟩, heights, items⟩
    rw [number, items]
    exact ⟨_, rfl⟩

/-- **What `plan` gives**: the answer of the cache-sim, to a request that it can read. -/
theorem plan_eq_ok_iff {plan : CachePlan} :
    (sim.plan env body).2 = .ok plan ↔ Readable env body ∧ sim.answer env = .ok plan := by
  unfold Sim.plan Readable
  cases decodes : decodeRequest env body with
  | error error => exact iff_of_false nofun (by rintro ⟨⟨_, ⟨⟩, _⟩, _⟩)
  | ok decoded =>
      dsimp only
      cases block : givenInt env decoded "requested_block" with
      | error error =>
          refine iff_of_false nofun ?_
          rintro ⟨⟨_, ⟨⟩, fields⟩, _⟩
          obtain ⟨number, converts⟩ := fields.requestedBlock
          cases block.symm.trans converts
      | ok number =>
          dsimp only
          cases logs : lookupCall env decoded sim.mode number with
          | error error =>
              refine iff_of_false nofun ?_
              rintro ⟨⟨_, ⟨⟩, fields⟩, _⟩
              obtain ⟨call, found⟩ := lookupCall_ok_iff.mpr ⟨fields.seenBlock, fields.heights⟩
              cases logs.symm.trans found
          | ok call =>
              obtain ⟨seen, heights⟩ := lookupCall_ok_iff.mp ⟨call, logs⟩
              exact ⟨fun answers => ⟨⟨decoded, rfl, ⟨number, block⟩, seen, heights⟩, answers⟩, And.right⟩

/-- **What `plan` leaves** of a request that it can read: one row more, and one more in the count. -/
theorem plan_of_readable (sim : Sim) (readable : Readable env body) :
    ∃ call, call.method = getRelayMethod ∧ (sim.plan env body).1 =
      { sim with recordsTotal := sim.recordsTotal + 1, calls := append env.historyMax sim.calls call } := by
  obtain ⟨decoded, decodes, ⟨number, block⟩, seen, heights⟩ := readable
  obtain ⟨call, logs⟩ : ∃ call, lookupCall env decoded sim.mode number = .ok call :=
    lookupCall_ok_iff.mpr ⟨seen, heights⟩
  refine ⟨call, lookupCall_method logs, ?_⟩
  unfold Sim.plan
  rw [decodes]
  dsimp only
  rw [block]
  dsimp only
  rw [logs]

/-! ### Entries and answers -/

/-- A blob that is no text, or a text that can be encoded. -/
def Encodes (env : Environment) : Raw → Prop
  | .value (.str text) => (env.encode text).isSome
  | _ => True

/-- The four blobs of an entry can be encoded. -/
structure CacheEntry.Encodable (env : Environment) (entry : CacheEntry) : Prop where
  data : Encodes env entry.data
  sig : Encodes env entry.sig
  sigBlocks : Encodes env entry.sigBlocks
  hashes : Encodes env entry.finalizedBlocksHashes

theorem encodeText_ok_iff {text : String} :
    (∃ content, encodeText env text = .ok content) ↔ (env.encode text).isSome := by
  unfold encodeText
  cases env.encode text with
  | none => exact iff_of_false (by rintro ⟨_, ⟨⟩⟩) nofun
  | some content => exact iff_of_true ⟨_, rfl⟩ rfl

/-- A blob that passed its check is sent where it can be encoded. -/
theorem b64_ok_iff {name : String} {raw : Raw} (passed : checkBlob name raw = .ok ()) :
    (∃ sent, b64 env raw = .ok sent) ↔ Encodes env raw := by
  cases raw with
  | bytes content => exact iff_of_true ⟨_, rfl⟩ trivial
  | value value =>
      cases value with
      | none => exact iff_of_true ⟨_, rfl⟩ trivial
      | str text =>
          refine Iff.trans ⟨?_, ?_⟩ encodeText_ok_iff
          · rintro ⟨sent, sends⟩
            obtain ⟨content, encodes, -⟩ := ok_of_bind sends
            exact ⟨content, encodes⟩
          · rintro ⟨content, encodes⟩
            refine ⟨.str (env.encodeBase64 content), ?_⟩
            show encodeText env text >>= _ = _
            rw [encodes]
            rfl
      | _ => cases passed

theorem checkList_eq_ok {name : String} {value : Value} (passed : checkList name value = .ok ()) :
    ∃ items, value = .list items := by
  cases value with
  | list items => exact ⟨items, rfl⟩
  | _ => cases passed

theorem listOrNull_list (items : List Value) :
    listOrNull (.list items) = .ok (if items.isEmpty then .none else .list items) := by
  cases items <;> rfl

/-- The types of an entry that passed `validate`. -/
structure CacheEntry.Typed (entry : CacheEntry) : Prop where
  data : checkBlob "data" entry.data = .ok ()
  sig : checkBlob "sig" entry.sig = .ok ()
  sigBlocks : checkBlob "sig_blocks" entry.sigBlocks = .ok ()
  hashes : checkBlob "finalized_blocks_hashes" entry.finalizedBlocksHashes = .ok ()
  latestBlock : checkInt "latest_block" entry.latestBlock = .ok ()
  seenBlock : checkInt "seen_block" entry.seenBlock = .ok ()
  statusCode : checkInt "status_code" entry.statusCode = .ok ()
  isNodeError : ∃ flag, entry.isNodeError = .bool flag
  metadata : ∃ items, entry.metadata = .list items
  optionalMetadata : ∃ items, entry.optionalMetadata = .list items
  heights : ∃ items, entry.blocksHashesToHeights = .list items

theorem typed_of_validate {entry : CacheEntry} (passed : entry.validate = .ok ()) : entry.Typed := by
  unfold CacheEntry.validate at passed
  obtain ⟨_, data, passed⟩ := ok_of_bind passed
  obtain ⟨_, sig, passed⟩ := ok_of_bind passed
  obtain ⟨_, sigBlocks, passed⟩ := ok_of_bind passed
  obtain ⟨_, hashes, passed⟩ := ok_of_bind passed
  obtain ⟨_, latestBlock, passed⟩ := ok_of_bind passed
  obtain ⟨_, seenBlock, passed⟩ := ok_of_bind passed
  obtain ⟨_, statusCode, passed⟩ := ok_of_bind passed
  cases flagged : entry.isNodeError with
  | bool flag =>
      rw [flagged] at passed
      obtain ⟨_, metadata, passed⟩ := ok_of_bind passed
      obtain ⟨_, optional, heights⟩ := ok_of_bind passed
      exact ⟨data, sig, sigBlocks, hashes, latestBlock, seenBlock, statusCode, ⟨flag, flagged⟩,
        checkList_eq_ok metadata, checkList_eq_ok optional, checkList_eq_ok heights⟩
  | _ =>
      rw [flagged] at passed
      cases passed

/-- **An entry that passed `validate` has a reply exactly when its blobs can be encoded.** -/
theorem CacheEntry.Typed.replies_iff {entry : CacheEntry} (typed : entry.Typed) :
    (∃ reply, entry.toCacheRelayReply env = .ok reply) ↔ entry.Encodable env := by
  constructor
  · rintro ⟨reply, renders⟩
    unfold CacheEntry.toCacheRelayReply at renders
    obtain ⟨data, first, renders⟩ := ok_of_bind renders
    obtain ⟨sig, second, renders⟩ := ok_of_bind renders
    obtain ⟨hashes, third, renders⟩ := ok_of_bind renders
    obtain ⟨sigBlocks, fourth, -⟩ := ok_of_bind renders
    exact ⟨(b64_ok_iff typed.data).mp ⟨_, first⟩, (b64_ok_iff typed.sig).mp ⟨_, second⟩,
      (b64_ok_iff typed.sigBlocks).mp ⟨_, fourth⟩, (b64_ok_iff typed.hashes).mp ⟨_, third⟩⟩
  · intro encodable
    obtain ⟨data, first⟩ := (b64_ok_iff typed.data).mpr encodable.data
    obtain ⟨sig, second⟩ := (b64_ok_iff typed.sig).mpr encodable.sig
    obtain ⟨hashes, third⟩ := (b64_ok_iff typed.hashes).mpr encodable.hashes
    obtain ⟨sigBlocks, fourth⟩ := (b64_ok_iff typed.sigBlocks).mpr encodable.sigBlocks
    obtain ⟨metadata, fifth⟩ := typed.metadata
    obtain ⟨optional, sixth⟩ := typed.optionalMetadata
    obtain ⟨heights, seventh⟩ := typed.heights
    unfold CacheEntry.toCacheRelayReply
    rw [first, second, third, fourth, fifth, sixth, seventh, listOrNull_list, listOrNull_list]
    exact ⟨_, rfl⟩

/-- An entry that is stored was validated, and the log is within its bound. -/
structure Kept (env : Environment) (sim : Sim) : Prop where
  typed : ∀ entry, sim.entry = some entry → entry.Typed
  bounded : sim.calls.length ≤ env.historyMax

/-- The entry that a hit serves has blobs that can be encoded. -/
def Servable (env : Environment) (sim : Sim) : Prop :=
  sim.mode = "hit" → ∀ entry, sim.entry = some entry → entry.Encodable env

/-- Outside a hit no entry is served. -/
theorem servable_of_mode {mode : String} (staged : sim.mode = mode) (noHit : mode ≠ "hit") : Servable env sim :=
  fun hit => absurd (staged.symm.trans hit) noHit

/-- **A cache-sim answers wherever its latency is a number of seconds** and the entry of a hit can be encoded. -/
theorem answers_iff (typed : ∀ entry, sim.entry = some entry → entry.Typed) :
    (∃ plan, sim.answer env = .ok plan) ↔ (env.seconds sim.latencyMs).isSome ∧ Servable env sim := by
  unfold Sim.answer
  cases env.seconds sim.latencyMs with
  | none => exact iff_of_false (by rintro ⟨_, ⟨⟩⟩) (fun both => nomatch both.1)
  | some sleep =>
      dsimp only
      split
      · next hangs => exact iff_of_true ⟨_, rfl⟩ ⟨rfl, servable_of_mode hangs (by decide)⟩
      · split
        · next errs => exact iff_of_true ⟨_, rfl⟩ ⟨rfl, servable_of_mode errs (by decide)⟩
        · split
          · next malformed => exact iff_of_true ⟨_, rfl⟩ ⟨rfl, servable_of_mode malformed (by decide)⟩
          · split
            · next entry hits stored =>
                have replies : _ ↔ entry.Encodable env := (typed entry stored).replies_iff
                constructor
                · rintro ⟨plan, answers⟩
                  obtain ⟨reply, renders, -⟩ := ok_of_bind answers
                  refine ⟨rfl, fun _ other holds => ?_⟩
                  cases stored.symm.trans holds
                  exact replies.mp ⟨reply, renders⟩
                · rintro ⟨-, servable⟩
                  obtain ⟨reply, renders⟩ := replies.mpr (servable hits entry stored)
                  rw [renders]
                  exact ⟨_, rfl⟩
            · next other =>
                refine iff_of_true ⟨_, rfl⟩ ⟨rfl, fun hit entry stored => ?_⟩
                exact absurd stored (other entry hit)

/-! ### What every operation keeps -/

theorem append_length_le {bound : ℕ} {calls : List RecordedCall} (call : RecordedCall) :
    (append bound calls call).length ≤ bound := by
  unfold append
  rw [List.length_drop, List.length_append, List.length_singleton]
  omega

/-- A log within its bound gets the row, and a full one loses its oldest. -/
theorem append_eq {bound : ℕ} {calls : List RecordedCall} (call : RecordedCall) (room : 0 < bound)
    (bounded : calls.length ≤ bound) :
    append bound calls call = (if calls.length < bound then calls else calls.tail) ++ [call] := by
  unfold append
  split
  · next short => rw [Nat.sub_eq_zero_of_le short, List.drop_zero]
  · next full =>
      have one : calls.length + 1 - bound = 1 := by omega
      rw [one]
      cases calls with
      | nil => exact absurd room full
      | cons first rest => rfl

/-- The last check of `stage`: the entry to store is read and validated. -/
def readEntry (env : Environment) : Option EntryArg → Checked (Option CacheEntry)
  | Option.none => pure Option.none
  | some (.entry entry) => do
      entry.validate
      pure (some entry)
  | some (.dict body) => do
      let entry ← CacheEntry.fromDict env body
      entry.validate
      pure (some entry)

/-- The checks of `stage` before the one of its entry. -/
def stageChecks (env : Environment) (args : StageArgs) : Checked Unit := do
  refuseIf (!modes.contains args.mode) (.unknownMode args.mode)
  refuseIf (args.mode = "hit" && args.entry.isNone) .hitWithoutEntry
  if args.errorStatus.isNone then pure () else checkStatus env args.errorStatus

theorem checkStage_eq (args : StageArgs) :
    checkStage env args = stageChecks env args >>= fun _ => readEntry env args.entry := by
  unfold checkStage stageChecks readEntry
  rw [bind_assoc]
  congr 1
  funext _
  rw [bind_assoc]
  congr 1
  funext _
  cases args.errorStatus.isNone <;> rfl

theorem stageChecks_eq_ok_iff {args : StageArgs} :
    stageChecks env args = .ok () ↔ modes.contains args.mode = true ∧
      (args.mode = "hit" → args.entry.isSome = true) ∧
      (args.errorStatus.isNone = false → checkStatus env args.errorStatus = .ok ()) := by
  unfold stageChecks
  rw [refuseIf_bind_eq_ok, refuseIf_bind_eq_ok]
  refine and_congr (by simp) (and_congr (by simp [Option.isSome_iff_ne_none]) ?_)
  cases args.errorStatus.isNone with
  | true => exact iff_of_true rfl nofun
  | false => exact ⟨fun checked _ => checked, fun checked => checked rfl⟩

theorem readEntry_typed {given : Option EntryArg} {entry : CacheEntry} (reads : readEntry env given = .ok (some entry)) :
    entry.Typed := by
  cases given with
  | none => cases reads
  | some arg =>
      cases arg with
      | entry stored =>
          obtain ⟨_, valid, reads⟩ := ok_of_bind reads
          cases reads
          exact typed_of_validate valid
      | dict body =>
          obtain ⟨_, _, reads⟩ := ok_of_bind reads
          obtain ⟨_, valid, reads⟩ := ok_of_bind reads
          cases reads
          exact typed_of_validate valid

/-- The entry that `stage` stores was validated. -/
theorem checkStage_typed {args : StageArgs} {entry : CacheEntry} (passed : checkStage env args = .ok (some entry)) :
    entry.Typed := by
  rw [checkStage_eq] at passed
  obtain ⟨_, -, reads⟩ := ok_of_bind passed
  exact readEntry_typed reads

/-- `write` touches neither the log nor the count, and stores the entry that it is given. -/
theorem write_keeps (env : Environment) (sim : Sim) (args : StageArgs) (entry : Option CacheEntry) (malformed : Raw) :
    (sim.write env args entry malformed).1.entry = entry.or sim.entry ∧
      (sim.write env args entry malformed).1.calls = sim.calls := by
  unfold Sim.write
  split
  · exact ⟨rfl, rfl⟩
  · dsimp only
    split
    · exact ⟨rfl, rfl⟩
    · split <;> exact ⟨rfl, rfl⟩

/-- `plan` touches no entry, and its log is within the bound. -/
theorem plan_keeps (kept : Kept env sim) (body : Bytes) : Kept env (sim.plan env body).1 := by
  unfold Sim.plan
  split
  · exact kept
  · split
    · exact kept
    · dsimp only
      split
      · exact ⟨kept.typed, kept.bounded⟩
      · exact ⟨kept.typed, append_length_le _⟩

theorem stage_keeps (kept : Kept env sim) (args : StageArgs) : Kept env (sim.stage env args).1 := by
  unfold Sim.stage
  split
  · exact kept
  · next entry passed =>
      split
      · exact kept
      · next malformed _ =>
          obtain ⟨stored, calls⟩ := write_keeps env sim args entry malformed
          refine ⟨fun found holds => ?_, calls ▸ kept.bounded⟩
          rw [stored] at holds
          cases entry with
          | none => exact kept.typed found holds
          | some given =>
              cases holds
              exact checkStage_typed passed

/-- **What one operation keeps.** -/
theorem Kept.apply (kept : Kept env sim) (op : Op) : Kept env (sim.apply env op).1 := by
  cases op with
  | stage args => exact stage_keeps kept args
  | plan body => exact plan_keeps kept body
  | recordOtherMethod method => exact ⟨kept.typed, append_length_le _⟩
  | clearCalls => exact ⟨kept.typed, Nat.zero_le _⟩
  | reset => exact ⟨nofun, Nat.zero_le _⟩

theorem kept_new (name : String) : Kept env (Sim.new name) := ⟨nofun, Nat.zero_le _⟩

/-- What a run keeps. -/
theorem Kept.after (kept : Kept env sim) (ops : List Op) : Kept env (after (Sim.react env) sim ops) :=
  after_invariant (Kept env) (fun _ op before => before.apply op) kept ops

/-! ### Lookups -/

theorem Kept.recorded (kept : Kept env sim) :
    Recorded env sim body ↔
      0 < env.historyMax ∧ Readable env body ∧ (env.seconds sim.latencyMs).isSome ∧ Servable env sim := by
  constructor
  · intro recorded
    obtain ⟨plan, gives⟩ := recorded.returns
    obtain ⟨readable, answers⟩ := plan_eq_ok_iff.mp gives
    refine ⟨?_, readable, (answers_iff kept.typed).mp ⟨plan, answers⟩⟩
    obtain ⟨call, -, row⟩ := recorded.row
    have within := (plan_keeps kept body).bounded
    rw [row, List.length_append, List.length_singleton] at within
    omega
  · rintro ⟨room, readable, fit⟩
    obtain ⟨plan, answers⟩ := (answers_iff kept.typed).mpr fit
    obtain ⟨call, method, leaves⟩ := plan_of_readable sim readable
    refine ⟨⟨plan, plan_eq_ok_iff.mpr ⟨readable, answers⟩⟩, ⟨call, method, ?_⟩, ?_⟩
    · rw [leaves]
      exact append_eq call room kept.bounded
    · rw [leaves]

end

/-- **A lookup is recorded exactly when its body is readable**, the staged latency is a number of seconds, the
entry that a hit serves can be encoded and the log holds a row at all. This is so in every state that operations
can bring a cache-sim to. -/
theorem recorded_iff (env : Environment) (name : String) (ops : List Op) (body : Bytes) :
    Recorded env (after (Sim.react env) (Sim.new name) ops) body ↔
      0 < env.historyMax ∧ Readable env body ∧
        (env.seconds (after (Sim.react env) (Sim.new name) ops).latencyMs).isSome ∧
          Servable env (after (Sim.react env) (Sim.new name) ops) :=
  ((kept_new name).after ops).recorded

/-- A request with a seen block that is no number. -/
def wordBody : Bytes := "\x7b\"seen_block\": \"x\"\x7d".toUTF8.toList

/-- A language that reads this request. -/
def wordEnv : Environment :=
  { emptyEnv with
    host := { emptyHost with
      loads := fun body =>
        if body = wordBody then .ok (.object [("seen_block", .str "x")]) else emptyHost.loads body } }

/-- **A lookup that is counted and has no row**: `plan` raises on a seen block that is no number, between the
count and the row. -/
theorem counted_without_a_row :
    ((Sim.new "secondary").plan wordEnv wordBody).2 = .error .valueError ∧
      ((Sim.new "secondary").plan wordEnv wordBody).1.recordsTotal = 1 ∧
      ((Sim.new "secondary").plan wordEnv wordBody).1.calls = [] ∧
      ¬Recorded wordEnv (Sim.new "secondary") wordBody := by
  have raises : ((Sim.new "secondary").plan wordEnv wordBody).2 = .error .valueError := by decide +kernel
  refine ⟨raises, by decide +kernel, by decide +kernel, fun recorded => ?_⟩
  obtain ⟨plan, gives⟩ := recorded.returns
  cases raises.symm.trans gives

end ProviderSimulator.CacheSim
