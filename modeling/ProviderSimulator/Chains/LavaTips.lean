/-
**The tips that Lava reports.**

Each interface of a Lava pool has a head of its own. What a provider reports of it is the head less `blocks_behind`,
and 0 where that is negative, in every reply that names the tip; and a block or a validator set that is asked for at the
reported height is the one that is served with no height.

* `tm_reply`, `rest_reply` — a reply of a method or a route, where no entry of `responses` applies;
* `AsksTip` — the parameters name no height, or the one of the tip;
* `lava_tip_agrees` — **the replies of the three interfaces that name a tip name the same one**;
* `validator_pages` — **the pages of the validator set are the set**, each validator once and in order.
-/

import Mathlib.Tactic.Common
import ProviderSimulator.Chains.EthHeads
import ProviderSimulator.Chains.TendermintCalls

namespace ProviderSimulator.Chains.Lava

open ProviderSimulator.Lib ProviderSimulator.Python ProviderSimulator.Domain ProviderSimulator.Stubs

/-- The height that a provider reports. -/
def tip (head behind : ℤ) : ℤ := max (head - behind) 0

section

variable {host : Host} {request : Parsed} {scenario : Scenario} {head behind : ℤ}

theorem effectiveHead_int (host : Host) (head behind : ℤ) :
    effectiveHead host head (.int behind) = .ok (.int (tip head behind)) := by
  unfold effectiveHead
  rw [Host.sub_int, ok_bind, atLeastZero_int]
  rfl

/-! ### Tendermint -/

/-- The request calls a method with parameters. -/
structure Calls (request : Parsed) (method : String) (params : List (String × Value)) : Prop where
  method : request.getD "method" (.str "unknown") = .str method
  params : (request.get "params").orElse (.dict []) = .object params

/-- The entry of a method is the empty one, where no entry of `responses` applies. -/
theorem methodCfgOf_free {method : String} (none : NoOverride scenario method) :
    methodCfgOf (responsesOf scenario) (.str method) = .ok (.dict []) := by
  obtain ⟨entries, responses, own, default⟩ := none
  rw [responses, methodCfgOf_eq entries rfl]
  unfold entryAt
  dsimp only
  rw [own, default]
  rfl

/-- A reply of a known method, where no entry of `responses` applies. -/
theorem tm_reply {method : String} {params : List (String × Value)} {stub result : Value}
    (calls : Calls request method params) (none : NoOverride scenario method)
    (known : tendermintMethodDefaults.get method = some stub)
    (gives : tmResult host head (scenario .blocksBehind) (.object params) method stub = .ok result) :
    buildTm host request scenario head =
      .ok { status := scenario .httpStatus, body := resultEnvelope (request.getD "id" (.int 1)) result } := by
  have computed : computedPlan host head (.str method) (.object params) scenario =
      .ok ⟨scenario .httpStatus, false, result⟩ := by
    unfold computedPlan
    rw [show tableGet tendermintMethodDefaults (.str method) = .ok (some stub) from congrArg Except.ok known, ok_bind]
    dsimp only
    rw [gives]
    rfl
  have plan : tmPlan host head (.str method) (.object params) scenario = .ok ⟨scenario .httpStatus, false, result⟩ := by
    unfold tmPlan
    rw [methodCfgOf_free none, ok_bind]
    exact computed
  rw [buildTm_eq, calls.method, calls.params, plan]
  rfl

/-- The parameters name no height, or the one of the tip. -/
def AsksTip (host : Host) (height : ℤ) (params : List (String × Value)) : Prop :=
  (paramOf params "height").isNone = true ∨ numberOf host (paramOf params "height") = some height

/-- The height is named as it is reported. -/
theorem asksTip_text (host : Host) {height : ℤ} (printable : Printable height) :
    AsksTip host height [("height", .str (toString height))] := .inr (host.parseInt_toString printable.digits)

theorem readHeight_tip {params : List (String × Value)} (asks : AsksTip host (tip head behind) params) (default : ℤ) :
    readHeight host head (.int behind) default params = .ok (.int (tip head behind)) := by
  unfold readHeight
  by_cases absent : (paramOf params "height").isNone = true
  · rw [if_pos absent, effectiveHead_int]
  · rw [if_neg absent, toInt_eq, asks.resolve_left absent]
    rfl

theorem tmBlock_tip {params : List (String × Value)} (asks : AsksTip host (tip head behind) params) :
    tmBlock host head (.int behind) (.object params) =
      .ok (tmBlockResponse (toString (tip head behind)) (toString (max (tip head behind - 1) 0))) := by
  rw [tmBlock_object, readHeight_tip asks, ok_bind]
  unfold tmBlockAt
  rw [Host.sub_int, ok_bind, atLeastZero_int, ok_bind]
  rfl

theorem tmValidators_tip {params : List (String × Value)} (asks : AsksTip host (tip head behind) params) :
    tmValidators host head (.int behind) (.object params) =
      .ok (tmValidatorsResponse (toString (tip head behind)) (pageOf host params) (perPageOf host params)) := by
  rw [tmValidators_object, readHeight_tip asks]
  rfl

/-- The replies that a height is stamped into: the method, the member and its field. -/
def stamped : List (String × String × String) :=
  [("status", "sync_info", "latest_block_height"), ("abci_info", "response", "last_block_height")]

theorem tmResult_stamped {method part field : String} (one : (method, part, field) ∈ stamped) (params : Value) :
    ∃ stub result, tendermintMethodDefaults.get method = some stub ∧
      tmResult host head (.int behind) params method stub = .ok result ∧
      (result.item part >>= fun inner => inner.item field) = .ok (.str (toString (tip head behind))) := by
  let text := Value.str (toString (tip head behind))
  let both := fun stub =>
    stampHeight "response" "last_block_height" text (stampHeight "sync_info" "latest_block_height" text stub)
  rcases List.mem_cons.mp one with first | second
  · cases first
    refine ⟨tmStatusResponse, both tmStatusResponse, rfl, ?_, rfl⟩
    unfold tmResult
    dsimp only
    rw [effectiveHead_int, ok_bind]
    rfl
  · cases List.mem_singleton.mp second
    refine ⟨tmAbciInfoResponse, both tmAbciInfoResponse, rfl, ?_, rfl⟩
    unfold tmResult
    dsimp only
    rw [effectiveHead_int, ok_bind]
    rfl

/-! ### REST -/

/-- The two routes of a block. -/
def latestRoute : String := "/cosmos/base/tendermint/v1beta1/blocks/latest"

def heightRoute : String := "/cosmos/base/tendermint/v1beta1/blocks/\x7bheight\x7d"

/-- The request is a GET of a route, and no entry of `responses` applies to it. -/
structure Gets (request : Parsed) (scenario : Scenario) (template : String) : Prop where
  route : routeKey request = (.str "GET", .str template)
  free : ∃ entries, responsesOf scenario = .dict entries ∧ Dict.get entries (.pair (.str "GET") (.str template)) = none ∧
    Dict.get entries (.text "default") = none

/-- A reply of a known route, where no entry of `responses` applies. -/
theorem rest_reply {template : String} {stub result : Value} (gets : Gets request scenario template)
    (known : restStub (.str "GET", .str template) = some stub)
    (gives : restComputed host request head (scenario .blocksBehind) (.str "GET", .str template) stub = .ok result) :
    buildRest host request scenario head = .ok { status := scenario .httpStatus, body := result } := by
  obtain ⟨route, entries, responses, own, default⟩ := gets
  have entry : getRoute (.dict entries) (.str "GET", .str template) = .ok none := congrArg Except.ok own
  have fallback : orDefault (.dict entries) none = .ok (.dict []) := by
    change Except.ok ((Dict.get entries (.text "default")).getD (.dict [])) = _
    rw [default]
    rfl
  have free : ∀ onError onBody, canned restErrorStubs [] onError onBody = .ok none := fun _ _ => rfl
  unfold buildRest
  dsimp only
  rw [route, responses, entry, ok_bind, fallback, ok_bind]
  dsimp only
  rw [free, ok_bind, known]
  dsimp only
  rw [gives]
  rfl

/-- The height of the header of a block. -/
def headerHeight (block : Value) : Except PyError Value := do
  (← (← block.item "block").item "header").item "height"

/-- The stub of a block, with another height in its header. -/
def headed (text : String) : Value :=
  ((restBlockResponse restLatestHeight).setPath headerPath "height" (.str text)).toOption.getD .none

/-- The same, with another height in its last commit. -/
def committed (text : String) (number : ℤ) : Value :=
  ((headed text).setPath lastCommitPath "height" (.str (decimal (max (number - 1) 0)))).toOption.getD .none

/-- A commit that is set, or left alone where the text is no number, leaves the height of the header. -/
theorem setLastCommit_headed (host : Host) (text : String) :
    ∃ block, (∀ caught, .valueError ∈ caught → setLastCommit host caught (.str text) (headed text) = .ok block) ∧
      headerHeight block = .ok (.str text) ∧ ∀ query, echoPageKey host block query = .ok block := by
  have echo : ∀ {block : Value} {entries}, block = .dict entries → Dict.get entries (.text "pagination") = none →
      ∀ query, echoPageKey host block query = .ok block := by
    rintro block entries rfl absent query
    unfold echoPageKey
    cases query <;> first | rfl | (dsimp only; rw [absent])
  cases read : host.parseInt 10 text with
  | some number =>
      have before : heightBefore host (.str text) = .ok (.str (decimal (max (number - 1) 0))) := by
        unfold heightBefore Host.intOf
        dsimp only
        rw [read]
        rfl
      refine ⟨committed text number, fun caught _ => ?_, rfl, echo rfl rfl⟩
      unfold setLastCommit
      rw [before]
      rfl
  | none =>
      have before : heightBefore host (.str text) = .error .valueError := by
        unfold heightBefore Host.intOf
        dsimp only
        rw [read]
        rfl
      refine ⟨headed text, fun caught catches => ?_, rfl, echo rfl rfl⟩
      unfold setLastCommit
      rw [before]
      exact if_pos catches

/-- The block of both routes at the tip. -/
theorem latestBlock_tip (host : Host) (head behind : ℤ) :
    ∃ block, latestBlock host head (.int behind) (restBlockResponse restLatestHeight) = .ok block ∧
      blockAt host (.object [("height", .str (toString (tip head behind)))]) (restBlockResponse restLatestHeight) =
        .ok block ∧
      headerHeight block = .ok (.str (toString (tip head behind))) ∧
      ∀ query, echoPageKey host block query = .ok block := by
  obtain ⟨block, set, height, echo⟩ := setLastCommit_headed host (toString (tip head behind))
  have header : (restBlockResponse restLatestHeight).setPath headerPath "height"
      (.str (toString (tip head behind))) = .ok (headed (toString (tip head behind))) := rfl
  have isDict : (restBlockResponse restLatestHeight).isDict = true := rfl
  refine ⟨block, ?_, ?_, height, echo⟩
  · unfold latestBlock
    rw [if_pos isDict, Host.sub_int, ok_bind, atLeastZero_int, ok_bind]
    change ((restBlockResponse restLatestHeight).setPath headerPath "height"
      (.str (toString (tip head behind))) >>= _) = _
    rw [header, ok_bind]
    exact set _ (by decide)
  · have named : (Value.object [("height", .str (toString (tip head behind)))]).get "height" =
        .ok (some (.str (toString (tip head behind)))) := rfl
    unfold blockAt
    rw [named, ok_bind]
    dsimp only
    rw [isDict, if_pos (show (!(Value.str (toString (tip head behind))).isNone && true) = true from rfl)]
    change ((restBlockResponse restLatestHeight).setPath headerPath "height"
      (.str (toString (tip head behind))) >>= _) = _
    rw [header, ok_bind]
    exact set _ (by decide)

/-! ### The three interfaces -/

theorem grpc_reply (calls : request.getD "method" (.str "unknown") = .str "GetLatestBlock")
    (none : NoOverride scenario "GetLatestBlock") (lag : scenario .blocksBehind = .int behind) :
    buildGrpc host request scenario head = .ok {
      status := .int 200
      body := .object [
        ("grpc_method", .str "GetLatestBlock"), ("height", .int (tip head behind)),
        ("chain_id", .str lavaSimChainId)] } := by
  have data : grpcData host head (.int behind) (.str "GetLatestBlock") = .ok (.object [
      ("grpc_method", .str "GetLatestBlock"), ("height", .int (tip head behind)), ("chain_id", .str lavaSimChainId)]) := by
    unfold grpcData
    rw [effectiveHead_int]
    rfl
  unfold buildGrpc
  dsimp only
  rw [calls, methodCfgOf_free none, ok_bind]
  change (grpcData host head (scenario .blocksBehind) (.str "GetLatestBlock") >>= _) = _
  rw [lag, data]
  rfl

/-- The replies that name a tip name the height, each one in the form of its interface. The height can be written, so
that each reply can be built. -/
structure NamesTip (host : Host) (scenario : Scenario) (head height : ℤ) : Prop where
  printable : Printable height
  own : AsksTip host height [("height", .str (toString height))]
  status : ∀ row ∈ stamped, ∀ request params, Calls request row.1 params → NoOverride scenario row.1 →
    ∃ result, (result.item row.2.1 >>= fun inner => inner.item row.2.2) = .ok (.str (toString height)) ∧
      buildTm host request scenario head =
        .ok { status := scenario .httpStatus, body := resultEnvelope (request.getD "id" (.int 1)) result }
  block : ∀ request params, Calls request "block" params → NoOverride scenario "block" → AsksTip host height params →
    buildTm host request scenario head = .ok {
      status := scenario .httpStatus
      body := resultEnvelope (request.getD "id" (.int 1))
        (tmBlockResponse (toString height) (toString (max (height - 1) 0))) }
  validators : ∀ request params, Calls request "validators" params → NoOverride scenario "validators" →
    AsksTip host height params → buildTm host request scenario head = .ok {
      status := scenario .httpStatus
      body := resultEnvelope (request.getD "id" (.int 1))
        (tmValidatorsResponse (toString height) (pageOf host params) (perPageOf host params)) }
  rest : ∃ block, headerHeight block = .ok (.str (toString height)) ∧ ∀ request,
    Gets request scenario latestRoute ∨ Gets request scenario heightRoute ∧
        (request.get "path_params").orElse (.dict []) = .object [("height", .str (toString height))] →
      buildRest host request scenario head = .ok { status := scenario .httpStatus, body := block }
  grpc : ∀ request, request.getD "method" (.str "unknown") = .str "GetLatestBlock" →
    NoOverride scenario "GetLatestBlock" → buildGrpc host request scenario head = .ok {
      status := .int 200
      body := .object [
        ("grpc_method", .str "GetLatestBlock"), ("height", .int height), ("chain_id", .str lavaSimChainId)] }

/-- **Every reply that names the tip names the same one**: the head of its interface less the lag, and never less than 0.
The block and the validators at that height are those of a request with no height. A tip of more than 4300 digits
cannot be written, and no such reply can be built. -/
theorem lava_tip_agrees (host : Host) (scenario : Scenario) (head behind : ℤ) (lag : scenario .blocksBehind = .int behind)
    (printable : Printable (tip head behind)) : NamesTip host scenario head (tip head behind) where
  printable := printable
  own := asksTip_text host printable
  status := by
    rintro ⟨method, part, field⟩ listed request params calls free
    obtain ⟨stub, result, known, gives, height⟩ := tmResult_stamped listed (.object params)
    rw [← lag] at gives
    exact ⟨result, height, tm_reply calls free known gives⟩
  block request params calls free asks := by
    have gives := tmBlock_tip asks
    rw [← lag] at gives
    exact tm_reply calls free rfl gives
  validators request params calls free asks := by
    have gives := tmValidators_tip asks
    rw [← lag] at gives
    exact tm_reply calls free rfl gives
  rest := by
    obtain ⟨block, latest, named, height, echo⟩ := latestBlock_tip host head behind
    rw [← lag] at latest
    refine ⟨block, height, fun request gets => ?_⟩
    rcases gets with gets | ⟨gets, asks⟩
    · refine rest_reply gets rfl ?_
      change (latestBlock host head (scenario .blocksBehind) (restBlockResponse restLatestHeight) >>= _) = _
      rw [latest, ok_bind]
      exact echo _
    · refine rest_reply gets rfl ?_
      change (blockAt host ((request.get "path_params").orElse (.dict [])) (restBlockResponse restLatestHeight) >>= _) = _
      rw [asks, named, ok_bind]
      exact echo _
  grpc request calls free := grpc_reply calls free lag

/-- Three blocks behind the head of the Tendermint interface, where the height is named as `status` reports it. -/
theorem lava_tip_agrees_lagging :
    NamesTip asciiHost (Eth.lagging 3) tmLatestHeight 4999997 :=
  lava_tip_agrees asciiHost (Eth.lagging 3) tmLatestHeight 3 rfl (printable_of_lt (by decide))

end

/-! ### The pages of the validator set -/

/-- Slices of one size that follow one another are the front of the list. -/
theorem flatten_slices {α : Type} (items : List α) (size pages : ℕ) :
    ((List.range pages).map fun index => (items.drop (index * size)).take size).flatten = items.take (pages * size) := by
  induction pages with
  | zero => simp
  | succ pages ih =>
      rw [List.range_succ, List.map_append, List.flatten_append, ih, Nat.succ_mul, List.take_add]
      simp

/-- The validators that a page shows, where the pages are counted from 0. -/
def slice (size index : ℕ) : List Value := (validatorPool.drop (index * size)).take size

theorem onPage_slice (size index : ℕ) :
    (onPage (index + 1) size).map validator = slice size index := by
  have start : (max (((index : ℤ) + 1 - 1) * size) 0).toNat = index * size := by
    rw [add_sub_cancel_right, max_eq_left (mul_nonneg (Int.natCast_nonneg _) (Int.natCast_nonneg _))]
    exact Int.toNat_natCast (index * size)
  have stop : (min ((index * size : ℕ) + (size : ℤ)) validatorPool.length).toNat =
      min (index * size + size) validatorPool.length := by omega
  unfold onPage slice
  dsimp only
  rw [start, List.map_take, List.map_drop, map_validator, stop, List.take_eq_take_iff, List.length_drop]
  omega

/-- A height that a reply of `validators` shows is a whole number, whatever the parameters name. -/
theorem readHeight_int (host : Host) (head behind default : ℤ) (params : List (String × Value)) :
    ∃ height, readHeight host head (.int behind) default params = .ok (.int height) := by
  unfold readHeight
  by_cases absent : (paramOf params "height").isNone = true
  · rw [if_pos absent, effectiveHead_int]
    exact ⟨_, rfl⟩
  · rw [if_neg absent]
    exact ⟨_, rfl⟩

/-- **The pages of one size are the set**: they show it in order, each validator on one page. A page counts the
validators that it shows, which are as many as it has room for or as there are left, at every height. -/
theorem validator_pages {host : Host} {scenario : Scenario} {behind : ℤ} {size : ℕ} {heads : ℕ → ℤ}
    {requests : ℕ → Parsed} {params : ℕ → List (String × Value)} (lag : scenario .blocksBehind = .int behind)
    (free : NoOverride scenario "validators") (calls : ∀ index, Calls (requests index) "validators" (params index))
    (page : ∀ index, pageOf host (params index) = index + 1) (perPage : ∀ index, perPageOf host (params index) = size) :
    ∃ shown : ℕ → List Value,
      (∀ index, ∃ height, buildTm host (requests index) scenario (heads index) = .ok {
        status := scenario .httpStatus
        body := resultEnvelope ((requests index).getD "id" (.int 1)) (.object [
          ("block_height", .str height), ("validators", .list (shown index)),
          ("count", .str (decimal (shown index).length)), ("total", .str (decimal validatorPool.length))]) }) ∧
      (∀ index, (shown index).length = min size (validatorPool.length - index * size)) ∧
      ∀ pages, ((List.range pages).map shown).flatten = validatorPool.take (pages * size) := by
  refine ⟨slice size, fun index => ?_, fun index => ?_, flatten_slices validatorPool size⟩
  · obtain ⟨height, reads⟩ := readHeight_int host (heads index) behind (heads index) (params index)
    have gives : tmValidators host (heads index) (scenario .blocksBehind) (.object (params index)) =
        .ok (tmValidatorsResponse (toString height) (index + 1) size) := by
      rw [tmValidators_object, lag, reads, page, perPage]
      rfl
    rw [tmValidatorsResponse_eq, onPage_slice, ← List.length_map, onPage_slice] at gives
    exact ⟨toString height, tm_reply (calls index) free rfl gives⟩
  · unfold slice
    rw [List.length_take, List.length_drop]

/-- A call for a page of five validators. -/
def fives (index : ℕ) : List (String × Value) := [("page", .int (index + 1)), ("per_page", .int 5)]

def callFives (index : ℕ) : Parsed where
  fields := [("method", .str "validators"), ("params", .object (fives index))]

/-- Three pages of five validators, two blocks behind a head that advances with each page. -/
theorem validator_pages_fives :
    ∃ shown : ℕ → List Value,
      (∀ index, ∃ height, buildTm asciiHost (callFives index) (Eth.lagging 2) (tmLatestHeight + index) = .ok {
        status := .int 200
        body := resultEnvelope (.int 1) (.object [
          ("block_height", .str height), ("validators", .list (shown index)),
          ("count", .str (decimal (shown index).length)), ("total", .str (decimal validatorPool.length))]) }) ∧
      (shown 2).length = 2 ∧ ((List.range 3).map shown).flatten = validatorPool := by
  have calls : ∀ index, Calls (callFives index) "validators" (fives index) := fun index => ⟨rfl, rfl⟩
  have page : ∀ index, pageOf asciiHost (fives index) = index + 1 := fun index => max_eq_left (by
    change (1 : ℤ) ≤ index + 1
    omega)
  have perPage : ∀ index, perPageOf asciiHost (fives index) = (5 : ℕ) := fun _ => rfl
  obtain ⟨shown, replies, counts, all⟩ := @validator_pages asciiHost (Eth.lagging 2) 2 5
    (fun index => tmLatestHeight + index) callFives fives rfl ⟨[], rfl, rfl, rfl⟩ calls page perPage
  exact ⟨shown, replies, counts 2, all 3⟩

end ProviderSimulator.Chains.Lava
