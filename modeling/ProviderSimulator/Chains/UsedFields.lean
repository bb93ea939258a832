/-
**The fields of a block that a chain uses for a request.**

A chain reads `responses`, `blocks_behind` and `http_status` of every block, but it does not use each of them for each
request: most replies of Ethereum name no head, a gRPC reply has no HTTP status, and an entry of `responses` is looked up
under the name of its method.

* `entryKeys` — the keys under which a chain looks for an entry of a request;
* `usesBlocksBehind` and `usesHttpStatus` — the requests for which a chain uses the other two fields, where no entry
  applies;
* `DefaultContent` — no field that the chain uses for the request differs from its default;
* `buildSuccess_default` — **then the reply is the one at the defaults.**
-/

import Mathlib.Tactic.Common
import ProviderSimulator.Chains.Stages

namespace ProviderSimulator.Chains

open ProviderSimulator.Lib ProviderSimulator.Python ProviderSimulator.Domain ProviderSimulator.Stubs
open ProviderSimulator.GraphqlDocument (RootField)

/-! ### Entries -/

/-- The key of a method. A method that is no text has no entry. -/
def methodKeys : Value → List Key
  | .str name => [.text name]
  | _ => []

/-- The key of a route. -/
def routeKeys (route : Value × Value) : List Key :=
  match route.1.asScalar, route.2.asScalar with
  | some verb, some template => [.pair verb template]
  | _, _ => []

/-- The keys under which a chain looks for an entry of a request. Only Sui has no entry for everything else. -/
def entryKeys (chain : Chain) (interface : Interface) (request : Parsed) : List Key :=
  match chain, interface with
  | .sui, _ => request.graphql.elim [] fun graphql => graphql.roots.map fun root => .text root.name
  | .suit, _ => request.graphql.elim [] fun graphql => graphql.roots.map fun root => .text root.name
  | .lava, .rest => .text "default" :: routeKeys (Lava.routeKey request)
  | _, _ => .text "default" :: methodKeys (request.getD "method" (.str "unknown"))

/-- The block has no entry under any of the keys. -/
def NoEntry (scenario : Scenario) (keys : List Key) : Prop :=
  ∃ entries, responsesOf scenario = .dict entries ∧ ∀ key ∈ keys, Dict.get entries key = none

section

variable {entries : List (Key × Value)} {scenario : Scenario} {method : Value}

theorem lookup_noEntry (absent : ∀ key ∈ methodKeys method, Dict.get entries key = none) :
    Value.lookup entries method = Value.lookup [] method := by
  cases method with
  | str name => exact congrArg Except.ok (absent _ List.mem_cons_self)
  | _ => rfl

theorem orDefault_noEntry (fallback : Dict.get entries (.text "default") = none) (entry : Option Value) :
    orDefault (.dict entries) entry = orDefault (.dict []) entry := by
  have same : (Value.dict entries).getD "default" (.dict []) = (Value.dict []).getD "default" (.dict []) := by
    change (Except.ok ((Dict.get entries (.text "default")).getD (.dict [])) : Except PyError Value) = _
    rw [fallback]
    rfl
  unfold orDefault
  rw [same]

/-- A method with no entry has the one that it has in no entries. -/
theorem methodCfgOf_noEntry (absent : NoEntry scenario (.text "default" :: methodKeys method)) :
    methodCfgOf (responsesOf scenario) method = methodCfgOf (.dict []) method := by
  obtain ⟨entries, responses, none⟩ := absent
  unfold methodCfgOf Value.getKey
  rw [responses]
  dsimp only
  rw [lookup_noEntry fun key member => none key (List.mem_cons_of_mem _ member)]
  exact congrArg _ (funext fun entry => orDefault_noEntry (none _ List.mem_cons_self) entry)

theorem inResponses_noEntry (absent : NoEntry scenario (.text "default" :: methodKeys method)) :
    inResponses (responsesOf scenario) method = inResponses (.dict []) method := by
  obtain ⟨entries, responses, none⟩ := absent
  unfold inResponses Value.getKey
  rw [responses]
  dsimp only
  rw [lookup_noEntry fun key member => none key (List.mem_cons_of_mem _ member)]

/-- In no entries, the entry of a method is the empty one. -/
theorem methodCfgOf_nil {methodCfg : Value} (gave : methodCfgOf (.dict []) method = .ok methodCfg) :
    methodCfg = .dict [] := by
  unfold methodCfgOf at gave
  obtain ⟨entry, found, gave⟩ := ok_of_bind gave
  have absent : entry = none := by
    unfold Value.getKey Value.lookup at found
    dsimp only at found
    split at found
    · cases found
      rfl
    · split at found
      · cases found
        rfl
      · cases found
  subst absent
  cases gave
  rfl

/-- Two replies with one first half, where the entry of the method is the empty one. -/
theorem front_noEntry {stubs : Dict String Value} {requestId : Value} {first second : Value → Except PyError Content}
    (absent : NoEntry scenario (.text "default" :: methodKeys method)) (same : first (.dict []) = second (.dict [])) :
    front stubs (responsesOf scenario) method requestId first = front stubs (.dict []) method requestId second := by
  unfold front
  rw [methodCfgOf_noEntry absent]
  cases found : methodCfgOf (.dict []) method with
  | error error => rfl
  | ok methodCfg =>
      have empty := methodCfgOf_nil found
      subst empty
      exact same

end

/-! ### The other two fields -/

section

variable (host : Host)

/-- The height that a Tendermint request names, if it is read. -/
def namesHeight (request : Parsed) : Bool :=
  match ((request.get "params").orElse (.dict [])).getD "height" .none with
  | .ok height => !height.isNone
  | .error _ => true

/-- Does the answer to a root of Sui hold the tip? -/
def Sui.rootUses (request : Parsed) (quirks : Quirks) (root : RootField) : Bool :=
  match root.name with
  | "serviceConfig" => true
  | "checkpoint" => true
  | "transaction" =>
      match (root.arguments.get "digest").getD .none with
      | .str digest =>
          match Sui.indexed request (quirks .transactionIndexLagMs) digest with
          | .ok found => found
          | .error _ => false
      | _ => false
  | _ => false

/-- The methods of Tendermint that report the head. -/
def Lava.tmUses (request : Parsed) : Bool :=
  match request.getD "method" (.str "unknown") with
  | .str "block" => !namesHeight request
  | .str "validators" => !namesHeight request
  | .str "abci_query" => false
  | .str name => tendermintMethodDefaults.has name
  | _ => false

/-- Does the chain use `blocks_behind` for the request? -/
def usesBlocksBehind (chain : Chain) (interface : Interface) (request : Parsed) (quirks : Quirks) : Bool :=
  let method := request.getD "method" (.str "unknown")
  match chain, interface with
  | .eth, _ =>
      method.eqText "eth_blockNumber" ||
        (method.eqText "eth_getBlockByNumber" && (request.getD "params" (.list [])).truthy) ||
          (method.eqText "eth_getLogs" && !(quirks .logsIndexedUpTo).isNone)
  | .btc, _ => true
  | .ln, _ => method.eqText "getinfo"
  | .solana, _ => false
  | .lava, .rest => (Lava.routeKey request).2.eqText "/cosmos/base/tendermint/v1beta1/blocks/latest"
  | .lava, .grpc => method.eqText "GetLatestBlock"
  | .lava, _ => Lava.tmUses request
  | _, _ => request.graphql.elim false fun graphql => graphql.roots.any (Sui.rootUses request quirks)

/-- Does the chain use `http_status` for the request? -/
def usesHttpStatus (chain : Chain) (interface : Interface) (request : Parsed) : Bool :=
  match chain, interface with
  | .btc, _ =>
      let params := request.getD "params" (.list [])
      -- A height that is no number gets an error with the status 200.
      !((request.getD "method" (.str "unknown")).eqText "getblockhash" && params.truthy &&
        decide ((Btc.namedHash host params).toOption = some none))
  | .lava, .rest => (Lava.restStub (Lava.routeKey request)).isSome
  | .lava, .grpc => false
  | .sui, _ => false
  | .suit, _ => false
  | _, _ => true

/-- **No field of the block that the chain uses for the request differs from its default.** -/
structure DefaultContent (chain : Chain) (interface : Interface) (request : Parsed) (quirks : Quirks)
    (scenario : Scenario) : Prop where
  entries : NoEntry scenario (entryKeys chain interface request)
  blocksBehind : usesBlocksBehind chain interface request quirks = true → scenario .blocksBehind = .int 0
  httpStatus : usesHttpStatus host chain interface request = true → scenario .httpStatus = .int 200

end

/-! ### Ethereum, Bitcoin, Lightning and Solana -/

section

variable {host : Host} {interface : Interface} {request : Parsed} {quirks : Quirks} {scenario : Scenario} {head : ℤ}

/-- None of the three stages of Ethereum looks at the field. -/
theorem Eth.resultStage_unused {method params methodCfg : Value} (first second : Value)
    (number : method.eqText "eth_blockNumber" = false)
    (block : method.eqText "eth_getBlockByNumber" = true → params.truthy = false)
    (logs : method.eqText "eth_getLogs" = true → (quirks .logsIndexedUpTo).isNone = true) :
    Eth.resultStage host quirks head first method params methodCfg =
      Eth.resultStage host quirks head second method params methodCfg := by
  have numbers : ∀ behind given result, numberStage host head behind method given result = pure result := by
    intro behind given result
    unfold numberStage
    rw [number]
    rfl
  have blocks : ∀ behind result, blockStage host head behind method params result = pure result := by
    intro behind result
    unfold blockStage
    cases asks : method.eqText "eth_getBlockByNumber" with
    | false => rfl
    | true => rw [block asks, Bool.and_false, if_neg Bool.false_ne_true]
  have filters : ∀ behind result, logsStage host quirks head behind method params result = pure result := by
    intro behind result
    unfold logsStage
    cases asks : method.eqText "eth_getLogs" with
    | false => rfl
    | true =>
        rw [if_pos rfl]
        unfold getLogs
        rw [if_pos (logs asks)]
  unfold Eth.resultStage
  simp only [numbers, blocks, filters]

theorem eth_default (content : DefaultContent host .eth interface request quirks scenario) :
    Eth.buildSuccess host request scenario quirks head =
      Eth.buildSuccess host request ScenarioField.default quirks head := by
  obtain ⟨entries, blocksBehind, httpStatus⟩ := content
  rw [Eth.buildSuccess_eq, Eth.buildSuccess_eq]
  refine front_noEntry entries ?_
  have same : Eth.resultStage host quirks head (scenario .blocksBehind) (request.getD "method" (.str "unknown"))
      (request.getD "params" (.list [])) (.dict []) = Eth.resultStage host quirks head (.int 0)
        (request.getD "method" (.str "unknown")) (request.getD "params" (.list [])) (.dict []) := by
    by_cases uses : usesBlocksBehind .eth interface request quirks = true
    · rw [blocksBehind uses]
    · simp only [usesBlocksBehind, Bool.or_eq_true, Bool.and_eq_true, Bool.not_eq_true', not_or, not_and,
        Bool.not_eq_true, Bool.not_eq_false] at uses
      exact Eth.resultStage_unused _ _ uses.1.1 uses.1.2 uses.2
  unfold Eth.rest
  rw [same, httpStatus rfl]
  rfl

theorem btc_default (content : DefaultContent host .btc interface request quirks scenario) :
    Btc.buildSuccess host request scenario head = Btc.buildSuccess host request ScenarioField.default head := by
  obtain ⟨entries, blocksBehind, httpStatus⟩ := content
  rw [Btc.buildSuccess_eq, Btc.buildSuccess_eq]
  refine front_noEntry entries ?_
  unfold Btc.rest
  dsimp only
  rw [inResponses_noEntry entries, blocksBehind rfl]
  by_cases uses : usesHttpStatus host .btc interface request = true
  · rw [httpStatus uses]
    rfl
  · -- The height that the request names is no number.
    simp only [usesHttpStatus, Bool.not_eq_true', Bool.not_eq_false, Bool.and_eq_true, decide_eq_true_eq] at uses
    obtain ⟨⟨asks, params⟩, found⟩ := uses
    have method : request.getD "method" (.str "unknown") = .str "getblockhash" := (Value.eqText_iff _ _).mp asks
    have named : Btc.namedHash host (request.getD "params" (.list [])) = .ok none := by
      cases gave : Btc.namedHash host (request.getD "params" (.list [])) with
      | error error =>
          rw [gave] at found
          cases found
      | ok hash =>
          rw [gave] at found
          cases found
          rfl
    rw [method, named, params]
    rfl

theorem ln_default (content : DefaultContent host .ln interface request quirks scenario) :
    Ln.buildSuccess host request scenario head = Ln.buildSuccess host request ScenarioField.default head := by
  obtain ⟨entries, blocksBehind, httpStatus⟩ := content
  rw [Ln.buildSuccess_eq, Ln.buildSuccess_eq]
  refine front_noEntry entries ?_
  have same : ∀ params result, Ln.computed host head (scenario .blocksBehind) params result
      (request.getD "method" (.str "unknown")) = Ln.computed host head (.int 0) params result
        (request.getD "method" (.str "unknown")) := by
    intro params result
    by_cases uses : usesBlocksBehind .ln interface request quirks = true
    · rw [blocksBehind uses]
    · have other : (request.getD "method" (.str "unknown")).eqText "getinfo" = false := Bool.not_eq_true _ ▸ uses
      unfold Ln.computed
      rw [other]
      rfl
  unfold Ln.rest
  dsimp only
  rw [inResponses_noEntry entries, httpStatus rfl]
  simp only [same]
  rfl

theorem solana_default (content : DefaultContent host .solana interface request quirks scenario) :
    Solana.buildSuccess host request scenario quirks head =
      Solana.buildSuccess host request ScenarioField.default quirks head := by
  rw [Solana.buildSuccess_eq, Solana.buildSuccess_eq]
  refine front_noEntry content.entries ?_
  unfold Solana.rest
  rw [content.httpStatus rfl]
  rfl

/-! ### Lava -/

namespace Lava

theorem rest_default (content : DefaultContent host .lava .rest request quirks scenario) :
    buildRest host request scenario head = buildRest host request ScenarioField.default head := by
  obtain ⟨⟨entries, responses, none⟩, blocksBehind, httpStatus⟩ := content
  have own : getRoute (.dict entries) (routeKey request) = getRoute (.dict []) (routeKey request) := by
    have absent := fun key member => none key (List.mem_cons_of_mem _ member)
    unfold routeKeys at absent
    unfold getRoute
    dsimp only
    cases verb : (routeKey request).1.asScalar with
    | none => rfl
    | some verb' =>
        cases template : (routeKey request).2.asScalar with
        | none => rfl
        | some template' =>
            rw [verb, template] at absent
            exact congrArg Except.ok (absent _ List.mem_cons_self)
  have behind : ∀ stub, restComputed host request head (scenario .blocksBehind) (routeKey request) stub =
      restComputed host request head (.int 0) (routeKey request) stub := by
    intro stub
    by_cases uses : usesBlocksBehind .lava .rest request quirks = true
    · rw [blocksBehind uses]
    · have other : (routeKey request).2.eqText "/cosmos/base/tendermint/v1beta1/blocks/latest" = false :=
        Bool.not_eq_true _ ▸ uses
      unfold restComputed
      dsimp only
      split
      · next latest =>
          rw [latest] at other
          cases other
      · rfl
      · rfl
      · rfl
  unfold buildRest
  dsimp only
  rw [responses, own, show responsesOf ScenarioField.default = .dict [] from rfl]
  cases found : getRoute (.dict []) (routeKey request) with
  | error error => rfl
  | ok entry =>
      have empty : entry = Option.none := by
        unfold getRoute at found
        dsimp only at found
        split at found
        · cases found
          rfl
        · cases found
      subst empty
      have free : ∀ onError onBody, canned restErrorStubs [] onError onBody = .ok Option.none := fun _ _ => rfl
      rw [ok_bind, ok_bind, orDefault_noEntry (none _ List.mem_cons_self),
        show orDefault (.dict []) Option.none = .ok (.dict []) from rfl, ok_bind, ok_bind]
      dsimp only
      rw [free, ok_bind, ok_bind]
      dsimp only
      cases stub : restStub (routeKey request) with
      | none => rfl
      | some known =>
          dsimp only
          rw [httpStatus (congrArg Option.isSome stub), behind]
          rfl

theorem tmResult_unused {method : String} {params stub : Value} (first second : Value)
    (uses : method = "abci_query" ∨ (method = "block" ∨ method = "validators") ∧
      ∀ height, params.getD "height" .none = .ok height → height.isNone = false) :
    tmResult host head first params method stub = tmResult host head second params method stub := by
  rcases uses with rfl | ⟨rfl | rfl, named⟩
  · rfl
  · show tmBlock host head first params = tmBlock host head second params
    unfold tmBlock
    cases reads : params.getD "height" .none with
    | error error => rfl
    | ok height =>
        simp only [ok_bind, named height reads]
        rfl
  · show tmValidators host head first params = tmValidators host head second params
    unfold tmValidators
    cases reads : params.getD "height" .none with
    | error error => rfl
    | ok height =>
        simp only [ok_bind, named height reads]
        rfl

theorem namesHeight_of {height : Value} (names : namesHeight request = true)
    (reads : ((request.get "params").orElse (.dict [])).getD "height" .none = .ok height) : height.isNone = false := by
  unfold namesHeight at names
  rw [reads] at names
  exact Bool.not_eq_true' _ ▸ names

/-- A known method for which the chain does not use the field. -/
theorem tmResult_default {name : String} {stub behind : Value} (method : request.getD "method" (.str "unknown") = .str name)
    (known : tendermintMethodDefaults.get name = some stub) (atDefault : tmUses request = true → behind = .int 0) :
    tmResult host head behind ((request.get "params").orElse (.dict [])) name stub =
      tmResult host head (.int 0) ((request.get "params").orElse (.dict [])) name stub := by
  by_cases uses : tmUses request = true
  · rw [atDefault uses]
  · rw [Bool.not_eq_true] at uses
    unfold tmUses at uses
    rw [method] at uses
    split at uses
    · next same =>
        cases same
        exact tmResult_unused _ _ (.inr ⟨.inl rfl, fun _ => namesHeight_of (by simpa using uses)⟩)
    · next same =>
        cases same
        exact tmResult_unused _ _ (.inr ⟨.inr rfl, fun _ => namesHeight_of (by simpa using uses)⟩)
    · next same =>
        cases same
        exact tmResult_unused _ _ (.inl rfl)
    · next same =>
        cases same
        unfold Dict.has at uses
        rw [known] at uses
        cases uses
    · next other => exact absurd rfl (other name)

theorem tm_default (content : DefaultContent host .lava .tendermintrpc request quirks scenario) :
    buildTm host request scenario head = buildTm host request ScenarioField.default head := by
  obtain ⟨entries, blocksBehind, httpStatus⟩ := content
  unfold buildTm
  dsimp only
  rw [methodCfgOf_noEntry entries, show responsesOf ScenarioField.default = .dict [] from rfl]
  cases found : methodCfgOf (.dict []) (request.getD "method" (.str "unknown")) with
  | error error => rfl
  | ok methodCfg =>
      have empty := methodCfgOf_nil found
      subst empty
      have free : ∀ onError onBody, canned tendermintErrorStubs [] onError onBody = .ok none := fun _ _ => rfl
      rw [ok_bind, ok_bind]
      dsimp only
      rw [free, ok_bind, ok_bind]
      dsimp only
      rw [httpStatus rfl]
      cases method : request.getD "method" (.str "unknown") with
      | str name =>
          rw [show tableGet tendermintMethodDefaults (.str name) = .ok (tendermintMethodDefaults.get name) from rfl,
            ok_bind, ok_bind]
          cases known : tendermintMethodDefaults.get name with
          | none => rfl
          | some stub =>
              dsimp only
              rw [tmResult_default method known blocksBehind]
              rfl
      | _ => rfl

theorem grpc_default (content : DefaultContent host .lava .grpc request quirks scenario) :
    buildGrpc host request scenario head = buildGrpc host request ScenarioField.default head := by
  obtain ⟨entries, blocksBehind, -⟩ := content
  have data : grpcData host head (scenario .blocksBehind) (request.getD "method" (.str "unknown")) =
      grpcData host head (.int 0) (request.getD "method" (.str "unknown")) := by
    by_cases uses : usesBlocksBehind .lava .grpc request quirks = true
    · rw [blocksBehind uses]
    · have other : (request.getD "method" (.str "unknown")).eqText "GetLatestBlock" = false :=
        Bool.not_eq_true _ ▸ uses
      unfold grpcData
      rw [other]
      rfl
  unfold buildGrpc
  dsimp only
  rw [methodCfgOf_noEntry entries, data]
  rfl

end Lava

/-! ### Sui -/

namespace Sui

variable {reader : GraphqlDocument.Reader} {graphql : GraphqlDocument.Request} {root : RootField}

/-- An answer that holds no tip. -/
theorem stub_unused (first second : Value) (unused : rootUses request quirks root = false) :
    stub host root graphql request head first quirks = stub host root graphql request head second quirks := by
  unfold rootUses at unused
  unfold stub
  split at unused
  · cases unused
  · cases unused
  · next transacts =>
      rw [transacts]
      show transaction host root request head first quirks = transaction host root request head second quirks
      unfold transaction
      split
      · next digest given =>
          rw [given] at unused
          dsimp only at unused
          cases found : indexed request (quirks .transactionIndexLagMs) digest with
          | error error => rfl
          | ok shown =>
              rw [found] at unused
              cases unused
              rfl
      · rfl
  · next service checkpoint transaction =>
      split
      · rfl
      · next same => exact absurd same service
      · next same => exact absurd same checkpoint
      · rfl
      · next same => exact absurd same transaction
      · rfl
      · rfl

theorem answer_default (behind : Value) (atDefault : rootUses request quirks root = true → behind = .int 0) :
    answer host reader root (.dict []) graphql request head behind quirks =
      answer host reader root (.dict []) graphql request head (.int 0) quirks := by
  have same : stub host root graphql request head behind quirks = stub host root graphql request head (.int 0) quirks := by
    by_cases uses : rootUses request quirks root = true
    · rw [atDefault uses]
    · exact stub_unused _ _ (Bool.not_eq_true _ ▸ uses)
  unfold answer
  rw [same]

theorem answerAll_default {entries : List (Key × Value)} (behind : Value) {roots : List RootField}
    (absent : ∀ root ∈ roots, Dict.get entries (.text root.name) = none)
    (atDefault : roots.any (rootUses request quirks) = true → behind = .int 0) (reply : Reply) :
    answerAll host reader (.dict entries) graphql request head behind quirks roots reply =
      answerAll host reader (.dict []) graphql request head (.int 0) quirks roots reply := by
  induction roots generalizing reply with
  | nil => rfl
  | cons root rest ih =>
      have entry : (Value.dict entries).get root.name = (Value.dict []).get root.name :=
        congrArg Except.ok (absent root List.mem_cons_self)
      have empty : (Value.dict []).get root.name = .ok Option.none := rfl
      have later := ih (fun other member => absent other (List.mem_cons_of_mem _ member))
        fun uses => atDefault (by rw [List.any_cons, uses, Bool.or_true])
      unfold answerAll
      rw [entry, empty, ok_bind, ok_bind]
      dsimp only [Option.getD_none, Value.orElse]
      rw [show (if Value.none.truthy = true then Value.none else .dict []) = .dict [] from rfl,
        answer_default behind fun uses => atDefault (by rw [List.any_cons, uses, Bool.true_or])]
      refine congrArg _ (funext fun answer => congrArg _ (funext fun next => later next))

theorem sui_default {chain : Chain} (sui : chain = .sui ∨ chain = .suit)
    (content : DefaultContent host chain interface request quirks scenario) :
    buildSuccess host reader request scenario quirks head =
      buildSuccess host reader request ScenarioField.default quirks head := by
  obtain ⟨⟨entries, responses, none⟩, blocksBehind, -⟩ := content
  unfold buildSuccess
  cases given : request.graphql with
  | none => rfl
  | some graphql =>
      have absent : ∀ root ∈ graphql.roots, Dict.get entries (.text root.name) = Option.none := by
        intro root member
        refine none _ ?_
        rcases sui with rfl | rfl
        · simp only [entryKeys, given, Option.elim_some]
          exact List.mem_map_of_mem member
        · simp only [entryKeys, given, Option.elim_some]
          exact List.mem_map_of_mem member
      have atDefault : graphql.roots.any (rootUses request quirks) = true → scenario .blocksBehind = .int 0 := by
        intro uses
        refine blocksBehind ?_
        rcases sui with rfl | rfl <;> simpa only [usesBlocksBehind, given, Option.elim_some] using uses
      dsimp only
      rw [responses, answerAll_default _ absent atDefault]
      rfl

end Sui

/-! ### Every chain -/

/-- **Where no field that the chain uses differs from its default, the reply is the one at the defaults.** -/
theorem buildSuccess_default {reader : GraphqlDocument.Reader} {chain : Chain}
    (content : DefaultContent host chain interface request quirks scenario) :
    buildSuccess host reader chain interface request scenario quirks head =
      buildSuccess host reader chain interface request ScenarioField.default quirks head := by
  cases chain with
  | eth => exact eth_default content
  | btc => exact btc_default content
  | ln => exact ln_default content
  | solana => exact solana_default content
  | lava =>
      cases interface with
      | rest => exact Lava.rest_default content
      | tendermintrpc => exact Lava.tm_default content
      | grpc => exact Lava.grpc_default content
      | _ => rfl
  | sui => exact Sui.sui_default (.inl rfl) content
  | suit => exact Sui.sui_default (.inr rfl) content

end

end ProviderSimulator.Chains
