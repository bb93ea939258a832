/-
**What one request leaves for the next.**

A snapshot of the stored block copies one level, so the entries of `responses` are shared with it. The
chains copy an object before they write into it, but for one: a Lightning `getinfo` writes its height and
its sync flag into the result that it was given. When the entry `default` gave that result, it is the
object of the stored block, and every later reply of the entry shows what `getinfo` wrote.

* `Overwrites` — such a `getinfo`, where the stored object does not yet hold what is written;
* `served_stored` — one request leaves the stored block as it is unless it is such a `getinfo`;
* `no_hidden_state_iff` — so a run of requests leaves no trace exactly when none of them is.
-/

import Mathlib.Tactic.Common
import ProviderSimulator.Chains.Answers
import ProviderSimulator.Lib.Machine
import ProviderSimulator.Listeners.Course
import ProviderSimulator.Listeners.Scope

namespace ProviderSimulator.Chains

open ProviderSimulator.Lib ProviderSimulator.Python ProviderSimulator.Domain ProviderSimulator.Stubs

/-! ### A `getinfo` that the entry `default` answers -/

/-- An entry that is an object asks for no error. -/
theorem overrideError_none {stubs : Dict String Value} (errors : ∀ item ∈ stubs, item.2 ≠ .none)
    (cfg : List (Key × Value)) :
    overrideError stubs (.dict cfg) = .ok .none ↔
      Dict.get cfg (.text "error_stub") = none ∧ (Dict.get cfg (.text "error")).getD .none = .none := by
  have asks : asksError cfg = false ↔
      Dict.get cfg (.text "error_stub") = none ∧ (Dict.get cfg (.text "error")).getD .none = .none := by
    unfold asksError Dict.has
    rw [Bool.or_eq_false_iff, Option.isSome_eq_false_iff, Option.isNone_iff_eq_none, Bool.not_eq_false',
      Value.isNone_iff]
  rw [← asks]
  constructor
  · intro gave
    have none : true = !asksError cfg := overrideError_isNone errors gave
    simpa using none.symm
  · intro quiet
    obtain ⟨error, gave⟩ := (overrideError_dict stubs cfg).mpr fun name given =>
      absurd ((asks.mp quiet).1.symm.trans given) nofun
    have none := overrideError_isNone errors gave
    rw [quiet] at none
    rw [gave, (Value.isNone_iff error).mp none]

namespace Ln

/-- **A `getinfo` that the entry `default` answers**: it has no entry of its own, and the other one has an
object as its result and asks for no error. -/
structure InfoOfDefault (scenario : Scenario) (request : Parsed) (fields : List (Key × Value)) : Prop where
  method : request.getD "method" (.str "unknown") = .str "getinfo"
  entry : ∃ entries cfg, responsesOf scenario = .dict entries ∧ Dict.get entries (.text "getinfo") = none ∧
    Dict.get entries (.text "default") = some (.dict cfg) ∧
    Dict.get cfg (.text "error_stub") = none ∧ (Dict.get cfg (.text "error")).getD .none = .none ∧
    Dict.get cfg (.text "result") = some (.dict fields)

theorem lndErrorStubs_errors : ∀ item ∈ lndErrorStubs, item.2 ≠ .none := by decide

variable {host : Host} {request : Parsed} {scenario : Scenario} {head : ℤ} {written : Value}

/-- The result of a `getinfo` has its height and its flag. -/
theorem computed_getinfo (blocksBehind params : Value) (fields : List (Key × Value)) :
    computed host head blocksBehind params (.dict fields) (.str "getinfo") =
      synced host head blocksBehind (.dict fields) := by
  unfold computed
  simp only [Value.eqText_str, decide_true, Value.isDict, Bool.and_self, if_true]
  cases synced host head blocksBehind (.dict fields) with
  | error error => rfl
  | ok result => rfl

theorem dict_of_isDict {value : Value} (isDict : value.isDict = true) : ∃ entries, value = .dict entries := by
  cases value with
  | dict entries => exact ⟨entries, rfl⟩
  | _ => cases isDict

/-- A method with no entry of its own. -/
theorem absent_of_inResponses {responses : Value} {name : String} {own : Bool}
    (inOwn : inResponses responses (.str name) = .ok own) (notOwn : own = false) :
    ∃ entries, responses = .dict entries ∧ Dict.get entries (.text name) = none := by
  unfold inResponses at inOwn
  obtain ⟨found, get, same⟩ := ok_of_bind inOwn
  cases responses with
  | dict entries =>
      refine ⟨entries, rfl, ?_⟩
      cases get
      cases same
      exact Option.not_isSome_iff_eq_none.mp (Bool.eq_false_iff.mp notOwn)
  | _ => cases get

/-- Such a method gets the result of the entry `default`. -/
theorem default_of_result {entries : List (Key × Value)} {name : String} {methodCfg result : Value}
    {defaults : Dict String Value} (absent : Dict.get entries (.text name) = none)
    (cfgOf : methodCfgOf (.dict entries) (.str name) = .ok methodCfg)
    (contains : methodCfg.contains "result" = .ok true)
    (resultOf : Btc.resultOf defaults methodCfg (.str name) = .ok result) :
    ∃ cfg, Dict.get entries (.text "default") = some (.dict cfg) ∧ methodCfg = .dict cfg ∧
      Dict.get cfg (.text "result") = some result := by
  simp only [methodCfgOf, Value.getKey, Value.lookup, absent] at cfgOf
  have given : methodCfg = (Dict.get entries (.text "default")).getD (.dict []) := (Except.ok.inj cfgOf).symm
  unfold Btc.resultOf at resultOf
  rw [contains] at resultOf
  change methodCfg.item "result" = .ok result at resultOf
  cases methodCfg with
  | dict cfg =>
      refine ⟨cfg, ?_, rfl, ?_⟩
      · cases found : Dict.get entries (.text "default") with
        | none =>
            rw [found] at given
            cases given
            cases contains
        | some value =>
            rw [found] at given
            rw [given]
            rfl
      · simp only [Value.item] at resultOf
        split at resultOf
        · next value found =>
            cases resultOf
            exact found
        · cases resultOf
  | _ => cases resultOf

/-- **What is written into the stored block.** -/
theorem rewritten_iff :
    (∃ content, buildSuccess host request scenario head = .ok content ∧ content.rewritten = some written) ↔
      ∃ fields, InfoOfDefault scenario request fields ∧
        synced host head (scenario .blocksBehind) (.dict fields) = .ok written := by
  constructor
  · rintro ⟨content, gave, wrote⟩
    unfold buildSuccess at gave
    obtain ⟨methodCfg, cfgOf, gave⟩ := ok_of_bind gave
    obtain ⟨error, errorOf, gave⟩ := ok_of_bind gave
    split at gave
    · obtain ⟨status, -, gave⟩ := ok_of_bind gave
      cases gave
      cases wrote
    · next noError =>
      obtain ⟨result, resultOf, gave⟩ := ok_of_bind gave
      obtain ⟨own, inOwn, gave⟩ := ok_of_bind gave
      split at gave
      · cases gave
        cases wrote
      · next notOwn =>
        obtain ⟨done, computedOf, gave⟩ := ok_of_bind gave
        obtain ⟨contains, containsOf, gave⟩ := ok_of_bind gave
        cases gave
        dsimp only at wrote
        split at wrote
        · next inPlace =>
            cases wrote
            simp only [Bool.and_eq_true] at inPlace
            obtain ⟨⟨named, isDict⟩, has⟩ := inPlace
            have method := (Value.eqText_iff _ _).mp named
            rw [method] at cfgOf inOwn computedOf resultOf
            rw [has] at containsOf
            obtain ⟨entries, responses, absent⟩ := absent_of_inResponses inOwn (Bool.eq_false_iff.mpr notOwn)
            rw [responses] at cfgOf
            obtain ⟨cfg, byDefault, rfl, given⟩ := default_of_result absent cfgOf containsOf resultOf
            obtain ⟨fields, rfl⟩ := dict_of_isDict isDict
            have quiet : overrideError lndErrorStubs (.dict cfg) = .ok .none := by
              rw [errorOf]
              cases error with
              | none => rfl
              | _ => exact absurd rfl noError
            obtain ⟨noStub, noError⟩ := (overrideError_none lndErrorStubs_errors cfg).mp quiet
            rw [computed_getinfo] at computedOf
            exact ⟨fields, ⟨method, entries, cfg, responses, absent, byDefault, noStub, noError, given⟩,
              computedOf⟩
        · cases wrote
  · rintro ⟨fields, ⟨method, entries, cfg, responses, absent, byDefault, noStub, noError, given⟩, wrote⟩
    have quiet := (overrideError_none lndErrorStubs_errors cfg).mpr ⟨noStub, noError⟩
    have cfgOf : methodCfgOf (.dict entries) (.str "getinfo") = .ok (.dict cfg) := by
      simp only [methodCfgOf, Value.getKey, Value.lookup, absent]
      show (Value.dict entries).getD "default" (.dict []) = .ok (.dict cfg)
      simp only [Value.getD, Value.get, byDefault]
      rfl
    have inOwn : inResponses (.dict entries) (.str "getinfo") = .ok false := by
      simp only [inResponses, Value.getKey, Value.lookup, absent]
      rfl
    have contains : (Value.dict cfg).contains "result" = .ok true := by
      simp only [Value.contains, Dict.has, given]
      rfl
    have resultOf : Btc.resultOf lndMethodDefaults (.dict cfg) (.str "getinfo") = .ok (.dict fields) := by
      unfold Btc.resultOf
      rw [contains]
      show (Value.dict cfg).item "result" = .ok (.dict fields)
      simp only [Value.item, given]
    have computedOf : ∀ params, computed host head (scenario .blocksBehind) params (.dict fields) (.str "getinfo") =
        .ok written := fun params => (computed_getinfo _ params fields).trans wrote
    refine ⟨{
      status := scenario .httpStatus
      body := resultEnvelope (request.getD "id" (.int 1)) written
      rewritten := some written }, ?_, rfl⟩
    unfold buildSuccess
    simp only [method, responses, cfgOf, ok_bind, quiet, resultOf, inOwn, computedOf, contains]
    rfl

/-- The object already shows the height and the flag of a `getinfo`. -/
def Shows (blocksBehind height : Value) (fields : List (Key × Value)) : Prop :=
  Dict.get fields (.text "block_height") = some height ∧
    (blocksBehind.eqInt 0 = true ∨ Dict.get fields (.text "synced_to_chain") = some (.bool false))

/-- **What a `getinfo` writes**, once its height is known. -/
theorem synced_eq {blocksBehind height : Value} (lag : host.sub (.int head) blocksBehind = .ok height)
    (fields : List (Key × Value)) :
    ∃ new, synced host head blocksBehind (.dict fields) = .ok (.dict new) ∧
      (new = fields ↔ Shows blocksBehind height fields) := by
  unfold synced Shows
  rw [lag]
  cases level : blocksBehind.eqInt 0 with
  | true =>
      refine ⟨Dict.set fields (.text "block_height") height, rfl, ?_⟩
      rw [Dict.set_eq_self_iff]
      exact ⟨fun same => ⟨same, .inl rfl⟩, And.left⟩
  | false =>
      refine ⟨Dict.set (Dict.set fields (.text "block_height") height) (.text "synced_to_chain") (.bool false),
        rfl, ?_⟩
      constructor
      · intro same
        have flag := Dict.get_set_self (Dict.set fields (.text "block_height") height)
          (.text "synced_to_chain") (Value.bool false)
        have tall : Dict.get (Dict.set (Dict.set fields (.text "block_height") height)
            (.text "synced_to_chain") (.bool false)) (.text "block_height") = some height := by
          rw [Dict.get_set_of_ne _ (by decide), Dict.get_set_self]
        rw [same] at flag tall
        exact ⟨tall, .inr flag⟩
      · rintro ⟨tall, level | flag⟩
        · cases level
        · rw [(Dict.set_eq_self_iff _ _ _).mpr tall, (Dict.set_eq_self_iff _ _ _).mpr flag]

/-- A `getinfo` that is answered knows its height. -/
theorem lag_of_synced {blocksBehind result : Value}
    (gave : synced host head blocksBehind result = .ok written) :
    ∃ height, host.sub (.int head) blocksBehind = .ok height := by
  unfold synced at gave
  obtain ⟨height, lag, -⟩ := ok_of_bind gave
  exact ⟨height, lag⟩

theorem InfoOfDefault.unique {fields others : List (Key × Value)}
    (info : InfoOfDefault scenario request fields) (other : InfoOfDefault scenario request others) :
    fields = others := by
  obtain ⟨-, entries, cfg, read, -, entry, -, -, given⟩ := info
  obtain ⟨-, entries', cfg', read', -, entry', -, -, given'⟩ := other
  cases read.symm.trans read'
  cases entry.symm.trans entry'
  cases given.symm.trans given'
  rfl

/-- The entries of the stored block, where one of them answers. -/
theorem InfoOfDefault.responses {fields : List (Key × Value)} (info : InfoOfDefault scenario request fields) :
    ∃ entries cfg, scenario .responses = .dict entries ∧
      Dict.get entries (.text "default") = some (.dict cfg) ∧
      Dict.get cfg (.text "result") = some (.dict fields) := by
  obtain ⟨-, entries, cfg, read, -, entry, -, -, given⟩ := info
  refine ⟨entries, cfg, ?_, entry, given⟩
  unfold responsesOf Value.orElse at read
  split at read
  · exact read
  · cases read
    cases entry

end Ln

/-! ### The other chains write nothing -/

section

variable {host : Host} {request : Parsed} {scenario : Scenario} {quirks : Quirks} {head : ℤ}
  {content : Content}

theorem Eth.rewritten_none (gave : Eth.buildSuccess host request scenario quirks head = .ok content) :
    content.rewritten = none := by
  rw [Eth.buildSuccess_eq] at gave
  rcases front_eq_ok gave with none | ⟨methodCfg, gave⟩
  · exact none
  · obtain ⟨result, -, gave⟩ := ok_of_bind gave
    cases gave
    rfl

theorem Btc.rewritten_none (gave : Btc.buildSuccess host request scenario head = .ok content) :
    content.rewritten = none := by
  rw [Btc.buildSuccess_eq] at gave
  rcases front_eq_ok gave with none | ⟨methodCfg, gave⟩
  · exact none
  · obtain ⟨result, -, gave⟩ := ok_of_bind gave
    obtain ⟨effectiveHead, -, gave⟩ := ok_of_bind gave
    obtain ⟨own, -, gave⟩ := ok_of_bind gave
    split at gave
    · cases gave
      rfl
    · obtain ⟨stamped, -, gave⟩ := ok_of_bind gave
      split at gave
      · obtain ⟨hash, -, gave⟩ := ok_of_bind gave
        cases hash with
        | some text =>
            cases gave
            rfl
        | none =>
            obtain ⟨stub, -, gave⟩ := ok_of_bind gave
            cases gave
            rfl
      · cases gave
        rfl

theorem Solana.rewritten_none (gave : Solana.buildSuccess host request scenario quirks head = .ok content) :
    content.rewritten = none := by
  rw [Solana.buildSuccess_eq] at gave
  rcases front_eq_ok gave with none | ⟨methodCfg, gave⟩
  · exact none
  · obtain ⟨given, -, gave⟩ := ok_of_bind gave
    split at gave
    · obtain ⟨result, -, gave⟩ := ok_of_bind gave
      cases gave
      rfl
    · obtain ⟨slot, -, gave⟩ := ok_of_bind gave
      obtain ⟨found, -, gave⟩ := ok_of_bind gave
      cases found with
      | some result =>
          cases gave
          rfl
      | none =>
          dsimp only at gave
          split at gave
          · obtain ⟨stub, -, gave⟩ := ok_of_bind gave
            cases gave
            rfl
          · cases gave
            rfl

theorem Sui.rewritten_none {reader : GraphqlDocument.Reader}
    (gave : Sui.buildSuccess host reader request scenario quirks head = .ok content) :
    content.rewritten = none := by
  unfold Sui.buildSuccess at gave
  split at gave
  · cases gave
  · obtain ⟨reply, -, gave⟩ := ok_of_bind gave
    dsimp only at gave
    rw [branch_bind] at gave
    obtain ⟨body, -, gave⟩ := ok_of_bind gave
    cases gave
    rfl

end

end ProviderSimulator.Chains

namespace ProviderSimulator.Listeners

open ProviderSimulator.Lib ProviderSimulator.Lib.Flow ProviderSimulator.Python ProviderSimulator.Domain
open ProviderSimulator.Chains (Parsed Content responsesOf)

/-! ### Writes into the stored block -/

/-- The stored block after a write into the `result` of its entry `default`. -/
def rewriteDefault (stored : Scenario) (result : Value) : Scenario :=
  match stored .responses with
  | .dict entries =>
      match Dict.get entries (.text "default") with
      | some (.dict cfg) =>
          Function.update stored .responses
            (.dict (Dict.set entries (.text "default") (.dict (Dict.set cfg (.text "result") result))))
      | _ => stored
  | _ => stored

/-- A write touches no field but `responses`. -/
theorem rewriteDefault_cases (stored : Scenario) (result : Value) :
    rewriteDefault stored result = stored ∨
      ∃ responses, rewriteDefault stored result = Function.update stored .responses responses := by
  unfold rewriteDefault
  split
  · split
    · exact .inr ⟨_, rfl⟩
    · exact .inl rfl
  · exact .inl rfl

/-- The stored block after an effect of a request. -/
def storedAfter (stored : Scenario) : Effect → Scenario
  | .rewriteDefault result => rewriteDefault stored result
  | _ => stored

section

variable {stored : Scenario} {entries cfg : List (Key × Value)} {result : Value}

theorem rewriteDefault_eq (responses : stored .responses = .dict entries)
    (entry : Dict.get entries (.text "default") = some (.dict cfg)) :
    rewriteDefault stored result = Function.update stored .responses
      (.dict (Dict.set entries (.text "default") (.dict (Dict.set cfg (.text "result") result)))) := by
  unfold rewriteDefault
  rw [responses]
  dsimp only
  rw [entry]

/-- A write shows, unless the object holds what is written. -/
theorem rewriteDefault_eq_self_iff (responses : stored .responses = .dict entries)
    (entry : Dict.get entries (.text "default") = some (.dict cfg)) :
    rewriteDefault stored result = stored ↔ Dict.get cfg (.text "result") = some result := by
  rw [rewriteDefault_eq responses entry, Function.update_eq_self_iff, responses, ← Dict.set_eq_self_iff]
  constructor
  · intro same
    rw [Value.dict.injEq, Dict.set_eq_self_iff, entry, Option.some.injEq, Value.dict.injEq] at same
    exact same.symm
  · intro same
    rw [same, (Dict.set_eq_self_iff _ _ _).mpr entry]

/-- The second write of the same result changes nothing. -/
theorem rewriteDefault_again (stored : Scenario) (result : Value) :
    rewriteDefault (rewriteDefault stored result) result = rewriteDefault stored result := by
  cases responses : stored .responses with
  | dict entries =>
      rcases entry : Dict.get entries (.text "default") with _ | value
      · simp only [rewriteDefault, responses, entry]
      · cases value with
        | dict cfg =>
            have written : rewriteDefault stored result .responses = .dict (Dict.set entries (.text "default")
                (.dict (Dict.set cfg (.text "result") result))) := by
              rw [rewriteDefault_eq responses entry, Function.update_self]
            exact (rewriteDefault_eq_self_iff written (Dict.get_set_self _ _ _)).mpr (Dict.get_set_self _ _ _)
        | _ => simp only [rewriteDefault, responses, entry]
  | _ => simp only [rewriteDefault, responses]

end

/-! ### The content hook -/

section

variable {site : Site} {env : Env} {request : RawRequest} {parsed : Parsed} {scenario found : Scenario}
  {written : Value}

/-- The default content hook leaves what the chain wrote. -/
theorem rewrite_mem_buildContent :
    Effect.rewriteDefault written ∈ ((buildContent site env parsed scenario request).outcomeAt found).effects ↔
      ∃ content, Chains.buildSuccess site.host site.reader site.chain site.endpoint.interface parsed scenario
        env.quirks env.head = .ok content ∧ content.rewritten = some written := by
  unfold buildContent chainContent
  rw [Flow.bind_assoc, mem_effects_ofExcept_bind]
  refine exists_congr fun content => and_congr_right fun _ => ?_
  rw [Flow.bind_assoc, mem_effects_leaveAll_bind]
  cases content.rewritten with
  | none =>
      refine ⟨fun member => ?_, nofun⟩
      rcases member with here | later
      · cases here
      · cases later
  | some value =>
      refine ⟨fun member => ?_, fun same => ?_⟩
      · rcases member with here | later
        · cases List.mem_singleton.mp here
          rfl
        · cases later
      · cases same
        exact .inl (List.mem_singleton.mpr rfl)

/-- **Only a Lightning `getinfo` writes.** -/
theorem chains_rewritten_iff (json : site.endpoint.interface = .jsonrpc) :
    (∃ content, Chains.buildSuccess site.host site.reader site.chain site.endpoint.interface parsed scenario
        env.quirks env.head = .ok content ∧ content.rewritten = some written) ↔
      site.chain = .ln ∧ ∃ fields, Chains.Ln.InfoOfDefault scenario parsed fields ∧
        Chains.Ln.synced site.host env.head (scenario .blocksBehind) (.dict fields) = .ok written := by
  have never : ∀ {built : Except PyError Content}, (∀ content, built = .ok content → content.rewritten = none) →
      ¬ ∃ content, built = .ok content ∧ content.rewritten = some written := by
    rintro built none ⟨content, gave, wrote⟩
    rw [none content gave] at wrote
    cases wrote
  rw [json]
  cases site.chain with
  | ln => exact Chains.Ln.rewritten_iff.trans ⟨fun wrote => ⟨rfl, wrote⟩, And.right⟩
  | eth => exact ⟨fun wrote => absurd wrote (never fun _ => Chains.Eth.rewritten_none), nofun⟩
  | btc => exact ⟨fun wrote => absurd wrote (never fun _ => Chains.Btc.rewritten_none), nofun⟩
  | solana => exact ⟨fun wrote => absurd wrote (never fun _ => Chains.Solana.rewritten_none), nofun⟩
  | lava => exact ⟨fun wrote => absurd wrote (never nofun), nofun⟩
  | sui => exact ⟨fun wrote => absurd wrote (never fun _ => Chains.Sui.rewritten_none), nofun⟩
  | suit => exact ⟨fun wrote => absurd wrote (never fun _ => Chains.Sui.rewritten_none), nofun⟩

/-- The content hook of a WebSocket endpoint asks the chain for a `getinfo`, and for any other method it
writes nothing. -/
theorem rewrite_mem_wsContent (json : site.endpoint.interface = .jsonrpc) :
    Effect.rewriteDefault written ∈ ((Ws.buildContent site env parsed scenario request).outcomeAt found).effects ↔
      Effect.rewriteDefault written ∈
        ((buildContent site env parsed scenario request).outcomeAt found).effects := by
  by_cases named : parsed.get "method" = .str "getinfo"
  · have asks : Ws.buildContent site env parsed scenario request =
        buildContent site env parsed scenario request := by
      unfold Ws.buildContent
      rw [named]
      cases request.connection <;> rfl
    rw [asks]
  · have chain : Effect.rewriteDefault written ∉
        ((buildContent site env parsed scenario request).outcomeAt found).effects := by
      intro member
      obtain ⟨-, fields, info, -⟩ := (chains_rewritten_iff json).mp (rewrite_mem_buildContent.mp member)
      have method := info.method
      unfold Parsed.getD at method
      unfold Parsed.get at named
      cases given : parsed.fields.get "method" with
      | none =>
          rw [given] at method
          exact absurd method (by decide)
      | some value =>
          rw [given] at method named
          exact named method
    refine iff_of_false (fun member => ?_) chain
    unfold Ws.buildContent at member
    split at member
    · split at member
      · rcases mem_effects_bind.mp member with here | ⟨_, _, later⟩
        · cases List.mem_singleton.mp here
        · cases later
      · split at member
        · obtain ⟨target, _, later⟩ := mem_effects_ofExcept_bind.mp member
          obtain ⟨owned, _, later⟩ := mem_effects_ofExcept_bind.mp later
          rcases mem_effects_leaveAll_bind.mp later with here | last
          · obtain ⟨id, _, same⟩ := List.mem_map.mp here
            cases same
          · cases last
        · exact chain member
    · split at member
      · cases member
      · exact chain member
    · split at member
      · exact chain member
      · cases member

/-- **The content hook of both JSON-RPC listeners.** -/
theorem rewrite_mem_content (json : site.endpoint.interface = .jsonrpc) :
    Effect.rewriteDefault written ∈
        (((hooks site env).buildContent parsed scenario request).outcomeAt found).effects ↔
      site.chain = .ln ∧ ∃ fields, Chains.Ln.InfoOfDefault scenario parsed fields ∧
        Chains.Ln.synced site.host env.head (scenario .blocksBehind) (.dict fields) = .ok written := by
  have hook : (hooks site env).buildContent = buildContent site env ∨
      (hooks site env).buildContent = Ws.buildContent site env := by
    unfold hooks
    rw [json]
    cases site.endpoint.transport with
    | http => exact .inl rfl
    | http2 => exact .inl rfl
    | ws => exact .inr rfl
  rw [← chains_rewritten_iff json]
  rcases hook with plain | ws
  · rw [plain]
    exact rewrite_mem_buildContent
  · rw [ws]
    exact (rewrite_mem_wsContent json).trans rewrite_mem_buildContent

/-- **What a request writes into the stored block.** -/
theorem rewrite_mem_serveAt (json : site.endpoint.interface = .jsonrpc) (arrived : Bool) :
    Effect.rewriteDefault written ∈ ((serveAt site env request arrived).outcomeAt scenario).effects ↔
      site.chain = .ln ∧ ∃ parsed fields, Reaches site env request scenario parsed ∧
        Chains.Ln.InfoOfDefault scenario parsed fields ∧
        Chains.Ln.synced site.host env.head (scenario .blocksBehind) (.dict fields) = .ok written := by
  have begun : Effect.rewriteDefault written ∉
      ((arrival (hooks site env) request arrived).outcomeAt scenario).effects := by
    intro member
    rcases mem_effects_leaveAll_bind.mp member with row | later
    · split at row
      · cases row
      · cases List.mem_singleton.mp row
    · rcases mem_effects_leaveAll_bind.mp later with body | path
      · obtain ⟨_, _, same⟩ := List.mem_map.mp body
        cases same
      · rw [outcomeAt_leaveAll] at path
        obtain ⟨_, _, same⟩ := List.mem_map.mp path
        cases same
  have flow : Effect.rewriteDefault written ∈ ((serveAt site env request arrived).outcomeAt scenario).effects ↔
      Effect.rewriteDefault written ∈
        ((answer site (hooks site env) env request scenario).outcomeAt scenario).effects := by
    unfold serveAt serve
    rw [mem_effects_bind]
    constructor
    · rintro (member | ⟨_, _, member⟩)
      · rcases mem_effects_bind.mp member with here | ⟨_, _, later⟩
        · exact absurd here begun
        · exact later
      · split at member
        · cases member
        · cases member
    · intro member
      refine .inl (mem_effects_bind.mpr (.inr ⟨(), ?_, member⟩))
      exact arrival_result _ request arrived scenario
  rw [flow, rewrite_mem_answer json]
  constructor
  · rintro ⟨parsed, reaches, member⟩
    obtain ⟨ln, fields, info, wrote⟩ := (rewrite_mem_content json).mp member
    exact ⟨ln, parsed, fields, reaches, info, wrote⟩
  · rintro ⟨ln, parsed, fields, reaches, info, wrote⟩
    exact ⟨parsed, reaches, (rewrite_mem_content json).mpr ⟨ln, fields, info, wrote⟩⟩

end

/-! ### One request -/

/-- One request, with what it reads of the outside. -/
structure Asked where
  env : Env
  request : RawRequest
  arrived : Bool

/-- **A `getinfo` that writes over the stored block**: it reaches the chain, the entry `default` answers it,
and the object of that entry does not show the height, or not the flag, that is written. -/
def Overwrites (site : Site) (stored : Scenario) (asked : Asked) : Prop :=
  site.chain = .ln ∧ ∃ parsed fields height, Reaches site asked.env asked.request stored parsed ∧
    Chains.Ln.InfoOfDefault stored parsed fields ∧
    site.host.sub (.int asked.env.head) (stored .blocksBehind) = .ok height ∧
    ¬ Chains.Ln.Shows (stored .blocksBehind) height fields

/-- One request: the block that it leaves stored, and its reply. -/
def served (site : Site) (stored : Scenario) (asked : Asked) : Scenario × Except PyError ServeResult :=
  let outcome := (serveAt site asked.env asked.request asked.arrived).outcomeAt stored
  (outcome.effects.foldl storedAfter stored, outcome.result)

section

variable {stored : Scenario} {effects : List Effect} {written : Value}

/-- Effects that leave the stored block as it is. -/
theorem foldl_storedAfter_eq_self
    (fixed : ∀ result, Effect.rewriteDefault result ∈ effects → rewriteDefault stored result = stored) :
    effects.foldl storedAfter stored = stored := by
  induction effects with
  | nil => rfl
  | cons effect rest ih =>
      have first : storedAfter stored effect = stored := by
        cases effect with
        | rewriteDefault result => exact fixed result List.mem_cons_self
        | _ => rfl
      rw [List.foldl_cons, first]
      exact ih fun result member => fixed result (List.mem_cons_of_mem _ member)

/-- Effects that all write the same result. -/
theorem foldl_storedAfter_eq
    (only : ∀ result, Effect.rewriteDefault result ∈ effects → result = written)
    (member : Effect.rewriteDefault written ∈ effects) :
    effects.foldl storedAfter stored = rewriteDefault stored written := by
  induction effects generalizing stored with
  | nil => cases member
  | cons effect rest ih =>
      have later : ∀ result, Effect.rewriteDefault result ∈ rest → result = written :=
        fun result member => only result (List.mem_cons_of_mem _ member)
      rw [List.foldl_cons]
      rcases List.mem_cons.mp member with here | there
      · rw [← here]
        refine foldl_storedAfter_eq_self fun result again => ?_
        rw [later result again]
        exact rewriteDefault_again stored written
      · rw [ih later there]
        cases effect with
        | rewriteDefault result =>
            rw [only result List.mem_cons_self]
            exact rewriteDefault_again stored written
        | _ => rfl

end

/-- **One request leaves the stored block as it is, unless it writes over it.** -/
theorem served_stored {site : Site} (json : site.endpoint.interface = .jsonrpc) (stored : Scenario)
    (asked : Asked) : (served site stored asked).1 = stored ↔ ¬ Overwrites site stored asked := by
  constructor
  · rintro same ⟨ln, parsed, fields, height, reaches, info, lag, hidden⟩
    obtain ⟨new, wrote, shows⟩ := Chains.Ln.synced_eq lag fields
    obtain ⟨entries, cfg, responses, entry, given⟩ := info.responses
    have only : ∀ result, Effect.rewriteDefault result ∈
        ((serveAt site asked.env asked.request asked.arrived).outcomeAt stored).effects →
          result = .dict new := by
      intro result member
      obtain ⟨-, other, again, reaches', info', wrote'⟩ := (rewrite_mem_serveAt json asked.arrived).mp member
      have sameRequest : other = parsed := by
        cases reaches'.body.symm.trans reaches.body
        rfl
      subst sameRequest
      have sameFields : again = fields := info'.unique info
      subst sameFields
      exact Except.ok.inj (wrote'.symm.trans wrote)
    have written : (served site stored asked).1 = rewriteDefault stored (.dict new) := foldl_storedAfter_eq only
      ((rewrite_mem_serveAt json asked.arrived).mpr ⟨ln, parsed, fields, reaches, info, wrote⟩)
    have kept : rewriteDefault stored (.dict new) = stored := written.symm.trans same
    rw [rewriteDefault_eq_self_iff responses entry, given] at kept
    cases kept
    exact hidden (shows.mp rfl)
  · intro quiet
    refine foldl_storedAfter_eq_self fun result member => ?_
    obtain ⟨ln, parsed, fields, reaches, info, wrote⟩ := (rewrite_mem_serveAt json asked.arrived).mp member
    obtain ⟨height, lag⟩ := Chains.Ln.lag_of_synced wrote
    obtain ⟨new, wrote', shows⟩ := Chains.Ln.synced_eq lag fields
    obtain ⟨entries, cfg, responses, entry, given⟩ := info.responses
    have already : new = fields := by
      by_contra other
      exact quiet ⟨ln, parsed, fields, height, reaches, info, lag, fun shown => other (shows.mpr shown)⟩
    rw [rewriteDefault_eq_self_iff responses entry, given, Except.ok.inj (wrote.symm.trans wrote'), already]

/-! ### Every run of requests -/

/-- **Serving keeps no hidden state**, in a run of requests that starts with this block: each reply is the
one that the request gets as the first one, and the stored block stays. -/
def NoHiddenState (site : Site) (stored : Scenario) (run : List Asked) : Prop :=
  ∀ before last, before ++ [last] <+: run →
    (served site (after (served site) stored before) last).2 = (served site stored last).2 ∧
      after (served site) stored (before ++ [last]) = stored

/-- Requests that each leave the stored block leave it together. -/
theorem after_served {site : Site} {stored : Scenario} {before : List Asked}
    (each : ∀ asked ∈ before, (served site stored asked).1 = stored) :
    after (served site) stored before = stored := by
  unfold after
  induction before with
  | nil => rfl
  | cons asked rest ih =>
      rw [List.foldl_cons, each asked List.mem_cons_self]
      exact ih fun other member => each other (List.mem_cons_of_mem _ member)

/-- **A run leaves no trace exactly when none of its requests writes over the stored block.** -/
theorem no_hidden_state_iff (site : Site) (json : site.endpoint.interface = .jsonrpc) (stored : Scenario)
    (run : List Asked) :
    NoHiddenState site stored run ↔ ∀ asked ∈ run, ¬ Overwrites site stored asked := by
  constructor
  · intro clean asked member
    obtain ⟨before, later, rfl⟩ := List.append_of_mem member
    -- The block before the request is the first one, by the request before it.
    have start : after (served site) stored before = stored := by
      rcases List.eq_nil_or_concat before with rfl | ⟨earlier, last, rfl⟩
      · rfl
      · rw [List.concat_eq_append] at clean ⊢
        exact (clean earlier last (List.prefix_append _ _)).2
    have kept := (clean before asked ⟨later, by rw [List.append_assoc]; rfl⟩).2
    unfold after at kept start
    rw [List.foldl_append, start] at kept
    exact (served_stored json stored asked).mp kept
  · intro quiet before last within
    have each : ∀ asked ∈ before ++ [last], (served site stored asked).1 = stored := fun asked member =>
      (served_stored json stored asked).mpr (quiet asked (within.subset member))
    refine ⟨?_, after_served each⟩
    rw [after_served fun asked member => each asked (List.mem_append_left _ member)]

/-! ### A height that shows in another reply -/

/-- A host that reads the calls of two methods. -/
def callHost (first second : String) : Host :=
  { numberHost with
    loads := fun body =>
      if body = callBody first then .ok (.object [("id", .int 1), ("method", .str first)])
      else if body = callBody second then .ok (.object [("id", .int 1), ("method", .str second)])
      else .error (.badJson "Expecting value" 1 1) }

/-- The endpoint of a Lightning provider. -/
def lnEndpoint : Endpoint := ⟨.jsonrpc, .http, 18578⟩

/-- A simulator with that one provider. -/
def lnLayout : Control.Layout :=
  ⟨⟨[("ln-sim", ⟨.ln, [("1", [lnEndpoint])]⟩)], by decide⟩, [(18578, ⟨⟨"ln-sim", "1"⟩, lnEndpoint⟩)]⟩

def lnSite : Site where
  host := callHost "getinfo" "listpeers"
  reader := ⟨fun _ _ _ => .error (.fault .parse ""), fun value _ _ => .ok value⟩
  chain := .ln
  endpoint := lnEndpoint

/-- `{"responses": {"default": {"result": fields}}}`. -/
def resultOf (fields : List (String × Value)) (valid : (Value.object fields).WellFormed) : Control.Json :=
  ⟨.object [("providers", .object [("ln-sim:1",
      .object [("responses", .object [("default", .object [("result", .object fields)])])])])],
    by simpa [Value.object, Value.WellFormed, Value.WellFormedEntries] using valid⟩

def emptyResult : Control.Json := resultOf [] (by simp [Value.object, Value.WellFormed, Value.WellFormedEntries])

/-- The height of the head at rest. -/
def shownResult : Control.Json :=
  resultOf [("block_height", .int 880000)] (by simp [Value.object, Value.WellFormed, Value.WellFormedEntries])

/-- The block that is stored then. -/
def storedResult (body : Control.Json) : Scenario :=
  ((Control.applyScenario lnLayout (fun _ => "") (fun _ => 0) (Control.initial lnLayout)
    body).state ⟨"ln-sim", "1"⟩).scenario.values

def emptyStored : Scenario := storedResult emptyResult

theorem emptyStored_accepted : Accepted emptyStored :=
  ⟨lnLayout, [.apply (fun _ => "") (fun _ => 0) emptyResult], _, ⟨"ln-sim", "1"⟩, rfl, rfl⟩

/-- A call among no others. -/
def lnAsked (method : String) : Asked :=
  ⟨{ numberEnv with quirks := Chain.quirksDefault .ln, head := 880000 }, { body := callBody method }, false⟩

/-- A `getinfo` leaves no trace in an object that already shows its height. -/
theorem no_hidden_state_shown :
    (∀ asked ∈ [lnAsked "getinfo", lnAsked "listpeers"], ¬ Overwrites lnSite (storedResult shownResult) asked) ∧
      NoHiddenState lnSite (storedResult shownResult) [lnAsked "getinfo", lnAsked "listpeers"] := by
  have quiet : ∀ asked ∈ [lnAsked "getinfo", lnAsked "listpeers"],
      ¬ Overwrites lnSite (storedResult shownResult) asked := by
    rintro asked member ⟨-, parsed, fields, height, ⟨body, -⟩, info, lag, hidden⟩
    rcases List.mem_cons.mp member with rfl | again
    · obtain ⟨-, entries, cfg, responses, -, entry, -, -, given⟩ := info
      cases responses
      cases entry
      cases given
      cases lag
      exact hidden ⟨rfl, .inl rfl⟩
    · cases List.mem_singleton.mp again
      have gave : JsonRpc.parseRequest lnSite (lnAsked "listpeers").request =
          .ok (.parsed { fields := [("id", .int 1), ("method", .str "listpeers")] }) := by rfl
      cases gave.symm.trans body
      exact absurd info.method (by decide)
  exact ⟨quiet, (no_hidden_state_iff lnSite rfl (storedResult shownResult) _).mpr quiet⟩

/-- **The height of a `getinfo` shows in a later reply**, of another method. -/
theorem getinfo_leaves_its_height :
    Accepted emptyStored ∧
      (served lnSite (after (served lnSite) emptyStored [lnAsked "getinfo"])
        (lnAsked "listpeers")).2.toOption ≠
        (served lnSite emptyStored (lnAsked "listpeers")).2.toOption ∧
      after (served lnSite) emptyStored [lnAsked "getinfo"] .responses ≠ emptyStored .responses ∧
      ¬ NoHiddenState lnSite emptyStored [lnAsked "getinfo", lnAsked "listpeers"] := by
  have differs : (served lnSite (after (served lnSite) emptyStored [lnAsked "getinfo"])
      (lnAsked "listpeers")).2.toOption ≠
        (served lnSite emptyStored (lnAsked "listpeers")).2.toOption := by
    decide +kernel
  refine ⟨emptyStored_accepted, differs, by decide +kernel, fun clean => differs ?_⟩
  exact congrArg Except.toOption (clean [lnAsked "getinfo"] (lnAsked "listpeers") List.prefix_rfl).1

end ProviderSimulator.Listeners
