/-
**Staged results.**

The entry of `responses` that applies to a request may give its result. Solana serves it as it is. Bitcoin and Lightning
write heights, hashes and parameters into the results of the methods that have no entry of their own, and so into a
result that the entry of `default` gave.

* `Btc.staged_iff` and `Ln.staged_iff` — when the result survives the writing;
* `served_iff` — **a staged result is served as it is written if and only if** its method has an entry of its own, or what
  the chain writes into it is there already.
-/

import Mathlib.Tactic.Common
import ProviderSimulator.Chains.BtcBlocks

namespace ProviderSimulator.Chains

open ProviderSimulator.Lib ProviderSimulator.Python ProviderSimulator.Domain ProviderSimulator.Stubs

/-- The entry that applies to the method is an object with this result, and asks for no error. -/
def Staged (entries : List (Key × Value)) (method result : Value) : Prop :=
  ∃ cfg, entryAt entries method = .dict cfg ∧ Dict.get cfg (.text "result") = some result ∧
    Dict.get cfg (.text "error_stub") = none ∧ Dict.get cfg (.text "error") = none

/-- The reply has this result. -/
def Serves (reply : Except PyError Content) (result : Value) : Prop :=
  ∃ content, reply = .ok content ∧ content.body.item "result" = .ok result

theorem serves_ok {content : Content} {requestId served result : Value}
    (body : content.body = resultEnvelope requestId served) : Serves (.ok content) result ↔ served = result := by
  have read : (resultEnvelope requestId served).item "result" = .ok served := rfl
  constructor
  · rintro ⟨other, same, item⟩
    cases same
    rw [body, read] at item
    injection item
  · rintro rfl
    exact ⟨content, rfl, by rw [body, read]⟩

/-- A computation whose result goes into the reply. -/
theorem serves_bind {found : Except PyError Value} {next : Value → Except PyError Content} {requestId result : Value}
    (replies : ∀ value, ∃ content, next value = .ok content ∧ content.body = resultEnvelope requestId value) :
    Serves (found >>= next) result ↔ found = .ok result := by
  cases found with
  | error error =>
      constructor
      · rintro ⟨content, gave, -⟩
        cases gave
      · nofun
  | ok value =>
      obtain ⟨content, gave, body⟩ := replies value
      rw [ok_bind, gave, serves_ok body, Except.ok.injEq]

/-- No reply serves a result where the method is a key of no dictionary. -/
theorem not_serves_front {stubs : Dict String Value} {entries : List (Key × Value)} {method requestId result : Value}
    {rest : Value → Except PyError Content} (unhashable : method.hashable = false) :
    ¬ Serves (front stubs (.dict entries) method requestId rest) result := by
  have raises : front stubs (.dict entries) method requestId rest = .error .typeError := by
    cases method with
    | list items => rfl
    | dict items => rfl
    | _ => cases unhashable
  rw [raises]
  rintro ⟨content, gave, -⟩
  cases gave

/-- The entry of a staged result asks for no error. -/
theorem front_staged {stubs : Dict String Value} {entries : List (Key × Value)} {method requestId result : Value}
    {rest : Value → Except PyError Content} (hashable : method.hashable = true) (staged : Staged entries method result) :
    ∃ cfg, Dict.get cfg (.text "result") = some result ∧
      front stubs (.dict entries) method requestId rest = rest (.dict cfg) := by
  obtain ⟨cfg, entry, given, stub, error⟩ := staged
  have quiet : overrideError stubs (.dict cfg) = .ok .none := by
    unfold overrideError
    simp only [Value.contains, Dict.has, stub, error]
    rfl
  refine ⟨cfg, given, ?_⟩
  unfold front
  rw [methodCfgOf_eq entries hashable, ok_bind, entry, quiet]
  rfl

/-! ### Bitcoin -/

namespace Btc

variable {host : Host} {request : Parsed} {scenario : Scenario} {head behind : ℤ} {params method : Value}

mutual

/-- Does the value hold the base height or its hash? -/
def holdsBase : Value → Bool
  | .int value => value = btcLatestBlock
  | .str text => text = btcBlockHash btcLatestBlock
  | .list items => holdsBaseItems items
  | .dict entries => holdsBaseEntries entries
  | _ => false

/-- The items of a list. -/
def holdsBaseItems : List Value → Bool
  | [] => false
  | item :: rest => holdsBase item || holdsBaseItems rest

/-- The values of a dictionary. -/
def holdsBaseEntries : List (Key × Value) → Bool
  | [] => false
  | (_, value) :: rest => holdsBase value || holdsBaseEntries rest

end

/-- The value, moved to a height and its hash. -/
def movedTo (height : ℤ) : Value → Value := moved (.int height) (btcBlockHash height)

mutual

/-- **A moved value is the same one if and only if** it holds nothing to move, or the head is at the base height. -/
theorem movedTo_eq_self_iff (height : ℤ) : ∀ value, movedTo height value = value ↔
    (holdsBase value = true → height = btcLatestBlock)
  | .int value => by
      unfold movedTo moved holdsBase
      by_cases base : value = btcLatestBlock
      · simp [base]
      · simp [base]
  | .str text => by
      unfold movedTo moved holdsBase
      by_cases base : text = btcBlockHash btcLatestBlock
      · rw [if_pos base, base]
        simp only [Value.str.injEq, decide_true, forall_const]
        exact ⟨btcBlockHash_injective, fun same => by rw [same]⟩
      · simp [base]
  | .list items => by
      unfold movedTo moved holdsBase
      rw [Value.list.injEq, ← movedItems_eq_self_iff height items]
  | .dict entries => by
      unfold movedTo moved holdsBase
      rw [Value.dict.injEq, ← movedEntries_eq_self_iff height entries]
  | .none => by simp [movedTo, moved, holdsBase]
  | .bool flag => by simp [movedTo, moved, holdsBase]
  | .float number => by simp [movedTo, moved, holdsBase]

theorem movedItems_eq_self_iff (height : ℤ) : ∀ items,
    movedItems (.int height) (btcBlockHash height) items = items ↔
      (holdsBaseItems items = true → height = btcLatestBlock)
  | [] => by simp [movedItems, holdsBaseItems]
  | item :: rest => by
      unfold movedItems holdsBaseItems
      rw [List.cons.injEq, Bool.or_eq_true, or_imp, ← movedTo_eq_self_iff height item,
        ← movedItems_eq_self_iff height rest, movedTo]

theorem movedEntries_eq_self_iff (height : ℤ) : ∀ entries,
    movedEntries (.int height) (btcBlockHash height) entries = entries ↔
      (holdsBaseEntries entries = true → height = btcLatestBlock)
  | [] => by simp [movedEntries, holdsBaseEntries]
  | (key, value) :: rest => by
      unfold movedEntries holdsBaseEntries
      rw [List.cons.injEq, Prod.mk.injEq, Bool.or_eq_true, or_imp, ← movedTo_eq_self_iff height value,
        ← movedEntries_eq_self_iff height rest, movedTo]
      simp

end

/-- A moved object with a written field is the same one if and only if the field was there, and the others hold nothing
to move. -/
theorem set_movedEntries_eq_self_iff (height : ℤ) (key : Key) (new : Value) (entries : List (Key × Value)) :
    Dict.set (movedEntries (.int height) (btcBlockHash height) entries) key new = entries ↔
      Dict.get entries key = some new ∧
        (holdsBaseEntries (Dict.set entries key .none) = true → height = btcLatestBlock) := by
  induction entries with
  | nil => simp [movedEntries, Dict.set]
  | cons item rest ih =>
      obtain ⟨first, value⟩ := item
      unfold movedEntries Dict.set
      rw [Dict.get_cons]
      by_cases same : first = key
      · rw [if_pos same, if_pos same, if_pos same]
        unfold holdsBaseEntries
        rw [show holdsBase Value.none = false from rfl, Bool.false_or, ← movedEntries_eq_self_iff height rest]
        simp [same, eq_comm]
      · rw [if_neg same, if_neg same, if_neg same]
        unfold holdsBaseEntries
        rw [List.cons.injEq, Prod.mk.injEq, ih, Bool.or_eq_true, or_imp, ← movedTo_eq_self_iff height value, movedTo]
        tauto

/-- The two methods that echo a hash. -/
def TakesHash (method : Value) : Prop := method = .str "getblock" ∨ method = .str "getblockheader"

/-- **What Bitcoin writes into a result is there already.** -/
inductive Kept (host : Host) (height : ℤ) (params result method : Value) : Prop
  /-- `getblockhash` names a height, and the result is the hash of it. -/
  | named (wanted : ℤ) (asked : method = .str "getblockhash") (given : params.truthy = true)
      (read : namedHeight host params = .ok wanted) (same : result = .str (btcBlockHash wanted))
  /-- The result has the hash that is echoed, and its other fields hold nothing to move. -/
  | echoed (text : String) (entries : List (Key × Value)) (asked : TakesHash method) (given : params.truthy = true)
      (object : result = .dict entries) (fits : nesting result < host.frames)
      (first : params.first = .ok (.str text)) (hash : Dict.get entries (.text "hash") = some (.str text))
      (others : holdsBaseEntries (Dict.set entries (.text "hash") .none) = true → height = btcLatestBlock)
  /-- Nothing is echoed, and the result holds nothing to move. -/
  | walked (unnamed : method = .str "getblockhash" → params.truthy = false) (fits : nesting result < host.frames)
      (silent : TakesHash method → params.truthy = true → result.isDict = true →
        ∃ first, params.first = .ok first ∧ ∀ text, first ≠ .str text)
      (level : holdsBase result = true → height = btcLatestBlock)

/-- The walk either moves the result or runs out of calls. -/
theorem restampHead_bind_eq_ok {height : ℤ} {result served : Value} {next : Value → Except PyError Value} :
    restampHead (.int height) host.frames result >>= next = .ok served ↔
      nesting result < host.frames ∧ next (movedTo height result) = .ok served := by
  by_cases fits : nesting result < host.frames
  · rw [restampHead_eq host.frames result fits fun _ => rfl, ok_bind]
    exact ⟨fun gave => ⟨fits, gave⟩, And.right⟩
  · refine ⟨fun gave => ?_, fun both => absurd both.1 fits⟩
    obtain ⟨moved, walked, -⟩ := ok_of_bind gave
    exact absurd ((restampHead_gives host.frames result).mp ⟨moved, walked⟩).1 fits

/-- What `echoHash` writes into an object. -/
theorem echoHash_eq_ok {entries : List (Key × Value)} {served : Value} :
    echoHash params (.dict entries) = .ok served ↔
      (∃ text, params.first = .ok (.str text) ∧ .dict (Dict.set entries (.text "hash") (.str text)) = served) ∨
        ∃ first, params.first = .ok first ∧ (∀ text, first ≠ .str text) ∧ .dict entries = served := by
  unfold echoHash
  cases read : params.first with
  | error error =>
      constructor
      · nofun
      · rintro (⟨text, same, -⟩ | ⟨first, same, -⟩)
        · cases same
        · cases same
  | ok first =>
      rw [ok_bind]
      cases first with
      | str text =>
          constructor
          · intro same
            exact .inl ⟨text, rfl, Except.ok.inj same⟩
          · rintro (⟨other, same, rfl⟩ | ⟨other, same, noText, -⟩)
            · cases same
              rfl
            · cases same
              exact absurd rfl (noText text)
      | _ =>
          constructor
          · intro same
            exact .inr ⟨_, rfl, nofun, Except.ok.inj same⟩
          · rintro (⟨other, same, -⟩ | ⟨other, -, -, rfl⟩)
            · cases same
            · rfl

/-- **The result of a method that names no height.** -/
theorem computed_eq_self_iff {height : ℤ} {result : Value}
    (unnamed : method = .str "getblockhash" → params.truthy = false) :
    computed host (.int height) params result method = .ok result ↔ Kept host height params result method := by
  have skipped : ¬ ((method.eqText "getblockhash" && params.truthy) = true) := by
    rw [Bool.and_eq_true, Value.eqText_iff]
    rintro ⟨same, truthy⟩
    rw [unnamed same] at truthy
    cases truthy
  have echoes : ∀ found : Value, ((method.eqText "getblock" || method.eqText "getblockheader") &&
      params.truthy && found.isDict) = true ↔ TakesHash method ∧ params.truthy = true ∧ found.isDict = true := by
    intro found
    rw [Bool.and_eq_true, Bool.and_eq_true, Bool.or_eq_true, Value.eqText_iff, Value.eqText_iff, TakesHash, and_assoc]
  have object : (movedTo height result).isDict = result.isDict := by
    cases result with
    | int value =>
        unfold movedTo moved
        split <;> rfl
    | str text =>
        unfold movedTo moved
        split <;> rfl
    | _ => rfl
  unfold computed
  rw [if_neg skipped, restampHead_bind_eq_ok]
  dsimp only
  by_cases asked : TakesHash method ∧ params.truthy = true ∧ result.isDict = true
  · obtain ⟨takes, given, isObject⟩ := asked
    rw [if_pos ((echoes (movedTo height result)).mpr ⟨takes, given, object.trans isObject⟩)]
    cases result with
    | dict entries =>
        rw [movedTo, moved, echoHash_eq_ok]
        constructor
        · rintro ⟨fits, ⟨text, first, written⟩ | ⟨first, read, noText, same⟩⟩
          · have both := (set_movedEntries_eq_self_iff height _ _ entries).mp (Value.dict.inj written)
            exact .echoed text entries takes given rfl fits first both.1 both.2
          · exact .walked unnamed fits (fun _ _ _ => ⟨first, read, noText⟩) ((movedTo_eq_self_iff height _).mp same)
        · intro kept
          cases kept with
          | named wanted asked => exact absurd given (by rw [unnamed asked]; decide)
          | echoed text others asked _ same fits first hash level =>
              cases same
              refine ⟨fits, .inl ⟨text, first, ?_⟩⟩
              rw [(set_movedEntries_eq_self_iff height _ _ entries).mpr ⟨hash, level⟩]
          | walked _ fits silent level =>
              obtain ⟨first, read, noText⟩ := silent takes given rfl
              exact ⟨fits, .inr ⟨first, read, noText, (movedTo_eq_self_iff height _).mpr level⟩⟩
    | _ => cases isObject
  · have silent : ¬ _ := fun both => asked (object ▸ (echoes (movedTo height result)).mp both)
    rw [if_neg silent]
    change _ ∧ Except.ok (movedTo height result) = .ok result ↔ _
    rw [Except.ok.injEq, movedTo_eq_self_iff]
    constructor
    · rintro ⟨fits, level⟩
      exact .walked unnamed fits (fun takes given isObject => absurd ⟨takes, given, isObject⟩ asked) level
    · intro kept
      cases kept with
      | named wanted same given => exact absurd given (by rw [unnamed same]; decide)
      | echoed text entries takes given same => exact absurd ⟨takes, given, by rw [same]; rfl⟩ asked
      | walked _ fits _ level => exact ⟨fits, level⟩

/-- **The hash of the height that `getblockhash` names.** -/
theorem named_serves {height : ℤ} {status requestId result : Value} (asked : method = .str "getblockhash") (given : params.truthy = true) :
    Serves (do
      match ← namedHash host params with
      | some hash => pure { status, body := resultEnvelope requestId (.str hash) }
      | none =>
          let error ← tableItem btcErrorStubs (.str "invalid_parameter")
          pure { status := .int 200, body := errorEnvelope requestId error }) result ↔
      Kept host height params result method := by
  have kept : Kept host height params result method ↔
      ∃ wanted, namedHeight host params = .ok wanted ∧ result = .str (btcBlockHash wanted) := by
    constructor
    · intro kept
      cases kept with
      | named wanted _ _ read same => exact ⟨wanted, read, same⟩
      | echoed _ _ takes =>
          rw [asked] at takes
          exact absurd takes (by unfold TakesHash; decide)
      | walked unnamed => exact absurd given (by rw [unnamed asked]; decide)
    · rintro ⟨wanted, read, same⟩
      exact .named wanted asked given read same
  rw [kept]
  unfold namedHash
  cases read : namedHeight host params with
  | ok wanted =>
      refine (serves_ok rfl).trans ⟨fun same => ⟨wanted, rfl, same.symm⟩, ?_⟩
      rintro ⟨other, same, written⟩
      cases same
      exact written.symm
  | error error =>
      constructor
      · rintro ⟨content, gave, item⟩
        cases error with
        | typeError =>
            cases gave
            cases item
        | valueError =>
            cases gave
            cases item
        | _ => cases gave
      · rintro ⟨wanted, same, -⟩
        cases same

/-- **A staged result of Bitcoin.** -/
theorem staged_iff {entries : List (Key × Value)} {result : Value} (responses : responsesOf scenario = .dict entries)
    (lag : scenario .blocksBehind = .int behind)
    (staged : Staged entries (request.getD "method" (.str "unknown")) result) :
    Serves (buildSuccess host request scenario head) result ↔
      (request.getD "method" (.str "unknown")).hashable = true ∧
        (hasOwn entries (request.getD "method" (.str "unknown")) = true ∨
          Kept host (head - behind) (request.getD "params" (.list [])) result (request.getD "method" (.str "unknown"))) := by
  rw [buildSuccess_eq, responses]
  by_cases hashable : (request.getD "method" (.str "unknown")).hashable = true
  · obtain ⟨cfg, given, front⟩ := front_staged hashable staged
    have read : resultOf btcMethodDefaults (.dict cfg) (request.getD "method" (.str "unknown")) = .ok result := by
      rw [resultOf_eq btcMethodDefaults cfg hashable, resultAt, given]
      rfl
    rw [front]
    unfold rest
    dsimp only
    rw [responses, lag, read, ok_bind, Host.sub_int, ok_bind, inResponses_eq entries hashable, ok_bind]
    generalize request.getD "method" (.str "unknown") = method at *
    generalize request.getD "params" (.list []) = params at *
    by_cases own : hasOwn entries method = true
    · rw [if_pos own]
      exact (serves_ok rfl).trans ⟨fun _ => ⟨hashable, .inl own⟩, fun _ => rfl⟩
    · rw [if_neg own]
      refine Iff.trans ?_ (and_iff_right hashable).symm
      refine Iff.trans ?_ (or_iff_right own).symm
      by_cases named : method = .str "getblockhash" ∧ params.truthy = true
      · have taken : (method.eqText "getblockhash" && params.truthy) = true := by
          rw [named.1, named.2]
          rfl
        rw [computed_of_named named.1 named.2, ok_bind]
        exact (iff_of_eq (congrArg (Serves · result) (if_pos taken))).trans (named_serves named.1 named.2)
      · have unnamed : method = .str "getblockhash" → params.truthy = false := fun same =>
          Bool.eq_false_iff.mpr fun truthy => named ⟨same, truthy⟩
        have skipped : ¬ ((method.eqText "getblockhash" && params.truthy) = true) := by
          rw [Bool.and_eq_true, Value.eqText_iff]
          exact named
        simp only [if_neg skipped]
        rw [← computed_eq_self_iff unnamed]
        exact serves_bind fun value => ⟨_, rfl, rfl⟩
  · refine ⟨fun serves => absurd serves (not_serves_front (by simpa using hashable)), fun both => absurd both.1 hashable⟩

end Btc

/-! ### Lightning -/

namespace Ln

variable {host : Host} {request : Parsed} {scenario : Scenario} {head behind : ℤ} {params method result : Value}

/-- **What Lightning writes into a result is there already.** -/
structure Kept (head behind : ℤ) (params result method : Value) : Prop where
  /-- `getinfo` has the height of the chain, and a node that is not level has the flag down. -/
  synced : method = .str "getinfo" → ∀ entries, result = .dict entries →
    Dict.get entries (.text "block_height") = some (.int (head - behind)) ∧
      (behind ≠ 0 → Dict.get entries (.text "synced_to_chain") = some (.bool false))
  /-- The parameter that is echoed is there under its name. -/
  echoed : ∀ name wanted, method = .str name → Ln.echoed.get name = some wanted → params.truthy = true →
    ∀ entries, result = .dict entries → ∃ first, params.first = .ok first ∧
      ∀ text, first = .str text → text ≠ "" → Dict.get entries (.text wanted) = some (.str text)

theorem synced_eq_self_iff {entries : List (Key × Value)} :
    synced host head (.int behind) (.dict entries) = .ok (.dict entries) ↔
      Dict.get entries (.text "block_height") = some (.int (head - behind)) ∧
        (behind ≠ 0 → Dict.get entries (.text "synced_to_chain") = some (.bool false)) := by
  unfold synced
  rw [Host.sub_int, ok_bind, Value.setItem, ok_bind]
  by_cases level : behind = 0
  · have zero : (Value.int behind).eqInt 0 = true := decide_eq_true level
    rw [if_pos zero]
    change Except.ok _ = .ok _ ↔ _
    rw [Except.ok.injEq, Value.dict.injEq, Dict.set_eq_self_iff]
    exact ⟨fun height => ⟨height, fun apart => absurd level apart⟩, And.left⟩
  · have apart : ¬ (Value.int behind).eqInt 0 = true := fun same => level (of_decide_eq_true same)
    rw [if_neg apart, Value.setItem, Except.ok.injEq, Value.dict.injEq]
    constructor
    · intro same
      rw [← same]
      refine ⟨?_, fun _ => Dict.get_set_self _ _ _⟩
      rw [Dict.get_set_of_ne _ (by decide), Dict.get_set_self]
    · rintro ⟨height, flag⟩
      rw [(Dict.set_eq_self_iff _ _ _).mpr height, (Dict.set_eq_self_iff _ _ _).mpr (flag level)]

theorem echo_eq_self_iff {entries : List (Key × Value)} {wanted : String} :
    echo params (.dict entries) wanted = .ok (.dict entries) ↔
      ∃ first, params.first = .ok first ∧
        ∀ text, first = .str text → text ≠ "" → Dict.get entries (.text wanted) = some (.str text) := by
  unfold echo
  cases params.first with
  | error error =>
      constructor
      · intro same
        cases same
      · rintro ⟨_, same, _⟩
        cases same
  | ok first =>
      rw [ok_bind]
      cases first with
      | str text =>
          by_cases empty : text = ""
          · refine ⟨fun _ => ⟨_, rfl, fun other same given => ?_⟩, fun _ => if_pos empty⟩
            cases same
            exact absurd empty given
          · change (if text = "" then _ else _) = _ ↔ _
            rw [if_neg empty, Value.setItem, Except.ok.injEq, Value.dict.injEq, Dict.set_eq_self_iff]
            constructor
            · intro held
              refine ⟨_, rfl, fun other same _ => ?_⟩
              cases same
              exact held
            · rintro ⟨other, same, held⟩
              cases same
              exact held text rfl empty
      | _ => exact ⟨fun _ => ⟨_, rfl, fun _ same => absurd same (by simp)⟩, fun _ => rfl⟩

theorem echoStage_eq_self_iff :
    echoStage params method result = .ok result ↔
      ∀ name wanted, method = .str name → echoed.get name = some wanted → params.truthy = true →
        ∀ entries, result = .dict entries → ∃ first, params.first = .ok first ∧
          ∀ text, first = .str text → text ≠ "" → Dict.get entries (.text wanted) = some (.str text) := by
  unfold echoStage
  cases method with
  | str name =>
      dsimp only
      cases table : echoed.get name with
      | none =>
          refine ⟨fun _ other wanted same found => ?_, fun _ => rfl⟩
          cases same
          rw [table] at found
          cases found
      | some wanted =>
          dsimp only
          by_cases both : (params.truthy && result.isDict) = true
          · rw [if_pos both]
            rw [Bool.and_eq_true] at both
            cases result with
            | dict entries =>
                rw [echo_eq_self_iff]
                constructor
                · intro kept other field same found _ others object
                  cases same
                  cases object
                  rw [table] at found
                  cases found
                  exact kept
                · intro kept
                  exact kept name wanted rfl table both.1 entries rfl
            | _ => cases both.2
          · rw [if_neg both]
            refine ⟨fun _ _ _ _ _ truthy entries object => absurd ?_ both, fun _ => rfl⟩
            rw [truthy, object]
            rfl
  | _ => exact ⟨fun _ => nofun, fun _ => rfl⟩

/-- **The result of a method without an entry of its own.** -/
theorem computed_eq_self_iff :
    computed host head (.int behind) params result method = .ok result ↔ Kept head behind params result method := by
  have silent : ∀ found : Value, echoStage params (.str "getinfo") found = .ok found := fun _ => rfl
  rw [computed_eq]
  by_cases asked : method = .str "getinfo"
  · subst asked
    have noEcho : ∀ name wanted, Value.str "getinfo" = .str name → echoed.get name ≠ some wanted := by
      intro name wanted same found
      cases same
      cases found
    cases result with
    | dict entries =>
        rw [if_pos (by rfl)]
        have skip : synced host head (.int behind) (.dict entries) >>= echoStage params (.str "getinfo") =
            synced host head (.int behind) (.dict entries) := by
          cases synced host head (.int behind) (.dict entries) with
          | error error => rfl
          | ok found => exact silent found
        rw [skip, synced_eq_self_iff]
        constructor
        · intro kept
          refine ⟨fun _ others object => ?_, fun name wanted same found => absurd found (noEcho name wanted same)⟩
          cases object
          exact kept
        · exact fun kept => kept.synced rfl entries rfl
    | _ => exact ⟨fun _ => ⟨nofun, fun _ _ _ _ _ _ => nofun⟩, fun _ => silent _⟩
  · have skipped : ¬ ((method.eqText "getinfo" && result.isDict) = true) := by
      rw [Bool.and_eq_true, Value.eqText_iff]
      exact fun both => asked both.1
    rw [if_neg skipped]
    change echoStage params method result = .ok result ↔ _
    rw [echoStage_eq_self_iff]
    exact ⟨fun kept => ⟨fun same => absurd same asked, kept⟩, Kept.echoed⟩

/-- **A staged result of Lightning.** -/
theorem staged_iff {entries : List (Key × Value)} (responses : responsesOf scenario = .dict entries)
    (lag : scenario .blocksBehind = .int behind)
    (staged : Staged entries (request.getD "method" (.str "unknown")) result) :
    Serves (buildSuccess host request scenario head) result ↔
      (request.getD "method" (.str "unknown")).hashable = true ∧
        (hasOwn entries (request.getD "method" (.str "unknown")) = true ∨
          Kept head behind (request.getD "params" (.list [])) result (request.getD "method" (.str "unknown"))) := by
  rw [buildSuccess_eq, responses]
  by_cases hashable : (request.getD "method" (.str "unknown")).hashable = true
  · obtain ⟨cfg, given, front⟩ := front_staged hashable staged
    have read : Btc.resultOf lndMethodDefaults (.dict cfg) (request.getD "method" (.str "unknown")) = .ok result := by
      rw [resultOf_eq lndMethodDefaults cfg hashable, resultAt, given]
      rfl
    rw [front]
    unfold rest
    dsimp only
    rw [responses, lag, read, ok_bind, inResponses_eq entries hashable, ok_bind]
    by_cases own : hasOwn entries (request.getD "method" (.str "unknown")) = true
    · rw [if_pos own]
      exact (serves_ok rfl).trans ⟨fun _ => ⟨hashable, .inl own⟩, fun _ => rfl⟩
    · rw [if_neg own, and_iff_right hashable, or_iff_right own, ← computed_eq_self_iff]
      exact serves_bind fun value => ⟨_, rfl, rfl⟩
  · exact ⟨fun serves => absurd serves (not_serves_front (by simpa using hashable)), fun both => absurd both.1 hashable⟩

end Ln

/-! ### The three chains -/

/-- **A staged result of Solana.** -/
theorem Solana.staged_iff {host : Host} {request : Parsed} {scenario : Scenario} {quirks : Quirks} {head : ℤ}
    {entries : List (Key × Value)} {result : Value} (responses : responsesOf scenario = .dict entries)
    (staged : Staged entries (request.getD "method" (.str "unknown")) result) :
    Serves (Solana.buildSuccess host request scenario quirks head) result ↔
      (request.getD "method" (.str "unknown")).hashable = true := by
  rw [Solana.buildSuccess_eq, responses]
  by_cases hashable : (request.getD "method" (.str "unknown")).hashable = true
  · obtain ⟨cfg, given, front⟩ := front_staged hashable staged
    have held : (Value.dict cfg).contains "result" = .ok true := by
      unfold Value.contains Dict.has
      dsimp only
      rw [given]
      rfl
    have read : (Value.dict cfg).item "result" = .ok result := by
      unfold Value.item
      dsimp only
      rw [given]
    rw [front]
    unfold Solana.rest
    rw [held, ok_bind, if_pos rfl, read]
    exact (serves_ok rfl).trans ⟨fun _ => hashable, fun _ => rfl⟩
  · exact ⟨fun serves => absurd serves (not_serves_front (by simpa using hashable)), fun same => absurd same hashable⟩

/-- Three chains that serve staged results. -/
inductive Coin
  | btc
  | ln
  | solana

/-- `build_success` of the chain. -/
def Coin.buildSuccess (coin : Coin) (host : Host) (request : Parsed) (scenario : Scenario) (quirks : Quirks) (head : ℤ) :
    Except PyError Content :=
  match coin with
  | btc => Btc.buildSuccess host request scenario head
  | ln => Ln.buildSuccess host request scenario head
  | solana => Solana.buildSuccess host request scenario quirks head

/-- What the chain writes into a result is there already. -/
def Coin.Kept (coin : Coin) (host : Host) (head behind : ℤ) (params result method : Value) : Prop :=
  match coin with
  | btc => Btc.Kept host (head - behind) params result method
  | ln => Ln.Kept head behind params result method
  | solana => True

/-- **A staged result is served as it is written if and only if** the method can be a key, and it has an entry of its own
or what the chain writes into the result is there already. -/
theorem served_iff (coin : Coin) (host : Host) (request : Parsed) (quirks : Quirks) (head behind : ℤ)
    {scenario : Scenario} {entries : List (Key × Value)} (responses : responsesOf scenario = .dict entries)
    (lag : scenario .blocksBehind = .int behind) {result : Value}
    (staged : Staged entries (request.getD "method" (.str "unknown")) result) :
    Serves (coin.buildSuccess host request scenario quirks head) result ↔
      (request.getD "method" (.str "unknown")).hashable = true ∧
        (hasOwn entries (request.getD "method" (.str "unknown")) = true ∨
          coin.Kept host head behind (request.getD "params" (.list [])) result
            (request.getD "method" (.str "unknown"))) := by
  cases coin with
  | btc => exact Btc.staged_iff responses lag staged
  | ln => exact Ln.staged_iff responses lag staged
  | solana => exact (Solana.staged_iff responses staged).trans ⟨fun same => ⟨same, .inr trivial⟩, And.left⟩

/-- The default scenario, where the entry of `default` has a result. -/
def stagedDefault (result : Value) : Scenario := fun field =>
  match field with
  | .responses => .object [("default", .object [("result", result)])]
  | other => other.default

theorem stagedDefault_staged (result : Value) {method : String} (other : method ≠ "default") :
    Staged [(.text "default", .object [("result", result)])] (.str method) result := by
  have absent : Dict.get [(Key.text "default", Value.object [("result", result)])] (.text method) = none := by
    rw [Dict.get_cons, if_neg fun same => other (Key.text.inj same).symm]
    rfl
  refine ⟨[(.text "result", result)], ?_, rfl, rfl, rfl⟩
  unfold entryAt
  dsimp only
  rw [absent]
  rfl

/-- A text that is no hash is served by Bitcoin as the count of its blocks. -/
theorem served_iff_text :
    Serves (Coin.btc.buildSuccess asciiHost (Btc.requestWith "getblockcount" []) (stagedDefault (.str "many"))
      (Chain.quirksDefault .btc) 850001) (.str "many") := by
  refine (served_iff .btc asciiHost (Btc.requestWith "getblockcount" []) _ 850001 0 rfl rfl
    (stagedDefault_staged (.str "many") (by decide))).mpr ⟨rfl, .inr (.walked nofun (by decide) nofun fun held => ?_)⟩
  exact absurd held (by decide +kernel)

/-- A staged height is moved with the head of Bitcoin, and a staged object of Lightning gets a height. -/
theorem staged_result_rewritten :
    Staged [(.text "default", .object [("result", .int 850000)])] (.str "getblockcount") (.int 850000) ∧
    ¬ Serves (Coin.btc.buildSuccess asciiHost (Btc.requestWith "getblockcount" []) (stagedDefault (.int 850000))
      (Chain.quirksDefault .btc) 850001) (.int 850000) ∧
    Staged [(.text "default", .object [("result", .dict [])])] (.str "getinfo") (.dict []) ∧
    ¬ Serves (Coin.ln.buildSuccess asciiHost (Btc.requestWith "getinfo" []) (stagedDefault (.dict []))
      (Chain.quirksDefault .ln) 850000) (.dict []) := by
  have staged : Staged [(.text "default", .object [("result", .int 850000)])] (.str "getblockcount") (.int 850000) :=
    stagedDefault_staged _ (by decide)
  have staged' : Staged [(.text "default", .object [("result", .dict [])])] (.str "getinfo") (.dict []) :=
    stagedDefault_staged _ (by decide)
  refine ⟨staged, fun serves => ?_, staged', fun serves => ?_⟩
  · obtain ⟨-, own | kept⟩ := (Btc.staged_iff rfl rfl staged).mp serves
    · cases own
    · cases kept with
      | named wanted asked => exact absurd (Value.str.inj asked) (by decide)
      | echoed text entries takes given object => cases object
      | walked unnamed fits silent level => exact absurd (level rfl) (by decide)
  · obtain ⟨-, own | kept⟩ := (Ln.staged_iff rfl rfl staged').mp serves
    · cases own
    · have height := (kept.synced rfl [] rfl).1
      cases height

end ProviderSimulator.Chains
