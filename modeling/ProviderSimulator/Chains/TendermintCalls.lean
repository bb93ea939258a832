/-
**What a Tendermint reply reads of its parameters.**

`_build_tm` reads four parameters: the height of `block`, `validators` and `abci_query`, and the page of `validators`.
Everything else of a reply comes from the method, the scenario and the head.

* `tmPlan` and `buildTm_eq` — a reply is a plan, put into the envelope with the request id;
* `SameReads` — two parameter objects read alike by a method;
* `tmResult_congr` — such objects get one result, at every head and under every scenario;
* `sameReads_of_tmResult` — **no others do**: objects that get one result at every head are read alike.
-/

import Mathlib.Tactic.Common
import Mathlib.Data.List.Sort
import ProviderSimulator.Chains.Lava
import ProviderSimulator.Python.Numerals

namespace ProviderSimulator.Chains.Lava

open ProviderSimulator.Lib ProviderSimulator.Python ProviderSimulator.Domain ProviderSimulator.Stubs

/-! ### The envelope -/

/-- A reply without its request id. -/
structure TmPlan where
  status : Value
  failed : Bool
  payload : Value

/-- The reply to a request with an id. -/
def TmPlan.content (plan : TmPlan) (requestId : Value) : Content where
  status := plan.status
  body := if plan.failed then errorEnvelope requestId plan.payload else resultEnvelope requestId plan.payload

/-- The canned reply of an entry, without the request id. -/
def cannedPlan : Value → Except PyError (Option TmPlan)
  | .dict cfg => do
      let status := pickStatus cfg "status" "http_status" 200
      let error ← overrideError tendermintErrorStubs (.dict cfg)
      if !error.isNone then pure (some ⟨status, true, error⟩)
      else pure ((Dict.get cfg (.text "body")).map fun body => ⟨status, false, body⟩)
  | _ => .ok none

/-- The reply of a method with no canned one. -/
def computedPlan (host : Host) (head : ℤ) (method params : Value) (scenario : Scenario) : Except PyError TmPlan := do
  match method, ← tableGet tendermintMethodDefaults method with
  | .str name, some stub =>
      let result ← tmResult host head (scenario .blocksBehind) params name stub
      pure ⟨scenario .httpStatus, false, result⟩
  | _, _ =>
      pure ⟨scenario .httpStatus, true, .object [
        ("code", .int (-32601)), ("message", .str ("Unknown method: " ++ host.text method))]⟩

/-- What `_build_tm` decides apart from the request id. -/
def tmPlan (host : Host) (head : ℤ) (method params : Value) (scenario : Scenario) : Except PyError TmPlan := do
  let methodCfg ← methodCfgOf (responsesOf scenario) method
  match ← cannedPlan methodCfg with
  | some plan => pure plan
  | none => computedPlan host head method params scenario

variable {host : Host} {head : ℤ} {scenario : Scenario}

/-- **A reply is its plan in an envelope.** -/
theorem buildTm_eq (request : Parsed) :
    buildTm host request scenario head =
      (tmPlan host head (request.getD "method" (.str "unknown")) ((request.get "params").orElse (.dict []))
        scenario).map fun plan => plan.content (request.getD "id" (.int 1)) := by
  unfold buildTm tmPlan
  dsimp only
  cases methodCfgOf (responsesOf scenario) (request.getD "method" (.str "unknown")) with
  | error error => rfl
  | ok methodCfg =>
      rw [ok_bind, ok_bind]
      have computed : ∀ method params requestId : Value,
          (do
            let status := scenario .httpStatus
            match method, ← tableGet tendermintMethodDefaults method with
            | .str name, some stub =>
                let result ← tmResult host head (scenario .blocksBehind) params name stub
                pure { status, body := resultEnvelope requestId result }
            | _, _ =>
                let error := Value.object [
                  ("code", .int (-32601)), ("message", .str ("Unknown method: " ++ host.text method))]
                pure { status, body := errorEnvelope requestId error } : Except PyError Content) =
            (computedPlan host head method params scenario).map fun plan => plan.content requestId := by
        intro method params requestId
        unfold computedPlan
        cases tableGet tendermintMethodDefaults method with
        | error error => rfl
        | ok stub =>
            rw [ok_bind, ok_bind]
            cases method with
            | str name =>
                cases stub with
                | none => rfl
                | some stub =>
                    dsimp only
                    cases tmResult host head (scenario .blocksBehind) params name stub <;> rfl
            | _ => rfl
      cases methodCfg with
      | dict cfg =>
          unfold cannedPlan canned
          dsimp only
          cases overrideError tendermintErrorStubs (.dict cfg) with
          | error error => rfl
          | ok error =>
              rw [ok_bind, ok_bind]
              by_cases failed : (!error.isNone) = true
              · rw [if_pos failed, if_pos failed]
                rfl
              · rw [if_neg failed, if_neg failed]
                cases Dict.get cfg (.text "body") with
                | some body => rfl
                | none => exact computed _ _ _
      | _ => exact computed _ _ _

/-! ### The parameters -/

/-- A parameter of an object, null where it is absent. -/
def paramOf (params : List (String × Value)) (name : String) : Value := (Dict.get params name).getD .none

theorem get_object (params : List (String × Value)) (name : String) :
    Dict.get (params.map fun member => (Key.text member.1, member.2)) (.text name) = Dict.get params name := by
  induction params with
  | nil => rfl
  | cons member rest ih =>
      rw [List.map_cons, Dict.get_cons, Dict.get_cons, ih]
      simp

theorem getD_object (params : List (String × Value)) (name : String) :
    (Value.object params).getD name .none = .ok (paramOf params name) := by
  change (Except.ok (((Dict.get (params.map fun member => (Key.text member.1, member.2)) (.text name))).getD .none) :
    Except PyError Value) = _
  rw [get_object]
  rfl

/-- The number of a value, if `_to_int` finds one in it. -/
def numberOf (host : Host) : Value → Option ℤ
  | .int number => some number
  | .str text => host.parseInt 10 text
  | _ => none

theorem toInt_eq (host : Host) (value : Value) (default : ℤ) : toInt host value default = (numberOf host value).getD default := by
  cases value <;> rfl

/-- The page of an object. -/
def pageOf (host : Host) (params : List (String × Value)) : ℤ := max (toInt host (paramOf params "page") 1) 1

/-- The size of the pages of an object. -/
def perPageOf (host : Host) (params : List (String × Value)) : ℤ := max (toInt host (paramOf params "per_page") 30) 1

/-- Is the validator with the number on the page? -/
def OnPage (page perPage : ℤ) (index : ℕ) : Prop := (page - 1) * perPage ≤ index ∧ (index : ℤ) < page * perPage

/-- Two objects name one height: both name none, or both name one and it is the same number. -/
def SameHeight (host : Host) (default : Option ℤ) (one other : List (String × Value)) : Prop :=
  ((paramOf one "height").isNone = true ↔ (paramOf other "height").isNone = true) ∧
    (numberOf host (paramOf one "height")).or default = (numberOf host (paramOf other "height")).or default

/-- **Two objects are read alike by a method.** A height that is no number is 0 for `block` and for `abci_query`, and the
head for `validators`. -/
def SameReads (host : Host) (method : String) (one other : List (String × Value)) : Prop :=
  match method with
  | "block" => SameHeight host (some 0) one other
  | "validators" => SameHeight host none one other ∧ ∀ index < validatorPool.length,
      (OnPage (pageOf host one) (perPageOf host one) index ↔ OnPage (pageOf host other) (perPageOf host other) index)
  | "abci_query" => toInt host (paramOf one "height") 0 = toInt host (paramOf other "height") 0
  | _ => True

/-! ### The validators of a page -/

/-- The numbers of the validators that a page shows. -/
def onPage (page perPage : ℤ) : List ℕ :=
  let start := (max ((page - 1) * perPage) 0).toNat
  let stop := (min (start + perPage) validatorPool.length).toNat
  ((List.range validatorPool.length).drop start).take (stop - start)

/-- One validator of the pool. -/
def validator (index : ℕ) : Value := validatorPool[index]?.getD .none

theorem map_validator : (List.range validatorPool.length).map validator = validatorPool := by
  refine List.ext_getElem (by simp) fun index small _ => ?_
  simp [validator] at small ⊢
  simp [small]

theorem tmValidatorsResponse_eq (height : String) (page perPage : ℤ) :
    tmValidatorsResponse height page perPage =
      .object [
        ("block_height", .str height), ("validators", .list ((onPage page perPage).map validator)),
        ("count", .str (decimal (onPage page perPage).length)), ("total", .str (decimal validatorPool.length))] := by
  have slice : (onPage page perPage).map validator = (validatorPool.drop (max ((page - 1) * perPage) 0).toNat).take
      ((min ((max ((page - 1) * perPage) 0).toNat + perPage) validatorPool.length).toNat -
        (max ((page - 1) * perPage) 0).toNat) := by
    unfold onPage
    rw [List.map_take, List.map_drop, map_validator]
  unfold tmValidatorsResponse
  dsimp only
  rw [← slice, List.length_map]

theorem mem_onPage {page perPage : ℤ} (first : 1 ≤ page) (many : 1 ≤ perPage) (index : ℕ) :
    index ∈ onPage page perPage ↔ index < validatorPool.length ∧ OnPage page perPage index := by
  have start : 0 ≤ (page - 1) * perPage := mul_nonneg (by omega) (by omega)
  have stop : page * perPage = (page - 1) * perPage + perPage := by ring
  unfold onPage OnPage
  dsimp only
  rw [max_eq_left start, stop]
  generalize (page - 1) * perPage = begins at start ⊢
  generalize validatorPool.length = total
  rw [List.range_eq_range', List.drop_range']
  by_cases short : (min ((begins.toNat : ℤ) + perPage) total).toNat - begins.toNat ≤ total - begins.toNat
  · rw [List.take_range'_of_length_ge short, List.mem_range'_1]
    omega
  · omega

theorem onPage_sorted (page perPage : ℤ) : (onPage page perPage).Pairwise (· < ·) :=
  (List.pairwise_lt_range.sublist (List.drop_sublist _ _)).sublist (List.take_sublist _ _)

theorem validator_inj {one other : ℕ} (small : one < validatorPool.length) (little : other < validatorPool.length)
    (same : validator one = validator other) : one = other := by
  have distinct : ((List.range validatorPool.length).map validator).Nodup := by decide +kernel
  exact List.inj_on_of_nodup_map distinct (List.mem_range.mpr small) (List.mem_range.mpr little) same

/-- **Two replies of `validators`** are one if and only if they name one height and show the same validators. -/
theorem tmValidatorsResponse_inj {height height' : String} {page perPage page' perPage' : ℤ} (first : 1 ≤ page)
    (many : 1 ≤ perPage) (first' : 1 ≤ page') (many' : 1 ≤ perPage') :
    tmValidatorsResponse height page perPage = tmValidatorsResponse height' page' perPage' ↔
      height = height' ∧ ∀ index < validatorPool.length, (OnPage page perPage index ↔ OnPage page' perPage' index) := by
  rw [tmValidatorsResponse_eq, tmValidatorsResponse_eq]
  constructor
  · intro same
    simp only [Value.object, List.map_cons, List.map_nil, Value.dict.injEq, List.cons.injEq, Prod.mk.injEq,
      Value.str.injEq, Value.list.injEq, true_and, and_true] at same
    obtain ⟨heights, shown, -⟩ := same
    have inside : ∀ {page perPage : ℤ}, 1 ≤ page → 1 ≤ perPage → ∀ index < validatorPool.length,
        (validator index ∈ (onPage page perPage).map validator ↔ OnPage page perPage index) := by
      intro page perPage first many index small
      rw [List.mem_map]
      constructor
      · rintro ⟨found, member, equal⟩
        obtain ⟨little, on⟩ := (mem_onPage first many found).mp member
        rwa [validator_inj little small equal] at on
      · intro on
        exact ⟨index, (mem_onPage first many index).mpr ⟨small, on⟩, rfl⟩
    refine ⟨heights, fun index small => ?_⟩
    rw [← inside first many index small, ← inside first' many' index small, shown]
  · rintro ⟨rfl, alike⟩
    have same : onPage page perPage = onPage page' perPage' := by
      refine (onPage_sorted page perPage).eq_of_mem_iff (onPage_sorted page' perPage') fun index => ?_
      rw [mem_onPage first many, mem_onPage first' many']
      exact and_congr_right fun small => alike index small
    rw [same]

/-! ### The heights -/

/-- The height of a reply to an object, from a provider that is at the head. -/
def heightAt (host : Host) (default : Option ℤ) (head : ℤ) (params : List (String × Value)) : ℤ :=
  if (paramOf params "height").isNone then max head 0
  else ((numberOf host (paramOf params "height")).or default).getD head

theorem atLeastZero_int (number : ℤ) : (Value.int number).atLeastZero = .ok (.int (max number 0)) := by
  unfold Value.atLeastZero
  rw [Value.less_int, ok_bind]
  by_cases negative : number < 0
  · rw [if_pos (decide_eq_true negative), max_eq_right negative.le]
    rfl
  · rw [if_neg (by simpa using negative), max_eq_left (not_lt.mp negative)]
    rfl

theorem effectiveHead_zero (host : Host) (head : ℤ) : effectiveHead host head (.int 0) = .ok (.int (max head 0)) := by
  unfold effectiveHead
  rw [Host.sub_int, ok_bind, sub_zero, atLeastZero_int]

theorem getD_or (found default : Option ℤ) (head : ℤ) : found.getD (default.getD head) = (found.or default).getD head := by
  cases found <;> rfl

/-- The height that a reply reads, where a height that is no number is the default. -/
def readHeight (host : Host) (head : ℤ) (blocksBehind : Value) (default : ℤ) (params : List (String × Value)) :
    Except PyError Value :=
  if (paramOf params "height").isNone then effectiveHead host head blocksBehind
  else .ok (.int (toInt host (paramOf params "height") default))

theorem readHeight_zero (host : Host) (head : ℤ) (default : Option ℤ) (params : List (String × Value)) :
    readHeight host head (.int 0) (default.getD head) params = .ok (.int (heightAt host default head params)) := by
  unfold readHeight heightAt
  by_cases absent : (paramOf params "height").isNone
  · rw [if_pos absent, if_pos absent, effectiveHead_zero]
  · rw [if_neg absent, if_neg absent, toInt_eq, getD_or]

theorem readHeight_congr {default : Option ℤ} {one other : List (String × Value)}
    (same : SameHeight host default one other) (blocksBehind : Value) :
    readHeight host head blocksBehind (default.getD head) one =
      readHeight host head blocksBehind (default.getD head) other := by
  unfold readHeight
  rw [Bool.eq_iff_iff.mpr same.1, toInt_eq, toInt_eq, getD_or, getD_or, same.2]

/-- The reply of `block` at a height. -/
def tmBlockAt (host : Host) (height : Value) : Except PyError Value := do
  let before ← (← host.sub height (.int 1)).atLeastZero
  pure (tmBlockResponse (host.text height) (host.text before))

theorem tmBlock_object (host : Host) (head : ℤ) (blocksBehind : Value) (params : List (String × Value)) :
    tmBlock host head blocksBehind (.object params) = readHeight host head blocksBehind 0 params >>= tmBlockAt host := by
  unfold tmBlock readHeight
  rw [getD_object, ok_bind]
  by_cases absent : (paramOf params "height").isNone = true
  · rw [if_pos absent]
    dsimp only
    rw [if_pos absent]
    rfl
  · rw [if_neg absent]
    dsimp only
    rw [if_neg absent]
    rfl

theorem tmValidators_object (host : Host) (head : ℤ) (blocksBehind : Value) (params : List (String × Value)) :
    tmValidators host head blocksBehind (.object params) =
      (readHeight host head blocksBehind head params).map fun height =>
        tmValidatorsResponse (host.text height) (pageOf host params) (perPageOf host params) := by
  unfold tmValidators readHeight
  simp only [getD_object, ok_bind]
  by_cases absent : (paramOf params "height").isNone = true
  · rw [if_pos absent, if_pos absent]
    cases effectiveHead host head blocksBehind <;> rfl
  · rw [if_neg absent, if_neg absent]
    rfl

theorem tmBlock_zero (host : Host) (head : ℤ) (params : List (String × Value)) :
    tmBlock host head (.int 0) (.object params) =
      .ok (tmBlockResponse (toString (heightAt host (some 0) head params))
        (toString (max (heightAt host (some 0) head params - 1) 0))) := by
  have height : readHeight host head (.int 0) 0 params = _ := readHeight_zero host head (some 0) params
  rw [tmBlock_object, height, ok_bind]
  unfold tmBlockAt
  rw [Host.sub_int, ok_bind, atLeastZero_int, ok_bind]
  rfl

theorem tmValidators_zero (host : Host) (head : ℤ) (params : List (String × Value)) :
    tmValidators host head (.int 0) (.object params) =
      .ok (tmValidatorsResponse (toString (heightAt host none head params)) (pageOf host params)
        (perPageOf host params)) := by
  have height : readHeight host head (.int 0) head params = _ := readHeight_zero host head none params
  rw [tmValidators_object, height]
  rfl

theorem tmAbciQuery_object (host : Host) (params : List (String × Value)) :
    tmAbciQuery host (.object params) =
      .ok (tmAbciQueryResponse (decimal (toInt host (paramOf params "height") 0))) := by
  unfold tmAbciQuery
  rw [getD_object, ok_bind]
  cases paramOf params "height" <;> rfl

/-! ### Objects that are read alike -/

theorem eq_of_getD {one other : Option ℤ} (same : ∀ head : ℤ, one.getD head = other.getD head) : one = other := by
  cases one with
  | none =>
      cases other with
      | none => rfl
      | some number =>
          have next := same (number + 1)
          simp at next
  | some number =>
      cases other with
      | none =>
          have next := same (number + 1)
          simp at next
      | some second => exact congrArg some (same 0)

/-- A height that is no number is not the one of the head at every head. -/
theorem getD_ne_max (found : Option ℤ) : ∃ head : ℤ, found.getD head ≠ max head 0 := by
  cases found with
  | none => exact ⟨-1, by decide⟩
  | some number =>
      refine ⟨|number| + 1, fun same => ?_⟩
      have bound := le_abs_self number
      rw [Option.getD_some, max_eq_left (by positivity)] at same
      omega

/-- **Objects with one height at every head** name one height. -/
theorem sameHeight_of_heightAt {host : Host} {default : Option ℤ} {one other : List (String × Value)}
    (same : ∀ head, heightAt host default head one = heightAt host default head other) :
    SameHeight host default one other := by
  unfold heightAt at same
  by_cases absent : (paramOf one "height").isNone = true
  · by_cases absent' : (paramOf other "height").isNone = true
    · rw [Value.isNone_iff] at absent absent'
      unfold SameHeight
      rw [absent, absent']
      exact ⟨Iff.rfl, rfl⟩
    · obtain ⟨head, apart⟩ := getD_ne_max ((numberOf host (paramOf other "height")).or default)
      have here := same head
      rw [if_pos absent, if_neg absent'] at here
      exact absurd here.symm apart
  · by_cases absent' : (paramOf other "height").isNone = true
    · obtain ⟨head, apart⟩ := getD_ne_max ((numberOf host (paramOf one "height")).or default)
      have here := same head
      rw [if_neg absent, if_pos absent'] at here
      exact absurd here apart
    · refine ⟨iff_of_false absent absent', eq_of_getD fun head => ?_⟩
      have here := same head
      rwa [if_neg absent, if_neg absent'] at here

theorem pageOf_pos (host : Host) (params : List (String × Value)) : 1 ≤ pageOf host params := le_max_right _ _

theorem perPageOf_pos (host : Host) (params : List (String × Value)) : 1 ≤ perPageOf host params := le_max_right _ _

/-- **Objects that are read alike get one result**, at every head and under every scenario. -/
theorem tmResult_congr {method : String} {one other : List (String × Value)} (same : SameReads host method one other)
    (blocksBehind stub : Value) :
    tmResult host head blocksBehind (.object one) method stub =
      tmResult host head blocksBehind (.object other) method stub := by
  unfold SameReads at same
  split at same
  · change tmBlock host head blocksBehind (.object one) = tmBlock host head blocksBehind (.object other)
    have height : readHeight host head blocksBehind 0 one = readHeight host head blocksBehind 0 other :=
      readHeight_congr same blocksBehind
    rw [tmBlock_object, tmBlock_object, height]
  · change tmValidators host head blocksBehind (.object one) = tmValidators host head blocksBehind (.object other)
    have height : readHeight host head blocksBehind head one = readHeight host head blocksBehind head other :=
      readHeight_congr same.1 blocksBehind
    have shown : ∀ height, tmValidatorsResponse height (pageOf host one) (perPageOf host one) =
        tmValidatorsResponse height (pageOf host other) (perPageOf host other) := fun height =>
      (tmValidatorsResponse_inj (pageOf_pos host one) (perPageOf_pos host one) (pageOf_pos host other)
        (perPageOf_pos host other)).mpr ⟨rfl, same.2⟩
    rw [tmValidators_object, tmValidators_object, height]
    simp only [shown]
  · change tmAbciQuery host (.object one) = tmAbciQuery host (.object other)
    rw [tmAbciQuery_object, tmAbciQuery_object, same]
  · unfold tmResult
    split
    · contradiction
    · contradiction
    · contradiction
    · rfl

/-- **Objects that get one result at every head** are read alike. -/
theorem sameReads_of_tmResult {method : String} {one other : List (String × Value)} {stub : Value}
    (same : ∀ head, tmResult host head (.int 0) (.object one) method stub =
      tmResult host head (.int 0) (.object other) method stub) : SameReads host method one other := by
  unfold SameReads
  split
  · refine sameHeight_of_heightAt fun head => ?_
    have equal : tmBlock host head (.int 0) (.object one) = tmBlock host head (.int 0) (.object other) := same head
    rw [tmBlock_zero, tmBlock_zero, Except.ok.injEq] at equal
    simp only [tmBlockResponse, Value.object, List.map_cons, List.map_nil, Value.dict.injEq, List.cons.injEq,
      Prod.mk.injEq, Value.str.injEq, true_and, and_true] at equal
    exact Host.toString_inj equal.1
  · have equal : ∀ head, toString (heightAt host none head one) = toString (heightAt host none head other) ∧
        ∀ index < validatorPool.length, (OnPage (pageOf host one) (perPageOf host one) index ↔
          OnPage (pageOf host other) (perPageOf host other) index) := by
      intro head
      have whole : tmValidators host head (.int 0) (.object one) = tmValidators host head (.int 0) (.object other) :=
        same head
      rw [tmValidators_zero, tmValidators_zero, Except.ok.injEq] at whole
      exact (tmValidatorsResponse_inj (pageOf_pos host one) (perPageOf_pos host one) (pageOf_pos host other)
        (perPageOf_pos host other)).mp whole
    exact ⟨sameHeight_of_heightAt fun head => Host.toString_inj (equal head).1, (equal 0).2⟩
  · have equal : tmAbciQuery host (.object one) = tmAbciQuery host (.object other) := same 0
    rw [tmAbciQuery_object, tmAbciQuery_object, Except.ok.injEq] at equal
    simp only [tmAbciQueryResponse, Value.object, List.map_cons, List.map_nil, Value.dict.injEq, List.cons.injEq,
      Prod.mk.injEq, Value.str.injEq, true_and, and_true] at equal
    exact Host.toString_inj equal
  · trivial

/-- **Objects that are read alike have one plan.** -/
theorem tmPlan_congr {method : String} {one other : List (String × Value)} (same : SameReads host method one other) :
    tmPlan host head (.str method) (.object one) scenario = tmPlan host head (.str method) (.object other) scenario := by
  have computed : computedPlan host head (.str method) (.object one) scenario =
      computedPlan host head (.str method) (.object other) scenario := by
    unfold computedPlan
    cases tableGet tendermintMethodDefaults (.str method) with
    | error error => rfl
    | ok found =>
        rw [ok_bind, ok_bind]
        cases found with
        | none => rfl
        | some stub =>
            dsimp only
            rw [tmResult_congr same]
  unfold tmPlan
  rw [computed]

/-! ### The defaults -/

/-- At the defaults a known method gets its result, and no canned reply. -/
theorem tmPlan_default {method : String} {stub : Value} (known : tendermintMethodDefaults.get method = some stub)
    (params : List (String × Value)) :
    tmPlan host head (.str method) (.object params) ScenarioField.default =
      (tmResult host head (.int 0) (.object params) method stub).map fun result => ⟨.int 200, false, result⟩ := by
  have table : tableGet tendermintMethodDefaults (.str method) = .ok (some stub) := congrArg Except.ok known
  change computedPlan host head (.str method) (.object params) ScenarioField.default = _
  unfold computedPlan
  rw [table, ok_bind]
  change tmResult host head (.int 0) (.object params) method stub >>= _ = _
  cases tmResult host head (.int 0) (.object params) method stub <;> rfl

theorem tmResult_zero (host : Host) (head : ℤ) (method : String) (params : List (String × Value)) (stub : Value) :
    ∃ result, tmResult host head (.int 0) (.object params) method stub = .ok result := by
  unfold tmResult
  split
  · rw [tmBlock_zero]
    exact ⟨_, rfl⟩
  · rw [tmValidators_zero]
    exact ⟨_, rfl⟩
  · rw [tmAbciQuery_object]
    exact ⟨_, rfl⟩
  · rw [effectiveHead_zero]
    exact ⟨_, rfl⟩

/-- A method that is not in the table reads no parameter. -/
theorem sameReads_unknown {method : String} (unknown : tendermintMethodDefaults.get method = none)
    (one other : List (String × Value)) : SameReads host method one other := by
  unfold SameReads
  split
  · cases unknown
  · cases unknown
  · cases unknown
  · trivial

end ProviderSimulator.Chains.Lava
