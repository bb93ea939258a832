/-
**`POST /advance`.**

The call moves one head of a chain, or reads the heads of the chain without moving any. Everything that it
refuses, it refuses by its body alone (`planAdvance`). A chain with one head needs no name for it, and a
chain with several needs one for a move. Then the named head gets its rate and its bump, and the reply
holds the position of every head of the chain, which raises where a rate is infinite.

* `advance_alike` — heads that cannot be told apart before the call cannot after it, and give the same
  reply.
-/

import Mathlib.Tactic.Common
import ProviderSimulator.CacheSim.Model
import ProviderSimulator.Control.Rules
import ProviderSimulator.Domain.AdvancingHead

namespace ProviderSimulator.Control

open ProviderSimulator.Lib ProviderSimulator.Python ProviderSimulator.Domain

/-! ### The heads of the chains -/

/-- The heads of every chain, by the names that `iter_heads` gives them. -/
abbrev Heads := Chain → String → AdvancingHead

/-- The names of `iter_heads`, in its order. Lightning owns no head. -/
def headNames : Chain → List String
  | .ln => []
  | .lava => ["grpc", "rest", "tendermintrpc"]
  | _ => ["default"]

/-- `CHAINS`. -/
def chains : List Chain := [.eth, .btc, .ln, .solana, .lava, .sui, .suit]

/-- `CHAINS.get`. -/
def chainNamed (name : String) : Option Chain := chains.find? fun chain => chain.name = name

/-- The head that a reply of the chain reads: Lightning reports the height of Bitcoin. -/
def headOf : Chain → Interface → Option (Chain × String)
  | .ln, _ => some (.btc, "default")
  | .lava, .rest => some (.lava, "rest")
  | .lava, .grpc => some (.lava, "grpc")
  | .lava, .tendermintrpc => some (.lava, "tendermintrpc")
  | .lava, _ => none
  | chain, _ => some (chain, "default")

/-- `head.reset()` for each head of some chains. -/
def resetHeads (moved : List Chain) (heads : Heads) : Heads := fun chain name =>
  if chain ∈ moved ∧ name ∈ headNames chain then (heads chain name).reset else heads chain name

/-! ### Refusals -/

/-- Why the call answers 400. -/
inductive AdvanceRefusal
  | bodyNoObject
  | chainNoText (given : Value)
  | noChain (name : String)
  | noHead (chain : Chain)
  | number (refusal : RuleRefusal)
  | severalHeads (chain : Chain)
  | unknownHead (chain : Chain) (name : Value)

/-- The text of the answer. -/
def AdvanceRefusal.text (repr : Value → String) : AdvanceRefusal → String
  | .bodyNoObject => "request body must be a JSON object"
  | .chainNoText given => "chain must be a string, got " ++ given.typeName
  | .noChain name =>
      "there is no chain " ++ repr (.str name) ++ ". Chains: " ++
        repr (textList (sortedTexts (chains.map Chain.name)))
  | .noHead chain => "chain " ++ repr (.str chain.name) ++ " has no advanceable head"
  | .number refusal => refusal.text repr
  | .severalHeads chain =>
      "chain " ++ repr (.str chain.name) ++ " serves several heads, so name the one to move with 'head'. " ++
        "Heads: " ++ repr (textList (headNames chain))
  | .unknownHead chain name =>
      "chain " ++ repr (.str chain.name) ++ " has no head " ++ repr name ++ ". Heads: " ++
        repr (textList (headNames chain))

/-! ### The call -/

/-- The clock of one call: when it folds, when a new rate takes effect, and when it reads each head. -/
structure AdvanceTimes where
  foldAt : ℚ
  anchorAt : ℚ
  readAt : String → ℚ

/-- What a body asks for. -/
structure AdvancePlan where
  chain : Chain
  /-- `head_name`. -/
  headName : Option String
  perSecond : Option Value
  blocks : ℤ

/-- A field of the body passes `_bad_number`, if it is there. -/
def checkNumber (entries : List (Key × Value)) (field : String) : Except (Raised AdvanceRefusal) Unit :=
  match Dict.get entries (.text field) with
  | some value => mapRefusal .number (badNumber field value)
  | none => .ok ()

/-- The chain that the body names. -/
def chainOf (entries : List (Key × Value)) : Except (Raised AdvanceRefusal) Chain :=
  match (Dict.get entries (.text "chain")).getD (.str "eth") with
  | .str name =>
      match chainNamed name with
      | some chain => .ok chain
      | none => .error (.refused (.noChain name))
  | other => .error (.refused (.chainNoText other))

/-- The head that the body names, or the only one. -/
def headNameOf (chain : Chain) (moving : Bool) : Value → Except (Raised AdvanceRefusal) (Option String)
  | .none =>
      match headNames chain with
      | [only] => .ok (some only)
      | _ => if moving then .error (.refused (.severalHeads chain)) else .ok none
  | .str name =>
      if name ∈ headNames chain then .ok (some name) else .error (.refused (.unknownHead chain (.str name)))
  | other =>
      if other.hashable then .error (.refused (.unknownHead chain other)) else .error (.raised .typeError)

/-- Everything that the call does before it moves a head. -/
def planAdvance (body : Value) : Except (Raised AdvanceRefusal) AdvancePlan := do
  match body with
  | .dict entries =>
      let chain ← chainOf entries
      refuseIf (headNames chain).isEmpty (.noHead chain)
      checkNumber entries "blocks"
      checkNumber entries "per_second"
      let blocks := ((Dict.get entries (.text "blocks")).getD (.int 0)).asInt.getD 0
      let perSecond := Dict.get entries (.text "per_second")
      -- A bump of zero moves nothing, and a rate of zero stops a head.
      let moving := perSecond.isSome || blocks ≠ 0
      let headName ← headNameOf chain moving ((Dict.get entries (.text "head")).getD .none)
      pure { chain, headName, perSecond, blocks }
  | _ => .error (.refused .bodyNoObject)

section

variable (host : Host) (clock : HeadClock) (times : AdvanceTimes)

/-- What the call does to the head that it names. -/
def moveHead (plan : AdvancePlan) (head : AdvancingHead) : AdvancingHead × Except PyError Unit :=
  match plan.perSecond with
  | none => (head.bump plan.blocks, .ok ())
  | some rate =>
      match head.setRate clock host times.foldAt times.anchorAt rate with
      | (moved, .error error) => (moved, .error error)
      | (moved, .ok ()) => (moved.bump plan.blocks, .ok ())

/-- One head of a chain gets a new state. -/
def Heads.set (heads : Heads) (chain : Chain) (name : String) (head : AdvancingHead) : Heads :=
  fun other known => if other = chain ∧ known = name then head else heads other known

/-- What the call does to the heads. -/
def moveHeads (plan : AdvancePlan) (heads : Heads) : Heads × Except PyError Unit :=
  match plan.headName with
  | none => (heads, .ok ())
  | some name =>
      let moved := moveHead host clock times plan (heads plan.chain name)
      (heads.set plan.chain name moved.1, moved.2)

/-- The positions of the heads, by their names. -/
def positions (heads : String → AdvancingHead) : List String → Except PyError (List (String × ℤ))
  | [] => .ok []
  | name :: rest => do
      let position ← (heads name).current clock (times.readAt name)
      pure ((name, position) :: (← positions heads rest))

/-- What the call answers. -/
inductive AdvanceAnswer
  | refused (refusal : AdvanceRefusal)
  | ok (chain : Chain) (headName : Option String) (heads : Dict String ℤ) (head : Option ℤ)

/-- The reply, once the heads have moved. -/
def readHeads (plan : AdvancePlan) (heads : Heads) : Except PyError AdvanceAnswer := do
  let current ← positions clock times (heads plan.chain) (headNames plan.chain)
  pure (.ok plan.chain plan.headName current (plan.headName.bind (Dict.get current)))

/-- `advance`. -/
def advance (heads : Heads) (body : Value) : Heads × Except PyError AdvanceAnswer :=
  match planAdvance body with
  | .error (.refused refusal) => (heads, .ok (.refused refusal))
  | .error (.raised error) => (heads, .error error)
  | .ok plan =>
      match moveHeads host clock times plan heads with
      | (moved, .error error) => (moved, .error error)
      | (moved, .ok ()) => (moved, readHeads clock times plan moved)

end

/-! ### Heads that cannot be told apart -/

/-- Every head of the one is like the head of the other. -/
def SameHeads (first second : Heads) : Prop := ∀ chain name, SameHead (first chain name) (second chain name)

section

variable (host : Host) (clock : HeadClock) (times : AdvanceTimes) {first second : Heads}

theorem SameHeads.reset (same : SameHeads first second) (moved : List Chain) :
    SameHeads (resetHeads moved first) (resetHeads moved second) := by
  intro chain name
  unfold resetHeads
  split
  · exact (same chain name).reset
  · exact same chain name

theorem moveHead_alike (plan : AdvancePlan) {first second : AdvancingHead} (same : SameHead first second) :
    (moveHead host clock times plan first).2 = (moveHead host clock times plan second).2 ∧
      SameHead (moveHead host clock times plan first).1 (moveHead host clock times plan second).1 := by
  unfold moveHead
  cases plan.perSecond with
  | none => exact ⟨rfl, same.bump plan.blocks⟩
  | some rate =>
      have both : (first.setRate clock host times.foldAt times.anchorAt rate).2 =
          (second.setRate clock host times.foldAt times.anchorAt rate).2 ∧ SameHead _ _ :=
        same.setRate host times.foldAt times.anchorAt rate
      obtain ⟨ends, later⟩ := both
      dsimp only
      cases one : first.setRate clock host times.foldAt times.anchorAt rate with
      | mk moved ended =>
          cases two : second.setRate clock host times.foldAt times.anchorAt rate with
          | mk moved' ended' =>
              rw [one, two] at ends later
              cases ends
              cases ended with
              | error error => exact ⟨rfl, later⟩
              | ok _ => exact ⟨rfl, later.bump plan.blocks⟩

theorem moveHeads_alike (plan : AdvancePlan) (same : SameHeads first second) :
    (moveHeads host clock times plan first).2 = (moveHeads host clock times plan second).2 ∧
      SameHeads (moveHeads host clock times plan first).1 (moveHeads host clock times plan second).1 := by
  unfold moveHeads
  cases plan.headName with
  | none => exact ⟨rfl, same⟩
  | some name =>
      obtain ⟨ends, later⟩ := moveHead_alike host clock times plan (same plan.chain name)
      refine ⟨ends, fun chain known => ?_⟩
      show SameHead (first.set _ _ _ chain known) (second.set _ _ _ chain known)
      unfold Heads.set
      split
      · exact later
      · exact same chain known

theorem positions_alike {first second : String → AdvancingHead} (same : ∀ name, SameHead (first name) (second name))
    (names : List String) : positions clock times first names = positions clock times second names := by
  induction names with
  | nil => rfl
  | cons name rest ih =>
      unfold positions
      rw [(same name).current, ih]

/-- **Heads that cannot be told apart answer the call alike.** -/
theorem advance_alike (same : SameHeads first second) (body : Value) :
    (advance host clock times first body).2 = (advance host clock times second body).2 ∧
      SameHeads (advance host clock times first body).1 (advance host clock times second body).1 := by
  unfold advance
  split
  · exact ⟨rfl, same⟩
  · exact ⟨rfl, same⟩
  · next plan _ =>
      obtain ⟨ends, later⟩ := moveHeads_alike host clock times plan same
      cases one : moveHeads host clock times plan first with
      | mk moved ended =>
          cases two : moveHeads host clock times plan second with
          | mk moved' ended' =>
              rw [one, two] at ends later
              cases ends
              cases ended with
              | error error => exact ⟨rfl, later⟩
              | ok _ =>
                  refine ⟨?_, later⟩
                  show readHeads clock times plan moved = readHeads clock times plan moved'
                  unfold readHeads
                  rw [positions_alike clock times (later plan.chain)]

end

end ProviderSimulator.Control
