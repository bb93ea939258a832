/-
**`POST /advance` is safe for a careful body.**

The call stores a rate, and only a later reading multiplies it with a time. So a rate that is let through
now can make every later reply of the chain raise. `_bad_number` lets through a rate of any size, an infinite
one among them, and the name of the head is looked up before anything says that it is a text. A bump of any
size is let through as well, and a reply cannot be built at a position that is too large to be written.

* `planAdvance_escapes` — the call raises for its body alone exactly when the head is a list or an object;
* `planAdvance_eq_ok` — what a body that passes all checks asks for;
* `Told` — every reply that reads a head at a position can be built, that of the call and those of the
  providers;
* `CarefulMove` — the rate can be stored, and every later position that the move leads to can be told.
  `movedBy_runs_iff` says that this is what a later reading needs;
* `Runs` — every head can be read from a time on, and told. `advance_runs` is what one careful call keeps;
* `advance_safe_iff` — in every state that careful calls lead to, the call is safe exactly when its body is
  careful.

`reads` are the readings that the clock can give while the simulator runs, and `lags` are the lags of the
providers that report a head.
-/

import Mathlib.Tactic.Common
import Mathlib.Tactic.Linarith
import ProviderSimulator.Python.Numerals
import ProviderSimulator.Control.Advance
import ProviderSimulator.Control.Escapes
import ProviderSimulator.Domain.HeadForward

namespace ProviderSimulator.Control

open ProviderSimulator.Lib ProviderSimulator.Python ProviderSimulator.Domain

/-! ### What a body asks for -/

/-- The head that the body names, or null. -/
def namedHead (entries : List (Key × Value)) : Value := (Dict.get entries (.text "head")).getD .none

/-- The blocks that the body asks for. -/
def askedBlocks (entries : List (Key × Value)) : ℤ := ((Dict.get entries (.text "blocks")).getD (.int 0)).asInt.getD 0

/-- The body gets as far as the name of the head. -/
structure ReachesHead (entries : List (Key × Value)) (chain : Chain) : Prop where
  named : chainOf entries = .ok chain
  heads : (headNames chain).isEmpty = false
  blocks : checkNumber entries "blocks" = .ok ()
  perSecond : checkNumber entries "per_second" = .ok ()

theorem checkNumber_not_escapes (entries : List (Key × Value)) (field : String) :
    ¬ Escapes (checkNumber entries field) := by
  unfold checkNumber
  split
  · exact mt escapes_mapRefusal.mp (badNumber_not_escapes field _)
  · exact not_escapes_ok ()

theorem chainOf_not_escapes (entries : List (Key × Value)) : ¬ Escapes (chainOf entries) := by
  unfold chainOf
  split
  · split
    · exact not_escapes_ok _
    · exact not_escapes_refused _
  · exact not_escapes_refused _

/-- The name of a head raises at a list and at an object. -/
theorem headNameOf_escapes {chain : Chain} {moving : Bool} {name : Value} :
    Escapes (headNameOf chain moving name) ↔ name.hashable = false := by
  cases name with
  | none =>
      refine iff_of_false ?_ nofun
      rw [headNameOf]
      split
      · exact not_escapes_ok _
      · split
        · exact not_escapes_refused _
        · exact not_escapes_ok _
  | str text =>
      refine iff_of_false ?_ nofun
      rw [headNameOf]
      split
      · exact not_escapes_ok _
      · exact not_escapes_refused _
  | list items => exact iff_of_true ⟨.typeError, rfl⟩ rfl
  | dict entries => exact iff_of_true ⟨.typeError, rfl⟩ rfl
  | bool value => exact iff_of_false (not_escapes_refused _) nofun
  | int value => exact iff_of_false (not_escapes_refused _) nofun
  | float value => exact iff_of_false (not_escapes_refused _) nofun

/-- **The call raises for its body alone exactly when the head is a list or an object.** -/
theorem planAdvance_escapes {body : Value} :
    Escapes (planAdvance body) ↔
      ∃ entries chain, body = .dict entries ∧ ReachesHead entries chain ∧ (namedHead entries).hashable = false := by
  cases body with
  | dict entries =>
      unfold planAdvance
      dsimp only
      constructor
      · intro escapes
        rcases escapes_bind.mp escapes with escapes | ⟨chain, named, escapes⟩
        · exact absurd escapes (chainOf_not_escapes entries)
        rcases escapes_bind.mp escapes with escapes | ⟨_, heads, escapes⟩
        · exact absurd escapes (not_escapes_refuseIf _ _)
        rcases escapes_bind.mp escapes with escapes | ⟨_, blocks, escapes⟩
        · exact absurd escapes (checkNumber_not_escapes _ _)
        rcases escapes_bind.mp escapes with escapes | ⟨_, perSecond, escapes⟩
        · exact absurd escapes (checkNumber_not_escapes _ _)
        rcases escapes_bind.mp escapes with escapes | ⟨name, _, escapes⟩
        · exact ⟨entries, chain, rfl, ⟨named, refuseIf_eq_ok heads, blocks, perSecond⟩, headNameOf_escapes.mp escapes⟩
        · exact absurd escapes (not_escapes_ok _)
      · rintro ⟨entries, chain, ⟨⟩, reaches, unhashable⟩
        refine escapes_bind.mpr (.inr ⟨chain, reaches.named, ?_⟩)
        refine escapes_bind.mpr (.inr ⟨(), refuseIf_eq_ok_iff.mpr reaches.heads, ?_⟩)
        refine escapes_bind.mpr (.inr ⟨(), reaches.blocks, ?_⟩)
        refine escapes_bind.mpr (.inr ⟨(), reaches.perSecond, ?_⟩)
        exact escapes_bind.mpr (.inl (headNameOf_escapes.mpr unhashable))
  | _ => exact iff_of_false (not_escapes_refused _) (by rintro ⟨_, _, ⟨⟩, _⟩)

/-- The head of a plan is the named one, or the only one. -/
structure PicksHead (entries : List (Key × Value)) (plan : AdvancePlan) : Prop where
  named : ∀ name, plan.headName = some name →
    namedHead entries = .str name ∧ name ∈ headNames plan.chain ∨
      namedHead entries = .none ∧ headNames plan.chain = [name]
  moves : plan.perSecond.isSome = true ∨ plan.blocks ≠ 0 → plan.headName.isSome = true

/-- **What a body that passes all checks asks for.** -/
theorem planAdvance_eq_ok {body : Value} {plan : AdvancePlan} (plans : planAdvance body = .ok plan) :
    ∃ entries, body = .dict entries ∧ ReachesHead entries plan.chain ∧
      plan.perSecond = Dict.get entries (.text "per_second") ∧ plan.blocks = askedBlocks entries ∧
      PicksHead entries plan := by
  cases body with
  | dict entries =>
      unfold planAdvance at plans
      obtain ⟨chain, named, plans⟩ := ok_of_bind plans
      obtain ⟨_, heads, plans⟩ := ok_of_bind plans
      obtain ⟨_, blocks, plans⟩ := ok_of_bind plans
      obtain ⟨_, perSecond, plans⟩ := ok_of_bind plans
      obtain ⟨headName, picks, plans⟩ := ok_of_bind plans
      cases plans
      refine ⟨entries, rfl, ⟨named, refuseIf_eq_ok heads, blocks, perSecond⟩, rfl, rfl, ?_⟩
      change headNameOf chain _ (namedHead entries) = .ok headName at picks
      cases head : namedHead entries with
      | none =>
          rw [head] at picks
          rw [headNameOf] at picks
          split at picks
          · next only single =>
              cases picks
              refine ⟨?_, fun _ => rfl⟩
              rintro name ⟨⟩
              exact .inr ⟨head, single⟩
          · split at picks
            · cases picks
            · next still =>
                cases picks
                refine ⟨fun _ same => absurd same (by simp), fun moves => absurd ?_ still⟩
                rcases moves with rate | blocks
                · exact Bool.or_eq_true_iff.mpr (.inl rate)
                · exact Bool.or_eq_true_iff.mpr (.inr (decide_eq_true blocks))
      | str name =>
          rw [head] at picks
          rw [headNameOf] at picks
          split at picks
          · next known =>
              cases picks
              refine ⟨?_, fun _ => rfl⟩
              rintro other ⟨⟩
              exact .inl ⟨head, known⟩
          · cases picks
      | _ =>
          rw [head] at picks
          cases picks
  | _ => cases plans

/-! ### Replies that read a head -/

/-- What a provider takes off a head, or adds to it, before it reports it. -/
structure Lag where
  blocksBehind : ℤ
  slotOffset : ℤ
  slotBlockGap : ℤ

/-- The replies in which a provider reports a head at a position can be built: a decimal number has at most 4300
digits, and the height of a message has 64 bits. Lightning reports the head of Bitcoin as Bitcoin does. -/
def Reports (lag : Lag) (position : ℤ) : Chain → String → Prop
  | .lava, name =>
      if name = "grpc" then max (position - lag.blocksBehind) 0 < 2 ^ 63
      else Printable (max (position - lag.blocksBehind) 0)
  | .solana, _ =>
      Printable (position + lag.slotOffset) ∧ Printable (position + lag.slotOffset - lag.slotBlockGap)
  | .btc, _ => Printable (position - lag.blocksBehind)
  -- The digits of Ethereum are hexadecimal and have no bound, and a checkpoint of Sui is never above the largest one.
  | _, _ => True

/-- A position and a lag that are far from every bound. -/
theorem reports_of_small {lag : Lag} {position : ℤ}
    (small : position.natAbs + lag.blocksBehind.natAbs + lag.slotOffset.natAbs + lag.slotBlockGap.natAbs < 2 ^ 63)
    (chain : Chain) (name : String) : Reports lag position chain name := by
  unfold Reports
  split
  · split
    · omega
    · exact printable_of_lt (by omega)
  · exact ⟨printable_of_lt (by omega), printable_of_lt (by omega)⟩
  · exact printable_of_lt (by omega)
  · trivial

section

variable (lags : Chain → String → Lag → Prop)

/-- Every reply that reads a head at a position can be built: the answer of this call, which lists the position in
JSON, and the replies of the providers that report the head. -/
def Told (chain : Chain) (name : String) (position : ℤ) : Prop :=
  Printable position ∧ ∀ lag, lags chain name lag → Reports lag position chain name

/-- Every head can be told at its base, to which a reset brings it. -/
def Based (heads : Heads) : Prop := ∀ chain name, Told lags chain name (heads chain name).base

end

/-! ### Moves -/

section

variable (host : Host) (clock : HeadClock) (reads : ℚ → Prop) (lags : Chain → String → Lag → Prop)
  (times : AdvanceTimes)

/-- The blocks that a rate adds from a time on. A rate that is not positive adds none. -/
def addedBy (speed : PyFloat) (anchor now : ℚ) : Except PyError ℤ :=
  if (PyFloat.finite 0).less speed then clock.ticks now anchor speed else .ok 0

/-- What a move leads to can be told. Without a rate that is each later position with the blocks added. With one,
the rate can be stored, and it adds a number of blocks to the position that the call folds in and its blocks. -/
def CarefulMove (told : ℤ → Prop) (perSecond : Option Value) (blocks : ℤ) (head : AdvancingHead) : Prop :=
  match perSecond with
  | none => ∀ now, reads now → times.anchorAt ≤ now →
      ∀ position, head.current clock now = .ok position → told (position + blocks)
  | some rate => ∃ speed, AdvancingHead.rateOf host rate = .ok speed ∧
      ∀ start, head.current clock times.foldAt = .ok start → ∀ now, reads now → times.anchorAt ≤ now →
        ∃ added, addedBy clock speed times.anchorAt now = .ok added ∧ told (start + blocks + added)

/-- A body whose head is no list and no object, and whose move leads to positions that can be told. -/
structure CarefulAdvance (heads : Heads) (body : Value) : Prop where
  head : ∀ entries chain, body = .dict entries → ReachesHead entries chain → (namedHead entries).hashable = true
  move : ∀ plan name, planAdvance body = .ok plan → plan.headName = some name →
    CarefulMove host clock reads times (Told lags plan.chain name) plan.perSecond plan.blocks (heads plan.chain name)

/-- Every head can be read from a time on, and told at its position. -/
def Runs (heads : Heads) (since : ℚ) : Prop :=
  ∀ chain name now, reads now → since ≤ now →
    ∃ position, (heads chain name).current clock now = .ok position ∧ Told lags chain name position

/-- The readings of one call, in their order. -/
structure Timely (since : ℚ) : Prop where
  fold : reads times.foldAt ∧ since ≤ times.foldAt
  anchor : reads times.anchorAt ∧ times.foldAt ≤ times.anchorAt
  read : ∀ name, reads (times.readAt name) ∧ times.anchorAt ≤ times.readAt name

/-- A head after a move: without a rate it is bumped, and with one the blocks so far are folded in and the
rate runs from now on. -/
def MovedBy (perSecond : Option Value) (blocks : ℤ) (head moved : AdvancingHead) : Prop :=
  match perSecond with
  | none => moved = { head with extra := head.extra + blocks }
  | some rate => ∃ extra speed, head.extraAt clock times.foldAt = .ok extra ∧
      AdvancingHead.rateOf host rate = .ok speed ∧ moved = ⟨head.base, extra + blocks, speed, times.anchorAt⟩

/-- The named head of the named chain, or its only one, has moved as the body asks, and no other has moved. -/
structure MovedAsAsked (heads moved : Heads) (entries : List (Key × Value)) (chain : Chain)
    (headName : Option String) : Prop where
  named : chainOf entries = .ok chain
  elsewhere : ∀ other known, ¬(other = chain ∧ headName = some known) → moved other known = heads other known
  picked : ∀ name, headName = some name →
    namedHead entries = .str name ∨ namedHead entries = .none ∧ headNames chain = [name]
  moves : ∀ name, headName = some name →
    MovedBy host clock times (Dict.get entries (.text "per_second")) (askedBlocks entries) (heads chain name)
      (moved chain name)
  still : headName = none → Dict.get entries (.text "per_second") = none ∧ askedBlocks entries = 0

/-- **A call is safe**: it answers, a refusal moves no head, a 200 has moved the one head that the body names,
as it asks, and from then on every head can be read and every reply that reads one can be built. -/
structure SafeAdvance (heads : Heads) (body : Value) : Prop where
  answers : ∃ answer, (advance host clock times heads body).2 = .ok answer
  refuses : ∀ refusal, (advance host clock times heads body).2 = .ok (.refused refusal) →
    (advance host clock times heads body).1 = heads
  moves : ∀ chain name current head, (advance host clock times heads body).2 = .ok (.ok chain name current head) →
    ∃ entries, body = .dict entries ∧
      MovedAsAsked host clock times heads (advance host clock times heads body).1 entries chain name
  later : ∀ chain name current head, (advance host clock times heads body).2 = .ok (.ok chain name current head) →
    Runs clock reads lags (advance host clock times heads body).1 times.anchorAt

/-- The states that careful calls and resets lead to, from heads that can be told at their bases. -/
inductive Reached : Heads → ℚ → Prop
  | start (bases : Chain → String → ℤ) (now : ℚ) (told : ∀ chain name, Told lags chain name (bases chain name)) :
      Reached (fun chain name => .new (bases chain name)) now
  | advance {heads : Heads} {now : ℚ} (before : Reached heads now) (times : AdvanceTimes)
      (timely : Timely reads times now) {body : Value} (careful : CarefulAdvance host clock reads lags times heads body) :
      Reached (advance host clock times heads body).1 times.anchorAt
  | reset {heads : Heads} {now : ℚ} (before : Reached heads now) (chains : List Chain) :
      Reached (resetHeads chains heads) now
  | wait {heads : Heads} {now later : ℚ} (before : Reached heads now) (order : now ≤ later) : Reached heads later

end

section

variable {host : Host} {clock : HeadClock} {reads : ℚ → Prop} {lags : Chain → String → Lag → Prop}
  {times : AdvanceTimes} {heads : Heads} {since : ℚ}

/-- A head is at its base, its bumps and folds, and what its rate adds. -/
theorem current_eq_added {head : AdvancingHead} {now : ℚ} {position : ℤ} :
    head.current clock now = .ok position ↔
      ∃ added, addedBy clock head.rate head.anchor now = .ok added ∧ position = head.base + head.extra + added := by
  rw [current_eq_ok]
  unfold AdvancingHead.extraAt addedBy AdvancingHead.moving
  split
  · constructor
    · rintro ⟨extra, gives, rfl⟩
      obtain ⟨added, ticks, gives⟩ := ok_of_bind gives
      cases gives
      exact ⟨added, ticks, (add_assoc _ _ _).symm⟩
    · rintro ⟨added, ticks, rfl⟩
      refine ⟨head.extra + added, ?_, add_assoc _ _ _⟩
      rw [ticks]
      rfl
  · constructor
    · rintro ⟨extra, gives, rfl⟩
      cases gives
      exact ⟨0, rfl, (add_zero _).symm⟩
    · rintro ⟨added, none, rfl⟩
      cases none
      exact ⟨head.extra, rfl, add_zero _⟩

/-- A change of the rate that does not raise. -/
theorem setRate_eq_ok {head moved : AdvancingHead} {foldAt anchorAt : ℚ} {rate : Value} :
    head.setRate clock host foldAt anchorAt rate = (moved, .ok ()) ↔
      ∃ extra speed, head.extraAt clock foldAt = .ok extra ∧ AdvancingHead.rateOf host rate = .ok speed ∧
        moved = ⟨head.base, extra, speed, anchorAt⟩ := by
  unfold AdvancingHead.setRate
  cases head.extraAt clock foldAt with
  | error error => exact iff_of_false nofun (by rintro ⟨_, _, ⟨⟩, _⟩)
  | ok extra =>
      dsimp only
      cases AdvancingHead.rateOf host rate with
      | error error => exact iff_of_false nofun (by rintro ⟨_, _, _, ⟨⟩, _⟩)
      | ok speed =>
          constructor
          · intro same
            cases same
            exact ⟨extra, speed, rfl, rfl, rfl⟩
          · rintro ⟨_, _, ⟨⟩, ⟨⟩, rfl⟩
            rfl

/-- A move that does not raise. -/
theorem moveHead_eq_ok {plan : AdvancePlan} {head moved : AdvancingHead} :
    moveHead host clock times plan head = (moved, .ok ()) ↔
      MovedBy host clock times plan.perSecond plan.blocks head moved := by
  unfold moveHead MovedBy
  cases plan.perSecond with
  | none =>
      refine ⟨fun same => ?_, fun same => ?_⟩
      · cases same
        rfl
      · rw [same]
        rfl
  | some rate =>
      dsimp only
      constructor
      · intro same
        cases sets : head.setRate clock host times.foldAt times.anchorAt rate with
        | mk next ended =>
            rw [sets] at same
            cases ended with
            | error error => cases same
            | ok _ =>
                obtain ⟨extra, speed, folds, stores, rfl⟩ := setRate_eq_ok.mp sets
                cases same
                exact ⟨extra, speed, folds, stores, rfl⟩
      · rintro ⟨extra, speed, folds, stores, rfl⟩
        rw [setRate_eq_ok.mpr ⟨extra, speed, folds, stores, rfl⟩]
        rfl

theorem Runs.later (runs : Runs clock reads lags heads since) {now : ℚ} (order : since ≤ now) :
    Runs clock reads lags heads now :=
  fun chain name time reads after => runs chain name time reads (order.trans after)

/-- **A head that has moved can be read and told from then on exactly when its move was careful.** -/
theorem movedBy_runs_iff {told : ℤ → Prop} {perSecond : Option Value} {blocks : ℤ} {head moved : AdvancingHead}
    (moves : MovedBy host clock times perSecond blocks head moved)
    (before : ∀ now, reads now → times.anchorAt ≤ now → ∃ position, head.current clock now = .ok position) :
    (∀ now, reads now → times.anchorAt ≤ now → ∃ position, moved.current clock now = .ok position ∧ told position) ↔
      CarefulMove host clock reads times told perSecond blocks head := by
  cases perSecond with
  | none =>
      -- A bump adds its blocks to every later position.
      have bumped : ∀ {now position}, head.current clock now = .ok position →
          moved.current clock now = .ok (position + blocks) := by
        intro now position shows
        obtain ⟨added, adds, rfl⟩ := current_eq_added.mp shows
        cases moves
        exact current_eq_added.mpr ⟨added, adds, by ring⟩
      constructor
      · intro later now read after position shows
        obtain ⟨position', shows', tells⟩ := later now read after
        cases shows'.symm.trans (bumped shows)
        exact tells
      · intro careful now read after
        obtain ⟨position, shows⟩ := before now read after
        exact ⟨_, bumped shows, careful now read after position shows⟩
  | some rate =>
      obtain ⟨extra, speed, folds, stores, rfl⟩ := moves
      have start : head.current clock times.foldAt = .ok (head.base + extra) := current_eq_ok.mpr ⟨extra, folds, rfl⟩
      constructor
      · intro later
        refine ⟨speed, stores, fun position shows now read after => ?_⟩
        cases start.symm.trans shows
        obtain ⟨position', shows', tells⟩ := later now read after
        obtain ⟨added, adds, rfl⟩ := current_eq_added.mp shows'
        refine ⟨added, adds, ?_⟩
        rwa [add_assoc head.base]
      · rintro ⟨speed', stores', careful⟩ now read after
        cases stores.symm.trans stores'
        obtain ⟨added, adds, tells⟩ := careful _ start now read after
        refine ⟨_, current_eq_added.mpr ⟨added, adds, rfl⟩, ?_⟩
        rwa [add_assoc head.base] at tells

/-- A head that can be read can be moved with care. -/
theorem exists_movedBy {told : ℤ → Prop} {perSecond : Option Value} {blocks : ℤ} {head : AdvancingHead}
    (careful : CarefulMove host clock reads times told perSecond blocks head)
    (before : ∃ position, head.current clock times.foldAt = .ok position) :
    ∃ moved, MovedBy host clock times perSecond blocks head moved := by
  cases perSecond with
  | none => exact ⟨_, rfl⟩
  | some rate =>
      obtain ⟨speed, stores, -⟩ := careful
      obtain ⟨position, shows⟩ := before
      obtain ⟨extra, folds, -⟩ := current_eq_ok.mp shows
      exact ⟨_, extra, speed, folds, stores, rfl⟩

/-- The positions of heads that can be read. -/
theorem positions_ok {named : String → AdvancingHead}
    (reads : ∀ name, ∃ position, (named name).current clock (times.readAt name) = .ok position)
    (names : List String) : ∃ list, positions clock times named names = .ok list := by
  induction names with
  | nil => exact ⟨[], rfl⟩
  | cons name rest ih =>
      obtain ⟨position, shows⟩ := reads name
      obtain ⟨list, others⟩ := ih
      unfold positions
      rw [shows, others]
      exact ⟨_, rfl⟩

/-- What a plan does to heads that can be read. -/
theorem moveHeads_ok {plan : AdvancePlan} (runs : Runs clock reads lags heads since) (timely : Timely reads times since)
    (careful : ∀ name, plan.headName = some name → CarefulMove host clock reads times (Told lags plan.chain name)
      plan.perSecond plan.blocks (heads plan.chain name)) :
    ∃ moved, moveHeads host clock times plan heads = (moved, .ok ()) ∧ Runs clock reads lags moved times.anchorAt := by
  have order : since ≤ times.anchorAt := timely.fold.2.trans timely.anchor.2
  unfold moveHeads
  cases named : plan.headName with
  | none => exact ⟨heads, rfl, runs.later order⟩
  | some name =>
      have careful := careful name named
      obtain ⟨position, shows, -⟩ := runs plan.chain name times.foldAt timely.fold.1 timely.fold.2
      obtain ⟨moved, moves⟩ := exists_movedBy careful ⟨position, shows⟩
      dsimp only
      rw [moveHead_eq_ok.mpr moves]
      refine ⟨_, rfl, fun chain known now read after => ?_⟩
      show ∃ position, (heads.set plan.chain name moved chain known).current clock now = .ok position ∧ _
      unfold Heads.set
      split
      · next same =>
          obtain ⟨rfl, rfl⟩ := same
          refine (movedBy_runs_iff moves fun time reading later => ?_).mpr careful now read after
          obtain ⟨position, shows, -⟩ := runs plan.chain known time reading (order.trans later)
          exact ⟨position, shows⟩
      · exact runs chain known now read (order.trans after)

/-- A move keeps the base of every head. -/
theorem moveHeads_base {plan : AdvancePlan} (chain : Chain) (name : String) :
    ((moveHeads host clock times plan heads).1 chain name).base = (heads chain name).base := by
  have one : ∀ head, (moveHead host clock times plan head).1.base = head.base := by
    intro head
    unfold moveHead AdvancingHead.setRate
    split
    · rfl
    · cases head.extraAt clock times.foldAt with
      | error error => rfl
      | ok extra =>
          dsimp only
          cases AdvancingHead.rateOf host _ <;> rfl
  unfold moveHeads
  split
  · rfl
  · show (heads.set _ _ _ chain name).base = _
    unfold Heads.set
    split
    · next same =>
        obtain ⟨rfl, rfl⟩ := same
        exact one _
    · rfl

/-- What a plan that does not raise has done to the heads. -/
theorem moveHeads_asked {plan : AdvancePlan} {body : Value} {moved : Heads} (plans : planAdvance body = .ok plan)
    (moves : moveHeads host clock times plan heads = (moved, .ok ())) :
    ∃ entries, body = .dict entries ∧ MovedAsAsked host clock times heads moved entries plan.chain plan.headName := by
  obtain ⟨entries, rfl, reaches, perSecond, blocks, picks⟩ := planAdvance_eq_ok plans
  refine ⟨entries, rfl, ?_⟩
  unfold moveHeads at moves
  cases named : plan.headName with
  | none =>
      rw [named] at moves
      cases moves
      refine ⟨reaches.named, fun _ _ _ => rfl, nofun, nofun, fun _ => ?_⟩
      rw [← perSecond, ← blocks]
      have still : ¬(plan.perSecond.isSome = true ∨ plan.blocks ≠ 0) := fun moving => by
        have some_ := picks.moves moving
        rw [named] at some_
        cases some_
      rw [not_or, Bool.not_eq_true, Option.isSome_eq_false_iff, Option.isNone_iff_eq_none, not_not] at still
      exact still
  | some name =>
      rw [named] at moves
      dsimp only at moves
      cases result : moveHead host clock times plan (heads plan.chain name) with
      | mk next ended =>
          rw [result] at moves
          cases moves
          refine ⟨reaches.named, fun other known elsewhere => ?_, ?_, ?_, nofun⟩
          · refine if_neg fun same => elsewhere ⟨same.1, ?_⟩
            rw [same.2]
          · rintro other ⟨⟩
            rcases picks.named name named with ⟨text, -⟩ | only
            · exact .inl text
            · exact .inr only
          · rintro other ⟨⟩
            rw [← perSecond, ← blocks, ← moveHead_eq_ok, result]
            refine Prod.ext ?_ rfl
            exact (if_pos ⟨rfl, rfl⟩).symm

/-- **What one careful call keeps**: every head can be read and told. -/
theorem advance_runs (runs : Runs clock reads lags heads since) (timely : Timely reads times since) {body : Value}
    (careful : CarefulAdvance host clock reads lags times heads body) :
    Runs clock reads lags (advance host clock times heads body).1 times.anchorAt := by
  have order : since ≤ times.anchorAt := timely.fold.2.trans timely.anchor.2
  unfold advance
  cases plans : planAdvance body with
  | error raised =>
      cases raised with
      | refused refusal => exact runs.later order
      | raised error => exact runs.later order
  | ok plan =>
      obtain ⟨moved, moves, later⟩ := moveHeads_ok runs timely fun name named => careful.move plan name plans named
      dsimp only
      rw [moves]
      exact later

/-- No call moves a base. -/
theorem advance_base {body : Value} (chain : Chain) (name : String) :
    ((advance host clock times heads body).1 chain name).base = (heads chain name).base := by
  unfold advance
  split
  · rfl
  · rfl
  · next plan _ =>
      have same : ((moveHeads host clock times plan heads).1 chain name).base = (heads chain name).base :=
        moveHeads_base chain name
      cases result : moveHeads host clock times plan heads with
      | mk moved ended =>
          rw [result] at same
          cases ended <;> exact same

/-- A reset head can be read and told, at its base. -/
theorem resetHeads_runs (runs : Runs clock reads lags heads since) (based : Based lags heads) (chains : List Chain) :
    Runs clock reads lags (resetHeads chains heads) since := by
  intro chain name now read after
  unfold resetHeads
  split
  · exact ⟨(heads chain name).base, current_eq_added.mpr ⟨0, rfl, by simp [AdvancingHead.reset]⟩, based chain name⟩
  · exact runs chain name now read after

/-- **What every run of careful calls keeps.** -/
theorem Reached.runs (reached : Reached host clock reads lags heads since) :
    Runs clock reads lags heads since ∧ Based lags heads := by
  induction reached with
  | start bases now told =>
      refine ⟨fun chain name _ _ _ => ⟨bases chain name, current_eq_added.mpr ⟨0, rfl, ?_⟩, told chain name⟩, told⟩
      simp [AdvancingHead.new]
  | advance before times timely careful ih =>
      refine ⟨advance_runs ih.1 timely careful, fun chain name => ?_⟩
      rw [advance_base]
      exact ih.2 chain name
  | @reset heads now before chains ih =>
      refine ⟨resetHeads_runs ih.1 ih.2 chains, fun chain name => ?_⟩
      have same : (resetHeads chains heads chain name).base = (heads chain name).base := by
        unfold resetHeads
        split <;> rfl
      rw [same]
      exact ih.2 chain name
  | wait before order ih => exact ⟨ih.1.later order, ih.2⟩

/-- A call whose body passes all checks, and that does not raise. -/
theorem advance_planned {body : Value} {plan : AdvancePlan} {answer : AdvanceAnswer}
    (plans : planAdvance body = .ok plan) (answers : (advance host clock times heads body).2 = .ok answer) :
    ∃ moved current head, moveHeads host clock times plan heads = (moved, .ok ()) ∧
      advance host clock times heads body = (moved, .ok (.ok plan.chain plan.headName current head)) := by
  unfold advance at answers ⊢
  rw [plans] at answers ⊢
  dsimp only at answers ⊢
  cases moves : moveHeads host clock times plan heads with
  | mk moved ended =>
      rw [moves] at answers
      cases ended with
      | error error => cases answers
      | ok _ =>
          change readHeads clock times plan moved = .ok answer at answers
          unfold readHeads at answers
          obtain ⟨current, shows, answers⟩ := ok_of_bind answers
          refine ⟨moved, current, plan.headName.bind (Dict.get current), rfl, ?_⟩
          show (moved, readHeads clock times plan moved) = _
          unfold readHeads
          rw [shows]
          rfl

/-- A careful call answers. -/
theorem advance_answers (runs : Runs clock reads lags heads since) (timely : Timely reads times since) {body : Value}
    (careful : CarefulAdvance host clock reads lags times heads body) :
    ∃ answer, (advance host clock times heads body).2 = .ok answer := by
  unfold advance
  cases plans : planAdvance body with
  | error raised =>
      cases raised with
      | refused refusal => exact ⟨_, rfl⟩
      | raised error =>
          obtain ⟨entries, chain, same, reaches, unhashable⟩ := planAdvance_escapes.mp ⟨error, plans⟩
          cases unhashable.symm.trans (careful.head entries chain same reaches)
  | ok plan =>
      obtain ⟨moved, moves, later⟩ := moveHeads_ok runs timely fun name named => careful.move plan name plans named
      have shown : ∀ name, ∃ position, (moved plan.chain name).current clock (times.readAt name) = .ok position := by
        intro name
        obtain ⟨position, shows, -⟩ := later plan.chain name _ (timely.read name).1 (timely.read name).2
        exact ⟨position, shows⟩
      obtain ⟨list, lists⟩ := positions_ok shown (headNames plan.chain)
      dsimp only
      rw [moves]
      show ∃ answer, readHeads clock times plan moved = .ok answer
      unfold readHeads
      rw [lists]
      exact ⟨_, rfl⟩

/-- A call that went through, after which every head can be read and told, has moved its head with care. -/
theorem carefulMove_of_runs {plan : AdvancePlan} {moved : Heads} {name : String}
    (runs : Runs clock reads lags heads since) (order : since ≤ times.anchorAt) (named : plan.headName = some name)
    (moves : moveHeads host clock times plan heads = (moved, .ok ()))
    (later : Runs clock reads lags moved times.anchorAt) :
    CarefulMove host clock reads times (Told lags plan.chain name) plan.perSecond plan.blocks (heads plan.chain name) := by
  unfold moveHeads at moves
  rw [named] at moves
  dsimp only at moves
  cases sets : moveHead host clock times plan (heads plan.chain name) with
  | mk next ended =>
      rw [sets] at moves
      cases moves
      refine (movedBy_runs_iff (moveHead_eq_ok.mp sets) fun now read after => ?_).mp fun now read after => ?_
      · obtain ⟨position, shows, -⟩ := runs plan.chain name now read (order.trans after)
        exact ⟨position, shows⟩
      · have same : heads.set plan.chain name next plan.chain name = next := if_pos ⟨rfl, rfl⟩
        rw [← same]
        exact later plan.chain name now read after

end

/-- **A call is safe exactly when its body is careful**, in every state that careful calls and resets lead
to. -/
theorem advance_safe_iff (host : Host) (clock : HeadClock) (reads : ℚ → Prop) (lags : Chain → String → Lag → Prop)
    (heads : Heads) (since : ℚ) (reached : Reached host clock reads lags heads since) (times : AdvanceTimes)
    (timely : Timely reads times since) (body : Value) :
    SafeAdvance host clock reads lags times heads body ↔ CarefulAdvance host clock reads lags times heads body := by
  have runs := reached.runs.1
  constructor
  · intro safe
    obtain ⟨answer, answers⟩ := safe.answers
    refine ⟨fun entries chain same reaches => ?_, fun plan name plans named => ?_⟩
    · by_contra unhashable
      rw [Bool.not_eq_true] at unhashable
      obtain ⟨error, escapes⟩ := planAdvance_escapes.mpr ⟨entries, chain, same, reaches, unhashable⟩
      unfold advance at answers
      rw [escapes] at answers
      cases answers
    · obtain ⟨moved, current, head, moves, result⟩ := advance_planned plans answers
      have later := safe.later plan.chain plan.headName current head (by rw [result])
      rw [result] at later
      exact carefulMove_of_runs runs (timely.fold.2.trans timely.anchor.2) named moves later
  · intro careful
    refine ⟨advance_answers runs timely careful, fun refusal refuses => ?_, fun chain name current head gives => ?_,
      fun _ _ _ _ _ => advance_runs runs timely careful⟩
    · cases plans : planAdvance body with
      | error raised =>
          unfold advance
          rw [plans]
          cases raised <;> rfl
      | ok plan =>
          obtain ⟨moved, current, head, -, result⟩ := advance_planned plans refuses
          rw [result] at refuses
          cases refuses
    · cases plans : planAdvance body with
      | error raised =>
          unfold advance at gives
          rw [plans] at gives
          cases raised <;> cases gives
      | ok plan =>
          obtain ⟨moved, current', head', moves, result⟩ := advance_planned plans gives
          rw [result] at gives ⊢
          cases gives
          exact moveHeads_asked plans moves

/-- The readings of a call at one second. -/
def firstSecond : AdvanceTimes := ⟨1, 1, fun _ => 1⟩

/-- Heads that stand at 100. -/
def standing : Heads := fun _ _ => .new 100

/-- Every provider is three blocks behind, and a Solana provider has the default gap. -/
def threeBehind : Chain → String → Lag → Prop := fun _ _ lag => lag = ⟨3, 0, Stubs.solanaDefaultSlotBlockGap⟩

theorem told_threeBehind {position : ℤ} (small : position.natAbs < 2 ^ 62) (chain : Chain) (name : String) :
    Told threeBehind chain name position := by
  refine ⟨printable_of_lt (by omega), ?_⟩
  rintro lag rfl
  exact reports_of_small (by dsimp only [Stubs.solanaDefaultSlotBlockGap]; omega) chain name

/-- A body that bumps the head of Ethereum and lets it run. -/
def runBody : Value := .object [("chain", .str "eth"), ("per_second", .int 2), ("blocks", .int 3)]

/-- This call is safe for an hour. -/
theorem advance_runBody_safe :
    SafeAdvance wideHost .exact (fun now => now ≤ 3600) threeBehind firstSecond standing runBody := by
  have told : ∀ chain name, Told threeBehind chain name 100 := told_threeBehind (by decide)
  have hour : (1 : ℚ) ≤ 3600 := by decide
  refine (advance_safe_iff wideHost .exact (fun now => now ≤ 3600) threeBehind standing 0
    (.start (fun _ _ => 100) 0 told) firstSecond
    ⟨⟨hour, by decide⟩, ⟨hour, le_rfl⟩, fun _ => ⟨hour, le_rfl⟩⟩ runBody).mpr ⟨?_, ?_⟩
  · rintro entries chain ⟨⟩ reaches
    rfl
  · intro plan name plans named
    obtain ⟨entries, same, -, perSecond, blocks, -⟩ := planAdvance_eq_ok plans
    cases same
    rw [show plan.perSecond = some (.int 2) from perSecond, show plan.blocks = 3 from blocks]
    refine ⟨.finite 2, by decide +kernel, fun start shows now read after => ?_⟩
    have stands : start = 100 := (Except.ok.inj shows).symm
    subst stands
    have elapsed : 0 ≤ (now - 1) * 2 ∧ (now - 1) * 2 ≤ 7200 := by
      constructor <;> linarith [show (1 : ℚ) ≤ now from after, show now ≤ 3600 from read]
    refine ⟨⌊(now - 1) * 2⌋, congrArg Except.ok (if_pos elapsed.1), ?_⟩
    have low : 0 ≤ ⌊(now - 1) * 2⌋ := Int.floor_nonneg.mpr elapsed.1
    have high : ⌊(now - 1) * 2⌋ ≤ 7200 := Int.floor_le_iff.mpr (by push_cast; linarith [elapsed.2])
    exact told_threeBehind (by omega) _ _

/-- A head that is a list. -/
def listHeadBody : Value := .object [("head", .list [])]

/-- An infinite rate. -/
def infiniteBody : Value := .object [("per_second", .float .posInf)]

/-- A bump of one head of Lava. -/
def bumpBody (blocks : ℕ) : Value :=
  .object [("chain", .str "lava"), ("head", .str "rest"), ("blocks", .int blocks)]

theorem planAdvance_bumpBody (blocks : ℕ) : planAdvance (bumpBody blocks) = .ok ⟨.lava, some "rest", none, blocks⟩ := by
  have counts : badNumber "blocks" (.int blocks) = .ok () := by
    simp [badNumber, isCount, refuseIf]
    rfl
  have checked : checkNumber [(.text "chain", .str "lava"), (.text "head", .str "rest"), (.text "blocks", .int blocks)]
      "blocks" = .ok () := by
    show mapRefusal AdvanceRefusal.number (badNumber "blocks" (.int blocks)) = .ok ()
    rw [counts]
    rfl
  unfold planAdvance bumpBody Value.object
  dsimp only [List.map]
  rw [checked]
  rfl

/-- A bump after which the position has more than 4300 digits is not safe. -/
theorem bumpBody_unsafe {blocks : ℕ} (large : 10 ^ 4300 ≤ 100 + blocks) :
    ¬SafeAdvance wideHost .exact (fun _ => True) threeBehind firstSecond standing (bumpBody blocks) := by
  intro safe
  obtain ⟨answer, answers⟩ := safe.answers
  obtain ⟨moved, current, head, moves, result⟩ := advance_planned (planAdvance_bumpBody blocks) answers
  have later := safe.later .lava (some "rest") current head (by rw [result])
  rw [result] at later
  cases moves
  obtain ⟨position, shows, printable, -⟩ := later .lava "rest" 1 trivial le_rfl
  have far : position = 100 + blocks := by
    have shown := (Except.ok.inj shows).symm
    rw [shown]
    show (100 : ℤ) + (0 + blocks) = _
    rw [zero_add]
  have within : position.natAbs < 10 ^ 4300 := printable
  rw [far] at within
  exact absurd within (not_lt.mpr large)

/-- **Two bodies that no check refuses, and that raise**: a head that is a list, and an infinite rate, which
has been stored when it raises. **A third one answers**, and no later reply that reads its head can be built. -/
theorem advance_raises :
    (advance wideHost .exact firstSecond standing listHeadBody).2 = .error .typeError ∧
      (advance wideHost .exact firstSecond standing infiniteBody).2 = .error .valueError ∧
      ((advance wideHost .exact firstSecond standing infiniteBody).1 .eth "default").current .exact 2 =
        .error .overflowError ∧
      ¬SafeAdvance wideHost .exact (fun _ => True) threeBehind firstSecond standing listHeadBody ∧
      ¬SafeAdvance wideHost .exact (fun _ => True) threeBehind firstSecond standing infiniteBody ∧
      ¬SafeAdvance wideHost .exact (fun _ => True) threeBehind firstSecond standing (bumpBody (10 ^ 4300 - 1)) := by
  have first : (advance wideHost .exact firstSecond standing listHeadBody).2 = .error .typeError := rfl
  have second : (advance wideHost .exact firstSecond standing infiniteBody).2 = .error .valueError := rfl
  refine ⟨first, second, rfl, fun safe => ?_, fun safe => ?_, fun safe => ?_⟩
  · obtain ⟨answer, answers⟩ := safe.answers
    cases first.symm.trans answers
  · obtain ⟨answer, answers⟩ := safe.answers
    cases second.symm.trans answers
  · refine bumpBody_unsafe ?_ safe
    generalize 10 ^ 4300 = bound
    omega

end ProviderSimulator.Control
