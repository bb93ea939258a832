/-
**A head never moves backward.**

The head is read, given a rate and bumped, in any order, and each use of the clock is a reading of its own.
The product of a time and a rate is exact here (`HeadClock.exact`). A reading drops the fraction of the
elapsed advance, and a change of the rate folds the whole blocks in and drops the fraction for good.

* `ticks_mono` and `ticks_nonneg` — what a rate has added never decreases, and is no loss;
* `Ahead` — no reading from a time on gives less than a value. `Ahead.react` is what one operation does to
  it: a reading raises the value to the one that it shows, and all else leaves it;
* `never_backward` — the values that are shown never decrease, and a head that stands is at its base with
  all bumps and all folds.

A rate that cannot be stored makes `set_rate` raise after the fold. The old rate then goes on from the old
anchor, so the head jumps ahead by what was folded.
-/

import Mathlib.Tactic.Common
import Mathlib.Tactic.Linarith
import Mathlib.Data.Rat.Floor
import Mathlib.Algebra.Order.Floor.Ring
import ProviderSimulator.Lib.Machine
import ProviderSimulator.Domain.AdvancingHead

namespace ProviderSimulator.Domain

open ProviderSimulator.Lib ProviderSimulator.Python

/-! ### Exact time -/

/-- `int(...)` of the exact product. An infinite rate has no product with a time of zero, and no integer
otherwise. -/
def HeadClock.exact : HeadClock where
  ticks now anchor
    | .finite rate =>
        .ok (if 0 ≤ (now - anchor) * rate then ⌊(now - anchor) * rate⌋ else ⌈(now - anchor) * rate⌉)
    | .nan => .error .valueError
    | _ => if now = anchor then .error .valueError else .error .overflowError

section

variable {anchor now later : ℚ} {rate : PyFloat} {added more : ℤ}

/-- A positive rate that gives a number of blocks is finite. -/
theorem ticks_eq (positive : (PyFloat.finite 0).less rate = true) (since : anchor ≤ now)
    (ticks : HeadClock.exact.ticks now anchor rate = .ok added) :
    ∃ speed : ℚ, 0 < speed ∧ rate = .finite speed ∧ added = ⌊(now - anchor) * speed⌋ := by
  cases rate with
  | nan => cases ticks
  | negInf => cases positive
  | posInf =>
      unfold HeadClock.exact at ticks
      dsimp only at ticks
      split at ticks <;> cases ticks
  | finite speed =>
      have faster : 0 < speed := of_decide_eq_true positive
      have whole : 0 ≤ (now - anchor) * speed := mul_nonneg (sub_nonneg.mpr since) faster.le
      refine ⟨speed, faster, rfl, ?_⟩
      unfold HeadClock.exact at ticks
      dsimp only at ticks
      rw [if_pos whole] at ticks
      cases ticks
      rfl

/-- A rate takes no blocks away. -/
theorem ticks_nonneg (positive : (PyFloat.finite 0).less rate = true) (since : anchor ≤ now)
    (ticks : HeadClock.exact.ticks now anchor rate = .ok added) : 0 ≤ added := by
  obtain ⟨speed, faster, -, rfl⟩ := ticks_eq positive since ticks
  exact Int.floor_nonneg.mpr (mul_nonneg (sub_nonneg.mpr since) faster.le)

/-- What a rate has added never decreases. -/
theorem ticks_mono (positive : (PyFloat.finite 0).less rate = true) (since : anchor ≤ now) (order : now ≤ later)
    (first : HeadClock.exact.ticks now anchor rate = .ok added)
    (second : HeadClock.exact.ticks later anchor rate = .ok more) : added ≤ more := by
  obtain ⟨speed, faster, same, rfl⟩ := ticks_eq positive since first
  obtain ⟨speed', -, same', rfl⟩ := ticks_eq positive (since.trans order) second
  cases same.symm.trans same'
  exact Int.floor_le_floor (mul_le_mul_of_nonneg_right (sub_le_sub_right order anchor) faster.le)

end

/-! ### Runs of one head -/

/-- A use of a head, with the readings of the clock that it makes. -/
inductive HeadOp
  | current (now : ℚ)
  | setRate (foldAt anchorAt : ℚ) (rate : Value)
  | bump (blocks : ℕ)

namespace HeadOp

/-- The readings of the clock, in their order. -/
def times : HeadOp → List ℚ
  | .current now => [now]
  | .setRate foldAt anchorAt _ => [foldAt, anchorAt]
  | .bump _ => []

/-- The blocks of a bump. -/
def bumped : HeadOp → ℤ
  | .bump blocks => blocks
  | _ => 0

end HeadOp

/-- The bumps of a run. -/
def bumps (ops : List HeadOp) : ℤ := (ops.map HeadOp.bumped).sum

namespace AdvancingHead

variable (host : Host)

/-- One use of a head, and the value that it returns. An exception returns none. -/
def react (head : AdvancingHead) : HeadOp → AdvancingHead × Option ℤ
  | .current now => (head, (head.current .exact now).toOption)
  | .setRate foldAt anchorAt rate => ((head.setRate .exact host foldAt anchorAt rate).1, none)
  | .bump blocks => (head.bump blocks, none)

/-- The values that `current` returns in a run. -/
def shown (head : AdvancingHead) (ops : List HeadOp) : List ℤ := (outputs (react host) head ops).reduceOption

/-- The whole blocks that a use of a head folds in. -/
def foldedBy (head : AdvancingHead) : HeadOp → ℤ
  | .setRate foldAt _ _ =>
      if head.moving then (HeadClock.exact.ticks foldAt head.anchor head.rate).toOption.getD 0 else 0
  | _ => 0

/-- The whole blocks that a run folds in. -/
def folded : AdvancingHead → List HeadOp → ℤ
  | _, [] => 0
  | head, op :: rest => foldedBy head op + folded (react host head op).1 rest

end AdvancingHead

open AdvancingHead

/-! ### What no reading falls below -/

/-- A rate that runs took effect by the time, and no reading from then on gives less than the value. -/
structure Ahead (head : AdvancingHead) (time : ℚ) (value : ℤ) : Prop where
  since : head.moving = true → head.anchor ≤ time
  least : ∀ now ≥ time, ∀ found, head.current .exact now = .ok found → value ≤ found

section

variable {host : Host} {head : AdvancingHead} {time later : ℚ} {value extra : ℤ}

/-- The position of a head, from its extra blocks. -/
theorem current_eq_ok {clock : HeadClock} {found : ℤ} : head.current clock later = .ok found ↔
    ∃ extra, head.extraAt clock later = .ok extra ∧ found = head.base + extra := by
  unfold AdvancingHead.current
  rw [ok_of_bind_iff]
  refine exists_congr fun extra => and_congr_right fun _ => ?_
  exact ⟨fun same => by cases same; rfl, fun same => by rw [same]; rfl⟩

/-- The extra blocks are those that are stored and those of the rate. -/
theorem extraAt_eq_ok {clock : HeadClock} : head.extraAt clock later = .ok extra ↔
    if head.moving then ∃ added, clock.ticks later head.anchor head.rate = .ok added ∧
      extra = head.extra + added
    else extra = head.extra := by
  unfold AdvancingHead.extraAt
  split
  · rw [ok_of_bind_iff]
    refine exists_congr fun added => and_congr_right fun _ => ?_
    exact ⟨fun same => by cases same; rfl, fun same => by rw [same]; rfl⟩
  · exact ⟨fun same => by cases same; rfl, fun same => by rw [same]⟩

/-- Nothing takes away from the extra blocks that are stored. -/
theorem extra_le_extraAt (since : head.moving = true → head.anchor ≤ later)
    (gives : head.extraAt .exact later = .ok extra) : head.extra ≤ extra := by
  rw [extraAt_eq_ok] at gives
  split at gives
  · next moving =>
      obtain ⟨added, ticks, rfl⟩ := gives
      have grown := ticks_nonneg moving (since moving) ticks
      omega
  · exact gives.ge

/-- The extra blocks never decrease. -/
theorem extraAt_mono {more : ℤ} (since : head.moving = true → head.anchor ≤ time) (order : time ≤ later)
    (first : head.extraAt .exact time = .ok extra) (second : head.extraAt .exact later = .ok more) :
    extra ≤ more := by
  rw [extraAt_eq_ok] at first second
  split at first
  · next moving =>
      rw [if_pos moving] at second
      obtain ⟨added, ticks, rfl⟩ := first
      obtain ⟨grown, ticks', rfl⟩ := second
      have forward := ticks_mono moving (since moving) order ticks ticks'
      omega
  · next still =>
      rw [if_neg still] at second
      omega

/-- Later is still ahead. -/
theorem Ahead.sinceThen (ahead : Ahead head time value) (order : time ≤ later) : Ahead head later value :=
  ⟨fun moving => (ahead.since moving).trans order, fun now after => ahead.least now (order.trans after)⟩

/-- A reading raises the value to the one that it shows. -/
theorem Ahead.current (ahead : Ahead head time value) (order : time ≤ later) {found : ℤ}
    (reads : head.current .exact later = .ok found) : value ≤ found ∧ Ahead head later found := by
  refine ⟨ahead.least later order found reads, (ahead.sinceThen order).since, fun now after next shows => ?_⟩
  obtain ⟨extra, first, rfl⟩ := current_eq_ok.mp reads
  obtain ⟨more, second, rfl⟩ := current_eq_ok.mp shows
  have forward := extraAt_mono (ahead.sinceThen order).since after first second
  omega

/-- A bump leaves the value. -/
theorem Ahead.bump (ahead : Ahead head time value) (blocks : ℕ) : Ahead (head.bump blocks) time value := by
  refine ⟨ahead.since, fun now after found shows => ?_⟩
  obtain ⟨extra, gives, rfl⟩ := current_eq_ok.mp shows
  have before : head.current .exact now = .ok (head.base + (extra - blocks)) := by
    refine current_eq_ok.mpr ⟨_, extraAt_eq_ok.mpr ?_, rfl⟩
    have bumped := extraAt_eq_ok.mp gives
    split
    · next moving =>
        rw [if_pos (show (head.bump blocks).moving = true from moving)] at bumped
        obtain ⟨added, ticks, rfl⟩ := bumped
        refine ⟨added, ticks, ?_⟩
        show head.extra + blocks + added - blocks = head.extra + added
        omega
    · next still =>
        rw [if_neg (show ¬(head.bump blocks).moving = true from still)] at bumped
        subst bumped
        show head.extra + blocks - blocks = head.extra
        omega
  have least := ahead.least now after _ before
  show value ≤ head.base + extra
  omega

/-- A fold leaves the value, whatever rate runs from then on. -/
theorem Ahead.fold (ahead : Ahead head time value) {foldAt : ℚ} (order : time ≤ foldAt)
    (folds : head.extraAt .exact foldAt = .ok extra) {rate : PyFloat} {anchor : ℚ}
    (since : (PyFloat.finite 0).less rate = true → anchor ≤ later) :
    Ahead { head with extra, rate, anchor } later value := by
  have least := ahead.least foldAt order _ (current_eq_ok.mpr ⟨extra, folds, rfl⟩)
  refine ⟨since, fun now after found shows => ?_⟩
  obtain ⟨more, gives, rfl⟩ := current_eq_ok.mp shows
  have running : AdvancingHead.moving { head with extra, rate, anchor } = true → anchor ≤ now :=
    fun moving => le_trans (since moving) after
  have kept : extra ≤ more := extra_le_extraAt running gives
  show value ≤ head.base + more
  omega

/-- A change of the rate leaves the value, also where it raises. -/
theorem Ahead.setRate (ahead : Ahead head time value) {foldAt anchorAt : ℚ} (first : time ≤ foldAt)
    (second : foldAt ≤ anchorAt) (rate : Value) :
    Ahead (head.setRate .exact host foldAt anchorAt rate).1 anchorAt value := by
  unfold AdvancingHead.setRate
  split
  · exact ahead.sinceThen (first.trans second)
  · next extra folds =>
      split
      · refine ahead.fold first folds fun moving => ?_
        exact (ahead.since moving).trans (first.trans second)
      · exact ahead.fold first folds fun _ => le_rfl

/-- **The values of a run.** None is below what no reading falls below, and they never decrease. -/
theorem Ahead.shown {ops : List HeadOp} (ahead : Ahead head time value)
    (ordered : (time :: ops.flatMap HeadOp.times).Pairwise (· ≤ ·)) :
    (value :: head.shown host ops).Pairwise (· ≤ ·) := by
  induction ops generalizing head time value with
  | nil => exact List.pairwise_singleton _ _
  | cons op rest ih =>
      cases op with
      | current now =>
          have order : time ≤ now := List.rel_of_pairwise_cons ordered List.mem_cons_self
          have readings : (now :: rest.flatMap HeadOp.times).Pairwise (· ≤ ·) := ordered.of_cons
          have shows : head.shown host (.current now :: rest) =
              (head.current .exact now).toOption.toList ++ head.shown host rest := by
            unfold AdvancingHead.shown
            show List.reduceOption ((head.current .exact now).toOption :: _) = _
            cases (head.current .exact now).toOption <;> rfl
          rw [shows]
          cases reads : head.current .exact now with
          | error error => exact ih (ahead.sinceThen order) readings
          | ok found =>
              obtain ⟨grown, next⟩ := ahead.current order reads
              have run := ih next readings
              refine List.pairwise_cons.mpr ⟨fun other member => ?_, run⟩
              rcases List.mem_cons.mp member with rfl | later
              · exact grown
              · exact grown.trans (List.rel_of_pairwise_cons run later)
      | setRate foldAt anchorAt rate =>
          have first : time ≤ foldAt := List.rel_of_pairwise_cons ordered List.mem_cons_self
          have second : foldAt ≤ anchorAt := List.rel_of_pairwise_cons ordered.of_cons List.mem_cons_self
          exact ih (ahead.setRate first second rate) ordered.of_cons.of_cons
      | bump blocks => exact ih (ahead.bump blocks) ordered

/-- A head that stands is ahead of its own position. -/
theorem ahead_of_still (still : head.moving = false) : Ahead head time (head.base + head.extra) := by
  refine ⟨fun moving => absurd (still.symm.trans moving) Bool.false_ne_true, fun now _ found shows => ?_⟩
  obtain ⟨extra, gives, rfl⟩ := current_eq_ok.mp shows
  rw [extraAt_eq_ok, if_neg (by rw [still]; exact Bool.false_ne_true)] at gives
  rw [gives]

/-! ### What a head holds -/

/-- A change of the rate keeps what it folded in, also where the new rate cannot be stored. -/
theorem setRate_extra (foldAt anchorAt : ℚ) (rate : Value) :
    (head.setRate .exact host foldAt anchorAt rate).1.extra =
      head.extra + head.foldedBy (.setRate foldAt anchorAt rate) := by
  unfold AdvancingHead.setRate AdvancingHead.extraAt
  show _ = head.extra + if head.moving then (HeadClock.exact.ticks _ _ _).toOption.getD 0 else 0
  cases head.moving with
  | false =>
      show _ = head.extra + 0
      rw [add_zero]
      cases AdvancingHead.rateOf host rate <;> rfl
  | true =>
      cases HeadClock.exact.ticks foldAt head.anchor head.rate with
      | error error => exact (add_zero head.extra).symm
      | ok added => cases AdvancingHead.rateOf host rate <;> rfl

theorem setRate_base (foldAt anchorAt : ℚ) (rate : Value) :
    (head.setRate .exact host foldAt anchorAt rate).1.base = head.base := by
  unfold AdvancingHead.setRate
  split
  · rfl
  · split <;> rfl

/-- A use of a head adds its bump and what it folds in. -/
theorem react_extra (host : Host) (head : AdvancingHead) (op : HeadOp) :
    (head.react host op).1.extra = head.extra + op.bumped + head.foldedBy op ∧
      (head.react host op).1.base = head.base := by
  cases op with
  | current now => exact ⟨(add_zero _).symm.trans (add_zero _).symm, rfl⟩
  | bump blocks => exact ⟨(add_zero _).symm, rfl⟩
  | setRate foldAt anchorAt rate =>
      refine ⟨?_, setRate_base foldAt anchorAt rate⟩
      show (head.setRate .exact host foldAt anchorAt rate).1.extra = head.extra + 0 + _
      rw [setRate_extra, add_zero]

/-- A run adds its bumps and what it folds in. -/
theorem after_extra (host : Host) (head : AdvancingHead) (ops : List HeadOp) :
    (after (react host) head ops).extra = head.extra + bumps ops + folded host head ops ∧
      (after (react host) head ops).base = head.base := by
  induction ops generalizing head with
  | nil => exact ⟨(add_zero _).symm.trans (add_zero _).symm, rfl⟩
  | cons op rest ih =>
      obtain ⟨extra, base⟩ := react_extra host head op
      obtain ⟨later, same⟩ := ih (head.react host op).1
      refine ⟨later.trans ?_, same.trans base⟩
      rw [extra]
      have bumped : bumps (op :: rest) = op.bumped + bumps rest := List.sum_cons
      have folds : folded host head (op :: rest) = head.foldedBy op + folded host (head.react host op).1 rest := rfl
      omega

/-- A finite rate has a product with every time. -/
theorem current_of_finite {speed : ℚ} (finite : head.rate = .finite speed) (now : ℚ) :
    ∃ found, head.current .exact now = .ok found := by
  unfold AdvancingHead.current AdvancingHead.extraAt
  rw [finite]
  split
  · exact ⟨_, rfl⟩
  · exact ⟨_, rfl⟩

end

/-- **A head never moves backward.** For every run of readings, changes of the rate and bumps of a new head,
with a clock that does not go back, the values that are shown never decrease, and a finite rate always shows
one. Where the rate is zero, the value is the base with all bumps and all whole blocks that were folded in. -/
theorem never_backward (host : Host) (base : ℤ) (ops : List HeadOp)
    (ordered : (ops.flatMap HeadOp.times).Pairwise (· ≤ ·)) :
    ((AdvancingHead.new base).shown host ops).Pairwise (· ≤ ·) ∧
      (∀ speed now, (after (react host) (.new base) ops).rate = .finite speed →
        ∃ found, (after (react host) (.new base) ops).current .exact now = .ok found) ∧
      ((after (react host) (.new base) ops).rate = .finite 0 → ∀ now,
        (after (react host) (.new base) ops).current .exact now =
          .ok (base + bumps ops + folded host (.new base) ops)) := by
  refine ⟨?_, fun speed now finite => current_of_finite finite now, ?_⟩
  · -- Any time before the first reading will do.
    cases readings : ops.flatMap HeadOp.times with
    | nil =>
        have alone : ((0 : ℚ) :: ops.flatMap HeadOp.times).Pairwise (· ≤ ·) := by
          rw [readings]
          exact List.pairwise_singleton _ _
        exact (Ahead.shown (ahead_of_still rfl) alone).of_cons
    | cons first rest =>
        have twice : (first :: ops.flatMap HeadOp.times).Pairwise (· ≤ ·) := by
          refine List.pairwise_cons.mpr ⟨fun read member => ?_, ordered⟩
          rw [readings] at ordered member
          rcases List.mem_cons.mp member with rfl | later
          · exact le_rfl
          · exact List.rel_of_pairwise_cons ordered later
        exact (Ahead.shown (ahead_of_still rfl) twice).of_cons
  · intro stands now
    obtain ⟨extra, same⟩ := after_extra host (.new base) ops
    have still : ¬(after (react host) (.new base) ops).moving = true := by
      unfold AdvancingHead.moving
      rw [stands]
      decide
    have gives : (after (react host) (.new base) ops).extraAt .exact now =
        .ok (after (react host) (.new base) ops).extra := by
      rw [extraAt_eq_ok, if_neg still]
    refine current_eq_ok.mpr ⟨_, gives, ?_⟩
    rw [extra, same]
    show base + bumps ops + _ = base + (0 + bumps ops + _)
    omega

/-- A language whose floats hold every integer. -/
def wideHost : Host where
  str _ := ""
  addFloat first _ := first
  toFloat number := some (.finite number)
  digit _ := none
  space _ := false
  loads _ := .error (.badJson "" 1 1)
  loadsText _ := .error (.badJson "" 1 1)
  jsonErrorText _ := ""
  decode _ := .ok ""
  encode text := text.toUTF8.toList
  decodeBase64 _ := none
  blake2b _ := []
  frames := 900

/-- A head that runs at two blocks and a half a second, is read, bumped and stopped. -/
def stopped : List HeadOp :=
  [.setRate 1 1 (.float (.finite (5 / 2))), .current 2, .bump 4, .setRate (13 / 5) 3 (.int 0), .current 9]

/-- Two blocks are shown, four more are added, and four were folded in by the stop. -/
theorem never_backward_when_stopped :
    (AdvancingHead.new 100).shown wideHost stopped = [102, 108] ∧
      ((AdvancingHead.new 100).shown wideHost stopped).Pairwise (· ≤ ·) ∧
      (after (react wideHost) (.new 100) stopped).current .exact 50 = .ok (100 + 4 + 4) := by
  have held := never_backward wideHost 100 stopped (by decide +kernel)
  have added : 100 + bumps stopped + folded wideHost (.new 100) stopped = 100 + 4 + 4 := by decide +kernel
  refine ⟨by decide +kernel, held.1, ?_⟩
  rw [← added]
  exact held.2.2 (by decide +kernel) 50

end ProviderSimulator.Domain
