/-
**Block heads.**

An `AdvancingHead` stands still until it is given a rate. A bump adds blocks once, and a change of the rate
first folds what the old rate has added so far. The product of a time and a rate is a product of floats, so
`ticks` of the `HeadClock` is what the model takes from the language, and an infinite rate makes it raise.

`reset` leaves the anchor of the last rate as it is. Nothing reads the anchor while the rate is zero, so
two heads that differ in it cannot be told apart (`SameHead`).
-/

import Mathlib.Tactic.Common
import ProviderSimulator.Python.Host

namespace ProviderSimulator.Domain

open ProviderSimulator.Python

/-- `int((now - anchor) * rate)`. -/
structure HeadClock where
  ticks : ℚ → ℚ → PyFloat → Except PyError ℤ

/-- `AdvancingHead`. -/
structure AdvancingHead where
  base : ℤ
  /-- The bumps, and what earlier rates have added. -/
  extra : ℤ
  /-- Blocks per second. -/
  rate : PyFloat
  /-- When the rate took effect. -/
  anchor : ℚ

namespace AdvancingHead

/-- `AdvancingHead(base)`. -/
def new (base : ℤ) : AdvancingHead := ⟨base, 0, .finite 0, 0⟩

/-- `self._rate > 0.0`. -/
def moving (head : AdvancingHead) : Bool := (PyFloat.finite 0).less head.rate

section

variable (clock : HeadClock) (head : AdvancingHead)

/-- The extra blocks at a time, with what the rate has added. -/
def extraAt (now : ℚ) : Except PyError ℤ :=
  if head.moving then do pure (head.extra + (← clock.ticks now head.anchor head.rate)) else .ok head.extra

/-- `current`. -/
def current (now : ℚ) : Except PyError ℤ := do pure (head.base + (← head.extraAt clock now))

/-- `float(rate_per_sec) if rate_per_sec and rate_per_sec > 0.0 else 0.0`. -/
def rateOf (host : Host) (rate : Value) : Except PyError PyFloat := do
  if !rate.truthy then pure (.finite 0)
  else if ← (Value.int 0).less rate then host.asFloat rate
  else pure (.finite 0)

/-- `set_rate`: it folds at one time, and the new rate takes effect at another. -/
def setRate (host : Host) (foldAt anchorAt : ℚ) (rate : Value) : AdvancingHead × Except PyError Unit :=
  match head.extraAt clock foldAt with
  | .error error => (head, .error error)
  | .ok extra =>
      match rateOf host rate with
      | .error error => ({ head with extra }, .error error)
      | .ok rate => ({ head with extra, rate, anchor := anchorAt }, .ok ())

/-- `bump`. -/
def bump (blocks : ℤ) : AdvancingHead := { head with extra := head.extra + blocks }

/-- `reset`. -/
def reset : AdvancingHead := { head with extra := 0, rate := .finite 0 }

end

end AdvancingHead

/-! ### Heads that cannot be told apart -/

/-- The heads agree in all but an anchor that nothing reads. -/
structure SameHead (first second : AdvancingHead) : Prop where
  base : first.base = second.base
  extra : first.extra = second.extra
  rate : first.rate = second.rate
  anchor : first.moving = true → first.anchor = second.anchor

namespace SameHead

variable {clock : HeadClock} {first second : AdvancingHead}

theorem refl (head : AdvancingHead) : SameHead head head := ⟨rfl, rfl, rfl, fun _ => rfl⟩

/-- A head that was reset, and a new one. -/
theorem new (head : AdvancingHead) : SameHead head.reset (.new head.base) :=
  ⟨rfl, rfl, rfl, nofun⟩

theorem extraAt (same : SameHead first second) (now : ℚ) :
    first.extraAt clock now = second.extraAt clock now := by
  have moves : first.moving = second.moving := by
    unfold AdvancingHead.moving
    rw [same.rate]
  unfold AdvancingHead.extraAt
  cases moving : first.moving with
  | false =>
      rw [← moves, moving, same.extra]
      rfl
  | true => rw [← moves, moving, same.extra, same.rate, same.anchor moving]

theorem current (same : SameHead first second) (now : ℚ) :
    first.current clock now = second.current clock now := by
  unfold AdvancingHead.current
  rw [same.base, same.extraAt]

theorem setRate (same : SameHead first second) (host : Host) (foldAt anchorAt : ℚ) (rate : Value) :
    (first.setRate clock host foldAt anchorAt rate).2 = (second.setRate clock host foldAt anchorAt rate).2 ∧
      SameHead (first.setRate clock host foldAt anchorAt rate).1
        (second.setRate clock host foldAt anchorAt rate).1 := by
  unfold AdvancingHead.setRate
  rw [same.extraAt]
  cases second.extraAt clock foldAt with
  | error error => exact ⟨rfl, same⟩
  | ok extra =>
      cases AdvancingHead.rateOf host rate with
      | error error => exact ⟨rfl, same.base, rfl, same.rate, same.anchor⟩
      | ok rate => exact ⟨rfl, same.base, rfl, rfl, fun _ => rfl⟩

theorem bump (same : SameHead first second) (blocks : ℤ) : SameHead (first.bump blocks) (second.bump blocks) :=
  ⟨same.base, congrArg (· + blocks) same.extra, same.rate, same.anchor⟩

theorem reset (same : SameHead first second) : SameHead first.reset second.reset :=
  ⟨same.base, rfl, rfl, nofun⟩

end SameHead

end ProviderSimulator.Domain
