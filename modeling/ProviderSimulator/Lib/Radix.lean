/-
**Numbers by their digits.**

A text of digits stands for a number, with the highest digit first (`number`). A number alone does not give
the text back: zeros in front of it are lost. There are two ways to keep them.

* `places` writes a number with a given count of digits, and `number_places` reads it back.
* `rebase` counts the zeros in front apart, and writes the rest of the text in another base. It is undone
  by the same conversion the other way (`rebase_rebase`), for every text of digits.
-/

import Mathlib.Tactic.Common
import Mathlib.Data.Nat.Digits.Lemmas

namespace ProviderSimulator.Lib.Radix

variable {base source target : ℕ}

/-- The number that a text of digits stands for. -/
def number (base : ℕ) (digits : List ℕ) : ℕ := digits.foldl (fun value digit => value * base + digit) 0

/-- Every digit is one of the base. -/
def Digits (base : ℕ) (digits : List ℕ) : Prop := ∀ digit ∈ digits, digit < base

theorem number_append (base : ℕ) (digits : List ℕ) (last : ℕ) :
    number base (digits ++ [last]) = number base digits * base + last := by
  unfold number
  rw [List.foldl_append]
  rfl

/-- The number, with the lowest digit first. -/
theorem number_eq_ofDigits (base : ℕ) (digits : List ℕ) : number base digits = Nat.ofDigits base digits.reverse := by
  induction digits using List.reverseRecOn with
  | nil => rfl
  | append_singleton digits last ih =>
      rw [number_append, ih, List.reverse_append, List.reverse_singleton, List.singleton_append, Nat.ofDigits_cons,
        Nat.add_comm, Nat.mul_comm]

/-- Texts of one length with one number are one text. -/
theorem number_injective (large : 1 < base) {first second : List ℕ} (valid : Digits base first)
    (valid' : Digits base second) (lengths : first.length = second.length)
    (same : number base first = number base second) : first = second := by
  rw [number_eq_ofDigits, number_eq_ofDigits] at same
  refine List.reverse_injective (Nat.ofDigits_inj_of_len_eq large ?_ ?_ ?_ same)
  · rw [List.length_reverse, List.length_reverse, lengths]
  · exact fun digit member => valid digit (List.mem_reverse.mp member)
  · exact fun digit member => valid' digit (List.mem_reverse.mp member)

/-! ### A given count of digits -/

/-- The number with a given count of digits. -/
def places (base length value : ℕ) : List ℕ :=
  (List.range length).reverse.map fun place => value / base ^ place % base

theorem places_length (base length value : ℕ) : (places base length value).length = length := by
  simp [places]

theorem places_succ (base length value : ℕ) :
    places base (length + 1) value = value / base ^ length % base :: places base length value := by
  unfold places
  rw [List.range_succ, List.reverse_append, List.reverse_singleton, List.singleton_append, List.map_cons]

theorem places_digits (positive : 0 < base) (length value : ℕ) : Digits base (places base length value) := by
  intro digit member
  obtain ⟨place, -, rfl⟩ := List.mem_map.mp member
  exact Nat.mod_lt _ positive

theorem number_cons (base first : ℕ) (rest : List ℕ) :
    number base (first :: rest) = first * base ^ rest.length + number base rest := by
  induction rest using List.reverseRecOn with
  | nil => simp [number]
  | append_singleton rest last ih =>
      rw [← List.cons_append, number_append, ih, number_append, List.length_append, List.length_singleton]
      ring

/-- **Reading what was written.** -/
theorem number_places (base length value : ℕ) : number base (places base length value) = value % base ^ length := by
  induction length with
  | zero => rw [pow_zero, Nat.mod_one]; rfl
  | succ length ih =>
      rw [places_succ, number_cons, places_length, ih, Nat.mod_pow_succ, Nat.add_comm, Nat.mul_comm]

/-- As many digits as the number needs. -/
theorem places_digits_length (large : 1 < base) (value : ℕ) :
    places base (Nat.digits base value).length value = (Nat.digits base value).reverse := by
  have valid : Digits base (Nat.digits base value).reverse := fun digit member =>
    Nat.digits_lt_base large (List.mem_reverse.mp member)
  refine number_injective large (places_digits (Nat.zero_lt_of_lt large) _ _) valid ?_ ?_
  · rw [places_length, List.length_reverse]
  · rw [number_places, number_eq_ofDigits, List.reverse_reverse, Nat.ofDigits_digits]
    exact Nat.mod_eq_of_lt (Nat.lt_base_pow_length_digits large)

/-! ### Another base -/

/-- How many zeros stand in front. -/
def zeros (digits : List ℕ) : ℕ := (digits.takeWhile fun digit => digit = 0).length

/-- The text in another base, with the same zeros in front. -/
def rebase (source target : ℕ) (digits : List ℕ) : List ℕ :=
  List.replicate (zeros digits) 0 ++ (Nat.digits target (number source digits)).reverse

theorem zeros_replicate (count value : ℕ) :
    zeros (List.replicate count 0 ++ (Nat.digits base value).reverse) = count := by
  have front : zeros (Nat.digits base value).reverse = 0 := by
    unfold zeros
    rcases List.eq_nil_or_concat (Nat.digits base value) with none | ⟨lower, highest, all⟩
    · rw [none]
      rfl
    · rw [List.concat_eq_append] at all
      have filled : Nat.digits base value ≠ [] := by simp [all]
      have leading := Nat.getLast_digit_ne_zero base (Nat.digits_ne_nil_iff_ne_zero.mp filled)
      simp only [all, List.getLast_append_singleton] at leading
      rw [all, List.reverse_concat, List.takeWhile_cons, decide_eq_false leading]
      rfl
  unfold zeros at front ⊢
  rw [List.takeWhile_append_of_pos (by simp), List.length_append, front, List.length_replicate, Nat.add_zero]

theorem number_replicate (count : ℕ) (digits : List ℕ) :
    number base (List.replicate count 0 ++ digits) = number base digits := by
  induction count with
  | zero => rfl
  | succ count ih => rw [List.replicate_succ, List.cons_append, number_cons, ih, Nat.zero_mul, Nat.zero_add]

theorem number_rebase (digits : List ℕ) : number target (rebase source target digits) = number source digits := by
  unfold rebase
  rw [number_replicate, number_eq_ofDigits, List.reverse_reverse, Nat.ofDigits_digits]

theorem zeros_rebase (digits : List ℕ) : zeros (rebase source target digits) = zeros digits :=
  zeros_replicate _ _

theorem rebase_digits (large : 1 < target) (digits : List ℕ) : Digits target (rebase source target digits) := by
  intro digit member
  rcases List.mem_append.mp member with zero | later
  · rw [List.eq_of_mem_replicate zero]
    exact Nat.zero_lt_of_lt large
  · exact Nat.digits_lt_base large (List.mem_reverse.mp later)

/-- **The zeros in front and the number give the text back.** -/
theorem rebase_self (large : 1 < base) {digits : List ℕ} (valid : Digits base digits) :
    rebase base base digits = digits := by
  induction digits with
  | nil => simp [rebase, zeros, number]
  | cons first rest ih =>
      have others : Digits base rest := fun digit member => valid digit (List.mem_cons_of_mem _ member)
      by_cases zero : first = 0
      · subst zero
        have count : zeros (0 :: rest) = zeros rest + 1 := rfl
        unfold rebase at ih ⊢
        rw [count, number_cons, Nat.zero_mul, Nat.zero_add, List.replicate_succ, List.cons_append, ih others]
      · have count : zeros (first :: rest) = 0 := by
          unfold zeros
          rw [List.takeWhile_cons, decide_eq_false zero]
          rfl
        unfold rebase
        rw [count, number_eq_ofDigits, Nat.digits_ofDigits base large, List.reverse_reverse]
        · rfl
        · exact fun digit member => valid digit (List.mem_reverse.mp member)
        · intro filled
          simp only [List.reverse_cons, List.getLast_append_singleton]
          exact zero

/-- **The conversion is undone by the one the other way.** -/
theorem rebase_rebase (large : 1 < source) {digits : List ℕ} (valid : Digits source digits) :
    rebase target source (rebase source target digits) = digits := by
  calc rebase target source (rebase source target digits)
      = List.replicate (zeros (rebase source target digits)) 0 ++
          (Nat.digits source (number target (rebase source target digits))).reverse := rfl
    _ = rebase source source digits := by rw [zeros_rebase, number_rebase, rebase]
    _ = digits := rebase_self large valid

end ProviderSimulator.Lib.Radix
