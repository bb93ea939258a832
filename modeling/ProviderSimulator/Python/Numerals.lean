/-
**Numbers as texts.**

`parseInt` reads what `str` and `format` write.

* `less_int`, `lessEq_int`, `add_int`, `sub_int` — whole numbers are compared and added as they are;
* `Reads` — the characters are digits of a base, and these are their values; `unsigned_reads` — the number that they
  stand for;
* `reads_toDigits` — the digits of a number, in small letters or in capitals;
* `printable_of_lt`, `Printable.digits` — the numbers that `str` writes;
* `parseInt_toString` — `int(str(number))`, where the number has at most 4300 digits; `parseInt_toString_long` — a longer
  one is refused;
* `parseInt_hex` — a text of hexadecimal digits after `0x`.
-/

import Mathlib.Tactic.Common
import Mathlib.Tactic.IntervalCases
import Mathlib.Data.List.Forall2
import ProviderSimulator.Lib.Radix
import ProviderSimulator.Python.Host

namespace ProviderSimulator.Python

open ProviderSimulator.Lib

/-! ### Whole numbers -/

theorem Value.less_int (first second : ℤ) : (Value.int first).less (.int second) = .ok (decide (first < second)) := by
  have same : ((first : ℚ) < (second : ℚ)) ↔ first < second := Int.cast_lt
  simp [Value.less, Value.number, PyFloat.less, same]

theorem Value.lessEq_int (first second : ℤ) :
    (Value.int first).lessEq (.int second) = .ok (decide (first ≤ second)) := by
  have below : ((first : ℚ) < (second : ℚ)) ↔ first < second := Int.cast_lt
  have equal : ((first : ℚ) = (second : ℚ)) ↔ first = second := Int.cast_inj
  simp [Value.lessEq, Value.number, PyFloat.lessEq, PyFloat.less, below, equal, le_iff_lt_or_eq]

/-- A number of 64 bits can be written. -/
theorem printable_of_lt {number : ℤ} (small : number.natAbs < 2 ^ 64) : Printable number :=
  lt_of_lt_of_le small ((by decide : 2 ^ 64 ≤ 10 ^ 20).trans (Nat.pow_le_pow_right (by decide) (by decide)))

/-- A number that can be written has at most 4300 digits. -/
theorem Printable.digits {number : ℤ} (printable : Printable number) :
    (Nat.toDigits 10 number.natAbs).length ≤ 4300 :=
  (Nat.length_toDigits_le_iff (by decide) (by decide)).mpr printable

namespace Host

theorem add_int (host : Host) (first second : ℤ) : host.add (.int first) (.int second) = .ok (.int (first + second)) :=
  rfl

theorem sub_int (host : Host) (first second : ℤ) : host.sub (.int first) (.int second) = .ok (.int (first - second)) := by
  rw [sub_eq_add_neg]
  rfl

variable (host : Host)

/-! ### Digits -/

/-- The character is an ASCII digit of the base, and this is its value. -/
structure IsDigit (base : ℕ) (char : Char) (value : ℕ) : Prop where
  ascii : char.toNat < 128
  digit : host.digitOf char = some value
  small : value < base

/-- The characters are digits of the base, and these are their values. -/
def Reads (base : ℕ) (chars : List Char) (values : List ℕ) : Prop := List.Forall₂ (host.IsDigit base) chars values

variable {host} {base : ℕ} {chars : List Char} {values : List ℕ}

/-- A digit is a digit or a letter of ASCII. -/
theorem IsDigit.letter {char : Char} {value : ℕ} (is : host.IsDigit base char value) :
    48 ≤ char.toNat ∧ char.toNat ≤ 122 ∧ char.toNat ≠ 95 := by
  have ascii := is.ascii
  have digit := is.digit
  have range : ∀ {low high : Char}, low ≤ char ∧ char ≤ high → low.toNat ≤ char.toNat ∧ char.toNat ≤ high.toNat :=
    fun both => ⟨UInt32.le_iff_toNat_le.mp both.1, UInt32.le_iff_toNat_le.mp both.2⟩
  unfold digitOf at digit
  split at digit
  · next both =>
      have ⟨low, high⟩ := range both
      change 48 ≤ char.toNat at low
      change char.toNat ≤ 57 at high
      omega
  · split at digit
    · next both =>
        have ⟨low, high⟩ := range both
        change 97 ≤ char.toNat at low
        change char.toNat ≤ 122 at high
        omega
    · split at digit
      · next both =>
          have ⟨low, high⟩ := range both
          change 65 ≤ char.toNat at low
          change char.toNat ≤ 90 at high
          omega
      · cases digit

theorem IsDigit.ne {char other : Char} {value : ℕ} (is : host.IsDigit base char value)
    (no : other.toNat < 48 ∨ other.toNat = 95) : char ≠ other := by
  have letter := is.letter
  rintro rfl
  omega

theorem digits_reads (reads : host.Reads base chars values) (start : ℕ) :
    host.digits base start chars = some (values.foldl (fun value digit => value * base + digit) start) := by
  induction reads generalizing start with
  | nil => rfl
  | @cons char value rest others first _ ih =>
      -- The first equation of `digits` is the one for an underscore.
      have step : host.digits base start (char :: rest) = host.digits base (start * base + value) rest := by
        rw [digits.eq_def]
        split
        · next same => cases same
        · next same => exact absurd (List.cons.inj same).1 (first.ne (by decide))
        · next same =>
            cases same
            rw [first.digit]
            exact if_pos first.small
      rw [step, ih]
      rfl

theorem filter_of_reads (reads : host.Reads base chars values) : chars.filter (fun char => char ≠ '_') = chars := by
  induction reads with
  | nil => rfl
  | cons first _ ih =>
      rw [List.filter_cons_of_pos (by simpa using first.ne (by decide)), ih]

/-- **A text of digits is a number**, in base 10 where there are at most 4300 of them. -/
theorem unsigned_reads (reads : host.Reads base chars values) (given : chars ≠ [])
    (short : base = 10 → chars.length ≤ 4300) : host.unsigned base chars = some (Radix.number base values) := by
  have plain := filter_of_reads reads
  cases reads with
  | nil => exact absurd rfl given
  | @cons char value rest others first later =>
      have count : ¬ (base = 10 ∧ 4300 < ((char :: rest).filter fun char => char ≠ '_').length) := by
        rintro ⟨ten, long⟩
        rw [plain] at long
        exact absurd long (not_lt.mpr (short ten))
      rw [unsigned]
      · rw [if_neg count, first.digit]
        dsimp only
        rw [if_pos first.small, digits_reads later]
        rw [Radix.number, List.foldl_cons, Nat.zero_mul, Nat.zero_add]
      · exact first.ne (by decide)

/-- A longer decimal text is refused. -/
theorem unsigned_long (reads : host.Reads 10 chars values) (long : 4300 < chars.length) : host.unsigned 10 chars = none := by
  have plain := filter_of_reads reads
  cases reads with
  | nil => cases long
  | @cons char value rest others first later =>
      rw [unsigned]
      · rw [if_pos ⟨rfl, by rw [plain]; exact long⟩]
      · exact first.ne (by decide)

/-- Digits, letters and signs are not dropped, by `str.strip` or by `int`. -/
theorem isSpace_eq_false {char : Char} (printable : 33 ≤ char.toNat) (ascii : char.toNat < 127) :
    host.isSpace char = false := by
  have noBlank : char ≠ ' ' := by
    rintro rfl
    exact absurd printable (by decide)
  have high : ¬ char.toNat ≤ 13 := by omega
  have higher : ¬ char.toNat ≤ 31 := by omega
  unfold isSpace
  rw [if_pos (by omega)]
  simp [noBlank, high, higher]

theorem isBlank_eq_false {char : Char} (printable : 33 ≤ char.toNat) (ascii : char.toNat < 127) :
    host.isBlank char = false := by
  have noSpace : host.isSpace char = false := isSpace_eq_false printable ascii
  have low : char.toNat < 128 := by omega
  unfold isSpace at noSpace
  rw [if_pos low] at noSpace
  unfold isBlank
  rw [if_pos low]
  exact (Bool.or_eq_false_iff.mp noSpace).1

theorem trim_ofList {drops : Char → Bool} (all : ∀ char ∈ chars, drops char = false) :
    trim drops (String.ofList chars) = chars := by
  have keeps : ∀ {given : List Char}, (∀ char ∈ given, drops char = false) → given.dropWhile drops = given := by
    intro given none
    cases given with
    | nil => rfl
    | cons char rest =>
        rw [List.dropWhile_cons_of_neg]
        simp [none char List.mem_cons_self]
  unfold trim
  rw [String.toList_ofList, keeps all, keeps fun char member => all char (List.mem_reverse.mp member), List.reverse_reverse]

/-! ### Written numbers -/

/-- A digit that is written is read, in a small letter or in a capital. -/
theorem isDigit_digitChar {digit : ℕ} (small : digit < base) (hex : base ≤ 16) :
    host.IsDigit base digit.digitChar digit ∧ host.IsDigit base digit.digitChar.toUpper digit := by
  have within : digit < 16 := by omega
  interval_cases digit <;> exact ⟨⟨by decide, rfl, small⟩, ⟨by decide, rfl, small⟩⟩

/-- The digits of a number stand for it, however each one is written. -/
theorem reads_toDigits {write : Char → Char} (large : 1 < base)
    (written : ∀ digit < base, host.IsDigit base (write digit.digitChar) digit) (number : ℕ) :
    ∃ values, host.Reads base ((Nat.toDigits base number).map write) values ∧ Radix.number base values = number := by
  induction number using Nat.strong_induction_on with
  | _ number ih =>
      rw [Nat.toDigits_eq_if large]
      by_cases last : number < base
      · rw [if_pos last]
        refine ⟨[number], .cons (written number last) .nil, ?_⟩
        simp [Radix.number]
      · rw [if_neg last]
        have rest : number % base < base := Nat.mod_lt _ (by omega)
        obtain ⟨values, reads, same⟩ := ih (number / base) (Nat.div_lt_self (by omega) large)
        refine ⟨values ++ [number % base], ?_, ?_⟩
        · rw [List.map_append]
          exact List.rel_append reads (.cons (written _ rest) .nil)
        · rw [Radix.number_append, same, Nat.div_add_mod']

theorem reads_decimal (number : ℕ) :
    ∃ values, host.Reads 10 (Nat.toDigits 10 number) values ∧ Radix.number 10 values = number := by
  have written : ∀ digit < 10, host.IsDigit 10 (id digit.digitChar) digit :=
    fun digit small => (isDigit_digitChar small (by decide)).1
  have reads := reads_toDigits (by decide) written number
  rwa [List.map_id] at reads

theorem reads_upperHex (number : ℕ) :
    ∃ values, host.Reads 16 ((Nat.toDigits 16 number).map Char.toUpper) values ∧ Radix.number 16 values = number :=
  reads_toDigits (by decide) (fun _ small => (isDigit_digitChar small (by decide)).2) number

/-! ### Texts -/

/-- Every character of a number stays. -/
theorem trim_reads {drops : Char → Bool}
    (keeps : ∀ char : Char, 33 ≤ char.toNat → char.toNat < 127 → drops char = false)
    (reads : host.Reads base chars values) (front : List Char) (signs : ∀ char ∈ front, drops char = false) :
    trim drops (String.ofList (front ++ chars)) = front ++ chars := by
  have digits : ∀ char ∈ chars, drops char = false := by
    induction reads with
    | nil => nofun
    | cons first _ ih =>
        intro char member
        rcases List.mem_cons.mp member with rfl | inside
        · have letter := first.letter
          exact keeps _ (by omega) (by omega)
        · exact ih char inside
  refine trim_ofList fun char member => ?_
  rcases List.mem_append.mp member with inFront | inDigits
  · exact signs char inFront
  · exact digits char inDigits

/-- `int` drops no character of a number, its sign or its prefix. -/
theorem trim_isBlank_reads (reads : host.Reads base chars values) (front : List Char)
    (signs : ∀ char ∈ front, host.isBlank char = false) :
    trim host.isBlank (String.ofList (front ++ chars)) = front ++ chars :=
  trim_reads (fun _ => isBlank_eq_false) reads front signs

theorem afterBase_ten (chars : List Char) : afterBase 10 chars = chars := by
  unfold afterBase
  split
  · rw [if_neg (by simp)]
  · rfl

/-- A text without a sign. -/
theorem parseInt_reads (reads : host.Reads 10 chars values) :
    host.parseInt 10 (String.ofList chars) = (host.unsigned 10 chars).map fun value => (value : ℤ) := by
  have whole := trim_isBlank_reads reads [] nofun
  rw [List.nil_append] at whole
  unfold parseInt
  rw [whole]
  cases reads with
  | nil => rfl
  | @cons char value rest others first later =>
      split
      · next same => exact absurd (List.cons.inj same).1 (first.ne (by decide))
      · next same => exact absurd (List.cons.inj same).1 (first.ne (by decide))
      · rw [afterBase_ten]

/-- A text with a minus sign. -/
theorem parseInt_reads_neg (reads : host.Reads 10 chars values) :
    host.parseInt 10 (String.ofList ('-' :: chars)) = (host.unsigned 10 chars).map fun value => -(value : ℤ) := by
  have whole := trim_isBlank_reads reads ['-'] (by
    intro char member
    rw [List.mem_singleton.mp member]
    exact isBlank_eq_false (by decide) (by decide))
  unfold parseInt
  rw [show '-' :: chars = ['-'] ++ chars from rfl, whole]
  simp only [afterBase_ten]
  rfl

theorem toString_int (number : ℤ) :
    toString number = String.ofList ((if number < 0 then ['-'] else []) ++ Nat.toDigits 10 number.natAbs) := by
  rw [← String.toList_inj]
  cases number with
  | ofNat value =>
      rw [if_neg (by simp), String.toList_ofList]
      exact Nat.toList_repr
  | negSucc value =>
      rw [if_pos (Int.negSucc_lt_zero _), String.toList_ofList]
      change ("-" ++ Nat.repr (value + 1)).toList = _
      rw [String.toList_append, Nat.toList_repr]
      rfl

/-- Two numbers have two texts. -/
theorem toString_inj {first second : ℤ} (same : toString first = toString second) : first = second := by
  have unsigned : ∀ (number : ℕ) (rest : List Char), Nat.toDigits 10 number ≠ '-' :: rest := by
    intro number rest equal
    have digit : '-'.isDigit = true :=
      Nat.isDigit_of_mem_toDigits (by decide) (by decide) (equal ▸ List.mem_cons_self : '-' ∈ Nat.toDigits 10 number)
    exact absurd digit (by decide)
  have digits : ∀ {one other : ℕ}, Nat.toDigits 10 one = Nat.toDigits 10 other → one = other := by
    intro one other equal
    have read := congrArg (fun chars => Nat.ofDigitChars 10 chars 0) equal
    simpa only [Nat.ofDigitChars_ten_toDigits] using read
  rw [toString_int, toString_int, String.ofList_inj] at same
  by_cases negative : first < 0
  · by_cases negative' : second < 0
    · rw [if_pos negative, if_pos negative'] at same
      have size := digits (List.append_cancel_left same)
      omega
    · rw [if_pos negative, if_neg negative'] at same
      exact absurd same.symm (unsigned _ _)
  · by_cases negative' : second < 0
    · rw [if_neg negative, if_pos negative'] at same
      exact absurd same (unsigned _ _)
    · rw [if_neg negative, if_neg negative'] at same
      have size := digits (List.append_cancel_left same)
      omega

theorem strip_toString (number : ℤ) : host.strip (toString number) = (toString number).toList := by
  obtain ⟨values, reads, -⟩ := host.reads_decimal number.natAbs
  rw [toString_int, String.toList_ofList]
  refine trim_reads (fun _ => isSpace_eq_false) reads _ fun char member => ?_
  split at member
  · rw [List.mem_singleton.mp member]
    exact isSpace_eq_false (by decide) (by decide)
  · cases member

/-- **`int(str(number))` is the number**, where it has at most 4300 digits. -/
theorem parseInt_toString {number : ℤ} (short : (Nat.toDigits 10 number.natAbs).length ≤ 4300) :
    host.parseInt 10 (toString number) = some number := by
  obtain ⟨values, reads, same⟩ := host.reads_decimal number.natAbs
  have unsigned := unsigned_reads reads Nat.toDigits_ne_nil fun _ => short
  rw [same] at unsigned
  rw [toString_int]
  by_cases negative : number < 0
  · rw [if_pos negative, List.singleton_append, parseInt_reads_neg reads, unsigned]
    change some (-(number.natAbs : ℤ)) = some number
    congr 1
    omega
  · rw [if_neg negative, List.nil_append, parseInt_reads reads, unsigned]
    change some (number.natAbs : ℤ) = some number
    congr 1
    omega

/-- A number with more digits is refused. -/
theorem parseInt_toString_long {number : ℤ} (long : 4300 < (Nat.toDigits 10 number.natAbs).length) :
    host.parseInt 10 (toString number) = none := by
  obtain ⟨values, reads, -⟩ := host.reads_decimal number.natAbs
  have unsigned := unsigned_long reads long
  rw [toString_int]
  by_cases negative : number < 0
  · rw [if_pos negative, List.singleton_append, parseInt_reads_neg reads, unsigned]
    rfl
  · rw [if_neg negative, List.nil_append, parseInt_reads reads, unsigned]
    rfl

/-- **A text of hexadecimal digits after `0x` is their number.** -/
theorem parseInt_hex (reads : host.Reads 16 chars values) (given : chars ≠ []) :
    host.parseInt 16 (String.ofList ('0' :: 'x' :: chars)) = some (Radix.number 16 values : ℤ) := by
  have whole := trim_isBlank_reads reads ['0', 'x'] (by
    intro char member
    rcases List.mem_cons.mp member with rfl | last
    · exact isBlank_eq_false (by decide) (by decide)
    · rw [List.mem_singleton.mp last]
      exact isBlank_eq_false (by decide) (by decide))
  have after : afterBase 16 ('0' :: 'x' :: chars) = chars := by
    cases reads with
    | nil => exact absurd rfl given
    | @cons char value rest others first later =>
        unfold afterBase
        split
        · next mark rest same =>
            cases same
            rw [if_pos ⟨rfl, .inl rfl⟩]
            split
            · next same => exact absurd (List.cons.inj same).1 (first.ne (by decide))
            · rfl
        · next other => exact absurd rfl (other 'x' _)
  have unsigned := unsigned_reads reads given (fun ten => absurd ten (by decide))
  unfold parseInt
  rw [show '0' :: 'x' :: chars = ['0', 'x'] ++ chars from rfl, whole]
  change ((host.unsigned 16 (afterBase 16 ('0' :: 'x' :: chars))).map fun value => (value : ℤ)) = _
  rw [after, unsigned]
  rfl

end Host

/-- A host that knows ASCII only, and whose other functions give nothing. -/
def asciiHost : Host where
  str _ := ""
  addFloat first _ := first
  toFloat number := some (.finite number)
  digit _ := none
  space _ := false
  loads _ := .error .digits
  loadsText _ := .error .digits
  jsonErrorText _ := ""
  decode _ := .ok ""
  encode text := text.toUTF8.toList
  decodeBase64 _ := none
  blake2b _ := []
  frames := 900

/-- `str.strip` drops a separator of ASCII, and `int` refuses it. -/
example : asciiHost.strip "\x1c5" = ['5'] ∧ asciiHost.parseInt 10 "\x1c5" = none := by decide

end ProviderSimulator.Python
