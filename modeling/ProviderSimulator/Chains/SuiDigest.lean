/-
**base58 is a bijection.**

`base58_encode` and `base58_decode` change the base of a number and handle what stands in front apart: a
zero byte is a `1`, and a `1` is a zero byte. The decoder takes as many bytes as the number has, by its
`bit_length`. Both are `Radix.rebase` between the bases 256 and 58, seen through bytes and through the
alphabet, so each one undoes the other.

* `encode_eq` and `decode_eq` — the two conversions by `rebase`;
* `base58_bijection` — the round trips, what the decoder refuses, and which texts are transaction digests.
-/

import Mathlib.Tactic.Common
import Mathlib.Data.Nat.Size
import ProviderSimulator.Chains.Sui
import ProviderSimulator.Lib.Radix

namespace ProviderSimulator.Chains.Sui

open ProviderSimulator.Lib ProviderSimulator.Python

/-- `DIGEST_LENGTH`. -/
def digestLength : ℕ := 32

/-- The `ValueError` of `base58_decode`, with the character that it names. -/
structure Base58Error where
  char : Char
  deriving DecidableEq

/-- The text of the exception, where `repr` is the function of the language. -/
def Base58Error.text (repr : Value → String) (error : Base58Error) : String :=
  "not a base58 character: " ++ repr (.str (String.singleton error.char))

/-- `_INDEX.get(char)`. -/
def indexOf (char : Char) : Option ℕ := alphabet.idxOf? char

/-- The loop of `base58_decode`. -/
def base58Number : List Char → ℕ → Except Base58Error ℕ
  | [], number => .ok number
  | char :: rest, number =>
      match indexOf char with
      | none => .error ⟨char⟩
      | some index => base58Number rest (number * 58 + index)

/-- `number.to_bytes(length, "big")`, for a number that fits. -/
def toBytes (length number : ℕ) : Bytes := (Radix.places 256 length number).map UInt8.ofNat

/-- `base58_decode`. -/
def base58Decode (text : String) : Except Base58Error Bytes := do
  let number ← base58Number text.toList 0
  let leadingOnes := (text.toList.takeWhile fun char => char = '1').length
  let body := toBytes ((number.size + 7) / 8) number
  pure (List.replicate leadingOnes 0 ++ body)

/-- `is_valid_transaction_digest`. -/
def isValidTransactionDigest (value : String) : Bool :=
  match base58Decode value with
  | .ok data => data.length = digestLength
  | .error _ => false

/-! ### The alphabet -/

/-- The character of a digit. -/
def letter (digit : ℕ) : Char := alphabet.getD digit '1'

theorem alphabet_length : alphabet.length = 58 := by decide +kernel

theorem letter_zero : letter 0 = '1' := by decide +kernel

theorem indexOf_letter {digit : ℕ} (valid : digit < 58) : indexOf (letter digit) = some digit := by
  revert digit
  decide +kernel

theorem indexOf_eq_some {char : Char} {digit : ℕ} (found : indexOf char = some digit) :
    digit < 58 ∧ letter digit = char := by
  unfold indexOf at found
  obtain ⟨bound, here, -⟩ := List.idxOf?_eq_some_iff.mp found
  refine ⟨alphabet_length ▸ bound, ?_⟩
  unfold letter
  rw [List.getD_eq_getElem?_getD, List.getElem?_eq_getElem bound]
  exact here

theorem indexOf_eq_none_iff {char : Char} : indexOf char = none ↔ char ∉ alphabet :=
  List.idxOf?_eq_none_iff

/-- A text over the alphabet is the text of its digits. -/
theorem exists_digits {chars : List Char} (valid : ∀ char ∈ chars, char ∈ alphabet) :
    ∃ digits, Radix.Digits 58 digits ∧ chars = digits.map letter := by
  induction chars with
  | nil => exact ⟨[], nofun, rfl⟩
  | cons char rest ih =>
      obtain ⟨digits, low, rfl⟩ := ih fun other member => valid other (List.mem_cons_of_mem _ member)
      cases found : indexOf char with
      | none => exact absurd (valid char List.mem_cons_self) (indexOf_eq_none_iff.mp found)
      | some digit =>
          obtain ⟨bound, rfl⟩ := indexOf_eq_some found
          exact ⟨digit :: digits, List.forall_mem_cons.mpr ⟨bound, low⟩, rfl⟩

/-! ### The loop of the decoder -/

theorem base58Number_letters {digits : List ℕ} (valid : Radix.Digits 58 digits) (number : ℕ) :
    base58Number (digits.map letter) number =
      .ok (digits.foldl (fun value digit => value * 58 + digit) number) := by
  induction digits generalizing number with
  | nil => rfl
  | cons digit rest ih =>
      rw [List.map_cons, List.foldl_cons, base58Number, indexOf_letter (valid digit List.mem_cons_self)]
      exact ih (fun other member => valid other (List.mem_cons_of_mem _ member)) _

/-- **The loop raises for a character outside the alphabet, and for no other reason.** -/
theorem base58Number_error_iff {chars : List Char} {number : ℕ} :
    (∃ error, base58Number chars number = .error error) ↔ ∃ char ∈ chars, char ∉ alphabet := by
  induction chars generalizing number with
  | nil => simp [base58Number]
  | cons char rest ih =>
      rw [base58Number]
      cases found : indexOf char with
      | none => simp [indexOf_eq_none_iff.mp found]
      | some digit =>
          have inside : char ∈ alphabet := by
            by_contra outside
            rw [indexOf_eq_none_iff.mpr outside] at found
            cases found
          simpa [inside] using ih

/-! ### Bytes -/

/-- Bytes as digits. -/
def digitsOf (data : Bytes) : List ℕ := data.map UInt8.toNat

theorem digitsOf_valid (data : Bytes) : Radix.Digits 256 (digitsOf data) := by
  intro digit member
  obtain ⟨byte, -, rfl⟩ := List.mem_map.mp member
  exact byte.toNat_lt

theorem ofNat_digitsOf (data : Bytes) : (digitsOf data).map UInt8.ofNat = data := by
  unfold digitsOf
  rw [List.map_map]
  exact (List.map_congr_left fun byte _ => UInt8.ofNat_toNat).trans (List.map_id data)

theorem digitsOf_ofNat {digits : List ℕ} (valid : Radix.Digits 256 digits) :
    digitsOf (digits.map UInt8.ofNat) = digits := by
  unfold digitsOf
  rw [List.map_map]
  refine (List.map_congr_left fun digit member => ?_).trans (List.map_id digits)
  exact UInt8.toNat_ofNat_of_lt' (valid digit member)

/-- The bytes that `bit_length` asks for are the digits of the number. -/
theorem toBytes_bitLength (number : ℕ) :
    toBytes ((number.size + 7) / 8) number = (Nat.digits 256 number).reverse.map UInt8.ofNat := by
  have power : ∀ count : ℕ, (256 : ℕ) ^ count = 2 ^ (8 * count) := fun count => by
    rw [pow_mul]
    rfl
  have most : number < 256 ^ (Nat.digits 256 number).length := Nat.lt_base_pow_length_digits (by decide)
  have length : (number.size + 7) / 8 = (Nat.digits 256 number).length := by
    have upper : number.size ≤ 8 * (Nat.digits 256 number).length := by
      rw [Nat.size_le, ← power]
      exact most
    have lower : (Nat.digits 256 number).length ≤ (number.size + 7) / 8 := by
      rw [Nat.digits_length_le_iff (by decide), power]
      exact lt_of_lt_of_le (Nat.lt_size_self number) (Nat.pow_le_pow_right (by decide) (by omega))
    omega
  unfold toBytes
  rw [length, Radix.places_digits_length (by decide)]

/-! ### Both conversions -/

/-- **The encoder changes the base from 256 to 58.** -/
theorem encode_eq (data : Bytes) :
    base58Encode data = String.ofList ((Radix.rebase 256 58 (digitsOf data)).map letter) := by
  have front : (data.takeWhile fun byte => byte = 0).length = Radix.zeros (digitsOf data) := by
    unfold Radix.zeros digitsOf
    rw [List.takeWhile_map, List.length_map]
    refine congrArg (fun kept => (List.takeWhile kept data).length) (funext fun byte => ?_)
    show decide (byte = 0) = decide (byte.toNat = 0)
    exact decide_eq_decide.mpr ⟨fun same => by rw [same]; rfl, fun same => UInt8.toNat_inj.mp same⟩
  have whole : fromBytes data = Radix.number 256 (digitsOf data) := by
    unfold fromBytes Radix.number digitsOf
    rw [List.foldl_map]
  unfold base58Encode Radix.rebase
  rw [front, whole, List.map_append, List.map_replicate, letter_zero]
  rfl

/-- **The decoder changes the base from 58 to 256.** -/
theorem decode_eq {digits : List ℕ} (valid : Radix.Digits 58 digits) :
    base58Decode (String.ofList (digits.map letter)) =
      .ok ((Radix.rebase 58 256 digits).map UInt8.ofNat) := by
  have front : ((digits.map letter).takeWhile fun char => char = '1').length = Radix.zeros digits := by
    unfold Radix.zeros
    induction digits with
    | nil => rfl
    | cons digit rest ih =>
        have bound := valid digit List.mem_cons_self
        have rest := ih fun other member => valid other (List.mem_cons_of_mem _ member)
        have first : (letter digit = '1') ↔ digit = 0 := by
          constructor
          · intro one
            have found := indexOf_letter bound
            rw [one] at found
            exact (Option.some.inj found).symm
          · rintro rfl
            exact letter_zero
        rw [List.map_cons, List.takeWhile_cons, List.takeWhile_cons]
        by_cases zero : digit = 0
        · rw [decide_eq_true zero, decide_eq_true (first.mpr zero)]
          exact congrArg (· + 1) rest
        · rw [decide_eq_false zero, decide_eq_false fun one => zero (first.mp one)]
          rfl
  unfold base58Decode
  rw [String.toList_ofList, base58Number_letters valid]
  show Except.ok _ = _
  rw [toBytes_bitLength, front]
  unfold Radix.rebase
  rw [List.map_append, List.map_replicate]
  rfl

theorem decode_encode (data : Bytes) : base58Decode (base58Encode data) = .ok data := by
  rw [encode_eq, decode_eq (Radix.rebase_digits (by decide) _), Radix.rebase_rebase (by decide) (digitsOf_valid data),
    ofNat_digitsOf]

theorem encode_decode {text : String} (valid : ∀ char ∈ text.toList, char ∈ alphabet) :
    ∃ data, base58Decode text = .ok data ∧ base58Encode data = text := by
  obtain ⟨digits, low, chars⟩ := exists_digits valid
  have same : text = String.ofList (digits.map letter) := by rw [← chars, String.ofList_toList]
  refine ⟨_, by rw [same]; exact decode_eq low, ?_⟩
  rw [encode_eq, digitsOf_ofNat (Radix.rebase_digits (by decide) _), Radix.rebase_rebase (by decide) low, same]

theorem decode_error_iff {text : String} :
    (∃ error, base58Decode text = .error error) ↔ ∃ char ∈ text.toList, char ∉ alphabet := by
  have loop : (∃ error, base58Number text.toList 0 = .error error) ↔ _ := base58Number_error_iff
  rw [← loop]
  unfold base58Decode
  cases base58Number text.toList 0 with
  | ok number => constructor <;> exact nofun
  | error error => exact ⟨fun _ => ⟨error, rfl⟩, fun _ => ⟨error, rfl⟩⟩

/-! ### Transaction digests -/

theorem isValid_iff {value : String} :
    isValidTransactionDigest value = true ↔ ∃ data, base58Decode value = .ok data ∧ data.length = digestLength := by
  unfold isValidTransactionDigest
  cases base58Decode value with
  | ok data => simp
  | error error => simp

theorem isValid_encode {data : Bytes} (length : data.length = digestLength) :
    isValidTransactionDigest (base58Encode data) = true :=
  isValid_iff.mpr ⟨data, decode_encode data, length⟩

/-- **base58 is a bijection** between byte strings and texts over its alphabet, the decoder raises for the
other texts, and the transaction digests are the texts of the byte strings of 32 bytes. -/
theorem base58_bijection :
    (∀ data : Bytes, base58Decode (base58Encode data) = .ok data) ∧
      (∀ text : String, (∀ char ∈ text.toList, char ∈ alphabet) →
        ∃ data, base58Decode text = .ok data ∧ base58Encode data = text) ∧
      (∀ text : String, (∃ error, base58Decode text = .error error) ↔ ∃ char ∈ text.toList, char ∉ alphabet) ∧
      (∀ value : String, isValidTransactionDigest value = true ↔
        ∃! data : Bytes, data.length = digestLength ∧ base58Encode data = value) ∧
      ∀ host : Host, (∀ data, (host.blake2b data).length = digestLength) →
        ∀ data, isValidTransactionDigest (transactionDigest host data) = true := by
  refine ⟨decode_encode, fun text valid => encode_decode valid, fun text => decode_error_iff, fun value => ?_,
    fun host length data => isValid_encode (length _)⟩
  constructor
  · intro valid
    obtain ⟨data, decoded, length⟩ := isValid_iff.mp valid
    have inside : ∀ char ∈ value.toList, char ∈ alphabet := by
      by_contra outside
      push Not at outside
      obtain ⟨error, raised⟩ := decode_error_iff.mpr outside
      rw [decoded] at raised
      cases raised
    obtain ⟨same, again, encoded⟩ := encode_decode inside
    rw [decoded] at again
    cases again
    refine ⟨data, ⟨length, encoded⟩, ?_⟩
    rintro other ⟨-, rfl⟩
    rw [decode_encode] at decoded
    exact Except.ok.inj decoded
  · rintro ⟨data, ⟨length, rfl⟩, -⟩
    exact isValid_encode length

/-- The blake2b-256 hash of the tag `TransactionData::` with no data behind it. -/
def emptyHash : Bytes :=
  [143, 136, 47, 8, 41, 31, 160, 113, 61, 139, 206, 253, 111, 130, 198, 38, 38, 208, 207, 110, 239, 180, 34, 102,
    0, 145, 152, 190, 190, 24, 79, 167]

/-- A host that gives that hash. The digest reads nothing else of it. -/
def emptyHashHost : Host where
  str _ := ""
  addFloat first _ := first
  toFloat number := some (.finite number)
  digit _ := none
  space _ := false
  loads _ := .error (.badJson "" 1 1)
  loadsText _ := .error (.badJson "" 1 1)
  jsonErrorText _ := ""
  decode _ := .ok ""
  encode text := text.toUTF8.toList
  decodeBase64 _ := none
  blake2b _ := emptyHash
  frames := 900

/-- Zero bytes in front, and the digest of no data. -/
theorem base58_bijection_empty :
    base58Decode (base58Encode [0, 0, 255]) = .ok [0, 0, 255] ∧
      isValidTransactionDigest (transactionDigest emptyHashHost []) = true :=
  ⟨base58_bijection.1 _, base58_bijection.2.2.2.2 emptyHashHost (fun _ => rfl) []⟩

end ProviderSimulator.Chains.Sui
