/-
**An HTTP message with a length.**

A message is a head whose `Content-Length` says how many bytes of body follow it. A reader that does not have all of
them yet has no message.

* `readMessage` — the message in front of bytes;
* `readMessage_append` — **bytes that arrive later never change a message that was read**, so no part of the bytes of a
  message is one (`readMessage_part`);
* `readHead_write` — a head that is written, and whatever follows it;
* `readDecimal_write` — the decimal digits of a number stand for it.
-/

import Mathlib.Tactic.Common
import ProviderSimulator.Lib.HttpHead
import ProviderSimulator.Lib.Radix

namespace ProviderSimulator.Lib.HttpMessage

open HttpHead

/-! ### More bytes -/

theorem takeLine_more {bytes line rest : List UInt8} (found : takeLine bytes = some (line, rest)) (more : List UInt8) :
    takeLine (bytes ++ more) = some (line, rest ++ more) := by
  obtain ⟨split, clean⟩ := takeLine_spec found
  rw [split, List.append_assoc]
  exact takeLine_append clean (rest ++ more)

theorem takeLines_more {count larger : ℕ} {bytes rest : List UInt8} {lines : List (List UInt8)}
    (found : takeLines count bytes = some (lines, rest)) (enough : count ≤ larger) (more : List UInt8) :
    takeLines larger (bytes ++ more) = some (lines, rest ++ more) := by
  induction count generalizing larger bytes lines with
  | zero => cases found
  | succ count ih =>
      obtain ⟨larger, rfl⟩ := Nat.exists_eq_succ_of_ne_zero (show larger ≠ 0 by omega)
      rw [takeLines] at found
      split at found
      · cases found
      · next here =>
          cases found
          rw [takeLines, takeLine_more here more]
      · next line rest' given here =>
          obtain ⟨⟨lines', rest''⟩, later, same⟩ := Option.map_eq_some_iff.mp found
          cases same
          rw [takeLines, takeLine_more here more]
          cases line with
          | nil => exact absurd rfl given
          | cons byte line =>
              dsimp only
              rw [ih later (by omega)]
              rfl

theorem readHead_append {bytes : List UInt8} {head : Head} (found : readHead bytes = some head) (more : List UInt8) :
    readHead (bytes ++ more) = some { head with rest := head.rest ++ more } := by
  unfold readHead at found ⊢
  obtain ⟨⟨lines, rest⟩, taken, read⟩ := Option.bind_eq_some_iff.mp found
  have longer : bytes.length ≤ (bytes ++ more).length := by
    rw [List.length_append]
    exact Nat.le_add_right _ _
  rw [takeLines_more taken longer more]
  cases lines with
  | nil => cases read
  | cons start lines =>
      obtain ⟨fields, split, same⟩ := Option.bind_eq_some_iff.mp read
      cases same
      refine Option.bind_eq_some_iff.mpr ⟨_, rfl, ?_⟩
      exact Option.bind_eq_some_iff.mpr ⟨fields, split, rfl⟩

/-! ### Numbers and names -/

/-- The number that decimal digits stand for. -/
def readDecimal (bytes : List UInt8) : Option ℕ :=
  if bytes ≠ [] ∧ (bytes.all fun byte => 48 ≤ byte && byte ≤ 57) = true then
    some (Radix.number 10 (bytes.map fun byte => byte.toNat - 48))
  else none

/-- The decimal digits of a number. -/
def writeDecimal (number : ℕ) : List UInt8 := (Nat.toDigits 10 number).map fun char => UInt8.ofNat char.toNat

/-- A digit that is written stands for itself. -/
theorem digit_byte {digit : ℕ} (small : digit < 10) :
    48 ≤ UInt8.ofNat digit.digitChar.toNat ∧ UInt8.ofNat digit.digitChar.toNat ≤ 57 ∧
      (UInt8.ofNat digit.digitChar.toNat).toNat - 48 = digit := by
  interval_cases digit <;> decide

/-- **The decimal digits of a number stand for it.** -/
theorem readDecimal_write (number : ℕ) : readDecimal (writeDecimal number) = some number := by
  have digits : (∀ byte ∈ writeDecimal number, 48 ≤ byte ∧ byte ≤ 57) ∧
      Radix.number 10 ((writeDecimal number).map fun byte => byte.toNat - 48) = number := by
    induction number using Nat.strong_induction_on with
    | _ number ih =>
        unfold writeDecimal
        rw [Nat.toDigits_eq_if (by decide)]
        by_cases last : number < 10
        · obtain ⟨low, high, same⟩ := digit_byte last
          rw [if_pos last]
          refine ⟨fun byte member => ?_, ?_⟩
          · rw [List.map_singleton, List.mem_singleton] at member
            subst member
            exact ⟨low, high⟩
          · simp only [List.map_singleton, same]
            simp [Radix.number]
        · obtain ⟨low, high, same⟩ := digit_byte (Nat.mod_lt number (by decide))
          obtain ⟨front, value⟩ := ih (number / 10) (Nat.div_lt_self (by omega) (by decide))
          rw [if_neg last, List.map_append, List.map_singleton]
          refine ⟨fun byte member => ?_, ?_⟩
          · rcases List.mem_append.mp member with earlier | unit
            · exact front byte earlier
            · rw [List.mem_singleton] at unit
              subst unit
              exact ⟨low, high⟩
          · rw [List.map_append, List.map_singleton, same, Radix.number_append]
            unfold writeDecimal at value
            rw [value, Nat.div_add_mod']
  have given : writeDecimal number ≠ [] := by
    unfold writeDecimal
    rw [Ne, List.map_eq_nil_iff]
    exact Nat.toDigits_ne_nil
  have shown : ((writeDecimal number).all fun byte => 48 ≤ byte && byte ≤ 57) = true := by
    refine List.all_eq_true.mpr fun byte member => ?_
    obtain ⟨low, high⟩ := digits.1 byte member
    exact Bool.and_eq_true_iff.mpr ⟨decide_eq_true low, decide_eq_true high⟩
  unfold readDecimal
  rw [if_pos ⟨given, shown⟩, digits.2]

/-- The small letter of a letter. -/
def lowerByte (byte : UInt8) : UInt8 := if 65 ≤ byte ∧ byte ≤ 90 then byte + 32 else byte

/-- `content-length`. -/
def lengthName : List UInt8 := [99, 111, 110, 116, 101, 110, 116, 45, 108, 101, 110, 103, 116, 104]

/-- The length that the fields announce. -/
def contentLength (fields : List (List UInt8 × List UInt8)) : Option ℕ :=
  (fields.find? fun field => field.1.map lowerByte = lengthName).bind fun field => readDecimal field.2

/-! ### Messages -/

/-- A message, and the bytes after it. -/
structure Message where
  start : List UInt8
  fields : List (List UInt8 × List UInt8)
  body : List UInt8
  rest : List UInt8

/-- The message in front of the bytes: none as long as its body is not there as a whole. -/
def readMessage (bytes : List UInt8) : Option Message := do
  let head ← readHead bytes
  let length ← contentLength head.fields
  if length ≤ head.rest.length then
    some ⟨head.start, head.fields, head.rest.take length, head.rest.drop length⟩
  else none

theorem readMessage_of {bytes : List UInt8} {head : Head} {length : ℕ} (found : readHead bytes = some head)
    (announced : contentLength head.fields = some length) :
    readMessage bytes = if length ≤ head.rest.length then
        some ⟨head.start, head.fields, head.rest.take length, head.rest.drop length⟩
      else none := by
  unfold readMessage
  rw [found, Option.bind_eq_bind, Option.bind_some, announced]
  rfl

/-- **Bytes that arrive later** stand after the message. -/
theorem readMessage_append {bytes : List UInt8} {message : Message} (found : readMessage bytes = some message)
    (more : List UInt8) : readMessage (bytes ++ more) = some { message with rest := message.rest ++ more } := by
  have given := found
  unfold readMessage at given
  obtain ⟨head, read, given⟩ := Option.bind_eq_some_iff.mp given
  obtain ⟨length, announced, -⟩ := Option.bind_eq_some_iff.mp given
  rw [readMessage_of read announced] at found
  rw [readMessage_of (readHead_append read more) announced]
  split at found
  · next enough =>
      cases found
      dsimp only
      rw [List.length_append, if_pos (by omega), List.take_append_of_le_length enough,
        List.drop_append_of_le_length enough]
  · cases found

/-- **No part of a message is one.** -/
theorem readMessage_part {bytes part : List UInt8} {message : Message} (found : readMessage bytes = some message)
    (whole : message.rest = []) (starts : part <+: bytes) (proper : part ≠ bytes) : readMessage part = none := by
  obtain ⟨more, rfl⟩ := starts
  cases early : readMessage part with
  | none => rfl
  | some first =>
      rw [readMessage_append early more] at found
      cases found
      have empty : more = [] := (List.append_eq_nil_iff.mp whole).2
      exact absurd (by rw [empty, List.append_nil]) proper

section

variable {start : List UInt8} {fields : List (List UInt8 × List UInt8)}

/-- A head that is written, and what follows it. -/
theorem readHead_write (given : start ≠ []) (unbroken : NoBreak start)
    (clean : ∀ field ∈ fields, 58 ∉ field.1 ∧ NoBreak (fieldLine field)) (rest : List UInt8) :
    readHead (writeHead start fields ++ rest) =
      some ⟨start, fields.map fun field => (field.1, trim field.2), rest⟩ :=
  readHead_append (readHead_writeHead given unbroken clean) rest

end

end ProviderSimulator.Lib.HttpMessage
