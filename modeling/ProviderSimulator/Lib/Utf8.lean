/-
**UTF-8 over lists of bytes.**

`encode` gives the bytes of a text, and `decode` reads bytes that are a text, or nothing. `decodeReplace`
reads any bytes: where no character starts, the longest beginning of one, and at least one byte, becomes the
replacement character.

* `decode_eq_some_iff` — `decode` gives a text exactly for its own bytes;
* `encode_injective` — two texts have the same bytes only if they are equal;
* `decodeReplace_encode` — the bytes of a text are read as this text.

The steps of one character are those of the standard library.
-/

import Mathlib.Tactic.Common

namespace ProviderSimulator.Lib.Utf8

/-! ### One character -/

/-- The character that the bytes start with. -/
def decodeChar (bytes : List UInt8) : Option Char := bytes.toByteArray.utf8DecodeChar? 0

theorem decodeChar_append (char : Char) (rest : List UInt8) :
    decodeChar (String.utf8EncodeChar char ++ rest) = some char := by
  unfold decodeChar
  rw [List.toByteArray_append]
  exact ByteArray.utf8DecodeChar?_utf8EncodeChar_append

theorem eq_append_of_decodeChar {bytes : List UInt8} {char : Char} (starts : decodeChar bytes = some char) :
    bytes = String.utf8EncodeChar char ++ bytes.drop char.utf8Size := by
  obtain ⟨rest, same⟩ := ByteArray.exists_of_utf8DecodeChar?_eq_some starts
  have lists : bytes = String.utf8EncodeChar char ++ rest.data.toList := by
    have arrays := congrArg (fun array : ByteArray => array.data.toList) same
    simpa using arrays
  have width : (String.utf8EncodeChar char).length = char.utf8Size := String.length_utf8EncodeChar char
  rw [lists, ← width, List.drop_left]

/-! ### Texts -/

/-- The bytes of characters. -/
def encodeChars (chars : List Char) : List UInt8 := chars.flatMap String.utf8EncodeChar

/-- The bytes of a text. -/
def encode (text : String) : List UInt8 := encodeChars text.toList

/-- The characters that the bytes are, or nothing. The count is at least the number of bytes. -/
def decodeChars : ℕ → List UInt8 → Option (List Char)
  | _, [] => some []
  | 0, _ :: _ => none
  | count + 1, bytes =>
      match decodeChar bytes with
      | some char => (decodeChars count (bytes.drop char.utf8Size)).map (char :: ·)
      | none => none

/-- The text that the bytes are, or nothing. -/
def decode (bytes : List UInt8) : Option String := (decodeChars bytes.length bytes).map String.ofList

theorem encodeChars_cons (char : Char) (rest : List Char) :
    encodeChars (char :: rest) = String.utf8EncodeChar char ++ encodeChars rest := rfl

theorem encode_append (front back : String) : encode (front ++ back) = encode front ++ encode back := by
  unfold encode encodeChars
  rw [String.toList_append, List.flatMap_append]

theorem drop_encodeChar (char : Char) (rest : List UInt8) :
    (String.utf8EncodeChar char ++ rest).drop char.utf8Size = rest := by
  rw [← String.length_utf8EncodeChar, List.drop_left]

/-- Each character of a text takes at least one byte. -/
theorem length_encodeChars_cons (char : Char) (rest : List Char) :
    (encodeChars rest).length < (encodeChars (char :: rest)).length := by
  have positive := char.utf8Size_pos
  rw [encodeChars_cons, List.length_append, String.length_utf8EncodeChar]
  omega

theorem decodeChars_of_char {bytes : List UInt8} {char : Char} (starts : decodeChar bytes = some char) (count : ℕ) :
    decodeChars (count + 1) bytes = (decodeChars count (bytes.drop char.utf8Size)).map (char :: ·) := by
  cases bytes with
  | nil => cases starts
  | cons first rest =>
      rw [decodeChars, starts]
      exact nofun

theorem decodeChars_encodeChars (chars : List Char) (count : ℕ) (enough : (encodeChars chars).length ≤ count) :
    decodeChars count (encodeChars chars) = some chars := by
  induction chars generalizing count with
  | nil => cases count <;> rfl
  | cons char rest ih =>
      have shorter := length_encodeChars_cons char rest
      cases count with
      | zero => omega
      | succ count =>
          rw [encodeChars_cons, decodeChars_of_char (decodeChar_append char (encodeChars rest)), drop_encodeChar,
            ih count (by omega)]
          rfl

theorem eq_encodeChars_of_decodeChars {count : ℕ} {bytes : List UInt8} {chars : List Char}
    (reads : decodeChars count bytes = some chars) : bytes = encodeChars chars := by
  induction count generalizing bytes chars with
  | zero =>
      cases bytes with
      | nil =>
          cases reads
          rfl
      | cons first rest => cases reads
  | succ count ih =>
      cases bytes with
      | nil =>
          cases reads
          rfl
      | cons first rest =>
          unfold decodeChars at reads
          split at reads
          · next char starts =>
              obtain ⟨others, later, rfl⟩ := Option.map_eq_some_iff.mp reads
              rw [encodeChars_cons, ← ih later]
              exact eq_append_of_decodeChar starts
          · cases reads

theorem decode_encode (text : String) : decode (encode text) = some text := by
  unfold decode encode
  rw [decodeChars_encodeChars _ _ (Nat.le_refl _), Option.map_some, String.ofList_toList]

/-- **`decode` gives a text exactly for its own bytes.** -/
theorem decode_eq_some_iff {bytes : List UInt8} {text : String} : decode bytes = some text ↔ bytes = encode text := by
  constructor
  · intro reads
    obtain ⟨chars, found, rfl⟩ := Option.map_eq_some_iff.mp reads
    unfold encode
    rw [String.toList_ofList]
    exact eq_encodeChars_of_decodeChars found
  · rintro rfl
    exact decode_encode text

theorem encode_injective : Function.Injective encode := by
  intro first second same
  have reads := decode_encode second
  rw [← same, decode_encode] at reads
  exact Option.some.inj reads

/-- **A beginning of the bytes that is a text** is a beginning of the text. -/
theorem isPrefix_of_encodeChars {front whole : List Char} (starts : encodeChars front <+: encodeChars whole) :
    front <+: whole := by
  induction front generalizing whole with
  | nil => exact List.nil_prefix
  | cons char front ih =>
      obtain ⟨rest, same⟩ := starts
      cases whole with
      | nil =>
          have longer := length_encodeChars_cons char front
          have empty := (List.append_eq_nil_iff.mp same).1
          rw [empty] at longer
          cases longer
      | cons other whole =>
          rw [encodeChars_cons, encodeChars_cons, List.append_assoc] at same
          have first := congrArg decodeChar same
          rw [decodeChar_append, decodeChar_append] at first
          obtain rfl : char = other := Option.some.inj first
          exact List.prefix_cons_inj char |>.mpr (ih ⟨rest, List.append_cancel_left same⟩)

/-- A byte of a character that is one of ASCII is the whole character. -/
theorem toNat_of_mem_encodeChar {char : Char} {byte : UInt8} (member : byte ∈ String.utf8EncodeChar char)
    (ascii : byte.toNat < 128) : char.toNat = byte.toNat := by
  have value : char.toNat = char.val.toNat := rfl
  unfold String.utf8EncodeChar at member
  dsimp only at member
  split at member
  · next small =>
      have is := List.mem_singleton.mp member
      rw [is, UInt8.toNat_ofNat']
      omega
  · split at member
    · simp only [List.mem_cons, List.not_mem_nil, or_false] at member
      rcases member with rfl | rfl <;> rw [UInt8.toNat_ofNat'] at ascii <;> omega
    · split at member
      · simp only [List.mem_cons, List.not_mem_nil, or_false] at member
        rcases member with rfl | rfl | rfl <;> rw [UInt8.toNat_ofNat'] at ascii <;> omega
      · simp only [List.mem_cons, List.not_mem_nil, or_false] at member
        rcases member with rfl | rfl | rfl | rfl <;> rw [UInt8.toNat_ofNat'] at ascii <;> omega

/-- A byte of a text that is one of ASCII is one of its characters. -/
theorem exists_mem_of_mem_encode {text : String} {byte : UInt8} (member : byte ∈ encode text)
    (ascii : byte.toNat < 128) : ∃ char ∈ text.toList, char.toNat = byte.toNat := by
  obtain ⟨char, inside, found⟩ := List.mem_flatMap.mp member
  exact ⟨char, inside, toNat_of_mem_encodeChar found ascii⟩

/-! ### Any bytes -/

/-- Can the byte follow the first one of a character? -/
def continues (byte : UInt8) : Bool := 0x80 ≤ byte && byte ≤ 0xBF

/-- Can the two bytes start a character of three or four bytes? -/
def begins (first second : UInt8) : Bool :=
  continues second &&
    ((first = 0xE0 && 0xA0 ≤ second) || (first = 0xED && second ≤ 0x9F) ||
      (0xE1 ≤ first && first ≤ 0xEF && first ≠ 0xED) || (first = 0xF0 && 0x90 ≤ second) ||
      (0xF1 ≤ first && first ≤ 0xF3) || (first = 0xF4 && second ≤ 0x8F))

/-- How many bytes one replacement character stands for, where no character starts. -/
def badWidth : List UInt8 → ℕ
  | first :: second :: rest =>
      if begins first second then
        match rest with
        | third :: _ => if 0xF0 ≤ first && continues third then 3 else 2
        | [] => 2
      else 1
  | _ => 1

/-- The characters of any bytes. The count is at least the number of bytes. -/
def replaceChars : ℕ → List UInt8 → List Char
  | _, [] => []
  | 0, _ :: _ => []
  | count + 1, bytes =>
      match decodeChar bytes with
      | some char => char :: replaceChars count (bytes.drop char.utf8Size)
      | none => '\uFFFD' :: replaceChars count (bytes.drop (badWidth bytes))

/-- The text of any bytes. -/
def decodeReplace (bytes : List UInt8) : String := String.ofList (replaceChars bytes.length bytes)

theorem replaceChars_of_char {bytes : List UInt8} {char : Char} (starts : decodeChar bytes = some char) (count : ℕ) :
    replaceChars (count + 1) bytes = char :: replaceChars count (bytes.drop char.utf8Size) := by
  cases bytes with
  | nil => cases starts
  | cons first rest =>
      rw [replaceChars, starts]
      exact nofun

theorem replaceChars_encodeChars (chars : List Char) (count : ℕ) (enough : (encodeChars chars).length ≤ count) :
    replaceChars count (encodeChars chars) = chars := by
  induction chars generalizing count with
  | nil => cases count <;> rfl
  | cons char rest ih =>
      have shorter := length_encodeChars_cons char rest
      cases count with
      | zero => omega
      | succ count =>
          rw [encodeChars_cons, replaceChars_of_char (decodeChar_append char (encodeChars rest)), drop_encodeChar,
            ih count (by omega)]

/-- **The bytes of a text are read as this text.** -/
theorem decodeReplace_encode (text : String) : decodeReplace (encode text) = text := by
  unfold decodeReplace encode
  rw [replaceChars_encodeChars _ _ (Nat.le_refl _), String.ofList_toList]

theorem eq_encodeChars_of_replaceChars {count : ℕ} {bytes : List UInt8} {chars : List Char} (enough : bytes.length ≤ count)
    (plain : '\uFFFD' ∉ chars) (reads : replaceChars count bytes = chars) : bytes = encodeChars chars := by
  induction count generalizing bytes chars with
  | zero =>
      cases bytes with
      | nil =>
          cases reads
          rfl
      | cons first rest => exact absurd enough (Nat.not_succ_le_zero _)
  | succ count ih =>
      cases bytes with
      | nil =>
          cases reads
          rfl
      | cons first rest =>
          unfold replaceChars at reads
          split at reads
          · next char starts =>
              have positive := char.utf8Size_pos
              have shorter : ((first :: rest).drop char.utf8Size).length ≤ count := by
                rw [List.length_drop]
                omega
              cases reads
              rw [encodeChars_cons, ← ih shorter (fun member => plain (List.mem_cons_of_mem _ member)) rfl]
              exact eq_append_of_decodeChar starts
          · cases reads
            exact absurd List.mem_cons_self plain

/-- A text without a replacement character is read from its own bytes only. -/
theorem decodeReplace_eq_iff {text : String} (plain : '\uFFFD' ∉ text.toList) {bytes : List UInt8} :
    decodeReplace bytes = text ↔ bytes = encode text := by
  constructor
  · intro reads
    refine eq_encodeChars_of_replaceChars (Nat.le_refl _) plain ?_
    rw [← reads]
    exact String.toList_ofList.symm
  · rintro rfl
    exact decodeReplace_encode text

end ProviderSimulator.Lib.Utf8
