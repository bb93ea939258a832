/-
**A reply is read back as it was written.**

* `intOf_decimalInt` — `int` reads a number back from its own digits;
* `wire_stands` — the encoding of a value is the value at the front, by induction on the value;
* `reads_back` — the whole statement, and the same for the parts of a command.
-/

import Mathlib.Tactic.Common
import Mathlib.Tactic.NormNum
import ProviderSimulator.RespStore.Front

namespace ProviderSimulator.RespStore

open ProviderSimulator.Lib ProviderSimulator.Python ProviderSimulator.Domain

/-! ### Numbers -/

/-- The byte of a digit. -/
def digitByte (digit : Char) : UInt8 := UInt8.ofNat digit.toNat

theorem digit_range {digit : Char} (is : digit.isDigit = true) : 48 ≤ digit.toNat ∧ digit.toNat ≤ 57 := by
  unfold Char.isDigit at is
  rw [Bool.and_eq_true, decide_eq_true_eq, decide_eq_true_eq] at is
  exact is

theorem digitByte_toNat {digit : Char} (is : digit.isDigit = true) : (digitByte digit).toNat = digit.toNat := by
  have range := digit_range is
  unfold digitByte
  rw [UInt8.toNat_ofNat']
  exact Nat.mod_eq_of_lt (by omega)

theorem digitOf_digitByte {digit : Char} (is : digit.isDigit = true) :
    digitOf (digitByte digit) = some (digit.toNat - 48) := by
  have range := digit_range is
  have number := digitByte_toNat is
  unfold digitOf
  rw [if_pos, number]
  rw [Bool.and_eq_true, decide_eq_true_eq, decide_eq_true_eq, UInt8.le_iff_toNat_le, UInt8.le_iff_toNat_le, number]
  exact range

/-- A byte that no digit is. -/
theorem digitByte_ne {digit : Char} (is : digit.isDigit = true) {byte : UInt8} (other : byte.toNat < 48 ∨ 57 < byte.toNat) :
    digitByte digit ≠ byte := by
  have range := digit_range is
  have number := digitByte_toNat is
  rintro rfl
  omega

theorem digits_digitBytes {chars : List Char} (are : ∀ digit ∈ chars, digit.isDigit = true) (value : ℕ) :
    digits value (chars.map digitByte) = some (Nat.ofDigitChars 10 chars value) := by
  induction chars generalizing value with
  | nil => rw [List.map_nil, digits, Nat.ofDigitChars_nil]
  | cons first rest ih =>
      have here := digitOf_digitByte (are first List.mem_cons_self)
      have later := ih fun digit member => are digit (List.mem_cons_of_mem _ member)
      rw [List.map_cons, Nat.ofDigitChars_cons]
      have turned : 10 * value + (first.toNat - '0'.toNat) = value * 10 + (first.toNat - 48) := by
        rw [Nat.mul_comm]
        rfl
      cases rest with
      | nil =>
          rw [List.map_nil, digits, here, Nat.ofDigitChars_nil, turned]
          rfl
      | cons second others =>
          rw [List.map_cons] at later ⊢
          rw [digits, here, turned]
          exact later _

theorem decimal_eq (number : ℕ) : decimal number = (Nat.toDigits 10 number).map digitByte := rfl

theorem isDigit_of_mem_decimal {number : ℕ} : ∀ digit ∈ Nat.toDigits 10 number, digit.isDigit = true :=
  fun _ member => Nat.isDigit_of_mem_toDigits (by decide) (by decide) member

/-- A byte that is no digit is not in a number. -/
theorem not_mem_decimal {number : ℕ} {byte : UInt8} (other : byte.toNat < 48 ∨ 57 < byte.toNat) :
    byte ∉ decimal number := by
  intro member
  obtain ⟨digit, inside, same⟩ := List.mem_map.mp member
  exact digitByte_ne (isDigit_of_mem_decimal digit inside) other same

theorem not_mem_decimalInt {number : ℤ} {byte : UInt8} (noSign : byte ≠ 45) (other : byte.toNat < 48 ∨ 57 < byte.toNat) :
    byte ∉ decimalInt number := by
  unfold decimalInt
  split
  · intro member
    rcases List.mem_cons.mp member with same | inside
    · exact noSign same
    · exact not_mem_decimal other inside
  · exact not_mem_decimal other

/-- A number of at most 4300 digits. -/
def Short (number : ℕ) : Prop := (Nat.toDigits 10 number).length ≤ 4300

/-- A machine word has no more than 19 digits. -/
theorem short_of_le {number : ℕ} (small : number ≤ 2 ^ 63) : Short number := by
  have within : (Nat.toDigits 10 number).length ≤ 19 := by
    refine (Nat.length_toDigits_le_iff (by decide) (by decide)).mpr (lt_of_le_of_lt small ?_)
    norm_num
  unfold Short
  omega

theorem unsigned_decimal {number : ℕ} (short : Short number) : unsigned (decimal number) = some number := by
  have count : (Nat.toDigits 10 number).length ≤ 4300 := short
  have whole : Nat.ofDigitChars 10 (Nat.toDigits 10 number) 0 = number := Nat.ofDigitChars_ten_toDigits
  have are : ∀ digit ∈ Nat.toDigits 10 number, digit.isDigit = true := isDigit_of_mem_decimal
  rw [decimal_eq]
  cases split : Nat.toDigits 10 number with
  | nil => exact absurd split Nat.toDigits_ne_nil
  | cons first rest =>
      rw [split] at count whole are
      have here := digitOf_digitByte (are first List.mem_cons_self)
      have within : ((first :: rest).map digitByte |>.filter fun other => other ≠ 95).length ≤ 4300 := by
        refine le_trans (List.length_filter_le _ _) ?_
        rwa [List.length_map]
      rw [List.map_cons] at within ⊢
      rw [unsigned, if_neg (Nat.not_lt.mpr within), here]
      dsimp only
      rw [digits_digitBytes fun digit member => are digit (List.mem_cons_of_mem _ member)]
      rw [Nat.ofDigitChars_cons, Nat.mul_zero, Nat.zero_add] at whole
      exact congrArg some whole

theorem strip_plain {bytes : Bytes} (plain : ∀ byte ∈ bytes, isSpace byte = false) : strip bytes = bytes := by
  have keeps : ∀ {list : Bytes}, (∀ byte ∈ list, isSpace byte = false) → list.dropWhile isSpace = list := by
    intro list none
    cases list with
    | nil => rfl
    | cons first rest => rw [List.dropWhile_cons, none first List.mem_cons_self]; rfl
  unfold strip
  rw [keeps plain, keeps fun byte member => plain byte (List.mem_reverse.mp member), List.reverse_reverse]

theorem isSpace_digitByte {digit : Char} (is : digit.isDigit = true) : isSpace (digitByte digit) = false := by
  have range := digit_range is
  have number := digitByte_toNat is
  have noBlank : digitByte digit ≠ 32 := digitByte_ne is (.inl (by decide))
  have above : ¬digitByte digit ≤ 13 := by
    rw [UInt8.le_iff_toNat_le, number]
    show ¬digit.toNat ≤ 13
    omega
  unfold isSpace
  rw [decide_eq_false noBlank, decide_eq_false above, Bool.and_false]
  rfl

theorem strip_decimal (number : ℕ) : strip (decimal number) = decimal number := by
  refine strip_plain fun byte member => ?_
  obtain ⟨digit, inside, rfl⟩ := List.mem_map.mp member
  exact isSpace_digitByte (isDigit_of_mem_decimal digit inside)

theorem strip_minus_decimal (number : ℕ) : strip (45 :: decimal number) = 45 :: decimal number := by
  refine strip_plain fun byte member => ?_
  rcases List.mem_cons.mp member with rfl | inside
  · rfl
  · obtain ⟨digit, found, rfl⟩ := List.mem_map.mp inside
    exact isSpace_digitByte (isDigit_of_mem_decimal digit found)

/-- `int` reads a number from zero on back from its own digits. -/
theorem intOf_decimal {number : ℕ} (short : Short number) : intOf (decimal number) = some (number : ℤ) := by
  have reads := unsigned_decimal short
  have noMinus : (45 : UInt8) ∉ decimal number := not_mem_decimal (.inl (by decide))
  have noPlus : (43 : UInt8) ∉ decimal number := not_mem_decimal (.inl (by decide))
  unfold intOf
  rw [strip_decimal]
  cases split : decimal number with
  | nil =>
      rw [split] at reads
      cases reads
  | cons first rest =>
      rw [split] at reads noMinus noPlus
      dsimp only
      rw [if_neg (List.ne_of_not_mem_cons noMinus).symm, if_neg (List.ne_of_not_mem_cons noPlus).symm, reads]
      rfl

/-- **`int` reads a number back from its own digits.** -/
theorem intOf_decimalInt {number : ℤ} (short : Short number.natAbs) : intOf (decimalInt number) = some number := by
  unfold decimalInt
  split
  · next negative =>
      unfold intOf
      rw [strip_minus_decimal]
      dsimp only
      rw [if_pos rfl, unsigned_decimal short, Option.map_some]
      congr 1
      omega
  · next positive =>
      rw [intOf_decimal short]
      congr 1
      omega

theorem short_of_int64 {number : ℤ} (word : Int64 number) : Short number.natAbs := by
  obtain ⟨low, high⟩ := word
  exact short_of_le (by omega)

/-! ### Replies, by their kinds -/

/-- What stands at the front begins with the first line. -/
theorem front_line {reader : Reader} {line rest : Bytes} (plain : 13 ∉ line)
    (starts : reader.stream = line ++ crlf ++ rest) (room : ℕ) :
    ∃ next, next.stream = rest ∧ Took reader next (line ++ crlf) ∧
      front (room + 1) reader = frontKind (frontItems (front room)) line next := by
  have cut : cutLine reader.stream = some (line, rest) := by
    rw [starts]
    exact cutLine_append plain rest
  obtain ⟨left, took⟩ := skip_append starts
  refine ⟨_, left, took, ?_⟩
  unfold front
  rw [cut, length_line]

section

variable (items : ℕ → Reader → Front (List RespValue)) (reader : Reader)

theorem frontKind_simple {text : String} (oneLine : OneLine text) :
    frontKind items (simpleMark :: Utf8.encode text) reader = .taken (some (.simple text)) reader := by
  show frontSimple (Utf8.encode text) reader = _
  unfold frontSimple
  rw [Utf8.decode_encode]
  exact congrArg (Front.taken · reader) (if_pos oneLine)

theorem frontKind_integer {number : ℤ} (word : Int64 number) :
    frontKind items (integerMark :: decimalInt number) reader = .taken (some (.integer number)) reader := by
  show frontInteger (decimalInt number) reader = _
  unfold frontInteger
  rw [intOf_decimalInt (short_of_int64 word)]
  exact congrArg (Front.taken · reader) (if_pos ⟨rfl, word⟩)

theorem frontKind_nullBulk : frontKind items (bulkMark :: decimalInt (-1)) reader = .taken (some .nullBulk) reader := rfl

theorem frontKind_nullArray : frontKind items (arrayMark :: decimalInt (-1)) reader = .taken (some .nullArray) reader := rfl

theorem header_decimal {length : ℕ} (small : length < 2 ^ 63) : Header (decimal length) length := by
  refine ⟨(decimalInt_natCast length).symm, Int.natCast_nonneg length, ?_⟩
  exact_mod_cast small

theorem frontKind_bulk {content rest : Bytes} (small : content.length < 2 ^ 63)
    (starts : reader.stream = content ++ crlf ++ rest) :
    frontKind items (bulkMark :: decimal content.length) reader =
      .taken (some (.bulk content)) (reader.skip (content ++ crlf).length) := by
  show frontBulk (decimal content.length) reader = _
  have enough : ¬ reader.stream.length < content.length + 2 := by
    rw [starts, ← length_line, Nat.not_lt]
    exact (List.prefix_append _ rest).length_le
  have body : reader.stream.take content.length = content := by
    rw [starts, List.append_assoc, List.take_left]
  have ends : (reader.stream.drop content.length).take 2 = crlf := by
    rw [starts, List.append_assoc, List.drop_left]
    rfl
  unfold frontBulk
  rw [intOf_decimal (short_of_le small.le)]
  dsimp only
  rw [if_neg (by omega), if_neg (by omega), Int.toNat_natCast, if_neg enough, body, length_line]
  exact congrArg (Front.taken · _) (if_pos ⟨header_decimal small, ends⟩)

theorem frontKind_array {count : ℕ} (small : count < 2 ^ 63) :
    frontKind items (arrayMark :: decimal count) reader = (items count reader).keep (Header (decimal count) count) .array := by
  show frontArray items (decimal count) reader = _
  unfold frontArray
  rw [intOf_decimal (short_of_le small.le)]
  dsimp only
  rw [if_neg (by omega), Int.toNat_natCast]

end

/-- The line of a number has no line end inside. -/
theorem plain_line {mark : UInt8} (noMark : mark ≠ 13) {number : ℤ} : 13 ∉ mark :: decimalInt number := by
  intro member
  rcases List.mem_cons.mp member with same | inside
  · exact noMark same.symm
  · exact not_mem_decimalInt (by decide) (.inl (by decide)) inside

/-- The line of a simple string has no line end inside. -/
theorem plain_text {text : String} (oneLine : OneLine text) : 13 ∉ simpleMark :: Utf8.encode text := by
  intro member
  rcases List.mem_cons.mp member with same | inside
  · cases same
  · obtain ⟨char, found, same⟩ := Utf8.exists_mem_of_mem_encode inside (by decide)
    refine oneLine.1 ?_
    rwa [show '\r' = char from Char.toNat_inj.mp same.symm]

/-! ### Values stand at the front -/

/-- The value stands at the front, unless it is nested too deep. -/
def Stands (room : ℕ) (reader : Reader) (value : RespValue) : Prop :=
  (∃ next, front room reader = .taken (some value) next ∧ Took reader next value.wire) ∨
    room < value.depth ∧ front room reader = .broken

theorem depth_pos (value : RespValue) : 1 ≤ value.depth := by
  cases value with
  | array items => exact Nat.le_add_left 1 _
  | _ => exact le_refl 1

/-- A value that one call reads. -/
theorem stands_of_call {reader : Reader} {value : RespValue}
    (reads : ∀ room, ∃ next, front (room + 1) reader = .taken (some value) next ∧ Took reader next value.wire)
    (room : ℕ) : Stands room reader value := by
  cases room with
  | zero => exact .inr ⟨depth_pos value, rfl⟩
  | succ room => exact .inl (reads room)

/-- A value of one line. -/
theorem stands_of_line {reader : Reader} {line rest : Bytes} {value : RespValue} (plain : 13 ∉ line)
    (wire : value.wire = line ++ crlf) (starts : reader.stream = value.wire ++ rest)
    (is : ∀ items next, frontKind items line next = .taken (some value) next) (room : ℕ) : Stands room reader value := by
  rw [wire] at starts
  refine stands_of_call (fun room => ?_) room
  obtain ⟨next, -, took, same⟩ := front_line plain starts room
  refine ⟨next, ?_, wire ▸ took⟩
  rw [same, is]

/-- A bulk string. Its bytes may be any, line ends among them. -/
theorem bulk_stands {content : Bytes} (small : content.length < 2 ^ 63) {reader : Reader} {rest : Bytes}
    (starts : reader.stream = encodePart content ++ rest) (room : ℕ) : Stands room reader (.bulk content) := by
  have plain : 13 ∉ bulkMark :: decimal content.length := by
    rw [← decimalInt_natCast]
    exact plain_line (by decide)
  have split : reader.stream = (bulkMark :: decimal content.length) ++ crlf ++ (content ++ crlf ++ rest) := by
    rw [starts]
    unfold encodePart
    simp only [List.cons_append, List.append_assoc]
  refine stands_of_call (fun room => ?_) room
  obtain ⟨middle, left, took, same⟩ := front_line plain split room
  obtain ⟨-, more⟩ := skip_append left
  refine ⟨middle.skip (content ++ crlf).length, ?_, ?_⟩
  · rw [same]
    exact frontKind_bulk _ middle small left
  · have all := took.trans more
    rw [RespValue.wire, encodePart]
    simpa only [List.cons_append, List.append_assoc] using all

mutual

/-- **The encoding of a value is the value at the front**, by induction on the value. -/
theorem wire_stands (value : RespValue) (valid : value.Valid) (room : ℕ) {reader : Reader} {rest : Bytes}
    (starts : reader.stream = value.wire ++ rest) : Stands room reader value := by
  cases value with
  | simple text =>
      rw [RespValue.Valid] at valid
      refine stands_of_line (plain_text valid) ?_ starts (fun items next => frontKind_simple items next valid) room
      rw [RespValue.wire]
      rfl
  | integer number =>
      rw [RespValue.Valid] at valid
      refine stands_of_line (plain_line (by decide)) ?_ starts (fun items next => frontKind_integer items next valid) room
      rw [RespValue.wire]
      rfl
  | bulk content =>
      rw [RespValue.Valid] at valid
      rw [RespValue.wire] at starts
      exact bulk_stands valid starts room
  | nullBulk =>
      refine stands_of_line (plain_line (by decide)) ?_ starts frontKind_nullBulk room
      rw [RespValue.wire]
      rfl
  | nullArray =>
      refine stands_of_line (plain_line (by decide)) ?_ starts frontKind_nullArray room
      rw [RespValue.wire]
      rfl
  | array items =>
      rw [RespValue.Valid] at valid
      rw [RespValue.wire] at starts
      have plain : 13 ∉ arrayMark :: decimal items.length := by
        rw [← decimalInt_natCast]
        exact plain_line (by decide)
      have split : reader.stream = (arrayMark :: decimal items.length) ++ crlf ++ (wireItems items ++ rest) := by
        rw [starts]
        simp only [List.cons_append, List.append_assoc]
      cases room with
      | zero => exact .inr ⟨depth_pos _, rfl⟩
      | succ room =>
          obtain ⟨middle, left, took, same⟩ := front_line plain split room
          rw [frontKind_array _ middle valid.1] at same
          rcases wireItems_stand items valid.2 room left with ⟨next, reads, later⟩ | ⟨deep, breaks⟩
          · refine .inl ⟨next, ?_, ?_⟩
            · rw [same, reads]
              exact congrArg (Front.taken · next) (if_pos (header_decimal valid.1))
            · have all := took.trans later
              rw [RespValue.wire]
              simpa only [List.cons_append, List.append_assoc] using all
          · refine .inr ⟨Nat.succ_lt_succ deep, ?_⟩
            rw [same, breaks]
            rfl

/-- The encodings of items are the items at the front. -/
theorem wireItems_stand (items : List RespValue) (valid : ValidItems items) (room : ℕ) {reader : Reader}
    {rest : Bytes} (starts : reader.stream = wireItems items ++ rest) :
    (∃ next, frontItems (front room) items.length reader = .taken (some items) next ∧
      Took reader next (wireItems items)) ∨
    room < depthItems items ∧ frontItems (front room) items.length reader = .broken := by
  cases items with
  | nil => exact .inl ⟨reader, rfl, .refl reader⟩
  | cons item others =>
      rw [ValidItems] at valid
      rw [wireItems, List.append_assoc] at starts
      rw [depthItems, List.length_cons, frontItems]
      rcases wire_stands item valid.1 room starts with ⟨middle, first, took⟩ | ⟨deep, breaks⟩
      · have left : middle.stream = wireItems others ++ rest := by
          have whole := took.stream
          rw [starts] at whole
          exact (List.append_cancel_left whole).symm
        rw [first]
        rcases wireItems_stand others valid.2 room left with ⟨next, later, more⟩ | ⟨deep, breaks⟩
        · refine .inl ⟨next, ?_, ?_⟩
          · rw [Front.andThen, later]
            rfl
          · rw [wireItems]
            exact took.trans more
        · refine .inr ⟨lt_of_lt_of_le deep (Nat.le_max_right _ _), ?_⟩
          rw [Front.andThen, breaks]
      · refine .inr ⟨lt_of_lt_of_le deep (Nat.le_max_left _ _), ?_⟩
        rw [breaks]
        rfl

end

/-! ### Commands -/

/-- The value that a command is: an array of its parts. -/
def commandValue (parts : List Bytes) : RespValue := .array (parts.map .bulk)

theorem wireItems_bulks (parts : List Bytes) : wireItems (parts.map .bulk) = parts.flatMap encodePart := by
  induction parts with
  | nil => rfl
  | cons part rest ih =>
      rw [List.map_cons, wireItems, RespValue.wire, ih]
      rfl

/-- A command is the encoding of the array of its parts. -/
theorem wire_commandValue (parts : List Bytes) : (commandValue parts).wire = encode parts := by
  unfold commandValue encode
  rw [RespValue.wire, wireItems_bulks, List.length_map]

theorem toReplies_bulks (parts : List Bytes) : toReplies (parts.map .bulk) = parts.map .bytes := by
  induction parts with
  | nil => rfl
  | cons part rest ih =>
      rw [List.map_cons, toReplies, RespValue.toReply, ih]
      rfl

theorem validItems_bulks {parts : List Bytes} (small : ∀ part ∈ parts, part.length < 2 ^ 63) :
    ValidItems (parts.map .bulk) := by
  induction parts with
  | nil => exact trivial
  | cons part rest ih =>
      rw [List.map_cons, ValidItems, RespValue.Valid]
      exact ⟨small part List.mem_cons_self, ih fun other member => small other (List.mem_cons_of_mem _ member)⟩

theorem depthItems_bulks (parts : List Bytes) : depthItems (parts.map .bulk) ≤ 1 := by
  induction parts with
  | nil => exact Nat.zero_le 1
  | cons part rest ih =>
      rw [List.map_cons, depthItems]
      exact Nat.max_le.mpr ⟨le_refl 1, ih⟩

/-! ### The whole statement -/

/-- No byte string of a command, and not the tuple of them, is longer than a machine word says. -/
def Sizes (parts : List Bytes) : Prop := parts.length < 2 ^ 63 ∧ ∀ part ∈ parts, part.length < 2 ^ 63

instance (parts : List Bytes) : Decidable (Sizes parts) := inferInstanceAs (Decidable (_ ∧ _))

/-- However the encoding of a value and what comes after it are split into pieces, the value is read back, and the
reader keeps what came after it: in its buffer what has been received, and the other pieces as they are. -/
theorem readReply_reads {value : RespValue} (valid : value.Valid) {room : ℕ} (fits : value.depth ≤ room)
    {pieces : List Bytes} (full : ∀ piece ∈ pieces, piece ≠ []) {rest : Bytes} (split : pieces.flatten = value.wire ++ rest)
    (ending : StoreError) :
    ∃ next, readReply room ⟨[], pieces, ending⟩ = .ok (value.toReply, next) ∧
      next.buf ++ next.pieces.flatten = rest ∧ next.pieces <:+ pieces := by
  have live : Reader.Live ⟨[], pieces, ending⟩ := full
  have starts : Reader.stream ⟨[], pieces, ending⟩ = value.wire ++ rest := split
  rcases wire_stands value valid room starts with ⟨next, stands, took⟩ | ⟨deep, -⟩
  · have gives := front_gives room live
    rw [stands] at gives
    obtain ⟨-, reply, reads, same⟩ := gives
    rw [same value rfl] at reads
    refine ⟨next, reads, ?_, took.pieces⟩
    have whole : pieces.flatten = value.wire ++ next.stream := took.stream
    rw [split] at whole
    exact (List.append_cancel_left whole).symm
  · omega

/-- **RESP round trip.** `_read_reply` reads every value back from its standard encoding, whatever comes after it and
however the stream is split, and leaves exactly what comes after it; and it reads the parts of a command back from
`_encode`. -/
theorem reads_back :
    (∀ (value : RespValue) (room : ℕ) (pieces : List Bytes) (rest : Bytes) (ending : StoreError), value.Valid →
      value.depth ≤ room → (∀ piece ∈ pieces, piece ≠ []) → pieces.flatten = value.wire ++ rest →
      ∃ next, readReply room ⟨[], pieces, ending⟩ = .ok (value.toReply, next) ∧
        next.buf ++ next.pieces.flatten = rest ∧ next.pieces <:+ pieces) ∧
    ∀ (parts : List Bytes) (room : ℕ) (pieces : List Bytes) (rest : Bytes) (ending : StoreError), Sizes parts →
      2 ≤ room → (∀ piece ∈ pieces, piece ≠ []) → pieces.flatten = encode parts ++ rest →
      ∃ next, readReply room ⟨[], pieces, ending⟩ = .ok (.list (parts.map .bytes), next) ∧
        next.buf ++ next.pieces.flatten = rest ∧ next.pieces <:+ pieces := by
  constructor
  · intro value room pieces rest ending valid fits full split
    exact readReply_reads valid fits full split ending
  · intro parts room pieces rest ending sizes fits full split
    have valid : (commandValue parts).Valid := by
      rw [commandValue, RespValue.Valid, List.length_map]
      exact ⟨sizes.1, validItems_bulks sizes.2⟩
    have within : (commandValue parts).depth ≤ room := by
      rw [commandValue, RespValue.depth]
      exact le_trans (Nat.succ_le_succ (depthItems_bulks parts)) fits
    have reply : (commandValue parts).toReply = .list (parts.map .bytes) := by
      rw [commandValue, RespValue.toReply, toReplies_bulks]
    rw [← wire_commandValue] at split
    rw [← reply]
    exact readReply_reads valid within full split ending

/-- A reply with a line end and a mark inside a body, a null, and an array inside an array. -/
def nestedValue : RespValue := .array [.bulk [13, 10, 36], .nullBulk, .simple "ok", .array [.integer (-7), .nullArray]]

/-- It comes byte by byte, and the first byte of another reply comes after it. -/
theorem reads_back_nested :
    ∃ next, readReply 3 ⟨[], (nestedValue.wire ++ [58]).map ([·]), .closed⟩ = .ok (nestedValue.toReply, next) ∧
      next.buf ++ next.pieces.flatten = [58] ∧ next.pieces <:+ (nestedValue.wire ++ [58]).map ([·]) := by
  have valid : nestedValue.Valid := by
    unfold nestedValue
    simp only [RespValue.Valid, ValidItems, and_true]
    decide
  have full : ∀ piece ∈ (nestedValue.wire ++ [58]).map ([·]), piece ≠ [] := by
    intro piece member
    obtain ⟨byte, -, rfl⟩ := List.mem_map.mp member
    exact List.cons_ne_nil byte []
  exact reads_back.1 nestedValue 3 _ [58] .closed valid (by decide) full (by decide +kernel)

end ProviderSimulator.RespStore
