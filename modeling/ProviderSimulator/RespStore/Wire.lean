/-
**The wire of the RESP store.**

`encode` builds a command, and a `Reader` reads the reply piece by piece: `line` up to the next line end,
`exactly` a number of bytes and the two of a line end, which it does not look at. `readReply` reads one
value, and its arrays read their items in the same way.

* Each piece is what one `recv` gives. Nothing, or an empty piece, is a connection that was closed.
* `intOf` is `int` of bytes: spaces around the number, a plus sign and underscores between digits are taken.
* A length below minus one cuts the buffer from its end, as a slice with a negative bound does.
* `room` is how many calls inside one another the interpreter has room for.

`RespValue` is a value of the protocol, and `RespValue.wire` is its standard encoding.
-/

import Mathlib.Tactic.Common
import ProviderSimulator.Lib.Utf8
import ProviderSimulator.Python.Host
import ProviderSimulator.Domain.IntrospectiveConfig

namespace ProviderSimulator.RespStore

open ProviderSimulator.Lib ProviderSimulator.Python ProviderSimulator.Domain

/-! ### Bytes of the protocol -/

/-- `_SIMPLE`. -/
def simpleMark : UInt8 := 43

/-- `_ERROR`. -/
def errorMark : UInt8 := 45

/-- `_INTEGER`. -/
def integerMark : UInt8 := 58

/-- `_BULK`. -/
def bulkMark : UInt8 := 36

/-- `_ARRAY`. -/
def arrayMark : UInt8 := 42

/-- `_CRLF`. -/
def crlf : Bytes := [13, 10]

/-- `str(number).encode()`, for a number from zero on. -/
def decimal (number : ℕ) : Bytes := (Nat.toDigits 10 number).map fun digit => UInt8.ofNat digit.toNat

/-- `str(number).encode()`. -/
def decimalInt (number : ℤ) : Bytes := if number < 0 then 45 :: decimal number.natAbs else decimal number.natAbs

/-- One part of a command. -/
def encodePart (part : Bytes) : Bytes := bulkMark :: (decimal part.length ++ crlf ++ (part ++ crlf))

/-- `_encode`. -/
def encode (parts : List Bytes) : Bytes := arrayMark :: (decimal parts.length ++ crlf ++ parts.flatMap encodePart)

/-! ### `int` of bytes -/

/-- Is the byte a space of the C locale? -/
def isSpace (byte : UInt8) : Bool := byte = 32 || (9 ≤ byte && byte ≤ 13)

/-- The bytes without the spaces around them. -/
def strip (bytes : Bytes) : Bytes := ((bytes.dropWhile isSpace).reverse.dropWhile isSpace).reverse

/-- What a byte counts as a decimal digit. -/
def digitOf (byte : UInt8) : Option ℕ := if 48 ≤ byte && byte ≤ 57 then some (byte.toNat - 48) else none

/-- The number of the digits that follow, where an underscore stands only between two digits. -/
def digits (value : ℕ) : Bytes → Option ℕ
  | [] => some value
  | [byte] => (digitOf byte).map (value * 10 + ·)
  | byte :: next :: rest =>
      match digitOf byte with
      | some digit => digits (value * 10 + digit) (next :: rest)
      | none =>
          if byte = 95 then
            match digitOf next with
            | some digit => digits (value * 10 + digit) rest
            | none => none
          else none

/-- A number without a sign: at least one digit, and at most 4300. -/
def unsigned : Bytes → Option ℕ
  | [] => none
  | byte :: rest =>
      if 4300 < ((byte :: rest).filter fun other => other ≠ 95).length then none
      else
        match digitOf byte with
        | some digit => digits digit rest
        | none => none

/-- `int(content)`, or nothing where it raises a `ValueError`. -/
def intOf (content : Bytes) : Option ℤ :=
  match strip content with
  | [] => none
  | sign :: rest =>
      if sign = 45 then (unsigned rest).map fun number : ℕ => -(number : ℤ)
      else if sign = 43 then (unsigned rest).map fun number : ℕ => (number : ℤ)
      else (unsigned (sign :: rest)).map fun number : ℕ => (number : ℤ)

/-! ### Replies and errors -/

/-- A decoded reply. -/
inductive Reply
  | none
  | text (text : String)
  | number (number : ℤ)
  | bytes (content : Bytes)
  | list (items : List Reply)

/-- Why a `RespStoreError` is raised. -/
inductive StoreError
  | closed
  | stopped
  | emptyLine
  | refusedCommand (text : String)
  | unknownReply (line : Bytes)
  | noCursorAndKeys (reply : Reply)
  | noKeyList (batch : Reply)
  | unfinished
  | noLifetime (reply : Reply)

/-- The text of the error, where `repr` and `typeName` are the functions of the language and `reason` is the
text of an `OSError`. -/
def StoreError.text (repr typeName : Reply → String) (target reason : String) : StoreError → String
  | .closed => "the store closed the connection mid-reply"
  | .stopped => "the RESP store at " ++ target ++ " stopped answering: " ++ reason
  | .emptyLine => "the store sent an empty reply line"
  | .refusedCommand text => "the store refused the command: " ++ text
  | .unknownReply line => "the store sent a reply this reader does not know: " ++ repr (.bytes line)
  | .noCursorAndKeys reply => "SCAN answered " ++ repr reply ++ ", which is not a cursor and a key list"
  | .noKeyList batch => "SCAN answered a " ++ typeName batch ++ " where a key list belongs"
  | .unfinished => "SCAN did not finish in 1000 rounds"
  | .noLifetime reply => "TTL answered " ++ repr reply ++ " where a number belongs"

/-- What a reading gives, or the exception that it raises. Only a `RespStoreError` is a refusal. -/
abbrev Read (T : Type) := Except (Raised StoreError) T

/-! ### The reader -/

/-- `_Reader`: the buffer, the pieces that are still to come, and how the connection ends after them. -/
structure Reader where
  buf : Bytes
  pieces : List Bytes
  /-- `closed`, or `stopped` where `recv` raises an `OSError`. -/
  ending : StoreError

/-- The first line of some bytes, and what comes after it. -/
def cutLine : Bytes → Option (Bytes × Bytes)
  | [] => none
  | [_] => none
  | first :: second :: rest =>
      if first = 13 ∧ second = 10 then some ([], rest)
      else (cutLine (second :: rest)).map fun found => (first :: found.1, found.2)

/-- `line`, from the buffer on. -/
def lineFrom (ending : StoreError) (buf : Bytes) : List Bytes → Read (Bytes × Reader)
  | [] =>
      match cutLine buf with
      | some (line, rest) => .ok (line, ⟨rest, [], ending⟩)
      | none => .error (.refused ending)
  | piece :: later =>
      match cutLine buf with
      | some (line, rest) => .ok (line, ⟨rest, piece :: later, ending⟩)
      | none => if piece.isEmpty then .error (.refused .closed) else lineFrom ending (buf ++ piece) later

/-- `line`. -/
def Reader.line (reader : Reader) : Read (Bytes × Reader) := lineFrom reader.ending reader.buf reader.pieces

/-- The place of the bound of a slice: a negative one counts from the end. -/
def bound (bytes : Bytes) (index : ℤ) : ℕ := if 0 ≤ index then index.toNat else (bytes.length + index).toNat

/-- `exactly`, from the buffer on. -/
def exactlyFrom (count : ℤ) (ending : StoreError) (buf : Bytes) : List Bytes → Read (Bytes × Reader)
  | [] =>
      if (buf.length : ℤ) < count + 2 then .error (.refused ending)
      else .ok (buf.take (bound buf count), ⟨buf.drop (bound buf (count + 2)), [], ending⟩)
  | piece :: later =>
      if (buf.length : ℤ) < count + 2 then
        if piece.isEmpty then .error (.refused .closed) else exactlyFrom count ending (buf ++ piece) later
      else .ok (buf.take (bound buf count), ⟨buf.drop (bound buf (count + 2)), piece :: later, ending⟩)

/-- `exactly`. -/
def Reader.exactly (reader : Reader) (count : ℤ) : Read (Bytes × Reader) :=
  exactlyFrom count reader.ending reader.buf reader.pieces

/-- The items of an array, one after the other. -/
def readItems (read : Reader → Read (Reply × Reader)) : ℕ → Reader → Read (List Reply × Reader)
  | 0, reader => .ok ([], reader)
  | count + 1, reader => do
      let (item, reader) ← read reader
      let (items, reader) ← readItems read count reader
      pure (item :: items, reader)

/-- `int(rest)`, which raises a `ValueError`. -/
def readInt (rest : Bytes) : Read ℤ :=
  match intOf rest with
  | some number => .ok number
  | none => .error (.raised .valueError)

/-- `rest.decode()`, which raises a `UnicodeDecodeError`, a `ValueError`. -/
def readText (rest : Bytes) : Read String :=
  match Utf8.decode rest with
  | some text => .ok text
  | none => .error (.raised .valueError)

/-- A reply, from its first line on. `items` reads the items of an array. -/
def readKind (items : ℕ → Reader → Read (List Reply × Reader)) (line : Bytes) (reader : Reader) : Read (Reply × Reader) :=
  match line with
  | [] => .error (.refused .emptyLine)
  | kind :: rest => do
      if kind = simpleMark then
        let text ← readText rest
        pure (.text text, reader)
      else if kind = errorMark then
        let text ← readText rest
        .error (.refused (.refusedCommand text))
      else if kind = integerMark then
        let number ← readInt rest
        pure (.number number, reader)
      else if kind = bulkMark then
        let length ← readInt rest
        if length = -1 then pure (.none, reader)
        else
          let (body, reader) ← reader.exactly length
          pure (.bytes body, reader)
      else if kind = arrayMark then
        let count ← readInt rest
        if count = -1 then pure (.none, reader)
        else
          let (found, reader) ← items count.toNat reader
          pure (.list found, reader)
      else .error (.refused (.unknownReply (kind :: rest)))

/-- `_read_reply`. -/
def readReply : ℕ → Reader → Read (Reply × Reader)
  | 0, _ => .error (.raised .recursionError)
  | room + 1, reader => do
      let (line, reader) ← reader.line
      readKind (readItems (readReply room)) line reader

/-- `_run`, once the command is sent: a reader of its own for each reply. -/
def run (room : ℕ) (pieces : List Bytes) (ending : StoreError) : Read Reply := do
  let (reply, _) ← readReply room ⟨[], pieces, ending⟩
  pure reply

/-! ### Values of the protocol -/

/-- A value of RESP2. -/
inductive RespValue
  | simple (text : String)
  | integer (number : ℤ)
  | bulk (content : Bytes)
  | nullBulk
  | nullArray
  | array (items : List RespValue)

mutual

/-- The standard encoding of a value. -/
def RespValue.wire : RespValue → Bytes
  | .simple text => simpleMark :: (Utf8.encode text ++ crlf)
  | .integer number => integerMark :: (decimalInt number ++ crlf)
  | .bulk content => encodePart content
  | .nullBulk => bulkMark :: (decimalInt (-1) ++ crlf)
  | .nullArray => arrayMark :: (decimalInt (-1) ++ crlf)
  | .array items => arrayMark :: (decimal items.length ++ crlf ++ wireItems items)

/-- The encodings of items, one after the other. -/
def wireItems : List RespValue → Bytes
  | [] => []
  | item :: rest => item.wire ++ wireItems rest

end

mutual

/-- The value as Python has it. -/
def RespValue.toReply : RespValue → Reply
  | .simple text => .text text
  | .integer number => .number number
  | .bulk content => .bytes content
  | .nullBulk => .none
  | .nullArray => .none
  | .array items => .list (toReplies items)

/-- The items as Python has them. -/
def toReplies : List RespValue → List Reply
  | [] => []
  | item :: rest => item.toReply :: toReplies rest

end

/-- A text that a simple string can be: it has no line end. -/
def OneLine (text : String) : Prop := '\r' ∉ text.toList ∧ '\n' ∉ text.toList

instance (text : String) : Decidable (OneLine text) := inferInstanceAs (Decidable (_ ∧ _))

/-- A number of 64 bits. -/
def Int64 (number : ℤ) : Prop := -2 ^ 63 ≤ number ∧ number < 2 ^ 63

instance (number : ℤ) : Decidable (Int64 number) := inferInstanceAs (Decidable (_ ∧ _))

mutual

/-- A value that RESP2 allows. No byte string and no list of the language is longer than a machine word
says. -/
def RespValue.Valid : RespValue → Prop
  | .simple text => OneLine text
  | .integer number => Int64 number
  | .bulk content => content.length < 2 ^ 63
  | .nullBulk => True
  | .nullArray => True
  | .array items => items.length < 2 ^ 63 ∧ ValidItems items

/-- The items of an array. -/
def ValidItems : List RespValue → Prop
  | [] => True
  | item :: rest => item.Valid ∧ ValidItems rest

end

mutual

/-- How deep a value is nested. -/
def RespValue.depth : RespValue → ℕ
  | .array items => depthItems items + 1
  | _ => 1

/-- How deep the items are nested. -/
def depthItems : List RespValue → ℕ
  | [] => 0
  | item :: rest => max item.depth (depthItems rest)

end

end ProviderSimulator.RespStore
