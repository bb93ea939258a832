/-
**Operators and functions of the language.**

The request path reads values of any shape, so each operator says what it raises: `value.item name` is
`value["name"]`, `value.first` is `value[0]`, `value.setItem name new` is an item assignment, and
`Value.less` compares two numbers.

`Host` holds what the model takes from the language as it is: `str` of a float or a container, the
arithmetic of floats, the JSON reader, base64, a hash function, the room for calls. The model does not look inside these functions, so what is proved holds
for any of them. Whole numbers are exact: `Host.add` and `Host.sub` only ask the host when one side is a
float, and `parseInt` is `int(text, base)`, where the host says what a digit outside ASCII counts.
-/

import Mathlib.Tactic.Common
import Mathlib.Data.Rat.Floor
import ProviderSimulator.Python.Value

namespace ProviderSimulator.Python

open ProviderSimulator.Lib

/-- A byte string. -/
abbrev Bytes := List UInt8

/-- Why `json.loads` fails. All but the last one are `ValueError`s. -/
inductive JsonError
  /-- The bytes are no UTF-8: the reason, and the position of the first bad byte. -/
  | decode (reason : String) (start : ℕ)
  /-- The text is no JSON: the message, the line and the column. -/
  | badJson (message : String) (line column : ℕ)
  /-- An integer has more digits than the language reads. -/
  | digits
  | recursion

/-- The functions of the language, and of its library, that the request path calls. -/
structure Host where
  /-- `str(value)` of a float, a list or a dictionary. -/
  str : Value → String
  /-- The sum of two floats. -/
  addFloat : PyFloat → PyFloat → PyFloat
  /-- An integer as a float, or nothing where it is too large. -/
  toFloat : ℤ → Option PyFloat
  /-- What a decimal digit outside ASCII counts. -/
  digit : Char → Option ℕ
  /-- `str.isspace` outside ASCII. -/
  space : Char → Bool
  /-- `json.loads` of bytes. -/
  loads : Bytes → Except JsonError Value
  /-- `json.loads` of a text. -/
  loadsText : String → Except JsonError Value
  /-- `str` of the exception that `json.loads` raised. -/
  jsonErrorText : JsonError → String
  /-- `body.decode("utf-8")`. -/
  decode : Bytes → Except JsonError String
  /-- `text.encode()`, for a text without a lone surrogate. -/
  encode : String → Bytes
  /-- `base64.b64decode(text, validate=True)`, or nothing where it raises a `ValueError`. -/
  decodeBase64 : String → Option Bytes
  /-- `hashlib.blake2b(data, digest_size=32).digest()`. -/
  blake2b : Bytes → Bytes
  /-- How many calls inside one another the interpreter has room for, where a chain builds its reply. -/
  frames : ℕ

/-! ### Reading values -/

namespace Value

/-- `value or other`. -/
def orElse (value other : Value) : Value := if value.truthy then value else other

/-- `isinstance(value, int)`: a Boolean is an integer. -/
def isInt : Value → Bool
  | .int _ => true
  | .bool _ => true
  | _ => false

/-- `container.get(name, default)`. -/
def getD (container : Value) (name : String) (default : Value) : Except PyError Value := do
  pure ((← container.get name).getD default)

/-- `container.get(key)` for any value as the key. -/
def getKey (container key : Value) : Except PyError (Option Value) :=
  match container with
  | .dict entries => lookup entries key
  | _ => .error .attributeError

/-- `container["name"]`. -/
def item (container : Value) (name : String) : Except PyError Value :=
  match container with
  | .dict entries =>
      match Dict.get entries (.text name) with
      | some value => .ok value
      | Option.none => .error .keyError
  | _ => .error .typeError

/-- `container[0]`. A JSON object has no key 0. -/
def first : Value → Except PyError Value
  | .list (item :: _) => .ok item
  | .list [] => .error .indexError
  | .str text =>
      match text.toList with
      | char :: _ => .ok (.str (String.singleton char))
      | [] => .error .indexError
  | .dict _ => .error .keyError
  | _ => .error .typeError

/-- `container["name"] = new`. -/
def setItem (container : Value) (name : String) (new : Value) : Except PyError Value :=
  match container with
  | .dict entries => .ok (.dict (Dict.set entries (.text name) new))
  | _ => .error .typeError

/-- `container["a"]["b"]["name"] = new` for the path `a`, `b`. -/
def setPath (container : Value) (path : List String) (name : String) (new : Value) :
    Except PyError Value :=
  match path with
  | [] => container.setItem name new
  | step :: rest => do
      let inner ← container.item step
      container.setItem step (← inner.setPath rest name new)

/-! ### Numbers -/

/-- The number of a value that is one. -/
def number : Value → Option PyFloat
  | .bool flag => some (.finite (if flag then 1 else 0))
  | .int value => some (.finite value)
  | .float value => some value
  | _ => Option.none

/-- The integer of a value that is an `int`. -/
def integer : Value → Option ℤ
  | .bool flag => some (if flag then 1 else 0)
  | .int value => some value
  | _ => Option.none

end Value

/-- `a < b` on floats. -/
def PyFloat.less : PyFloat → PyFloat → Bool
  | .finite a, .finite b => a < b
  | .finite _, .posInf => true
  | .negInf, .finite _ => true
  | .negInf, .posInf => true
  | _, _ => false

/-- `a <= b` on floats. -/
def PyFloat.lessEq (a b : PyFloat) : Bool := a.less b || (a = b && a ≠ .nan)

/-- `-a`. -/
def PyFloat.neg : PyFloat → PyFloat
  | .finite a => .finite (-a)
  | .posInf => .negInf
  | .negInf => .posInf
  | .nan => .nan

/-- `a < b` where one side is a number: no text, list, dictionary or null has an order with one. -/
def Value.less (a b : Value) : Except PyError Bool :=
  match a.number, b.number with
  | some first, some second => .ok (first.less second)
  | _, _ => .error .typeError

/-- `a <= b`. -/
def Value.lessEq (a b : Value) : Except PyError Bool :=
  match a.number, b.number with
  | some first, some second => .ok (first.lessEq second)
  | _, _ => .error .typeError

/-- `max(value, 0)`. -/
def Value.atLeastZero (value : Value) : Except PyError Value := do
  if ← value.less (.int 0) then pure (.int 0) else pure value

/-- `min(bound, value)`. -/
def Value.atMost (bound : ℤ) (value : Value) : Except PyError Value := do
  if ← value.less (.int bound) then pure value else pure (.int bound)

/-- A number that `str` and `json.dumps` write: it has at most 4300 digits. They raise a `ValueError` at a longer one. -/
def Printable (number : ℤ) : Prop := number.natAbs < 10 ^ 4300

namespace Host

variable (host : Host)

/-- `str(value)`. -/
def text : Value → String
  | .none => "None"
  | .bool true => "True"
  | .bool false => "False"
  | .int value => toString value
  | .str value => value
  | other => host.str other

/-- A number as a float. -/
def asFloat : Value → Except PyError PyFloat
  | .float value => .ok value
  | other =>
      match other.integer with
      | Option.none => .error .typeError
      | some number =>
          match host.toFloat number with
          | some value => .ok value
          | Option.none => .error .overflowError

/-- `a + b` where `a` is a number. -/
def add (a b : Value) : Except PyError Value :=
  match a.integer, b.integer with
  | some first, some second => .ok (.int (first + second))
  | _, _ => do
      let first ← host.asFloat a
      let second ← host.asFloat b
      pure (.float (host.addFloat first second))

/-- `-value` of a number, and any other value as it is. -/
def opposite : Value → Value
  | .bool flag => .int (if flag then -1 else 0)
  | .int value => .int (-value)
  | .float value => .float value.neg
  | other => other

/-- `a - b` where `a` is a number: a float is subtracted as its opposite is added. -/
def sub (a b : Value) : Except PyError Value := host.add a (opposite b)

/-! ### Whole numbers from texts -/

/-- Is the character one of those that `str.strip` drops? -/
def isSpace (char : Char) : Bool :=
  if char.toNat < 128 then char = ' ' || (9 ≤ char.toNat && char.toNat ≤ 13) || (28 ≤ char.toNat && char.toNat ≤ 31)
  else host.space char

/-- Is the character one of those that `int` drops? The four separators of ASCII, 28 to 31, are not. -/
def isBlank (char : Char) : Bool :=
  if char.toNat < 128 then char = ' ' || (9 ≤ char.toNat && char.toNat ≤ 13) else host.space char

/-- A text without the characters at its two ends that are dropped. -/
def trim (drops : Char → Bool) (text : String) : List Char :=
  ((text.toList.dropWhile drops).reverse.dropWhile drops).reverse

/-- `text.strip()`. -/
def strip (text : String) : List Char := trim host.isSpace text

/-- What a character counts as a digit, in any base. -/
def digitOf (char : Char) : Option ℕ :=
  if '0' ≤ char ∧ char ≤ '9' then some (char.toNat - '0'.toNat)
  else if 'a' ≤ char ∧ char ≤ 'z' then some (char.toNat - 'a'.toNat + 10)
  else if 'A' ≤ char ∧ char ≤ 'Z' then some (char.toNat - 'A'.toNat + 10)
  else if char.toNat < 128 then Option.none
  else host.digit char

/-- The number of the digits that follow, where an underscore stands only between two digits. -/
def digits (base : ℕ) (value : ℕ) : List Char → Option ℕ
  | [] => some value
  | '_' :: char :: rest =>
      match host.digitOf char with
      | some digit => if digit < base then digits base (value * base + digit) rest else Option.none
      | Option.none => Option.none
  | char :: rest =>
      match host.digitOf char with
      | some digit => if digit < base then digits base (value * base + digit) rest else Option.none
      | Option.none => Option.none

/-- A whole number without a sign: at least one digit, and in base 10 at most 4300 of them. -/
def unsigned (base : ℕ) (chars : List Char) : Option ℕ :=
  match chars with
  | [] => Option.none
  | '_' :: _ => Option.none
  | char :: rest =>
      if base = 10 ∧ 4300 < (chars.filter fun char => char ≠ '_').length then Option.none
      else
        match host.digitOf char with
        | some digit => if digit < base then host.digits base digit rest else Option.none
        | Option.none => Option.none

/-- The digits after the base prefix, which the base 16 may have and which an underscore may end. -/
def afterBase (base : ℕ) : List Char → List Char
  | '0' :: mark :: rest =>
      if base = 16 ∧ (mark = 'x' ∨ mark = 'X') then
        match rest with
        | '_' :: later => later
        | _ => rest
      else '0' :: mark :: rest
  | chars => chars

/-- `int(text, base)`, or nothing where it raises a `ValueError`. -/
def parseInt (base : ℕ) (text : String) : Option ℤ :=
  match trim host.isBlank text with
  | '-' :: rest => (host.unsigned base (afterBase base rest)).map fun value => -(value : ℤ)
  | '+' :: rest => (host.unsigned base (afterBase base rest)).map fun value => (value : ℤ)
  | chars => (host.unsigned base (afterBase base chars)).map fun value => (value : ℤ)

/-- `int(value)`. A float loses its fraction, and an infinite one has no integer. -/
def intOf : Value → Except PyError ℤ
  | .float (.finite value) => .ok (if 0 ≤ value then ⌊value⌋ else ⌈value⌉)
  | .float .nan => .error .valueError
  | .float _ => .error .overflowError
  | .str text =>
      match host.parseInt 10 text with
      | some value => .ok value
      | Option.none => .error .valueError
  | other =>
      match other.integer with
      | some value => .ok value
      | Option.none => .error .typeError

end Host

/-! ### Hexadecimal texts -/

/-- The digits of a number in base 16, with its sign. -/
def hexDigits (number : ℤ) : List Char :=
  (if number < 0 then ['-'] else []) ++ Nat.toDigits 16 number.natAbs

/-- `format(value, "X")`. Only a whole number has such a format. -/
def formatUpperHex (value : Value) : Except PyError String :=
  match value.integer with
  | some number => .ok (String.ofList ((hexDigits number).map Char.toUpper))
  | Option.none => .error .valueError

/-- `format(number, "064x")`: the sign first, then zeros up to 64 characters. -/
def hex64 (number : ℤ) : String :=
  let sign := if number < 0 then ['-'] else []
  let digits := Nat.toDigits 16 number.natAbs
  String.ofList (sign ++ List.replicate (64 - sign.length - digits.length) '0' ++ digits)

/-- `format(value, "064x")`. -/
def formatHex64 (value : Value) : Except PyError String :=
  match value.integer with
  | some number => .ok (hex64 number)
  | Option.none => .error .valueError

end ProviderSimulator.Python
