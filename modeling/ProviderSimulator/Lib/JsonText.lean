/-
**JSON texts.**

The grammar of JSON texts, and a reader that only counts the brackets that are open and knows whether it is inside a
string. A value leaves the count as it found it, and inside an object the count is higher than outside.

* `IsValue` and `IsText` — the grammar;
* `Level` — the texts that leave the count as it is and never go below it;
* `IsValue.level` — **every value is such a text**;
* `not_isText_of_beginning` — **no proper beginning of an object is a JSON text**.
-/

import Mathlib.Tactic.Common
import Mathlib.Data.List.Infix

namespace ProviderSimulator.Lib.JsonText

/-! ### The grammar -/

/-- White space. -/
def IsSpace (chars : List Char) : Prop := ∀ char ∈ chars, char = ' ' ∨ char = '\t' ∨ char = '\n' ∨ char = '\r'

/-- One digit or more. -/
def IsDigits (chars : List Char) : Prop := chars ≠ [] ∧ ∀ char ∈ chars, char.isDigit = true

/-- The whole part of a number has no leading zero. -/
def IsWhole (chars : List Char) : Prop := chars = ['0'] ∨ IsDigits chars ∧ chars.head? ≠ some '0'

/-- The part of a number after the point, if it has one. -/
def IsFraction (chars : List Char) : Prop := chars = [] ∨ ∃ digits, IsDigits digits ∧ chars = '.' :: digits

/-- The exponent of a number, if it has one. -/
def IsExponent (chars : List Char) : Prop :=
  chars = [] ∨ ∃ mark sign digits, (mark = 'e' ∨ mark = 'E') ∧ (sign = [] ∨ sign = ['+'] ∨ sign = ['-']) ∧
    IsDigits digits ∧ chars = mark :: (sign ++ digits)

/-- A number. -/
def IsNumber (chars : List Char) : Prop :=
  ∃ sign whole fraction exponent, (sign = [] ∨ sign = ['-']) ∧ IsWhole whole ∧ IsFraction fraction ∧
    IsExponent exponent ∧ chars = sign ++ whole ++ fraction ++ exponent

/-- A hexadecimal digit. -/
def isHex (char : Char) : Bool := char.isDigit || ('a' ≤ char && char ≤ 'f') || ('A' ≤ char && char ≤ 'F')

/-- What stands between the quotes of a string. -/
inductive IsStringBody : List Char → Prop
  | nil : IsStringBody []
  | char {char : Char} {rest : List Char} (quote : char ≠ '"') (back : char ≠ '\\') (visible : ' ' ≤ char)
      (later : IsStringBody rest) : IsStringBody (char :: rest)
  | escape {char : Char} {rest : List Char} (known : char ∈ ['"', '\\', '/', 'b', 'f', 'n', 'r', 't'])
      (later : IsStringBody rest) : IsStringBody ('\\' :: char :: rest)
  | unicode {digits rest : List Char} (four : digits.length = 4) (hex : ∀ char ∈ digits, isHex char = true)
      (later : IsStringBody rest) : IsStringBody ('\\' :: 'u' :: (digits ++ rest))

/-- A string with its quotes. -/
def quoted (body : List Char) : List Char := '"' :: (body ++ ['"'])

/-- The words that are values. The last three are no standard JSON; `json` writes and reads them. -/
def words : List (List Char) :=
  ["null", "true", "false", "NaN", "Infinity", "-Infinity"].map String.toList

mutual

/-- A value. -/
inductive IsValue : List Char → Prop
  | word {chars : List Char} (known : chars ∈ words) : IsValue chars
  | number {chars : List Char} (isNumber : IsNumber chars) : IsValue chars
  | string {body : List Char} (isBody : IsStringBody body) : IsValue (quoted body)
  | emptyArray {space : List Char} (blank : IsSpace space) : IsValue ('[' :: (space ++ [']']))
  | array {items : List Char} (each : IsItems items) : IsValue ('[' :: (items ++ [']']))
  | emptyObject {space : List Char} (blank : IsSpace space) : IsValue ('\x7b' :: (space ++ ['\x7d']))
  | object {members : List Char} (each : IsMembers members) : IsValue ('\x7b' :: (members ++ ['\x7d']))

/-- A value with white space around it, which is a whole text. -/
inductive IsText : List Char → Prop
  | mk {before value after : List Char} (blank : IsSpace before) (isValue : IsValue value) (blank' : IsSpace after) :
      IsText (before ++ (value ++ after))

/-- The items of an array. -/
inductive IsItems : List Char → Prop
  | last {item : List Char} (isText : IsText item) : IsItems item
  | more {item items : List Char} (isText : IsText item) (others : IsItems items) : IsItems (item ++ ',' :: items)

/-- A member of an object. -/
inductive IsMember : List Char → Prop
  | mk {before body between value : List Char} (blank : IsSpace before) (isBody : IsStringBody body)
      (blank' : IsSpace between) (isText : IsText value) : IsMember (before ++ (quoted body ++ (between ++ ':' :: value)))

/-- The members of an object. -/
inductive IsMembers : List Char → Prop
  | last {member : List Char} (isMember : IsMember member) : IsMembers member
  | more {member members : List Char} (isMember : IsMember member) (others : IsMembers members) :
      IsMembers (member ++ ',' :: members)

end

/-! ### The count of open brackets -/

/-- Where the reader is: outside of strings, in one, or behind a backslash in one. -/
inductive Mode
  | outside
  | inside
  | escaped

/-- The brackets that are open, and where the reader is. -/
structure State where
  depth : ℕ
  mode : Mode

/-- One character. -/
def step (state : State) (char : Char) : State :=
  match state.mode with
  | .outside =>
      if char = '"' then { state with mode := .inside }
      else if char = '[' ∨ char = '\x7b' then { state with depth := state.depth + 1 }
      else if char = ']' ∨ char = '\x7d' then { state with depth := state.depth - 1 }
      else state
  | .inside =>
      if char = '"' then { state with mode := .outside }
      else if char = '\\' then { state with mode := .escaped }
      else state
  | .escaped => { state with mode := .inside }

/-- The state after the characters. -/
def run (state : State) (chars : List Char) : State := chars.foldl step state

/-- The count never goes below the bound. -/
def Stays (low : ℕ) : State → List Char → Prop
  | state, [] => low ≤ state.depth
  | state, char :: rest => low ≤ state.depth ∧ Stays low (step state char) rest

theorem run_append (state : State) (front back : List Char) : run state (front ++ back) = run (run state front) back :=
  List.foldl_append

theorem stays_append {low : ℕ} {state : State} {front back : List Char} (first : Stays low state front)
    (second : Stays low (run state front) back) : Stays low state (front ++ back) := by
  induction front generalizing state with
  | nil => exact second
  | cons char front ih => exact ⟨first.1, ih first.2 second⟩

theorem Stays.here {low : ℕ} {state : State} {chars : List Char} (stays : Stays low state chars) : low ≤ state.depth := by
  cases chars with
  | nil => exact stays
  | cons char rest => exact stays.1

/-- The count at any place in the text. -/
theorem Stays.begins {low : ℕ} {state : State} {chars front : List Char} (stays : Stays low state chars)
    (starts : front <+: chars) : low ≤ (run state front).depth := by
  obtain ⟨rest, rfl⟩ := starts
  induction front generalizing state with
  | nil => exact stays.here
  | cons char front ih => exact ih stays.2

/-! ### Texts that leave the count -/

/-- Outside of strings, with so many brackets open. -/
def outside (depth : ℕ) : State := ⟨depth, .outside⟩

/-- The text leaves the count as it found it, and does not go below it. -/
structure Level (chars : List Char) : Prop where
  ends : ∀ depth, run (outside depth) chars = outside depth
  stays : ∀ depth, Stays depth (outside depth) chars

/-- The character is no quote and no bracket. -/
def isPlain (char : Char) : Bool := !(['"', '[', ']', '\x7b', '\x7d'].contains char)

theorem Level.nil : Level [] := ⟨fun _ => rfl, fun depth => Nat.le_refl depth⟩

theorem Level.append {front back : List Char} (first : Level front) (second : Level back) : Level (front ++ back) where
  ends depth := by rw [run_append, first.ends, second.ends]
  stays depth := stays_append (first.stays depth) (by rw [first.ends]; exact second.stays depth)

theorem step_plain {char : Char} (plain : isPlain char = true) (depth : ℕ) : step (outside depth) char = outside depth := by
  have others : char ≠ '"' ∧ char ≠ '[' ∧ char ≠ ']' ∧ char ≠ '\x7b' ∧ char ≠ '\x7d' := by simpa [isPlain] using plain
  obtain ⟨quote, array, arrayEnd, object, objectEnd⟩ := others
  simp [step, outside, quote, array, arrayEnd, object, objectEnd]

/-- Characters that are no quotes and no brackets. -/
theorem Level.plain {chars : List Char} (plain : ∀ char ∈ chars, isPlain char = true) : Level chars := by
  induction chars with
  | nil => exact .nil
  | cons char chars ih =>
      have later := ih fun other member => plain other (List.mem_cons_of_mem char member)
      have stands := step_plain (plain char List.mem_cons_self)
      refine ⟨fun depth => ?_, fun depth => ⟨Nat.le_refl depth, ?_⟩⟩
      · change run (step (outside depth) char) chars = outside depth
        rw [stands, later.ends]
      · rw [stands]
        exact later.stays depth

/-- A text between brackets: the count is higher inside. -/
theorem Level.between {inner : List Char} (level : Level inner) {opening closing : Char}
    (opens : ∀ depth, step (outside depth) opening = outside (depth + 1))
    (closes : ∀ depth, step (outside (depth + 1)) closing = outside depth) :
    Level (opening :: (inner ++ [closing])) where
  ends depth := by
    change run (step (outside depth) opening) _ = outside depth
    rw [opens, run_append, level.ends]
    exact closes depth
  stays depth := by
    have higher : ∀ {state chars}, Stays (depth + 1) state chars → Stays depth state chars := by
      intro state chars stays
      induction chars generalizing state with
      | nil => exact Nat.le_of_succ_le stays
      | cons char chars ih => exact ⟨Nat.le_of_succ_le stays.1, ih stays.2⟩
    refine ⟨Nat.le_refl depth, ?_⟩
    rw [opens]
    refine stays_append (higher (level.stays (depth + 1))) ?_
    rw [level.ends]
    refine ⟨Nat.le_succ depth, ?_⟩
    rw [closes]
    exact Nat.le_refl depth

/-! ### Inside a string -/

/-- Inside a string, with so many brackets open. -/
def within (depth : ℕ) : State := ⟨depth, .inside⟩

/-- The text leaves the reader in the string, and the count as it is. -/
structure Stands (chars : List Char) : Prop where
  ends : ∀ depth, run (within depth) chars = within depth
  stays : ∀ depth, Stays depth (within depth) chars

theorem Stands.append {front back : List Char} (first : Stands front) (second : Stands back) : Stands (front ++ back) where
  ends depth := by rw [run_append, first.ends, second.ends]
  stays depth := stays_append (first.stays depth) (by rw [first.ends]; exact second.stays depth)

theorem Stands.ordinary {chars : List Char} (plain : ∀ char ∈ chars, char ≠ '"' ∧ char ≠ '\\') : Stands chars := by
  induction chars with
  | nil => exact ⟨fun _ => rfl, fun depth => Nat.le_refl depth⟩
  | cons char chars ih =>
      have later := ih fun other member => plain other (List.mem_cons_of_mem char member)
      obtain ⟨quote, back⟩ := plain char List.mem_cons_self
      have stands : ∀ depth, step (within depth) char = within depth := fun depth => by simp [step, within, quote, back]
      refine ⟨fun depth => ?_, fun depth => ⟨Nat.le_refl depth, ?_⟩⟩
      · change run (step (within depth) char) chars = within depth
        rw [stands, later.ends]
      · rw [stands]
        exact later.stays depth

theorem Stands.escape (char : Char) : Stands ['\\', char] :=
  ⟨fun _ => rfl, fun depth => ⟨Nat.le_refl depth, Nat.le_refl depth, Nat.le_refl depth⟩⟩

theorem isHex_ordinary {char : Char} (hex : isHex char = true) : char ≠ '"' ∧ char ≠ '\\' := by
  constructor
  · rintro rfl
    exact absurd hex (by decide)
  · rintro rfl
    exact absurd hex (by decide)

theorem IsStringBody.stands {body : List Char} (isBody : IsStringBody body) : Stands body := by
  induction isBody with
  | nil => exact .ordinary nofun
  | @char char _ quote back _ _ ih =>
      have single : Stands [char] := .ordinary fun other member => List.mem_singleton.mp member ▸ ⟨quote, back⟩
      exact single.append ih
  | @escape char _ _ _ ih => exact (Stands.escape char).append ih
  | @unicode digits _ _ hex _ ih =>
      have four : Stands digits := .ordinary fun digit member => isHex_ordinary (hex digit member)
      exact (Stands.escape 'u').append (four.append ih)

/-- A string leaves the count. -/
theorem Level.quoted {body : List Char} (isBody : IsStringBody body) : Level (quoted body) where
  ends depth := by
    change run (within depth) (body ++ ['"']) = outside depth
    rw [run_append, isBody.stands.ends]
    rfl
  stays depth := by
    refine ⟨Nat.le_refl depth, ?_⟩
    change Stays depth (within depth) (body ++ ['"'])
    refine stays_append (isBody.stands.stays depth) ?_
    rw [isBody.stands.ends]
    exact ⟨Nat.le_refl depth, Nat.le_refl depth⟩

/-! ### Values -/

theorem isPlain_digit {char : Char} (digit : char.isDigit = true) : isPlain char = true := by
  by_contra special
  simp only [isPlain, Bool.not_eq_true, Bool.not_eq_false', List.contains_iff_mem, List.mem_cons, List.not_mem_nil,
    or_false] at special
  rcases special with rfl | rfl | rfl | rfl | rfl <;> exact absurd digit (by decide)

theorem Level.space {chars : List Char} (blank : IsSpace chars) : Level chars := by
  refine .plain fun char member => ?_
  rcases blank char member with rfl | rfl | rfl | rfl <;> rfl

theorem Level.digits {chars : List Char} (digits : IsDigits chars) : Level chars :=
  .plain fun char member => isPlain_digit (digits.2 char member)

theorem Level.number {chars : List Char} (isNumber : IsNumber chars) : Level chars := by
  obtain ⟨sign, whole, fraction, exponent, signed, isWhole, isFraction, isExponent, rfl⟩ := isNumber
  have single : ∀ {char : Char}, isPlain char = true → Level [char] := fun plain =>
    .plain fun other member => List.mem_singleton.mp member ▸ plain
  have first : Level sign := by
    rcases signed with rfl | rfl
    · exact .nil
    · exact single rfl
  have second : Level whole := by
    rcases isWhole with rfl | ⟨digits, -⟩
    · exact single rfl
    · exact .digits digits
  have third : Level fraction := by
    rcases isFraction with rfl | ⟨digits, isDigits, rfl⟩
    · exact .nil
    · have point : Level ['.'] := single rfl
      exact point.append (.digits isDigits)
  have fourth : Level exponent := by
    rcases isExponent with rfl | ⟨mark, sign, digits, marked, signed, isDigits, rfl⟩
    · exact .nil
    · have letter : Level [mark] := by rcases marked with rfl | rfl <;> exact single rfl
      have signLevel : Level sign := by
        rcases signed with rfl | rfl | rfl
        · exact .nil
        · exact single rfl
        · exact single rfl
      exact letter.append (signLevel.append (.digits isDigits))
  exact ((first.append second).append third).append fourth

theorem Level.word {chars : List Char} (known : chars ∈ words) : Level chars := by
  have plain : ∀ word ∈ words, word.all isPlain = true := by decide +kernel
  exact .plain (List.all_eq_true.mp (plain chars known))

theorem Level.array {inner : List Char} (level : Level inner) : Level ('[' :: (inner ++ [']'])) :=
  level.between (fun _ => rfl) fun _ => rfl

theorem Level.object {inner : List Char} (level : Level inner) : Level ('\x7b' :: (inner ++ ['\x7d'])) :=
  level.between (fun _ => rfl) fun _ => rfl

/-- A comma or a colon between two texts. -/
theorem Level.separated {front back : List Char} (first : Level front) {mark : Char} (plain : isPlain mark = true)
    (second : Level back) : Level (front ++ mark :: back) := by
  have single : Level [mark] := .plain fun other member => List.mem_singleton.mp member ▸ plain
  exact first.append (single.append second)

mutual

/-- **Every value leaves the count as it found it.** -/
theorem IsValue.level : ∀ {chars : List Char}, IsValue chars → Level chars
  | _, .word known => .word known
  | _, .number isNumber => .number isNumber
  | _, .string isBody => .quoted isBody
  | _, .emptyArray blank => .array (.space blank)
  | _, .array each => .array each.level
  | _, .emptyObject blank => .object (.space blank)
  | _, .object each => .object each.level

theorem IsText.level : ∀ {chars : List Char}, IsText chars → Level chars
  | _, .mk blank isValue blank' => (Level.space blank).append (isValue.level.append (.space blank'))

theorem IsItems.level : ∀ {chars : List Char}, IsItems chars → Level chars
  | _, .last isText => isText.level
  | _, .more isText others => isText.level.separated rfl others.level

theorem IsMember.level : ∀ {chars : List Char}, IsMember chars → Level chars
  | _, .mk blank isBody blank' isText =>
      (Level.space blank).append ((Level.quoted isBody).append ((Level.space blank').separated rfl isText.level))

theorem IsMembers.level : ∀ {chars : List Char}, IsMembers chars → Level chars
  | _, .last isMember => isMember.level
  | _, .more isMember others => isMember.level.separated rfl others.level

end

/-- **No proper beginning of an object is a text**: a bracket is open at its end. -/
theorem not_isText_of_beginning {inner front : List Char} (level : Level inner)
    (starts : front <+: '\x7b' :: (inner ++ ['\x7d'])) (given : front ≠ [])
    (proper : front ≠ '\x7b' :: (inner ++ ['\x7d'])) : ¬ IsText front := by
  intro isText
  obtain ⟨rest, rfl, inside⟩ := (List.prefix_cons_iff.mp starts).resolve_left given
  have within : rest <+: inner := by
    rcases List.prefix_concat_iff.mp inside with whole | part
    · exact absurd (congrArg _ whole) proper
    · exact part
  have open1 : 1 ≤ (run (outside 1) rest).depth := (level.stays 1).begins within
  have closed : run (outside 1) rest = outside 0 := isText.level.ends 0
  rw [closed] at open1
  exact absurd open1 (by decide)

end ProviderSimulator.Lib.JsonText
