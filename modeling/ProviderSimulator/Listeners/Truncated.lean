/-
**A truncated body.**

`truncated` takes the last ten bytes of a body away. What `json.dumps` writes is a JSON text, and a beginning of an
object that lacks its last bracket is none.

* `dumps_isValue` — **what `json.dumps` writes is in the grammar**;
* `truncated_breaks` — **the truncated bytes of an object are a proper beginning of it, and no JSON text**.
-/

import Mathlib.Tactic.Common
import ProviderSimulator.Lib.JsonText
import ProviderSimulator.Listeners.Scope
import ProviderSimulator.Listeners.Wire
import ProviderSimulator.Python.Numerals

namespace ProviderSimulator.Listeners.Wire

open ProviderSimulator.Lib ProviderSimulator.Lib.JsonText ProviderSimulator.Python

/-! ### Numbers -/

/-- The digits of a number are digits, with no zero in front of those of a positive one. -/
theorem isDigits_toDigits (number : ℕ) :
    IsDigits (Nat.toDigits 10 number) ∧ (0 < number → (Nat.toDigits 10 number).head? ≠ some '0') := by
  refine ⟨⟨Nat.toDigits_ne_nil, fun char member => Nat.isDigit_of_mem_toDigits (by decide) (by decide) member⟩, ?_⟩
  induction number using Nat.strong_induction_on with
  | _ number ih =>
      intro positive
      rw [Nat.toDigits_eq_if (by decide)]
      by_cases last : number < 10
      · rw [if_pos last]
        have digit : ∀ digit < 10, 0 < digit → [digit.digitChar].head? ≠ some '0' := by decide
        exact digit number last positive
      · rw [if_neg last, List.head?_append_of_ne_nil _ Nat.toDigits_ne_nil]
        exact ih (number / 10) (by omega) (by omega)

theorem isWhole_toDigits (number : ℕ) : IsWhole (Nat.toDigits 10 number) := by
  obtain ⟨digits, first⟩ := isDigits_toDigits number
  rcases Nat.eq_zero_or_pos number with rfl | positive
  · exact .inl (Nat.toDigits_zero 10)
  · exact .inr ⟨digits, first positive⟩

theorem isNumber_toString (number : ℤ) : IsNumber (toString number).toList := by
  rw [Host.toString_int, String.toList_ofList]
  refine ⟨if number < 0 then ['-'] else [], Nat.toDigits 10 number.natAbs, [], [], ?_, isWhole_toDigits _, .inl rfl,
    .inl rfl, ?_⟩
  · split
    · exact .inr rfl
    · exact .inl rfl
  · simp

/-! ### Strings -/

theorem isHex_toDigits {number : ℕ} : ∀ char ∈ Nat.toDigits 16 number, isHex char = true := by
  induction number using Nat.strong_induction_on with
  | _ number ih =>
      have letter : ∀ digit < 16, isHex digit.digitChar = true := by decide
      rw [Nat.toDigits_eq_if (by decide)]
      by_cases last : number < 16
      · rw [if_pos last]
        intro char member
        rw [List.mem_singleton.mp member]
        exact letter number last
      · rw [if_neg last]
        intro char member
        rcases List.mem_append.mp member with before | after
        · exact ih (number / 16) (by omega) char before
        · rw [List.mem_singleton.mp after]
          exact letter _ (Nat.mod_lt _ (by decide))

/-- Four hexadecimal digits are written for a number that has as many at most. -/
theorem hex4_digits {code : ℕ} (small : code < 0x10000) :
    (hex4 code).toList.length = 4 ∧ ∀ char ∈ (hex4 code).toList, isHex char = true := by
  have short : (Nat.toDigits 16 code).length ≤ 4 := (Nat.length_toDigits_le_iff (by decide) (by decide)).mpr small
  unfold hex4
  rw [String.toList_ofList]
  constructor
  · unfold List.leftpad
    rw [List.length_append, List.length_replicate]
    omega
  · intro char member
    unfold List.leftpad at member
    rcases List.mem_append.mp member with zero | digit
    · rw [List.eq_of_mem_replicate zero]
      decide
    · exact isHex_toDigits char digit

theorem isStringBody_unicode {code : ℕ} (small : code < 0x10000) {rest : List Char} (later : IsStringBody rest) :
    IsStringBody (("\\u" ++ hex4 code).toList ++ rest) := by
  obtain ⟨four, hex⟩ := hex4_digits small
  have front : "\\u".toList = ['\\', 'u'] := by decide
  have body : IsStringBody ('\\' :: 'u' :: ((hex4 code).toList ++ rest)) := .unicode four hex later
  rw [String.toList_append, List.append_assoc, front, List.cons_append, List.cons_append, List.nil_append]
  exact body

/-- An escaped character may stand in a string. -/
theorem isStringBody_escape (char : Char) {rest : List Char} (later : IsStringBody rest) :
    IsStringBody ((escape char).toList ++ rest) := by
  unfold escape
  by_cases quote : char = '"'
  · rw [if_pos quote]
    exact .escape (by decide) later
  by_cases back : char = '\\'
  · rw [if_neg quote, if_pos back]
    exact .escape (by decide) later
  rw [if_neg quote, if_neg back]
  split
  · exact .escape (by decide) later
  split
  · exact .escape (by decide) later
  split
  · exact .escape (by decide) later
  split
  · exact .escape (by decide) later
  split
  · exact .escape (by decide) later
  split
  · next visible =>
      rw [String.toList_singleton]
      exact .char quote back visible.1 later
  split
  · next small => exact isStringBody_unicode small later
  · next large =>
      have bound : char.toNat < 0x110000 := by
        rcases char.valid with low | high
        · exact Nat.lt_trans low (by decide)
        · exact high.2
      dsimp only
      rw [String.append_assoc, String.toList_append, List.append_assoc]
      exact isStringBody_unicode (by omega) (isStringBody_unicode (by omega) later)

theorem quote_eq (text : String) : (quote text).toList = quoted (text.toList.flatMap fun char => (escape char).toList) := by
  unfold quote quoted
  rw [String.toList_append, String.toList_append, String.toList_join, List.flatMap_map]
  rfl

theorem isStringBody_quote (chars : List Char) : IsStringBody (chars.flatMap fun char => (escape char).toList) := by
  induction chars with
  | nil => exact .nil
  | cons char chars ih =>
      rw [List.flatMap_cons]
      exact isStringBody_escape char ih

/-! ### Values -/

/-- The text of a finite float is a JSON number. -/
def FloatTexts (host : Host) : Prop := ∀ value, IsNumber (host.str (.float (.finite value))).toList

theorem isSpace_nil : IsSpace [] := nofun

theorem isSpace_one : IsSpace [' '] := fun _ member => .inl (List.mem_singleton.mp member)

/-- Elements with a comma and a space between them. -/
theorem separated {Element Elements : List Char → Prop} (last : ∀ {chars}, Element chars → Elements chars)
    (more : ∀ {chars others}, Element chars → Elements others → Elements (chars ++ ',' :: others))
    {first : List Char} {others : List (List Char)}
    (each : ∀ chars ∈ first :: others, ∀ before, IsSpace before → Element (before ++ chars)) {before : List Char}
    (blank : IsSpace before) : Elements (before ++ [',', ' '].intercalate (first :: others)) := by
  have here : Element (before ++ first) := each first List.mem_cons_self before blank
  induction others generalizing before first with
  | nil =>
      rw [List.intercalate_singleton]
      exact last here
  | cons second others ih =>
      have there : Element ([' '] ++ second) := each second (by simp) [' '] isSpace_one
      have later := ih (fun chars member => each chars (List.mem_cons_of_mem first member)) isSpace_one there
      rw [List.intercalate_cons_cons, List.append_assoc, ← List.append_assoc]
      exact more here later

theorem toList_brackets (opening closing : String) (texts : List String) :
    (opening ++ ", ".intercalate texts ++ closing).toList =
      opening.toList ++ ([',', ' '].intercalate (texts.map String.toList) ++ closing.toList) := by
  rw [String.toList_append, String.toList_append, String.toList_intercalate, List.append_assoc]
  rfl

theorem isText_of_isValue {before chars : List Char} (blank : IsSpace before) (isValue : IsValue chars) :
    IsText (before ++ chars) := by
  have text : IsText (before ++ (chars ++ [])) := .mk blank isValue isSpace_nil
  rwa [List.append_nil] at text

/-- The texts are those of members. -/
def AreMembers (texts : List String) : Prop := ∀ text ∈ texts, ∀ before, IsSpace before → IsMember (before ++ text.toList)

theorem isMember_text {name text : String} (isValue : IsValue text.toList) {before : List Char} (blank : IsSpace before) :
    IsMember (before ++ (quote name ++ ": " ++ text).toList) := by
  have member : IsMember (before ++ (quoted _ ++ ([] ++ ':' :: ([' '] ++ text.toList)))) :=
    .mk blank (isStringBody_quote name.toList) isSpace_nil (isText_of_isValue isSpace_one isValue)
  rw [String.toList_append, String.toList_append, quote_eq, List.append_assoc]
  exact member

/-- The text of an object with these members. -/
theorem isValue_members {texts : List String} (members : AreMembers texts) :
    Level ([',', ' '].intercalate (texts.map String.toList)) ∧
      IsValue ("\x7b" ++ ", ".intercalate texts ++ "\x7d").toList := by
  rw [toList_brackets]
  cases texts with
  | nil => exact ⟨.nil, .emptyObject isSpace_nil⟩
  | cons first others =>
      have each : ∀ chars ∈ first.toList :: others.map String.toList, ∀ before, IsSpace before →
          IsMember (before ++ chars) := by
        intro chars member
        obtain ⟨text, listed, rfl⟩ := List.mem_map.mp (show chars ∈ (first :: others).map String.toList from member)
        exact members text listed
      have inner : IsMembers ([] ++ [',', ' '].intercalate (first.toList :: others.map String.toList)) :=
        separated .last .more each isSpace_nil
      exact ⟨inner.level, .object inner⟩

theorem isValue_items {texts : List String} (items : ∀ text ∈ texts, IsValue text.toList) :
    IsValue ("[" ++ ", ".intercalate texts ++ "]").toList := by
  rw [toList_brackets]
  cases texts with
  | nil => exact .emptyArray isSpace_nil
  | cons first others =>
      have each : ∀ chars ∈ first.toList :: others.map String.toList, ∀ before, IsSpace before →
          IsText (before ++ chars) := by
        intro chars member before blank
        obtain ⟨text, listed, rfl⟩ := List.mem_map.mp (show chars ∈ (first :: others).map String.toList from member)
        exact isText_of_isValue blank (items text listed)
      have inner : IsItems ([] ++ [',', ' '].intercalate (first.toList :: others.map String.toList)) :=
        separated .last .more each isSpace_nil
      exact .array inner

section

theorem isValue_word (word : String) (known : word ∈ ["null", "true", "false", "NaN", "Infinity", "-Infinity"]) :
    IsValue word.toList := .word (List.mem_map_of_mem known)

variable {host : Host}

theorem isValue_float (floats : FloatTexts host) (number : PyFloat) : IsValue (floatText host number).toList := by
  cases number with
  | nan => exact isValue_word "NaN" (by decide)
  | posInf => exact isValue_word "Infinity" (by decide)
  | negInf => exact isValue_word "-Infinity" (by decide)
  | finite value => exact .number (floats value)

mutual

/-- **What `json.dumps` writes is a JSON value.** -/
theorem dumps_isValue (floats : FloatTexts host) : ∀ {value : Value} {text : String}, dumps host value = .ok text → IsValue text.toList
  | .none, _, rfl => isValue_word "null" (by decide)
  | .bool true, _, rfl => isValue_word "true" (by decide)
  | .bool false, _, rfl => isValue_word "false" (by decide)
  | .int number, _, rfl => .number (isNumber_toString number)
  | .float number, _, rfl => isValue_float floats number
  | .str name, _, rfl => by
      rw [quote_eq]
      exact .string (isStringBody_quote name.toList)
  | .list items, _, dumped => by
      rw [dumps] at dumped
      obtain ⟨texts, each, dumped⟩ := ok_of_bind dumped
      cases dumped
      exact isValue_items (dumpsItems_isValue floats each)
  | .dict entries, _, dumped => by
      rw [dumps] at dumped
      obtain ⟨texts, each, dumped⟩ := ok_of_bind dumped
      cases dumped
      exact (isValue_members (dumpsEntries_areMembers floats each)).2

theorem dumpsItems_isValue (floats : FloatTexts host) : ∀ {items : List Value} {texts : List String},
    dumpsItems host items = .ok texts → ∀ text ∈ texts, IsValue text.toList
  | [], _, rfl => nofun
  | item :: rest, _, dumped => by
      rw [dumpsItems] at dumped
      obtain ⟨first, here, dumped⟩ := ok_of_bind dumped
      obtain ⟨others, later, dumped⟩ := ok_of_bind dumped
      cases dumped
      intro text member
      rcases List.mem_cons.mp member with rfl | member
      · exact dumps_isValue floats here
      · exact dumpsItems_isValue floats later text member

theorem dumpsEntries_areMembers (floats : FloatTexts host) : ∀ {entries : List (Key × Value)} {texts : List String},
    dumpsEntries host entries = .ok texts → AreMembers texts
  | [], _, rfl => nofun
  | (.pair _ _, _) :: _, _, dumped => by
      rw [dumpsEntries] at dumped
      cases dumped
  | (.text name, value) :: rest, _, dumped => by
      rw [dumpsEntries] at dumped
      obtain ⟨first, here, dumped⟩ := ok_of_bind dumped
      obtain ⟨others, later, dumped⟩ := ok_of_bind dumped
      cases dumped
      intro text member before blank
      rcases List.mem_cons.mp member with rfl | member
      · exact isMember_text (dumps_isValue floats here) blank
      · exact dumpsEntries_areMembers floats later text member before blank

end

/-! ### The truncated bytes -/

/-- A beginning of the text of an object is no JSON text, unless it is the whole. -/
theorem dict_beginning (floats : FloatTexts host) {entries : List (Key × Value)} {text front : String}
    (dumped : dumps host (.dict entries) = .ok text) (starts : front.toList <+: text.toList) (given : front ≠ "")
    (proper : front ≠ text) : ¬ IsText front.toList := by
  rw [dumps] at dumped
  obtain ⟨texts, each, dumped⟩ := ok_of_bind dumped
  cases dumped
  have whole : ("\x7b" ++ ", ".intercalate texts ++ "\x7d").toList =
      '\x7b' :: ([',', ' '].intercalate (texts.map String.toList) ++ ['\x7d']) := toList_brackets "\x7b" "\x7d" texts
  refine not_isText_of_beginning (isValue_members (dumpsEntries_areMembers floats each)).1 ?_ ?_ ?_
  · rw [← whole]
    exact starts
  · exact fun none => given (String.toList_inj.mp none)
  · exact fun same => proper (String.toList_inj.mp (same.trans whole.symm))

theorem serialize_truncated (host : Host) (entries : List (Key × Value)) (field : Value) (dotted : Bool) :
    serialize host (.value (.dict entries)) (.str "truncated") field dotted = (do
      let text ← dumps host (.dict entries)
      pure (corruptBytes (.str "truncated") (Utf8.encode text), true)) := by
  have others : (Value.str "truncated").eqText "null_body" = false ∧ (Value.str "truncated").eqText "missing_field" = false ∧
      (Value.str "truncated").eqText "empty_response" = false ∧ (Value.str "truncated").eqText "wrong_type" = false := by
    decide
  unfold serialize
  simp only [others, Bool.false_and, Bool.false_eq_true, if_false]

/-- **`truncated` breaks an object**: what it leaves of the bytes is a proper beginning of them, and the bytes of no JSON
text. -/
theorem truncated_breaks (floats : FloatTexts host) {entries : List (Key × Value)} {text : String}
    (dumped : dumps host (.dict entries) = .ok text) (long : 10 < (Utf8.encode text).length) (field : Value)
    (dotted : Bool) :
    ∃ raw, serialize host (.value (.dict entries)) (.str "truncated") field dotted = .ok (raw, true) ∧
      raw <+: Utf8.encode text ∧ raw ≠ Utf8.encode text ∧ ∀ other, Utf8.encode other = raw → ¬ IsText other.toList := by
  have cut : corruptBytes (.str "truncated") (Utf8.encode text) =
      (Utf8.encode text).take ((Utf8.encode text).length - 10) := if_pos (decide_eq_true long)
  have shorter : ((Utf8.encode text).take ((Utf8.encode text).length - 10)).length = (Utf8.encode text).length - 10 :=
    List.length_take_of_le (Nat.sub_le _ _)
  have part : (Utf8.encode text).take ((Utf8.encode text).length - 10) ≠ Utf8.encode text := by
    intro whole
    rw [whole] at shorter
    omega
  refine ⟨_, ?_, List.take_prefix _ _, part, fun other bytes => ?_⟩
  · rw [serialize_truncated, dumped, ← cut]
    rfl
  · have starts : other.toList <+: text.toList := by
      refine Utf8.isPrefix_of_encodeChars ?_
      change Utf8.encode other <+: Utf8.encode text
      rw [bytes]
      exact List.take_prefix _ _
    refine dict_beginning floats dumped starts ?_ ?_
    · rintro rfl
      rw [← bytes] at shorter
      change 0 = _ at shorter
      omega
    · rintro rfl
      exact part bytes.symm

end

/-- A host whose floats are written as one half. -/
def halfHost : Host := { numberHost with str := fun _ => "0.5" }

theorem halfHost_floats : FloatTexts halfHost := by
  intro value
  have fraction : IsFraction ['.', '5'] := by
    refine .inr ⟨['5'], ⟨List.cons_ne_nil _ _, fun char member => ?_⟩, rfl⟩
    rw [List.mem_singleton.mp member]
    rfl
  have chars : "0.5".toList = [] ++ ['0'] ++ ['.', '5'] ++ [] := by decide
  exact ⟨[], ['0'], ['.', '5'], [], .inl rfl, .inl rfl, fraction, .inl rfl, chars⟩

/-- `{"rate": 0.5}`, whose text is 13 bytes long. -/
theorem truncated_rate :
    ∃ raw, serialize halfHost (.value (.object [("rate", .float (.finite (1 / 2)))])) (.str "truncated") .none false =
        .ok (raw, true) ∧ raw <+: Utf8.encode "\x7b\"rate\": 0.5\x7d" ∧ raw ≠ Utf8.encode "\x7b\"rate\": 0.5\x7d" ∧
      ∀ other, Utf8.encode other = raw → ¬ IsText other.toList := by
  have dumped : dumps halfHost (.dict [(.text "rate", .float (.finite (1 / 2)))]) = .ok "\x7b\"rate\": 0.5\x7d" := by
    rfl
  exact truncated_breaks halfHost_floats dumped (by decide +kernel) .none false

end ProviderSimulator.Listeners.Wire
