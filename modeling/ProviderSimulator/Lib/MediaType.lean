/-
**Media types and their parameters.**

A media type is a type and a subtype, and then parameters, each after a semicolon. The value of a parameter is a token, or
a quoted string in which a backslash stands before a character that is meant as it is.

* `read` — the media type that a text is, and `write` — the text of a media type;
* `readQuoted_escaped` — a quoted string ends at its own closing quote, whatever it holds;
* `read_write` — **what is written is read back**, whatever the values of the parameters are.
-/

import Mathlib.Tactic.Common
import Mathlib.Data.List.Basic

namespace ProviderSimulator.Lib.MediaType

/-! ### Tokens and quoted strings -/

/-- The characters of a token. -/
def isToken (char : Char) : Bool := "!#$%&'*+-.^_`|~".toList.contains char || char.isDigit || char.isAlpha

/-- A space or a tab. -/
def isBlank (char : Char) : Bool := char = ' ' || char = '\t'

/-- The token in front of a text, and what follows it. -/
def readToken (chars : List Char) : Option (List Char × List Char) :=
  if chars.takeWhile isToken = [] then none else some (chars.takeWhile isToken, chars.dropWhile isToken)

/-- The rest of a quoted string after its opening quote, and what follows it. -/
def readQuoted : List Char → Option (List Char × List Char)
  | [] => none
  | '"' :: rest => some ([], rest)
  | ['\\'] => none
  | '\\' :: char :: rest => (readQuoted rest).map fun found => (char :: found.1, found.2)
  | char :: rest => (readQuoted rest).map fun found => (char :: found.1, found.2)

/-- A value of either form. -/
def readValue : List Char → Option (List Char × List Char)
  | '"' :: rest => readQuoted rest
  | chars => readToken chars

/-- A character of a quoted string, as it is written. -/
def escaped (char : Char) : List Char := if char = '"' ∨ char = '\\' then ['\\', char] else [char]

/-- A value as it is written: a token if it can be one. -/
def writeValue (value : List Char) : List Char :=
  if value.all isToken then value else '"' :: (value.flatMap escaped ++ ['"'])

/-- What follows a value is no part of a token. -/
def Parted (rest : List Char) : Prop := ∀ char ∈ rest.head?, isToken char = false

theorem readToken_append {token rest : List Char} (given : token ≠ []) (inside : ∀ char ∈ token, isToken char = true)
    (parted : Parted rest) : readToken (token ++ rest) = some (token, rest) := by
  have stops : rest.takeWhile isToken = [] ∧ rest.dropWhile isToken = rest := by
    cases rest with
    | nil => exact ⟨rfl, rfl⟩
    | cons char rest =>
        have outside : isToken char = false := parted char rfl
        simp [outside]
  have taken : (token ++ rest).takeWhile isToken = token := by
    rw [List.takeWhile_append_of_pos inside, stops.1, List.append_nil]
  have left : (token ++ rest).dropWhile isToken = rest := by
    rw [List.dropWhile_append_of_pos inside, stops.2]
  unfold readToken
  rw [taken, left, if_neg given]

/-- **A quoted string ends at its own quote.** -/
theorem readQuoted_escaped (text rest : List Char) :
    readQuoted (text.flatMap escaped ++ '"' :: rest) = some (text, rest) := by
  induction text with
  | nil => rfl
  | cons char text ih =>
      rw [List.flatMap_cons, List.append_assoc]
      by_cases special : char = '"' ∨ char = '\\'
      · have written : escaped char = ['\\', char] := if_pos special
        rw [written, List.cons_append, List.cons_append, List.nil_append, readQuoted, ih]
        rfl
      · have written : escaped char = [char] := if_neg special
        rw [not_or] at special
        rw [written, List.cons_append, List.nil_append, readQuoted, ih]
        · rfl
        · exact special.1
        · exact fun back _ => special.2 back
        · exact fun _ _ back _ => special.2 back

theorem readValue_writeValue {value rest : List Char} (given : value ≠ []) (parted : Parted rest) :
    readValue (writeValue value ++ rest) = some (value, rest) := by
  unfold writeValue
  by_cases token : value.all isToken = true
  · have inside : ∀ char ∈ value, isToken char = true := List.all_eq_true.mp token
    have unquoted : ∀ tail, value ++ rest ≠ '"' :: tail := by
      intro tail same
      cases value with
      | nil => exact given rfl
      | cons char value =>
          obtain rfl : char = '"' := (List.cons.inj same).1
          have quote : isToken '"' = true := inside _ List.mem_cons_self
          exact absurd quote (by decide +kernel)
    rw [if_pos token, readValue, readToken_append given inside parted]
    exact unquoted
  · rw [if_neg token, List.cons_append, List.append_assoc]
    exact readQuoted_escaped value rest

/-! ### Parameters -/

/-- The parameters in front of the end of a text. The count is at least their number. -/
def readParameters : ℕ → List Char → Option (List (List Char × List Char))
  | 0, chars => if chars.dropWhile isBlank = [] then some [] else none
  | count + 1, chars =>
      match chars.dropWhile isBlank with
      | [] => some []
      | ';' :: rest => do
          let (name, rest) ← readToken (rest.dropWhile isBlank)
          match rest with
          | '=' :: rest =>
              let (value, rest) ← readValue rest
              let others ← readParameters count rest
              some ((name, value) :: others)
          | _ => none
      | _ => none

/-- A parameter after what is there. -/
def writeParameter (parameter : List Char × List Char) : List Char :=
  "; ".toList ++ (parameter.1 ++ '=' :: writeValue parameter.2)

/-- A parameter that can be written: its name is a token, and its value is not empty. -/
structure Writable (parameter : List Char × List Char) : Prop where
  named : parameter.1 ≠ []
  name : ∀ char ∈ parameter.1, isToken char = true
  given : parameter.2 ≠ []

theorem parted_parameters (parameters : List (List Char × List Char)) : Parted (parameters.flatMap writeParameter) := by
  cases parameters with
  | nil => exact nofun
  | cons parameter parameters =>
      intro char first
      obtain rfl : ';' = char := Option.some.inj first
      decide +kernel

theorem dropWhile_blank_token {token rest : List Char} (given : token ≠ [])
    (inside : ∀ char ∈ token, isToken char = true) : (token ++ rest).dropWhile isBlank = token ++ rest := by
  cases token with
  | nil => exact absurd rfl given
  | cons char token =>
      have word : isToken char = true := inside char List.mem_cons_self
      have solid : isBlank char = false := by
        by_contra blank
        simp only [isBlank, Bool.not_eq_false, Bool.or_eq_true, decide_eq_true_eq] at blank
        rcases blank with rfl | rfl
        · exact absurd word (by decide +kernel)
        · exact absurd word (by decide +kernel)
      rw [List.cons_append, List.dropWhile_cons_of_neg (by rw [solid]; exact Bool.false_ne_true)]

/-- **Parameters are read back.** -/
theorem readParameters_write {parameters : List (List Char × List Char)}
    (writable : ∀ parameter ∈ parameters, Writable parameter) {count : ℕ} (enough : parameters.length ≤ count) :
    readParameters count (parameters.flatMap writeParameter) = some parameters := by
  induction parameters generalizing count with
  | nil => cases count <;> rfl
  | cons parameter parameters ih =>
      obtain ⟨count, rfl⟩ := Nat.exists_eq_succ_of_ne_zero (Nat.ne_of_gt (Nat.zero_lt_of_lt enough))
      obtain ⟨named, name, given⟩ := writable parameter List.mem_cons_self
      have later := ih (fun other member => writable other (List.mem_cons_of_mem _ member)) (Nat.le_of_succ_le_succ enough)
      have equals : Parted ('=' :: (writeValue parameter.2 ++ parameters.flatMap writeParameter)) := by
        intro char first
        obtain rfl : '=' = char := Option.some.inj first
        decide +kernel
      have text : (parameter :: parameters).flatMap writeParameter =
          ';' :: ' ' :: (parameter.1 ++ '=' :: (writeValue parameter.2 ++ parameters.flatMap writeParameter)) := by
        rw [List.flatMap_cons, writeParameter, List.append_assoc, List.append_assoc]
        rfl
      have blank : (' ' :: (parameter.1 ++ '=' :: (writeValue parameter.2 ++
          parameters.flatMap writeParameter))).dropWhile isBlank =
          parameter.1 ++ '=' :: (writeValue parameter.2 ++ parameters.flatMap writeParameter) := by
        rw [List.dropWhile_cons_of_pos rfl]
        exact dropWhile_blank_token named name
      rw [text, readParameters]
      change (readToken ((' ' :: _).dropWhile isBlank) >>= _) = _
      rw [blank, readToken_append named name equals]
      change (readValue (writeValue parameter.2 ++ _) >>= _) = _
      rw [readValue_writeValue given (parted_parameters parameters)]
      change (readParameters count _ >>= _) = _
      rw [later]
      rfl

theorem length_le_flatMap (parameters : List (List Char × List Char)) :
    parameters.length ≤ (parameters.flatMap writeParameter).length := by
  induction parameters with
  | nil => exact Nat.zero_le _
  | cons parameter parameters ih =>
      have semicolon : 1 ≤ (writeParameter parameter).length := Nat.succ_le_succ (Nat.zero_le _)
      rw [List.flatMap_cons, List.length_append, List.length_cons]
      omega

/-! ### Media types -/

/-- A media type: its type, its subtype and its parameters. -/
structure Media where
  type : List Char
  subtype : List Char
  parameters : List (List Char × List Char)

/-- The media type that a text is. -/
def read (text : String) : Option Media := do
  let (type, rest) ← readToken text.toList
  match rest with
  | '/' :: rest =>
      let (subtype, rest) ← readToken rest
      let parameters ← readParameters rest.length rest
      some { type, subtype, parameters }
  | _ => none

/-- The text of a media type. -/
def write (media : Media) : String :=
  String.ofList (media.type ++ '/' :: (media.subtype ++ media.parameters.flatMap writeParameter))

/-- A media type that can be written. -/
structure Valid (media : Media) : Prop where
  typed : media.type ≠ []
  type : ∀ char ∈ media.type, isToken char = true
  subtyped : media.subtype ≠ []
  subtype : ∀ char ∈ media.subtype, isToken char = true
  parameters : ∀ parameter ∈ media.parameters, Writable parameter

/-- **A media type is read back as it was written.** -/
theorem read_write {media : Media} (valid : Valid media) : read (write media) = some media := by
  have slash : Parted ('/' :: (media.subtype ++ media.parameters.flatMap writeParameter)) := by
    intro char first
    obtain rfl : '/' = char := Option.some.inj first
    decide +kernel
  have enough : media.parameters.length ≤ (media.parameters.flatMap writeParameter).length :=
    length_le_flatMap media.parameters
  unfold read write
  rw [String.toList_ofList, readToken_append valid.typed valid.type slash]
  change (readToken (media.subtype ++ media.parameters.flatMap writeParameter) >>= _) = _
  rw [readToken_append valid.subtyped valid.subtype (parted_parameters media.parameters)]
  change (readParameters _ (media.parameters.flatMap writeParameter) >>= _) = _
  rw [readParameters_write valid.parameters enough]
  rfl

/-- A parameter after a written media type. -/
theorem write_append (media : Media) (parameter : List Char × List Char) :
    write media ++ String.ofList (writeParameter parameter) =
      write { media with parameters := media.parameters ++ [parameter] } := by
  unfold write
  rw [← String.ofList_append, List.append_assoc, List.cons_append, List.append_assoc]
  simp only [List.flatMap_append, List.flatMap_cons, List.flatMap_nil, List.append_nil]

end ProviderSimulator.Lib.MediaType
