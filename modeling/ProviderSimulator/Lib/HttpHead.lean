/-
**The head of an HTTP message.**

A head is a start line and fields, each on a line of its own, up to the empty line. Lines end at `CRLF`; a field is a
name before the first colon and a value after it, without the spaces and tabs around it.

* `readHead` — the head in front of bytes, and `writeHead` — the bytes of a head;
* `readHead_writeHead` — **what is written is read back**, with each value trimmed, where no line holds a `CRLF` and no
  name a colon;
* `readHead_clean` — whatever the bytes are, a value that is read is trimmed and holds no `CRLF`. So a value that is not
  so cannot arrive.
-/

import Mathlib.Tactic.Common
import Mathlib.Data.List.DropRight

namespace ProviderSimulator.Lib.HttpHead

/-! ### Lines -/

/-- The line in front of the bytes, and what follows its `CRLF`. -/
def takeLine : List UInt8 → Option (List UInt8 × List UInt8)
  | [] => none
  | byte :: rest =>
      if byte = 13 ∧ rest.head? = some 10 then some ([], rest.tail)
      else (takeLine rest).map fun found => (byte :: found.1, found.2)

/-- The bytes hold no `CRLF`. -/
def NoBreak (bytes : List UInt8) : Prop := ¬ [13, 10] <:+: bytes

theorem NoBreak.part {part whole : List UInt8} (clean : NoBreak whole) (inside : part <:+: whole) : NoBreak part :=
  fun broken => clean (broken.trans inside)

theorem noBreak_of_notMem {bytes : List UInt8} (absent : 13 ∉ bytes) : NoBreak bytes :=
  fun broken => absent (broken.subset (by simp))

/-- Bytes with no `CRLF`, after bytes with no `CR`. -/
theorem NoBreak.after {front back : List UInt8} (clean : NoBreak back) (absent : 13 ∉ front) : NoBreak (front ++ back) := by
  induction front with
  | nil => exact clean
  | cons byte front ih =>
      rw [List.mem_cons, not_or] at absent
      intro broken
      rcases List.infix_cons_iff.mp broken with starts | inside
      · obtain ⟨tail, same⟩ := starts
        exact absent.1 (List.cons.inj same).1
      · exact ih absent.2 inside

/-- A line and its `CRLF` are read as this line. -/
theorem takeLine_append {line : List UInt8} (clean : NoBreak line) (rest : List UInt8) :
    takeLine (line ++ 13 :: 10 :: rest) = some (line, rest) := by
  induction line with
  | nil => rfl
  | cons byte line ih =>
      have later : NoBreak line := clean.part (List.suffix_cons byte line).isInfix
      have inside : ¬ (byte = 13 ∧ (line ++ 13 :: 10 :: rest).head? = some 10) := by
        rintro ⟨rfl, next⟩
        cases line with
        | nil => cases next
        | cons second line =>
            obtain rfl : second = 10 := Option.some.inj next
            exact clean (List.IsPrefix.isInfix ⟨line, rfl⟩)
      rw [List.cons_append, takeLine, if_neg inside, ih later]
      rfl

/-- A line that is read is in the bytes, and holds no `CRLF`. -/
theorem takeLine_spec {bytes line rest : List UInt8} (found : takeLine bytes = some (line, rest)) :
    bytes = line ++ 13 :: 10 :: rest ∧ NoBreak line := by
  induction bytes generalizing line rest with
  | nil => cases found
  | cons byte bytes ih =>
      rw [takeLine] at found
      by_cases ends : byte = 13 ∧ bytes.head? = some 10
      · rw [if_pos ends] at found
        cases found
        obtain ⟨rfl, next⟩ := ends
        cases bytes with
        | nil => cases next
        | cons second bytes =>
            obtain rfl : second = 10 := Option.some.inj next
            exact ⟨rfl, fun broken => by simp at broken⟩
      · rw [if_neg ends] at found
        obtain ⟨⟨line', rest'⟩, read, same⟩ := Option.map_eq_some_iff.mp found
        cases same
        obtain ⟨split, clean⟩ := ih read
        refine ⟨congrArg (byte :: ·) split, fun broken => ?_⟩
        rcases List.infix_cons_iff.mp broken with front | inside
        · obtain ⟨tail, front⟩ := front
          obtain ⟨rfl, next⟩ := List.cons.inj front
          have starts : line' = 10 :: tail := next.symm
          refine ends ⟨rfl, ?_⟩
          rw [split, starts]
          rfl
        · exact clean inside

/-- The lines up to the empty one, and what follows it. The count is larger than the number of lines. -/
def takeLines : ℕ → List UInt8 → Option (List (List UInt8) × List UInt8)
  | 0, _ => none
  | count + 1, bytes =>
      match takeLine bytes with
      | none => none
      | some ([], rest) => some ([], rest)
      | some (line, rest) => (takeLines count rest).map fun found => (line :: found.1, found.2)

/-- A line with its end. -/
def writeLine (line : List UInt8) : List UInt8 := line ++ [13, 10]

theorem takeLines_write {lines : List (List UInt8)} (clean : ∀ line ∈ lines, line ≠ [] ∧ NoBreak line)
    (rest : List UInt8) {count : ℕ} (enough : lines.length < count) :
    takeLines count (lines.flatMap writeLine ++ 13 :: 10 :: rest) = some (lines, rest) := by
  induction lines generalizing count with
  | nil =>
      obtain ⟨count, rfl⟩ := Nat.exists_eq_succ_of_ne_zero (Nat.ne_of_gt enough)
      rfl
  | cons line lines ih =>
      obtain ⟨count, rfl⟩ := Nat.exists_eq_succ_of_ne_zero (Nat.ne_of_gt (Nat.zero_lt_of_lt enough))
      obtain ⟨given, unbroken⟩ := clean line List.mem_cons_self
      have here : takeLine ((line :: lines).flatMap writeLine ++ 13 :: 10 :: rest) =
          some (line, lines.flatMap writeLine ++ 13 :: 10 :: rest) := by
        rw [List.flatMap_cons, writeLine, List.append_assoc, List.append_assoc]
        exact takeLine_append unbroken _
      have later := ih (fun other member => clean other (List.mem_cons_of_mem _ member))
        (Nat.lt_of_succ_lt_succ enough)
      rw [takeLines, here]
      split
      · next none => cases none
      · next empty => exact absurd (congrArg Prod.fst (Option.some.inj empty)) given
      · next found =>
          cases found
          rw [later]
          rfl

theorem takeLines_noBreak {count : ℕ} {bytes rest : List UInt8} {lines : List (List UInt8)}
    (found : takeLines count bytes = some (lines, rest)) : ∀ line ∈ lines, NoBreak line := by
  induction count generalizing bytes lines with
  | zero => cases found
  | succ count ih =>
      rw [takeLines] at found
      split at found
      · cases found
      · cases found
        exact nofun
      · next here =>
          obtain ⟨⟨lines', rest'⟩, later, same⟩ := Option.map_eq_some_iff.mp found
          cases same
          intro line member
          rcases List.mem_cons.mp member with rfl | member
          · exact (takeLine_spec here).2
          · exact ih later line member

/-! ### Values -/

/-- A space or a tab. -/
def isBlank (byte : UInt8) : Bool := byte = 32 || byte = 9

/-- The bytes without the spaces and tabs around them. -/
def trim (bytes : List UInt8) : List UInt8 := (bytes.dropWhile isBlank).rdropWhile isBlank

theorem trim_part (bytes : List UInt8) : trim bytes <:+: bytes := by
  have front : trim bytes <+: bytes.dropWhile isBlank := List.rdropWhile_prefix isBlank _
  exact front.isInfix.trans (List.dropWhile_suffix isBlank).isInfix

/-- **What trimming leaves as it is**: bytes with no space and no tab at their ends. -/
theorem trim_eq_self_iff {bytes : List UInt8} :
    trim bytes = bytes ↔ (∀ byte ∈ bytes.head?, isBlank byte = false) ∧ ∀ byte ∈ bytes.getLast?, isBlank byte = false := by
  cases bytes with
  | nil => simp [trim]
  | cons byte rest =>
      have front : (byte :: rest).dropWhile isBlank = byte :: rest ↔ isBlank byte = false := by
        rw [List.dropWhile_eq_self_iff]
        simp
      have back : (byte :: rest).rdropWhile isBlank = byte :: rest ↔
          ∀ last ∈ (byte :: rest).getLast?, isBlank last = false := by
        rw [List.rdropWhile_eq_self_iff]
        simp [List.getLast?_eq_some_getLast]
      have kept : trim (byte :: rest) = byte :: rest → (byte :: rest).dropWhile isBlank = byte :: rest := by
        intro same
        have front : trim (byte :: rest) <+: (byte :: rest).dropWhile isBlank := List.rdropWhile_prefix isBlank _
        have shorter := front.length_le
        have suffix : (byte :: rest).dropWhile isBlank <:+ byte :: rest := List.dropWhile_suffix isBlank
        exact suffix.eq_of_length_le ((congrArg List.length same).symm.le.trans shorter)
      rw [← back]
      simp only [List.head?_cons, Option.mem_some_iff, forall_eq']
      constructor
      · intro same
        have whole := kept same
        refine ⟨front.mp whole, ?_⟩
        unfold trim at same
        rwa [whole] at same
      · rintro ⟨first, last⟩
        unfold trim
        rw [front.mpr first, last]

theorem trim_trim (bytes : List UInt8) : trim (trim bytes) = trim bytes := by
  rw [trim_eq_self_iff]
  constructor
  · intro byte first
    -- The first byte that is left is the first one that is no blank.
    have front : trim bytes <+: bytes.dropWhile isBlank := List.rdropWhile_prefix isBlank _
    have starts : (bytes.dropWhile isBlank).head? = some byte := by
      obtain ⟨tail, same⟩ := front
      rw [← same, List.head?_append, Option.mem_def.mp first]
      rfl
    have unblank := List.head?_dropWhile_not isBlank bytes
    rw [starts] at unblank
    exact unblank
  · intro byte last
    obtain ⟨given, same⟩ := List.mem_getLast?_eq_getLast last
    have unblank : ¬ isBlank ((trim bytes).getLast given) = true := List.rdropWhile_last_not isBlank _ given
    rw [same]
    simpa using unblank

theorem trim_space (bytes : List UInt8) : trim (32 :: bytes) = trim bytes := rfl

/-! ### Heads -/

/-- A field: the name before the first colon, and the value after it. -/
def readField (line : List UInt8) : Option (List UInt8 × List UInt8) :=
  match line.dropWhile fun byte => byte ≠ 58 with
  | [] => none
  | _ :: value => some (line.takeWhile fun byte => byte ≠ 58, trim value)

/-- The line of a field. -/
def fieldLine (field : List UInt8 × List UInt8) : List UInt8 := field.1 ++ 58 :: 32 :: field.2

/-- A head, and the bytes after it. -/
structure Head where
  start : List UInt8
  fields : List (List UInt8 × List UInt8)
  rest : List UInt8

/-- The head in front of the bytes. -/
def readHead (bytes : List UInt8) : Option Head := do
  let (lines, rest) ← takeLines bytes.length bytes
  match lines with
  | [] => none
  | start :: lines => pure ⟨start, ← lines.mapM readField, rest⟩

/-- The bytes of a head. -/
def writeHead (start : List UInt8) (fields : List (List UInt8 × List UInt8)) : List UInt8 :=
  (start :: fields.map fieldLine).flatMap writeLine ++ [13, 10]

theorem readField_fieldLine {field : List UInt8 × List UInt8} (name : 58 ∉ field.1) :
    readField (fieldLine field) = some (field.1, trim field.2) := by
  have other : ∀ byte ∈ field.1, decide (byte ≠ 58) = true := by
    intro byte member
    rw [decide_eq_true_iff]
    rintro rfl
    exact name member
  unfold readField fieldLine
  rw [List.dropWhile_append_of_pos other, List.takeWhile_append_of_pos other]
  simp [trim_space]

theorem writeLines_length (lines : List (List UInt8)) : lines.length ≤ (lines.flatMap writeLine).length := by
  induction lines with
  | nil => exact Nat.le_refl 0
  | cons line lines ih =>
      rw [List.flatMap_cons, List.length_append, List.length_cons, writeLine, List.length_append]
      simp only [List.length_cons, List.length_nil]
      omega

/-- **What is written is read back**, with each value trimmed. -/
theorem readHead_writeHead {start : List UInt8} {fields : List (List UInt8 × List UInt8)} (given : start ≠ [])
    (unbroken : NoBreak start) (clean : ∀ field ∈ fields, 58 ∉ field.1 ∧ NoBreak (fieldLine field)) :
    readHead (writeHead start fields) = some ⟨start, fields.map fun field => (field.1, trim field.2), []⟩ := by
  have lines : ∀ line ∈ start :: fields.map fieldLine, line ≠ [] ∧ NoBreak line := by
    intro line member
    rcases List.mem_cons.mp member with rfl | member
    · exact ⟨given, unbroken⟩
    · obtain ⟨field, listed, rfl⟩ := List.mem_map.mp member
      exact ⟨by simp [fieldLine], (clean field listed).2⟩
  have enough : (start :: fields.map fieldLine).length < (writeHead start fields).length := by
    have many := writeLines_length (start :: fields.map fieldLine)
    unfold writeHead
    rw [List.length_append]
    simp only [List.length_cons, List.length_nil] at many ⊢
    omega
  have taken : takeLines (writeHead start fields).length (writeHead start fields) =
      some (start :: fields.map fieldLine, []) := takeLines_write lines [] enough
  have read : (fields.map fieldLine).mapM readField = some (fields.map fun field => (field.1, trim field.2)) := by
    clear lines enough taken
    induction fields with
    | nil => rfl
    | cons field fields ih =>
        have later := ih fun other member => clean other (List.mem_cons_of_mem _ member)
        rw [List.map_cons, List.mapM_cons, readField_fieldLine (clean field List.mem_cons_self).1, later]
        rfl
  unfold readHead
  rw [taken]
  change ((fields.map fieldLine).mapM readField >>= fun read => some (Head.mk start read [])) = _
  rw [read]
  rfl

/-- A value is read from its line. -/
theorem readField_clean {line : List UInt8} {field : List UInt8 × List UInt8} (read : readField line = some field)
    (unbroken : NoBreak line) : trim field.2 = field.2 ∧ NoBreak field.2 := by
  unfold readField at read
  split at read
  · cases read
  · next colon value rest =>
      cases read
      have inside : value <:+: line :=
        ((List.suffix_cons colon value).trans (rest ▸ List.dropWhile_suffix _)).isInfix
      exact ⟨trim_trim value, unbroken.part ((trim_part value).trans inside)⟩

theorem readFields_clean {lines : List (List UInt8)} {fields : List (List UInt8 × List UInt8)}
    (read : lines.mapM readField = some fields) (unbroken : ∀ line ∈ lines, NoBreak line) :
    ∀ field ∈ fields, trim field.2 = field.2 ∧ NoBreak field.2 := by
  induction lines generalizing fields with
  | nil =>
      cases read
      exact nofun
  | cons line lines ih =>
      rw [List.mapM_cons] at read
      obtain ⟨field, first, read⟩ := Option.bind_eq_some_iff.mp read
      obtain ⟨others, later, same⟩ := Option.bind_eq_some_iff.mp read
      cases same
      intro other member
      rcases List.mem_cons.mp member with rfl | member
      · exact readField_clean first (unbroken line List.mem_cons_self)
      · exact ih later (fun line member => unbroken line (List.mem_cons_of_mem _ member)) other member

/-- **A value that is read** is trimmed, and holds no `CRLF`. -/
theorem readHead_clean {bytes : List UInt8} {head : Head} (read : readHead bytes = some head) :
    ∀ field ∈ head.fields, trim field.2 = field.2 ∧ NoBreak field.2 := by
  unfold readHead at read
  obtain ⟨⟨lines, rest⟩, taken, read⟩ := Option.bind_eq_some_iff.mp read
  cases lines with
  | nil => cases read
  | cons start lines =>
      obtain ⟨fields, split, same⟩ := Option.bind_eq_some_iff.mp read
      cases same
      exact readFields_clean split fun line member => takeLines_noBreak taken line (List.mem_cons_of_mem _ member)

end ProviderSimulator.Lib.HttpHead
