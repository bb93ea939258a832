/-
**What stands at the front of a stream.**

`front` cuts the lines and the bodies out of the stream, and says what they are: a value in the encoding that RESP2
gives it, something else that the reader lets through, a refusal, or bytes that it cannot read at all. How the stream is
split matters only after a length below minus one.

* `front_gives` — the reader returns a value or a loose one, refuses a refusal, and raises another exception where
  the bytes are broken;
* `front_encodes` — a value at the front stands there in its standard encoding.
-/

import Mathlib.Tactic.Common
import ProviderSimulator.RespStore.Pieces

namespace ProviderSimulator.RespStore

open ProviderSimulator.Lib ProviderSimulator.Python ProviderSimulator.Domain

/-! ### The grammar -/

/-- What stands at the front. -/
inductive Front (T : Type)
  /-- A value in its standard encoding. There is none where the reader lets something else through: a number written
  in another way or out of its range, a text with a line feed inside, a length below minus one, or a body without its
  line end. -/
  | taken (value : Option T) (next : Reader)
  /-- A closed connection, an empty line, an unknown mark or an error of the store. -/
  | refused
  /-- A number that `int` does not read, bytes that are no UTF-8, or arrays nested too deep. -/
  | broken

namespace Front

variable {S T U : Type}

/-- A value where the condition holds. -/
def check (condition : Prop) [Decidable condition] (value : T) (next : Reader) : Front T :=
  .taken (if condition then some value else none) next

/-- One thing after another. -/
def andThen (first : Front S) (second : Reader → Front T) (join : S → T → U) : Front U :=
  match first with
  | .taken left next =>
      match second next with
      | .taken right last => .taken (left.bind fun one => right.map (join one)) last
      | .refused => .refused
      | .broken => .broken
  | .refused => .refused
  | .broken => .broken

/-- A value that stays one where the condition holds. -/
def keep (found : Front S) (condition : Prop) [Decidable condition] (make : S → T) : Front T :=
  match found with
  | .taken value next => .taken (if condition then value.map make else none) next
  | .refused => .refused
  | .broken => .broken

/-- A value or a refusal. -/
def Clean : Front T → Prop
  | .taken value _ => value.isSome = true
  | .refused => True
  | .broken => False

instance (found : Front T) : Decidable found.Clean :=
  match found with
  | .taken value _ => inferInstanceAs (Decidable (value.isSome = true))
  | .refused => inferInstanceAs (Decidable True)
  | .broken => inferInstanceAs (Decidable False)

end Front

/-- The header of a length: its own digits, and a length that the language can have. -/
def Header (rest : Bytes) (length : ℤ) : Prop := rest = decimalInt length ∧ 0 ≤ length ∧ length < 2 ^ 63

instance (rest : Bytes) (length : ℤ) : Decidable (Header rest length) := inferInstanceAs (Decidable (_ ∧ _ ∧ _))

/-- The items of an array. -/
def frontItems (front : Reader → Front RespValue) : ℕ → Reader → Front (List RespValue)
  | 0, reader => .taken (some []) reader
  | count + 1, reader => (front reader).andThen (frontItems front count) List.cons

/-- A simple string. -/
def frontSimple (rest : Bytes) (reader : Reader) : Front RespValue :=
  match Utf8.decode rest with
  | some text => .check (OneLine text) (.simple text) reader
  | none => .broken

/-- An error of the store. -/
def frontError (rest : Bytes) : Front RespValue :=
  match Utf8.decode rest with
  | some _ => .refused
  | none => .broken

/-- A number. -/
def frontInteger (rest : Bytes) (reader : Reader) : Front RespValue :=
  match intOf rest with
  | some number => .check (rest = decimalInt number ∧ Int64 number) (.integer number) reader
  | none => .broken

/-- A bulk string: a body of the length, and its line end. -/
def frontBulk (rest : Bytes) (reader : Reader) : Front RespValue :=
  match intOf rest with
  | some length =>
      if length = -1 then .check (rest = decimalInt (-1)) .nullBulk reader
      else if length < 0 then
        -- The slices count from the end of what has been received.
        .taken none ⟨reader.buf.drop (bound reader.buf (length + 2)), reader.pieces, reader.ending⟩
      else if reader.stream.length < length.toNat + 2 then .refused
      else
        .check (Header rest length ∧ (reader.stream.drop length.toNat).take 2 = crlf)
          (.bulk (reader.stream.take length.toNat)) (reader.skip (length.toNat + 2))
  | none => .broken

/-- An array. -/
def frontArray (items : ℕ → Reader → Front (List RespValue)) (rest : Bytes) (reader : Reader) : Front RespValue :=
  match intOf rest with
  | some count =>
      if count = -1 then .check (rest = decimalInt (-1)) .nullArray reader
      else (items count.toNat reader).keep (Header rest count) .array
  | none => .broken

/-- The front, from its first line on. -/
def frontKind (items : ℕ → Reader → Front (List RespValue)) (line : Bytes) (reader : Reader) : Front RespValue :=
  match line with
  | [] => .refused
  | kind :: rest =>
      if kind = simpleMark then frontSimple rest reader
      else if kind = errorMark then frontError rest
      else if kind = integerMark then frontInteger rest reader
      else if kind = bulkMark then frontBulk rest reader
      else if kind = arrayMark then frontArray items rest reader
      else .refused

/-- What stands at the front. -/
def front : ℕ → Reader → Front RespValue
  | 0, _ => .broken
  | room + 1, reader =>
      match cutLine reader.stream with
      | some (line, _) => frontKind (frontItems (front room)) line (reader.skip (line.length + 2))
      | none => .refused

/-! ### What the reader makes of it -/

/-- The reading gives what the front says. -/
def Front.Gives {S R : Type} (shown : S → R) (reading : Read (R × Reader)) : Front S → Prop
  | .taken value next => next.Live ∧ ∃ reply, reading = .ok (reply, next) ∧ ∀ given ∈ value, reply = shown given
  | .refused => ∃ error, reading = .error (.refused error)
  | .broken => ∃ error, reading = .error (.raised error)

section

variable {S T U R Q P : Type} {shown : S → R} {reading : Read (R × Reader)}

theorem gives_check (condition : Prop) [Decidable condition] {value : S} {next : Reader} (live : next.Live)
    (reads : reading = .ok (shown value, next)) : (Front.check condition value next).Gives shown reading := by
  refine ⟨live, shown value, reads, fun given member => ?_⟩
  split at member
  · cases member
    rfl
  · cases member

theorem gives_andThen {first : Front S} (gives : first.Gives shown reading) {second : Reader → Front T}
    {showing : T → Q} {later : Reader → Read (Q × Reader)}
    (goesOn : ∀ next, next.Live → (second next).Gives showing (later next))
    {join : S → T → U} {all : U → P} {both : R → Q → P} (joins : ∀ one two, all (join one two) = both (shown one) (showing two)) :
    (first.andThen second join).Gives all
      (reading >>= fun one => later one.2 >>= fun two => pure (both one.1 two.1, two.2)) := by
  cases first with
  | taken left next =>
      obtain ⟨live, reply, reads, left_eq⟩ := gives
      have after := goesOn next live
      rw [reads, ok_bind]
      unfold Front.andThen
      dsimp only
      cases found : second next with
      | taken right last =>
          rw [found] at after
          obtain ⟨alive, other, readsOn, right_eq⟩ := after
          rw [readsOn]
          refine ⟨alive, _, rfl, fun given member => ?_⟩
          obtain ⟨one, isLeft, isRight⟩ := Option.bind_eq_some_iff.mp member
          obtain ⟨two, isTwo, rfl⟩ := Option.map_eq_some_iff.mp isRight
          rw [joins, left_eq one isLeft, right_eq two isTwo]
      | refused =>
          rw [found] at after
          obtain ⟨error, fails⟩ := after
          rw [fails]
          exact ⟨error, rfl⟩
      | broken =>
          rw [found] at after
          obtain ⟨error, fails⟩ := after
          rw [fails]
          exact ⟨error, rfl⟩
  | refused =>
      obtain ⟨error, fails⟩ := gives
      rw [fails]
      exact ⟨error, rfl⟩
  | broken =>
      obtain ⟨error, fails⟩ := gives
      rw [fails]
      exact ⟨error, rfl⟩

theorem gives_keep {found : Front S} (gives : found.Gives shown reading) (condition : Prop) [Decidable condition]
    {make : S → T} {showing : T → Q} {build : R → Q} (builds : ∀ one, showing (make one) = build (shown one)) :
    (found.keep condition make).Gives showing (reading >>= fun one => pure (build one.1, one.2)) := by
  cases found with
  | taken value next =>
      obtain ⟨live, reply, reads, value_eq⟩ := gives
      rw [reads]
      refine ⟨live, _, rfl, fun given member => ?_⟩
      split at member
      · obtain ⟨one, isOne, rfl⟩ := Option.map_eq_some_iff.mp member
        rw [builds, value_eq one isOne]
      · cases member
  | refused =>
      obtain ⟨error, fails⟩ := gives
      rw [fails]
      exact ⟨error, rfl⟩
  | broken =>
      obtain ⟨error, fails⟩ := gives
      rw [fails]
      exact ⟨error, rfl⟩

end

/-- The items are read as they stand there. -/
theorem frontItems_gives {read : Reader → Read (Reply × Reader)} {front : Reader → Front RespValue}
    (gives : ∀ reader, reader.Live → (front reader).Gives RespValue.toReply (read reader)) (count : ℕ) {reader : Reader}
    (live : reader.Live) : (frontItems front count reader).Gives toReplies (readItems read count reader) := by
  induction count generalizing reader with
  | zero => exact ⟨live, [], rfl, fun given member => by cases member; rfl⟩
  | succ count ih => exact gives_andThen (gives reader live) (fun next alive => ih alive) fun _ _ => rfl

section

variable {items : ℕ → Reader → Read (List Reply × Reader)} {fronts : ℕ → Reader → Front (List RespValue)}

theorem frontBulk_gives (rest : Bytes) {reader : Reader} (live : reader.Live) :
    (frontBulk rest reader).Gives RespValue.toReply (do
      let length ← readInt rest
      if length = -1 then pure (.none, reader)
      else
        let (body, reader) ← reader.exactly length
        pure (.bytes body, reader)) := by
  unfold frontBulk readInt
  cases intOf rest with
  | none => exact ⟨_, rfl⟩
  | some length =>
      rw [ok_bind]
      dsimp only
      split
      · exact gives_check _ live rfl
      split
      · next negative =>
          rw [exactly_negative reader (by omega)]
          exact ⟨live, _, rfl, nofun⟩
      · next positive =>
          obtain ⟨count, rfl⟩ := Int.eq_ofNat_of_zero_le (Int.not_lt.mp positive)
          rw [Int.toNat_natCast]
          split
          · next short =>
              obtain ⟨refusal, fails⟩ := exactly_refused short
              rw [fails]
              exact ⟨refusal, rfl⟩
          · next enough =>
              rw [exactly_eq live (Nat.not_lt.mp enough)]
              exact gives_check _ ((skip_took reader _).live live) rfl

theorem frontArray_gives
    (gives : ∀ count reader, reader.Live → (fronts count reader).Gives toReplies (items count reader)) (rest : Bytes)
    {reader : Reader} (live : reader.Live) :
    (frontArray fronts rest reader).Gives RespValue.toReply (do
      let count ← readInt rest
      if count = -1 then pure (.none, reader)
      else
        let (found, reader) ← items count.toNat reader
        pure (.list found, reader)) := by
  unfold frontArray readInt
  cases intOf rest with
  | none => exact ⟨_, rfl⟩
  | some count =>
      rw [ok_bind]
      dsimp only
      split
      · exact gives_check _ live rfl
      · exact gives_keep (gives count.toNat reader live) _ fun _ => rfl

/-- **A line is read as what it is.** -/
theorem frontKind_gives
    (gives : ∀ count reader, reader.Live → (fronts count reader).Gives toReplies (items count reader)) (line : Bytes)
    {reader : Reader} (live : reader.Live) :
    (frontKind fronts line reader).Gives RespValue.toReply (readKind items line reader) := by
  unfold frontKind readKind
  cases line with
  | nil => exact ⟨_, rfl⟩
  | cons kind rest =>
      dsimp only
      split
      · unfold frontSimple readText
        cases Utf8.decode rest with
        | some text => exact gives_check _ live rfl
        | none => exact ⟨_, rfl⟩
      split
      · unfold frontError readText
        cases Utf8.decode rest with
        | some text => exact ⟨_, rfl⟩
        | none => exact ⟨_, rfl⟩
      split
      · unfold frontInteger readInt
        cases intOf rest with
        | some number => exact gives_check _ live rfl
        | none => exact ⟨_, rfl⟩
      split
      · exact frontBulk_gives rest live
      split
      · exact frontArray_gives gives rest live
      · exact ⟨_, rfl⟩

end

/-- **The reader gives what the front says.** -/
theorem front_gives (room : ℕ) {reader : Reader} (live : reader.Live) :
    (front room reader).Gives RespValue.toReply (readReply room reader) := by
  induction room generalizing reader with
  | zero => exact ⟨_, rfl⟩
  | succ room ih =>
      unfold front readReply
      cases found : cutLine reader.stream with
      | some cut =>
          rw [line_eq live found]
          refine frontKind_gives (fun count next alive => frontItems_gives (fun other => ih) count alive) cut.1 ?_
          exact (skip_took reader _).live live
      | none =>
          obtain ⟨refusal, fails⟩ := line_refused found
          rw [fails]
          exact ⟨refusal, rfl⟩

/-! ### Values stand there in their encodings -/

theorem decimalInt_natCast (number : ℕ) : decimalInt number = decimal number := by
  unfold decimalInt
  rw [if_neg (by omega), Int.natAbs_natCast]

/-- A value of the front is valid, and the stream begins with its encoding. -/
def Front.Encodes {T : Type} (valid : T → Prop) (wire : T → Bytes) (reader : Reader) : Front T → Prop
  | .taken value next => ∀ given ∈ value, valid given ∧ reader.stream = wire given ++ next.stream
  | .refused => True
  | .broken => True

theorem encodes_check {T : Type} {valid : T → Prop} {wire : T → Bytes} {reader next : Reader} {condition : Prop}
    [Decidable condition] {value : T}
    (holds : condition → valid value ∧ reader.stream = wire value ++ next.stream) :
    (Front.check condition value next).Encodes valid wire reader := by
  intro given member
  split at member
  · next met =>
      cases member
      exact holds met
  · cases member

theorem frontItems_encodes {front : Reader → Front RespValue}
    (encodes : ∀ reader, (front reader).Encodes RespValue.Valid RespValue.wire reader) (count : ℕ) (reader : Reader) :
    (frontItems front count reader).Encodes (fun items => ValidItems items ∧ items.length = count) wireItems reader := by
  induction count generalizing reader with
  | zero =>
      intro given member
      cases member
      exact ⟨⟨trivial, rfl⟩, rfl⟩
  | succ count ih =>
      have first := encodes reader
      unfold frontItems Front.andThen
      cases found : front reader with
      | refused => exact trivial
      | broken => exact trivial
      | taken left next =>
          rw [found] at first
          have later := ih next
          dsimp only
          cases after : frontItems front count next with
          | refused => exact trivial
          | broken => exact trivial
          | taken right last =>
              rw [after] at later
              intro given member
              obtain ⟨item, isItem, rest⟩ := Option.bind_eq_some_iff.mp member
              obtain ⟨items, areItems, rfl⟩ := Option.map_eq_some_iff.mp rest
              obtain ⟨valid, here⟩ := first item isItem
              obtain ⟨⟨others, count_eq⟩, there⟩ := later items areItems
              refine ⟨⟨?_, congrArg Nat.succ count_eq⟩, ?_⟩
              · rw [ValidItems]
                exact ⟨valid, others⟩
              · rw [wireItems, here, there, List.append_assoc]

section

variable {rest : Bytes} {start reader : Reader}

theorem frontSimple_encodes (cut : start.stream = simpleMark :: rest ++ crlf ++ reader.stream) :
    (frontSimple rest reader).Encodes RespValue.Valid RespValue.wire start := by
  unfold frontSimple
  cases decoded : Utf8.decode rest with
  | none => exact trivial
  | some text =>
      refine encodes_check fun oneLine => ⟨by rwa [RespValue.Valid], ?_⟩
      rw [cut, RespValue.wire, Utf8.decode_eq_some_iff.mp decoded]
      rfl

theorem frontError_encodes : (frontError rest).Encodes RespValue.Valid RespValue.wire start := by
  unfold frontError
  cases Utf8.decode rest with
  | none => exact trivial
  | some text => exact trivial

theorem frontInteger_encodes (cut : start.stream = integerMark :: rest ++ crlf ++ reader.stream) :
    (frontInteger rest reader).Encodes RespValue.Valid RespValue.wire start := by
  unfold frontInteger
  cases intOf rest with
  | none => exact trivial
  | some number =>
      refine encodes_check fun standard => ⟨?_, ?_⟩
      · rw [RespValue.Valid]
        exact standard.2
      · rw [cut, RespValue.wire, standard.1]
        rfl

theorem frontBulk_encodes (cut : start.stream = bulkMark :: rest ++ crlf ++ reader.stream) :
    (frontBulk rest reader).Encodes RespValue.Valid RespValue.wire start := by
  unfold frontBulk
  cases intOf rest with
  | none => exact trivial
  | some length =>
      dsimp only
      split
      · refine encodes_check fun standard => ⟨by rw [RespValue.Valid]; exact trivial, ?_⟩
        rw [cut, RespValue.wire, standard]
        rfl
      split
      · nofun
      split
      · exact trivial
      · next enough =>
          refine encodes_check fun standard => ?_
          obtain ⟨⟨digits, positive, small⟩, ends⟩ := standard
          obtain ⟨count, rfl⟩ := Int.eq_ofNat_of_zero_le positive
          rw [Int.toNat_natCast] at enough ends ⊢
          have size : (reader.stream.take count).length = count := by
            rw [List.length_take]
            omega
          -- The body, its line end, and what comes after.
          have whole : reader.stream = reader.stream.take count ++ crlf ++ (reader.skip (count + 2)).stream := by
            rw [skip_stream, ← List.drop_drop, ← ends, List.append_assoc, List.take_append_drop, List.take_append_drop]
          refine ⟨?_, ?_⟩
          · rw [RespValue.Valid, size]
            exact_mod_cast small
          · rw [cut, RespValue.wire, encodePart, digits, decimalInt_natCast, size]
            nth_rewrite 1 [whole]
            simp only [List.cons_append, List.append_assoc]

theorem frontArray_encodes {fronts : ℕ → Reader → Front (List RespValue)}
    (encodes : ∀ count reader, (fronts count reader).Encodes
      (fun items => ValidItems items ∧ items.length = count) wireItems reader)
    (cut : start.stream = arrayMark :: rest ++ crlf ++ reader.stream) :
    (frontArray fronts rest reader).Encodes RespValue.Valid RespValue.wire start := by
  unfold frontArray
  cases intOf rest with
  | none => exact trivial
  | some count =>
      dsimp only
      split
      · refine encodes_check fun standard => ⟨by rw [RespValue.Valid]; exact trivial, ?_⟩
        rw [cut, RespValue.wire, standard]
        rfl
      · have inside := encodes count.toNat reader
        cases found : fronts count.toNat reader with
        | refused => exact trivial
        | broken => exact trivial
        | taken value next =>
            rw [found] at inside
            intro given member
            split at member
            · next standard =>
                obtain ⟨digits, positive, small⟩ := standard
                obtain ⟨items, areItems, rfl⟩ := Option.map_eq_some_iff.mp member
                obtain ⟨⟨valid, size⟩, there⟩ := inside items areItems
                obtain ⟨number, rfl⟩ := Int.eq_ofNat_of_zero_le positive
                rw [Int.toNat_natCast] at size
                refine ⟨?_, ?_⟩
                · rw [RespValue.Valid, size]
                  exact ⟨by exact_mod_cast small, valid⟩
                · rw [cut, RespValue.wire, digits, there, decimalInt_natCast, size]
                  simp only [List.cons_append, List.append_assoc]
            · cases member

end

/-- **A value at the front stands there in its standard encoding.** -/
theorem front_encodes (room : ℕ) (reader : Reader) :
    (front room reader).Encodes RespValue.Valid RespValue.wire reader := by
  induction room generalizing reader with
  | zero => exact trivial
  | succ room ih =>
      unfold front
      cases found : cutLine reader.stream with
      | none => exact trivial
      | some cut =>
          obtain ⟨line, rest⟩ := cut
          dsimp only
          have starts : reader.stream = line ++ crlf ++ (reader.skip (line.length + 2)).stream := by
            have cut := eq_of_cutLine found
            rw [← length_line, (skip_append cut).1]
            exact cut
          unfold frontKind
          cases line with
          | nil => exact trivial
          | cons kind rest =>
              dsimp only
              split
              · next is => exact frontSimple_encodes (is ▸ starts)
              split
              · exact frontError_encodes
              split
              · next is => exact frontInteger_encodes (is ▸ starts)
              split
              · next is => exact frontBulk_encodes (is ▸ starts)
              split
              · next is => exact frontArray_encodes (frontItems_encodes ih) (is ▸ starts)
              · exact trivial

end ProviderSimulator.RespStore
