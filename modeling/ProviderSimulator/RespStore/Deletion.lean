/-
**Scanning and deleting, where the keys are texts.**

* `Lists` — the texts of exactly the matching keys, in order and each once; `lists_of_pages` gets it from the pages;
* `flatten_batches` — the slices of a list are the list;
* `deleteOn_removes` — the loop over the batches removes the keys that they name, and counts them;
* `scan_and_delete` — **the whole statement**, for every way to page and every way to split the replies.
-/

import Mathlib.Tactic.Common
import ProviderSimulator.RespStore.Scan

namespace ProviderSimulator.RespStore

open ProviderSimulator.Lib ProviderSimulator.Python ProviderSimulator.Domain

/-! ### Keys that are texts -/

/-- Every key is the bytes of a text. -/
def Content.Texts (content : Content) : Prop := ∀ key ∈ content.rows.keys, ∃ text, key = Utf8.encode text

/-- The texts of exactly the matching keys, in order and each once. -/
structure Lists (content : Content) (matching : Bytes → Bool) (keys : List String) : Prop where
  sorted : keys.Pairwise (· < ·)
  exact : ∀ key, key ∈ keys.map Utf8.encode ↔ key ∈ content.rows.keys ∧ matching key = true

theorem lists_of_pages {link : Link} {conn : Conn} {matching : Bytes → Bool} {count : ℕ} (texts : conn.content.Texts)
    (pages : Pages link conn matching count) : Lists conn.content matching (gathered link conn.scans (count + 1)) := by
  refine ⟨gathered_sorted link conn.scans (count + 1), fun key => ?_⟩
  rw [List.mem_map]
  constructor
  · rintro ⟨text, inside, rfl⟩
    obtain ⟨key, held, is, rfl⟩ := (mem_gathered_of_pages pages).mp inside
    obtain ⟨text, rfl⟩ := texts key held
    rw [Utf8.decodeReplace_encode]
    exact ⟨held, is⟩
  · rintro ⟨held, is⟩
    obtain ⟨text, rfl⟩ := texts key held
    refine ⟨text, (mem_gathered_of_pages pages).mpr ⟨_, held, is, ?_⟩, rfl⟩
    exact Utf8.decodeReplace_encode text

theorem Lists.nodup {content : Content} {matching : Bytes → Bool} {keys : List String} (lists : Lists content matching keys) :
    (keys.map Utf8.encode).Nodup :=
  (lists.sorted.imp ne_of_lt).map Utf8.encode fun _ _ other same => other (Utf8.encode_injective same)

/-! ### Batches -/

theorem flatten_slices {T : Type} (size : ℕ) (list : List T) (count : ℕ) :
    ((List.range count).map fun index => (list.drop (index * size)).take size).flatten = list.take (count * size) := by
  induction count with
  | zero =>
      rw [Nat.zero_mul, List.take_zero]
      rfl
  | succ count ih =>
      rw [List.range_succ, List.map_append, List.flatten_append, ih, Nat.succ_mul, List.take_add]
      simp only [List.map_cons, List.map_nil, List.flatten_cons, List.flatten_nil, List.append_nil]

/-- **The slices of a list are the list.** -/
theorem flatten_batches {T : Type} {size : ℕ} (positive : 0 < size) (list : List T) : (batches size list).flatten = list := by
  unfold batches
  rw [flatten_slices, List.take_of_length_le]
  have enough := Nat.lt_div_mul_add positive (a := list.length + size - 1)
  omega

theorem length_of_mem_batches {T : Type} {size : ℕ} {list batch : List T} (member : batch ∈ batches size list) :
    batch.length ≤ size := by
  obtain ⟨index, -, rfl⟩ := List.mem_map.mp member
  exact List.length_take_le _ _

/-! ### The loop over the batches -/

section

variable {conn : Conn}

theorem without_nil (content : Content) : (content.without []).rows = content.rows := by
  show content.rows.filter _ = _
  refine List.filter_eq_self.mpr fun row _ => ?_
  exact decide_eq_true List.not_mem_nil

theorem without_without (content : Content) (first second : List Bytes) :
    ((content.without first).without second).rows = (content.without (first ++ second)).rows := by
  show (content.rows.filter _).filter _ = content.rows.filter _
  rw [List.filter_filter]
  refine List.filter_congr fun row _ => ?_
  simp only [List.mem_append, not_or, Bool.decide_and]
  exact Bool.and_comm _ _

theorem without_le (content : Content) (keys : List Bytes) : (content.without keys).rows.length ≤ content.rows.length :=
  List.length_filter_le _ _

theorem deletesOf_del (log : List (List Bytes)) (keys : List Bytes) :
    deletesOf (log ++ [Utf8.encode "DEL" :: keys]) = deletesOf log ++ [keys] := deletesOf_append log _

/-- The loop removes the keys that the batches name, and counts them. -/
theorem deleteOn_removes (link : Link) (empty : conn.inbox = []) (removed : ℤ) (all : List (List String)) :
    ∃ after, perform (deleteOn link removed all) conn =
        (.ok (removed + conn.content.removed (all.flatten.map Utf8.encode)), after) ∧
      after.content.rows = (conn.content.without (all.flatten.map Utf8.encode)).rows ∧
      deletesOf after.log = deletesOf conn.log ++ all.map (List.map Utf8.encode) := by
  induction all generalizing conn removed with
  | nil =>
      refine ⟨conn, ?_, (without_nil conn.content).symm, (List.append_nil _).symm⟩
      have none : conn.content.removed [] = 0 := by
        unfold Content.removed
        rw [without_nil, Nat.sub_self]
      rw [List.flatten_nil, List.map_nil, none]
      show (Except.ok removed, conn) = _
      rw [Nat.cast_zero, add_zero]
  | cons batch rest ih =>
      have clean : (conn.deleted (batch.map Utf8.encode)).inbox = [] := empty
      have same := without_without conn.content (batch.map Utf8.encode) (rest.flatten.map Utf8.encode)
      obtain ⟨after, does, rows, deletes⟩ := ih clean (removed + conn.content.removed (batch.map Utf8.encode))
      refine ⟨after, ?_, ?_, ?_⟩
      · rw [deleteOn, perform_bind (ask_del empty _)]
        refine does.trans ?_
        have first := without_le conn.content (batch.map Utf8.encode)
        have second := without_le (conn.content.without (batch.map Utf8.encode)) (rest.flatten.map Utf8.encode)
        have total : conn.content.removed (batch.map Utf8.encode) +
            (conn.content.without (batch.map Utf8.encode)).removed (rest.flatten.map Utf8.encode) =
            conn.content.removed ((batch :: rest).flatten.map Utf8.encode) := by
          rw [List.flatten_cons, List.map_append]
          unfold Content.removed
          rw [← same]
          omega
        rw [← total, Nat.cast_add, add_assoc]
        rfl
      · rw [List.flatten_cons, List.map_append, ← same]
        exact rows
      · rw [deletes]
        show deletesOf (conn.log ++ [Utf8.encode "DEL" :: batch.map Utf8.encode]) ++ _ = _
        rw [deletesOf_del, List.append_assoc]
        rfl

end

/-! ### The whole statement -/

/-- What `delete_matching` did: the matching keys are gone and every other key is there, it counted the keys that went,
and each of them was named in one batch. -/
structure Deleted (matching : Bytes → Bool) (before after : Conn) (removed : ℤ) : Prop where
  rows : after.content.rows = before.content.rows.filter fun row => !matching row.1
  count : removed = (before.content.rows.filter fun row => matching row.1).length
  named : ∃ named, deletesOf after.log = deletesOf before.log ++ named ∧
    (∀ batch ∈ named, batch.length ≤ deleteBatch) ∧ named.flatten.Nodup ∧
    ∀ key, key ∈ named.flatten ↔ key ∈ before.content.rows.keys ∧ matching key = true

/-- A connection of its own, on which nothing is waiting. -/
def Conn.fresh (content : Content) (scans : ℕ) (log : List (List Bytes)) : Conn := ⟨content, scans, log, []⟩

section

variable {content : Content} {matching : Bytes → Bool} {keys : List String}

/-- Without the listed keys, the rows are those that do not match. -/
theorem Lists.without (lists : Lists content matching keys) :
    (content.without (keys.map Utf8.encode)).rows = content.rows.filter fun row => !matching row.1 := by
  refine List.filter_congr fun row member => ?_
  have held : row.1 ∈ content.rows.keys := List.mem_map_of_mem member
  have is := lists.exact row.1
  cases found : matching row.1 with
  | true => exact decide_eq_false (not_not_intro (is.mpr ⟨held, found⟩))
  | false =>
      refine decide_eq_true fun inside => ?_
      rw [(is.mp inside).2] at found
      cases found

/-- As many go as match. -/
theorem Lists.removed (lists : Lists content matching keys) :
    content.removed (keys.map Utf8.encode) = (content.rows.filter fun row => matching row.1).length := by
  have split := List.length_eq_length_filter_add (fun row : Bytes × Item => matching row.1) (l := content.rows)
  unfold Content.removed
  rw [lists.without]
  omega

end

/-- No key is no batch. -/
theorem deleteOn_batches (link : Link) (keys : List String) :
    (if keys.isEmpty then pure 0 else deleteOn link 0 (batches deleteBatch keys)) =
      deleteOn link 0 (batches deleteBatch keys) := by
  cases keys with
  | nil => rfl
  | cons first rest => rfl

/-- Deleting what was listed. -/
theorem deleted_of_lists (link : Link) {conn : Conn} (empty : conn.inbox = []) {matching : Bytes → Bool} {keys : List String}
    (lists : Lists conn.content matching keys) :
    ∃ removed after, perform (deleteOn link 0 (batches deleteBatch keys)) conn = (.ok removed, after) ∧
      Deleted matching conn after removed := by
  have whole : (batches deleteBatch keys).flatten = keys := flatten_batches (by decide) keys
  have names : ((batches deleteBatch keys).map (List.map Utf8.encode)).flatten = keys.map Utf8.encode := by
    rw [← List.map_flatten, whole]
  obtain ⟨after, does, rows, deletes⟩ := deleteOn_removes link empty 0 (batches deleteBatch keys)
  rw [whole] at does rows
  refine ⟨_, after, does, ?_, ?_, _, deletes, ?_, ?_, ?_⟩
  · rw [rows, lists.without]
  · rw [lists.removed, zero_add]
  · intro batch member
    obtain ⟨texts, inside, rfl⟩ := List.mem_map.mp member
    rw [List.length_map]
    exact length_of_mem_batches inside
  · rw [names]
    exact lists.nodup
  · rw [names]
    exact lists.exact

section

variable {link : Link} {conn after : Conn}

theorem Quiet.deleted (quiet : Quiet conn after) {matching : Bytes → Bool} {last : Conn} {removed : ℤ}
    (deleted : Deleted matching after last removed) : Deleted matching conn last removed := by
  obtain ⟨rows, count, named, deletes, small, distinct, exact_⟩ := deleted
  rw [quiet.content] at rows count exact_
  rw [quiet.deletes] at deletes
  exact ⟨rows, count, named, deletes, small, distinct, exact_⟩

theorem Pages.after_quiet {matching : Bytes → Bool} {count : ℕ} (pages : Pages link conn matching count)
    (quiet : Quiet conn after) (scans : after.scans = conn.scans) : Pages link after matching count := by
  obtain ⟨home, honest, complete⟩ := pages
  refine ⟨?_, ?_, ?_⟩
  · rwa [scans]
  · rwa [scans, quiet.content]
  · rwa [scans, quiet.content]

end

/-- **Scanning and deleting are exact on text keys.** Let the keys of the store be texts. Where the pages have every
matching key before the cursor is 0 again, and that is so within the rounds, `scan` lists exactly the matching keys, in
order and each once, and `delete_matching` removes exactly them, in batches, and returns their number. Where the cursor
is not 0 in time, both raise, and nothing is removed. -/
theorem scan_and_delete (link : Link) (account : Account) (pattern : String) (scans : ℕ) (log : List (List Bytes))
    {content : Content} (texts : content.Texts) :
    (∀ (matching : Bytes → Bool), ∀ count < maxScanRounds,
      Pages link (.fresh content scans log) matching count →
        (∃ keys after, perform (scan link account pattern) (.fresh content scans log) = (.ok keys, after) ∧
          Lists content matching keys ∧ after.content = content) ∧
        ∃ removed after, perform (deleteMatching link account pattern) (.fresh content scans log) = (.ok removed, after) ∧
          Deleted matching (.fresh content scans log) after removed) ∧
    ((∀ turn < maxScanRounds, ¬link.Home (scans + turn)) →
      (∃ after, perform (scan link account pattern) (.fresh content scans log) = (.error (.refused .unfinished), after)) ∧
        ∃ after, perform (deleteMatching link account pattern) (.fresh content scans log) =
          (.error (.refused .unfinished), after) ∧ after.content = content) := by
  have empty : (Conn.fresh content scans log).inbox = [] := rfl
  obtain ⟨signed, signs, same, quiet⟩ := signIn_quiet link empty account
  constructor
  · intro matching count soon pages
    have there := pages.after_quiet quiet same
    obtain ⟨after, does, more⟩ := scanOn_home quiet.inbox pattern soon there.home
    have lists : Lists content matching (gathered link signed.scans (count + 1)) := by
      have found := lists_of_pages (by rw [quiet.content]; exact texts) there
      rwa [quiet.content] at found
    constructor
    · refine ⟨_, after, ?_, lists, more.content.trans quiet.content⟩
      rw [scan, perform_bind signs, does]
    · have listed : Lists after.content matching (gathered link signed.scans (count + 1)) := by
        rw [more.content, quiet.content]
        exact lists
      obtain ⟨removed, last, deletes, deleted⟩ := deleted_of_lists link more.inbox listed
      refine ⟨removed, last, ?_, (quiet.trans more).deleted deleted⟩
      rw [deleteMatching, perform_bind signs, perform_bind does, deleteOn_batches, deletes]
  · intro away
    have lost : ∀ turn < maxScanRounds, ¬link.Home (signed.scans + turn) := by
      rw [same]
      exact away
    obtain ⟨after, does, more⟩ := scanOn_lost quiet.inbox pattern lost
    refine ⟨⟨after, ?_⟩, after, ?_, more.content.trans quiet.content⟩
    · rw [scan, perform_bind signs, does]
    · rw [deleteMatching, perform_bind signs, perform_bind_error does]

/-! ### More than one batch -/

/-- A key of so many letters and one. -/
def letters (count : ℕ) : Bytes := Utf8.encode (String.ofList (List.replicate (count + 1) 'a'))

theorem letters_injective : Function.Injective letters := by
  intro one two same
  have lists := congrArg String.toList (Utf8.encode_injective same)
  rw [String.toList_ofList, String.toList_ofList] at lists
  have lengths := congrArg List.length lists
  rw [List.length_replicate, List.length_replicate] at lengths
  exact Nat.succ.inj lengths

theorem letters_ne (count : ℕ) : letters count ≠ Utf8.encode "x" := by
  intro same
  have lists := congrArg String.toList (Utf8.encode_injective same)
  rw [String.toList_ofList] at lists
  cases lists

/-- The bytes of `a` are one each. -/
theorem length_letters (count : ℕ) : (letters count).length = count + 1 := by
  unfold letters Utf8.encode
  rw [String.toList_ofList]
  induction count with
  | zero => rfl
  | succ count ih => exact congrArg Nat.succ ih

/-- As many keys, and then one that is not matched. -/
def manyRows (count : ℕ) : Dict Bytes Item :=
  (List.range count).map (fun place => (letters place, ⟨[49], -1⟩)) ++ [(Utf8.encode "x", ⟨[51], -1⟩)]

theorem keys_manyRows (count : ℕ) : (manyRows count).keys = (List.range count).map letters ++ [Utf8.encode "x"] := by
  unfold manyRows Dict.keys
  rw [List.map_append, List.map_map]
  rfl

/-- A store of one key more than a batch has, and of the one that is not matched. -/
def manyKeys : Content where
  rows := manyRows (deleteBatch + 1)
  distinct := by
    rw [keys_manyRows]
    refine List.nodup_append.mpr ⟨?_, List.pairwise_singleton _ _, ?_⟩
    · exact List.Pairwise.map letters (fun _ _ other same => other (letters_injective same)) List.nodup_range
    · intro key member other last
      obtain ⟨count, -, rfl⟩ := List.mem_map.mp member
      rw [List.mem_singleton.mp last]
      exact letters_ne count
  small := by
    unfold manyRows
    rw [List.length_append, List.length_map, List.length_range]
    decide
  sized := by
    intro row member
    rcases List.mem_append.mp member with old | last
    · obtain ⟨count, -, rfl⟩ := List.mem_map.mp old
      exact (by decide : [(49 : UInt8)].length < 2 ^ 63 ∧ (-1 : ℤ) ≤ -1 ∧ (-1 : ℤ) < 2 ^ 63)
    · rw [List.mem_singleton.mp last]
      decide

theorem manyKeys_texts : manyKeys.Texts := by
  intro key member
  have are : manyKeys.rows.keys = (List.range (deleteBatch + 1)).map letters ++ [Utf8.encode "x"] := keys_manyRows _
  rw [are] at member
  rcases List.mem_append.mp member with old | last
  · obtain ⟨count, -, rfl⟩ := List.mem_map.mp old
    exact ⟨_, rfl⟩
  · exact ⟨"x", List.mem_singleton.mp last⟩

/-- A page of the keys from one place to another. -/
def pageOf (cursor : String) (small : (Utf8.encode cursor).length < 2 ^ 63) (start count : ℕ) (few : start + count < 2 ^ 63) :
    Page where
  cursor := Utf8.encode cursor
  keys := (List.range' start count).map letters
  sized := by
    refine ⟨small, ?_, fun key member => ?_⟩
    · rw [List.length_map, List.length_range']
      omega
    · obtain ⟨place, inside, rfl⟩ := List.mem_map.mp member
      have bound := List.mem_range'_1.mp inside
      rw [length_letters]
      omega

/-- A store whose replies come in one piece each. -/
def onePiece (page : ℕ → Page) : Link where
  page := page
  cut := fun _ sent => if sent = [] then [] else [sent]
  whole := by
    intro turn sent
    split
    · next none => exact none.symm
    · exact List.append_nil sent
  full := by
    intro turn sent piece member
    split at member
    · cases member
    · next some => rwa [List.mem_singleton.mp member]
  other := fun _ => []
  room := 3
  roomy := le_refl 3
  listText := fun _ => ""

/-- Two pages, the second of which has a hundred keys of the first again. -/
def overlapping : Link :=
  onePiece fun turn =>
    if turn = 0 then pageOf "7" (by decide +kernel) 0 300 (by decide)
    else pageOf "0" (by decide +kernel) 200 301 (by decide)

theorem overlapping_pages : Pages overlapping (.fresh manyKeys 0 []) (fun key => key ≠ Utf8.encode "x") 1 := by
  have are : manyKeys.rows.keys = (List.range (deleteBatch + 1)).map letters ++ [Utf8.encode "x"] := keys_manyRows _
  -- A key of letters is in the store, and it matches.
  have held : ∀ place < 501, letters place ∈ manyKeys.rows.keys ∧ decide (letters place ≠ Utf8.encode "x") = true := by
    intro place before
    rw [are]
    refine ⟨List.mem_append_left _ (List.mem_map_of_mem (List.mem_range.mpr before)), decide_eq_true (letters_ne place)⟩
  have first : (overlapping.page (0 + 0)).keys = (List.range' 0 300).map letters := rfl
  have second : (overlapping.page (0 + 1)).keys = (List.range' 200 301).map letters := rfl
  refine ⟨⟨?_, ?_⟩, fun turn last key member => ?_, fun key member is => ?_⟩
  · exact rfl
  · intro earlier before home
    cases Nat.lt_one_iff.mp before
    exact absurd home (by decide +kernel)
  · have place : ∃ place < 501, letters place = key := by
      rcases Nat.le_one_iff_eq_zero_or_eq_one.mp last with rfl | rfl
      · rw [show (Conn.fresh manyKeys 0 []).scans = 0 from rfl, first] at member
        obtain ⟨place, inside, rfl⟩ := List.mem_map.mp member
        have bound := List.mem_range'_1.mp inside
        exact ⟨place, by omega, rfl⟩
      · rw [show (Conn.fresh manyKeys 0 []).scans = 0 from rfl, second] at member
        obtain ⟨place, inside, rfl⟩ := List.mem_map.mp member
        have bound := List.mem_range'_1.mp inside
        exact ⟨place, by omega, rfl⟩
    obtain ⟨place, before, rfl⟩ := place
    exact held place before
  · rw [show (Conn.fresh manyKeys 0 []).content.rows.keys = _ from are] at member
    rcases List.mem_append.mp member with old | other
    · obtain ⟨place, inside, rfl⟩ := List.mem_map.mp old
      have bound : place < 501 := List.mem_range.mp inside
      by_cases early : place < 300
      · exact ⟨0, Nat.zero_le 1, List.mem_map_of_mem (List.mem_range'_1.mpr (by omega))⟩
      · exact ⟨1, le_rfl, List.mem_map_of_mem (List.mem_range'_1.mpr (by omega))⟩
    · rw [List.mem_singleton.mp other] at is
      exact absurd rfl (of_decide_eq_true is)

/-- A batch and a remainder of one key are removed, and the key that does not match is left. -/
theorem scan_and_delete_remainder :
    ∃ after, perform (deleteMatching overlapping ⟨none, none, 0⟩ "*") (.fresh manyKeys 0 []) = (.ok 501, after) ∧
      Deleted (fun key => key ≠ Utf8.encode "x") (.fresh manyKeys 0 []) after 501 := by
  have both := (scan_and_delete overlapping ⟨none, none, 0⟩ "*" 0 [] manyKeys_texts).1 _ 1 (by decide) overlapping_pages
  obtain ⟨removed, after, does, deleted⟩ := both.2
  have count : ((manyRows 501).filter fun row => decide (row.1 ≠ Utf8.encode "x")).length = 501 := by
    unfold manyRows
    rw [List.filter_append, List.filter_eq_self.mpr, List.length_append, List.length_map, List.length_range]
    · rfl
    · intro row member
      obtain ⟨place, -, rfl⟩ := List.mem_map.mp member
      exact decide_eq_true (letters_ne place)
  have all : removed = 501 := deleted.count.trans (congrArg Nat.cast count)
  subst all
  exact ⟨after, does, deleted⟩

end ProviderSimulator.RespStore
