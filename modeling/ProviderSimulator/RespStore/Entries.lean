/-
**Which keys `entries` reports.**

`entries` asks for the value and the lifetime of a key by the text that it found, so it reads the key that this text
encodes to. A key that is no UTF-8 is another one, and is dropped where the other one is not there.

* `entriesOn_eq` — what the loop gives for some texts;
* `Faithful` — no two matching keys are read as the same text, and each text leads back to what its key holds;
* `reported_iff` — every matching key is reported exactly then; `Content.Texts.faithful` — text keys are such;
* `entries_report` — the same for a whole call, and `lost_key` is a store for which it fails.
-/

import Mathlib.Tactic.Common
import Mathlib.Data.List.Nodup
import ProviderSimulator.RespStore.Deletion

namespace ProviderSimulator.RespStore

open ProviderSimulator.Lib ProviderSimulator.Python ProviderSimulator.Domain

/-! ### The loop -/

/-- What the store holds for a text. -/
def Content.entryOf (content : Content) (text : String) : Option Entry :=
  (content.rows.get (Utf8.encode text)).map fun item => ⟨text, Utf8.decodeReplace item.value, item.ttl⟩

section

variable {link : Link} {conn : Conn}

theorem getOn_eq (empty : conn.inbox = []) (key : String) :
    perform (getOn link key) conn =
      (.ok ((conn.content.rows.get (Utf8.encode key)).map fun item => Utf8.decodeReplace item.value),
        conn.logged [Utf8.encode "GET", Utf8.encode key]) := by
  rw [getOn, perform_bind (ask_get empty _)]
  unfold Content.valueOf
  cases conn.content.rows.get (Utf8.encode key) with
  | none => rfl
  | some item => rfl

theorem ttlOn_eq (empty : conn.inbox = []) (key : String) :
    perform (ttlOn link key) conn =
      (.ok (conn.content.ttlOf (Utf8.encode key)), conn.logged [Utf8.encode "TTL", Utf8.encode key]) := by
  rw [ttlOn, perform_bind (ask_ttl empty _)]
  rfl

/-- What the loop gives. -/
theorem entriesOn_eq (link : Link) (empty : conn.inbox = []) (keys : List String) :
    ∃ after, perform (entriesOn link keys) conn = (.ok (keys.filterMap conn.content.entryOf), after) ∧ Quiet conn after := by
  induction keys generalizing conn with
  | nil => exact ⟨conn, rfl, .refl empty⟩
  | cons key rest ih =>
      have asked : Quiet conn (conn.logged [Utf8.encode "GET", Utf8.encode key]) := quiet_logged empty rfl
      rw [List.filterMap_cons, entriesOn, perform_bind (getOn_eq empty key)]
      unfold Content.entryOf
      cases found : conn.content.rows.get (Utf8.encode key) with
      | none =>
          obtain ⟨after, does, more⟩ := ih asked.inbox
          exact ⟨after, does, asked.trans more⟩
      | some item =>
          have timed : Quiet (conn.logged [Utf8.encode "GET", Utf8.encode key])
              ((conn.logged [Utf8.encode "GET", Utf8.encode key]).logged [Utf8.encode "TTL", Utf8.encode key]) :=
            quiet_logged asked.inbox rfl
          have life : (conn.logged [Utf8.encode "GET", Utf8.encode key]).content.ttlOf (Utf8.encode key) = item.ttl := by
            show conn.content.ttlOf (Utf8.encode key) = _
            unfold Content.ttlOf
            rw [found]
          have held : -1 ≤ item.ttl := (conn.content.sized _ (Dict.get_mem found)).2.1
          obtain ⟨after, does, more⟩ := ih timed.inbox
          refine ⟨after, ?_, (asked.trans timed).trans more⟩
          show perform (ttlOn link key >>= _) _ = _
          rw [perform_bind (ttlOn_eq asked.inbox key), life, if_neg (by omega), perform_bind does]
          rfl

end

/-! ### Every matching key -/

/-- The entry of a row, as it is shown. -/
def shown (row : Bytes × Item) : Entry := ⟨Utf8.decodeReplace row.1, Utf8.decodeReplace row.2.value, row.2.ttl⟩

/-- The rows whose keys match. -/
def Content.matched (content : Content) (matching : Bytes → Bool) : List (Bytes × Item) :=
  content.rows.filter fun row => matching row.1

/-- There is exactly one entry for each matching key, with its own value and lifetime. -/
def Reported (content : Content) (matching : Bytes → Bool) (found : List Entry) : Prop :=
  found.Perm ((content.matched matching).map shown)

/-- No two matching keys are read as the same text, and the key that the text of a matching key encodes to holds the same,
as it is shown. -/
structure Faithful (content : Content) (matching : Bytes → Bool) : Prop where
  distinct : ((content.matched matching).map fun row => Utf8.decodeReplace row.1).Nodup
  back : ∀ row ∈ content.matched matching, content.entryOf (Utf8.decodeReplace row.1) = some (shown row)

/-- The texts of the matching keys are those of the rows that match. -/
theorem mem_texts_iff {content : Content} {matching : Bytes → Bool} {text : String} :
    (∃ key ∈ content.rows.keys, matching key = true ∧ Utf8.decodeReplace key = text) ↔
      text ∈ (content.matched matching).map fun row => Utf8.decodeReplace row.1 := by
  rw [List.mem_map]
  constructor
  · rintro ⟨key, held, is, same⟩
    obtain ⟨row, inside, rfl⟩ := List.mem_map.mp held
    exact ⟨row, List.mem_filter.mpr ⟨inside, is⟩, same⟩
  · rintro ⟨row, inside, same⟩
    obtain ⟨held, is⟩ := List.mem_filter.mp inside
    exact ⟨row.1, List.mem_map_of_mem held, is, same⟩

theorem key_of_entryOf {content : Content} {text : String} {entry : Entry} (found : content.entryOf text = some entry) :
    entry.key = text := by
  obtain ⟨item, -, rfl⟩ := Option.map_eq_some_iff.mp found
  rfl

theorem keys_sublist (content : Content) (texts : List String) :
    ((texts.filterMap content.entryOf).map Entry.key).Sublist texts := by
  induction texts with
  | nil => exact .slnil
  | cons text rest ih =>
      rw [List.filterMap_cons]
      split
      · exact ih.cons text
      · next entry found =>
          rw [List.map_cons, key_of_entryOf found]
          exact ih.cons_cons text

/-- **Every matching key is reported exactly where the texts are faithful.** -/
theorem reported_iff {content : Content} {matching : Bytes → Bool} {texts : List String} (distinct : texts.Nodup)
    (are : ∀ text, text ∈ texts ↔ text ∈ (content.matched matching).map fun row => Utf8.decodeReplace row.1) :
    Reported content matching (texts.filterMap content.entryOf) ↔ Faithful content matching := by
  constructor
  · intro reported
    refine ⟨?_, fun row member => ?_⟩
    · have keys : ((texts.filterMap content.entryOf).map Entry.key).Nodup := distinct.sublist (keys_sublist content texts)
      have same := (reported.map Entry.key).nodup_iff.mp keys
      rwa [List.map_map] at same
    · have inside : shown row ∈ texts.filterMap content.entryOf :=
        reported.mem_iff.mpr (List.mem_map_of_mem member)
      obtain ⟨text, -, found⟩ := List.mem_filterMap.mp inside
      rw [show Utf8.decodeReplace row.1 = text from key_of_entryOf found]
      exact found
  · intro faithful
    have same : texts.Perm ((content.matched matching).map fun row => Utf8.decodeReplace row.1) :=
      (List.perm_ext_iff_of_nodup distinct faithful.distinct).mpr are
    refine (same.filterMap content.entryOf).trans (List.Perm.of_eq ?_)
    rw [List.filterMap_map, ← List.filterMap_eq_map]
    exact List.filterMap_congr faithful.back

/-- Text keys are faithful, whatever matches. -/
theorem Content.Texts.faithful {content : Content} (texts : content.Texts) (matching : Bytes → Bool) :
    Faithful content matching := by
  have held : ∀ row ∈ content.matched matching, row ∈ content.rows := fun row member => (List.mem_filter.mp member).1
  refine ⟨?_, fun row member => ?_⟩
  · have keys : ((content.matched matching).map Prod.fst).Nodup :=
      content.distinct.sublist (List.filter_sublist.map Prod.fst)
    rw [show (fun row : Bytes × Item => Utf8.decodeReplace row.1) = Utf8.decodeReplace ∘ Prod.fst from rfl, ← List.map_map]
    refine List.Nodup.map_on (fun first isFirst second isSecond same => ?_) keys
    obtain ⟨one, inOne, rfl⟩ := List.mem_map.mp isFirst
    obtain ⟨two, inTwo, rfl⟩ := List.mem_map.mp isSecond
    obtain ⟨left, leftKey⟩ := texts one.1 (List.mem_map_of_mem (held one inOne))
    obtain ⟨right, rightKey⟩ := texts two.1 (List.mem_map_of_mem (held two inTwo))
    rw [leftKey, rightKey, Utf8.decodeReplace_encode, Utf8.decodeReplace_encode] at same
    rw [leftKey, rightKey, same]
  · obtain ⟨text, key⟩ := texts row.1 (List.mem_map_of_mem (held row member))
    have found : content.rows.get row.1 = some row.2 := Dict.get_of_mem content.distinct (held row member)
    unfold Content.entryOf shown
    rw [key, Utf8.decodeReplace_encode, ← key, found]
    rfl

/-! ### A whole call -/

section

variable {link : Link} {content : Content} {scans : ℕ} {log : List (List Bytes)} {matching : Bytes → Bool} {count : ℕ}

/-- What a whole call gives. -/
theorem entries_eq (account : Account) (pattern : String) (soon : count < maxScanRounds)
    (pages : Pages link (.fresh content scans log) matching count) :
    ∃ after, perform (entries link account pattern) (.fresh content scans log) =
      (.ok ((gathered link scans (count + 1)).filterMap content.entryOf), after) := by
  have empty : (Conn.fresh content scans log).inbox = [] := rfl
  obtain ⟨signed, signs, same, quiet⟩ := signIn_quiet link empty account
  have there := pages.after_quiet quiet same
  obtain ⟨scanned, does, more⟩ := scanOn_home quiet.inbox pattern soon there.home
  obtain ⟨after, reads, -⟩ := entriesOn_eq link more.inbox (gathered link signed.scans (count + 1))
  refine ⟨after, ?_⟩
  rw [entries, perform_bind signs, perform_bind does, reads, more.content, quiet.content, same]
  rfl

/-- What was found are the texts of the rows that match. -/
theorem mem_gathered_iff (pages : Pages link (.fresh content scans log) matching count) (text : String) :
    text ∈ gathered link scans (count + 1) ↔
      text ∈ (content.matched matching).map fun row => Utf8.decodeReplace row.1 :=
  (mem_gathered_of_pages pages).trans mem_texts_iff

theorem gathered_nodup (link : Link) (start count : ℕ) : (gathered link start count).Nodup :=
  (gathered_sorted link start count).imp ne_of_lt

/-- **`entries` reports every key** exactly where no two matching keys are read as the same text, and each text leads back
to what its key holds: for every content, every way to page it in time and every way to split the replies. -/
theorem entries_report (account : Account) (pattern : String) (soon : count < maxScanRounds)
    (pages : Pages link (.fresh content scans log) matching count) :
    (∃ found after, perform (entries link account pattern) (.fresh content scans log) = (.ok found, after) ∧
      Reported content matching found) ↔ Faithful content matching := by
  obtain ⟨last, gives⟩ := entries_eq account pattern soon pages
  rw [← reported_iff (gathered_nodup link scans (count + 1)) (mem_gathered_iff pages)]
  constructor
  · rintro ⟨found, after, does, reported⟩
    cases gives.symm.trans does
    exact reported
  · intro reported
    exact ⟨_, last, gives, reported⟩

end

/-- A store of three keys, one of which is not matched. -/
def threeKeys : Content where
  rows := [(Utf8.encode "a", ⟨[49], -1⟩), (Utf8.encode "b", ⟨[50], 9⟩), (Utf8.encode "x", ⟨[51], -1⟩)]
  distinct := by decide +kernel
  small := by decide
  sized := by decide +kernel

/-- Two pages, the second of which has a key of the first again. -/
def twoPages : Link :=
  onePiece fun turn =>
    if turn = 0 then ⟨Utf8.encode "7", [Utf8.encode "b"], by decide +kernel⟩
    else ⟨Utf8.encode "0", [Utf8.encode "a", Utf8.encode "b"], by decide +kernel⟩

theorem threeKeys_texts : threeKeys.Texts := by
  intro key member
  have are : threeKeys.rows.keys = ["a", "b", "x"].map Utf8.encode := rfl
  rw [are] at member
  obtain ⟨text, -, same⟩ := List.mem_map.mp member
  exact ⟨text, same.symm⟩

theorem twoPages_pages : Pages twoPages (.fresh threeKeys 0 []) (fun key => key ≠ Utf8.encode "x") 1 := by
  refine ⟨⟨?_, ?_⟩, ?_, ?_⟩ <;> decide +kernel

/-- Two text keys are reported. -/
theorem entries_report_two :
    ∃ found after, perform (entries twoPages ⟨none, none, 0⟩ "*") (.fresh threeKeys 0 []) = (.ok found, after) ∧
      Reported threeKeys (fun key => key ≠ Utf8.encode "x") found :=
  (entries_report ⟨none, none, 0⟩ "*" (by decide) twoPages_pages).mpr (threeKeys_texts.faithful _)

/-- A store with one key, a byte that is no UTF-8. -/
def byteKey : Content where
  rows := [([255], ⟨[49], -1⟩)]
  distinct := by decide
  small := by decide
  sized := by decide

/-- One page with this key. -/
def bytePage : Link := onePiece fun _ => ⟨Utf8.encode "0", [[255]], by decide +kernel⟩

/-- Its entry is lost. -/
theorem lost_key :
    Pages bytePage (.fresh byteKey 0 []) (fun _ => true) 0 ∧
      ¬∃ found after, perform (entries bytePage ⟨none, none, 0⟩ "*") (.fresh byteKey 0 []) = (.ok found, after) ∧
        Reported byteKey (fun _ => true) found := by
  have pages : Pages bytePage (.fresh byteKey 0 []) (fun _ => true) 0 := by
    refine ⟨⟨?_, ?_⟩, ?_, ?_⟩ <;> decide +kernel
  obtain ⟨last, gives⟩ := entries_eq ⟨none, none, 0⟩ "*" (by decide) pages
  refine ⟨pages, ?_⟩
  rintro ⟨found, after, does, reported⟩
  cases gives.symm.trans does
  have faithful := (reported_iff (gathered_nodup _ _ _) (mem_gathered_iff pages)).mp reported
  have back := faithful.back ([255], ⟨[49], -1⟩) List.mem_cons_self
  revert back
  decide +kernel

end ProviderSimulator.RespStore
