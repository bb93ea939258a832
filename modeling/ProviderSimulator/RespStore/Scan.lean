/-
**Following the cursor home.**

* `Quiet` — a sequence of commands that removes nothing and leaves nothing behind;
* `gathered` — the texts that the pages of a scan have, each once;
* `scanRounds_home` and `scanRounds_lost` — the loop ends at the first cursor 0, with what the pages up to it had, and
  raises where there is none in time;
* `scanOn_home` and `scanOn_lost` — the same for a whole scan.
-/

import Mathlib.Tactic.Common
import ProviderSimulator.RespStore.Store

namespace ProviderSimulator.RespStore

open ProviderSimulator.Lib ProviderSimulator.Python ProviderSimulator.Domain

/-! ### Commands that remove nothing -/

/-- The keys that each `DEL` named. -/
def deletesOf (log : List (List Bytes)) : List (List Bytes) :=
  log.filterMap fun parts =>
    match commandOf parts with
    | .del keys => some keys
    | _ => none

/-- Nothing was removed, and nothing is left over. -/
structure Quiet (before after : Conn) : Prop where
  content : after.content = before.content
  inbox : after.inbox = []
  deletes : deletesOf after.log = deletesOf before.log

namespace Quiet

variable {before middle after : Conn}

theorem refl (empty : before.inbox = []) : Quiet before before := ⟨rfl, empty, rfl⟩

theorem trans (first : Quiet before middle) (second : Quiet middle after) : Quiet before after :=
  ⟨second.content.trans first.content, second.inbox, second.deletes.trans first.deletes⟩

end Quiet

theorem deletesOf_append (log : List (List Bytes)) (parts : List Bytes) :
    deletesOf (log ++ [parts]) = deletesOf log ++ deletesOf [parts] := List.filterMap_append

/-- A command that is no `DEL` removes nothing. -/
theorem deletesOf_other {log : List (List Bytes)} {parts : List Bytes} (keeps : deletesOf [parts] = []) :
    deletesOf (log ++ [parts]) = deletesOf log := by
  rw [deletesOf_append, keeps, List.append_nil]

theorem quiet_logged {conn : Conn} (empty : conn.inbox = []) {parts : List Bytes} (keeps : deletesOf [parts] = []) :
    Quiet conn (conn.logged parts) := ⟨rfl, empty, deletesOf_other keeps⟩

section

variable {link : Link} {conn : Conn}

theorem askAll_quiet (empty : conn.inbox = []) {commands : List (List Bytes)}
    (accepts : ∀ parts ∈ commands, commandOf parts = .accept) :
    ∃ after, perform (askAll link commands) conn = (.ok (), after) ∧ after.scans = conn.scans ∧ Quiet conn after := by
  induction commands generalizing conn with
  | nil => exact ⟨conn, rfl, rfl, .refl empty⟩
  | cons parts rest ih =>
      have accepted := accepts parts List.mem_cons_self
      have quiet : Quiet conn (conn.logged parts) := by
        refine quiet_logged empty ?_
        unfold deletesOf
        rw [List.filterMap_cons, accepted]
        rfl
      obtain ⟨after, does, scans, more⟩ := ih quiet.inbox fun other member => accepts other (List.mem_cons_of_mem _ member)
      refine ⟨after, ?_, scans, quiet.trans more⟩
      rw [askAll, perform_bind (ask_accept empty accepted)]
      exact does

theorem account_accepts (account : Account) : ∀ parts ∈ account.commands, commandOf parts = .accept := by
  intro parts member
  unfold Account.commands at member
  rcases List.mem_append.mp member with signs | selects
  · split at signs
    · cases signs
    · rw [List.mem_singleton.mp signs]
      rfl
    · split at signs
      · rw [List.mem_singleton.mp signs]
        rfl
      · rw [List.mem_singleton.mp signs]
        rfl
  · split at selects
    · cases selects
    · rw [List.mem_singleton.mp selects]
      rfl

/-- Signing in removes nothing and asks for no page. -/
theorem signIn_quiet (link : Link) (empty : conn.inbox = []) (account : Account) :
    ∃ after, perform (signIn link account) conn = (.ok (), after) ∧ after.scans = conn.scans ∧ Quiet conn after :=
  askAll_quiet empty (account_accepts account)

/-! ### The loop -/

/-- The cursor that a `SCAN` answers is 0. -/
def Link.Home (link : Link) (turn : ℕ) : Prop := (link.page turn).cursor = Utf8.encode "0"

instance (link : Link) (turn : ℕ) : Decidable (link.Home turn) := inferInstanceAs (Decidable (_ = _))

/-- The page number `count` of a scan is the first one with cursor 0. -/
def Link.HomeAt (link : Link) (start count : ℕ) : Prop :=
  link.Home (start + count) ∧ ∀ earlier < count, ¬link.Home (start + earlier)

/-- The texts of the keys of some pages. -/
def pageTexts (link : Link) (start : ℕ) : ℕ → List String
  | 0 => []
  | count + 1 => (link.page start).keys.map Utf8.decodeReplace ++ pageTexts link (start + 1) count

theorem asText_bytes (keys : List Bytes) : (keys.map Reply.bytes).map (asText link) = keys.map Utf8.decodeReplace := by
  rw [List.map_map]
  rfl

theorem cursor_eq_zero_iff {cursor : Bytes} : Utf8.decodeReplace cursor = "0" ↔ cursor = Utf8.encode "0" :=
  Utf8.decodeReplace_eq_iff (by decide)

/-- **One round.** -/
theorem scanRounds_succ (empty : conn.inbox = []) (pattern : String) (rounds : ℕ) (cursor : String) (found : List String) :
    perform (scanRounds link pattern (rounds + 1) cursor found) conn =
      if link.Home conn.scans then
        (.ok (sortedTexts (((link.page conn.scans).keys.map Utf8.decodeReplace).foldl addKey found)),
          conn.scanned (scanParts cursor pattern))
      else
        perform (scanRounds link pattern rounds (Utf8.decodeReplace (link.page conn.scans).cursor)
          (((link.page conn.scans).keys.map Utf8.decodeReplace).foldl addKey found))
          (conn.scanned (scanParts cursor pattern)) := by
  rw [scanRounds, perform_bind (ask_scan empty cursor pattern)]
  dsimp only
  rw [asText_bytes]
  show perform (if Utf8.decodeReplace (link.page conn.scans).cursor = "0" then _ else _) _ = _
  by_cases home : link.Home conn.scans
  · rw [if_pos home, if_pos (cursor_eq_zero_iff.mpr home)]
    rfl
  · rw [if_neg home, if_neg fun zero => home (cursor_eq_zero_iff.mp zero)]
    rfl

theorem quiet_scan (empty : conn.inbox = []) (cursor pattern : String) :
    Quiet conn (conn.scanned (scanParts cursor pattern)) := ⟨rfl, empty, deletesOf_other rfl⟩

/-- The loop ends at the first cursor 0, with what the pages up to it had. -/
theorem scanRounds_home (empty : conn.inbox = []) (pattern : String) {count rounds : ℕ} (soon : count < rounds)
    (home : link.HomeAt conn.scans count) (cursor : String) (found : List String) :
    ∃ after, perform (scanRounds link pattern rounds cursor found) conn =
        (.ok (sortedTexts ((pageTexts link conn.scans (count + 1)).foldl addKey found)), after) ∧ Quiet conn after := by
  induction count generalizing conn rounds cursor found with
  | zero =>
      obtain ⟨rounds, rfl⟩ := Nat.exists_eq_add_of_lt soon
      refine ⟨_, ?_, quiet_scan empty cursor pattern⟩
      have here : link.Home conn.scans := home.1
      rw [Nat.zero_add, scanRounds_succ empty, if_pos here, pageTexts, pageTexts, List.append_nil]
  | succ count ih =>
      obtain ⟨rounds, rfl⟩ := Nat.exists_eq_succ_of_ne_zero (Nat.ne_zero_of_lt soon)
      have away : ¬link.Home conn.scans := home.2 0 (Nat.succ_pos _)
      have quiet := quiet_scan empty cursor pattern
      have later : link.HomeAt (conn.scans + 1) count := by
        refine ⟨?_, fun earlier before => ?_⟩
        · rw [Nat.add_assoc, Nat.add_comm 1]
          exact home.1
        · rw [Nat.add_assoc, Nat.add_comm 1]
          exact home.2 (earlier + 1) (Nat.succ_lt_succ before)
      obtain ⟨after, does, more⟩ := ih quiet.inbox (Nat.lt_of_succ_lt_succ soon) later
        (Utf8.decodeReplace (link.page conn.scans).cursor)
        (((link.page conn.scans).keys.map Utf8.decodeReplace).foldl addKey found)
      refine ⟨after, ?_, quiet.trans more⟩
      rw [scanRounds_succ empty, if_neg away, does, ← List.foldl_append]
      rfl

/-- The loop raises where no cursor is 0 in time. -/
theorem scanRounds_lost (empty : conn.inbox = []) (pattern : String) {rounds : ℕ}
    (away : ∀ turn < rounds, ¬link.Home (conn.scans + turn)) (cursor : String) (found : List String) :
    ∃ after, perform (scanRounds link pattern rounds cursor found) conn = (.error (.refused .unfinished), after) ∧
      Quiet conn after := by
  induction rounds generalizing conn cursor found with
  | zero => exact ⟨conn, rfl, .refl empty⟩
  | succ rounds ih =>
      have here : ¬link.Home conn.scans := away 0 (Nat.succ_pos _)
      have quiet := quiet_scan empty cursor pattern
      have later : ∀ turn < rounds, ¬link.Home (conn.scans + 1 + turn) := by
        intro turn before
        rw [Nat.add_assoc, Nat.add_comm 1]
        exact away (turn + 1) (Nat.succ_lt_succ before)
      obtain ⟨after, does, more⟩ := ih quiet.inbox later (Utf8.decodeReplace (link.page conn.scans).cursor)
        (((link.page conn.scans).keys.map Utf8.decodeReplace).foldl addKey found)
      refine ⟨after, ?_, quiet.trans more⟩
      rw [scanRounds_succ empty, if_neg here, does]

end

/-! ### What was found -/

theorem mem_addKeys {found texts : List String} {text : String} :
    text ∈ texts.foldl addKey found ↔ text ∈ found ∨ text ∈ texts := by
  induction texts generalizing found with
  | nil => simp
  | cons first rest ih =>
      rw [List.foldl_cons, ih]
      unfold addKey
      split
      · next seen =>
          rw [List.mem_cons]
          constructor
          · rintro (before | later)
            · exact .inl before
            · exact .inr (.inr later)
          · rintro (before | rfl | later)
            · exact .inl before
            · exact .inl seen
            · exact .inr later
      · rw [List.mem_append, List.mem_singleton, List.mem_cons, or_assoc]

theorem nodup_addKeys {found : List String} (distinct : found.Nodup) (texts : List String) :
    (texts.foldl addKey found).Nodup := by
  induction texts generalizing found with
  | nil => exact distinct
  | cons first rest ih =>
      refine ih ?_
      unfold addKey
      split
      · exact distinct
      · next fresh =>
          rw [List.nodup_append]
          refine ⟨distinct, List.pairwise_singleton _ first, ?_⟩
          intro one inside two is same
          rw [List.mem_singleton.mp is] at same
          exact fresh (same ▸ inside)

/-- The texts that the pages of a scan have, each once and in order. -/
def gathered (link : Link) (start count : ℕ) : List String :=
  sortedTexts ((pageTexts link start count).foldl addKey [])

theorem mem_pageTexts {link : Link} {start count : ℕ} {text : String} :
    text ∈ pageTexts link start count ↔
      ∃ turn < count, ∃ key ∈ (link.page (start + turn)).keys, Utf8.decodeReplace key = text := by
  induction count generalizing start with
  | zero => exact ⟨nofun, fun found => absurd found.choose_spec.1 (Nat.not_lt_zero _)⟩
  | succ count ih =>
      rw [pageTexts, List.mem_append, List.mem_map, ih]
      constructor
      · rintro (⟨key, inside, rfl⟩ | ⟨turn, before, key, inside, rfl⟩)
        · exact ⟨0, Nat.succ_pos _, key, inside, rfl⟩
        · refine ⟨turn + 1, Nat.succ_lt_succ before, key, ?_, rfl⟩
          rwa [Nat.add_assoc, Nat.add_comm 1] at inside
      · rintro ⟨turn, before, key, inside, rfl⟩
        cases turn with
        | zero => exact .inl ⟨key, inside, rfl⟩
        | succ turn =>
            refine .inr ⟨turn, Nat.lt_of_succ_lt_succ before, key, ?_, rfl⟩
            rwa [Nat.add_assoc, Nat.add_comm 1]

theorem mem_gathered {link : Link} {start count : ℕ} {text : String} :
    text ∈ gathered link start count ↔
      ∃ turn < count, ∃ key ∈ (link.page (start + turn)).keys, Utf8.decodeReplace key = text := by
  unfold gathered sortedTexts
  rw [List.mem_mergeSort, mem_addKeys, mem_pageTexts]
  simp only [List.not_mem_nil, false_or]

/-- **What was found is in order, and no key is there twice.** -/
theorem gathered_sorted (link : Link) (start count : ℕ) : (gathered link start count).Pairwise (· < ·) := by
  have ordered : (gathered link start count).Pairwise fun first second => decide (first ≤ second) = true := by
    refine List.pairwise_mergeSort ?_ ?_ _
    · intro first second third before after
      exact decide_eq_true (le_trans (of_decide_eq_true before) (of_decide_eq_true after))
    · intro first second
      rw [Bool.or_eq_true, decide_eq_true_eq, decide_eq_true_eq]
      exact le_total first second
  have distinct : (gathered link start count).Nodup :=
    (List.mergeSort_perm _ _).nodup_iff.mpr (nodup_addKeys List.nodup_nil _)
  refine (ordered.and distinct).imp ?_
  rintro first second ⟨before, other⟩
  exact lt_of_le_of_ne (of_decide_eq_true before) other

section

variable {link : Link} {conn : Conn}

theorem scanOn_home (empty : conn.inbox = []) (pattern : String) {count : ℕ} (soon : count < maxScanRounds)
    (home : link.HomeAt conn.scans count) :
    ∃ after, perform (scanOn link pattern) conn = (.ok (gathered link conn.scans (count + 1)), after) ∧ Quiet conn after :=
  scanRounds_home empty pattern soon home "0" []

theorem scanOn_lost (empty : conn.inbox = []) (pattern : String)
    (away : ∀ turn < maxScanRounds, ¬link.Home (conn.scans + turn)) :
    ∃ after, perform (scanOn link pattern) conn = (.error (.refused .unfinished), after) ∧ Quiet conn after :=
  scanRounds_lost empty pattern away "0" []

end

/-! ### Pages of a store -/

/-- The pages of a scan: the cursor is 0 at the last one and not before, the pages have matching keys of the store, and
each matching key is on one of them. -/
structure Pages (link : Link) (conn : Conn) (matching : Bytes → Bool) (count : ℕ) : Prop where
  home : link.HomeAt conn.scans count
  honest : ∀ turn ≤ count, ∀ key ∈ (link.page (conn.scans + turn)).keys,
    key ∈ conn.content.rows.keys ∧ matching key = true
  complete : ∀ key ∈ conn.content.rows.keys, matching key = true →
    ∃ turn ≤ count, key ∈ (link.page (conn.scans + turn)).keys

/-- What was found are the texts of the matching keys. -/
theorem mem_gathered_of_pages {link : Link} {conn : Conn} {matching : Bytes → Bool} {count : ℕ}
    (pages : Pages link conn matching count) {text : String} :
    text ∈ gathered link conn.scans (count + 1) ↔
      ∃ key ∈ conn.content.rows.keys, matching key = true ∧ Utf8.decodeReplace key = text := by
  rw [mem_gathered]
  constructor
  · rintro ⟨turn, before, key, inside, same⟩
    obtain ⟨held, matches_⟩ := pages.honest turn (Nat.le_of_lt_succ before) key inside
    exact ⟨key, held, matches_, same⟩
  · rintro ⟨key, held, matches_, same⟩
    obtain ⟨turn, before, inside⟩ := pages.complete key held matches_
    exact ⟨turn, Nat.lt_succ_of_le before, key, inside, same⟩

end ProviderSimulator.RespStore
