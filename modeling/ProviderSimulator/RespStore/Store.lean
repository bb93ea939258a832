/-
**The client of a RESP store, and the store at the other end.**

`RespStore` sends commands on one connection and reads one reply for each of them: `scan` follows the cursor of `SCAN`
home, `entries` reads the value and the lifetime of each key that it found, and `deleteMatching` removes the keys in
batches. Each command is read by a reader of its own (`ask`), so what an earlier reader had received too much is lost.

The store at the other end is a `Link`: it holds a `Content`, answers each `SCAN` with any page, and its replies come in
any pieces.

* `Content` and `Page` carry the bounds of the language on lengths and numbers;
* `ask_eq` — a reply in its standard encoding is read back, however it is split, and nothing is left over;
* `ask_scan`, `ask_get`, `ask_ttl` and `ask_del` — the four commands.
-/

import Mathlib.Tactic.Common
import Mathlib.Data.String.Basic
import ProviderSimulator.Lib.Dict
import ProviderSimulator.RespStore.RoundTrip

namespace ProviderSimulator.RespStore

open ProviderSimulator.Lib ProviderSimulator.Python ProviderSimulator.Domain

/-! ### The store -/

/-- What the store holds under a key. A lifetime of minus one is no expiry. -/
structure Item where
  value : Bytes
  ttl : ℤ

/-- The content of the store, where no key expires. -/
structure Content where
  rows : Dict Bytes Item
  distinct : rows.keys.Nodup
  small : rows.length < 2 ^ 63
  sized : ∀ row ∈ rows, row.2.value.length < 2 ^ 63 ∧ -1 ≤ row.2.ttl ∧ row.2.ttl < 2 ^ 63

/-- The content without some keys. -/
def Content.without (content : Content) (keys : List Bytes) : Content where
  rows := content.rows.filter fun row => row.1 ∉ keys
  distinct := content.distinct.sublist ((List.filter_sublist).map Prod.fst)
  small := lt_of_le_of_lt (List.length_filter_le _ _) content.small
  sized := fun row member => content.sized row (List.mem_of_mem_filter member)

/-- One answer to `SCAN`. -/
structure Page where
  cursor : Bytes
  keys : List Bytes
  sized : cursor.length < 2 ^ 63 ∧ keys.length < 2 ^ 63 ∧ ∀ key ∈ keys, key.length < 2 ^ 63

/-- The connection, seen from the store: its content, how often it was scanned, the commands that it got, and the
pieces that the client has not received. -/
structure Conn where
  content : Content
  scans : ℕ
  log : List (List Bytes)
  inbox : List Bytes

/-- How the store behaves: the page of each `SCAN`, how each reply is split, and what any other command gets. `room` is
the room of the interpreter, and `listText` is `str` of a list. -/
structure Link where
  page : ℕ → Page
  cut : ℕ → Bytes → List Bytes
  whole : ∀ turn sent, (cut turn sent).flatten = sent
  full : ∀ turn sent, ∀ piece ∈ cut turn sent, piece ≠ []
  other : List Bytes → Bytes
  room : ℕ
  roomy : 3 ≤ room
  listText : List Reply → String

/-- The commands that the store knows. -/
inductive Command
  | scan
  | get (key : Bytes)
  | ttl (key : Bytes)
  | del (keys : List Bytes)
  | accept
  | other

/-- The command of some parts. -/
def commandOf : List Bytes → Command
  | [] => .other
  | name :: args =>
      if name = Utf8.encode "SCAN" then .scan
      else if name = Utf8.encode "GET" then
        match args with
        | [key] => .get key
        | _ => .other
      else if name = Utf8.encode "TTL" then
        match args with
        | [key] => .ttl key
        | _ => .other
      else if name = Utf8.encode "DEL" then .del args
      else if name = Utf8.encode "AUTH" ∨ name = Utf8.encode "SELECT" then .accept
      else .other

/-- The answer to `SCAN`. -/
def Page.value (page : Page) : RespValue := .array [.bulk page.cursor, .array (page.keys.map .bulk)]

/-- The answer to `GET`. -/
def Content.valueOf (content : Content) (key : Bytes) : RespValue :=
  match content.rows.get key with
  | some item => .bulk item.value
  | none => .nullBulk

/-- The lifetime of a key, or minus two where it is not there. -/
def Content.ttlOf (content : Content) (key : Bytes) : ℤ :=
  match content.rows.get key with
  | some item => item.ttl
  | none => -2

/-- How many keys go. -/
def Content.removed (content : Content) (keys : List Bytes) : ℕ :=
  content.rows.length - (content.without keys).rows.length

/-- What the store sends for a command, and how it goes on. -/
def Link.answer (link : Link) (parts : List Bytes) (conn : Conn) : Bytes × Conn :=
  let logged := { conn with log := conn.log ++ [parts] }
  match commandOf parts with
  | .scan => ((link.page conn.scans).value.wire, { logged with scans := conn.scans + 1 })
  | .get key => ((conn.content.valueOf key).wire, logged)
  | .ttl key => ((RespValue.integer (conn.content.ttlOf key)).wire, logged)
  | .del keys =>
      ((RespValue.integer (conn.content.removed keys)).wire, { logged with content := conn.content.without keys })
  | .accept => ((RespValue.simple "OK").wire, logged)
  | .other => (link.other parts, logged)

/-! ### The client -/

/-- A sequence of commands on one connection. -/
abbrev Session := ExceptT (Raised StoreError) (StateM Conn)

/-- Run a sequence on a connection. -/
def perform {T : Type} (session : Session T) (conn : Conn) : Read T × Conn := session.run.run conn

/-- `_run`. -/
def ask (link : Link) (parts : List Bytes) : Session Reply := ExceptT.mk fun conn =>
  let (sent, after) := link.answer parts conn
  match readReply link.room ⟨[], conn.inbox ++ link.cut conn.log.length sent, .closed⟩ with
  | .ok (reply, next) => (.ok reply, { after with inbox := next.pieces })
  | .error error => (.error error, after)

/-- `_as_text`. -/
def asText (link : Link) : Reply → String
  | .bytes content => Utf8.decodeReplace content
  | .none => "None"
  | .text text => text
  | .number number => toString number
  | .list items => link.listText items

/-- `_MAX_SCAN_ROUNDS`. -/
def maxScanRounds : ℕ := 1000

/-- `_SCAN_COUNT`. -/
def scanCount : ℕ := 500

/-- `_DELETE_BATCH`. -/
def deleteBatch : ℕ := 500

/-- Add a key that was not seen. -/
def addKey (found : List String) (key : String) : List String := if key ∈ found then found else found ++ [key]

/-- `sorted`, by code points. -/
def sortedTexts (found : List String) : List String := found.mergeSort fun first second => decide (first ≤ second)

/-- The parts of one `SCAN`. -/
def scanParts (cursor pattern : String) : List Bytes :=
  [Utf8.encode "SCAN", Utf8.encode cursor, Utf8.encode "MATCH", Utf8.encode pattern, Utf8.encode "COUNT",
    decimal scanCount]

/-- The cursor loop of `_scan_on`. What was seen is what was found. -/
def scanRounds (link : Link) (pattern : String) : ℕ → String → List String → Session (List String)
  | 0, _, _ => throw (.refused .unfinished)
  | rounds + 1, cursor, found => do
      let reply ← ask link (scanParts cursor pattern)
      match reply with
      | .list [first, batch] =>
          let cursor := asText link first
          match batch with
          | .list raws =>
              let found := (raws.map (asText link)).foldl addKey found
              if cursor = "0" then pure (sortedTexts found) else scanRounds link pattern rounds cursor found
          | other => throw (.refused (.noKeyList other))
      | other => throw (.refused (.noCursorAndKeys other))

/-- `_scan_on`. -/
def scanOn (link : Link) (pattern : String) : Session (List String) := scanRounds link pattern maxScanRounds "0" []

/-- `_get_on`. -/
def getOn (link : Link) (key : String) : Session (Option String) := do
  match ← ask link [Utf8.encode "GET", Utf8.encode key] with
  | .none => pure none
  | reply => pure (some (asText link reply))

/-- `_ttl_on`. -/
def ttlOn (link : Link) (key : String) : Session ℤ := do
  match ← ask link [Utf8.encode "TTL", Utf8.encode key] with
  | .number number => pure number
  | reply => throw (.refused (.noLifetime reply))

/-- What the client was given to sign in with. -/
structure Account where
  username : Option String
  password : Option String
  db : ℤ

/-- The commands of `_session`: `AUTH` where there is a password, with the username where there is one, and `SELECT`
where the database is not the first. -/
def Account.commands (account : Account) : List (List Bytes) :=
  (match account.password, account.username with
    | none, _ => []
    | some password, none => [[Utf8.encode "AUTH", Utf8.encode password]]
    | some password, some username =>
        if username = "" then [[Utf8.encode "AUTH", Utf8.encode password]]
        else [[Utf8.encode "AUTH", Utf8.encode username, Utf8.encode password]]) ++
  if account.db = 0 then [] else [[Utf8.encode "SELECT", decimalInt account.db]]

/-- Commands whose replies are not looked at. -/
def askAll (link : Link) : List (List Bytes) → Session Unit
  | [] => pure ()
  | parts :: rest => do
      let _ ← ask link parts
      askAll link rest

/-- `_session`, once the connection is there. -/
def signIn (link : Link) (account : Account) : Session Unit := askAll link account.commands

/-- `Entry`. -/
structure Entry where
  key : String
  value : String
  ttl : ℤ
deriving DecidableEq

/-- The loop of `entries`. -/
def entriesOn (link : Link) : List String → Session (List Entry)
  | [] => pure []
  | key :: rest => do
      match ← getOn link key with
      | none => entriesOn link rest
      | some value =>
          let ttl ← ttlOn link key
          if ttl = -2 then entriesOn link rest
          else
            let others ← entriesOn link rest
            pure (⟨key, value, ttl⟩ :: others)

/-- `scan`. -/
def scan (link : Link) (account : Account) (pattern : String) : Session (List String) := do
  signIn link account
  scanOn link pattern

/-- `entries`. -/
def entries (link : Link) (account : Account) (pattern : String) : Session (List Entry) := do
  signIn link account
  let keys ← scanOn link pattern
  entriesOn link keys

/-- The slices of a list, one after the other. -/
def batches {T : Type} (size : ℕ) (list : List T) : List (List T) :=
  (List.range ((list.length + size - 1) / size)).map fun index => (list.drop (index * size)).take size

/-- The loop of `delete_matching`. -/
def deleteOn (link : Link) : ℤ → List (List String) → Session ℤ
  | removed, [] => pure removed
  | removed, batch :: rest => do
      let reply ← ask link (Utf8.encode "DEL" :: batch.map Utf8.encode)
      match reply with
      | .number number => deleteOn link (removed + number) rest
      | _ => deleteOn link removed rest

/-- `delete_matching`. -/
def deleteMatching (link : Link) (account : Account) (pattern : String) : Session ℤ := do
  signIn link account
  let keys ← scanOn link pattern
  if keys.isEmpty then pure 0 else deleteOn link 0 (batches deleteBatch keys)

/-! ### One command after another -/

section

variable {S T : Type} {first : Session S} {conn after : Conn}

theorem perform_bind {value : S} (does : perform first conn = (.ok value, after)) (next : S → Session T) :
    perform (first >>= next) conn = perform (next value) after := by
  unfold perform at does ⊢
  rw [ExceptT.run_bind, StateT.run_bind, does]
  rfl

theorem perform_bind_error {error : Raised StoreError} (does : perform first conn = (.error error, after))
    (next : S → Session T) : perform (first >>= next) conn = (.error error, after) := by
  unfold perform at does ⊢
  rw [ExceptT.run_bind, StateT.run_bind, does]
  rfl

end

/-- The connection after a command that changes nothing. -/
def Conn.logged (conn : Conn) (parts : List Bytes) : Conn := { conn with log := conn.log ++ [parts] }

/-- The connection after a `SCAN`. -/
def Conn.scanned (conn : Conn) (parts : List Bytes) : Conn :=
  { conn with log := conn.log ++ [parts], scans := conn.scans + 1 }

/-- The connection after a `DEL`. -/
def Conn.deleted (conn : Conn) (keys : List Bytes) : Conn :=
  { conn with log := conn.log ++ [Utf8.encode "DEL" :: keys], content := conn.content.without keys }

section

variable {link : Link} {conn : Conn}

/-- **A reply in its standard encoding is read back**, however it is split, and nothing is left over. -/
theorem ask_eq (empty : conn.inbox = []) (value : RespValue) {parts : List Bytes} {after : Conn}
    (answers : link.answer parts conn = (value.wire, after)) (left : after.inbox = []) (valid : value.Valid)
    (shallow : value.depth ≤ 3) : perform (ask link parts) conn = (.ok value.toReply, after) := by
  have whole : (link.cut conn.log.length value.wire).flatten = value.wire ++ [] := by
    rw [link.whole, List.append_nil]
  obtain ⟨next, reads, rest, suffix⟩ :=
    readReply_reads valid (le_trans shallow link.roomy) (link.full conn.log.length value.wire) whole .closed
  -- Every piece has bytes, so a piece that was not received would be left over.
  have none : next.pieces = [] := by
    have flat : next.pieces.flatten = [] := (List.append_eq_nil_iff.mp rest).2
    cases pieces : next.pieces with
    | nil => rfl
    | cons piece later =>
        rw [pieces] at flat suffix
        have bytes := link.full _ _ piece (suffix.subset List.mem_cons_self)
        exact absurd (List.append_eq_nil_iff.mp flat).1 bytes
  show (match link.answer parts conn with
    | (sent, after) =>
        match readReply link.room ⟨[], conn.inbox ++ link.cut conn.log.length sent, .closed⟩ with
        | .ok (reply, next) => (Except.ok reply, { after with inbox := next.pieces })
        | .error error => (Except.error error, after)) = _
  rw [answers, empty]
  dsimp only [List.nil_append]
  rw [reads]
  dsimp only
  rw [none, ← left]

theorem page_valid (page : Page) : page.value.Valid := by
  obtain ⟨cursor, count, keys⟩ := page.sized
  unfold Page.value
  simp only [RespValue.Valid, ValidItems, List.length_map, and_true]
  refine ⟨?_, cursor, count, validItems_bulks keys⟩
  show 2 < 2 ^ 63
  decide

theorem page_depth (page : Page) : page.value.depth ≤ 3 := by
  have inside := depthItems_bulks page.keys
  unfold Page.value
  simp only [RespValue.depth, depthItems]
  omega

theorem page_toReply (page : Page) :
    page.value.toReply = .list [.bytes page.cursor, .list (page.keys.map .bytes)] := by
  unfold Page.value
  simp only [RespValue.toReply, toReplies, toReplies_bulks]

theorem ask_scan (empty : conn.inbox = []) (cursor pattern : String) :
    perform (ask link (scanParts cursor pattern)) conn =
      (.ok (.list [.bytes (link.page conn.scans).cursor, .list ((link.page conn.scans).keys.map .bytes)]),
        conn.scanned (scanParts cursor pattern)) := by
  rw [← page_toReply]
  exact ask_eq empty _ rfl empty (page_valid _) (page_depth _)

theorem ask_get (empty : conn.inbox = []) (key : Bytes) :
    perform (ask link [Utf8.encode "GET", key]) conn =
      (.ok (conn.content.valueOf key).toReply, conn.logged [Utf8.encode "GET", key]) := by
  refine ask_eq empty (conn.content.valueOf key) rfl empty ?_ ?_
  · unfold Content.valueOf
    split
    · next item found =>
        rw [RespValue.Valid]
        exact (conn.content.sized _ (Dict.get_mem found)).1
    · rw [RespValue.Valid]
      exact trivial
  · unfold Content.valueOf
    split <;> exact (by decide : 1 ≤ 3)

theorem ask_ttl (empty : conn.inbox = []) (key : Bytes) :
    perform (ask link [Utf8.encode "TTL", key]) conn =
      (.ok (.number (conn.content.ttlOf key)), conn.logged [Utf8.encode "TTL", key]) := by
  refine ask_eq empty (.integer (conn.content.ttlOf key)) rfl empty ?_ (by decide : 1 ≤ 3)
  rw [RespValue.Valid]
  unfold Content.ttlOf Int64
  split
  · next item found =>
      have bounds : -1 ≤ item.ttl ∧ item.ttl < 2 ^ 63 := (conn.content.sized _ (Dict.get_mem found)).2
      omega
  · decide

theorem ask_del (empty : conn.inbox = []) (keys : List Bytes) :
    perform (ask link (Utf8.encode "DEL" :: keys)) conn =
      (.ok (.number (conn.content.removed keys)), conn.deleted keys) := by
  refine ask_eq empty (.integer (conn.content.removed keys)) rfl empty ?_ (by decide : 1 ≤ 3)
  have small := conn.content.small
  rw [RespValue.Valid]
  unfold Content.removed Int64
  omega

theorem ask_accept (empty : conn.inbox = []) {parts : List Bytes} (accepts : commandOf parts = .accept) :
    perform (ask link parts) conn = (.ok (.text "OK"), conn.logged parts) := by
  refine ask_eq empty (.simple "OK") ?_ empty (by rw [RespValue.Valid]; decide) (by decide : 1 ≤ 3)
  unfold Link.answer
  rw [accepts]
  rfl

end

end ProviderSimulator.RespStore
