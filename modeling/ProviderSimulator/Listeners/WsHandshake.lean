/-
**The answer to a WebSocket upgrade.**

`build_handshake_response` writes the head of the 101 reply: the three headers of the handshake, the address of the
provider and the chosen headers of the scenario. A chosen header replaces the address of the same name.

* `buildHandshakeResponse` and `upgradeHeaders` — the bytes of the reply, and the headers after the handshake;
* `AcceptedHeaders` — what `_validate_chosen` leaves true of chosen headers;
* `headers_arrive_iff` — **the head is read as it was written if and only if** no chosen value begins or ends with a
  space, and the address is replaced or the key of the provider can stand in a header.
-/

import Mathlib.Tactic.Common
import Mathlib.Data.List.Nodup
import ProviderSimulator.Control.ChosenMetadata
import ProviderSimulator.Lib.HttpHead
import ProviderSimulator.Python.Host

namespace ProviderSimulator.Listeners.WsProtocol

open ProviderSimulator.Lib ProviderSimulator.Lib.HttpHead ProviderSimulator.Python ProviderSimulator.Domain

/-! ### The bytes of the reply -/

/-- The byte of an ASCII character. -/
def byteOf (char : Char) : UInt8 := UInt8.ofNat char.toNat

/-- The bytes of an ASCII text. -/
def ascii (text : String) : Bytes := text.toList.map byteOf

/-- Every character is ASCII. -/
def IsAscii (text : String) : Prop := ∀ char ∈ text.toList, char.toNat < 128

-- Not by search: it may find the instance that goes through every character there is.
instance (text : String) : Decidable (IsAscii text) := List.decidableBAll _ text.toList

/-- `text.encode("ascii")`. -/
def encodeAscii (text : String) : Except PyError Bytes := if IsAscii text then .ok (ascii text) else .error .valueError

/-- The alphabet of base64. -/
def alphabet : List Char :=
  "ABCDEFGHIJKLMNOPQRSTUVWXYZabcdefghijklmnopqrstuvwxyz0123456789+/".toList

/-- The character of six bits. -/
def sextet (value : ℕ) : Char := alphabet.getD value 'A'

/-- `base64.b64encode`. -/
def b64encode : List ℕ → List Char
  | [] => []
  | [a] => [sextet (a / 4), sextet (a % 4 * 16), '=', '=']
  | [a, b] => [sextet (a / 4), sextet (a % 4 * 16 + b / 16), sextet (b % 16 * 4), '=']
  | a :: b :: c :: rest =>
      sextet (a / 4) :: sextet (a % 4 * 16 + b / 16) :: sextet (b % 16 * 4 + c / 64) :: sextet (c % 64) :: b64encode rest

/-- `_WS_GUID`. -/
def wsGuid : String := "258EAFA5-E914-47DA-95CA-C5AB0DC85B11"

section

variable (sha1 : Bytes → Bytes)

/-- `compute_accept`. -/
def computeAccept (clientKey : String) : Except PyError String := do
  let raw ← encodeAscii (clientKey ++ wsGuid)
  pure (String.ofList (b64encode ((sha1 raw).map UInt8.toNat)))

/-- The first line of the reply. -/
def statusLine : String := "HTTP/1.1 101 Switching Protocols"

/-- `build_handshake_response`. -/
def buildHandshakeResponse (clientKey : String) (extraHeaders : Dict String String) : Except PyError Bytes := do
  let accept ← computeAccept sha1 clientKey
  let accept ← encodeAscii accept
  let handshake := [ascii statusLine, ascii "Upgrade: websocket", ascii "Connection: Upgrade",
    ascii "Sec-WebSocket-Accept: " ++ accept]
  let extra ← extraHeaders.mapM fun header => encodeAscii (header.1 ++ ": " ++ header.2)
  pure ([13, 10].intercalate (handshake ++ extra) ++ [13, 10, 13, 10])

end

/-- `name.lower()`. -/
def lower (name : String) : String := name.map Char.toLower

/-- The header that names the provider. -/
def addressOf (providerKey : String) : String × String := ("Lava-Provider-Address", "sim-provider-" ++ providerKey)

/-- A chosen header replaces the address. -/
def Replaced (chosen : Dict String String) : Prop := lower "Lava-Provider-Address" ∈ chosen.map fun header => lower header.1

instance (chosen : Dict String String) : Decidable (Replaced chosen) :=
  inferInstanceAs (Decidable (lower "Lava-Provider-Address" ∈ chosen.map fun header => lower header.1))

/-- `_upgrade_headers`. -/
def upgradeHeaders (providerKey : String) (chosen : Dict String String) : Dict String String :=
  let names := chosen.map fun header => lower header.1
  let own : Dict String String := [addressOf providerKey].filter fun header => lower header.1 ∉ names
  own.update chosen

/-! ### Accepted headers -/

/-- The chosen headers of a scenario, as texts. -/
def chosenTexts (entries : List (Key × Value)) : Dict String String :=
  entries.filterMap fun entry =>
    match entry with
    | (.text name, .str value) => some (name, value)
    | _ => none

/-- **What the rules leave true of one chosen header.** -/
structure AcceptedHeader (header : String × String) : Prop where
  name : ∀ char ∈ header.1.toList, isChosenNameChar char = true
  value : ∀ char ∈ header.2.toList, isVisible char = true
  free : lower header.1 ∉ headersTheSimulatorOwns

/-- **What the rules leave true of all of them**: no two names differ in letter case only. -/
structure AcceptedHeaders (chosen : Dict String String) : Prop where
  each : ∀ header ∈ chosen, AcceptedHeader header
  once : (chosen.map fun header => lower header.1).Nodup

theorem validateChosenEntry_eq_ok {seen : List String} {key : Key} {value : Value} {lowered : String}
    (passed : validateChosenEntry .replyHeaders seen key value = .ok lowered) :
    ∃ name content, key = .text name ∧ value = .str content ∧ AcceptedHeader (name, content) ∧
      lowered = lower name ∧ lower name ∉ seen := by
  cases key with
  | pair verb template => cases passed
  | text name =>
      obtain ⟨_, named, passed⟩ := bind_eq_ok passed
      cases value with
      | str content =>
          obtain ⟨_, read, passed⟩ := bind_eq_ok passed
          cases read
          obtain ⟨_, valued, passed⟩ := bind_eq_ok passed
          obtain ⟨_, owned, passed⟩ := bind_eq_ok passed
          obtain ⟨_, -, passed⟩ := bind_eq_ok passed
          obtain ⟨_, -, passed⟩ := bind_eq_ok passed
          obtain ⟨_, -, passed⟩ := bind_eq_ok passed
          obtain ⟨_, fresh, passed⟩ := bind_eq_ok passed
          cases passed
          refine ⟨name, content, rfl, rfl, ⟨?_, ?_, ?_⟩, rfl, ?_⟩
          · have chars := refuseIf_eq_ok named
            simp only [Bool.or_eq_false_iff, List.any_eq_false, Bool.not_eq_true', Bool.not_eq_false] at chars
            exact chars.2
          · have chars := refuseIf_eq_ok valued
            simpa using chars
          · have free := refuseIf_eq_ok owned
            simpa [lower] using free
          · have free := refuseIf_eq_ok fresh
            simpa [lower] using free
      | _ => cases passed

theorem validateChosenEntries_eq_ok {entries : List (Key × Value)} {seen : List String}
    (passed : validateChosenEntries .replyHeaders entries seen = .ok ()) :
    AcceptedHeaders (chosenTexts entries) ∧ ∀ header ∈ chosenTexts entries, lower header.1 ∉ seen := by
  induction entries generalizing seen with
  | nil => exact ⟨⟨nofun, List.nodup_nil⟩, nofun⟩
  | cons entry rest ih =>
      obtain ⟨key, value⟩ := entry
      obtain ⟨lowered, first, later⟩ := bind_eq_ok passed
      obtain ⟨name, content, rfl, rfl, header, rfl, fresh⟩ := validateChosenEntry_eq_ok first
      obtain ⟨others, unseen⟩ := ih later
      have texts : chosenTexts ((.text name, .str content) :: rest) = (name, content) :: chosenTexts rest := rfl
      rw [texts]
      refine ⟨⟨?_, ?_⟩, ?_⟩
      · intro other member
        rcases List.mem_cons.mp member with rfl | member
        · exact header
        · exact others.each other member
      · rw [List.map_cons, List.nodup_cons]
        refine ⟨fun twice => ?_, others.once⟩
        obtain ⟨other, member, same⟩ := List.mem_map.mp twice
        exact unseen other member (same ▸ List.mem_cons_self)
      · intro other member
        rcases List.mem_cons.mp member with rfl | member
        · exact fresh
        · exact fun seen => unseen other member (List.mem_cons_of_mem _ seen)

/-- **The chosen headers of an accepted block.** -/
theorem acceptedHeaders {cfg : ScenarioUpdates} {entries : List (Key × Value)} (accepted : validate cfg = .ok ())
    (given : cfg.given .replyHeaders = .dict entries) : AcceptedHeaders (chosenTexts entries) := by
  have passed := (Control.validate_chosen accepted).1
  unfold validateChosen at passed
  rw [given] at passed
  obtain ⟨_, entriesPassed, -⟩ := bind_eq_ok passed
  exact (validateChosenEntries_eq_ok entriesPassed).1

/-! ### Characters and bytes -/

theorem ascii_append (front back : String) : ascii (front ++ back) = ascii front ++ ascii back := by
  unfold ascii
  rw [String.toList_append, List.map_append]

theorem IsAscii.append {front back : String} (first : IsAscii front) (second : IsAscii back) : IsAscii (front ++ back) := by
  intro char member
  rw [String.toList_append, List.mem_append] at member
  exact member.elim (first char) (second char)

theorem encodeAscii_of {text : String} (plain : IsAscii text) : encodeAscii text = .ok (ascii text) := if_pos plain

theorem byteOf_eq_iff {char other : Char} (small : char.toNat < 128) (small' : other.toNat < 128) :
    byteOf char = byteOf other ↔ char = other := by
  constructor
  · intro same
    have numbers := congrArg UInt8.toNat same
    unfold byteOf at numbers
    rw [UInt8.toNat_ofNat', UInt8.toNat_ofNat'] at numbers
    have equal : char.toNat = other.toNat := by omega
    exact Char.toNat_inj.mp equal
  · exact congrArg byteOf

theorem notMem_ascii {text : String} {char : Char} (plain : IsAscii text) (small : char.toNat < 128)
    (absent : char ∉ text.toList) : byteOf char ∉ ascii text := by
  intro member
  obtain ⟨other, listed, same⟩ := List.mem_map.mp member
  rw [byteOf_eq_iff (plain other listed) small] at same
  exact absent (same ▸ listed)

theorem isBlank_byteOf {char : Char} (small : char.toNat < 128) :
    isBlank (byteOf char) = true ↔ char = ' ' ∨ char = '\t' := by
  have space : byteOf char = byteOf ' ' ↔ char = ' ' := byteOf_eq_iff small (by decide)
  have tab : byteOf char = byteOf '\t' ↔ char = '\t' := byteOf_eq_iff small (by decide)
  change (decide (byteOf char = byteOf ' ') || decide (byteOf char = byteOf '\t')) = true ↔ _
  rw [Bool.or_eq_true, decide_eq_true_iff, decide_eq_true_iff, space, tab]

theorem visible_plain {char : Char} (visible : isVisible char = true) :
    char.toNat < 128 ∧ char ≠ '\r' ∧ char ≠ '\t' := by
  unfold isVisible at visible
  rw [Bool.and_eq_true, decide_eq_true_iff, decide_eq_true_iff] at visible
  have low : ' '.toNat ≤ char.toNat := visible.1
  have high : char.toNat ≤ '~'.toNat := visible.2
  have space : ' '.toNat = 32 := rfl
  have tilde : '~'.toNat = 126 := rfl
  refine ⟨by omega, ?_, ?_⟩
  · rintro rfl
    exact absurd low (by decide)
  · rintro rfl
    exact absurd low (by decide)

theorem nameChar_plain {char : Char} (allowed : isChosenNameChar char = true) :
    char.toNat < 128 ∧ char ≠ ':' ∧ char ≠ '\r' := by
  have digit : char.isDigit = true → 48 ≤ char.toNat ∧ char.toNat ≤ 57 := by
    intro digit
    unfold Char.isDigit at digit
    rw [Bool.and_eq_true, decide_eq_true_iff, decide_eq_true_iff] at digit
    exact digit
  have letter : char.isAlpha = true → 65 ≤ char.toNat ∧ char.toNat ≤ 122 := by
    intro letter
    unfold Char.isAlpha Char.isUpper Char.isLower at letter
    simp only [Bool.or_eq_true, Bool.and_eq_true, decide_eq_true_iff] at letter
    rcases letter with ⟨low, high⟩ | ⟨low, high⟩
    · have first : 65 ≤ char.toNat := low
      have last : char.toNat ≤ 90 := high
      omega
    · have first : 97 ≤ char.toNat := low
      have last : char.toNat ≤ 122 := high
      omega
  have bounds : (45 ≤ char.toNat ∧ char.toNat ≤ 57) ∨ (65 ≤ char.toNat ∧ char.toNat ≤ 122) := by
    unfold isChosenNameChar at allowed
    simp only [Bool.or_eq_true, decide_eq_true_iff] at allowed
    rcases allowed with (((rfl | rfl) | rfl) | digits) | letters
    · decide
    · decide
    · decide
    · have bound := digit digits
      omega
    · exact .inr (letter letters)
  refine ⟨by omega, ?_, ?_⟩
  · rintro rfl
    revert bounds
    decide
  · rintro rfl
    revert bounds
    decide

/-- A text with no space and no tab at its ends. -/
def Unpadded (text : String) : Prop :=
  (∀ char ∈ text.toList.head?, char ≠ ' ' ∧ char ≠ '\t') ∧ ∀ char ∈ text.toList.getLast?, char ≠ ' ' ∧ char ≠ '\t'

/-- **A text arrives untrimmed** if it has no space and no tab at its ends. -/
theorem trim_ascii_iff {text : String} (plain : IsAscii text) : trim (ascii text) = ascii text ↔ Unpadded text := by
  have blank : ∀ char ∈ text.toList, isBlank (byteOf char) = false ↔ char ≠ ' ' ∧ char ≠ '\t' := by
    intro char member
    rw [← Bool.not_eq_true, isBlank_byteOf (plain char member), not_or]
  rw [trim_eq_self_iff]
  unfold ascii Unpadded
  rw [List.head?_map, List.getLast?_map]
  simp only [Option.mem_map, forall_exists_index, and_imp, forall_apply_eq_imp_iff₂]
  refine and_congr (forall₂_congr fun char member => ?_) (forall₂_congr fun char member => ?_)
  · exact blank char (List.mem_of_mem_head? member)
  · exact blank char (List.mem_of_mem_getLast? member)

/-! ### The head that is written -/

/-- A header in bytes. -/
def inBytes (header : String × String) : Bytes × Bytes := (ascii header.1, ascii header.2)

theorem fieldLine_inBytes (header : String × String) : fieldLine (inBytes header) = ascii (header.1 ++ ": " ++ header.2) := by
  rw [ascii_append, ascii_append, List.append_assoc]
  rfl

theorem intercalate_write {line : Bytes} {lines : List Bytes} :
    [13, 10].intercalate (line :: lines) ++ [13, 10, 13, 10] = (line :: lines).flatMap writeLine ++ [13, 10] := by
  induction lines generalizing line with
  | nil => simp [List.intercalate, writeLine]
  | cons second lines ih =>
      have joined : [13, 10].intercalate (line :: second :: lines) =
          line ++ [13, 10] ++ [13, 10].intercalate (second :: lines) := by
        simp [List.intercalate]
      rw [joined, List.append_assoc, ih]
      simp only [List.flatMap_cons, writeLine, List.append_assoc]

/-- The three headers of the handshake. -/
def handshakeHeaders (accept : String) : List (String × String) :=
  [("Upgrade", "websocket"), ("Connection", "Upgrade"), ("Sec-WebSocket-Accept", accept)]

/-- The lines of ASCII headers. -/
theorem mapM_encodeAscii {headers : Dict String String}
    (plain : ∀ header ∈ headers, IsAscii (header.1 ++ ": " ++ header.2)) :
    headers.mapM (fun header => encodeAscii (header.1 ++ ": " ++ header.2)) =
      .ok (headers.map fun header => fieldLine (inBytes header)) := by
  induction headers with
  | nil => rfl
  | cons header headers ih =>
      have later := ih fun other member => plain other (List.mem_cons_of_mem _ member)
      rw [List.mapM_cons, encodeAscii_of (plain header List.mem_cons_self), ok_bind, later, ok_bind, List.map_cons,
        fieldLine_inBytes]
      rfl

theorem isAscii_of_mapM {headers : Dict String String} {lines : List Bytes}
    (encoded : headers.mapM (fun header => encodeAscii (header.1 ++ ": " ++ header.2)) = .ok lines) :
    ∀ header ∈ headers, IsAscii (header.1 ++ ": " ++ header.2) := by
  induction headers generalizing lines with
  | nil => exact nofun
  | cons header headers ih =>
      rw [List.mapM_cons] at encoded
      obtain ⟨line, first, encoded⟩ := ok_of_bind encoded
      obtain ⟨others, later, -⟩ := ok_of_bind encoded
      intro other member
      rcases List.mem_cons.mp member with rfl | member
      · unfold encodeAscii at first
        by_contra foreign
        rw [if_neg foreign] at first
        cases first
      · exact ih later other member

/-- **The bytes of the reply** are the head with the headers of the handshake and the others. -/
theorem buildHandshakeResponse_eq {sha1 : Bytes → Bytes} {clientKey accept : String} {extra : Dict String String}
    (accepts : computeAccept sha1 clientKey = .ok accept) (plain : IsAscii accept)
    (others : ∀ header ∈ extra, IsAscii (header.1 ++ ": " ++ header.2)) :
    buildHandshakeResponse sha1 clientKey extra =
      .ok (writeHead (ascii statusLine) ((handshakeHeaders accept ++ extra).map inBytes)) := by
  have upgrade : fieldLine (inBytes ("Upgrade", "websocket")) = ascii "Upgrade: websocket" := fieldLine_inBytes _
  have connection : fieldLine (inBytes ("Connection", "Upgrade")) = ascii "Connection: Upgrade" := fieldLine_inBytes _
  have accepted : fieldLine (inBytes ("Sec-WebSocket-Accept", accept)) =
      ascii "Sec-WebSocket-Accept: " ++ ascii accept := by
    rw [fieldLine_inBytes, ascii_append]
    rfl
  have lines : [ascii statusLine, ascii "Upgrade: websocket", ascii "Connection: Upgrade",
      ascii "Sec-WebSocket-Accept: " ++ ascii accept] ++ extra.map (fun header => fieldLine (inBytes header)) =
      ascii statusLine :: ((handshakeHeaders accept ++ extra).map inBytes).map fieldLine := by
    rw [← upgrade, ← connection, ← accepted, List.map_append, List.map_append, List.map_map, List.map_map]
    rfl
  unfold buildHandshakeResponse
  rw [accepts, ok_bind, encodeAscii_of plain, ok_bind]
  dsimp only
  rw [mapM_encodeAscii others, ok_bind, lines]
  change Except.ok _ = _
  rw [intercalate_write]
  rfl

/-! ### The accept value -/

/-- The characters of base64. -/
theorem mem_b64encode {bytes : List ℕ} {char : Char} (member : char ∈ b64encode bytes) : char ∈ '=' :: alphabet := by
  have listed : ∀ value, sextet value ∈ '=' :: alphabet := by
    intro value
    unfold sextet
    rw [List.getD_eq_getElem?_getD]
    cases found : alphabet[value]? with
    | none => exact List.mem_cons_of_mem _ (by decide +kernel)
    | some other => exact List.mem_cons_of_mem _ (List.mem_of_getElem? found)
  fun_induction b64encode bytes with
  | case1 => cases member
  | case2 a =>
      simp only [List.mem_cons, List.not_mem_nil, or_false] at member
      rcases member with rfl | rfl | rfl | rfl
      · exact listed _
      · exact listed _
      · exact List.mem_cons_self
      · exact List.mem_cons_self
  | case3 a b =>
      simp only [List.mem_cons, List.not_mem_nil, or_false] at member
      rcases member with rfl | rfl | rfl | rfl
      · exact listed _
      · exact listed _
      · exact listed _
      · exact List.mem_cons_self
  | case4 a b c rest ih =>
      simp only [List.mem_cons] at member
      rcases member with rfl | rfl | rfl | rfl | member
      · exact listed _
      · exact listed _
      · exact listed _
      · exact listed _
      · exact ih member

/-- A text of visible characters other than the space. -/
def Inked (text : String) : Prop := ∀ char ∈ text.toList, isVisible char = true ∧ char ≠ ' '

instance (text : String) : Decidable (Inked text) := List.decidableBAll _ text.toList

theorem inked_accept {sha1 : Bytes → Bytes} {clientKey : String} (ascii : IsAscii clientKey) :
    ∃ accept, computeAccept sha1 clientKey = .ok accept ∧ Inked accept := by
  have guid : IsAscii wsGuid := by decide +kernel
  refine ⟨String.ofList (b64encode ((sha1 (WsProtocol.ascii (clientKey ++ wsGuid))).map UInt8.toNat)), ?_, ?_⟩
  · unfold computeAccept
    rw [encodeAscii_of (ascii.append guid)]
    rfl
  · intro char member
    rw [String.toList_ofList] at member
    have all : Inked (String.ofList ('=' :: alphabet)) := by decide +kernel
    refine all char ?_
    rw [String.toList_ofList]
    exact mem_b64encode member

/-! ### The head that is read -/

/-- The key of a provider that can stand in a header: ASCII, with no `CRLF`, and with no space and no tab at its end. -/
structure PlainKey (providerKey : String) : Prop where
  plain : IsAscii providerKey
  unbroken : NoBreak (ascii providerKey)
  ends : ∀ char ∈ providerKey.toList.getLast?, char ≠ ' ' ∧ char ≠ '\t'

/-- The headers that are to arrive. -/
def arriving (accept providerKey : String) (chosen : Dict String String) : List (String × String) :=
  handshakeHeaders accept ++ ((if Replaced chosen then [] else [addressOf providerKey]) ++ chosen)

/-- **The headers arrive as written**: the bytes of the reply are read as the status line, the headers of the handshake,
the address unless it is replaced, and the chosen headers, with nothing after them, and no name is there twice. -/
structure ArriveAsWritten (sha1 : Bytes → Bytes) (clientKey providerKey : String) (chosen : Dict String String) :
    Prop where
  reads : ∃ accept bytes, computeAccept sha1 clientKey = .ok accept ∧
    buildHandshakeResponse sha1 clientKey (upgradeHeaders providerKey chosen) = .ok bytes ∧
    readHead bytes = some ⟨ascii statusLine, (arriving accept providerKey chosen).map inBytes, []⟩
  once : ∀ accept, ((arriving accept providerKey chosen).map fun header => lower header.1).Nodup

section

variable {sha1 : Bytes → Bytes} {clientKey providerKey : String} {chosen : Dict String String}

theorem upgradeHeaders_eq (accepted : AcceptedHeaders chosen) :
    upgradeHeaders providerKey chosen = (if Replaced chosen then [] else [addressOf providerKey]) ++ chosen := by
  have names : chosen.keys.Nodup := by
    have once : (chosen.keys.map lower).Nodup := by
      unfold Dict.keys
      rw [List.map_map]
      exact accepted.once
    exact List.Nodup.of_map lower once
  unfold upgradeHeaders
  dsimp only
  by_cases replaced : Replaced chosen
  · have own : [addressOf providerKey].filter (fun header => lower header.1 ∉ chosen.map fun header => lower header.1) =
        [] := List.filter_cons_of_neg (by rw [decide_eq_true_iff, not_not]; exact replaced)
    rw [if_pos replaced, own]
    exact Dict.update_eq_append names
  · have own : [addressOf providerKey].filter (fun header => lower header.1 ∉ chosen.map fun header => lower header.1) =
        [addressOf providerKey] := List.filter_cons_of_pos (decide_eq_true replaced)
    rw [if_neg replaced, own]
    refine Dict.update_eq_append (List.nodup_cons.mpr ⟨fun member => replaced ?_, names⟩)
    obtain ⟨header, listed, same⟩ := List.mem_map.mp member
    exact List.mem_map.mpr ⟨header, listed, congrArg lower same⟩

theorem arriving_once (accepted : AcceptedHeaders chosen) (accept : String) :
    ((arriving accept providerKey chosen).map fun header => lower header.1).Nodup := by
  have handshake : (handshakeHeaders accept).map (fun header => lower header.1) =
      ["upgrade", "connection", "sec-websocket-accept"] := by
    change [lower "Upgrade", lower "Connection", lower "Sec-WebSocket-Accept"] = _
    decide +kernel
  have address : lower "Lava-Provider-Address" ∉ ["upgrade", "connection", "sec-websocket-accept"] := by decide +kernel
  have owned : ∀ name ∈ ["upgrade", "connection", "sec-websocket-accept"], name ∈ headersTheSimulatorOwns := by decide +kernel
  have free : ∀ name ∈ ["upgrade", "connection", "sec-websocket-accept"],
      name ∉ chosen.map fun header => lower header.1 := by
    intro name listed member
    obtain ⟨header, given, rfl⟩ := List.mem_map.mp member
    exact (accepted.each header given).free (owned _ listed)
  have later : (((if Replaced chosen then [] else [addressOf providerKey]) ++ chosen).map
      fun header => lower header.1).Nodup := by
    split
    · exact accepted.once
    · next other => exact List.nodup_cons.mpr ⟨other, accepted.once⟩
  unfold arriving
  rw [List.map_append, handshake, List.nodup_append]
  refine ⟨by decide, later, ?_⟩
  rintro name listed _ member rfl
  rw [List.map_append, List.mem_append] at member
  rcases member with member | member
  · split at member
    · cases member
    · have same : name = lower "Lava-Provider-Address" := List.mem_singleton.mp member
      exact address (same ▸ listed)
  · exact free name listed member

/-- A header whose line can be read. -/
structure Readable (header : String × String) : Prop where
  plain : IsAscii header.1 ∧ IsAscii header.2
  colon : ':' ∉ header.1.toList
  name : '\r' ∉ header.1.toList
  value : NoBreak (ascii header.2)

theorem Readable.line {header : String × String} (readable : Readable header) :
    58 ∉ (inBytes header).1 ∧ NoBreak (fieldLine (inBytes header)) := by
  have colon : byteOf ':' ∉ ascii header.1 := notMem_ascii readable.plain.1 (by decide) readable.colon
  have name : byteOf '\r' ∉ ascii header.1 := notMem_ascii readable.plain.1 (by decide) readable.name
  have front : (13 : UInt8) ∉ ascii header.1 ++ [58, 32] := by
    rw [List.mem_append, not_or]
    exact ⟨name, by decide⟩
  refine ⟨colon, ?_⟩
  have whole : fieldLine (inBytes header) = (ascii header.1 ++ [58, 32]) ++ ascii header.2 := by
    rw [List.append_assoc]
    rfl
  rw [whole]
  exact readable.value.after front

theorem noBreak_of_visible {text : String} (visible : ∀ char ∈ text.toList, isVisible char = true) :
    IsAscii text ∧ NoBreak (ascii text) := by
  have plain : IsAscii text := fun char member => (visible_plain (visible char member)).1
  have absent : '\r' ∉ text.toList := fun member => (visible_plain (visible _ member)).2.1 rfl
  exact ⟨plain, noBreak_of_notMem (notMem_ascii plain (by decide) absent)⟩

theorem readable_of {header : String × String} (named : ∀ char ∈ header.1.toList, isChosenNameChar char = true)
    (visible : ∀ char ∈ header.2.toList, isVisible char = true) : Readable header where
  plain := ⟨fun char member => (nameChar_plain (named char member)).1, (noBreak_of_visible visible).1⟩
  colon := fun member => (nameChar_plain (named _ member)).2.1 rfl
  name := fun member => (nameChar_plain (named _ member)).2.2 rfl
  value := (noBreak_of_visible visible).2

theorem AcceptedHeader.readable {header : String × String} (accepted : AcceptedHeader header) : Readable header :=
  readable_of accepted.name accepted.value

theorem Inked.unpadded {text : String} (inked : Inked text) : Unpadded text := by
  have unblank : ∀ char ∈ text.toList, char ≠ ' ' ∧ char ≠ '\t' :=
    fun char member => ⟨(inked char member).2, (visible_plain (inked char member).1).2.2⟩
  constructor
  · intro char member
    exact unblank char (List.mem_of_mem_head? member)
  · intro char member
    exact unblank char (List.mem_of_mem_getLast? member)

theorem handshake_readable {accept : String} (inked : Inked accept) :
    ∀ header ∈ handshakeHeaders accept, Readable header ∧ Unpadded header.2 := by
  have fixed : ∀ name value : String, (∀ char ∈ name.toList, isChosenNameChar char = true) → Inked value →
      Readable (name, value) ∧ Unpadded value := by
    intro name value named inked
    exact ⟨readable_of named fun char member => (inked char member).1, inked.unpadded⟩
  intro header member
  simp only [handshakeHeaders, List.mem_cons, List.not_mem_nil, or_false] at member
  rcases member with rfl | rfl | rfl
  · exact fixed _ _ (List.all_eq_true.mp (by decide)) (by decide)
  · exact fixed _ _ (List.all_eq_true.mp (by decide)) (by decide)
  · exact fixed _ _ (List.all_eq_true.mp (by decide)) inked

theorem unpadded_address (providerKey : String) :
    Unpadded ("sim-provider-" ++ providerKey) ↔ ∀ char ∈ providerKey.toList.getLast?, char ≠ ' ' ∧ char ≠ '\t' := by
  have first : ("sim-provider-" ++ providerKey).toList.head? = some 's' := by
    rw [String.toList_append]
    rfl
  have last : ("sim-provider-" ++ providerKey).toList.getLast? = providerKey.toList.getLast?.or (some '-') := by
    rw [String.toList_append, List.getLast?_append]
    rfl
  unfold Unpadded
  rw [first, last]
  cases providerKey.toList.getLast? with
  | none => simp
  | some char => simp

theorem address_readable (key : PlainKey providerKey) :
    Readable (addressOf providerKey) ∧ Unpadded (addressOf providerKey).2 := by
  have front : IsAscii "sim-provider-" := by decide +kernel
  have absent : (13 : UInt8) ∉ ascii "sim-provider-" := by decide +kernel
  have name : IsAscii "Lava-Provider-Address" ∧ ':' ∉ "Lava-Provider-Address".toList ∧
      '\r' ∉ "Lava-Provider-Address".toList := by decide +kernel
  refine ⟨⟨⟨name.1, front.append key.plain⟩, name.2.1, name.2.2, ?_⟩, (unpadded_address providerKey).mpr key.ends⟩
  change NoBreak (ascii ("sim-provider-" ++ providerKey))
  rw [ascii_append]
  exact key.unbroken.after absent

/-- Headers that can be read arrive. -/
theorem arrive_of (accepted : AcceptedHeaders chosen) (client : IsAscii clientKey)
    (unpadded : ∀ header ∈ chosen, Unpadded header.2) (key : Replaced chosen ∨ PlainKey providerKey) :
    ArriveAsWritten sha1 clientKey providerKey chosen := by
  obtain ⟨accept, accepts, inked⟩ : ∃ accept, computeAccept sha1 clientKey = .ok accept ∧ Inked accept :=
    inked_accept client
  have extra : ∀ header ∈ (if Replaced chosen then [] else [addressOf providerKey]) ++ chosen,
      Readable header ∧ Unpadded header.2 := by
    intro header member
    rcases List.mem_append.mp member with own | member
    · split at own
      · cases own
      · next other =>
          rw [List.mem_singleton.mp own]
          exact address_readable (key.resolve_left other)
    · exact ⟨(accepted.each header member).readable, unpadded header member⟩
  have all : ∀ header ∈ arriving accept providerKey chosen, Readable header ∧ Unpadded header.2 := by
    intro header member
    exact (List.mem_append.mp member).elim (handshake_readable inked header) (extra header)
  have plain : IsAscii accept := fun char member => (visible_plain (inked char member).1).1
  have lines : ∀ header ∈ upgradeHeaders providerKey chosen, IsAscii (header.1 ++ ": " ++ header.2) := by
    intro header member
    rw [upgradeHeaders_eq accepted] at member
    have ends := (extra header member).1.plain
    exact (ends.1.append (by decide)).append ends.2
  refine ⟨⟨accept, _, accepts, buildHandshakeResponse_eq accepts plain lines, ?_⟩, arriving_once accepted⟩
  rw [upgradeHeaders_eq accepted]
  have read : readHead (writeHead (ascii statusLine) ((arriving accept providerKey chosen).map inBytes)) = _ :=
    readHead_writeHead (by decide) (noBreak_of_notMem (by decide)) (by
      intro field member
      obtain ⟨header, listed, rfl⟩ := List.mem_map.mp member
      exact (all header listed).1.line)
  refine read.trans ?_
  rw [List.map_map]
  have trimmed : (arriving accept providerKey chosen).map ((fun field : Bytes × Bytes => (field.1, trim field.2)) ∘
      inBytes) = (arriving accept providerKey chosen).map inBytes := by
    refine List.map_congr_left fun header member => ?_
    have same := (trim_ascii_iff (all header member).1.plain.2).mpr (all header member).2
    exact Prod.ext rfl same
  rw [trimmed]

/-- Headers that arrive have nothing that a reader takes away. -/
theorem of_arrive (accepted : AcceptedHeaders chosen) (arrive : ArriveAsWritten sha1 clientKey providerKey chosen) :
    (∀ header ∈ chosen, Unpadded header.2) ∧ (Replaced chosen ∨ PlainKey providerKey) := by
  obtain ⟨accept, bytes, -, built, read⟩ := arrive.reads
  have clean : ∀ header ∈ arriving accept providerKey chosen,
      trim (ascii header.2) = ascii header.2 ∧ NoBreak (ascii header.2) := by
    intro header member
    exact readHead_clean read (inBytes header) (List.mem_map_of_mem member)
  constructor
  · intro header member
    have listed : header ∈ arriving accept providerKey chosen :=
      List.mem_append_right _ (List.mem_append_right _ member)
    exact (trim_ascii_iff (accepted.each header member).readable.plain.2).mp (clean header listed).1
  · by_cases replaced : Replaced chosen
    · exact .inl replaced
    · right
      have own : addressOf providerKey ∈ (if Replaced chosen then [] else [addressOf providerKey]) ++ chosen := by
        rw [if_neg replaced]
        exact List.mem_cons_self
      have written : IsAscii ((addressOf providerKey).1 ++ ": " ++ (addressOf providerKey).2) := by
        unfold buildHandshakeResponse at built
        obtain ⟨_, -, built⟩ := ok_of_bind built
        obtain ⟨_, -, built⟩ := ok_of_bind built
        obtain ⟨_, encoded, -⟩ := ok_of_bind built
        exact isAscii_of_mapM encoded _ (upgradeHeaders_eq accepted ▸ own)
      have value : IsAscii ("sim-provider-" ++ providerKey) := by
        intro char member
        refine written char ?_
        rw [String.toList_append]
        exact List.mem_append_right _ member
      have arrived := clean (addressOf providerKey) (List.mem_append_right _ own)
      refine ⟨?_, ?_, ?_⟩
      · intro char member
        refine value char ?_
        rw [String.toList_append]
        exact List.mem_append_right _ member
      · have whole : NoBreak (ascii ("sim-provider-" ++ providerKey)) := arrived.2
        rw [ascii_append] at whole
        exact whole.part (List.suffix_append _ _).isInfix
      · exact (unpadded_address providerKey).mp ((trim_ascii_iff value).mp arrived.1)

/-- **The headers of an accepted scenario arrive as written** if and only if no chosen value has a space at its ends, and
the address is replaced or the key of the provider can stand in a header. -/
theorem headers_arrive_iff {cfg : ScenarioUpdates} {entries : List (Key × Value)} (accepted : validate cfg = .ok ())
    (given : cfg.given .replyHeaders = .dict entries) (client : IsAscii clientKey) (sha1 : Bytes → Bytes)
    (providerKey : String) :
    ArriveAsWritten sha1 clientKey providerKey (chosenTexts entries) ↔
      (∀ header ∈ chosenTexts entries, Unpadded header.2) ∧
        (Replaced (chosenTexts entries) ∨ PlainKey providerKey) := by
  have headers := acceptedHeaders accepted given
  exact ⟨of_arrive headers, fun both => arrive_of headers client both.1 both.2⟩

end

/-! ### Two notes -/

/-- A client key. -/
def sampleKey : String := "dGhlIHNhbXBsZSBub25jZQ=="

/-- The digest for this key. -/
def sampleDigest (_ : Bytes) : Bytes :=
  [0xb3, 0x7a, 0x4f, 0x2c, 0xc0, 0x62, 0x4f, 0x16, 0x90, 0xf6, 0x46, 0x06, 0xcf, 0x38, 0x59, 0x45, 0xb2, 0xbe, 0xc4, 0xea]

example : (computeAccept sampleDigest sampleKey).toOption = some "s3pPLMBiTxaQ9kYGzzhZRbK+xOo=" := by decide +kernel

/-- A block that chooses one header. -/
def noteUpdates (value : String) : ScenarioUpdates :=
  ⟨[(.replyHeaders, .object [("X-Note", .str value)])], List.nodup_singleton _⟩

theorem validate_note {value : String} (passes : (validate (noteUpdates value)).toOption.isSome = true) :
    validate (noteUpdates value) = .ok () := by
  cases result : validate (noteUpdates value) with
  | ok done => rfl
  | error error =>
      rw [result] at passes
      cases passes

theorem plainKey_sample : PlainKey "eth-sim:1" :=
  ⟨by decide, noBreak_of_notMem (by decide), (unpadded_address "eth-sim:1").mp (Inked.unpadded (by decide))⟩

/-- `X-Note: 5` arrives as it is written. -/
theorem note_arrives : ArriveAsWritten sampleDigest sampleKey "eth-sim:1" [("X-Note", "5")] := by
  have unpadded : ∀ header ∈ chosenTexts [(.text "X-Note", .str "5")], Unpadded header.2 := by
    intro header member
    rw [List.mem_singleton.mp member]
    exact Inked.unpadded (by decide)
  have accepted : validate (noteUpdates "5") = .ok () := validate_note (by decide +kernel)
  have client : IsAscii sampleKey := by decide
  exact (headers_arrive_iff accepted rfl client sampleDigest "eth-sim:1").mpr ⟨unpadded, .inr plainKey_sample⟩

/-- A note that begins with a space is accepted, and does not arrive as it is written. -/
theorem padded_note :
    validate (noteUpdates " 5") = .ok () ∧ IsAscii sampleKey ∧
      ¬ ArriveAsWritten sampleDigest sampleKey "eth-sim:1" [("X-Note", " 5")] := by
  have accepted : validate (noteUpdates " 5") = .ok () := validate_note (by decide +kernel)
  refine ⟨accepted, by decide, fun arrive => ?_⟩
  have headers : AcceptedHeaders [("X-Note", " 5")] := acceptedHeaders accepted rfl
  have unpadded := (of_arrive headers arrive).1 ("X-Note", " 5") List.mem_cons_self
  exact (unpadded.1 ' ' rfl).1 rfl

end ProviderSimulator.Listeners.WsProtocol
