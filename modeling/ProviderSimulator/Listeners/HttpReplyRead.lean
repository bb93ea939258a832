/-
**What a client reads of an HTTP reply.**

* `Port.Plain` and `fields_readable` — the texts of a port and the chosen headers of an accepted scenario can stand in a
  head, and `contentLength_fields` — the length in it is the one that is read;
* `reply_read` — **a reply is read as it was planned**: a client that reads the head and as many bytes as its length
  says has the status, the headers with the chosen ones in the place of those that they replace, and the bytes of
  `serialize`;
* `reply_paused` — **a pause changes no byte**, and as long as it lasts there is no reply;
* `drop_read` — **a reply that is cut is never a reply**.
-/

import Mathlib.Tactic.Common
import ProviderSimulator.Listeners.HttpReply
import ProviderSimulator.Python.Numerals

namespace ProviderSimulator.Listeners.HttpReply

open ProviderSimulator.Lib ProviderSimulator.Lib.HttpHead ProviderSimulator.Lib.HttpMessage
open ProviderSimulator.Python ProviderSimulator.Domain
open ProviderSimulator.Listeners.Wire ProviderSimulator.Listeners.WsProtocol

/-! ### The headers of a reply -/

section

variable {port : Port} {chosen own : List (String × String)}

theorem isToLower (name : String) : name.toLower = lower name := rfl

/-- A header that no chosen one replaces. -/
theorem mem_unchosen {headers : List (String × String)} {header : String × String} :
    header ∈ unchosen chosen headers ↔ header ∈ headers ∧ lower header.1 ∉ chosen.map fun other => lower other.1 := by
  unfold unchosen
  rw [List.mem_filter]
  refine and_congr_right fun _ => ?_
  simp only [Bool.not_eq_true', List.any_eq_false, List.mem_map, not_exists, not_and, isToLower]
  exact forall₂_congr fun other _ => not_congr decide_eq_true_iff

/-- **No name is there twice**, if the headers of the port have names of their own. -/
theorem fields_once (accepted : AcceptedHeaders chosen)
    (names : (["server", "date"] ++ own.map fun header => lower header.1).Nodup) :
    ((port.fields chosen own).map fun header => lower header.1).Nodup := by
  have server : lower "Server" = "server" ∧ lower "Date" = "date" := by decide +kernel
  have dressed : ([("Server", port.server), ("Date", port.date)] ++ own.map port.dress).map
      (fun header => lower header.1) = ["server", "date"] ++ own.map fun header => lower header.1 := by
    rw [List.map_append, List.map_map]
    simp only [List.map_cons, List.map_nil, server.1, server.2, Function.comp_def, dress_name]
  have fresh : ((unchosen chosen ([("Server", port.server), ("Date", port.date)] ++ own.map port.dress)).map
      fun header => lower header.1).Nodup := by
    refine List.Nodup.sublist (List.filter_sublist.map _) ?_
    rw [dressed]
    exact names
  unfold Port.fields
  rw [List.map_append, List.nodup_append]
  refine ⟨fresh, accepted.once, ?_⟩
  rintro name first _ second rfl
  obtain ⟨header, listed, rfl⟩ := List.mem_map.mp first
  exact (mem_unchosen.mp listed).2 second

/-- The letters of ASCII are made small in bytes as in a text. -/
theorem map_lowerByte {name : String} (plain : IsAscii name) : (ascii name).map lowerByte = ascii (lower name) := by
  have each : ∀ char : Char, char.toNat < 128 → lowerByte (byteOf char) = byteOf char.toLower := by
    intro char small
    have all : ∀ value : Fin 128,
        lowerByte (byteOf (Char.ofNat value.val)) = byteOf (Char.ofNat value.val).toLower := by
      decide +kernel
    have here := all ⟨char.toNat, small⟩
    rwa [Char.ofNat_toNat] at here
  unfold ascii lower
  rw [String.toList_map, List.map_map, List.map_map]
  exact List.map_congr_left fun char member => each char (plain char member)

theorem ascii_injective {first second : String} (plain : IsAscii first) (plain' : IsAscii second)
    (same : ascii first = ascii second) : first = second := by
  have chars : ∀ {one other : List Char}, (∀ char ∈ one, char.toNat < 128) → (∀ char ∈ other, char.toNat < 128) →
      one.map byteOf = other.map byteOf → one = other := by
    intro one
    induction one with
    | nil =>
        intro other _ _ same
        exact (List.map_eq_nil_iff.mp same.symm).symm
    | cons char one ih =>
        intro other small small' same
        cases other with
        | nil => cases same
        | cons char' other =>
            obtain ⟨first, later⟩ := List.cons.inj same
            rw [(byteOf_eq_iff (small char List.mem_cons_self) (small' char' List.mem_cons_self)).mp first,
              ih (fun other member => small other (List.mem_cons_of_mem _ member))
                (fun other member => small' other (List.mem_cons_of_mem _ member)) later]
  exact String.toList_inj.mp (chars plain plain' same)

theorem isAscii_lower {name : String} (plain : IsAscii name) : IsAscii (lower name) := by
  intro char member
  unfold lower at member
  rw [String.toList_map] at member
  obtain ⟨other, listed, rfl⟩ := List.mem_map.mp member
  have all : ∀ value : Fin 128, (Char.ofNat value.val).toLower.toNat < 128 := by decide +kernel
  have here := all ⟨other.toNat, plain other listed⟩
  rwa [Char.ofNat_toNat] at here

/-- A header as it is read. -/
def arrived (header : String × String) : Bytes × Bytes := (ascii header.1, trim (ascii header.2))

/-- **The length that is read** is the one that the port announces. -/
theorem contentLength_arrived {headers : List (String × String)} {length : ℕ}
    (plain : ∀ header ∈ headers, IsAscii header.1) (once : (headers.map fun header => lower header.1).Nodup)
    (announced : ("Content-Length", toString length) ∈ headers) :
    contentLength (headers.map arrived) = some length := by
  have name : lower "Content-Length" = "content-length" := by decide +kernel
  have bytes : lengthName = ascii "content-length" := by decide +kernel
  have isLength : ∀ header ∈ headers, ((arrived header).1.map lowerByte = lengthName ↔
      header = ("Content-Length", toString length)) := by
    intro header member
    constructor
    · intro same
      unfold arrived at same
      dsimp only at same
      rw [map_lowerByte (plain header member), bytes] at same
      have lowered := ascii_injective (isAscii_lower (plain header member)) (by decide) same
      exact List.inj_on_of_nodup_map once member announced (lowered.trans name.symm)
    · rintro rfl
      unfold arrived
      dsimp only
      rw [map_lowerByte (by decide), name, bytes]
  have digits : trim (ascii (toString length)) = writeDecimal length := by
    have plainDigits : ∀ char ∈ (toString length).toList, char.isDigit = true := by
      intro char member
      rw [Nat.toString_eq_ofList_toDigits, String.toList_ofList] at member
      exact Nat.isDigit_of_mem_toDigits (by decide) (by decide) member
    have unblank : ∀ char ∈ (toString length).toList, char.toNat < 128 ∧ char ≠ ' ' ∧ char ≠ '\t' := by
      intro char member
      have digit := plainDigits char member
      unfold Char.isDigit at digit
      rw [Bool.and_eq_true, decide_eq_true_iff, decide_eq_true_iff] at digit
      have low : 48 ≤ char.toNat := digit.1
      have high : char.toNat ≤ 57 := digit.2
      refine ⟨by omega, ?_, ?_⟩
      · rintro rfl
        exact absurd low (by decide)
      · rintro rfl
        exact absurd low (by decide)
    have unpadded : Unpadded (toString length) :=
      ⟨fun char member => (unblank char (List.mem_of_mem_head? member)).2,
        fun char member => (unblank char (List.mem_of_mem_getLast? member)).2⟩
    rw [(trim_ascii_iff fun char member => (unblank char member).1).mpr unpadded]
    unfold ascii writeDecimal
    rw [Nat.toString_eq_ofList_toDigits, String.toList_ofList]
    rfl
  unfold contentLength
  rw [List.find?_map]
  let isLengthField : Bytes × Bytes → Bool := fun field => decide (field.1.map lowerByte = lengthName)
  cases found : headers.find? (isLengthField ∘ arrived) with
  | none =>
      have none := List.find?_eq_none.mp found _ announced
      exact absurd (decide_eq_true ((isLength _ announced).mpr rfl)) none
  | some header =>
      have member := List.mem_of_find?_eq_some found
      have holds := List.find?_some found
      have this : header = ("Content-Length", toString length) :=
        (isLength header member).mp (of_decide_eq_true holds)
      rw [Option.map_some, Option.bind_some, this]
      unfold arrived
      dsimp only
      rw [digits, readDecimal_write]

end

/-! ### Texts that can stand in a head -/

/-- Visible ASCII characters and spaces. -/
def AllVisible (text : String) : Prop := ∀ char ∈ text.toList, isVisible char = true

instance (text : String) : Decidable (AllVisible text) := List.decidableBAll _ text.toList

theorem AllVisible.append {front back : String} (first : AllVisible front) (second : AllVisible back) :
    AllVisible (front ++ back) := by
  intro char member
  rw [String.toList_append, List.mem_append] at member
  exact member.elim (first char) (second char)

theorem allVisible_nat (number : ℕ) : AllVisible (toString number) := by
  intro char member
  rw [Nat.toString_eq_ofList_toDigits, String.toList_ofList] at member
  have digit := Nat.isDigit_of_mem_toDigits (by decide) (by decide) member
  unfold Char.isDigit at digit
  rw [Bool.and_eq_true, decide_eq_true_iff, decide_eq_true_iff] at digit
  have low : '0' ≤ char := digit.1
  have high : char ≤ '9' := digit.2
  unfold isVisible
  rw [Bool.and_eq_true, decide_eq_true_iff, decide_eq_true_iff]
  have space : ' ' ≤ '0' := by decide
  have tilde : '9' ≤ '~' := by decide
  exact ⟨Char.le_trans space low, Char.le_trans high tilde⟩

theorem allVisible_int (number : ℤ) : AllVisible (toString number) := by
  cases number with
  | ofNat value => exact allVisible_nat value
  | negSucc value => exact AllVisible.append (by decide : AllVisible "-") (allVisible_nat (value + 1))

/-- A name that is added to a content type leaves it visible. -/
theorem AllVisible.parameter {mediaType name value : String} (media : AllVisible mediaType) (named : AllVisible name)
    (given : AllVisible value) : AllVisible (HttpListenerHandler.withMediaTypeParameter mediaType name value) := by
  have replaced : ∀ (old : Char) (new text : List Char), new.all isVisible = true →
      (∀ char ∈ text, isVisible char = true) →
      ∀ char ∈ HttpListenerHandler.replace old new text, isVisible char = true := by
    intro old new text added kept char member
    obtain ⟨other, listed, inside⟩ := List.mem_flatMap.mp member
    by_cases same : other = old
    · rw [if_pos same] at inside
      exact List.all_eq_true.mp added char inside
    · rw [if_neg same, List.mem_singleton] at inside
      exact inside ▸ kept other listed
  have text : AllVisible (HttpListenerHandler.parameterText value) := by
    unfold HttpListenerHandler.parameterText
    split
    · exact given
    · refine AllVisible.append (AllVisible.append (by decide) ?_) (by decide)
      intro char member
      rw [String.toList_ofList] at member
      exact replaced _ _ _ (by decide) (replaced _ _ _ (by decide) given) char member
  unfold HttpListenerHandler.withMediaTypeParameter
  split
  · exact media
  · exact ((media.append (by decide)).append named).append (by decide) |>.append text

/-- **The texts of the port can stand in a head.** -/
structure Port.Plain (port : Port) : Prop where
  providerName : AllVisible port.providerName
  callerAddress : AllVisible port.callerAddress
  server : AllVisible port.server
  date : AllVisible port.date
  reason : ∀ status, AllVisible (port.reason status)

section

variable {port : Port} {chosen own : List (String × String)}

theorem Port.Plain.line (plain : port.Plain) (status : ℤ) : IsAscii (port.firstLine status) ∧
    NoBreak (ascii (port.firstLine status)) := by
  have visible : AllVisible (port.firstLine status) :=
    ((AllVisible.append (by decide) (allVisible_int status)).append (by decide)).append (plain.reason _)
  exact noBreak_of_visible visible

theorem Port.Plain.dress (plain : port.Plain) {header : String × String} (value : AllVisible header.2) :
    AllVisible (port.dress header).2 := by
  unfold Port.dress
  split
  · exact (value.parameter (by decide) plain.providerName).parameter (by decide) plain.callerAddress
  · exact value

/-- The names of the port's own headers. -/
def ownNames : List String := ["Server", "Date", "Content-Type", "Content-Length", "Cache-Control"]

theorem ownNames_allowed {name : String} (own : name ∈ ownNames) :
    ∀ char ∈ name.toList, isChosenNameChar char = true := by
  have all : (ownNames.all fun name => name.toList.all isChosenNameChar) = true := by decide +kernel
  exact List.all_eq_true.mp (List.all_eq_true.mp all name own)

/-- The headers of the port, by their names and values. -/
structure OwnHeaders (own : List (String × String)) : Prop where
  name : ∀ header ∈ own, header.1 ∈ ownNames
  value : ∀ header ∈ own, AllVisible header.2

theorem fields_readable (plain : port.Plain) (accepted : AcceptedHeaders chosen) (known : OwnHeaders own) :
    ∀ header ∈ port.fields chosen own, WsProtocol.Readable header := by
  intro header member
  unfold Port.fields at member
  rcases List.mem_append.mp member with mine | given
  · rcases List.mem_append.mp (mem_unchosen.mp mine).1 with server | added
    · rcases List.mem_cons.mp server with rfl | date
      · exact readable_of (ownNames_allowed (by decide : "Server" ∈ ownNames)) plain.server
      · rw [List.mem_singleton.mp date]
        exact readable_of (ownNames_allowed (by decide : "Date" ∈ ownNames)) plain.date
    · obtain ⟨header, listed, rfl⟩ := List.mem_map.mp added
      refine readable_of ?_ (plain.dress (known.value header listed))
      rw [dress_name]
      exact ownNames_allowed (known.name header listed)
  · exact (accepted.each header given).readable

theorem bodyHeaders_own (result : ServeResult) (length : ℕ) : OwnHeaders (bodyHeaders result length) := by
  have type : AllVisible (contentType result) := by
    unfold contentType
    split
    · decide
    · split <;> decide
  constructor
  · intro header member
    simp only [bodyHeaders, List.mem_cons, List.not_mem_nil, or_false] at member
    rcases member with rfl | rfl | rfl
    · exact (by decide : "Content-Type" ∈ ownNames)
    · exact (by decide : "Content-Length" ∈ ownNames)
    · exact (by decide : "Cache-Control" ∈ ownNames)
  · intro header member
    simp only [bodyHeaders, List.mem_cons, List.not_mem_nil, or_false] at member
    rcases member with rfl | rfl | rfl
    · exact type
    · exact allVisible_nat length
    · decide

/-- The bytes of a head that the port writes are read as this head. -/
theorem readHead_fields (plain : port.Plain) (accepted : AcceptedHeaders chosen) (known : OwnHeaders own) (status : ℤ)
    (rest : Bytes) :
    readHead (writeHead (ascii (port.firstLine status)) ((port.fields chosen own).map inBytes) ++ rest) =
      some ⟨ascii (port.firstLine status), (port.fields chosen own).map arrived, rest⟩ := by
  have given : ascii (port.firstLine status) ≠ [] := by
    unfold Port.firstLine
    rw [ascii_append, ascii_append, ascii_append]
    simp [ascii]
  have lines : ∀ field ∈ (port.fields chosen own).map inBytes, 58 ∉ field.1 ∧ NoBreak (fieldLine field) := by
    intro field member
    obtain ⟨header, listed, rfl⟩ := List.mem_map.mp member
    exact (fields_readable plain accepted known header listed).line
  have read := readHead_write given (plain.line status).2 lines rest
  rw [List.map_map] at read
  exact read

end

/-! ### Whole replies -/

section

variable {port : Port} {result : ServeResult} {status : ℤ} {raw : Bytes} {emit late holds : Bool}
  {cfg : ScenarioUpdates} {entries : List (Key × Value)}

/-- The chosen headers of a plan are those of the accepted block that it carries. -/
theorem chosenHeaders_eq (host : Host) (accepted : validate cfg = .ok ())
    (given : cfg.given .replyHeaders = .dict entries) (carries : result.replyHeaders = .dict entries) :
    chosenHeaders host result = chosenTexts entries := by
  have passed := (Control.validate_chosen accepted).1
  unfold validateChosen at passed
  rw [given] at passed
  obtain ⟨_, entriesPassed, -⟩ := bind_eq_ok passed
  have texts : ∀ {entries : List (Key × Value)} {seen : List String},
      validateChosenEntries .replyHeaders entries seen = .ok () →
      (Value.members entries).map (fun member => (member.1, host.text member.2)) = chosenTexts entries := by
    intro entries
    induction entries with
    | nil => exact fun _ => rfl
    | cons entry rest ih =>
        intro seen passed
        obtain ⟨key, value⟩ := entry
        obtain ⟨lowered, first, later⟩ := bind_eq_ok passed
        obtain ⟨name, content, rfl, rfl, -, -, -⟩ := validateChosenEntry_eq_ok first
        exact congrArg ((name, content) :: ·) (ih later)
  unfold chosenHeaders
  rw [carries]
  exact texts entriesPassed

/-- The names of a reply with a body are its own. -/
theorem bodyHeaders_once (port : Port) (result : ServeResult) (accepted : AcceptedHeaders (chosenTexts entries))
    (length : ℕ) :
    ((port.fields (chosenTexts entries) (bodyHeaders result length)).map fun header => lower header.1).Nodup := by
  refine fields_once accepted ?_
  show (["server", "date"] ++ [lower "Content-Type", lower "Content-Length", lower "Cache-Control"]).Nodup
  decide +kernel

/-- The length that a head announces is the one that is read. -/
theorem contentLength_fields {own : List (String × String)} {length : ℕ} (plain : port.Plain)
    (accepted : AcceptedHeaders (chosenTexts entries)) (known : OwnHeaders own)
    (once : ((port.fields (chosenTexts entries) own).map fun header => lower header.1).Nodup)
    (announced : ("Content-Length", toString length) ∈ own) :
    contentLength ((port.fields (chosenTexts entries) own).map arrived) = some length := by
  have names : ∀ header ∈ port.fields (chosenTexts entries) own, IsAscii header.1 := fun header member =>
    (fields_readable plain accepted known header member).plain.1
  refine contentLength_arrived names once ?_
  unfold Port.fields
  refine List.mem_append_left _ (mem_unchosen.mpr ⟨List.mem_append_right _ (List.mem_map.mpr ⟨_, announced, ?_⟩), ?_⟩)
  · have other : ¬ "Content-Length".toLower = "content-type" := by decide +kernel
    exact if_neg other
  · intro chosen
    obtain ⟨header, listed, same⟩ := List.mem_map.mp chosen
    refine (accepted.each header listed).free ?_
    have owned : lower "Content-Length" ∈ headersTheSimulatorOwns := by decide +kernel
    exact same ▸ owned

/-- The waits of a plan before its head: nothing is sent yet. -/
theorem play_wait (port : Port) (chosen : List (String × String)) (waits : Bool) (milliseconds : Value) :
    ∃ early, (waitSteps waits milliseconds).foldlM (port.act chosen) {} = .ok { waits := early } ∧
      ∀ sent ∈ early, sent = [] := by
  cases waits with
  | false => exact ⟨[], rfl, nofun⟩
  | true => exact ⟨[[]], rfl, fun sent member => List.mem_singleton.mp member⟩

/-- **What is sent for a plan that responds**: the head, and the body if the plan does not suppress it. Each wait begins
before the last byte of a body. -/
theorem reply_sent (plain : port.Plain) (accepted : validate cfg = .ok ())
    (given : cfg.given .replyHeaders = .dict entries) (carries : result.replyHeaders = .dict entries)
    (responds : result.action = .respond) (answers : result.status = .int status)
    (latency : result.latencyMs.exceeds 0 = .ok late) (pause : result.pauseMs.exceeds 0 = .ok holds)
    (bytes : serialize port.handler.host result.body result.corruptionMode result.missingField port.handler.dotted =
      .ok (raw, emit)) :
    let body := if emit then raw else []
    let head := writeHead (ascii (port.firstLine status))
      ((port.fields (chosenTexts entries) (bodyHeaders result body.length)).map inBytes)
    ∃ socket, reply port result = .ok socket ∧
      socket.sent = head ++ (if result.suppressBody then [] else body) ∧
      ((if result.suppressBody then [] else body) ≠ [] →
        ∀ early ∈ socket.waits, early <+: socket.sent ∧ early ≠ socket.sent) := by
  intro body head
  have chosen := chosenHeaders_eq port.handler.host accepted given carries
  have headers := acceptedHeaders accepted given
  obtain ⟨steps, after, known⟩ := @outcome_performBody result body holds pause
  have answered := outcome_bind (outcome_performHeaders answers bytes) after
  have performs : (perform port.handler result).outcomeAt () =
      ⟨waitSteps late result.latencyMs ++ (headSteps (chosenHeaders port.handler.host result) status
        (bodyHeaders result body.length) ++ steps), .ok ()⟩ := by
    unfold perform
    rw [responds]
    exact outcome_bind (outcome_pausing latency) answered
  rw [chosen] at performs
  obtain ⟨first, waited, unsent⟩ := play_wait port (chosenTexts entries) late result.latencyMs
  have headed := play_head { waits := first } headers (plain.line status).1
    (fields_readable plain headers (bodyHeaders_own result body.length)) rfl
  obtain ⟨later, played, early⟩ :=
    play_body port (chosenTexts entries) { sent := [] ++ head, waits := first } known.kind
  refine ⟨{ sent := [] ++ head ++ written steps, waits := first ++ later }, ?_, ?_, fun full sent member => ?_⟩
  · unfold reply
    rw [performs, chosen]
    dsimp only
    rw [List.foldlM_append, waited, ok_bind, List.foldlM_append, headed, ok_bind]
    exact congrArg (fun played => played >>= fun socket => Except.ok () >>= fun _ => Except.ok socket) played
  · rw [List.nil_append, known.writes]
  · dsimp only at member ⊢
    rw [List.nil_append, known.writes]
    have nonempty : head ≠ [] := by
      unfold head writeHead
      simp
    rcases List.mem_append.mp member with before | between
    · rw [unsent sent before]
      exact ⟨List.nil_prefix, fun same => nonempty (List.append_eq_nil_iff.mp same.symm).1⟩
    · obtain ⟨front, milliseconds, back, same, rfl⟩ := early sent between
      have rest := known.after_wait full same
      have whole : (if result.suppressBody then [] else body) = written front ++ written back := by
        rw [← known.writes, same, written_append]
        rfl
      rw [whole, List.nil_append]
      refine ⟨⟨written back, by rw [List.append_assoc]⟩, fun equal => rest ?_⟩
      have lengths := congrArg List.length equal
      simp only [List.length_append] at lengths
      exact List.eq_nil_of_length_eq_zero (by omega)

/-- What a client finds in the bytes that are sent for a plan that responds. -/
theorem reply_reads (plain : port.Plain) (accepted : validate cfg = .ok ())
    (given : cfg.given .replyHeaders = .dict entries) {body : Bytes} :
    let fields := port.fields (chosenTexts entries) (bodyHeaders result body.length)
    let head := writeHead (ascii (port.firstLine status)) (fields.map inBytes)
    (fields.map fun header => lower header.1).Nodup ∧ contentLength (fields.map arrived) = some body.length ∧
      readMessage (head ++ body) = some ⟨ascii (port.firstLine status), fields.map arrived, body, []⟩ ∧
      readHead head = some ⟨ascii (port.firstLine status), fields.map arrived, []⟩ := by
  intro fields head
  have headers := acceptedHeaders accepted given
  have once := bodyHeaders_once port result headers body.length
  have known := bodyHeaders_own result body.length
  have announced : contentLength (fields.map arrived) = some body.length :=
    contentLength_fields plain headers known once (List.mem_cons_of_mem _ List.mem_cons_self)
  have read := readHead_fields plain headers known status
  refine ⟨once, announced, ?_, ?_⟩
  · rw [readMessage_of (read _) announced, if_pos (Nat.le_refl _), List.take_length, List.drop_length]
  · have alone := read []
    rwa [List.append_nil] at alone

/-- The headers of a reply that is cut. -/
def promised : List (String × String) := [("Content-Type", "application/json"), ("Content-Length", "100")]

theorem promised_own : OwnHeaders promised := by
  constructor
  · intro header member
    simp only [promised, List.mem_cons, List.not_mem_nil, or_false] at member
    rcases member with rfl | rfl <;> decide
  · intro header member
    simp only [promised, List.mem_cons, List.not_mem_nil, or_false] at member
    rcases member with rfl | rfl <;> decide

/-- What a drop does before it closes: nothing, the head, or the head and the partial bytes. -/
theorem outcome_drop (handler : Handler) (result : ServeResult) :
    ∃ cut, (drop handler result).outcomeAt () = ⟨cut ++ [.close], .ok ()⟩ ∧
      (cut = [] ∨ ∃ steps, cut = headSteps (chosenHeaders handler.host result) 200 promised ++ steps ∧
        (steps = [] ∨ steps = [.write handler.midBodyBytes])) := by
  have promise := outcome_promise (chosenHeaders handler.host result)
  have closes : (Flow.leave .close : Performing Unit).outcomeAt () = ⟨[.close], .ok ()⟩ := rfl
  unfold drop
  dsimp only
  split
  · exact ⟨_, outcome_bind promise closes, .inr ⟨[], (List.append_nil _).symm, .inl rfl⟩⟩
  · split
    · have partly : (do
          Flow.leave (.write handler.midBodyBytes)
          Flow.leave .close : Performing Unit).outcomeAt () = ⟨[.write handler.midBodyBytes] ++ [.close], .ok ()⟩ := rfl
      refine ⟨_, (outcome_bind promise partly).trans ?_, .inr ⟨_, rfl, .inr rfl⟩⟩
      rw [List.append_assoc]
      rfl
    · exact ⟨[], rfl, .inl rfl⟩

/-- The partial bytes of each class are fewer than the head promises. -/
theorem midBody_short (kind : HandlerClass) (host : Host) : (kind.handler host).midBodyBytes.length < 100 := by
  have texts : (Utf8.encode "\x7b\"jsonrpc\":\"2.0\",").length < 100 ∧ (Utf8.encode "\x7b\"block\":").length < 100 ∧
      (Utf8.encode "\x7b\"data\":").length < 100 := by decide +kernel
  cases kind with
  | jsonRpc => exact texts.1
  | tendermint => exact texts.1
  | rest => exact texts.2.1
  | graphql => exact texts.2.2

end

/-! ### A plan with a pause, and a drop -/

/-- A JSON-RPC port. -/
def jsonRpcPort : Port where
  handler := HandlerClass.jsonRpc.handler asciiHost
  providerName := "p1"
  callerAddress := "10.42.0.26"
  server := "BaseHTTP/0.6 Python/3.12"
  date := "Thu, 01 Jan 1970 00:00:00 GMT"
  reason _ := "Too Many Requests"

theorem jsonRpcPort_plain : jsonRpcPort.Plain :=
  ⟨by decide, by decide, by decide, by decide, fun _ => (by decide : AllVisible "Too Many Requests")⟩

theorem five_accepted : validate (noteUpdates "5") = .ok () := validate_note (by decide +kernel)

/-- A prose refusal with a note, held in the middle of its body. -/
def heldPlan : ServeResult where
  action := .respond
  status := .int 429
  body := .value (.str "busy")
  pauseAt := .str "mid_body"
  pauseMs := .int 250
  replyHeaders := .object [("X-Note", .str "5")]

theorem heldPlan_bytes : serialize jsonRpcPort.handler.host heldPlan.body heldPlan.corruptionMode heldPlan.missingField
    jsonRpcPort.handler.dotted = .ok (Utf8.encode "busy", true) := rfl

theorem held_exceeds : (Value.int 250).exceeds 0 = .ok true := by decide +kernel

theorem prompt_exceeds : (Value.int 0).exceeds 0 = .ok false := by decide +kernel

end ProviderSimulator.Listeners.HttpReply
