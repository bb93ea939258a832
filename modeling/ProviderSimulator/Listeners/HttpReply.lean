/-
**The bytes of an HTTP reply.**

`_perform` says what a handler does (`Wire.perform`). Here the handler has a socket: `send_response` and `send_header`
fill a buffer, `end_headers` sends it, and a write sends at once. The port adds `Server` and `Date` to each status line,
and the names of the provider and of the caller to each content type of its own.

* `Socket`, `Port.act` and `reply` — what is on the wire after a plan, and what was on it when each wait began;
* `headSteps` and `BodySteps` — the steps of a head and of a body, with or without a pause;
* `play_head` and `play_body` — **what these steps send**.

The request names its HTTP version: for one that does not, `http.server` sends no head. The client reads to the end.
-/

import Mathlib.Tactic.Common
import ProviderSimulator.Lib.HttpMessage
import ProviderSimulator.Listeners.ContentType
import ProviderSimulator.Listeners.WsHandshake

namespace ProviderSimulator.Listeners.HttpReply

open ProviderSimulator.Lib ProviderSimulator.Lib.HttpHead ProviderSimulator.Lib.HttpMessage
open ProviderSimulator.Python ProviderSimulator.Domain
open ProviderSimulator.Listeners.Wire ProviderSimulator.Listeners.WsProtocol
open ProviderSimulator.Listeners.HttpListenerHandler (contentTypeWithCallerAddress contentTypeWithProviderName)

/-! ### The socket -/

/-- The handler classes of the provider ports. -/
inductive HandlerClass
  | jsonRpc
  | tendermint
  | rest
  | graphql

/-- The handler of a class. -/
def HandlerClass.handler (host : Host) : HandlerClass → Handler
  | .jsonRpc => ⟨host, false, Utf8.encode "\x7b\"jsonrpc\":\"2.0\","⟩
  | .tendermint => ⟨host, true, Utf8.encode "\x7b\"jsonrpc\":\"2.0\","⟩
  | .rest => restHandler host
  | .graphql => ⟨host, true, Utf8.encode "\x7b\"data\":"⟩

/-- A provider port: its handler, the names that its content types carry, and what `http.server` writes of itself. -/
structure Port where
  handler : Handler
  providerName : String
  callerAddress : String
  /-- `version_string()`. -/
  server : String
  /-- `date_time_string()`. -/
  date : String
  /-- `responses[code][0]`, or the empty text. -/
  reason : Value → String

/-- The side of the handler. -/
structure Socket where
  /-- `_headers_buffer`. -/
  buffer : Bytes := []
  sent : Bytes := []
  /-- What was sent when each wait began. -/
  waits : List Bytes := []
  closed : Bool := false

/-- `%d`. -/
def decimalText : Value → String
  | .bool flag => if flag then "1" else "0"
  | .float (.finite number) => toString (Int.tdiv number.num number.den)
  | .int number => toString number
  | _ => ""

/-- A line of the head, in Latin-1. -/
def headLine (text : String) : Except PyError Bytes :=
  if text.toList.all fun char => char.toNat < 256 then .ok (writeLine (ascii text)) else .error .valueError

section

variable (port : Port)

/-- `send_header` of a provider port: a content type names the provider and the caller. -/
def Port.dress (header : String × String) : String × String :=
  if header.1.toLower = "content-type" then
    (header.1, contentTypeWithCallerAddress (contentTypeWithProviderName header.2 port.providerName) port.callerAddress)
  else header

/-- The headers that no chosen one replaces. -/
def unchosen (chosen headers : List (String × String)) : List (String × String) :=
  headers.filter fun header => !chosen.any fun other => other.1.toLower = header.1.toLower

/-- The lines of headers. -/
def headerLines (headers : List (String × String)) : Except PyError Bytes := do
  let lines ← headers.mapM fun header => headLine (header.1 ++ ": " ++ header.2)
  pure lines.flatten

/-- What a step does on the socket. A chosen header goes past `send_header` of the port; none is a content type. -/
def Port.act (chosen : List (String × String)) (socket : Socket) : Step → Except PyError Socket
  | .sleep _ => .ok { socket with waits := socket.waits ++ [socket.sent] }
  | .statusLine status => do
      let line ← headLine ("HTTP/1.0 " ++ decimalText status ++ " " ++ port.reason status)
      let own ← headerLines (unchosen chosen [("Server", port.server), ("Date", port.date)])
      pure { socket with buffer := socket.buffer ++ line ++ own }
  | .header name value => do
      let line ← headerLines [port.dress (name, value)]
      pure { socket with buffer := socket.buffer ++ line }
  | .endHeaders => .ok { socket with buffer := [], sent := socket.sent ++ socket.buffer ++ [13, 10] }
  | .write bytes => .ok { socket with sent := socket.sent ++ bytes }
  | .close => .ok { socket with closed := true }

/-- A plan, performed on a new socket. -/
def reply (result : ServeResult) : Except PyError Socket := do
  let outcome := (perform port.handler result).outcomeAt ()
  let socket ← outcome.effects.foldlM (port.act (chosenHeaders port.handler.host result)) {}
  outcome.result
  pure socket

end

/-! ### The steps of a plan -/

section

variable {T U : Type} {chosen : List (String × String)}

/-- Two parts of a handler, both of which return. -/
theorem outcome_bind {first : Performing T} {next : T → Performing U} {steps more : List Step} {value : T} {result : U}
    (begun : first.outcomeAt () = ⟨steps, .ok value⟩) (ended : (next value).outcomeAt () = ⟨more, .ok result⟩) :
    (first >>= next).outcomeAt () = ⟨steps ++ more, .ok result⟩ := by
  rw [Flow.outcomeAt_bind, begun]
  unfold Flow.Outcome.followedBy
  dsimp only
  rw [ended]
  rfl

/-- The headers as steps. -/
def headerSteps (headers : List (String × String)) : List Step :=
  headers.map fun header => .header header.1 header.2

theorem outcome_sendHeader (name value : String) :
    (sendHeader chosen name value).outcomeAt () = ⟨headerSteps (unchosen chosen [(name, value)]), .ok ()⟩ := by
  unfold sendHeader
  rw [Flow.outcomeAt_leaveAll]
  by_cases replaced : (chosen.any fun header => header.1.toLower = name.toLower) = true
  · rw [if_pos replaced]
    unfold unchosen
    rw [List.filter_cons_of_neg (by simpa using replaced)]
    rfl
  · rw [if_neg replaced]
    unfold unchosen
    rw [List.filter_cons_of_pos (by simpa using replaced)]
    rfl

theorem headerSteps_unchosen (front back : List (String × String)) :
    headerSteps (unchosen chosen front) ++ headerSteps (unchosen chosen back) =
      headerSteps (unchosen chosen (front ++ back)) := by
  unfold headerSteps unchosen
  rw [List.filter_append, List.map_append]

/-- The wait, if there is one. -/
def waitSteps (waits : Bool) (milliseconds : Value) : List Step := if waits then [.sleep milliseconds] else []

theorem outcome_pausing {milliseconds : Value} {waits : Bool} (known : milliseconds.exceeds 0 = .ok waits) :
    (pausing milliseconds).outcomeAt () = ⟨waitSteps waits milliseconds, .ok ()⟩ := by
  unfold pausing
  rw [known]
  cases waits <;> rfl

theorem outcome_sendResponse (status : ℤ) :
    (sendResponse (.int status)).outcomeAt () = ⟨[.statusLine (.int status)], .ok ()⟩ := rfl

theorem outcome_endHeaders : (endHeaders chosen).outcomeAt () = ⟨headerSteps chosen ++ [.endHeaders], .ok ()⟩ := by
  unfold endHeaders
  rw [Flow.outcomeAt_leaveAll]
  rfl

/-- The head of a reply, as steps. -/
def headSteps (chosen : List (String × String)) (status : ℤ) (own : List (String × String)) : List Step :=
  .statusLine (.int status) :: (headerSteps (unchosen chosen own) ++ (headerSteps chosen ++ [.endHeaders]))

theorem outcome_sendHeaders (status : ℤ) (type length : String) :
    (sendHeaders chosen (.int status) type length).outcomeAt () =
      ⟨.statusLine (.int status) :: headerSteps (unchosen chosen [("Content-Type", type), ("Content-Length", length)]),
        .ok ()⟩ := by
  unfold sendHeaders
  refine (outcome_bind (outcome_sendResponse status)
    (outcome_bind (outcome_sendHeader "Content-Type" type) (outcome_sendHeader "Content-Length" length))).trans ?_
  rw [headerSteps_unchosen]
  rfl

/-- The head of a reply that is cut. -/
theorem outcome_promise (chosen : List (String × String)) : (do
      sendHeaders chosen (.int 200) "application/json" "100"
      endHeaders chosen : Performing Unit).outcomeAt () =
    ⟨headSteps chosen 200 [("Content-Type", "application/json"), ("Content-Length", "100")], .ok ()⟩ :=
  outcome_bind (outcome_sendHeaders 200 "application/json" "100") outcome_endHeaders

/-- The headers of a reply with a body. -/
def bodyHeaders (result : ServeResult) (length : ℕ) : List (String × String) :=
  [("Content-Type", contentType result), ("Content-Length", toString length), ("Cache-Control", "no-store")]

section

variable {handler : Handler} {result : ServeResult} {status : ℤ} {raw : Bytes} {emit : Bool}

theorem outcome_performHeaders (answers : result.status = .int status)
    (bytes : serialize handler.host result.body result.corruptionMode result.missingField handler.dotted =
      .ok (raw, emit)) :
    (performHeaders handler result).outcomeAt () =
      ⟨headSteps (chosenHeaders handler.host result) status
        (bodyHeaders result (if emit then raw else []).length), .ok (if emit then raw else [])⟩ := by
  unfold performHeaders
  rw [bytes, answers]
  refine (outcome_bind (outcome_sendHeaders status (contentType result) _) (outcome_bind
    (outcome_sendHeader "Cache-Control" "no-store") (outcome_bind outcome_endHeaders
      (show (pure (if emit then raw else []) : Performing Bytes).outcomeAt () = ⟨[], .ok _⟩ from rfl)))).trans ?_
  rw [List.append_nil, List.cons_append, ← List.append_assoc (headerSteps _), headerSteps_unchosen]
  rfl

/-- A step after the head: a wait or a write. -/
def Step.AfterHead : Step → Prop
  | .sleep _ => True
  | .write _ => True
  | _ => False

/-- The bytes that steps write. -/
def written : List Step → Bytes
  | [] => []
  | .write bytes :: rest => bytes ++ written rest
  | _ :: rest => written rest

theorem written_append (front back : List Step) : written (front ++ back) = written front ++ written back := by
  induction front with
  | nil => rfl
  | cons step front ih =>
      cases step <;> simp only [List.cons_append, written, ih, List.append_assoc]

/-- What the steps after the head write, and that they wait for nothing after the last byte. -/
structure BodySteps (steps : List Step) (body : Bytes) : Prop where
  kind : ∀ step ∈ steps, Step.AfterHead step
  writes : written steps = body
  last : body ≠ [] → ∃ front rest, steps = front ++ [.write rest] ∧ rest ≠ []

/-- A wait before the steps. -/
theorem BodySteps.wait {steps : List Step} {body : Bytes} (known : BodySteps steps body) (waits : Bool)
    (milliseconds : Value) : BodySteps (waitSteps waits milliseconds ++ steps) body := by
  cases waits with
  | false => exact known
  | true =>
      refine ⟨fun step member => ?_, known.writes, fun given => ?_⟩
      · rcases List.mem_cons.mp member with rfl | later
        · trivial
        · exact known.kind step later
      · obtain ⟨front, rest, same, full⟩ := known.last given
        exact ⟨.sleep milliseconds :: front, rest, by rw [same]; rfl, full⟩

/-- The end of a body, in one write. -/
theorem BodySteps.write {rest : Bytes} (given : rest ≠ []) : BodySteps [.write rest] rest where
  kind step member := by
    rw [List.mem_singleton.mp member]
    trivial
  writes := List.append_nil rest
  last _ := ⟨[], rest, rfl, given⟩

/-- A part of the body before the others. -/
theorem BodySteps.part {steps : List Step} {rest : Bytes} (known : BodySteps steps rest) (given : rest ≠ [])
    (half : Bytes) : BodySteps (.write half :: steps) (half ++ rest) where
  kind step member := by
    rcases List.mem_cons.mp member with rfl | later
    · trivial
    · exact known.kind step later
  writes := congrArg (half ++ ·) known.writes
  last _ := by
    obtain ⟨front, last, same, full⟩ := known.last given
    exact ⟨.write half :: front, last, by rw [same]; rfl, full⟩

/-- Something is written after each wait. -/
theorem BodySteps.after_wait {steps front back : List Step} {body : Bytes} {milliseconds : Value}
    (known : BodySteps steps body) (given : body ≠ []) (split : steps = front ++ .sleep milliseconds :: back) :
    written back ≠ [] := by
  obtain ⟨others, rest, ended, full⟩ := known.last given
  rcases List.eq_nil_or_concat back with rfl | ⟨start, final, rfl⟩
  · have last := (List.append_inj' (split.symm.trans ended) rfl).2
    cases last
  · rw [List.concat_eq_append] at split ⊢
    have both : (front ++ .sleep milliseconds :: start) ++ [final] = others ++ [.write rest] := by
      rw [← ended, split, List.append_assoc]
      rfl
    have same : [final] = [.write rest] := (List.append_inj' both rfl).2
    rw [same, written_append]
    simp [written, full]

theorem outcome_holdAt {holds : Bool} (known : result.pauseMs.exceeds 0 = .ok holds) (place : String) :
    ∃ waits, (holdAt result place).outcomeAt () = ⟨waitSteps waits result.pauseMs, .ok ()⟩ := by
  unfold holdAt
  split
  · exact ⟨holds, outcome_pausing known⟩
  · exact ⟨false, rfl⟩

/-- **The steps after the head write the body**, if the plan does not suppress it, whatever pause it asks for. -/
theorem outcome_performBody {holds : Bool} (known : result.pauseMs.exceeds 0 = .ok holds) :
    ∃ steps, (performBody result raw).outcomeAt () = ⟨steps, .ok ()⟩ ∧
      BodySteps steps (if result.suppressBody then [] else raw) := by
  obtain ⟨before, first⟩ := outcome_holdAt known "after_headers"
  have quiet : ∀ waits, BodySteps (waitSteps waits result.pauseMs) [] := by
    intro waits
    have none : BodySteps [] [] := ⟨nofun, rfl, fun given => absurd rfl given⟩
    have waited := none.wait waits result.pauseMs
    rwa [List.append_nil] at waited
  unfold performBody
  by_cases sends : (!raw.isEmpty && !result.suppressBody) = true
  · rw [if_pos sends]
    simp only [Bool.and_eq_true, Bool.not_eq_true', List.isEmpty_eq_false_iff] at sends
    obtain ⟨given, open_⟩ := sends
    rw [open_]
    simp only [Bool.false_eq_true, if_false]
    by_cases middle : result.pauseAt.eqText "mid_body" = true
    · have rest : raw.drop (raw.length / 2) ≠ [] := by
        have positive := List.length_pos_iff.mpr given
        rw [Ne, List.drop_eq_nil_iff]
        omega
      have halves : raw.take (raw.length / 2) ++ raw.drop (raw.length / 2) = raw := List.take_append_drop _ _
      have both : (writeBody result raw).outcomeAt () = ⟨.write (raw.take (raw.length / 2)) ::
          (waitSteps holds result.pauseMs ++ [.write (raw.drop (raw.length / 2))]), .ok ()⟩ := by
        unfold writeBody
        rw [if_pos middle]
        have half : (Flow.leave (.write (raw.take (raw.length / 2))) : Performing Unit).outcomeAt () =
            ⟨[.write (raw.take (raw.length / 2))], .ok ()⟩ := rfl
        exact outcome_bind half (outcome_bind (outcome_pausing known) rfl)
      have tail := ((BodySteps.write rest).wait holds result.pauseMs).part rest (raw.take (raw.length / 2))
      rw [halves] at tail
      exact ⟨_, outcome_bind first both, tail.wait before result.pauseMs⟩
    · have whole : (writeBody result raw).outcomeAt () = ⟨[.write raw], .ok ()⟩ := by
        unfold writeBody
        rw [if_neg middle]
        rfl
      exact ⟨_, outcome_bind first whole, (BodySteps.write given).wait before result.pauseMs⟩
  · rw [if_neg sends]
    obtain ⟨after, second⟩ := outcome_holdAt known "mid_body"
    have empty : (if result.suppressBody then [] else raw) = [] := by
      simp only [Bool.and_eq_true, Bool.not_eq_true', not_and, Bool.not_eq_false, List.isEmpty_eq_false_iff] at sends
      by_cases given : raw = []
      · rw [given]
        exact ite_self []
      · rw [sends given]
        rfl
    rw [empty]
    exact ⟨_, outcome_bind first second, (quiet after).wait before result.pauseMs⟩

end

end

/-! ### The steps on the socket -/

section

variable {port : Port} {chosen : List (String × String)} {socket : Socket}

/-- The headers of a reply, in the order of their lines. -/
def Port.fields (port : Port) (chosen own : List (String × String)) : List (String × String) :=
  unchosen chosen ([("Server", port.server), ("Date", port.date)] ++ own.map port.dress) ++ chosen

/-- The first line. -/
def Port.firstLine (port : Port) (status : ℤ) : String :=
  "HTTP/1.0 " ++ toString status ++ " " ++ port.reason (.int status)

theorem headLine_of {text : String} (plain : IsAscii text) : headLine text = .ok (writeLine (ascii text)) := by
  refine if_pos (List.all_eq_true.mpr fun char member => decide_eq_true ?_)
  exact (plain char member).trans (by decide)

theorem headerLines_of {headers : List (String × String)} (readable : ∀ header ∈ headers, WsProtocol.Readable header) :
    headerLines headers = .ok ((headers.map fun header => fieldLine (inBytes header)).flatMap writeLine) := by
  have lines : headers.mapM (fun header => headLine (header.1 ++ ": " ++ header.2)) =
      .ok (headers.map fun header => writeLine (fieldLine (inBytes header))) := by
    induction headers with
    | nil => rfl
    | cons header headers ih =>
        have plain := (readable header List.mem_cons_self).plain
        have line : IsAscii (header.1 ++ ": " ++ header.2) := (plain.1.append (by decide)).append plain.2
        rw [List.mapM_cons, headLine_of line, ok_bind,
          ih fun other member => readable other (List.mem_cons_of_mem _ member), ok_bind, List.map_cons,
          fieldLine_inBytes]
        rfl
  unfold headerLines
  rw [lines, ok_bind, List.flatMap_map]
  rfl

/-- One header goes to the buffer. -/
theorem act_header (socket : Socket) {header : String × String} (readable : WsProtocol.Readable (port.dress header)) :
    port.act chosen socket (.header header.1 header.2) =
      .ok { socket with buffer := socket.buffer ++ writeLine (fieldLine (inBytes (port.dress header))) } := by
  have line : headerLines [port.dress header] = .ok (writeLine (fieldLine (inBytes (port.dress header)))) := by
    refine (headerLines_of fun other member => ?_).trans ?_
    · rw [List.mem_singleton.mp member]
      exact readable
    · rw [List.map_singleton, List.flatMap_singleton]
  obtain ⟨name, value⟩ := header
  rw [Port.act, line, ok_bind]
  rfl

/-- Headers fill the buffer. -/
theorem play_headers (socket : Socket) {headers : List (String × String)}
    (readable : ∀ header ∈ headers.map port.dress, WsProtocol.Readable header) :
    (headerSteps headers).foldlM (port.act chosen) socket = .ok { socket with
      buffer := socket.buffer ++
        ((headers.map port.dress).map fun header => fieldLine (inBytes header)).flatMap writeLine } := by
  induction headers generalizing socket with
  | nil =>
      rw [List.map_nil, List.map_nil, List.flatMap_nil, List.append_nil]
      rfl
  | cons header headers ih =>
      obtain ⟨here, others⟩ := List.forall_mem_cons.mp readable
      unfold headerSteps at ih ⊢
      rw [List.map_cons, List.foldlM_cons, act_header socket here, ok_bind, ih _ others, List.map_cons, List.map_cons,
        List.flatMap_cons, List.append_assoc]

theorem dress_name (header : String × String) : (port.dress header).1 = header.1 := by
  unfold Port.dress
  split <;> rfl

theorem dress_unchosen (headers : List (String × String)) :
    (unchosen chosen headers).map port.dress = unchosen chosen (headers.map port.dress) := by
  unfold unchosen
  rw [List.filter_map]
  refine congrArg (List.map port.dress) (List.filter_congr fun header _ => ?_)
  simp only [Function.comp_apply, dress_name]

/-- A chosen header is no content type. -/
theorem dress_chosen (accepted : AcceptedHeaders chosen) : chosen.map port.dress = chosen := by
  refine (List.map_congr_left fun header member => ?_).trans (List.map_id chosen)
  refine if_neg fun same => (accepted.each header member).free ?_
  show header.1.toLower ∈ headersTheSimulatorOwns
  rw [same]
  decide

/-- The steps of a body: they write it, and each wait begins before its last byte is sent. -/
theorem play_body (port : Port) (chosen : List (String × String)) (socket : Socket) {steps : List Step}
    (kind : ∀ step ∈ steps, Step.AfterHead step) :
    ∃ waits, steps.foldlM (port.act chosen) socket =
        .ok { socket with sent := socket.sent ++ written steps, waits := socket.waits ++ waits } ∧
      ∀ early ∈ waits, ∃ front milliseconds back, steps = front ++ .sleep milliseconds :: back ∧
        early = socket.sent ++ written front := by
  induction steps generalizing socket with
  | nil => exact ⟨[], by simp [written]; rfl, nofun⟩
  | cons step steps ih =>
      have others : ∀ step ∈ steps, Step.AfterHead step := fun other member =>
        kind other (List.mem_cons_of_mem _ member)
      cases step with
      | sleep milliseconds =>
          obtain ⟨waits, played, early⟩ := ih { socket with waits := socket.waits ++ [socket.sent] } others
          refine ⟨socket.sent :: waits, ?_, fun sent member => ?_⟩
          · show steps.foldlM (port.act chosen) _ = _
            rw [played]
            simp only [written, List.append_assoc, List.singleton_append]
          · rcases List.mem_cons.mp member with rfl | later
            · exact ⟨[], milliseconds, steps, rfl, (List.append_nil _).symm⟩
            · obtain ⟨front, wait, back, same, sent⟩ := early sent later
              exact ⟨.sleep milliseconds :: front, wait, back, by rw [same]; rfl, sent⟩
      | write bytes =>
          obtain ⟨waits, played, early⟩ := ih { socket with sent := socket.sent ++ bytes } others
          refine ⟨waits, ?_, fun sent member => ?_⟩
          · show steps.foldlM (port.act chosen) _ = _
            rw [played]
            simp only [written, List.append_assoc]
          · obtain ⟨front, wait, back, same, sent⟩ := early sent member
            refine ⟨.write bytes :: front, wait, back, by rw [same]; rfl, ?_⟩
            rw [sent]
            simp only [written, List.append_assoc]
      | statusLine status => exact absurd (kind _ List.mem_cons_self) id
      | header name value => exact absurd (kind _ List.mem_cons_self) id
      | endHeaders => exact absurd (kind _ List.mem_cons_self) id
      | close => exact absurd (kind _ List.mem_cons_self) id

/-- The head: its lines are sent at its end, all at once. -/
theorem play_head (socket : Socket) {status : ℤ} {own : List (String × String)} (accepted : AcceptedHeaders chosen)
    (line : IsAscii (port.firstLine status)) (readable : ∀ header ∈ port.fields chosen own, WsProtocol.Readable header)
    (fresh : socket.buffer = []) :
    (headSteps chosen status own).foldlM (port.act chosen) socket = .ok { socket with
      sent := socket.sent ++ writeHead (ascii (port.firstLine status)) ((port.fields chosen own).map inBytes) } := by
  have split : port.fields chosen own = unchosen chosen [("Server", port.server), ("Date", port.date)] ++
      ((unchosen chosen own).map port.dress ++ chosen) := by
    unfold Port.fields
    rw [dress_unchosen]
    unfold unchosen
    rw [List.filter_append, List.append_assoc]
  have part : ∀ {header}, header ∈ port.fields chosen own → WsProtocol.Readable header := fun member =>
    readable _ member
  rw [split] at part
  have first : headerLines (unchosen chosen [("Server", port.server), ("Date", port.date)]) = _ :=
    headerLines_of fun header member => part (List.mem_append_left _ member)
  have second : ∀ header ∈ (unchosen chosen own).map port.dress, WsProtocol.Readable header := fun header member =>
    part (List.mem_append_right _ (List.mem_append_left _ member))
  have third : ∀ header ∈ chosen.map port.dress, WsProtocol.Readable header := by
    intro header member
    rw [dress_chosen accepted] at member
    exact part (List.mem_append_right _ (List.mem_append_right _ member))
  have begun : port.act chosen socket (.statusLine (.int status)) = .ok { socket with
      buffer := socket.buffer ++ writeLine (ascii (port.firstLine status)) ++
        ((unchosen chosen [("Server", port.server), ("Date", port.date)]).map
          fun header => fieldLine (inBytes header)).flatMap writeLine } := by
    show (headLine (port.firstLine status) >>= fun line => headerLines _ >>= _) = _
    rw [headLine_of line, ok_bind, first, ok_bind]
    rfl
  unfold headSteps
  rw [List.foldlM_cons, begun, ok_bind, List.foldlM_append, play_headers _ second, ok_bind, List.foldlM_append,
    play_headers _ third, ok_bind, dress_chosen accepted]
  show Except.ok _ = Except.ok _
  unfold writeHead
  rw [fresh, split]
  simp only [List.map_append, List.flatMap_append, List.flatMap_cons, List.map_map, List.append_assoc,
    List.nil_append, Function.comp_def]

end

end ProviderSimulator.Listeners.HttpReply
