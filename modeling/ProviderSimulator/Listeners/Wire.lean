/-
**A plan on the wire.**

`serialize` makes the bytes of a body, with the corruption that the plan asks for, and `perform` is what the handler of an
HTTP port does on its socket for a plan. It is a program that leaves its steps: the steps before an exception stand.

* `dumps` — `json.dumps`, whose text is ASCII;
* `serialize` — the bytes of a reply, and whether it has a body at all;
* `perform` — the steps of a plan, and `announced` — the length that its headers announce;
* `announced_suppressBody` — **withholding the bytes leaves the announced length as it is**.

The headers of `http.server` itself (`Server` and `Date`) and the parameters of the content type are left out, and no
write meets a peer that is gone.
-/

import Mathlib.Tactic.Common
import ProviderSimulator.Lib.Utf8
import ProviderSimulator.Listeners.Base

namespace ProviderSimulator.Listeners.Wire

open ProviderSimulator.Lib ProviderSimulator.Python

/-! ### JSON texts -/

/-- Four hexadecimal digits. -/
def hex4 (code : ℕ) : String := String.ofList ((Nat.toDigits 16 code).leftpad 4 '0')

/-- A character inside a JSON string. All that is not printable ASCII is escaped, in two halves where it is above
`0xFFFF`. -/
def escape (char : Char) : String :=
  if char = '"' then "\\\""
  else if char = '\\' then "\\\\"
  else if char = '\n' then "\\n"
  else if char = '\r' then "\\r"
  else if char = '\t' then "\\t"
  else if char = '\x08' then "\\b"
  else if char = '\x0c' then "\\f"
  else if ' ' ≤ char ∧ char ≤ '~' then String.singleton char
  else if char.toNat < 0x10000 then "\\u" ++ hex4 char.toNat
  else
    let offset := char.toNat - 0x10000
    "\\u" ++ hex4 (0xD800 + offset / 0x400) ++ "\\u" ++ hex4 (0xDC00 + offset % 0x400)

/-- A JSON string. -/
def quote (text : String) : String := "\"" ++ String.join (text.toList.map escape) ++ "\""

/-- A float in JSON. -/
def floatText (host : Host) : PyFloat → String
  | .nan => "NaN"
  | .posInf => "Infinity"
  | .negInf => "-Infinity"
  | finite => host.str (.float finite)

mutual

/-- `json.dumps`. A pair is no key of a JSON object. -/
def dumps (host : Host) : Value → Except PyError String
  | .none => .ok "null"
  | .bool true => .ok "true"
  | .bool false => .ok "false"
  | .int number => .ok (toString number)
  | .float number => .ok (floatText host number)
  | .str text => .ok (quote text)
  | .list items => do
      let texts ← dumpsItems host items
      pure ("[" ++ ", ".intercalate texts ++ "]")
  | .dict entries => do
      let texts ← dumpsEntries host entries
      pure ("\x7b" ++ ", ".intercalate texts ++ "\x7d")

/-- The items of a list. -/
def dumpsItems (host : Host) : List Value → Except PyError (List String)
  | [] => .ok []
  | item :: rest => do
      let text ← dumps host item
      pure (text :: (← dumpsItems host rest))

/-- The members of an object. -/
def dumpsEntries (host : Host) : List (Key × Value) → Except PyError (List String)
  | [] => .ok []
  | (.pair _ _, _) :: _ => .error .typeError
  | (.text name, value) :: rest => do
      let text ← dumps host value
      pure ((quote name ++ ": " ++ text) :: (← dumpsEntries host rest))

end

/-! ### Bytes -/

/-- `_swap_type`. -/
def swapType : Value → Value
  | .bool flag => .int (if flag then 1 else 0)
  | .str _ => .int 12345
  | _ => .str "wrong_type_value"

/-- `_remove_dotted`, on the segments of the path. An empty rest of a path removes nothing. -/
def removeDotted : List String → List (Key × Value) → List (Key × Value)
  | [], entries => entries
  | [last], entries => if last = "" then entries else entries.filter fun entry => entry.1 ≠ .text last
  | segment :: rest, entries =>
      match Dict.get entries (.text segment) with
      | some (.dict inner) => Dict.set entries (.text segment) (.dict (removeDotted rest inner))
      | _ => entries

/-- A body without the field. -/
def withoutField (dotted : Bool) (field : Value) (entries : List (Key × Value)) :
    Except PyError (List (Key × Value)) :=
  match field with
  | .str path =>
      .ok (if dotted then removeDotted (path.splitOn ".") entries
        else entries.filter fun entry => entry.1 ≠ .text path)
  | _ => if dotted then .error .attributeError else .ok entries

/-- The field that `wrong_type` changes, if the body may have it. -/
def wrongTypeTarget (dotted : Bool) (field : Value) (entries : List (Key × Value)) : Except PyError (Option Key) :=
  if field.truthy then
    match field with
    | .str name => .ok (some (.text name))
    | other => if other.hashable then .ok none else .error .typeError
  else if dotted then .ok ((entries.head?.map Prod.fst).filter fun key => key ≠ .text "")
  else .ok (some (.text "result"))

/-- A body with a value of another type. -/
def withWrongType (dotted : Bool) (field : Value) (entries : List (Key × Value)) :
    Except PyError (List (Key × Value)) := do
  match ← wrongTypeTarget dotted field entries with
  | none => pure entries
  | some target =>
      match Dict.get entries target with
      | none => pure entries
      | some current => pure (Dict.set entries target (swapType current))

/-- The corruptions of the bytes. -/
def corruptBytes (mode : Value) (raw : Bytes) : Bytes :=
  if mode.eqText "truncated" && 10 < raw.length then raw.take (raw.length - 10)
  else if mode.eqText "invalid_json" then Utf8.encode "\x7d\x7b \x7b\x7b not valid json"
  else raw

/-- `serialize`: the bytes of the body, and whether the reply has one. -/
def serialize (host : Host) (body : Body) (mode field : Value) (dotted : Bool) : Except PyError (Bytes × Bool) := do
  if mode.eqText "null_body" then pure (Utf8.encode "null", true)
  else
    match body with
    | .value (.dict entries) =>
        if mode.eqText "missing_field" && field.truthy then
          let entries ← withoutField dotted field entries
          pure (corruptBytes mode (Utf8.encode (← dumps host (.dict entries))), true)
        else if mode.eqText "empty_response" then pure ([], false)
        else if mode.eqText "wrong_type" then
          let entries ← withWrongType dotted field entries
          pure (corruptBytes mode (Utf8.encode (← dumps host (.dict entries))), true)
        else pure (corruptBytes mode (Utf8.encode (← dumps host (.dict entries))), true)
    | .value (.str text) =>
        if mode.eqText "empty_response" then pure ([], false)
        else pure (corruptBytes mode (Utf8.encode text), true)
    | .value other => pure (corruptBytes mode (Utf8.encode (← dumps host other)), true)
    | _ => .error .typeError

/-! ### The handler -/

/-- What a handler does on its socket. -/
inductive Step
  | sleep (milliseconds : Value)
  | statusLine (status : Value)
  | header (name value : String)
  | endHeaders
  | write (bytes : Bytes)
  | close

/-- A part of a handler. It reads nothing that others write. -/
abbrev Performing := Flow Unit PyError Step

/-- The handler class of a port. -/
structure Handler where
  host : Host
  dotted : Bool
  midBodyBytes : Bytes

/-- `_RestHttpHandler`. -/
def restHandler (host : Host) : Handler := ⟨host, true, Utf8.encode "\x7b\"block\":"⟩

/-- The chosen headers of a plan. -/
def chosenHeaders (host : Host) (result : ServeResult) : List (String × String) :=
  match result.replyHeaders with
  | .dict entries => (Value.members entries).map fun member => (member.1, host.text member.2)
  | _ => []

/-- `send_response`: the status is formatted with `%d`. -/
def sendResponse (status : Value) : Performing Unit := do
  Flow.ofExcept (match status with
    | .int _ | .bool _ | .float (.finite _) => .ok ()
    | .float .nan => .error .valueError
    | .float _ => .error .overflowError
    | _ => .error .typeError)
  Flow.leave (.statusLine status)

/-- `send_header`: a chosen header replaces it. -/
def sendHeader (chosen : List (String × String)) (name value : String) : Performing Unit :=
  Flow.leaveAll (if chosen.any fun header => header.1.toLower = name.toLower then [] else [.header name value])

/-- `end_headers`. -/
def endHeaders (chosen : List (String × String)) : Performing Unit :=
  Flow.leaveAll ((chosen.map fun header => .header header.1 header.2) ++ [.endHeaders])

/-- Wait, if there is something to wait for. -/
def pausing (milliseconds : Value) : Performing Unit := do
  if ← Flow.ofExcept (milliseconds.exceeds 0) then Flow.leave (.sleep milliseconds) else pure ()

/-- The content type of a plan. -/
def contentType (result : ServeResult) : String :=
  if result.corruptionMode.eqText "null_body" then "application/json"
  else
    match result.body with
    | .value (.str _) => "text/plain; charset=utf-8"
    | _ => "application/json"

section

variable (handler : Handler)

/-- The headers of a reply with a length. -/
def sendHeaders (chosen : List (String × String)) (status : Value) (type length : String) : Performing Unit := do
  sendResponse status
  sendHeader chosen "Content-Type" type
  sendHeader chosen "Content-Length" length

/-- `_drop`. -/
def drop (result : ServeResult) : Performing Unit := do
  let chosen := chosenHeaders handler.host result
  let promise : Performing Unit := do
    sendHeaders chosen (.int 200) "application/json" "100"
    endHeaders chosen
  if result.dropAt.eqText "after_headers" then promise
  else if result.dropAt.eqText "mid_body" then do
    promise
    Flow.leave (.write handler.midBodyBytes)
  else pure ()
  Flow.leave .close

/-- The reply up to the end of its headers. It gives the bytes that the length announces. -/
def performHeaders (result : ServeResult) : Performing Bytes := do
  let (raw, emitBody) ← Flow.ofExcept
    (serialize handler.host result.body result.corruptionMode result.missingField handler.dotted)
  let raw := if emitBody then raw else []
  let chosen := chosenHeaders handler.host result
  sendHeaders chosen result.status (contentType result) (toString raw.length)
  sendHeader chosen "Cache-Control" "no-store"
  endHeaders chosen
  pure raw

/-- `_hold`, if the plan asks for it at the place. -/
def holdAt (result : ServeResult) (place : String) : Performing Unit :=
  if result.pauseAt.eqText place then pausing result.pauseMs else pure ()

/-- The bytes of the body, with the pause in the middle of it. -/
def writeBody (result : ServeResult) (raw : Bytes) : Performing Unit :=
  if result.pauseAt.eqText "mid_body" then do
    Flow.leave (.write (raw.take (raw.length / 2)))
    pausing result.pauseMs
    Flow.leave (.write (raw.drop (raw.length / 2)))
  else Flow.leave (.write raw)

/-- The reply after its headers. A pause in the middle of no body is a pause all the same. -/
def performBody (result : ServeResult) (raw : Bytes) : Performing Unit := do
  holdAt result "after_headers"
  if !raw.isEmpty && !result.suppressBody then writeBody result raw else holdAt result "mid_body"

/-- `_perform`. -/
def perform (result : ServeResult) : Performing Unit :=
  match result.action with
  | .hang => Flow.leaveAll [.sleep (.int 30000), .close]
  | .noBody => do
      pausing result.latencyMs
      sendResponse result.status
      endHeaders (chosenHeaders handler.host result)
  | .drop => do
      pausing result.latencyMs
      drop handler result
  | .respond => do
      pausing result.latencyMs
      let raw ← performHeaders handler result
      performBody result raw

end

/-! ### The announced length -/

/-- The value of a `Content-Length` header. -/
def Step.length? : Step → Option String
  | .header name value => if name.toLower = "content-length" then some value else none
  | _ => none

/-- The length that the headers among the steps announce. -/
def announced (steps : List Step) : Option String := steps.findSome? Step.length?

/-- The length that a handler announces for a plan. -/
def announcedFor (handler : Handler) (result : ServeResult) : Option String :=
  announced ((perform handler result).outcomeAt ()).effects

theorem announced_append (front back : List Step) : announced (front ++ back) = (announced front).or (announced back) :=
  List.findSome?_append

section

variable {T U : Type} {first : Performing T}

/-- Steps that follow on others, and announce nothing. -/
theorem announced_bind {next : T → Performing U} (silent : ∀ value, announced ((next value).outcomeAt ()).effects = none) :
    announced ((first >>= next).outcomeAt ()).effects = announced (first.outcomeAt ()).effects := by
  rw [Flow.outcomeAt_bind]
  unfold Flow.Outcome.followedBy
  cases (first.outcomeAt ()).result with
  | error error => rfl
  | ok value =>
      change announced (_ ++ ((next value).outcomeAt ()).effects) = _
      rw [announced_append, silent, Option.or_none]

/-- One beginning, and two ways to go on that announce the same. -/
theorem announced_bind_congr {V : Type} {next : T → Performing U} {next' : T → Performing V}
    (same : ∀ value, announced ((next value).outcomeAt ()).effects = announced ((next' value).outcomeAt ()).effects) :
    announced ((first >>= next).outcomeAt ()).effects = announced ((first >>= next').outcomeAt ()).effects := by
  rw [Flow.outcomeAt_bind, Flow.outcomeAt_bind]
  unfold Flow.Outcome.followedBy
  cases (first.outcomeAt ()).result with
  | error error => rfl
  | ok value =>
      change announced (_ ++ ((next value).outcomeAt ()).effects) = announced (_ ++ ((next' value).outcomeAt ()).effects)
      rw [announced_append, announced_append, same]

theorem pausing_silent (milliseconds : Value) : announced ((pausing milliseconds).outcomeAt ()).effects = none := by
  unfold pausing
  cases milliseconds.exceeds 0 with
  | error error => rfl
  | ok positive => cases positive <;> rfl

theorem holdAt_silent (result : ServeResult) (place : String) :
    announced ((holdAt result place).outcomeAt ()).effects = none := by
  unfold holdAt
  split
  · exact pausing_silent _
  · rfl

theorem writeBody_silent (result : ServeResult) (raw : Bytes) :
    announced ((writeBody result raw).outcomeAt ()).effects = none := by
  unfold writeBody
  split
  · have rest : announced (Flow.outcomeAt () (do
        pausing result.pauseMs
        Flow.leave (.write (raw.drop (raw.length / 2))) : Performing Unit)).effects = none :=
      (announced_bind fun _ => rfl).trans (pausing_silent _)
    exact (announced_bind fun _ => rest).trans rfl
  · rfl

theorem performBody_silent (result : ServeResult) (raw : Bytes) :
    announced ((performBody result raw).outcomeAt ()).effects = none := by
  unfold performBody
  refine (announced_bind fun _ => ?_).trans (holdAt_silent result "after_headers")
  split
  · exact writeBody_silent result raw
  · exact holdAt_silent result "mid_body"

end

/-- **Withholding the bytes** leaves the announced length as it is. -/
theorem announced_suppressBody (handler : Handler) (result : ServeResult) (suppressBody : Bool) :
    announcedFor handler { result with suppressBody } = announcedFor handler result := by
  unfold announcedFor perform
  cases action : result.action with
  | hang => rfl
  | noBody => rfl
  | drop => rfl
  | respond =>
      dsimp only
      refine announced_bind_congr fun _ => ?_
      refine (announced_bind fun raw => performBody_silent _ raw).trans ?_
      exact (announced_bind fun raw => performBody_silent _ raw).symm

/-- The length that is announced for a body, with no wait and no chosen headers. -/
theorem announced_bytes {handler : Handler} {result : ServeResult} {status : ℤ} {raw : Bytes}
    (responds : result.action = .respond) (answers : result.status = .int status) (prompt : result.latencyMs = .int 0)
    (unchosen : result.replyHeaders = .dict [])
    (bytes : serialize handler.host result.body result.corruptionMode result.missingField handler.dotted =
      .ok (raw, true)) :
    announcedFor handler result = some (toString raw.length) := by
  have waits : pausing (.int 0) = .done () := rfl
  have headers : chosenHeaders handler.host result = [] := by
    unfold chosenHeaders
    rw [unchosen]
    rfl
  have first : (performHeaders handler result).outcomeAt () = ⟨[.statusLine (.int status),
      .header "Content-Type" (contentType result), .header "Content-Length" (toString raw.length),
      .header "Cache-Control" "no-store", .endHeaders], .ok raw⟩ := by
    unfold performHeaders
    rw [bytes, headers, answers]
    rfl
  have content : "Content-Type".toLower ≠ "content-length" := by decide +kernel
  have length : "Content-Length".toLower = "content-length" := by decide +kernel
  unfold announcedFor perform
  rw [responds]
  dsimp only
  rw [prompt, waits, Flow.done_bind, announced_bind fun raw => performBody_silent result raw, first]
  simp only [announced, List.findSome?_cons, Step.length?, if_neg content, if_pos length]

end ProviderSimulator.Listeners.Wire
