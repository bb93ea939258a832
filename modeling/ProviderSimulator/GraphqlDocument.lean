/-
**Reading a GraphQL request.**

A request is a JSON body with a `query`, and optionally `variables` and `operationName`. `readObject` and
`checkShape` find the faults of the body itself, each with the text that the real server gives, and
`defaultErrorReply` is the answer to a fault.

A document is read with `graphql-core`, which parses its text and evaluates the literals in it. What the
simulator makes of the parsed document, and the projection of a stub on a selection set, are the two
functions of a `Reader`. The request flow only passes their results on, so the model of the flow holds for
any reader.
-/

import Mathlib.Tactic.Common
import ProviderSimulator.Python.Host

namespace ProviderSimulator.GraphqlDocument

open ProviderSimulator.Lib ProviderSimulator.Python

/-! ### Faults -/

/-- The kinds of `GraphQLRequestError`. -/
inductive Kind
  | notJson
  | batch
  | badShape
  | parse
  | validation
  | operation
  deriving DecidableEq

/-- How `parse_graphql_request` fails: with a `GraphQLRequestError`, or with another exception. -/
inductive Failure
  | fault (kind : Kind) (message : String)
  | raised (error : PyError)

/-- `_invalid_request`. -/
def invalidRequest (reason : String) (line column : ℕ) : String :=
  "InvalidRequest(Error(\"" ++ reason ++ "\", line: " ++ toString line ++ ", column: " ++
    toString column ++ "))"

/-- `_EMPTY_BODY`. -/
def emptyBody : String := invalidRequest "EOF while parsing a value" 1 0

/-- `_BAD_SHAPE`. -/
def badShape : String :=
  invalidRequest "data did not match any variant of untagged enum BatchRequest" 0 0

/-- `_NO_DOCUMENT`. -/
def noDocument : String := " --> 1:1\n  |\n1 | \n  | ^---\n  |\n  = expected executable_definition"

/-- `graphql_error` with no path: `extensions.code` is there only for a code that is not empty. -/
def graphqlError (message : Value) (code : String) : Value :=
  if code = "" then .object [("message", message)]
  else .object [("message", message), ("extensions", .object [("code", .str code)])]

/-- `_CODE_OF_KIND`, and no code for the other kinds. -/
def Kind.code : Kind → String
  | .parse => "GRAPHQL_PARSE_FAILED"
  | .validation => "GRAPHQL_VALIDATION_FAILED"
  | _ => ""

/-- `_TEXT_KINDS`. -/
def Kind.isText : Kind → Bool
  | .notJson => true
  | .batch => true
  | .badShape => true
  | _ => false

/-- A reply with null data and one error. -/
def errorReply (entry : Value) : Value := .object [("data", .none), ("errors", .list [entry])]

/-- `default_error_reply`. -/
def defaultErrorReply (kind : Kind) (message : String) : Value × Value :=
  if kind.isText then (.int 400, .str message)
  else (.int 200, errorReply (graphqlError (.str message) kind.code))

/-! ### Documents -/

/-- A value of a document, as `graphql-core` parses it. -/
inductive Node
  | variable (name : String)
  | null
  | int (digits : String)
  | float (digits : String)
  | string (value : String)
  | boolean (value : Bool)
  | enum (name : String)
  | list (items : List Node)
  | object (members : List (String × Node))

/-- A directive with its arguments. -/
structure Directive where
  name : String
  arguments : List (String × Node)

/-- A selection of a selection set. -/
inductive Selection
  | field (name : String) (aliasName : Option String) (arguments : List (String × Node))
      (directives : List Directive) (selectionSet : Option (List Selection))
  | inlineFragment (directives : List Directive) (selectionSet : List Selection)
  | fragmentSpread (name : String) (directives : List Directive)

/-- `RootField`. -/
structure RootField where
  name : String
  responseKey : String
  arguments : Dict String Value
  selection : Option (List Selection)

/-- `GraphQLRequest`. -/
structure Request where
  operation : String
  roots : List RootField
  method : String
  requestId : Value
  variableValues : Dict String Value
  fragments : Dict String (List Selection)

/-- What is made of a parsed document. -/
structure Reader where
  /-- The rest of `parse_graphql_request`: the query, the operation name and the sent variables. -/
  readDocument : String → Option String → List (Key × Value) → Except Failure Request
  /-- `project`. -/
  project : Value → Option (List Selection) → Request → Except PyError Value

/-! ### The body of a request -/

section

variable (host : Host)

/-- The fault of a body that `json.loads` does not read. -/
def jsonFault : JsonError → Failure
  | .decode reason start => .fault .notJson (invalidRequest reason 1 (start + 1))
  | .badJson message line column => .fault .notJson (invalidRequest message line column)
  | .recursion => .fault .notJson (invalidRequest "recursion limit exceeded" 1 129)
  | .digits => .fault .notJson (invalidRequest "number out of range" 1 0)

/-- `json.loads(body.decode("utf-8"))`. -/
def loadBody (body : Bytes) : Except JsonError Value := do
  let text ← host.decode body
  host.loadsText text

/-- `_read_object`. -/
def readObject (body : Bytes) : Except Failure (List (Key × Value)) :=
  if body.isEmpty then .error (.fault .notJson emptyBody)
  else
    match loadBody host body with
    | .error error => .error (jsonFault error)
    | .ok (.dict entries) => .ok entries
    | .ok (.list _) => .error (.fault .batch "UnsupportedBatch")
    | .ok _ => .error (.fault .badShape badShape)

/-- Null, or a value that the check accepts. -/
def nullOr (check : Value → Bool) (payload : List (Key × Value)) (name : String) : Bool :=
  match Dict.get payload (.text name) with
  | none => true
  | some value => value.isNone || check value

/-- `_check_shape`. -/
def checkShape (payload : List (Key × Value)) : Except Failure Unit :=
  let queryIsText :=
    match Dict.get payload (.text "query") with
    | none => true
    | some query => query.isStr
  if queryIsText && nullOr Value.isDict payload "variables" && nullOr Value.isStr payload "operationName"
  then .ok ()
  else .error (.fault .badShape badShape)

/-- `payload.get("variables") or {}`. -/
def sentVariables (payload : List (Key × Value)) : List (Key × Value) :=
  match Dict.get payload (.text "variables") with
  | some (.dict entries) => entries
  | _ => []

/-- `payload.get("operationName")`. -/
def operationName (payload : List (Key × Value)) : Option String :=
  match Dict.get payload (.text "operationName") with
  | some (.str name) => some name
  | _ => none

/-- `parse_graphql_request`. -/
def parseGraphqlRequest (reader : Reader) (body : Bytes) : Except Failure Request := do
  let payload ← readObject host body
  checkShape payload
  match Dict.get payload (.text "query") with
  | some (.str text) =>
      if text = "" then .error (.fault .parse noDocument)
      else reader.readDocument text (operationName payload) (sentVariables payload)
  | _ => .error (.fault .parse noDocument)

end

end ProviderSimulator.GraphqlDocument
