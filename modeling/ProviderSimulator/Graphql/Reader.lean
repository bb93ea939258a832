/-
**From a parsed document to a request.**

`graphql-core` parses the text of a document and evaluates the literals in it (`Library`). What follows is the part
of `parse_graphql_request` after the parse:

* `chooseOperation` — the one operation of the document, or the one that the request names;
* `depthOf` and `checkDepth` — how many selection sets deep the operation goes, at most 32;
* `nodesOf` and `checkNodes` — how many nodes it holds with its fragments spread, at most 300;
* `rootsOf` — the root fields, with the fragments expanded in place and the directives applied;
* `readDocument` — all of it, which makes a `GraphqlDocument.Reader`.

The three recursive functions call themselves for each selection set below theirs. They get the number of calls
inside one another that the interpreter has room for, and a call beyond it raises a `RecursionError`.
-/

import Mathlib.Tactic.Common
import ProviderSimulator.GraphqlDocument

namespace ProviderSimulator.GraphqlDocument

open ProviderSimulator.Lib ProviderSimulator.Python

/-! ### Documents and their library -/

/-- A declared variable with its default. -/
structure VariableDefinition where
  name : String
  defaultValue : Option Node

/-- An `OperationDefinitionNode`. -/
structure Operation where
  operation : String
  name : Option String
  variableDefinitions : List VariableDefinition
  selectionSet : List Selection

/-- A definition of a document. -/
inductive Definition
  | operation (definition : Operation)
  | fragment (name : String) (selectionSet : List Selection)
  /-- A definition of a schema, which the parser reads too. -/
  | schema

/-- Why `graphql.parse` fails. -/
inductive ParseError
  | wrong (message : String)
  | recursion

/-- What is read from `graphql-core`, and the interpreter under it. -/
structure Library where
  /-- `graphql.parse(text, no_location=True)`. -/
  parse : String → Except ParseError (List Definition)
  /-- `value_from_ast_untyped(node, variables)`, or nothing for `Undefined`. -/
  valueOf : Node → Dict String Value → Except PyError (Option Value)
  /-- How many calls of `depthOf`, `nodesOf` and `rootsOf` inside one another there is room for. -/
  room : ℕ

/-- `MAX_DEPTH`. -/
def maxDepth : ℕ := 32

/-- `RECURSION_MESSAGE`. -/
def recursionMessage : String :=
  "The recursion depth of the query cannot be greater than `" ++ toString maxDepth ++ "`"

/-- `MAX_NODES`. -/
def maxNodes : ℕ := 300

/-- `NODE_LIMIT_MESSAGE`. -/
def nodeLimitMessage : String := "Query has over " ++ toString maxNodes ++ " nodes"

/-- `_parse_document`. -/
def parseDocument (library : Library) (text : String) : Except Failure (List Definition) :=
  match library.parse text with
  | .ok document => .ok document
  | .error (.wrong message) => .error (.fault .parse message)
  | .error .recursion => .error (.fault .parse recursionMessage)

/-- The definition, if it is an operation. -/
def Definition.operation? : Definition → Option Operation
  | .operation definition => some definition
  | _ => none

/-- `_choose_operation`. -/
def chooseOperation (document : List Definition) (operationName : Option String) : Except Failure Operation :=
  match document.filterMap Definition.operation? with
  | [] => .error (.fault .parse "document does not contain an operation")
  | first :: others =>
      match operationName with
      | some name =>
          match (first :: others).find? fun operation => operation.name = some name with
          | some operation => .ok operation
          | none => .error (.fault .operation ("Unknown operation named \"" ++ name ++ "\""))
      | none =>
          if others.isEmpty then .ok first
          else .error (.fault .operation "Operation name required in request.")

/-- The selection set of each fragment. Of two fragments with one name, the later one counts. -/
def fragmentsOf (document : List Definition) : Dict String (List Selection) :=
  document.foldl (fun fragments definition =>
    match definition with
    | .fragment name selectionSet => Dict.set fragments name selectionSet
    | _ => fragments) []

/-! ### The depth -/

section

variable (fragments : Dict String (List Selection))

/-- The depth below one selection. The first argument is `_depth_of` itself, with the room that is left. -/
def depthBelow (depthOf : List Selection → Dict String ℕ → List String → Except Failure (ℕ × Dict String ℕ))
    (memo : Dict String ℕ) (stack : List String) : Selection → Except Failure (ℕ × Dict String ℕ)
  | .fragmentSpread name _ =>
      if name ∈ stack then .error (.fault .parse recursionMessage)
      else
        match fragments.get name with
        | none => .error (.fault .validation ("Unknown fragment: \"" ++ name ++ "\""))
        | some selectionSet =>
            match memo.get name with
            | some below => .ok (below, memo)
            | none => do
                let (below, memo) ← depthOf selectionSet memo (stack ++ [name])
                pure (below, memo.set name below)
  | .field _ _ _ _ (some selectionSet) => depthOf selectionSet memo stack
  | .field _ _ _ _ none => .ok (0, memo)
  | .inlineFragment _ selectionSet => depthOf selectionSet memo stack

/-- The loop of `_depth_of`. -/
def deepestOf (depthOf : List Selection → Dict String ℕ → List String → Except Failure (ℕ × Dict String ℕ))
    (stack : List String) : List Selection → ℕ → Dict String ℕ → Except Failure (ℕ × Dict String ℕ)
  | [], deepest, memo => .ok (deepest, memo)
  | selection :: rest, deepest, memo => do
      let (below, memo) ← depthBelow fragments depthOf memo stack selection
      deepestOf depthOf stack rest (max deepest below) memo

/-- `_depth_of`. -/
def depthOf : ℕ → List Selection → Dict String ℕ → List String → Except Failure (ℕ × Dict String ℕ)
  | 0, _, _, _ => .error (.raised .recursionError)
  | room + 1, selectionSet, memo, stack => do
      let (deepest, memo) ← deepestOf fragments (depthOf room) stack selectionSet 0 memo
      pure (1 + deepest, memo)

/-- `_check_depth`. -/
def checkDepth (room : ℕ) (operation : Operation) : Except Failure Unit :=
  match depthOf fragments room operation.selectionSet [] [] with
  | .ok (depth, _) => if maxDepth < depth then .error (.fault .parse recursionMessage) else .ok ()
  | .error (.raised .recursionError) => .error (.fault .parse recursionMessage)
  | .error failure => .error failure

/-! ### The nodes -/

/-- The nodes below one selection. The first argument is `_nodes_of` itself, with the room that is left. -/
def nodesBelow (nodesOf : List Selection → Dict String ℕ → Except PyError (ℕ × Dict String ℕ))
    (memo : Dict String ℕ) : Selection → Except PyError (ℕ × Dict String ℕ)
  | .fragmentSpread name _ =>
      match memo.get name with
      | some below => .ok (below, memo)
      | none =>
          match fragments.get name with
          | none => .error .keyError
          | some selectionSet => do
              let (below, memo) ← nodesOf selectionSet memo
              pure (below, memo.set name below)
  | .field _ _ _ _ (some selectionSet) => nodesOf selectionSet memo
  | .field _ _ _ _ none => .ok (0, memo)
  | .inlineFragment _ selectionSet => nodesOf selectionSet memo

/-- The loop of `_nodes_of`. -/
def totalOf (nodesOf : List Selection → Dict String ℕ → Except PyError (ℕ × Dict String ℕ)) :
    List Selection → ℕ → Dict String ℕ → Except PyError (ℕ × Dict String ℕ)
  | [], total, memo => .ok (total, memo)
  | selection :: rest, total, memo => do
      let (below, memo) ← nodesBelow fragments nodesOf memo selection
      totalOf nodesOf rest (total + 1 + below) memo

/-- `_nodes_of`. -/
def nodesOf : ℕ → List Selection → Dict String ℕ → Except PyError (ℕ × Dict String ℕ)
  | 0, _, _ => .error .recursionError
  | room + 1, selectionSet, memo => totalOf fragments (nodesOf room) selectionSet 0 memo

/-- `_check_nodes`. -/
def checkNodes (room : ℕ) (operation : Operation) : Except Failure Unit :=
  match nodesOf fragments room operation.selectionSet [] with
  | .ok (nodes, _) => if maxNodes < nodes then .error (.fault .validation nodeLimitMessage) else .ok ()
  | .error error => .error (.raised error)

end

/-! ### The roots -/

/-- The directives of a selection. -/
def Selection.directives : Selection → List Directive
  | .field _ _ _ directives _ => directives
  | .inlineFragment directives _ => directives
  | .fragmentSpread _ directives => directives

section

variable (library : Library) (variableValues : Dict String Value)

/-- `_condition`. -/
def condition (directive : Directive) : Except PyError (Option Bool) :=
  match directive.arguments.find? fun argument => argument.1 = "if" with
  | none => .ok none
  | some argument => do
      match ← library.valueOf argument.2 variableValues with
      | some (.bool value) => pure (some value)
      | _ => pure none

/-- `_is_included`, over the directives of the selection. -/
def isIncluded : List Directive → Except PyError Bool
  | [] => .ok true
  | directive :: rest =>
      if directive.name = "skip" ∨ directive.name = "include" then do
        match ← condition library variableValues directive with
        | none => isIncluded rest
        | some value =>
            if (directive.name = "skip" ∧ value) ∨ (directive.name = "include" ∧ ¬ value) then pure false
            else isIncluded rest
      else isIncluded rest

/-- The arguments of a field: one that evaluates to `Undefined` is left out. -/
def argumentsOf : List (String × Node) → Dict String Value → Except PyError (Dict String Value)
  | [], values => .ok values
  | argument :: rest, values => do
      match ← library.valueOf argument.2 variableValues with
      | some value => argumentsOf rest (values.set argument.1 value)
      | none => argumentsOf rest values

/-- The root that a field makes. -/
def rootField (name : String) (aliasName : Option String) (arguments : List (String × Node))
    (selectionSet : Option (List Selection)) : Except PyError RootField := do
  let values ← argumentsOf library variableValues arguments []
  pure { name, responseKey := aliasName.getD name, arguments := values, selection := selectionSet }

variable (fragments : Dict String (List Selection))

/-- The roots of one selection. The first argument is `_roots_of` itself, with the room that is left. -/
def rootsBelow (rootsOf : List Selection → Except PyError (List RootField)) :
    Selection → Except PyError (List RootField)
  | .field name aliasName arguments _ selectionSet => do
      pure [← rootField library variableValues name aliasName arguments selectionSet]
  | .inlineFragment _ selectionSet => rootsOf selectionSet
  | .fragmentSpread name _ =>
      match fragments.get name with
      | none => .error .keyError
      | some selectionSet => rootsOf selectionSet

/-- The loop of `_roots_of`. -/
def rootsAmong (rootsOf : List Selection → Except PyError (List RootField)) :
    List Selection → List RootField → Except PyError (List RootField)
  | [], roots => .ok roots
  | selection :: rest, roots => do
      if ← isIncluded library variableValues selection.directives then
        let below ← rootsBelow library variableValues fragments rootsOf selection
        rootsAmong rootsOf rest (roots ++ below)
      else rootsAmong rootsOf rest roots

/-- `_roots_of`. -/
def rootsOf : ℕ → List Selection → Except PyError (List RootField)
  | 0, _ => .error .recursionError
  | room + 1, selectionSet => rootsAmong library variableValues fragments (rootsOf room) selectionSet []

end

/-! ### The request -/

section

variable (library : Library)

/-- The loop of `_variables_of`. A default is a constant, and no constant is `Undefined`. -/
def withDefaults : List VariableDefinition → Dict String Value → Except PyError (Dict String Value)
  | [], variableValues => .ok variableValues
  | definition :: rest, variableValues =>
      match definition.defaultValue with
      | none => withDefaults rest variableValues
      | some default => do
          if variableValues.has definition.name then withDefaults rest variableValues
          else
            match ← library.valueOf default [] with
            | some value => withDefaults rest (variableValues.set definition.name value)
            | none => withDefaults rest variableValues

/-- `_variables_of`. -/
def variablesOf (operation : Operation) (sent : List (Key × Value)) : Except PyError (Dict String Value) :=
  withDefaults library operation.variableDefinitions (Value.members sent)

/-- `variables.request_id` when it is a text or an integer, else null. -/
def requestIdOf (variableValues : Dict String Value) : Value :=
  match variableValues.get "request_id" with
  | some (.str text) => .str text
  | some (.int number) => .int number
  | _ => .none

/-- The root names joined with `&`, or `unknown` when no root is left. -/
def methodOf (roots : List RootField) : String :=
  let method := "&".intercalate (roots.map RootField.name)
  if method = "" then "unknown" else method

/-- `parse_graphql_request` after its checks. -/
def requestOf (operation : Operation) (fragments : Dict String (List Selection)) (sent : List (Key × Value)) :
    Except PyError Request := do
  let variableValues ← variablesOf library operation sent
  let roots ← rootsOf library variableValues fragments library.room operation.selectionSet
  pure { operation := operation.operation, roots, method := methodOf roots,
         requestId := requestIdOf variableValues, variableValues, fragments }

/-- `parse_graphql_request` after the query is found. -/
def readDocument (text : String) (operationName : Option String) (sent : List (Key × Value)) :
    Except Failure Request := do
  let document ← parseDocument library text
  let operation ← chooseOperation document operationName
  let fragments := fragmentsOf document
  checkDepth fragments library.room operation
  checkNodes fragments library.room operation
  match requestOf library operation fragments sent with
  | .ok request => .ok request
  | .error error => .error (.raised error)

/-- The reader that the library makes, beside a projection. -/
def Library.reader (project : Value → Option (List Selection) → Request → Except PyError Value) : Reader where
  readDocument := readDocument library
  project := project

end

end ProviderSimulator.GraphqlDocument
