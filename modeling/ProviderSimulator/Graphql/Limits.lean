/-
**The limits of a GraphQL request are those of the expanded document.**

`parse_graphql_request` refuses a document that is more than 32 selection sets deep or that holds more than 300
nodes, and it never expands one. `WithinLimits` says of the expansion what the two checks are for.

* `checks_iff` — the checks pass if and only if the document is within the limits;
* `rootsOf_expanded` — the roots are, in order, the included root fields of the expansion (`includedRoots`);
* `limits_of_the_expansion` — the whole of it, for every body that opens to a document and an operation.

The checks and the roots need room for 32 calls inside one another. `_depth_of` comes to an end on every document.
`_nodes_of` does so where no fragment spreads itself, which the check of the depth has found out before.
-/

import Mathlib.Tactic.Common
import ProviderSimulator.Graphql.Nodes

namespace ProviderSimulator.GraphqlDocument

open ProviderSimulator.Lib ProviderSimulator.Python

/-! ### The checks -/

/-- The fragments that the selection set gets to are there, none of them spreads itself, and the expansion is at most
32 selection sets deep and holds at most 300 nodes. -/
def WithinLimits (fragments : Dict String (List Selection)) (items : List Selection) : Prop :=
  Defined Selection.view (Dict.get fragments) items ∧ Acyclic Selection.view (Dict.get fragments) items ∧
    ∃ expanded, ExpandsTo fragments items expanded ∧ expanded.depth ≤ maxDepth ∧ expanded.nodes ≤ maxNodes

section

variable {fragments : Dict String (List Selection)} {operation : Operation} {room : ℕ}

/-- A depth that passes is the depth of an expansion. -/
theorem expands_of_checkDepth (passes : checkDepth fragments room operation = .ok ()) :
    ∃ expanded, ExpandsTo fragments operation.selectionSet expanded ∧ expanded.depth ≤ maxDepth := by
  unfold checkDepth at passes
  split at passes
  · next measured =>
      obtain ⟨-, expanded, expands, rfl⟩ := depthOf_sound room table_nil measured
      refine ⟨expanded, expands, ?_⟩
      by_contra beyond
      rw [if_pos (not_le.mp beyond)] at passes
      cases passes
  · cases passes
  · cases passes

section

variable {expanded : Expanded Selection} (expands : ExpandsTo fragments operation.selectionSet expanded)
include expands

theorem checkDepth_of_expands (deep : expanded.depth ≤ maxDepth) (enough : maxDepth ≤ room) :
    checkDepth fragments room operation = .ok () := by
  have fresh : ∀ name ∈ ([] : List String),
      ¬ Reaches Selection.view (Dict.get fragments) operation.selectionSet name := nofun
  obtain ⟨left, measured⟩ := depthOf_complete room expands (deep.trans enough) fresh table_nil
  unfold checkDepth
  rw [measured]
  exact if_neg (not_lt.mpr deep)

/-- With an expansion that is not too deep, the check of the nodes compares its number of nodes. -/
theorem checkNodes_of_expands (deep : expanded.depth ≤ room) :
    checkNodes fragments room operation =
      if maxNodes < expanded.nodes then .error (.fault .validation nodeLimitMessage) else .ok () := by
  obtain ⟨left, measured⟩ := nodesOf_complete room expands deep table_nil
  unfold checkNodes
  rw [measured]

end

/-- **The checks pass if and only if the document is within the limits.** -/
theorem checks_iff (enough : maxDepth ≤ room) :
    (checkDepth fragments room operation = .ok () ∧ checkNodes fragments room operation = .ok ()) ↔
      WithinLimits fragments operation.selectionSet := by
  constructor
  · rintro ⟨depth, nodes⟩
    obtain ⟨expanded, expands, deep⟩ := expands_of_checkDepth depth
    refine ⟨expands.defined, expands.acyclic, expanded, expands, deep, ?_⟩
    rw [checkNodes_of_expands expands (deep.trans enough)] at nodes
    by_contra beyond
    rw [if_pos (not_le.mp beyond)] at nodes
    cases nodes
  · rintro ⟨-, -, expanded, expands, deep, few⟩
    refine ⟨checkDepth_of_expands expands deep enough, ?_⟩
    rw [checkNodes_of_expands expands (deep.trans enough)]
    exact if_neg (not_lt.mpr few)

/-- The check of the depth fails with a fault. -/
theorem checkDepth_fault {failure : Failure} (failed : checkDepth fragments room operation = .error failure) :
    ∃ kind message, failure = .fault kind message := by
  unfold checkDepth at failed
  split at failed
  · split at failed
    · cases failed
      exact ⟨_, _, rfl⟩
    · cases failed
  · cases failed
    exact ⟨_, _, rfl⟩
  · next other raised =>
      cases failed
      cases failure with
      | fault kind message => exact ⟨kind, message, rfl⟩
      | raised error =>
          by_cases recursion : error = .recursionError
          · subst recursion
            exact absurd rfl other
          · exact absurd raised (depthOf_raises recursion room _ _ _)

end

/-! ### The roots -/

section

variable (library : Library) (variableValues : Dict String Value)

/-- The roots of a selection that is included: a field is a root of its own, and any other selection passes on the
roots below it. -/
def ownRoots (selection : Selection) (below : Except PyError (List RootField)) : Except PyError (List RootField) :=
  match selection with
  | .field name aliasName arguments _ selectionSet => do
      pure [← rootField library variableValues name aliasName arguments selectionSet]
  | .inlineFragment _ _ => below
  | .fragmentSpread _ _ => below

/-- The roots of a selection of an expansion: none where a directive removes it. -/
def rootsAt (selection : Selection) (below : Except PyError (List RootField)) : Except PyError (List RootField) := do
  if ← isIncluded library variableValues selection.directives then
    ownRoots library variableValues selection below
  else pure []

/-- The included root fields of an expansion, in order. -/
def includedRoots : Expanded Selection → Except PyError (List RootField)
  | .nil => .ok []
  | .leaf selection rest => do
      let first ← rootsAt library variableValues selection (.ok [])
      pure (first ++ (← includedRoots rest))
  | .nest selection inner rest => do
      let first ← rootsAt library variableValues selection (includedRoots inner)
      pure (first ++ (← includedRoots rest))

variable {library variableValues} {fragments : Dict String (List Selection)}

section

variable {rootsOf : List Selection → Except PyError (List RootField)}

theorem rootsBelow_leaf {selection : Selection} (seen : selection.view = .leaf) :
    rootsBelow library variableValues fragments rootsOf selection =
      ownRoots library variableValues selection (.ok []) := by
  cases selection with
  | field _ _ _ _ _ => rfl
  | inlineFragment _ _ => cases seen
  | fragmentSpread _ _ => cases seen

theorem rootsBelow_nest {selection : Selection} {items : List Selection} (seen : selection.view = .nest items) :
    rootsBelow library variableValues fragments rootsOf selection =
      ownRoots library variableValues selection (rootsOf items) := by
  cases selection with
  | field _ _ _ _ _ => rfl
  | inlineFragment _ _ =>
      cases seen
      rfl
  | fragmentSpread _ _ => cases seen

theorem rootsBelow_call {selection : Selection} {name : String} {part : List Selection}
    (seen : selection.view = .call name) (found : fragments.get name = some part) :
    rootsBelow library variableValues fragments rootsOf selection =
      ownRoots library variableValues selection (rootsOf part) := by
  obtain ⟨directives, rfl⟩ := Selection.spread_of_call seen
  dsimp only [rootsBelow, ownRoots]
  rw [found]

/-- One selection of the loop. -/
theorem rootsAmong_cons {selection : Selection} {below : Except PyError (List RootField)}
    (own : rootsBelow library variableValues fragments rootsOf selection =
      ownRoots library variableValues selection below) (rest : List Selection) (roots : List RootField) :
    rootsAmong library variableValues fragments rootsOf (selection :: rest) roots =
      rootsAt library variableValues selection below >>= fun first =>
        rootsAmong library variableValues fragments rootsOf rest (roots ++ first) := by
  dsimp only [rootsAmong, rootsAt]
  rw [own]
  cases isIncluded library variableValues selection.directives with
  | error error => rfl
  | ok included =>
      cases included with
      | true => rfl
      | false =>
          change _ = rootsAmong library variableValues fragments rootsOf rest (roots ++ [])
          rw [List.append_nil]
          rfl

/-- The loop, where the calls below find the roots of the expansions below. -/
theorem rootsAmong_expanded {room : ℕ} {items : List Selection} {expanded : Expanded Selection}
    (calls : ∀ {items expanded}, ExpandsTo fragments items expanded → expanded.depth ≤ room →
      rootsOf items = includedRoots library variableValues expanded)
    (expands : ExpandsTo fragments items expanded) (deep : expanded.deepest ≤ room) :
    ∀ roots, rootsAmong library variableValues fragments rootsOf items roots =
      includedRoots library variableValues expanded >>= fun found => pure (roots ++ found) := by
  induction expands with
  | nil =>
      intro roots
      change Except.ok roots = Except.ok (roots ++ [])
      rw [List.append_nil]
  | leaf seen _ ih =>
      intro roots
      rw [rootsAmong_cons (rootsBelow_leaf seen), includedRoots]
      simp only [ih deep, bind_assoc, pure_bind, List.append_assoc]
  | nest seen within _ _ ih =>
      intro roots
      dsimp only [Expanded.deepest] at deep
      rw [rootsAmong_cons (rootsBelow_nest seen), calls within ((le_max_left _ _).trans deep), includedRoots]
      simp only [ih ((le_max_right _ _).trans deep), bind_assoc, pure_bind, List.append_assoc]
  | call seen found within _ _ ih =>
      intro roots
      dsimp only [Expanded.deepest] at deep
      rw [rootsAmong_cons (rootsBelow_call seen found), calls within ((le_max_left _ _).trans deep), includedRoots]
      simp only [ih ((le_max_right _ _).trans deep), bind_assoc, pure_bind, List.append_assoc]

end

/-- **The roots are, in order, the included root fields of the expansion.** -/
theorem rootsOf_expanded (room : ℕ) {items : List Selection} {expanded : Expanded Selection}
    (expands : ExpandsTo fragments items expanded) (deep : expanded.depth ≤ room) :
    rootsOf library variableValues fragments room items = includedRoots library variableValues expanded := by
  induction room generalizing items expanded with
  | zero =>
      dsimp only [Expanded.depth] at deep
      omega
  | succ room ih =>
      dsimp only [Expanded.depth] at deep
      rw [rootsOf, rootsAmong_expanded ih expands (by omega)]
      exact bind_pure _

end

/-! ### The request -/

/-- What `parse_graphql_request` has when it comes to its checks: the object of the body, the document that its query
parses to, and the operation that is chosen. -/
structure Opened (host : Host) (library : Library) (body : Bytes) (payload : List (Key × Value))
    (document : List Definition) (operation : Operation) : Prop where
  read : readObject host body = .ok payload
  shape : checkShape payload = .ok ()
  parsed : ∃ text, text ≠ "" ∧ Dict.get payload (.text "query") = some (.str text) ∧ library.parse text = .ok document
  chosen : chooseOperation document (operationName payload) = .ok operation

section

variable {host : Host} {library : Library} {project : Value → Option (List Selection) → Request → Except PyError Value}
  {body : Bytes} {payload : List (Key × Value)} {document : List Definition} {operation : Operation}

/-- The rest of `parse_graphql_request`. -/
theorem Opened.rest (opened : Opened host library body payload document operation) :
    parseGraphqlRequest host (library.reader project) body =
      checkDepth (fragmentsOf document) library.room operation >>= fun _ =>
        checkNodes (fragmentsOf document) library.room operation >>= fun _ =>
          match requestOf library operation (fragmentsOf document) (sentVariables payload) with
          | .ok request => .ok request
          | .error error => .error (.raised error) := by
  obtain ⟨text, given, query, parsed⟩ := opened.parsed
  have found : parseDocument library text = .ok document := by
    unfold parseDocument
    rw [parsed]
  dsimp only [parseGraphqlRequest, Library.reader, readDocument]
  rw [opened.read]
  dsimp only [bind, Except.bind]
  rw [opened.shape]
  dsimp only
  rw [query]
  dsimp only
  rw [if_neg given, found]
  dsimp only
  rewrite [opened.chosen]
  rfl

variable (opened : Opened host library body payload document operation) (enough : maxDepth ≤ library.room)
include opened enough

/-- **A document beyond the limits is refused with a fault, and one within them is not.** -/
theorem Opened.fault_iff :
    (∃ kind message, parseGraphqlRequest host (library.reader project) body = .error (.fault kind message)) ↔
      ¬ WithinLimits (fragmentsOf document) operation.selectionSet := by
  rw [opened.rest, ← checks_iff enough]
  cases depth : checkDepth (fragmentsOf document) library.room operation with
  | error failure =>
      obtain ⟨kind, message, rfl⟩ := checkDepth_fault depth
      exact ⟨fun _ both => (nomatch both.1), fun _ => ⟨kind, message, rfl⟩⟩
  | ok _ =>
      obtain ⟨expanded, expands, deep⟩ := expands_of_checkDepth depth
      rw [checkNodes_of_expands expands (deep.trans enough)]
      split
      · exact ⟨fun _ both => (nomatch both.2), fun _ => ⟨.validation, nodeLimitMessage, rfl⟩⟩
      · refine ⟨?_, fun beyond => absurd ⟨rfl, rfl⟩ beyond⟩
        rintro ⟨kind, message, refused⟩
        dsimp only [bind, Except.bind] at refused
        split at refused <;> cases refused

/-- The roots of a request are those of the expansion. -/
theorem Opened.roots {request : Request}
    (gave : parseGraphqlRequest host (library.reader project) body = .ok request) :
    ∃ expanded, ExpandsTo (fragmentsOf document) operation.selectionSet expanded ∧
      includedRoots library request.variableValues expanded = .ok request.roots := by
  rw [opened.rest] at gave
  obtain ⟨_, depth, afterDepth⟩ := ok_of_bind gave
  obtain ⟨_, _, last⟩ := ok_of_bind afterDepth
  obtain ⟨expanded, expands, deep⟩ := expands_of_checkDepth depth
  refine ⟨expanded, expands, ?_⟩
  split at last
  · next made =>
      cases last
      obtain ⟨variableValues, _, afterVariables⟩ := ok_of_bind made
      obtain ⟨roots, found, whole⟩ := ok_of_bind afterVariables
      cases whole
      rw [← rootsOf_expanded library.room expands (deep.trans enough)]
      exact found
  · cases last

end

/-- **The limits of a GraphQL request are those of the expanded document.** The interpreter has room for 32 calls
inside one another. -/
theorem limits_of_the_expansion (host : Host) (library : Library)
    (project : Value → Option (List Selection) → Request → Except PyError Value) (enough : maxDepth ≤ library.room) :
    (∀ {body payload document operation}, Opened host library body payload document operation →
      ((checkDepth (fragmentsOf document) library.room operation = .ok () ∧
          checkNodes (fragmentsOf document) library.room operation = .ok ()) ↔
        WithinLimits (fragmentsOf document) operation.selectionSet) ∧
      ((∃ kind message, parseGraphqlRequest host (library.reader project) body = .error (.fault kind message)) ↔
        ¬ WithinLimits (fragmentsOf document) operation.selectionSet) ∧
      ∀ request, parseGraphqlRequest host (library.reader project) body = .ok request →
        ∃ expanded, ExpandsTo (fragmentsOf document) operation.selectionSet expanded ∧
          includedRoots library request.variableValues expanded = .ok request.roots) ∧
    (∀ fragments items, (∃ expanded, ExpandsTo fragments items expanded) ↔
      Defined Selection.view (Dict.get fragments) items ∧ Acyclic Selection.view (Dict.get fragments) items) ∧
    (∀ fragments items, DepthStops fragments items []) ∧
    (∀ fragments items, Acyclic Selection.view (Dict.get fragments) items → NodesStops fragments items) ∧
    (∀ fragments room items depth left, depthOf fragments room items [] [] = .ok (depth, left) →
      ∃ expanded, ExpandsTo fragments items expanded ∧ expanded.depth = depth) ∧
    (∀ fragments room items nodes left, nodesOf fragments room items [] = .ok (nodes, left) →
      ∃ expanded, ExpandsTo fragments items expanded ∧ expanded.nodes = nodes) ∧
    ∀ fragments items expanded variableValues, ExpandsTo fragments items expanded → expanded.depth ≤ maxDepth →
      rootsOf library variableValues fragments library.room items =
        includedRoots library variableValues expanded := by
  refine ⟨fun opened => ⟨checks_iff enough, opened.fault_iff enough, fun request => opened.roots enough⟩,
    fun fragments items => expands_iff fragments_finite selections_sized,
    fun fragments items => depthOf_stops items [], fun fragments items => nodesOf_stops, ?_, ?_, ?_⟩
  · intro fragments room items depth left gave
    exact (depthOf_sound room table_nil gave).2
  · intro fragments room items nodes left gave
    exact (nodesOf_sound room table_nil gave).2
  · intro fragments items expanded variableValues expands deep
    exact rootsOf_expanded library.room expands (deep.trans enough)

/-- An operation that spreads one fragment twice. -/
def spreadTwice : Operation where
  operation := "query"
  name := none
  variableDefinitions := []
  selectionSet := [.fragmentSpread "f" [], .fragmentSpread "f" []]

/-- The operation and its fragment. -/
def spreadTwiceDocument : List Definition := [.operation spreadTwice, .fragment "f" [.field "head" none [] [] none]]

/-- The text of the document. -/
def spreadTwiceText : String := "\x7b...f ...f\x7d fragment f on Query \x7bhead\x7d"

/-- A library that parses that text. The document holds no literal. -/
def spreadTwiceLibrary : Library where
  parse _ := .ok spreadTwiceDocument
  valueOf _ _ := .ok none
  room := 900

/-- A host that reads the body of the request. -/
def spreadTwiceHost : Host where
  str _ := ""
  addFloat first _ := first
  toFloat number := some (.finite number)
  digit _ := none
  space _ := false
  loads _ := .ok (.object [("query", .str spreadTwiceText)])
  loadsText _ := .ok (.object [("query", .str spreadTwiceText)])
  jsonErrorText _ := ""
  decode _ := .ok ("\x7b\"query\": \"" ++ spreadTwiceText ++ "\"\x7d")
  encode text := text.toUTF8.toList
  decodeBase64 _ := none
  blake2b _ := []
  frames := 900

/-- The body of the request. -/
def spreadTwiceBody : Bytes := ("\x7b\"query\": \"" ++ spreadTwiceText ++ "\"\x7d").toUTF8.toList

/-- The fragment of the document is spread twice, and the expansion is within the limits. -/
theorem limits_of_spreadTwice :
    Opened spreadTwiceHost spreadTwiceLibrary spreadTwiceBody [(.text "query", .str spreadTwiceText)]
        spreadTwiceDocument spreadTwice ∧
      WithinLimits (fragmentsOf spreadTwiceDocument) spreadTwice.selectionSet := by
  have given : spreadTwiceBody.isEmpty = false := by decide +kernel
  have read : readObject spreadTwiceHost spreadTwiceBody = .ok [(.text "query", .str spreadTwiceText)] := by
    unfold readObject
    rw [given]
    rfl
  have opened : Opened spreadTwiceHost spreadTwiceLibrary spreadTwiceBody [(.text "query", .str spreadTwiceText)]
      spreadTwiceDocument spreadTwice :=
    ⟨read, rfl, ⟨spreadTwiceText, by decide, rfl, rfl⟩, rfl⟩
  have limits := limits_of_the_expansion spreadTwiceHost spreadTwiceLibrary (fun stub _ _ => .ok stub) (by decide)
  exact ⟨opened, (limits.1 opened).1.mp ⟨rfl, rfl⟩⟩

end ProviderSimulator.GraphqlDocument
