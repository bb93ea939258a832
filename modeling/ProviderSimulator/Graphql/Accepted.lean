/-
**Projections of an accepted request.**

`parse_graphql_request` has found out that every fragment is there and that none spreads itself, so the operation of
an accepted request has an expansion, and `project` comes to an end on each of its roots.

* `expansion_of_accepted` — the roots of the request are the included root fields of this expansion;
* `root_below` — what is below a root has an expansion;
* `projection_of_the_expansion` — **the projection of a stub is the one of the expanded document**, for every accepted
  request, every root and every stub.
-/

import Mathlib.Tactic.Common
import ProviderSimulator.Graphql.Shaped

namespace ProviderSimulator.GraphqlDocument

open ProviderSimulator.Lib ProviderSimulator.Python

/-! ### The roots of an accepted request -/

section

variable {library : Library} {variableValues : Dict String Value} {fragments : Dict String (List Selection)}

theorem Selection.selection_of_leaf {name : String} {aliasName : Option String} {arguments : List (String × Node)}
    {directives : List Directive} {selectionSet : Option (List Selection)}
    (seen : (Selection.field name aliasName arguments directives selectionSet).view = .leaf) : selectionSet = none := by
  cases selectionSet with
  | none => rfl
  | some items => cases seen

theorem Selection.selection_of_nest {name : String} {aliasName : Option String} {arguments : List (String × Node)}
    {directives : List Directive} {selectionSet : Option (List Selection)} {items : List Selection}
    (seen : (Selection.field name aliasName arguments directives selectionSet).view = .nest items) :
    selectionSet = some items := by
  cases selectionSet with
  | none => cases seen
  | some items =>
      cases seen
      rfl

theorem rootsAt_of_ok {selection : Selection} {below inner : Except PyError (List RootField)} {first : List RootField}
    (same : ∀ {roots}, below = .ok roots → inner = .ok roots)
    (gave : rootsAt library variableValues selection below = .ok first) :
    rootsAt library variableValues selection inner = .ok first := by
  obtain ⟨included, found, later⟩ := ok_of_bind gave
  unfold rootsAt
  rw [found, ok_bind]
  cases included with
  | false => exact later
  | true =>
      cases selection with
      | field name aliasName arguments directives selectionSet => exact later
      | inlineFragment directives selectionSet => exact same later
      | fragmentSpread name directives => exact same later

/-- The loop that gave roots gave those of the expansion, where the calls below do. -/
theorem rootsAmong_ok {rootsOf : List Selection → Except PyError (List RootField)} {items : List Selection}
    {expanded : Expanded Selection}
    (calls : ∀ {items expanded roots}, ExpandsTo fragments items expanded → rootsOf items = .ok roots →
      includedRoots library variableValues expanded = .ok roots)
    (expands : ExpandsTo fragments items expanded) {roots found : List RootField}
    (gave : rootsAmong library variableValues fragments rootsOf items roots = .ok found) :
    ∃ more, includedRoots library variableValues expanded = .ok more ∧ found = roots ++ more := by
  induction expands generalizing roots with
  | nil =>
      cases gave
      exact ⟨[], rfl, (List.append_nil _).symm⟩
  | leaf seen _ ih =>
      rw [rootsAmong_cons (rootsBelow_leaf seen)] at gave
      obtain ⟨first, isFirst, later⟩ := ok_of_bind gave
      obtain ⟨more, areMore, rfl⟩ := ih later
      refine ⟨first ++ more, ?_, List.append_assoc _ _ _⟩
      rw [includedRoots, isFirst, ok_bind, areMore]
      rfl
  | nest seen within _ _ ih =>
      rw [rootsAmong_cons (rootsBelow_nest seen)] at gave
      obtain ⟨first, isFirst, later⟩ := ok_of_bind gave
      obtain ⟨more, areMore, rfl⟩ := ih later
      refine ⟨first ++ more, ?_, List.append_assoc _ _ _⟩
      rw [includedRoots, rootsAt_of_ok (calls within) isFirst, ok_bind, areMore]
      rfl
  | call seen found within _ _ ih =>
      rw [rootsAmong_cons (rootsBelow_call seen found)] at gave
      obtain ⟨first, isFirst, later⟩ := ok_of_bind gave
      obtain ⟨more, areMore, rfl⟩ := ih later
      refine ⟨first ++ more, ?_, List.append_assoc _ _ _⟩
      rw [includedRoots, rootsAt_of_ok (calls within) isFirst, ok_bind, areMore]
      rfl

/-- Roots that are found are those of the expansion, whatever room there was. -/
theorem includedRoots_of_rootsOf (room : ℕ) {items : List Selection} {expanded : Expanded Selection}
    (expands : ExpandsTo fragments items expanded) {roots : List RootField}
    (gave : rootsOf library variableValues fragments room items = .ok roots) :
    includedRoots library variableValues expanded = .ok roots := by
  induction room generalizing items expanded roots with
  | zero => cases gave
  | succ room ih =>
      obtain ⟨more, areMore, rfl⟩ := rootsAmong_ok (fun within found => ih within found) expands gave
      exact areMore

/-- A root is the first selection itself, or it stands below it, or after it. -/
theorem mem_roots {selection : Selection} {inner later : Except PyError (List RootField)} {roots : List RootField}
    {root : RootField}
    (gave : (do let first ← rootsAt library variableValues selection inner; pure (first ++ (← later))) = .ok roots)
    (member : root ∈ roots) :
    (∃ name aliasName arguments directives, selection = .field name aliasName arguments directives root.selection) ∨
      (∃ inside, inner = .ok inside ∧ root ∈ inside) ∨ ∃ others, later = .ok others ∧ root ∈ others := by
  obtain ⟨first, isFirst, rest⟩ := ok_of_bind gave
  obtain ⟨others, areOthers, whole⟩ := ok_of_bind rest
  cases whole
  rcases List.mem_append.mp member with inFirst | inOthers
  · obtain ⟨included, -, own⟩ := ok_of_bind isFirst
    cases included with
    | false =>
        cases own
        cases inFirst
    | true =>
        cases selection with
        | field name aliasName arguments directives selectionSet =>
            obtain ⟨made, makes, only⟩ := ok_of_bind own
            obtain ⟨values, -, fields⟩ := ok_of_bind makes
            cases only
            cases fields
            rw [List.mem_singleton.mp inFirst]
            exact .inl ⟨name, aliasName, arguments, directives, rfl⟩
        | inlineFragment directives selectionSet => exact .inr (.inl ⟨first, own, inFirst⟩)
        | fragmentSpread name directives => exact .inr (.inl ⟨first, own, inFirst⟩)
  · exact .inr (.inr ⟨others, areOthers, inOthers⟩)

/-- The root fields of an expansion have expansions below them. -/
theorem below_of_includedRoots {items : List Selection} {expanded : Expanded Selection}
    (expands : ExpandsTo fragments items expanded) {roots : List RootField}
    (gave : includedRoots library variableValues expanded = .ok roots) {root : RootField} (member : root ∈ roots) :
    ∃ below, Below fragments root.selection below := by
  induction expands generalizing roots with
  | nil =>
      cases gave
      cases member
  | leaf seen _ ih =>
      rcases mem_roots gave member with ⟨_, _, _, _, rfl⟩ | ⟨inside, same, inInside⟩ | ⟨others, areOthers, inOthers⟩
      · rw [Selection.selection_of_leaf seen]
        exact ⟨none, .leaf⟩
      · cases same
        cases inInside
      · exact ih areOthers inOthers
  | nest seen within _ ihWithin ih =>
      rcases mem_roots gave member with ⟨_, _, _, _, rfl⟩ | ⟨inside, same, inInside⟩ | ⟨others, areOthers, inOthers⟩
      · rw [Selection.selection_of_nest seen]
        exact ⟨some _, .set within⟩
      · exact ihWithin same inInside
      · exact ih areOthers inOthers
  | call seen found within _ ihWithin ih =>
      rcases mem_roots gave member with ⟨_, _, _, _, rfl⟩ | ⟨inside, same, inInside⟩ | ⟨others, areOthers, inOthers⟩
      · obtain ⟨directives, same⟩ := Selection.spread_of_call seen
        cases same
      · exact ihWithin same inInside
      · exact ih areOthers inOthers

variable {host : Host} {projecting : Value → Option (List Selection) → Request → Except PyError Value} {body : Bytes}
  {request : Request} (accepted : parseGraphqlRequest host (library.reader projecting) body = .ok request)

include accepted

/-- A request that is accepted has been opened. -/
theorem opened_of_accepted :
    ∃ payload document operation, Opened host library body payload document operation := by
  obtain ⟨payload, read, afterRead⟩ := ok_of_bind accepted
  obtain ⟨_, shape, afterShape⟩ := ok_of_bind afterRead
  split at afterShape
  · next text query =>
      split at afterShape
      · cases afterShape
      · next given =>
          obtain ⟨document, parsed, afterParse⟩ := ok_of_bind afterShape
          obtain ⟨operation, chosen, -⟩ := ok_of_bind afterParse
          refine ⟨payload, document, operation, read, shape, ⟨text, given, query, ?_⟩, chosen⟩
          unfold parseDocument at parsed
          split at parsed
          · next is =>
              cases parsed
              exact is
          · cases parsed
          · cases parsed
  · cases afterShape

/-- **The roots of an accepted request are those of the expansion of its operation.** -/
theorem expansion_of_accepted :
    ∃ payload document operation expanded, Opened host library body payload document operation ∧
      request.fragments = fragmentsOf document ∧ ExpandsTo request.fragments operation.selectionSet expanded ∧
      includedRoots library request.variableValues expanded = .ok request.roots := by
  obtain ⟨payload, document, operation, opened⟩ := opened_of_accepted accepted
  rw [opened.rest] at accepted
  obtain ⟨_, depth, afterDepth⟩ := ok_of_bind accepted
  obtain ⟨_, -, last⟩ := ok_of_bind afterDepth
  obtain ⟨expanded, expands, -⟩ := expands_of_checkDepth depth
  refine ⟨payload, document, operation, expanded, opened, ?_⟩
  split at last
  · next made =>
      cases last
      obtain ⟨variableValues, -, afterVariables⟩ := ok_of_bind made
      obtain ⟨roots, found, whole⟩ := ok_of_bind afterVariables
      cases whole
      exact ⟨rfl, expands, includedRoots_of_rootsOf library.room expands found⟩
  · cases last

theorem root_below {root : RootField} (member : root ∈ request.roots) :
    ∃ below, Below request.fragments root.selection below := by
  obtain ⟨payload, document, operation, expanded, -, -, expands, roots⟩ := expansion_of_accepted accepted
  exact below_of_includedRoots expands roots member

end

/-- **A projection is the projection of the expanded document.** For every request that is accepted, every root and every
stub, `project` comes to an end, on the selection set of the root as on the one with its fragments expanded in place and
the removed selections deleted, and the results are the same. At every dict of a result the keys are the response keys
of the included fields there, and it is an exception only where a directive raises one. -/
theorem projection_of_the_expansion (host : Host) (library : Library)
    (projecting : Value → Option (List Selection) → Request → Except PyError Value) {body : Bytes} {request : Request}
    (accepted : parseGraphqlRequest host (library.reader projecting) body = .ok request) {root : RootField}
    (member : root ∈ request.roots) (stub : Value) :
    ∃ expanded result, Below request.fragments root.selection expanded ∧
      Settles (fun room => project library request room stub root.selection) result ∧
      Settles (fun room => project library request room stub (expanded.map (flat library request.variableValues)))
        result ∧
      (∀ value, result = .ok value → Follows library request.variableValues stub expanded value) ∧
      (∀ error, result = .error error →
        ∃ inner, expanded = some inner ∧ RaisesIn library request.variableValues error inner) ∧
      ∀ inner, expanded = some inner → (∀ error, ¬ RaisesIn library request.variableValues error inner) →
        Plain (flat library request.variableValues inner) := by
  obtain ⟨expanded, below⟩ := root_below accepted member
  exact ⟨expanded, projected library request.variableValues stub expanded, below, project_settles below stub,
    project_flat_settles below stub, fun value gave => follows_of_projected stub expanded gave,
    fun error gave => error_of_projected gave, fun inner _ quiet => flat_plain inner quiet⟩

/-- The first of the two `epoch` fields spreads a fragment, and a directive removes its other field. -/
def gasOfEpoch : Option (List Selection) :=
  some [.fragmentSpread "gas" [], .field "epochId" none [] [⟨"skip", [("if", .boolean true)]⟩] none]

/-- The second one asks for another field. -/
def idOfEpoch : Option (List Selection) := some [.field "epochId" none [] [] none]

/-- An operation with the field `epoch` twice. -/
def epochTwice : Operation where
  operation := "query"
  name := none
  variableDefinitions := []
  selectionSet := [.field "epoch" none [] [] gasOfEpoch, .field "epoch" none [] [] idOfEpoch]

/-- The operation and its fragment. -/
def epochTwiceDocument : List Definition :=
  [.operation epochTwice, .fragment "gas" [.field "referenceGasPrice" none [] [] none]]

/-- The text of the document. -/
def epochTwiceText : String :=
  "\x7bepoch \x7b...gas epochId @skip(if: true)\x7d epoch \x7bepochId\x7d\x7d " ++
    "fragment gas on Epoch \x7breferenceGasPrice\x7d"

/-- A library that parses that text. -/
def epochTwiceLibrary : Library where
  parse _ := .ok epochTwiceDocument
  valueOf node _ :=
    match node with
    | .boolean value => .ok (some (.bool value))
    | _ => .ok none
  room := 900

/-- A host that reads the body of the request. -/
def epochTwiceHost : Host :=
  { spreadTwiceHost with
    loads := fun _ => .ok (.object [("query", .str epochTwiceText)])
    loadsText := fun _ => .ok (.object [("query", .str epochTwiceText)])
    decode := fun _ => .ok ("\x7b\"query\": \"" ++ epochTwiceText ++ "\"\x7d") }

/-- The body of the request. -/
def epochTwiceBody : Bytes := ("\x7b\"query\": \"" ++ epochTwiceText ++ "\"\x7d").toUTF8.toList

/-- The first root of the request. -/
def gasRoot : RootField where
  name := "epoch"
  responseKey := "epoch"
  arguments := []
  selection := gasOfEpoch

/-- The second root of the request. -/
def idRoot : RootField := { gasRoot with selection := idOfEpoch }

/-- The request. -/
def epochTwiceRequest : Request where
  operation := "query"
  roots := [gasRoot, idRoot]
  method := "epoch&epoch"
  requestId := .none
  variableValues := []
  fragments := fragmentsOf epochTwiceDocument

theorem epochTwice_accepted (projecting : Value → Option (List Selection) → Request → Except PyError Value) :
    parseGraphqlRequest epochTwiceHost (epochTwiceLibrary.reader projecting) epochTwiceBody = .ok epochTwiceRequest := by
  have given : epochTwiceBody.isEmpty = false := by decide +kernel
  unfold parseGraphqlRequest readObject
  rw [given]
  rfl

/-- The first root spreads a fragment and has a field that a directive removes. -/
theorem projection_of_gasRoot :
    gasRoot ∈ epochTwiceRequest.roots ∧ ∃ expanded result, Below epochTwiceRequest.fragments gasOfEpoch expanded ∧
      Settles (fun room => project epochTwiceLibrary epochTwiceRequest room (.object [("epochId", .int 5)]) gasOfEpoch)
        result ∧
      Settles (fun room => project epochTwiceLibrary epochTwiceRequest room (.object [("epochId", .int 5)])
        (expanded.map (flat epochTwiceLibrary []))) result := by
  have member : gasRoot ∈ epochTwiceRequest.roots := List.mem_cons_self
  obtain ⟨expanded, result, below, settles, same, -⟩ := projection_of_the_expansion epochTwiceHost epochTwiceLibrary
    (fun stub _ _ => .ok stub) (epochTwice_accepted _) member (.object [("epochId", .int 5)])
  exact ⟨member, expanded, result, below, settles, same⟩

end ProviderSimulator.GraphqlDocument
