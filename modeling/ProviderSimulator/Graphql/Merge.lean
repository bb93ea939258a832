/-
**Fields that are selected twice.**

A selection set can name one response key several times, with other fields below it. The code puts the value of each
field under its key, so that the last one replaces those before it: in `_fill` and, for the roots, in
`SuiChain.build_success`.

* `Selected` — the paths of response keys that the included fields select, through objects of the stub;
* `ByLast` — those that the last field of each response key gives;
* `holds_iff_byLast` — a dict holds exactly the paths of the second kind;
* `answer_projects` — `_answer` projects the stub of a root (`rootStub`), whatever its projection is;
* `merges_iff` — **the reply holds every path that is selected if and only if all of them are of the second kind.**
-/

import Mathlib.Tactic.Common
import Mathlib.Data.List.Forall2
import ProviderSimulator.Graphql.Accepted
import ProviderSimulator.Chains.Sui

namespace ProviderSimulator.GraphqlDocument

open ProviderSimulator.Lib ProviderSimulator.Python

/-! ### Paths -/

/-- The value has an entry at the end of the path, and dicts on the way. -/
def Holds : Value → List String → Prop
  | _, [] => True
  | .dict entries, key :: rest => ∃ value, Dict.get entries (.text key) = some value ∧ Holds value rest
  | _, _ :: _ => False

section

variable (library : Library) (variableValues : Dict String Value)

/-- The paths of response keys that fields select. Below a field, the stub has an object there. -/
inductive Selected : List Pick → List String → Prop
  | field {found : List Pick} {pick : Pick} : pick ∈ found → Selected found [pick.key]
  | nested {found inside : List Pick} {pick : Pick} {entries : List (Key × Value)} {inner : Expanded Selection}
      {path : List String} : pick ∈ found → pick.stub = .dict entries → pick.below = some inner →
      picks library variableValues inner entries = .ok inside → Selected inside path → Selected found (pick.key :: path)

/-- The paths that the last field of each response key selects. A last field without a selection set gives its stub
as it is. -/
inductive ByLast : List Pick → List String → Prop
  | field {found : List Pick} {pick : Pick} : pick ∈ found → ByLast found [pick.key]
  | nested {found inside : List Pick} {key : String} {pick : Pick} {entries : List (Key × Value)}
      {inner : Expanded Selection} {path : List String} : lastPick found key = some pick → pick.stub = .dict entries →
      pick.below = some inner → picks library variableValues inner entries = .ok inside → ByLast inside path →
      ByLast found (key :: path)
  | whole {found : List Pick} {key : String} {pick : Pick} {path : List String} : lastPick found key = some pick →
      pick.below = none → Holds pick.stub path → ByLast found (key :: path)

end

section

variable {library : Library} {variableValues : Dict String Value}

/-- A shaped value that holds a path is a dict that was filled. -/
theorem filled_of_holds {stub value : Value} {inner : Expanded Selection} {key : String} {rest : List String}
    (gave : projected library variableValues stub (some inner) = .ok value) (holds : Holds value (key :: rest)) :
    ∃ entries shaped, stub = .dict entries ∧ value = .dict shaped ∧
      fillTree library variableValues inner entries [] = .ok shaped := by
  cases stub with
  | dict entries =>
      obtain ⟨shaped, fills, whole⟩ := ok_of_bind gave
      cases whole
      exact ⟨entries, shaped, rfl, rfl, fills⟩
  | list items =>
      obtain ⟨shaped, -, whole⟩ := ok_of_bind gave
      cases whole
      cases holds
  | none =>
      cases gave
      cases holds
  | bool flag =>
      cases gave
      cases holds
  | int number =>
      cases gave
      cases holds
  | float number =>
      cases gave
      cases holds
  | str text =>
      cases gave
      cases holds

/-- What is under a key is the value of the last field with it. -/
theorem last_of_get {found : List Pick} {data : List (Key × Value)}
    (gave : putAll library variableValues found [] = .ok data) {key : String} {value : Value}
    (there : Dict.get data (.text key) = some value) :
    ∃ pick, lastPick found key = some pick ∧ projected library variableValues pick.stub pick.below = .ok value := by
  have inside : Key.text key ∈ Dict.keys data := by
    by_contra missing
    cases there.symm.trans ((Dict.get_eq_none_iff _ _).mpr missing)
  obtain before | ⟨pick, member, same⟩ := (mem_keys_putAll gave _).mp inside
  · cases before
  · cases same
    obtain ⟨last, isLast⟩ := exists_lastPick member
    obtain ⟨shaped, shapes, held⟩ := get_putAll gave isLast
    cases held.symm.trans there
    exact ⟨last, isLast, shapes⟩

/-- **A dict that fields fill holds exactly the paths of the last ones.** The induction is on the path. -/
theorem holds_iff_byLast {found : List Pick} {data : List (Key × Value)}
    (gave : putAll library variableValues found [] = .ok data) (key : String) (path : List String) :
    Holds (.dict data) (key :: path) ↔ ByLast library variableValues found (key :: path) := by
  induction path generalizing found data key with
  | nil =>
      constructor
      · rintro ⟨value, there, -⟩
        obtain ⟨pick, isLast, -⟩ := last_of_get gave there
        obtain ⟨member, rfl⟩ := lastPick_mem isLast
        exact .field member
      · intro selected
        obtain ⟨pick, isLast⟩ : ∃ pick, lastPick found key = some pick := by
          cases selected with
          | field member => exact exists_lastPick member
          | nested isLast => exact ⟨_, isLast⟩
          | whole isLast => exact ⟨_, isLast⟩
        obtain ⟨value, -, there⟩ := get_putAll gave isLast
        exact ⟨value, there, trivial⟩
  | cons next rest ih =>
      constructor
      · rintro ⟨value, there, holds⟩
        obtain ⟨pick, isLast, shapes⟩ := last_of_get gave there
        cases below : pick.below with
        | none =>
            rw [below] at shapes
            cases shapes
            exact .whole isLast below holds
        | some inner =>
            rw [below] at shapes
            obtain ⟨entries, shaped, isDict, rfl, fills⟩ := filled_of_holds shapes holds
            obtain ⟨inside, are, puts⟩ := fillTree_picks inner entries fills
            exact .nested isLast isDict below are ((ih puts next).mp holds)
      · intro selected
        cases selected with
        | nested isLast isDict below are later =>
            obtain ⟨value, shapes, there⟩ := get_putAll gave isLast
            rw [isDict, below] at shapes
            obtain ⟨shaped, fills, whole⟩ := ok_of_bind shapes
            cases whole
            obtain ⟨inside, areInside, puts⟩ := fillTree_picks _ _ fills
            cases are.symm.trans areInside
            exact ⟨_, there, (ih puts next).mpr later⟩
        | whole isLast below holds =>
            obtain ⟨value, shapes, there⟩ := get_putAll gave isLast
            rw [below] at shapes
            cases shapes
            exact ⟨_, there, holds⟩

/-- The paths are those with a key or more. -/
theorem Selected.nonempty {found : List Pick} {path : List String}
    (selected : Selected library variableValues found path) : ∃ key rest, path = key :: rest := by
  cases selected with
  | field member => exact ⟨_, _, rfl⟩
  | nested member isDict below are later => exact ⟨_, _, rfl⟩

/-- **A dict that fields fill holds every selected path if and only if the last fields select it too.** -/
theorem holds_selected_iff {found : List Pick} {data : List (Key × Value)}
    (gave : putAll library variableValues found [] = .ok data) :
    (∀ path, Selected library variableValues found path → Holds (.dict data) path) ↔
      ∀ path, Selected library variableValues found path → ByLast library variableValues found path := by
  refine forall_congr' fun path => imp_congr_right fun selected => ?_
  obtain ⟨key, rest, rfl⟩ := selected.nonempty
  exact holds_iff_byLast gave key rest

end

end ProviderSimulator.GraphqlDocument

namespace ProviderSimulator.Chains.Sui

open ProviderSimulator.Lib ProviderSimulator.Python ProviderSimulator.Domain ProviderSimulator.Stubs
open ProviderSimulator.GraphqlDocument (RootField Reader Library Selection Pick Below Settles Selected ByLast Holds
  Opened ExpandsTo fragmentsOf includedRoots putAll projected project_settles holds_selected_iff parseGraphqlRequest
  expansion_of_accepted root_below epochTwiceHost epochTwiceLibrary epochTwiceBody epochTwiceRequest epochTwice_accepted)

/-! ### The stub of a root -/

section

variable (host : Host) (graphql : GraphqlDocument.Request) (request : Parsed) (head : ℤ) (blocksBehind : Value)
  (quirks : Quirks) (responses : Value)

/-- The value that is projected for a root with this entry, and null for a root that fails. -/
def entryStub (root : RootField) (entry : Value) : Except PyError Value := do
  if ← entry.contains "error_stub" then pure .none
  else if ← entry.contains "error" then pure .none
  else if ← entry.contains "result" then entry.item "result"
  else if root.name = "executeTransaction" then
    match transactionData host root with
    | none => pure .none
    | some data =>
        let digest := transactionDigest host data
        pure (.object [
          ("effects", .object [
            ("status", .str "SUCCESS"), ("digest", .str digest),
            ("transaction", .object [("digest", .str digest)])])])
  else stub host root graphql request head blocksBehind quirks

/-- The value that is projected for a root. -/
def rootStub (root : RootField) : Except PyError Value := do
  let entry := ((← responses.get root.name).getD .none).orElse (.dict [])
  entryStub host graphql request head blocksBehind quirks root entry

/-- The field that a root is: its response key, its stub, and what is below it. -/
structure RootPick (root : RootField) (pick : Pick) : Prop where
  key : pick.key = root.responseKey
  stub : rootStub host graphql request head blocksBehind quirks responses root = .ok pick.stub
  below : Below graphql.fragments root.selection pick.below

variable {host graphql request head blocksBehind quirks responses}

/-- The answer projects the stub: it fails without a projection, its value is null as the stub is, or it is the
projection of the stub. -/
inductive Projects (graphql : GraphqlDocument.Request) (selection : Option (List Selection)) :
    (Reader → Except PyError Answer) → Except PyError Value → Prop
  | fails {error : PyError} {stub : Except PyError Value} : Projects graphql selection (fun _ => .error error) stub
  | null {given : Answer} : given.value = .none → Projects graphql selection (fun _ => .ok given) (.ok .none)
  | shapes {stub : Value} {executed : Option String} :
      Projects graphql selection (fun reader => do
        let value ← reader.project stub selection graphql
        pure { value, executed }) (.ok stub)

namespace Projects

variable {selection : Option (List Selection)}

/-- A step before both. -/
theorem step {S : Type} {first : Except PyError S} {next : S → Reader → Except PyError Answer}
    {later : S → Except PyError Value} (projects : ∀ value, Projects graphql selection (next value) (later value)) :
    Projects graphql selection (fun reader => first >>= fun value => next value reader) (first >>= later) := by
  cases first with
  | error error => exact .fails
  | ok value => exact projects value

/-- A step of a root that fails. -/
theorem step_null {S : Type} {first : Except PyError S} {next : S → Reader → Except PyError Answer}
    (projects : ∀ value, Projects graphql selection (next value) (.ok .none)) :
    Projects graphql selection (fun reader => first >>= fun value => next value reader) (.ok .none) := by
  cases first with
  | error error => exact .fails
  | ok value => exact projects value

/-- A stub that is made first. -/
theorem made (stub : Except PyError Value) :
    Projects graphql selection (fun reader => do
      let value ← stub
      pure { value := ← reader.project value selection graphql }) stub := by
  cases stub with
  | error error => exact .fails
  | ok value => exact .shapes

variable {made : Reader → Except PyError Answer} {stub : Except PyError Value}
  (projects : Projects graphql selection made stub)

include projects

/-- Two readers that project the stub in the same way give the same answer. -/
theorem congr {first second : Reader}
    (same : ∀ value, stub = .ok value → first.project value selection graphql = second.project value selection graphql) :
    made first = made second := by
  cases projects with
  | fails => rfl
  | null => rfl
  | shapes =>
      dsimp only
      rw [same _ rfl]

theorem value {reader : Reader} {given : Answer} (gave : made reader = .ok given) :
    ∃ value, stub = .ok value ∧
      (value = .none ∧ given.value = .none ∨ reader.project value selection graphql = .ok given.value) := by
  cases projects with
  | fails => cases gave
  | null isNone =>
      cases gave
      exact ⟨.none, rfl, .inl ⟨rfl, isNone⟩⟩
  | shapes =>
      obtain ⟨shaped, shapes, whole⟩ := ok_of_bind gave
      cases whole
      exact ⟨_, rfl, .inr shapes⟩

end Projects

/-- **`_answer` projects the stub of the root.** -/
theorem answer_projects (root : RootField) (entry : Value) :
    Projects graphql root.selection
      (fun reader => answer host reader root entry graphql request head blocksBehind quirks)
      (entryStub host graphql request head blocksBehind quirks root entry) := by
  unfold answer entryStub
  refine .step fun hasErrorStub => ?_
  cases hasErrorStub with
  | true => exact .step_null fun name => .step_null fun error => .null rfl
  | false =>
      refine .step fun hasError => ?_
      cases hasError with
      | true => exact .step_null fun error => .null rfl
      | false =>
          refine .step fun hasResult => ?_
          cases hasResult with
          | true => exact .made _
          | false =>
              simp only [Bool.false_eq_true, if_false]
              by_cases executes : root.name = "executeTransaction"
              · simp only [if_pos executes, execute]
                cases transactionData host root with
                | none => exact .step_null fun error => .null rfl
                | some data => exact .shapes
              · simp only [if_neg executes]
                exact .made _

/-! ### The roots -/

section

variable {roots : List RootField}

/-- Two readers that project the stubs of the roots in the same way give the same reply. -/
theorem answerAll_congr {first second : Reader}
    (same : ∀ root ∈ roots, ∀ value,
      rootStub host graphql request head blocksBehind quirks responses root = .ok value →
      first.project value root.selection graphql = second.project value root.selection graphql) (reply : Reply) :
    answerAll host first responses graphql request head blocksBehind quirks roots reply =
      answerAll host second responses graphql request head blocksBehind quirks roots reply := by
  induction roots generalizing reply with
  | nil => rfl
  | cons root rest ih =>
      have later := ih fun other member => same other (List.mem_cons_of_mem _ member)
      unfold answerAll
      cases given : responses.get root.name with
      | error error => rfl
      | ok entry =>
          have here : answer host first root ((entry.getD .none).orElse (.dict [])) graphql request head blocksBehind
              quirks = answer host second root ((entry.getD .none).orElse (.dict [])) graphql request head blocksBehind
              quirks := by
            refine (answer_projects root _).congr fun value isStub => same root List.mem_cons_self value ?_
            unfold rootStub
            rw [given, ok_bind]
            exact isStub
          simp only [ok_bind, here, later]

/-- One more root sets its response key. -/
theorem data_of_add {reply added : Reply} {root : RootField} {given : Answer} (adds : reply.add root given = .ok added) :
    added.data = Dict.set reply.data (.text root.responseKey) given.value := by
  unfold Reply.add at adds
  by_cases quiet : given.error.isNone = true
  · simp only [if_pos quiet] at adds
    cases adds
    rfl
  · simp only [if_neg quiet] at adds
    obtain ⟨errors, -, whole⟩ := ok_of_bind adds
    cases whole
    rfl

/-- **The roots put the values of their fields into the data, one after the other.** -/
theorem answerAll_putAll {library : Library} {reader : Reader}
    (projects : ∀ root ∈ roots, ∀ value,
      rootStub host graphql request head blocksBehind quirks responses root = .ok value →
      ∃ below, Below graphql.fragments root.selection below ∧
        reader.project value root.selection graphql = projected library graphql.variableValues value below)
    {reply result : Reply}
    (gave : answerAll host reader responses graphql request head blocksBehind quirks roots reply = .ok result) :
    ∃ found, List.Forall₂ (RootPick host graphql request head blocksBehind quirks responses) roots found ∧
      putAll library graphql.variableValues found reply.data = .ok result.data := by
  induction roots generalizing reply with
  | nil =>
      cases gave
      exact ⟨[], .nil, rfl⟩
  | cons root rest ih =>
      obtain ⟨entry, isEntry, afterEntry⟩ := ok_of_bind gave
      obtain ⟨given, answers, afterAnswer⟩ := ok_of_bind afterEntry
      obtain ⟨added, adds, later⟩ := ok_of_bind afterAnswer
      obtain ⟨found, are, puts⟩ := ih (fun other member => projects other (List.mem_cons_of_mem _ member)) later
      obtain ⟨stub, isStub, value⟩ := (answer_projects root _).value answers
      have isRootStub : rootStub host graphql request head blocksBehind quirks responses root = .ok stub := by
        unfold rootStub
        rw [isEntry, ok_bind]
        exact isStub
      obtain ⟨below, isBelow, shapes⟩ := projects root List.mem_cons_self stub isRootStub
      have shaped : projected library graphql.variableValues stub below = .ok given.value := by
        rcases value with ⟨rfl, isNone⟩ | projected
        · rw [isNone]
          cases below with
          | none => rfl
          | some inner => rfl
        · rw [← shapes, projected]
      refine ⟨⟨root.responseKey, stub, below⟩ :: found, .cons ⟨rfl, isRootStub, isBelow⟩ are, ?_⟩
      rw [putAll, shaped, ok_bind, ← data_of_add adds]
      exact puts

/-- Some room is enough for the stubs of all the roots. -/
theorem enough_room (library : Library) (belows : ∀ root ∈ roots, ∃ below, Below graphql.fragments root.selection below) :
    ∃ enough, ∀ root ∈ roots, ∀ value,
      rootStub host graphql request head blocksBehind quirks responses root = .ok value →
      ∃ below, Below graphql.fragments root.selection below ∧ ∀ room, enough ≤ room →
        GraphqlDocument.project library graphql room value root.selection =
          projected library graphql.variableValues value below := by
  induction roots with
  | nil => exact ⟨0, nofun⟩
  | cons root rest ih =>
      obtain ⟨others, rests⟩ := ih fun other member => belows other (List.mem_cons_of_mem _ member)
      obtain ⟨below, isBelow⟩ := belows root List.mem_cons_self
      cases isStub : rootStub host graphql request head blocksBehind quirks responses root with
      | error error =>
          refine ⟨others, fun other member value isValue => ?_⟩
          rcases List.mem_cons.mp member with rfl | inside
          · cases isStub.symm.trans isValue
          · exact rests other inside value isValue
      | ok stub =>
          obtain ⟨enough, settles⟩ : Settles (fun room => GraphqlDocument.project library graphql room stub root.selection)
              (projected library graphql.variableValues stub below) := project_settles isBelow stub
          refine ⟨max enough others, fun other member value isValue => ?_⟩
          rcases List.mem_cons.mp member with rfl | inside
          · cases isStub.symm.trans isValue
            exact ⟨below, isBelow, fun room large => settles room (le_trans (le_max_left _ _) large)⟩
          · obtain ⟨otherBelow, isOther, same⟩ := rests other inside value isValue
            exact ⟨otherBelow, isOther, fun room large => same room (le_trans (le_max_right _ _) large)⟩

end

end

/-- The reader of the program, with this room for `project`. -/
def roomyReader (library : Library) (room : ℕ) : Reader :=
  library.reader fun value selection graphql => GraphqlDocument.project library graphql room value selection

/-- The body of a reply is its data, and the errors after it. -/
theorem body_of_buildSuccess {host : Host} {reader : Reader} {graphql : GraphqlDocument.Request} {request : Parsed}
    (given : request.graphql = some graphql) {scenario : Scenario} {quirks : Quirks} {head : ℤ} {content : Content}
    (gave : buildSuccess host reader request scenario quirks head = .ok content) :
    ∃ reply rest, answerAll host reader (responsesOf scenario) graphql request head (scenario .blocksBehind) quirks
        graphql.roots {} = .ok reply ∧ content.body = .dict ((.text "data", .dict reply.data) :: rest) := by
  unfold buildSuccess at gave
  rw [given] at gave
  obtain ⟨reply, answers, later⟩ := ok_of_bind gave
  by_cases quiet : reply.errors.isEmpty = true
  · simp only [if_pos quiet] at later
    cases later
    exact ⟨reply, [], answers, rfl⟩
  · simp only [if_neg quiet] at later
    cases later
    exact ⟨reply, _, answers, rfl⟩

/-- **A field that is selected twice has the value of the last one.** For every accepted request and every scenario,
`build_success` comes to an end, and its data holds every path of response keys that the included fields select
through objects of the stubs if and only if the last field of each response key selects them too. -/
theorem merges_iff (host : Host) (library : Library)
    (projecting : Value → Option (List Selection) → GraphqlDocument.Request → Except PyError Value) {sent : Bytes}
    {graphql : GraphqlDocument.Request}
    (accepted : parseGraphqlRequest host (library.reader projecting) sent = .ok graphql) (request : Parsed)
    (given : request.graphql = some graphql) (scenario : Scenario) (quirks : Quirks) (head : ℤ) :
    (∃ payload document operation expanded, Opened host library sent payload document operation ∧
      graphql.fragments = fragmentsOf document ∧ ExpandsTo graphql.fragments operation.selectionSet expanded ∧
      includedRoots library graphql.variableValues expanded = .ok graphql.roots) ∧
    ∃ result, Settles (fun room => buildSuccess host (roomyReader library room) request scenario quirks head) result ∧
      ∀ content, result = .ok content →
        ∃ data rest found, content.body = .dict ((.text "data", .dict data) :: rest) ∧
          List.Forall₂ (RootPick host graphql request head (scenario .blocksBehind) quirks (responsesOf scenario))
            graphql.roots found ∧
          ((∀ path, Selected library graphql.variableValues found path → Holds (.dict data) path) ↔
            ∀ path, Selected library graphql.variableValues found path →
              ByLast library graphql.variableValues found path) := by
  refine ⟨expansion_of_accepted accepted, ?_⟩
  obtain ⟨enough, roomy⟩ := @enough_room host graphql request head (scenario .blocksBehind) quirks
    (responsesOf scenario) graphql.roots library fun root member => root_below accepted member
  refine ⟨buildSuccess host (roomyReader library enough) request scenario quirks head, ⟨enough, fun room large => ?_⟩, ?_⟩
  · have same : ∀ root ∈ graphql.roots, ∀ value, rootStub host graphql request head (scenario .blocksBehind) quirks
        (responsesOf scenario) root = .ok value → (roomyReader library room).project value root.selection graphql =
          (roomyReader library enough).project value root.selection graphql := by
      intro root member value isStub
      obtain ⟨below, -, settles⟩ := roomy root member value isStub
      exact (settles room large).trans (settles enough le_rfl).symm
    unfold buildSuccess
    rw [given]
    dsimp only
    rw [answerAll_congr same]
  · intro content gave
    obtain ⟨reply, rest, answers, isBody⟩ := body_of_buildSuccess given gave
    have projects : ∀ root ∈ graphql.roots, ∀ value, rootStub host graphql request head (scenario .blocksBehind) quirks
        (responsesOf scenario) root = .ok value → ∃ below, Below graphql.fragments root.selection below ∧
          (roomyReader library enough).project value root.selection graphql =
            projected library graphql.variableValues value below := by
      intro root member value isStub
      obtain ⟨below, isBelow, settles⟩ := roomy root member value isStub
      exact ⟨below, isBelow, settles enough le_rfl⟩
    obtain ⟨found, are, puts⟩ := answerAll_putAll projects answers
    exact ⟨reply.data, rest, found, isBody, are, holds_selected_iff puts⟩

/-- The parsed request with the field `epoch` twice. -/
def epochTwiceParsed : Parsed where
  fields := [("method", .str "epoch&epoch"), ("request_id", .none)]
  graphql := some epochTwiceRequest

/-- The stub of the root `epoch`. -/
def epochStub : List (Key × Value) := [(.text "epochId", .int suiEpochId), (.text "referenceGasPrice", .str "1000")]

/-- The two root fields: the first asks for the gas price, and the second for the number. -/
def epochPicks : List Pick :=
  [⟨"epoch", .dict epochStub, some (.nest (.fragmentSpread "gas" []) (.leaf (.field "referenceGasPrice" none [] [] none) .nil)
      (.leaf (.field "epochId" none [] [⟨"skip", [("if", .boolean true)]⟩] none) .nil))⟩,
    ⟨"epoch", .dict epochStub, some (.leaf (.field "epochId" none [] [] none) .nil)⟩]

/-- The reply to the request. -/
def epochReply : List (Key × Value) := [(.text "epoch", .object [("epochId", .int suiEpochId)])]

theorem epochPicks_of_roots (head : ℤ) :
    List.Forall₂ (RootPick epochTwiceHost epochTwiceRequest epochTwiceParsed head (.int 0)
      (Chain.quirksDefault .sui) (responsesOf ScenarioField.default)) epochTwiceRequest.roots epochPicks := by
  refine .cons ⟨rfl, rfl, ?_⟩ (.cons ⟨rfl, rfl, ?_⟩ .nil)
  · exact .set (.call rfl rfl (.leaf rfl .nil) (.leaf rfl .nil))
  · exact .set (.leaf rfl .nil)

/-- A request with the field twice has a reply, whose paths are as they are for every request. -/
theorem merges_iff_epochTwice :
    epochTwiceParsed.graphql = some epochTwiceRequest ∧
    ∃ result, Settles (fun room => buildSuccess epochTwiceHost (roomyReader epochTwiceLibrary room) epochTwiceParsed
        ScenarioField.default (Chain.quirksDefault .sui) 0) result ∧
      ∀ content, result = .ok content →
        ∃ data rest found, content.body = .dict ((.text "data", .dict data) :: rest) ∧
          ((∀ path, Selected epochTwiceLibrary [] found path → Holds (.dict data) path) ↔
            ∀ path, Selected epochTwiceLibrary [] found path → ByLast epochTwiceLibrary [] found path) := by
  obtain ⟨-, result, settles, merges⟩ := merges_iff epochTwiceHost epochTwiceLibrary (fun stub _ _ => .ok stub)
    (epochTwice_accepted _) epochTwiceParsed rfl ScenarioField.default (Chain.quirksDefault .sui) 0
  refine ⟨rfl, result, settles, fun content gave => ?_⟩
  obtain ⟨data, rest, found, isBody, -, iff⟩ := merges content gave
  exact ⟨data, rest, found, isBody, iff⟩

/-- **The fields of the first `epoch` are lost.** They are selected, and the stub has an object above them. -/
theorem first_selection_lost :
    parseGraphqlRequest epochTwiceHost (roomyReader epochTwiceLibrary 900) epochTwiceBody = .ok epochTwiceRequest ∧
    List.Forall₂ (RootPick epochTwiceHost epochTwiceRequest epochTwiceParsed 0 (.int 0) (Chain.quirksDefault .sui)
      (responsesOf ScenarioField.default)) epochTwiceRequest.roots epochPicks ∧
    (∃ content, Settles (fun room => buildSuccess epochTwiceHost (roomyReader epochTwiceLibrary room) epochTwiceParsed
        ScenarioField.default (Chain.quirksDefault .sui) 0) (.ok content) ∧
      content.body = .dict [(.text "data", .dict epochReply)]) ∧
    Selected epochTwiceLibrary epochTwiceRequest.variableValues epochPicks ["epoch", "referenceGasPrice"] ∧
    ¬ Holds (.dict epochReply) ["epoch", "referenceGasPrice"] := by
  have inside : GraphqlDocument.picks epochTwiceLibrary [] (.nest (.fragmentSpread "gas" [])
      (.leaf (.field "referenceGasPrice" none [] [] none) .nil)
      (.leaf (.field "epochId" none [] [⟨"skip", [("if", .boolean true)]⟩] none) .nil)) epochStub =
        .ok [⟨"referenceGasPrice", .str "1000", none⟩] := rfl
  refine ⟨epochTwice_accepted _, epochPicks_of_roots 0,
    ⟨{ status := .int 200, body := .dict [(.text "data", .dict epochReply)] }, ⟨6, fun room large => ?_⟩, rfl⟩, ?_, ?_⟩
  · obtain ⟨less, rfl⟩ := Nat.exists_eq_add_of_le' large
    rfl
  · exact .nested List.mem_cons_self rfl rfl inside (.field List.mem_cons_self)
  · rintro ⟨value, there, below⟩
    cases there
    obtain ⟨price, missing, -⟩ := below
    cases missing

end ProviderSimulator.Chains.Sui
