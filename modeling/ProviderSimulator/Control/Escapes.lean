/-
**Which values the checks of `POST /scenario` raise at.**

A check refuses a value with a `ValueError`, which the call turns into an answer. Three checks ask a question
that Python does not answer for every value:

* `value in allowed`, with a set of words: a list and an object cannot be looked up in a set (`badEnum`);
* `out[(verb, template)] = cfg`: a list and an object cannot be a part of a key (`normaliseRoutes`);
* `for t in transports`: a number and a Boolean cannot be iterated over (`validateTransports`).

Each of them raises a `TypeError`, which nothing catches. A loop over fields, pairs or blocks gets to such a
value when everything before it passes (`GetsTo`). Every other check lets each value through or refuses it.

* `readFields_escapes` — the fields of a block;
* `blockRules_not_escapes` — the rules of a block, over a stored block;
* `validate_escapes` — the rules of the config class.
-/

import Mathlib.Tactic.Common
import ProviderSimulator.Control.ApplyScenario

namespace ProviderSimulator.Control

open ProviderSimulator.Lib ProviderSimulator.Python ProviderSimulator.Domain
open ProviderSimulator.FaultPolicy

/-! ### Loops that stop at an item -/

/-- The loop over the items gets to a bad one: all the earlier ones pass. -/
def GetsTo {T : Type} (Passes Bad : T → Prop) (items : List T) : Prop :=
  ∃ before item after, items = before ++ item :: after ∧ (∀ earlier ∈ before, Passes earlier) ∧ Bad item

section

variable {T : Type} {Passes Bad : T → Prop}

theorem not_getsTo_nil : ¬ GetsTo Passes Bad [] := by
  rintro ⟨before, item, after, split, -⟩
  cases before <;> cases split

theorem getsTo_cons {item : T} {rest : List T} :
    GetsTo Passes Bad (item :: rest) ↔ Bad item ∨ Passes item ∧ GetsTo Passes Bad rest := by
  constructor
  · rintro ⟨before, bad, after, split, passed, here⟩
    cases before with
    | nil =>
        cases split
        exact .inl here
    | cons first others =>
        cases split
        refine .inr ⟨passed _ List.mem_cons_self, others, bad, after, rfl, fun earlier member => ?_, here⟩
        exact passed earlier (List.mem_cons_of_mem _ member)
  · rintro (here | ⟨passes, before, bad, after, rfl, passed, there⟩)
    · exact ⟨[], item, rest, rfl, nofun, here⟩
    · refine ⟨item :: before, bad, after, rfl, fun earlier member => ?_, there⟩
      rcases List.mem_cons.mp member with rfl | later
      · exact passes
      · exact passed earlier later

end

/-! ### One field -/

theorem eqText_unhashable {value : Value} (unhashable : value.hashable = false) (text : String) :
    value.eqText text = false := by
  cases value <;> first | rfl | cases unhashable

/-- **A word field escapes at a list and at an object.** -/
theorem badEnum_escapes {field : String} {value : Value} :
    Escapes (badEnum field value) ↔ (enums field).isSome ∧ value.hashable = false := by
  unfold badEnum
  cases words : enums field with
  | none =>
      refine iff_of_false ?_ nofun
      exact not_escapes_bind (not_escapes_refuseIf _ _) fun _ _ =>
        not_escapes_bind (not_escapes_refuseIf _ _) fun _ _ => not_escapes_ok _
  | some allowed =>
      cases hashes : value.hashable with
      | true =>
          refine iff_of_false ?_ fun both => by cases both.2
          refine not_escapes_bind (not_escapes_refuseIf _ _) fun _ _ =>
            not_escapes_bind (not_escapes_refuseIf _ _) fun _ _ => ?_
          dsimp only
          split
          · unfold inWords
            rw [if_pos hashes]
            exact not_escapes_bind (not_escapes_ok _) fun _ _ => not_escapes_refuseIf _ _
          · exact not_escapes_ok _
      | false =>
          refine iff_of_true ?_ ⟨rfl, rfl⟩
          have noWord := eqText_unhashable hashes
          have notNone : value.isNone = false := by
            cases value <;> first | rfl | cases hashes
          rw [noWord, noWord, Bool.and_false, Bool.and_false, notNone]
          unfold inWords
          rw [hashes]
          exact ⟨.typeError, rfl⟩

theorem badNumber_not_escapes (field : String) (value : Value) : ¬ Escapes (badNumber field value) := by
  unfold badNumber
  exact not_escapes_bind (not_escapes_refuseIf _ _) fun _ _ =>
    not_escapes_bind (not_escapes_refuseIf _ _) fun _ _ => not_escapes_refuseIf _ _

theorem badMethodMode_not_escapes (method mode : Value) : ¬ Escapes (badMethodMode method mode) := by
  unfold badMethodMode
  exact not_escapes_bind (not_escapes_refuseIf _ _) fun _ _ =>
    not_escapes_bind (not_escapes_refuseIf _ _) fun _ _ => not_escapes_refuseIf _ _

/-! ### `responses` -/

/-- Does the entry of a method have no mode, or one that a method can have? -/
def modeAllowed (cfg : Value) : Bool :=
  match cfg with
  | .dict entries => (modeOf entries).isNone || perMethodModes.any fun word => (modeOf entries).eqText word
  | _ => true

/-- A `[[verb, template], cfg]` pair whose entry passes. -/
structure RoutePair (pair verb template cfg : Value) : Prop where
  shape : pair = .list [.list [verb, template], cfg]
  mode : modeAllowed cfg = true

/-- The pair passes. -/
def PairPasses (pair : Value) : Prop :=
  ∃ verb template cfg, RoutePair pair verb template cfg ∧ verb.hashable = true ∧ template.hashable = true

/-- The pair is well formed, but its verb or its template is a list or an object. -/
def PairEscapes (pair : Value) : Prop :=
  ∃ verb template cfg, RoutePair pair verb template cfg ∧ (verb.hashable = false ∨ template.hashable = false)

theorem badMethodMode_eq_ok (method : Value) (entries : List (Key × Value)) :
    badMethodMode method (modeOf entries) = .ok () ↔ modeAllowed (.dict entries) = true := by
  show _ ↔ ((modeOf entries).isNone || perMethodModes.any fun word => (modeOf entries).eqText word) = true
  unfold badMethodMode
  rw [refuseIf_bind_eq_ok, refuseIf_bind_eq_ok, refuseIf_eq_ok_iff]
  generalize modeOf entries = mode
  cases mode with
  | str word =>
      by_cases error : word = "error"
      · subst error
        decide
      · by_cases closed : word = "port_closed"
        · subst closed
          decide
        · simp [Value.eqText, Value.isNone, error, closed]
  | _ => simp [Value.eqText, Value.isNone]

theorem routePart_escapes {part : Value} : Escapes (routePart part) ↔ part.hashable = false := by
  cases part with
  | list items => exact iff_of_true ⟨_, rfl⟩ rfl
  | dict entries => exact iff_of_true ⟨_, rfl⟩ rfl
  | float value => cases value <;> exact iff_of_false nofun nofun
  | _ => exact iff_of_false nofun nofun

theorem routePart_eq_ok {part : Value} (hashes : part.hashable = true) : ∃ scalar, routePart part = .ok scalar := by
  rcases ok_or_refused (mt routePart_escapes.mp (by rw [hashes]; nofun)) with found | ⟨_, refused⟩
  · exact found
  · cases part with
    | float value => cases value <;> cases refused
    | _ => cases refused

theorem routePart_bind_escapes {part : Value} {next : Scalar → Ruled (Dict Key Value)} {Later : Prop}
    (later : ∀ scalar, Escapes (next scalar) ↔ Later) :
    Escapes (routePart part >>= next) ↔ part.hashable = false ∨ part.hashable = true ∧ Later := by
  rw [escapes_bind, routePart_escapes]
  cases hashes : part.hashable with
  | false => exact iff_of_true (.inl rfl) (.inl rfl)
  | true =>
      obtain ⟨scalar, read⟩ := routePart_eq_ok hashes
      refine or_congr_right ⟨?_, ?_⟩
      · rintro ⟨found, -, goes⟩
        exact ⟨rfl, (later found).mp goes⟩
      · rintro ⟨-, goes⟩
        exact ⟨scalar, read, (later scalar).mpr goes⟩

/-- The turn of the loop at a pair. -/
theorem routeTurn_escapes {verb template cfg : Value} {next : Scalar → Scalar → Ruled (Dict Key Value)} {Later : Prop}
    (later : ∀ first second, Escapes (next first second) ↔ Later) :
    Escapes (do
      match cfg with
      | .dict entries => badMethodMode (.list [verb, template]) (modeOf entries)
      | _ => pure ()
      let first ← routePart verb
      let second ← routePart template
      next first second) ↔
      PairEscapes (.list [.list [verb, template], cfg]) ∨ PairPasses (.list [.list [verb, template], cfg]) ∧ Later := by
  have pairEscapes : PairEscapes (.list [.list [verb, template], cfg]) ↔
      modeAllowed cfg = true ∧ (verb.hashable = false ∨ template.hashable = false) := by
    constructor
    · rintro ⟨_, _, _, ⟨shape, mode⟩, bad⟩
      cases shape
      exact ⟨mode, bad⟩
    · rintro ⟨mode, bad⟩
      exact ⟨verb, template, cfg, ⟨rfl, mode⟩, bad⟩
  have pairPasses : PairPasses (.list [.list [verb, template], cfg]) ↔
      modeAllowed cfg = true ∧ verb.hashable = true ∧ template.hashable = true := by
    constructor
    · rintro ⟨_, _, _, ⟨shape, mode⟩, good⟩
      cases shape
      exact ⟨mode, good⟩
    · rintro ⟨mode, good⟩
      exact ⟨verb, template, cfg, ⟨rfl, mode⟩, good⟩
  have parts : Escapes (do
      let first ← routePart verb
      let second ← routePart template
      next first second) ↔ verb.hashable = false ∨ verb.hashable = true ∧ (template.hashable = false ∨
        template.hashable = true ∧ Later) :=
    routePart_bind_escapes fun first => routePart_bind_escapes fun second => later first second
  have allowed : modeAllowed cfg = true → (Escapes (do
      let first ← routePart verb
      let second ← routePart template
      next first second) ↔ PairEscapes (.list [.list [verb, template], cfg]) ∨
        PairPasses (.list [.list [verb, template], cfg]) ∧ Later) := by
    intro mode
    rw [parts, pairEscapes, pairPasses, mode]
    cases verb.hashable <;> cases template.hashable <;> simp
  cases cfg with
  | dict entries =>
      dsimp only
      rcases ok_or_refused (badMethodMode_not_escapes (.list [verb, template]) (modeOf entries)) with
        ⟨_, passed⟩ | ⟨refusal, refused⟩
      · rw [passed, ok_bind]
        exact allowed ((badMethodMode_eq_ok _ entries).mp passed)
      · have other : ¬ modeAllowed (.dict entries) = true := fun mode => by
          rw [← badMethodMode_eq_ok (.list [verb, template]), refused] at mode
          cases mode
        rw [refused, pairEscapes, pairPasses]
        refine iff_of_false (not_escapes_refused _) ?_
        rintro (⟨mode, -⟩ | ⟨⟨mode, -⟩, -⟩)
        · exact other mode
        · exact other mode
  | _ => exact allowed rfl

/-- **The loop over the pairs escapes** at a verb or a template that is a list or an object. -/
theorem normaliseRoutes_escapes {pairs : List Value} {out : Dict Key Value} :
    Escapes (normaliseRoutes pairs out) ↔ GetsTo PairPasses PairEscapes pairs := by
  induction pairs generalizing out with
  | nil => exact iff_of_false nofun not_getsTo_nil
  | cons pair rest ih =>
      rw [getsTo_cons]
      have noPair : (∀ verb template cfg, pair ≠ .list [.list [verb, template], cfg]) →
          ¬ (PairEscapes pair ∨ PairPasses pair ∧ GetsTo PairPasses PairEscapes rest) := by
        rintro other (⟨verb, template, cfg, route, -⟩ | ⟨⟨verb, template, cfg, route, -⟩, -⟩)
        · exact other verb template cfg route.shape
        · exact other verb template cfg route.shape
      unfold normaliseRoutes
      split
      · next same => cases same
      · next _ _ verb template cfg others same =>
          cases same
          exact routeTurn_escapes fun _ _ => ih
      · next _ _ key cfg others shape same =>
          cases same
          refine iff_of_false (not_escapes_refused _) (noPair fun verb template cfg equal => ?_)
          cases equal
          exact shape _ _ rfl
      · next _ _ first others shape _ same =>
          cases same
          refine iff_of_false (not_escapes_refused _) (noPair fun verb template cfg equal => ?_)
          exact shape verb template cfg equal

theorem badCannedBody_not_escapes (method : String) (cfg : List (Key × Value)) :
    ¬ Escapes (badCannedBody method cfg) := by
  have status : ∀ key, ¬ Escapes (badCannedStatus method key cfg) := fun _ => not_escapes_refuseIf _ _
  unfold badCannedBody
  split
  · exact not_escapes_ok _
  · exact not_escapes_bind (not_escapes_refuseIf _ _) fun _ _ =>
      not_escapes_bind (not_escapes_refuseIf _ _) fun _ _ =>
        not_escapes_bind (status "status") fun _ _ => status "http_status"

theorem normaliseMethods_not_escapes (entries : List (Key × Value)) : ¬ Escapes (normaliseMethods entries) := by
  induction entries with
  | nil => exact not_escapes_ok _
  | cons item rest ih =>
      obtain ⟨key, cfg⟩ := item
      unfold normaliseMethods
      cases cfg with
      | dict cfg =>
          refine not_escapes_bind (badMethodMode_not_escapes _ _) fun _ _ => ?_
          cases key with
          | text method => exact not_escapes_bind (badCannedBody_not_escapes method cfg) fun _ _ => ih
          | pair verb template => exact ih
      | _ => exact ih

theorem normaliseResponses_escapes {value : Value} :
    Escapes (normaliseResponses value) ↔ ∃ pairs, value = .list pairs ∧ GetsTo PairPasses PairEscapes pairs := by
  cases value with
  | list pairs =>
      unfold normaliseResponses
      rw [escapes_bind, normaliseRoutes_escapes]
      constructor
      · rintro (here | ⟨out, -, never⟩)
        · exact ⟨pairs, rfl, here⟩
        · exact absurd never (not_escapes_ok _)
      · rintro ⟨_, same, here⟩
        cases same
        exact .inl here
  | dict entries =>
      refine iff_of_false ?_ (by rintro ⟨_, same, -⟩; cases same)
      exact not_escapes_bind (normaliseMethods_not_escapes entries) fun _ _ => not_escapes_ok _
  | _ => exact iff_of_false (not_escapes_refused _) (by rintro ⟨_, same, -⟩; cases same)

/-! ### The fields of a block -/

/-- Is the name one of a field of the scenario or of the quirks of the chain? -/
def isField (chain : Chain) (name : String) : Bool :=
  (ScenarioField.ofName name).isSome || (chain.quirksField name).isSome

/-- The field passes its rules. -/
def FieldPasses (chain : Chain) (item : String × Value) : Prop :=
  ∃ read, readField "" chain ⟨.empty, .empty⟩ item.1 item.2 = .ok read

/-- A field whose rules raise: a word field that is a list or an object, or a `responses` list with a pair whose
verb or template is one. -/
def FieldEscapes (chain : Chain) (item : String × Value) : Prop :=
  (item.1 = "responses" ∧ ∃ pairs, item.2 = .list pairs ∧ GetsTo PairPasses PairEscapes pairs) ∨
    (isField chain item.1 = true ∧ (enums item.1).isSome = true ∧ item.2.hashable = false)

section

variable {key : String} {chain : Chain} {updates : Updates} {name : String} {value : Value}

theorem readField_escapes : Escapes (readField key chain updates name value) ↔ FieldEscapes chain (name, value) := by
  unfold readField FieldEscapes isField
  split
  · next same =>
      subst same
      rw [escapes_bind, escapes_mapRefusal, normaliseResponses_escapes]
      constructor
      · rintro (here | ⟨_, -, never⟩)
        · exact .inl ⟨rfl, here⟩
        · exact absurd never (not_escapes_ok _)
      · rintro (⟨-, here⟩ | ⟨-, never, -⟩)
        · exact .inl here
        · cases never
  · next other =>
      split
      · next field found =>
          rw [escapes_bind, escapes_mapRefusal, badEnum_escapes]
          constructor
          · rintro (here | ⟨_, -, later⟩)
            · exact .inr ⟨by rw [found]; rfl, here⟩
            · refine absurd later (not_escapes_bind ?_ fun _ _ => not_escapes_ok _)
              exact mt escapes_mapRefusal.mp (badNumber_not_escapes _ _)
          · rintro (⟨same, -⟩ | ⟨-, here⟩)
            · exact absurd same other
            · exact .inl here
      · next unknown =>
          split
          · next field found =>
              rw [escapes_bind, escapes_mapRefusal, badEnum_escapes]
              constructor
              · rintro (here | ⟨_, -, later⟩)
                · exact .inr ⟨by rw [found, Bool.or_comm]; rfl, here⟩
                · exact absurd later (not_escapes_ok _)
              · rintro (⟨same, -⟩ | ⟨-, here⟩)
                · exact absurd same other
                · exact .inl here
          · next missing =>
              refine iff_of_false (not_escapes_refused _) ?_
              rintro (⟨same, -⟩ | ⟨known, -⟩)
              · exact other same
              · rw [unknown, missing] at known
                cases known

/-- Whether a field passes does not depend on the key, and not on the fields before it. -/
theorem readField_elsewhere {read : Updates} (passed : readField key chain updates name value = .ok read)
    (other : String) (before : Updates) : ∃ read, readField other chain before name value = .ok read := by
  have placed : ∀ {T : Type} {result : Ruled T} {found : T}, mapRefusal (ControlRefusal.rule key) result = .ok found →
      (mapRefusal (.rule other) result : Checked T) = .ok found := by
    intro T result found here
    rw [mapRefusal_eq_ok here]
    rfl
  unfold readField at passed ⊢
  split
  · next same =>
      rw [if_pos same] at passed
      obtain ⟨stored, normal, -⟩ := ok_of_bind passed
      rw [placed normal]
      exact ⟨_, rfl⟩
  · next different =>
      rw [if_neg different] at passed
      split at passed
      · next found =>
          obtain ⟨_, words, later⟩ := ok_of_bind passed
          obtain ⟨_, number, -⟩ := ok_of_bind later
          rw [placed words, ok_bind, placed number]
          exact ⟨_, rfl⟩
      · split at passed
        · next found =>
            obtain ⟨_, words, -⟩ := ok_of_bind passed
            rw [placed words]
            exact ⟨_, rfl⟩
        · cases passed

theorem readField_passes (key : String) (updates : Updates) :
    (∃ read, readField key chain updates name value = .ok read) ↔ FieldPasses chain (name, value) := by
  constructor
  · rintro ⟨read, passed⟩
    exact readField_elsewhere passed _ _
  · rintro ⟨read, passed⟩
    exact readField_elsewhere passed _ _

theorem readFields_escapes {members : List (String × Value)} :
    Escapes (readFields key chain members updates) ↔ GetsTo (FieldPasses chain) (FieldEscapes chain) members := by
  induction members generalizing updates with
  | nil => exact iff_of_false (not_escapes_ok _) not_getsTo_nil
  | cons item rest ih =>
      obtain ⟨name, value⟩ := item
      rw [getsTo_cons, ← readField_passes key updates]
      unfold readFields
      rw [escapes_bind, readField_escapes]
      refine or_congr_right ⟨?_, ?_⟩
      · rintro ⟨read, passed, later⟩
        exact ⟨⟨read, passed⟩, ih.mp later⟩
      · rintro ⟨⟨read, passed⟩, later⟩
        exact ⟨read, passed, ih.mpr later⟩

end

/-! ### The rules of a block -/

/-- The ports of a stored block can be members of a set. -/
def HashablePorts (values : Scenario) : Prop :=
  ∀ ports, values .ports = .list ports → ports.all Value.hashable = true

/-- A filter that the config classes do not refuse: null or a list. -/
theorem filters_of_not_refused {effective : Scenario} (kept : aFilterScenarioConfigRefuses effective = false) :
    (effective .transports = .none ∨ ∃ items, effective .transports = .list items) ∧
      (effective .ports = .none ∨ ∃ items, effective .ports = .list items) := by
  have shape : ∀ value : Value, (!value.isNone && !value.isList) = false → value = .none ∨ ∃ items, value = .list items := by
    intro value
    cases value with
    | none => exact fun _ => .inl rfl
    | list items => exact fun _ => .inr ⟨items, rfl⟩
    | _ => exact nofun
  unfold aFilterScenarioConfigRefuses at kept
  rw [Bool.or_eq_false_iff, Bool.or_eq_false_iff] at kept
  exact ⟨shape _ kept.1.1, shape _ kept.1.2⟩

theorem targets_of_not_refused {effective : Scenario} (kept : aFilterScenarioConfigRefuses effective = false)
    (endpoint : Endpoint) : ∃ targeted, targets effective endpoint = .ok targeted := by
  obtain ⟨transports, ports⟩ := filters_of_not_refused kept
  have transport : ∃ found, transportTargeted (effective .transports) endpoint = .ok found := by
    rcases transports with unset | ⟨items, listed⟩
    · rw [unset]
      exact ⟨true, rfl⟩
    · rw [listed]
      exact ⟨_, rfl⟩
  have port : ∃ found, portTargeted (effective .ports) endpoint = .ok found := by
    rcases ports with unset | ⟨items, listed⟩
    · rw [unset]
      exact ⟨true, rfl⟩
    · rw [listed]
      exact ⟨_, rfl⟩
  obtain ⟨found, read⟩ := transport
  obtain ⟨inPorts, portRead⟩ := port
  unfold targets
  rw [read]
  cases found with
  | true => exact ⟨inPorts, portRead⟩
  | false => exact ⟨false, rfl⟩

theorem anyWriterTargeted_of_not_refused {effective : Scenario}
    (kept : aFilterScenarioConfigRefuses effective = false) (field : ScenarioField) (endpoints : List Endpoint) :
    ∃ sent, anyWriterTargeted field effective endpoints = .ok sent := by
  induction endpoints with
  | nil => exact ⟨false, rfl⟩
  | cons endpoint rest ih =>
      obtain ⟨targeted, read⟩ := targets_of_not_refused kept endpoint
      unfold anyWriterTargeted
      split
      · rw [read, ok_bind]
        split
        · exact ⟨true, rfl⟩
        · exact ih
      · exact ih

theorem targetedEndpoints_of_not_refused {effective : Scenario}
    (kept : aFilterScenarioConfigRefuses effective = false) (endpoints : List Endpoint) :
    ∃ targeted, targetedEndpoints effective endpoints = .ok targeted := by
  induction endpoints with
  | nil => exact ⟨[], rfl⟩
  | cons endpoint rest ih =>
      obtain ⟨targeted, read⟩ := targets_of_not_refused kept endpoint
      obtain ⟨others, later⟩ := ih
      unfold targetedEndpoints
      rw [read, ok_bind, later]
      exact ⟨_, rfl⟩

theorem not_escapes_lift {Refusal T : Type} {result : Except PyError T} (gives : ∃ value, result = .ok value) :
    ¬ Escapes (lift result : Except (Raised Refusal) T) := by
  obtain ⟨value, rfl⟩ := gives
  exact not_escapes_ok value

section

variable {provider : Provider} {stored : Scenario} {updates : ScenarioUpdates}

theorem portsTheProviderDoesNotServe_not_escapes :
    ¬ Escapes (portsTheProviderDoesNotServe provider updates) := by
  unfold portsTheProviderDoesNotServe
  split
  · exact not_escapes_refuseIf _ _
  · exact not_escapes_ok _

/-- The ports that a block gives are served, and so they are numbers. -/
theorem served_hashable (served : portsTheProviderDoesNotServe provider updates = .ok ()) {ports : List Value}
    (given : updates.given .ports = .list ports) : ports.all Value.hashable = true := by
  unfold portsTheProviderDoesNotServe at served
  rw [given] at served
  have noneUnknown := refuseIf_eq_ok served
  rw [List.all_eq_true]
  intro port member
  by_contra unhashable
  have unknown : port ∈ ports.filter fun port => !(servedPorts provider).any fun served => port.eqInt served := by
    refine List.mem_filter.mpr ⟨member, ?_⟩
    cases port <;> first | exact absurd rfl unhashable | simp [Value.eqInt]
  simp only [Bool.not_eq_false', List.isEmpty_iff] at noneUnknown
  rw [noneUnknown] at unknown
  cases unknown

theorem aPauseNoNamedPortCanServe_not_escapes (hashable : HashablePorts stored)
    (served : portsTheProviderDoesNotServe provider updates = .ok ()) :
    ¬ Escapes (aPauseNoNamedPortCanServe provider stored updates) := by
  unfold aPauseNoNamedPortCanServe
  dsimp only
  split
  · next ports effective =>
      have all : ports.all Value.hashable = true := by
        rcases updates.over_given stored .ports with new | old
        · exact served_hashable served (new.symm.trans effective)
        · exact hashable ports (old.symm.trans effective)
      split
      · exact not_escapes_refuseIf _ _
      · exact not_escapes_ok _
  · exact not_escapes_ok _

theorem chosenMetadataNoEndpointCanSend_not_escapes (field : ScenarioField) :
    ¬ Escapes (chosenMetadataNoEndpointCanSend provider stored updates field) := by
  unfold chosenMetadataNoEndpointCanSend
  dsimp only
  split
  · next asked =>
      simp only [Bool.and_eq_true, Bool.not_eq_true'] at asked
      exact not_escapes_bind (not_escapes_lift (anyWriterTargeted_of_not_refused asked.2 field _)) fun _ _ =>
        not_escapes_refuseIf _ _
  · exact not_escapes_ok _

theorem aGraphqlFieldNoEndpointCanApply_not_escapes :
    ¬ Escapes (aGraphqlFieldNoEndpointCanApply provider updates) := by
  unfold aGraphqlFieldNoEndpointCanApply
  split
  · exact not_escapes_ok _
  · exact not_escapes_bind (not_escapes_refuseIf _ _) fun _ _ =>
      not_escapes_bind (not_escapes_refuseIf _ _) fun _ _ => not_escapes_refuseIf _ _

theorem aCannedBodyNoEndpointCanServe_not_escapes :
    ¬ Escapes (aCannedBodyNoEndpointCanServe provider updates) := by
  unfold aCannedBodyNoEndpointCanServe
  split
  · split
    · split
      · exact not_escapes_refused _
      · exact not_escapes_ok _
    · exact not_escapes_ok _
  · exact not_escapes_ok _

theorem aRequestFaultWithPortClosed_not_escapes (effective : Scenario) (fields : List ScenarioField) :
    ¬ Escapes (aRequestFaultWithPortClosed effective fields) := by
  induction fields with
  | nil => exact not_escapes_ok _
  | cons field rest ih => exact not_escapes_bind (not_escapes_refuseIf _ _) fun _ _ => ih

theorem aPortClosedThatCannotHappen_not_escapes (gated : ℕ → Bool) :
    ¬ Escapes (aPortClosedThatCannotHappen provider stored updates gated) := by
  unfold aPortClosedThatCannotHappen
  dsimp only
  split
  · next asked =>
      simp only [Bool.and_eq_true, Bool.not_eq_true'] at asked
      refine not_escapes_bind (not_escapes_lift (targetedEndpoints_of_not_refused asked.2 _)) fun targeted _ => ?_
      exact not_escapes_bind (not_escapes_refuseIf _ _) fun _ _ =>
        not_escapes_bind (not_escapes_refuseIf _ _) fun _ _ => aRequestFaultWithPortClosed_not_escapes _ _
  · exact not_escapes_ok _

/-- **The rules of a block never escape.** -/
theorem blockRules_not_escapes (hashable : HashablePorts stored) (gated : ℕ → Bool) :
    ¬ Escapes (blockRules provider stored updates gated) := by
  unfold blockRules
  refine not_escapes_bind portsTheProviderDoesNotServe_not_escapes fun _ served => ?_
  refine not_escapes_bind (aPauseNoNamedPortCanServe_not_escapes hashable served) fun _ _ => ?_
  refine not_escapes_bind (chosenMetadataNoEndpointCanSend_not_escapes _) fun _ _ => ?_
  refine not_escapes_bind (chosenMetadataNoEndpointCanSend_not_escapes _) fun _ _ => ?_
  refine not_escapes_bind (not_escapes_refuseIf _ _) fun _ _ => ?_
  refine not_escapes_bind (not_escapes_refuseIf _ _) fun _ _ => ?_
  refine not_escapes_bind aGraphqlFieldNoEndpointCanApply_not_escapes fun _ _ => ?_
  refine not_escapes_bind aCannedBodyNoEndpointCanServe_not_escapes fun _ _ => ?_
  exact aPortClosedThatCannotHappen_not_escapes gated

end

/-! ### The rules of the config classes -/

/-- The values that cannot be iterated over, null apart: a number and a Boolean. -/
def isNumber : Value → Bool
  | .bool _ => true
  | .int _ => true
  | .float _ => true
  | _ => false

section

variable {cfg : ScenarioUpdates}

theorem validateTransports_escapes : Escapes (validateTransports cfg) ↔ isNumber (cfg.given .transports) = true := by
  have refused : ∀ items : List Value, ¬ Escapes (do
      let items ← (lift (Except.ok items) : Except (Raised ScenarioRefusal) (List Value))
      let bad := items.filter fun item => !isTransport item
      refuseIf (!bad.isEmpty) (.unknownTransports bad)) := fun _ => not_escapes_refuseIf _ _
  unfold validateTransports
  cases cfg.given .transports with
  | none => exact iff_of_false (not_escapes_ok _) nofun
  | str text => exact iff_of_false (refused _) nofun
  | list items => exact iff_of_false (refused _) nofun
  | dict entries => exact iff_of_false (refused _) nofun
  | bool value => exact iff_of_true ⟨_, rfl⟩ rfl
  | int value => exact iff_of_true ⟨_, rfl⟩ rfl
  | float value => exact iff_of_true ⟨_, rfl⟩ rfl

theorem validatePorts_not_escapes : ¬ Escapes (validatePorts cfg) := by
  unfold validatePorts
  split
  · exact not_escapes_ok _
  · exact not_escapes_bind (not_escapes_refuseIf _ _) fun _ _ => not_escapes_refuseIf _ _
  · exact not_escapes_refused _

/-- A `transports` value that passed can be searched. -/
theorem contains_of_valid (valid : validateTransports cfg = .ok ()) (given : (cfg.given .transports).isNone = false)
    (text : String) : ∃ found, (cfg.given .transports).contains text = .ok found := by
  rcases validateTransports_eq_ok valid with unset | ⟨items, iterated, -⟩
  · rw [unset] at given
    cases given
  · exact contains_of_iterate text iterated

theorem validatePause_not_escapes (valid : validateTransports cfg = .ok ()) : ¬ Escapes (validatePause cfg) := by
  unfold validatePause
  refine not_escapes_bind (not_escapes_refuseIf _ _) fun _ _ => ?_
  dsimp only
  split
  · next asked =>
      simp only [Bool.and_eq_true, Bool.not_eq_true'] at asked
      refine not_escapes_bind (not_escapes_lift (contains_of_valid valid asked.2 "http")) fun _ _ => ?_
      exact not_escapes_bind (not_escapes_refuseIf _ _) fun _ _ => not_escapes_refuseIf _ _
  · exact not_escapes_refuseIf _ _

theorem validateUnreadableReply_not_escapes : ¬ Escapes (validateUnreadableReply cfg) := by
  unfold validateUnreadableReply
  split
  · exact not_escapes_ok _
  · exact not_escapes_refuseIf _ _

theorem validateChosenEntry_not_escapes (field : ScenarioField) (seen : List String) (key : Key) (value : Value) :
    ¬ Escapes (validateChosenEntry field seen key value) := by
  unfold validateChosenEntry
  cases key with
  | pair verb template => exact not_escapes_refused _
  | text text =>
      refine not_escapes_bind (not_escapes_refuseIf _ _) fun _ _ => ?_
      cases value with
      | str content =>
          refine not_escapes_bind (not_escapes_ok _) fun _ _ => ?_
          refine not_escapes_bind (not_escapes_refuseIf _ _) fun _ _ => ?_
          refine not_escapes_bind (not_escapes_refuseIf _ _) fun _ _ => ?_
          refine not_escapes_bind (not_escapes_refuseIf _ _) fun _ _ => ?_
          refine not_escapes_bind (not_escapes_refuseIf _ _) fun _ _ => ?_
          refine not_escapes_bind (not_escapes_refuseIf _ _) fun _ _ => ?_
          exact not_escapes_bind (not_escapes_refuseIf _ _) fun _ _ => not_escapes_ok _
      | _ => exact not_escapes_bind (not_escapes_refused _) fun _ passed => by cases passed

theorem validateChosenEntries_not_escapes (field : ScenarioField) (entries : List (Key × Value))
    (seen : List String) : ¬ Escapes (validateChosenEntries field entries seen) := by
  induction entries generalizing seen with
  | nil => exact not_escapes_ok _
  | cons item rest ih =>
      exact not_escapes_bind (validateChosenEntry_not_escapes field seen _ _) fun lowered _ => ih _

theorem validateChosen_not_escapes (valid : validateTransports cfg = .ok ()) (field : ScenarioField) :
    ¬ Escapes (validateChosen cfg field) := by
  unfold validateChosen
  split
  · exact not_escapes_ok _
  · refine not_escapes_bind (validateChosenEntries_not_escapes field _ _) fun _ _ => ?_
    dsimp only
    split
    · next asked =>
        simp only [Bool.and_eq_true, Bool.not_eq_true'] at asked
        exact not_escapes_bind (not_escapes_lift (contains_of_valid valid asked.2 "http2")) fun _ _ =>
          not_escapes_refuseIf _ _
    · exact not_escapes_ok _
  · exact not_escapes_refused _

/-- **The rules of a scenario escape at `transports` only.** -/
theorem validate_escapes : Escapes (validate cfg) ↔ isNumber (cfg.given .transports) = true := by
  unfold validate
  rw [escapes_bind, validateTransports_escapes]
  refine or_iff_left ?_
  rintro ⟨_, valid, later⟩
  revert later
  refine not_escapes_bind validatePorts_not_escapes fun _ _ => ?_
  refine not_escapes_bind (validatePause_not_escapes valid) fun _ _ => ?_
  refine not_escapes_bind (not_escapes_refuseIf _ _) fun _ _ => ?_
  refine not_escapes_bind validateUnreadableReply_not_escapes fun _ _ => ?_
  exact not_escapes_bind (validateChosen_not_escapes valid _) fun _ _ => validateChosen_not_escapes valid _

theorem validateQuirks_not_escapes (quirks : QuirksUpdates) (chain : Chain) :
    ¬ Escapes (validateQuirks quirks chain) := by
  have text : ∀ field, ¬ Escapes (validateQuirksText quirks field) := by
    intro field
    unfold validateQuirksText
    split
    · exact not_escapes_refuseIf _ _
    · exact not_escapes_ok _
  unfold validateQuirks
  split
  · refine not_escapes_bind (text _) fun _ _ => not_escapes_bind (text _) fun _ _ => ?_
    dsimp only
    cases quirks.items.get .transactionIndexLagMs with
    | none =>
        split
        · exact not_escapes_bind (not_escapes_refuseIf _ _) fun _ _ => not_escapes_ok _
        · exact not_escapes_ok _
    | some lag =>
        split
        · exact not_escapes_bind (not_escapes_refuseIf _ _) fun _ _ => not_escapes_refuseIf _ _
        · exact not_escapes_refuseIf _ _
  · exact not_escapes_ok _

end

end ProviderSimulator.Control
