/-
**The keys of a projection.**

* `Pick` and `picks` — the included fields of an expansion: the response key, the value of the stub, and what is below;
* `fillTree_picks` — the dict of an expansion has what its included fields put there, one after the other (`putAll`);
* `Follows` — at every dict of a value, the keys are the response keys of the included fields that are selected there;
  `follows_of_projected` — the value of an expansion is such;
* `error_of_projected` — there is no value only where a directive raises;
* `flat_plain` — the expanded selection set holds fields only, with no directive.
-/

import Mathlib.Tactic.Common
import ProviderSimulator.Graphql.Project

namespace ProviderSimulator.GraphqlDocument

open ProviderSimulator.Lib ProviderSimulator.Python

/-! ### Included fields -/

/-- An included field: its response key, its value in the stub and what is below it. -/
structure Pick where
  key : String
  stub : Value
  below : Option (Expanded Selection)

section

variable (library : Library) (variableValues : Dict String Value)

/-- The included fields of a selection. -/
def picksAt (stub : List (Key × Value)) (selection : Selection) (below : Option (Expanded Selection))
    (inner : Except PyError (List Pick)) : Except PyError (List Pick) := do
  if ← isIncluded library variableValues selection.directives then
    match selection with
    | .field name aliasName _ _ _ =>
        pure [⟨aliasName.getD name, (Dict.get stub (.text name)).getD .none, below⟩]
    | .inlineFragment _ _ => inner
    | .fragmentSpread _ _ => inner
  else pure []

/-- The included fields of an expansion, in order. -/
def picks : Expanded Selection → List (Key × Value) → Except PyError (List Pick)
  | .nil, _ => .ok []
  | .leaf selection rest, stub => do
      let first ← picksAt library variableValues stub selection none (.ok [])
      let others ← picks rest stub
      pure (first ++ others)
  | .nest selection inner rest, stub => do
      let first ← picksAt library variableValues stub selection (some inner) (picks inner stub)
      let others ← picks rest stub
      pure (first ++ others)

/-- Put the values of fields into a dict, one after the other. -/
def putAll : List Pick → List (Key × Value) → Except PyError (List (Key × Value))
  | [], shaped => .ok shaped
  | pick :: rest, shaped => do
      let value ← projected library variableValues pick.stub pick.below
      putAll rest (Dict.set shaped (.text pick.key) value)

end

section

variable {library : Library} {variableValues : Dict String Value}

theorem putAll_append (first second : List Pick) (shaped : List (Key × Value)) :
    putAll library variableValues (first ++ second) shaped =
      putAll library variableValues first shaped >>= putAll library variableValues second := by
  induction first generalizing shaped with
  | nil => rfl
  | cons pick rest ih =>
      rw [List.cons_append, putAll, putAll, bind_assoc]
      congr 1
      funext value
      exact ih _

/-- What one selection puts there are the values of its included fields. -/
theorem placeAt_picks (below : Option (Expanded Selection)) {stub : List (Key × Value)} {selection : Selection}
    {beneath : List (Key × Value) → Except PyError (List (Key × Value))} {inner : Except PyError (List Pick)}
    {shaped result : List (Key × Value)}
    (fills : ∀ {filled}, beneath shaped = .ok filled → ∃ found, inner = .ok found ∧
      putAll library variableValues found shaped = .ok filled)
    (gave : placeAt library variableValues stub selection (projected library variableValues · below) beneath shaped =
      .ok result) :
    ∃ found, picksAt library variableValues stub selection below inner = .ok found ∧
      putAll library variableValues found shaped = .ok result := by
  obtain ⟨included, found, rest⟩ := ok_of_bind gave
  unfold picksAt
  rw [found, ok_bind]
  cases included with
  | false =>
      cases rest
      exact ⟨[], rfl, rfl⟩
  | true =>
      cases selection with
      | field name aliasName arguments directives selectionSet =>
          obtain ⟨value, shapes, last⟩ := ok_of_bind rest
          refine ⟨_, rfl, ?_⟩
          dsimp only at shapes
          rw [putAll, shapes, ok_bind]
          exact last
      | inlineFragment directives selectionSet => exact fills rest
      | fragmentSpread name directives => exact fills rest

/-- **The dict of an expansion has what its included fields put there.** -/
theorem fillTree_picks (expanded : Expanded Selection) (stub : List (Key × Value)) {shaped result : List (Key × Value)}
    (gave : fillTree library variableValues expanded stub shaped = .ok result) :
    ∃ found, picks library variableValues expanded stub = .ok found ∧
      putAll library variableValues found shaped = .ok result := by
  induction expanded generalizing stub shaped result with
  | nil => exact ⟨[], rfl, gave⟩
  | leaf selection rest ih =>
      obtain ⟨between, first, later⟩ := ok_of_bind gave
      obtain ⟨here, isHere, puts⟩ := placeAt_picks none (fun same => ⟨[], rfl, same⟩) first
      obtain ⟨others, areOthers, more⟩ := ih stub later
      refine ⟨here ++ others, ?_, ?_⟩
      · rw [picks, isHere, ok_bind, areOthers]
        rfl
      · rw [putAll_append, puts, ok_bind, more]
  | nest selection inner rest ihInner ih =>
      obtain ⟨between, first, later⟩ := ok_of_bind gave
      obtain ⟨here, isHere, puts⟩ := placeAt_picks (some inner) (ihInner stub) first
      obtain ⟨others, areOthers, more⟩ := ih stub later
      refine ⟨here ++ others, ?_, ?_⟩
      · rw [picks, isHere, ok_bind, areOthers]
        rfl
      · rw [putAll_append, puts, ok_bind, more]

end

/-! ### Keys -/

/-- The last field with a response key. -/
def lastPick : List Pick → String → Option Pick
  | [], _ => none
  | pick :: rest, key =>
      match lastPick rest key with
      | some later => some later
      | none => if pick.key = key then some pick else none

theorem lastPick_mem {found : List Pick} {key : String} {pick : Pick} (last : lastPick found key = some pick) :
    pick ∈ found ∧ pick.key = key := by
  induction found with
  | nil => cases last
  | cons first rest ih =>
      unfold lastPick at last
      split at last
      · next later is =>
          cases last
          exact ⟨List.mem_cons_of_mem _ (ih is).1, (ih is).2⟩
      · split at last
        · next same =>
            cases last
            exact ⟨List.mem_cons_self, same⟩
        · cases last

theorem exists_lastPick {found : List Pick} {pick : Pick} (member : pick ∈ found) :
    ∃ last, lastPick found pick.key = some last := by
  induction found with
  | nil => cases member
  | cons first rest ih =>
      unfold lastPick
      split
      · next later _ => exact ⟨later, rfl⟩
      · next none =>
          rcases List.mem_cons.mp member with rfl | inside
          · exact ⟨pick, if_pos rfl⟩
          · obtain ⟨last, is⟩ := ih inside
            cases none.symm.trans is

section

variable {library : Library} {variableValues : Dict String Value} {found : List Pick} {shaped result : List (Key × Value)}
  (gave : putAll library variableValues found shaped = .ok result)

include gave

theorem putAll_nodup (distinct : (Dict.keys shaped).Nodup) : (Dict.keys result).Nodup := by
  induction found generalizing shaped with
  | nil =>
      cases gave
      exact distinct
  | cons pick rest ih =>
      obtain ⟨value, -, later⟩ := ok_of_bind gave
      exact ih later (Dict.keys_set_nodup distinct _ _)

theorem mem_keys_putAll (key : Key) :
    key ∈ Dict.keys result ↔ key ∈ Dict.keys shaped ∨ ∃ pick ∈ found, key = .text pick.key := by
  induction found generalizing shaped with
  | nil =>
      cases gave
      simp
  | cons pick rest ih =>
      obtain ⟨value, -, later⟩ := ok_of_bind gave
      rw [ih later, Dict.keys_set]
      simp only [List.mem_cons, exists_eq_or_imp]
      split
      · next there =>
          constructor
          · rintro (before | found)
            · exact .inl before
            · exact .inr (.inr found)
          · rintro (before | rfl | found)
            · exact .inl before
            · exact .inl there
            · exact .inr found
      · rw [List.mem_append, List.mem_singleton, or_assoc]

/-- **Under a response key is the value of the last field with it.** -/
theorem get_putAll {key : String} {pick : Pick} (last : lastPick found key = some pick) :
    ∃ value, projected library variableValues pick.stub pick.below = .ok value ∧
      Dict.get result (.text key) = some value := by
  -- A key that no later field has is left as it is.
  have kept : ∀ {found : List Pick} {shaped : List (Key × Value)},
      putAll library variableValues found shaped = .ok result → lastPick found key = none →
      Dict.get result (.text key) = Dict.get shaped (.text key) := by
    intro found
    induction found with
    | nil =>
        intro shaped gave _
        cases gave
        rfl
    | cons first rest ih =>
        intro shaped gave none
        obtain ⟨value, -, later⟩ := ok_of_bind gave
        unfold lastPick at none
        split at none
        · cases none
        · next noLater =>
            split at none
            · cases none
            · next other =>
                rw [ih later noLater, Dict.get_set, if_neg fun same => other (Key.text.inj same)]
  induction found generalizing shaped with
  | nil => cases last
  | cons first rest ih =>
      obtain ⟨value, shapes, later⟩ := ok_of_bind gave
      unfold lastPick at last
      split at last
      · next is =>
          cases last
          exact ih later is
      · next noLater =>
          split at last
          · next same =>
              cases last
              refine ⟨value, shapes, ?_⟩
              rw [kept later noLater, same, Dict.get_set_self]
          · cases last

end

section

variable (library : Library) (variableValues : Dict String Value)

/-- The value follows the expansion. It is the stub itself below a leaf and for a scalar, a list is followed item by
item, and a dict has exactly the response keys of the included fields, each with a value that follows such a field. -/
inductive Follows : Value → Option (Expanded Selection) → Value → Prop
  | leaf {stub : Value} : Follows stub none stub
  | scalar {stub : Value} {expanded : Expanded Selection} : stub.isList = false → stub.isDict = false →
      Follows stub (some expanded) stub
  | list {items shaped : List Value} {expanded : Expanded Selection} : items.length = shaped.length →
      (∀ pair ∈ items.zip shaped, Follows pair.1 (some expanded) pair.2) →
      Follows (.list items) (some expanded) (.list shaped)
  | dict {stub shaped : List (Key × Value)} {expanded : Expanded Selection} {found : List Pick}
      (source : Key × Value → Pick) : picks library variableValues expanded stub = .ok found →
      (∀ key, key ∈ Dict.keys shaped ↔ ∃ pick ∈ found, key = .text pick.key) →
      (∀ entry ∈ shaped, source entry ∈ found ∧ entry.1 = .text (source entry).key) →
      (∀ entry ∈ shaped, Follows (source entry).stub (source entry).below entry.2) →
      Follows (.dict stub) (some expanded) (.dict shaped)

end

section

variable {library : Library} {variableValues : Dict String Value}

/-- An included field of a selection is the selection itself, or stands below it. -/
theorem mem_picksAt {stub : List (Key × Value)} {selection : Selection} {below : Option (Expanded Selection)}
    {inner : Except PyError (List Pick)} {found : List Pick}
    (are : picksAt library variableValues stub selection below inner = .ok found) {pick : Pick} (member : pick ∈ found) :
    pick.below = below ∨ ∃ inside, inner = .ok inside ∧ pick ∈ inside := by
  obtain ⟨included, -, rest⟩ := ok_of_bind are
  cases included with
  | false =>
      cases rest
      cases member
  | true =>
      cases selection with
      | field name aliasName arguments directives selectionSet =>
          cases rest
          rw [List.mem_singleton.mp member]
          exact .inl rfl
      | inlineFragment directives selectionSet => exact .inr ⟨found, rest, member⟩
      | fragmentSpread name directives => exact .inr ⟨found, rest, member⟩

/-- What is below an included field is smaller than the expansion. -/
theorem nodes_of_mem_picks {expanded : Expanded Selection} {stub : List (Key × Value)} {found : List Pick}
    (are : picks library variableValues expanded stub = .ok found) {pick : Pick} (member : pick ∈ found)
    {inner : Expanded Selection} (below : pick.below = some inner) : inner.nodes < expanded.nodes := by
  induction expanded generalizing found with
  | nil =>
      cases are
      cases member
  | leaf selection rest ih =>
      obtain ⟨here, areHere, later⟩ := ok_of_bind are
      obtain ⟨others, areOthers, whole⟩ := ok_of_bind later
      cases whole
      rw [Expanded.nodes]
      rcases List.mem_append.mp member with inHere | inOthers
      · rcases mem_picksAt areHere inHere with none | ⟨inside, same, member⟩
        · cases none.symm.trans below
        · cases same
          cases member
      · have smaller := ih areOthers inOthers
        omega
  | nest selection nested rest ihNested ih =>
      obtain ⟨here, areHere, later⟩ := ok_of_bind are
      obtain ⟨others, areOthers, whole⟩ := ok_of_bind later
      cases whole
      rw [Expanded.nodes]
      rcases List.mem_append.mp member with inHere | inOthers
      · rcases mem_picksAt areHere inHere with same | ⟨inside, same, member⟩
        · cases same.symm.trans below
          omega
        · have smaller := ihNested same member
          omega
      · have smaller := ih areOthers inOthers
        omega

/-- A dict that is filled follows the expansion, where what is below its fields does. -/
theorem follows_dict {expanded : Expanded Selection} {stub shaped : List (Key × Value)}
    (gave : fillTree library variableValues expanded stub [] = .ok shaped)
    (inner : ∀ {found pick value}, picks library variableValues expanded stub = .ok found → pick ∈ found →
      projected library variableValues pick.stub pick.below = .ok value →
      Follows library variableValues pick.stub pick.below value) :
    Follows library variableValues (.dict stub) (some expanded) (.dict shaped) := by
  obtain ⟨found, are, puts⟩ := fillTree_picks expanded stub gave
  have keys : ∀ key, key ∈ Dict.keys shaped ↔ ∃ pick ∈ found, key = .text pick.key := by
    intro key
    rw [mem_keys_putAll puts]
    simp
  have sources : ∀ entry ∈ shaped, ∃ pick ∈ found, entry.1 = .text pick.key ∧
      projected library variableValues pick.stub pick.below = .ok entry.2 := by
    intro entry member
    obtain ⟨pick, inside, same⟩ := (keys entry.1).mp (List.mem_map_of_mem member)
    obtain ⟨last, isLast⟩ := exists_lastPick inside
    obtain ⟨value, shapes, held⟩ := get_putAll puts isLast
    have there : Dict.get shaped entry.1 = some entry.2 :=
      Dict.get_of_mem (putAll_nodup puts List.nodup_nil) member
    rw [same] at there
    cases held.symm.trans there
    obtain ⟨lastInside, lastKey⟩ := lastPick_mem isLast
    exact ⟨last, lastInside, by rw [same, lastKey], shapes⟩
  classical
  refine .dict (fun entry => if member : entry ∈ shaped then (sources entry member).choose else ⟨"", .none, none⟩) are
    keys (fun entry member => ?_) fun entry member => ?_
  · rw [dif_pos member]
    obtain ⟨inside, same, -⟩ := (sources entry member).choose_spec
    exact ⟨inside, same⟩
  · rw [dif_pos member]
    obtain ⟨inside, -, shapes⟩ := (sources entry member).choose_spec
    exact inner are inside shapes

section

variable {expanded : Expanded Selection}

mutual

/-- A value follows the expansion, where its dicts do. -/
theorem follows_shape (dicts : ∀ {stub shaped}, fillTree library variableValues expanded stub [] = .ok shaped →
      Follows library variableValues (.dict stub) (some expanded) (.dict shaped)) (stub : Value) {value : Value}
    (gave : shapeWith (fun entries => fillTree library variableValues expanded entries []) stub = .ok value) :
    Follows library variableValues stub (some expanded) value := by
  cases stub with
  | list items =>
      obtain ⟨shaped, shapes, whole⟩ := ok_of_bind gave
      cases whole
      obtain ⟨size, each⟩ := follows_items dicts items shapes
      exact .list size each
  | dict entries =>
      obtain ⟨shaped, fills, whole⟩ := ok_of_bind gave
      cases whole
      exact dicts fills
  | none =>
      cases gave
      exact .scalar rfl rfl
  | bool flag =>
      cases gave
      exact .scalar rfl rfl
  | int number =>
      cases gave
      exact .scalar rfl rfl
  | float number =>
      cases gave
      exact .scalar rfl rfl
  | str text =>
      cases gave
      exact .scalar rfl rfl

theorem follows_items (dicts : ∀ {stub shaped}, fillTree library variableValues expanded stub [] = .ok shaped →
      Follows library variableValues (.dict stub) (some expanded) (.dict shaped)) (items : List Value)
    {shaped : List Value}
    (gave : shapeItems (fun entries => fillTree library variableValues expanded entries []) items = .ok shaped) :
    items.length = shaped.length ∧
      ∀ pair ∈ items.zip shaped, Follows library variableValues pair.1 (some expanded) pair.2 := by
  cases items with
  | nil =>
      cases gave
      exact ⟨rfl, nofun⟩
  | cons item rest =>
      obtain ⟨first, shapes, later⟩ := ok_of_bind gave
      obtain ⟨others, more, whole⟩ := ok_of_bind later
      cases whole
      obtain ⟨size, each⟩ := follows_items dicts rest more
      refine ⟨congrArg Nat.succ size, fun pair member => ?_⟩
      rcases List.mem_cons.mp member with rfl | inside
      · exact follows_shape dicts item shapes
      · exact each pair inside

end

end

/-- **The value of an expansion follows it**, by induction on the number of its nodes. -/
theorem follows_of_projected (stub : Value) (expanded : Option (Expanded Selection)) {value : Value}
    (gave : projected library variableValues stub expanded = .ok value) :
    Follows library variableValues stub expanded value := by
  cases expanded with
  | none =>
      cases gave
      exact .leaf
  | some expanded =>
      induction size : expanded.nodes using Nat.strong_induction_on generalizing expanded stub value with
      | _ count ih =>
          refine follows_shape (fun fills => follows_dict fills fun are member shapes => ?_) stub gave
          rename_i found pick inner
          cases below : pick.below with
          | none =>
              rw [below] at shapes
              cases shapes
              exact .leaf
          | some inside =>
              rw [below] at shapes
              exact ih inside.nodes (size ▸ nodes_of_mem_picks are member below) pick.stub inside shapes rfl

/-! ### Exceptions -/

section

variable {filled : List (Key × Value) → Except PyError (List (Key × Value))} {error : PyError} {P : Prop}

mutual

/-- A value that cannot be shaped holds a dict that cannot be filled. -/
theorem error_of_shapeWith (fails : ∀ {entries}, filled entries = .error error → P) (stub : Value)
    (gave : shapeWith filled stub = .error error) : P := by
  cases stub with
  | list items =>
      rcases error_of_bind gave with shapes | ⟨shaped, -, whole⟩
      · exact error_of_shapeItems fails items shapes
      · cases whole
  | dict entries =>
      rcases error_of_bind gave with fills | ⟨shaped, -, whole⟩
      · exact fails fills
      · cases whole
  | none => cases gave
  | bool flag => cases gave
  | int number => cases gave
  | float number => cases gave
  | str text => cases gave

theorem error_of_shapeItems (fails : ∀ {entries}, filled entries = .error error → P) (items : List Value)
    (gave : shapeItems filled items = .error error) : P := by
  cases items with
  | nil => cases gave
  | cons item rest =>
      rcases error_of_bind gave with shapes | ⟨first, -, later⟩
      · exact error_of_shapeWith fails item shapes
      · rcases error_of_bind later with more | ⟨others, -, whole⟩
        · exact error_of_shapeItems fails rest more
        · cases whole

end

end

/-- The directives of a selection of the expansion raise the exception. -/
def RaisesIn (library : Library) (variableValues : Dict String Value) (error : PyError) : Expanded Selection → Prop
  | .nil => False
  | .leaf selection rest =>
      isIncluded library variableValues selection.directives = .error error ∨ RaisesIn library variableValues error rest
  | .nest selection inner rest =>
      isIncluded library variableValues selection.directives = .error error ∨
        RaisesIn library variableValues error inner ∨ RaisesIn library variableValues error rest

section

variable {error : PyError}

theorem error_of_placeAt {stub shaped : List (Key × Value)} {selection : Selection}
    {shape : Value → Except PyError Value} {below : List (Key × Value) → Except PyError (List (Key × Value))} {P : Prop}
    (raises : isIncluded library variableValues selection.directives = .error error → P)
    (shapes : ∀ {value}, shape value = .error error → P) (fills : below shaped = .error error → P)
    (gave : placeAt library variableValues stub selection shape below shaped = .error error) : P := by
  rcases error_of_bind gave with directive | ⟨included, -, later⟩
  · exact raises directive
  · cases included with
    | false => cases later
    | true =>
        cases selection with
        | field name aliasName arguments directives selectionSet =>
            rcases error_of_bind later with value | ⟨value, -, whole⟩
            · exact shapes value
            · cases whole
        | inlineFragment directives selectionSet => exact fills later
        | fragmentSpread name directives => exact fills later

/-- A dict that cannot be filled has a directive that raises. -/
theorem error_of_fillTree (expanded : Expanded Selection) {stub shaped : List (Key × Value)}
    (gave : fillTree library variableValues expanded stub shaped = .error error) :
    RaisesIn library variableValues error expanded := by
  induction expanded generalizing stub shaped with
  | nil => cases gave
  | leaf selection rest ih =>
      rcases error_of_bind gave with first | ⟨between, -, later⟩
      · refine error_of_placeAt .inl ?_ ?_ first
        · nofun
        · nofun
      · exact .inr (ih later)
  | nest selection inner rest ihInner ih =>
      rcases error_of_bind gave with first | ⟨between, -, later⟩
      · have inside {stub shaped} (failed : fillTree library variableValues inner stub shaped = .error error) :
            RaisesIn library variableValues error (.nest selection inner rest) := .inr (.inl (ihInner failed))
        exact error_of_placeAt .inl (error_of_shapeWith inside _) inside first
      · exact .inr (.inr (ih later))

/-- **A projection fails only where a directive raises.** -/
theorem error_of_projected {stub : Value} {expanded : Option (Expanded Selection)}
    (gave : projected library variableValues stub expanded = .error error) :
    ∃ inner, expanded = some inner ∧ RaisesIn library variableValues error inner := by
  cases expanded with
  | none => cases gave
  | some inner => exact ⟨inner, rfl, error_of_shapeWith (error_of_fillTree inner) stub gave⟩

end

end

/-! ### Plain selection sets -/

/-- The selection set holds fields only, with no directive, at every depth. -/
inductive Plain : List Selection → Prop
  | nil : Plain []
  | leaf {name : String} {aliasName : Option String} {arguments : List (String × Node)} {rest : List Selection} :
      Plain rest → Plain (.field name aliasName arguments [] none :: rest)
  | nest {name : String} {aliasName : Option String} {arguments : List (String × Node)} {inner rest : List Selection} :
      Plain inner → Plain rest → Plain (.field name aliasName arguments [] (some inner) :: rest)

theorem Plain.append {first second : List Selection} (plain : Plain first) (others : Plain second) :
    Plain (first ++ second) := by
  induction plain with
  | nil => exact others
  | leaf _ ih => exact .leaf ih
  | nest inner _ _ ih => exact .nest inner ih

section

variable {library : Library} {variableValues : Dict String Value}

theorem kept_plain {selection : Selection} {below : List Selection} (plain : Plain below)
    (quiet : ∀ error, isIncluded library variableValues selection.directives ≠ .error error) :
    Plain (kept library variableValues selection below) := by
  unfold kept
  split
  · split
    · next selectionSet _ =>
        cases selectionSet with
        | none => exact .leaf .nil
        | some items => exact .nest plain .nil
    · exact plain
    · exact plain
  · exact .nil
  · next error raises => exact absurd raises (quiet error)

/-- **The expanded selection set holds no fragment and no directive**, where no directive raises. -/
theorem flat_plain (expanded : Expanded Selection)
    (quiet : ∀ error, ¬ RaisesIn library variableValues error expanded) :
    Plain (flat library variableValues expanded) := by
  induction expanded with
  | nil => exact .nil
  | leaf selection rest ih =>
      have first := kept_plain Plain.nil fun error raises => quiet error (.inl raises)
      exact first.append (ih fun error raises => quiet error (.inr raises))
  | nest selection inner rest ihInner ih =>
      have below := ihInner fun error raises => quiet error (.inr (.inl raises))
      have first := kept_plain below fun error raises => quiet error (.inl raises)
      exact first.append (ih fun error raises => quiet error (.inr (.inr raises)))

end

end ProviderSimulator.GraphqlDocument
