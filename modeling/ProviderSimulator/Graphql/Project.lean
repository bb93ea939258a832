/-
**Shaping a stub by a selection set.**

`project` shapes a value by the selection set of a field, and `fill` puts the fields of a selection set into a dict,
those of its fragments among them. The two call one another, and neither remembers which fragment it is in. They get
the number of calls inside one another that the interpreter has room for.

* `projected` — the value that a selection set with its fragments in their places gives, by recursion on the
  expansion and on the stub;
* `fillEach_settles` and `project_settles` — with room enough, `project` gives this value;
* `flat` — the selection set with every fragment expanded in place and every removed selection deleted;
  `fillEach_flat_settles` — it gives the same value.
-/

import Mathlib.Tactic.Common
import ProviderSimulator.Graphql.Limits

namespace ProviderSimulator.GraphqlDocument

open ProviderSimulator.Lib ProviderSimulator.Python

/-! ### The code -/

section

variable (library : Library) (request : Request)

/-- What one selection that is included puts into the dict. The first two arguments are `project` and `_fill`
themselves, with the room that is left. -/
def fillOne (project : Value → Option (List Selection) → Except PyError Value)
    (fill : List (Key × Value) → List (Key × Value) → List Selection → Except PyError (List (Key × Value)))
    (stub : List (Key × Value)) (shaped : List (Key × Value)) : Selection → Except PyError (List (Key × Value))
  | .field name aliasName _ _ selectionSet => do
      let value ← project ((Dict.get stub (.text name)).getD .none) selectionSet
      pure (Dict.set shaped (.text (aliasName.getD name)) value)
  | .inlineFragment _ selectionSet => fill shaped stub selectionSet
  | .fragmentSpread name _ =>
      match request.fragments.get name with
      | some selectionSet => fill shaped stub selectionSet
      | none => .ok shaped

/-- The loop of `_fill`. -/
def fillEach (project : Value → Option (List Selection) → Except PyError Value)
    (fill : List (Key × Value) → List (Key × Value) → List Selection → Except PyError (List (Key × Value)))
    (stub : List (Key × Value)) : List Selection → List (Key × Value) → Except PyError (List (Key × Value))
  | [], shaped => .ok shaped
  | selection :: rest, shaped => do
      if ← isIncluded library request.variableValues selection.directives then
        let shaped ← fillOne request project fill stub shaped selection
        fillEach project fill stub rest shaped
      else fillEach project fill stub rest shaped

mutual

/-- `project`. -/
def project : ℕ → Value → Option (List Selection) → Except PyError Value
  | 0, _, _ => .error .recursionError
  | _ + 1, stub, none => .ok stub
  | room + 1, .list items, some selectionSet => do
      let shaped ← items.mapM fun item => project room item (some selectionSet)
      pure (.list shaped)
  | room + 1, .dict entries, some selectionSet => do
      let shaped ← fill room [] entries selectionSet
      pure (.dict shaped)
  | _ + 1, stub, some _ => .ok stub

/-- `_fill`. -/
def fill : ℕ → List (Key × Value) → List (Key × Value) → List Selection → Except PyError (List (Key × Value))
  | 0, _, _, _ => .error .recursionError
  | room + 1, shaped, stub, selectionSet =>
      fillEach library request (project room) (fill room) stub selectionSet shaped

end

end

/-! ### The value of an expansion -/

mutual

/-- Shape every dict of a value that no other dict is around. -/
def shapeWith (fill : List (Key × Value) → Except PyError (List (Key × Value))) : Value → Except PyError Value
  | .list items => do
      let shaped ← shapeItems fill items
      pure (.list shaped)
  | .dict entries => do
      let shaped ← fill entries
      pure (.dict shaped)
  | stub => .ok stub

/-- The items of a list. -/
def shapeItems (fill : List (Key × Value) → Except PyError (List (Key × Value))) :
    List Value → Except PyError (List Value)
  | [] => .ok []
  | item :: rest => do
      let first ← shapeWith fill item
      let others ← shapeItems fill rest
      pure (first :: others)

end

section

variable (library : Library) (variableValues : Dict String Value)

/-- What a selection that is included puts into the dict: the shape of its value where it is a field, and what is below
it where it is a fragment. -/
def placed (stub : List (Key × Value)) (selection : Selection) (shape : Value → Except PyError Value)
    (below : List (Key × Value) → Except PyError (List (Key × Value))) (shaped : List (Key × Value)) :
    Except PyError (List (Key × Value)) :=
  match selection with
  | .field name aliasName _ _ _ => do
      let value ← shape ((Dict.get stub (.text name)).getD .none)
      pure (Dict.set shaped (.text (aliasName.getD name)) value)
  | .inlineFragment _ _ => below shaped
  | .fragmentSpread _ _ => below shaped

/-- What a selection of an expansion puts into the dict: nothing where a directive removes it. -/
def placeAt (stub : List (Key × Value)) (selection : Selection) (shape : Value → Except PyError Value)
    (below : List (Key × Value) → Except PyError (List (Key × Value))) (shaped : List (Key × Value)) :
    Except PyError (List (Key × Value)) := do
  if ← isIncluded library variableValues selection.directives then placed stub selection shape below shaped
  else pure shaped

/-- The dict that an expansion fills. -/
def fillTree : Expanded Selection → List (Key × Value) → List (Key × Value) → Except PyError (List (Key × Value))
  | .nil, _, shaped => .ok shaped
  | .leaf selection rest, stub, shaped => do
      let shaped ← placeAt library variableValues stub selection .ok .ok shaped
      fillTree rest stub shaped
  | .nest selection inner rest, stub, shaped => do
      let shaped ← placeAt library variableValues stub selection (shapeWith fun entries => fillTree inner entries [])
        (fillTree inner stub) shaped
      fillTree rest stub shaped

/-- **The value that an expansion gives.** -/
def projected (stub : Value) : Option (Expanded Selection) → Except PyError Value
  | none => .ok stub
  | some expanded => shapeWith (fun entries => fillTree library variableValues expanded entries []) stub

end

/-! ### Calls with room enough -/

/-- With room enough, the call has this result. -/
def Settles {T : Type} (call : ℕ → Except PyError T) (result : Except PyError T) : Prop :=
  ∃ enough, ∀ room, enough ≤ room → call room = result

namespace Settles

variable {S T : Type}

theorem always (result : Except PyError T) : Settles (fun _ => result) result := ⟨0, fun _ _ => rfl⟩

theorem bind {first : ℕ → Except PyError S} {result : Except PyError S} (settles : Settles first result)
    {next : ℕ → S → Except PyError T} {last : S → Except PyError T} (later : ∀ value, Settles (next · value) (last value)) :
    Settles (fun room => first room >>= next room) (result >>= last) := by
  obtain ⟨enough, same⟩ := settles
  cases result with
  | error error =>
      refine ⟨enough, fun room large => ?_⟩
      dsimp only
      rw [same room large]
      rfl
  | ok value =>
      obtain ⟨more, equal⟩ := later value
      refine ⟨max enough more, fun room large => ?_⟩
      dsimp only
      rw [same room (le_trans (le_max_left _ _) large)]
      exact equal room (le_trans (le_max_right _ _) large)

/-- A call that needs the room of one more. -/
theorem succ {call outer : ℕ → Except PyError T} {result : Except PyError T} (settles : Settles call result)
    (calls : ∀ room, outer (room + 1) = call room) : Settles outer result := by
  obtain ⟨enough, same⟩ := settles
  refine ⟨enough + 1, fun room large => ?_⟩
  obtain ⟨less, rfl⟩ := Nat.exists_eq_succ_of_ne_zero (Nat.ne_zero_of_lt large)
  rw [calls, same less (Nat.le_of_succ_le_succ large)]

end Settles

/-! ### The code gives the value of the expansion -/

section

variable {library : Library} {request : Request}

/-- A leaf comes back as it is. -/
theorem project_leaf (stub : Value) : Settles (fun room => project library request room stub none) (.ok stub) := by
  refine (Settles.always (.ok stub)).succ fun room => ?_
  rw [project]

section

variable {selectionSet : List Selection} {filled : List (Key × Value) → Except PyError (List (Key × Value))}

mutual

/-- A value is shaped by a selection set that fills dicts. -/
theorem project_shapes
    (fills : ∀ entries, Settles (fun room => fill library request room [] entries selectionSet) (filled entries))
    (stub : Value) :
    Settles (fun room => project library request room stub (some selectionSet)) (shapeWith filled stub) := by
  cases stub with
  | list items =>
      have inside := (items_shape fills items).bind fun shaped => Settles.always (.ok (Value.list shaped))
      refine inside.succ fun room => ?_
      rw [project]
      rfl
  | dict entries =>
      have inside := (fills entries).bind fun shaped => Settles.always (.ok (Value.dict shaped))
      refine inside.succ fun room => ?_
      rw [project]
      rfl
  | none => exact (Settles.always _).succ fun room => rfl
  | bool value => exact (Settles.always _).succ fun room => rfl
  | int value => exact (Settles.always _).succ fun room => rfl
  | float value => exact (Settles.always _).succ fun room => rfl
  | str value => exact (Settles.always _).succ fun room => rfl

theorem items_shape
    (fills : ∀ entries, Settles (fun room => fill library request room [] entries selectionSet) (filled entries))
    (items : List Value) :
    Settles (fun room => items.mapM fun item => project library request room item (some selectionSet))
      (shapeItems filled items) := by
  cases items with
  | nil => exact Settles.always _
  | cons item rest =>
      have both := (project_shapes fills item).bind fun shaped =>
        (items_shape fills rest).bind fun more => Settles.always (.ok (shaped :: more))
      simp only [List.mapM_cons]
      exact both

end

end

/-- One selection of the loop. -/
theorem fillEach_cons (project : Value → Option (List Selection) → Except PyError Value)
    (fill : List (Key × Value) → List (Key × Value) → List Selection → Except PyError (List (Key × Value)))
    (stub : List (Key × Value)) (selection : Selection) (rest : List Selection) (shaped : List (Key × Value)) :
    fillEach library request project fill stub (selection :: rest) shaped =
      (isIncluded library request.variableValues selection.directives >>= fun kept =>
        if kept then fillOne request project fill stub shaped selection else pure shaped) >>=
      fillEach library request project fill stub rest := by
  rw [fillEach]
  cases isIncluded library request.variableValues selection.directives with
  | error error => rfl
  | ok kept =>
      cases kept with
      | true => rfl
      | false => rfl

/-- The loop over two lists. -/
theorem fillEach_append (project : Value → Option (List Selection) → Except PyError Value)
    (fill : List (Key × Value) → List (Key × Value) → List Selection → Except PyError (List (Key × Value)))
    (stub : List (Key × Value)) (first second : List Selection) (shaped : List (Key × Value)) :
    fillEach library request project fill stub (first ++ second) shaped =
      fillEach library request project fill stub first shaped >>= fillEach library request project fill stub second := by
  induction first generalizing shaped with
  | nil => rfl
  | cons selection rest ih =>
      have later := funext ih
      rw [List.cons_append, fillEach_cons, fillEach_cons, later]
      exact (bind_assoc _ _ _).symm

/-- The loop comes to this end, whatever is in the dict before. -/
def LoopSettles (library : Library) (request : Request) (items : List Selection) (expanded : Expanded Selection) : Prop :=
  ∀ stub shaped, Settles (fun room => fillEach library request (project library request room) (fill library request room)
    stub items shaped) (fillTree library request.variableValues expanded stub shaped)

theorem LoopSettles.fill {items : List Selection} {expanded : Expanded Selection}
    (loop : LoopSettles library request items expanded) (stub shaped : List (Key × Value)) :
    Settles (fun room => fill library request room shaped stub items)
      (fillTree library request.variableValues expanded stub shaped) :=
  (loop stub shaped).succ fun room => by rw [GraphqlDocument.fill]

theorem LoopSettles.project {items : List Selection} {expanded : Expanded Selection}
    (loop : LoopSettles library request items expanded) (stub : Value) :
    Settles (fun room => project library request room stub (some items))
      (projected library request.variableValues stub (some expanded)) :=
  project_shapes (fun entries => loop.fill entries []) stub

/-- One selection comes to its end, and the loop goes on. -/
theorem loop_cons {selection : Selection} {rest : List Selection} {stub shaped : List (Key × Value)}
    {own : Except PyError (List (Key × Value))}
    (one : Settles (fun room => fillOne request (project library request room) (fill library request room) stub shaped
      selection) own) {last : List (Key × Value) → Except PyError (List (Key × Value))}
    (others : ∀ shaped, Settles (fun room => fillEach library request (project library request room)
      (fill library request room) stub rest shaped) (last shaped)) :
    Settles (fun room => fillEach library request (project library request room) (fill library request room) stub
        (selection :: rest) shaped)
      ((isIncluded library request.variableValues selection.directives >>= fun kept =>
        if kept then own else pure shaped) >>= last) := by
  simp only [fillEach_cons]
  refine Settles.bind ((Settles.always _).bind fun kept => ?_) others
  cases kept with
  | true => exact one
  | false => exact Settles.always _

/-- **With room enough, the loop fills the dict of the expansion.** -/
theorem fillEach_settles {items : List Selection} {expanded : Expanded Selection}
    (expands : ExpandsTo request.fragments items expanded) : LoopSettles library request items expanded := by
  induction expands with
  | nil => exact fun stub shaped => Settles.always _
  | @leaf selection rest others seen _ ih =>
      intro stub shaped
      rw [fillTree]
      refine loop_cons ?_ (ih stub)
      cases selection with
      | field name aliasName arguments directives selectionSet =>
          cases selectionSet with
          | some => cases seen
          | none => exact (project_leaf _).bind fun value => Settles.always _
      | inlineFragment => cases seen
      | fragmentSpread => cases seen
  | @nest selection items rest inner others seen _ _ ihInner ih =>
      intro stub shaped
      rw [fillTree]
      refine loop_cons ?_ (ih stub)
      cases selection with
      | field name aliasName arguments directives selectionSet =>
          cases selectionSet with
          | none => cases seen
          | some =>
              cases seen
              exact (LoopSettles.project ihInner _).bind fun value => Settles.always _
      | inlineFragment directives selectionSet =>
          cases seen
          exact LoopSettles.fill ihInner stub shaped
      | fragmentSpread => cases seen
  | @call selection name part rest inner others seen found _ _ ihInner ih =>
      intro stub shaped
      rw [fillTree]
      refine loop_cons ?_ (ih stub)
      obtain ⟨directives, rfl⟩ := Selection.spread_of_call seen
      simp only [fillOne, found]
      exact LoopSettles.fill ihInner stub shaped

/-- The field has this expansion below it: none where it has no selection set. -/
inductive Below (fragments : Dict String (List Selection)) : Option (List Selection) → Option (Expanded Selection) → Prop
  | leaf : Below fragments none none
  | set {items : List Selection} {expanded : Expanded Selection} : ExpandsTo fragments items expanded →
      Below fragments (some items) (some expanded)

/-- **With room enough, `project` gives the value of the expansion.** -/
theorem project_settles {selectionSet : Option (List Selection)} {expanded : Option (Expanded Selection)}
    (below : Below request.fragments selectionSet expanded) (stub : Value) :
    Settles (fun room => project library request room stub selectionSet)
      (projected library request.variableValues stub expanded) := by
  cases below with
  | leaf => exact project_leaf stub
  | set expands => exact (fillEach_settles expands).project stub

end

/-! ### The expanded selection set -/

section

variable (library : Library) (variableValues : Dict String Value)

/-- A selection without what is around it: nothing where a directive removes it, the field with no directive, and what is
below a fragment. A selection whose directive raises is not removed, and it keeps its directives. -/
def kept (selection : Selection) (below : List Selection) : List Selection :=
  match isIncluded library variableValues selection.directives with
  | .ok true =>
      match selection with
      | .field name aliasName arguments _ selectionSet =>
          [.field name aliasName arguments [] (selectionSet.map fun _ => below)]
      | .inlineFragment _ _ => below
      | .fragmentSpread _ _ => below
  | .ok false => []
  | .error _ =>
      match selection with
      | .field name aliasName arguments directives selectionSet =>
          [.field name aliasName arguments directives (selectionSet.map fun _ => below)]
      | .inlineFragment directives _ => [.inlineFragment directives below]
      | .fragmentSpread _ directives => [.inlineFragment directives below]

/-- **The selection set with every fragment expanded in place and every removed selection deleted.** -/
def flat : Expanded Selection → List Selection
  | .nil => []
  | .leaf selection rest => kept library variableValues selection [] ++ flat rest
  | .nest selection inner rest => kept library variableValues selection (flat inner) ++ flat rest

end

section

variable {library : Library} {request : Request} {selection : Selection} {below : List Selection}
  {shape : Value → Except PyError Value} {beneath : List (Key × Value) → Except PyError (List (Key × Value))}
  {stub : List (Key × Value)}

/-- A field that is kept gives the shape of its value. -/
theorem kept_field {name : String} {aliasName : Option String} {arguments : List (String × Node)}
    {directives : List Directive} {selectionSet : Option (List Selection)}
    (shapes : ∀ value, Settles (fun room => project library request room value (selectionSet.map fun _ => below)) (shape value))
    (shaped : List (Key × Value)) :
    Settles (fun room => fillEach library request (project library request room) (fill library request room) stub
        (kept library request.variableValues (.field name aliasName arguments directives selectionSet) below) shaped)
      (placeAt library request.variableValues stub (.field name aliasName arguments directives selectionSet) shape beneath
        shaped) := by
  unfold kept placeAt
  cases found : isIncluded library request.variableValues (Selection.field name aliasName arguments directives
      selectionSet).directives with
  | error error =>
      have raises : isIncluded library request.variableValues directives = .error error := found
      refine ⟨0, fun room _ => ?_⟩
      dsimp only
      rw [fillEach, Selection.directives, raises]
      rfl
  | ok included =>
      cases included with
      | false => exact Settles.always _
      | true =>
          have one : Settles (fun room => fillOne request (project library request room) (fill library request room)
              stub shaped (.field name aliasName arguments [] (selectionSet.map fun _ => below)))
              (placed stub (.field name aliasName arguments directives selectionSet) shape beneath shaped) :=
            (shapes _).bind fun value => Settles.always _
          have done : ∀ filled, Settles (fun room => fillEach library request (project library request room)
              (fill library request room) stub [] filled) (.ok filled) := fun filled => Settles.always _
          have loop := loop_cons one done
          rw [show ∀ given : Except PyError (List (Key × Value)), given >>= Except.ok = given from fun given => bind_pure given]
            at loop
          exact loop

/-- Is the selection a field? -/
def Selection.isField : Selection → Bool
  | .field _ _ _ _ _ => true
  | _ => false

/-- A fragment that is kept gives what is below it. -/
theorem kept_fragment (fragment : selection.isField = false)
    (fills : ∀ shaped, Settles (fun room => fillEach library request (project library request room)
      (fill library request room) stub below shaped) (beneath shaped)) (shaped : List (Key × Value)) :
    Settles (fun room => fillEach library request (project library request room) (fill library request room) stub
        (kept library request.variableValues selection below) shaped)
      (placeAt library request.variableValues stub selection shape beneath shaped) := by
  unfold kept placeAt
  cases found : isIncluded library request.variableValues selection.directives with
  | error error =>
      refine ⟨0, fun room _ => ?_⟩
      cases selection with
      | field name aliasName arguments directives selectionSet => cases fragment
      | inlineFragment directives selectionSet =>
          have raises : isIncluded library request.variableValues directives = .error error := found
          dsimp only
          rw [fillEach, Selection.directives, raises]
          rfl
      | fragmentSpread name directives =>
          have raises : isIncluded library request.variableValues directives = .error error := found
          dsimp only
          rw [fillEach, Selection.directives, raises]
          rfl
  | ok included =>
      cases included with
      | false => exact Settles.always _
      | true =>
          cases selection with
          | field name aliasName arguments directives selectionSet => cases fragment
          | inlineFragment directives selectionSet => exact fills shaped
          | fragmentSpread name directives => exact fills shaped

/-- **The expanded selection set fills the same dict.** -/
theorem fillEach_flat_settles {items : List Selection} {expanded : Expanded Selection}
    (expands : ExpandsTo request.fragments items expanded) :
    LoopSettles library request (flat library request.variableValues expanded) expanded := by
  induction expands with
  | nil => exact fun stub shaped => Settles.always _
  | @leaf selection rest others seen _ ih =>
      intro stub shaped
      rw [flat, fillTree]
      simp only [fillEach_append]
      refine Settles.bind ?_ (ih stub)
      cases selection with
      | field name aliasName arguments directives selectionSet =>
          cases selectionSet with
          | some => cases seen
          | none => exact kept_field project_leaf shaped
      | inlineFragment => cases seen
      | fragmentSpread => cases seen
  | @nest selection items rest inner others seen _ _ ihInner ih =>
      intro stub shaped
      rw [flat, fillTree]
      simp only [fillEach_append]
      refine Settles.bind ?_ (ih stub)
      cases selection with
      | field name aliasName arguments directives selectionSet =>
          cases selectionSet with
          | none => cases seen
          | some => exact kept_field (LoopSettles.project ihInner) shaped
      | inlineFragment directives selectionSet => exact kept_fragment rfl (ihInner stub) shaped
      | fragmentSpread => cases seen
  | @call selection name part rest inner others seen found _ _ ihInner ih =>
      intro stub shaped
      rw [flat, fillTree]
      simp only [fillEach_append]
      refine Settles.bind ?_ (ih stub)
      obtain ⟨directives, rfl⟩ := Selection.spread_of_call seen
      exact kept_fragment rfl (ihInner stub) shaped

/-- **The expanded selection set gives the same value.** -/
theorem project_flat_settles {selectionSet : Option (List Selection)} {expanded : Option (Expanded Selection)}
    (below : Below request.fragments selectionSet expanded) (stub : Value) :
    Settles (fun room => project library request room stub (expanded.map (flat library request.variableValues)))
      (projected library request.variableValues stub expanded) := by
  cases below with
  | leaf => exact project_leaf stub
  | set expands => exact (fillEach_flat_settles expands).project stub

end

end ProviderSimulator.GraphqlDocument
