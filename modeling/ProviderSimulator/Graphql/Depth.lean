/-
**The depth of a document is that of its expansion.**

`_depth_of` measures each fragment once and keeps the result in a table. With the fragments of a document as the
parts (`Selection.view`), the expansion of a selection set has every fragment in the place of its spread, and it may
be exponentially larger than the document.

* `depthOf_sound` — what `_depth_of` returns is the depth of the expansion;
* `depthOf_complete` — with an expansion no deeper than the room, it returns;
* `Walk` — the walk through a selection set, for any measure, and `Walk.loopStops` — **it comes to an end where each
  spread in it does**;
* `depthOf_stops` — so `_depth_of` comes to an end on every document: the stack of fragments holds no name twice.

What a call returns is proved of the loop over the selections first, with what is known of the calls below it.
-/

import Mathlib.Tactic.Common
import ProviderSimulator.Lib.Expansion
import ProviderSimulator.Graphql.Reader

namespace ProviderSimulator.GraphqlDocument

open ProviderSimulator.Lib ProviderSimulator.Python

/-! ### Selections as items -/

/-- A field with no selection set is a leaf, and a spread names a fragment. -/
def Selection.view : Selection → View Selection String
  | .field _ _ _ _ none => .leaf
  | .field _ _ _ _ (some selectionSet) => .nest selectionSet
  | .inlineFragment _ selectionSet => .nest selectionSet
  | .fragmentSpread name _ => .call name

/-- A selection set is larger than each one inside it. -/
theorem selections_sized : Sized Selection.view (sizeOf : List Selection → ℕ) := by
  refine ⟨?_, ?_⟩
  · intro selection rest
    simp only [List.cons.sizeOf_spec]
    omega
  · intro selection rest items seen
    have smaller : sizeOf items < sizeOf selection := by
      cases selection with
      | field name aliasName arguments directives selectionSet =>
          cases selectionSet with
          | none => cases seen
          | some selectionSet =>
              cases seen
              simp only [Selection.field.sizeOf_spec, Option.some.sizeOf_spec]
              omega
      | inlineFragment directives selectionSet =>
          cases seen
          simp only [Selection.inlineFragment.sizeOf_spec]
          omega
      | fragmentSpread name directives => cases seen
    simp only [List.cons.sizeOf_spec]
    omega

theorem Selection.spread_of_call {selection : Selection} {name : String} (seen : selection.view = .call name) :
    ∃ directives, selection = .fragmentSpread name directives := by
  cases selection with
  | field _ _ _ _ selectionSet => cases selectionSet <;> cases seen
  | inlineFragment _ _ => cases seen
  | fragmentSpread _ directives =>
      cases seen
      exact ⟨directives, rfl⟩

/-- The selection set has this expansion, with the fragments in their places. -/
abbrev ExpandsTo (fragments : Dict String (List Selection)) : List Selection → Expanded Selection → Prop :=
  Expands Selection.view (Dict.get fragments)

/-- The entries of the table are measures of fragments. -/
abbrev TableOf (fragments : Dict String (List Selection)) : (Expanded Selection → ℕ) → Dict String ℕ → Prop :=
  Table Selection.view (Dict.get fragments)

/-- A sequence of two steps that do not end with the error does not end with it. -/
theorem bind_ne_error {E S T : Type} {error : E} {first : Except E S} {next : S → Except E T}
    (one : first ≠ .error error) (two : ∀ value, next value ≠ .error error) : first >>= next ≠ .error error := by
  cases first with
  | ok value => exact two value
  | error other => exact fun same => one (congrArg Except.error (Except.error.inj same))

variable {fragments : Dict String (List Selection)}

/-- The fragments of a document are finitely many. -/
theorem fragments_finite (name : String) (defined : (fragments.get name).isSome = true) : name ∈ fragments.keys := by
  obtain ⟨part, found⟩ := Option.isSome_iff_exists.mp defined
  exact List.mem_map_of_mem (Dict.get_mem found)

/-! ### The depth that is returned -/

section

variable {depthOf : List Selection → Dict String ℕ → List String → Except Failure (ℕ × Dict String ℕ)}

theorem depthBelow_leaf {selection : Selection} (seen : selection.view = .leaf) (memo : Dict String ℕ)
    (stack : List String) : depthBelow fragments depthOf memo stack selection = .ok (0, memo) := by
  cases selection with
  | field _ _ _ _ selectionSet =>
      cases selectionSet with
      | none => rfl
      | some _ => cases seen
  | inlineFragment _ _ => cases seen
  | fragmentSpread _ _ => cases seen

theorem depthBelow_nest {selection : Selection} {items : List Selection} (seen : selection.view = .nest items)
    (memo : Dict String ℕ) (stack : List String) :
    depthBelow fragments depthOf memo stack selection = depthOf items memo stack := by
  cases selection with
  | field _ _ _ _ selectionSet =>
      cases selectionSet with
      | none => cases seen
      | some _ =>
          cases seen
          rfl
  | inlineFragment _ _ =>
      cases seen
      rfl
  | fragmentSpread _ _ => cases seen

variable (fragments depthOf) in
/-- What the calls below return is the depth of an expansion, and they keep the table. -/
def SoundDepth : Prop :=
  ∀ {items memo stack depth left}, TableOf fragments Expanded.depth memo →
    depthOf items memo stack = .ok (depth, left) →
    TableOf fragments Expanded.depth left ∧ ∃ expanded, ExpandsTo fragments items expanded ∧ expanded.depth = depth

variable (sound : SoundDepth fragments depthOf)
include sound

/-- One selection adds the depth below it to the expansion of the others. -/
theorem depthBelow_sound {selection : Selection} {memo left : Dict String ℕ} {stack : List String} {below : ℕ}
    (table : TableOf fragments Expanded.depth memo)
    (gave : depthBelow fragments depthOf memo stack selection = .ok (below, left)) :
    TableOf fragments Expanded.depth left ∧
      ∀ rest others, ExpandsTo fragments rest others → ∃ expanded,
        ExpandsTo fragments (selection :: rest) expanded ∧ expanded.deepest = max below others.deepest := by
  cases seen : selection.view with
  | leaf =>
      rw [depthBelow_leaf seen] at gave
      cases gave
      refine ⟨table, fun rest others expands => ⟨.leaf selection others, .leaf seen expands, ?_⟩⟩
      exact (Nat.zero_max _).symm
  | nest items =>
      rw [depthBelow_nest seen] at gave
      obtain ⟨kept, inner, within, rfl⟩ := sound table gave
      exact ⟨kept, fun rest others expands => ⟨.nest selection inner others, .nest seen within expands, rfl⟩⟩
  | call name =>
      obtain ⟨directives, rfl⟩ := Selection.spread_of_call seen
      dsimp only [depthBelow] at gave
      split at gave
      · cases gave
      · split at gave
        · cases gave
        · next part found =>
            split at gave
            · next stored =>
                cases gave
                obtain ⟨_, inner, there, within, rfl⟩ := table name _ stored
                refine ⟨table, fun rest others expands => ?_⟩
                exact ⟨.nest (.fragmentSpread name directives) inner others, .call seen there within expands, rfl⟩
            · obtain ⟨⟨depth, later⟩, measured, rest⟩ := ok_of_bind gave
              cases rest
              obtain ⟨kept, inner, within, rfl⟩ := sound table measured
              refine ⟨kept.set found within, fun rest others expands => ?_⟩
              exact ⟨.nest (.fragmentSpread name directives) inner others, .call seen found within expands, rfl⟩

/-- The loop over the selections. -/
theorem deepestOf_sound {stack : List String} : ∀ {items : List Selection} {start deepest : ℕ}
    {memo left : Dict String ℕ}, TableOf fragments Expanded.depth memo →
    deepestOf fragments depthOf stack items start memo = .ok (deepest, left) →
    TableOf fragments Expanded.depth left ∧ ∃ expanded, ExpandsTo fragments items expanded ∧
      deepest = max start expanded.deepest
  | [], start, deepest, memo, left, table, gave => by
      cases gave
      exact ⟨table, .nil, .nil, (Nat.max_zero start).symm⟩
  | selection :: rest, start, deepest, memo, left, table, gave => by
      obtain ⟨⟨below, between⟩, first, later⟩ := ok_of_bind gave
      obtain ⟨kept, place⟩ := depthBelow_sound sound table first
      obtain ⟨keptLater, others, expands, rfl⟩ := deepestOf_sound kept later
      obtain ⟨expanded, whole, deep⟩ := place rest others expands
      refine ⟨keptLater, expanded, whole, ?_⟩
      rw [deep, max_assoc]

end

/-- **What `_depth_of` returns is the depth of the expansion**, and each entry of its table the depth of a
fragment. -/
theorem depthOf_sound (room : ℕ) : SoundDepth fragments (depthOf fragments room) := by
  induction room with
  | zero => nofun
  | succ room ih =>
      intro items memo stack depth left table gave
      obtain ⟨⟨deepest, later⟩, loop, rest⟩ := ok_of_bind gave
      cases rest
      obtain ⟨kept, expanded, expands, rfl⟩ := deepestOf_sound ih table loop
      refine ⟨kept, expanded, expands, ?_⟩
      rw [Nat.zero_max]
      rfl

/-! ### Where the depth is returned -/

section

variable {depthOf : List Selection → Dict String ℕ → List String → Except Failure (ℕ × Dict String ℕ)} {room : ℕ}

variable (fragments depthOf room) in
/-- The calls below return, where an expansion is no deeper than the room and gets to no fragment of the stack. -/
def CompleteDepth : Prop :=
  ∀ {items expanded memo stack}, ExpandsTo fragments items expanded → expanded.depth ≤ room →
    (∀ name ∈ stack, ¬ Reaches Selection.view (Dict.get fragments) items name) →
    TableOf fragments Expanded.depth memo → ∃ left, depthOf items memo stack = .ok (expanded.depth, left)

theorem deepestOf_cons {selection : Selection} {rest : List Selection} {stack : List String}
    {memo between : Dict String ℕ} {below : ℕ} (start : ℕ)
    (first : depthBelow fragments depthOf memo stack selection = .ok (below, between)) :
    deepestOf fragments depthOf stack (selection :: rest) start memo =
      deepestOf fragments depthOf stack rest (max start below) between := by
  dsimp only [deepestOf]
  rw [first]
  rfl

variable (sound : SoundDepth fragments depthOf) (complete : CompleteDepth fragments depthOf room)
include sound complete

/-- A spread of a fragment that is not on the stack: its depth is in the table, or it is measured now. No fragment
of the longer stack is within reach of it, as it has an expansion. -/
theorem depthBelow_spread {name : String} (directives : List Directive) {part : List Selection}
    {inner : Expanded Selection} {memo : Dict String ℕ} {stack : List String}
    (found : fragments.get name = some part) (within : ExpandsTo fragments part inner) (deep : inner.depth ≤ room)
    (off : name ∉ stack) (fresh : ∀ other ∈ stack, ¬ Reaches Selection.view (Dict.get fragments) part other)
    (table : TableOf fragments Expanded.depth memo) :
    ∃ between, TableOf fragments Expanded.depth between ∧
      depthBelow fragments depthOf memo stack (.fragmentSpread name directives) = .ok (inner.depth, between) := by
  dsimp only [depthBelow]
  rw [if_neg off, found]
  cases stored : memo.get name with
  | some known =>
      refine ⟨memo, table, ?_⟩
      rw [table.entry stored found within]
  | none =>
      have longer : ∀ other ∈ stack ++ [name], ¬ Reaches Selection.view (Dict.get fragments) part other := by
        intro other listed
        rcases List.mem_append.mp listed with before | single
        · exact fresh other before
        · cases List.mem_singleton.mp single
          intro cycle
          exact within.acyclic name part cycle found cycle
      obtain ⟨between, measured⟩ := complete within deep longer table
      refine ⟨between.set name inner.depth, (sound table measured).1.set found within, ?_⟩
      dsimp only
      rw [measured]
      rfl

/-- The loop over the selections. -/
theorem deepestOf_complete {items : List Selection} {expanded : Expanded Selection} {stack : List String}
    (expands : ExpandsTo fragments items expanded) (deep : expanded.deepest ≤ room)
    (fresh : ∀ name ∈ stack, ¬ Reaches Selection.view (Dict.get fragments) items name) :
    ∀ (start : ℕ) {memo : Dict String ℕ}, TableOf fragments Expanded.depth memo → ∃ left,
      deepestOf fragments depthOf stack items start memo = .ok (max start expanded.deepest, left) := by
  induction expands with
  | nil =>
      intro start memo table
      exact ⟨memo, by rw [Expanded.deepest, Nat.max_zero]; rfl⟩
  | leaf seen _ ih =>
      intro start memo table
      obtain ⟨left, loop⟩ := ih deep (fun name listed there => fresh name listed there.later) start table
      refine ⟨left, ?_⟩
      rw [deepestOf_cons start (depthBelow_leaf seen memo stack), Nat.max_zero, loop]
      rfl
  | @nest _ items rest inner others seen within _ _ ih =>
      intro start memo table
      dsimp only [Expanded.deepest] at deep ⊢
      obtain ⟨between, measured⟩ := complete within ((le_max_left _ _).trans deep)
        (fun name listed there => fresh name listed (there.within seen)) table
      obtain ⟨left, loop⟩ := ih ((le_max_right _ _).trans deep)
        (fun name listed there => fresh name listed there.later) (max start inner.depth) (sound table measured).1
      refine ⟨left, ?_⟩
      rw [deepestOf_cons start ((depthBelow_nest seen memo stack).trans measured), loop, max_assoc]
      rfl
  | @call _ name part rest inner others seen found within _ _ ih =>
      intro start memo table
      dsimp only [Expanded.deepest] at deep ⊢
      obtain ⟨directives, rfl⟩ := Selection.spread_of_call seen
      obtain ⟨between, kept, measured⟩ := depthBelow_spread sound complete directives found within
        ((le_max_left _ _).trans deep) (fun listed => fresh name listed (.spread (.here seen)))
        (fun other listed there => fresh other listed (there.call seen found)) table
      obtain ⟨left, loop⟩ := ih ((le_max_right _ _).trans deep)
        (fun name listed there => fresh name listed there.later) (max start inner.depth) kept
      refine ⟨left, ?_⟩
      rw [deepestOf_cons start measured, loop, max_assoc]
      rfl

end

/-- **With an expansion no deeper than the room, `_depth_of` returns.** -/
theorem depthOf_complete (room : ℕ) : CompleteDepth fragments (depthOf fragments room) room := by
  induction room with
  | zero =>
      intro items expanded memo stack _ deep
      dsimp only [Expanded.depth] at deep
      omega
  | succ room ih =>
      intro items expanded memo stack expands deep fresh table
      dsimp only [Expanded.depth] at deep
      obtain ⟨left, loop⟩ := deepestOf_complete (depthOf_sound room) ih expands (by omega) fresh 0 table
      refine ⟨left, ?_⟩
      dsimp only [depthOf]
      rw [loop, Nat.zero_max]
      rfl

/-! ### A walk that comes to an end -/

/-- How a measure walks through a selection set, with each room for the calls inside one another: the loop over the
selections, what it does with one of them, and the call for the selections below one. -/
structure Walk (E : Type) where
  loop : ℕ → List Selection → ℕ → Dict String ℕ → Except E (ℕ × Dict String ℕ)
  below : ℕ → Dict String ℕ → Selection → Except E (ℕ × Dict String ℕ)
  call : ℕ → List Selection → Dict String ℕ → Except E (ℕ × Dict String ℕ)
  join : ℕ → ℕ → ℕ
  finish : ℕ → ℕ
  loop_nil : ∀ room start memo, loop room [] start memo = .ok (start, memo)
  loop_cons : ∀ room selection rest start memo, loop room (selection :: rest) start memo =
    below room memo selection >>= fun found => loop room rest (join start found.1) found.2
  below_leaf : ∀ {selection : Selection}, selection.view = .leaf →
    ∀ room memo, below room memo selection = .ok (0, memo)
  below_nest : ∀ {selection : Selection} {items : List Selection}, selection.view = .nest items →
    ∀ room memo, below room memo selection = call room items memo
  call_succ : ∀ room items memo,
    call (room + 1) items memo = loop room items 0 memo >>= fun found => .ok (finish found.1, found.2)

namespace Walk

variable {E : Type} (walk : Walk E) (error : E)

/-- With enough room the call does not end with the error. -/
def CallStops (items : List Selection) : Prop :=
  ∃ enough, ∀ room, enough ≤ room → ∀ memo, walk.call room items memo ≠ .error error

/-- With enough room the loop does not. -/
def LoopStops (items : List Selection) : Prop :=
  ∃ enough, ∀ room, enough ≤ room → ∀ start memo, walk.loop room items start memo ≠ .error error

/-- With enough room it does not at one selection. -/
def BelowStops (selection : Selection) : Prop :=
  ∃ enough, ∀ room, enough ≤ room → ∀ memo, walk.below room memo selection ≠ .error error

variable {walk error} {items rest : List Selection}

theorem LoopStops.call (loop : walk.LoopStops error items) : walk.CallStops error items := by
  obtain ⟨enough, stops⟩ := loop
  refine ⟨enough + 1, ?_⟩
  rintro (_ | room) more memo
  · omega
  · rw [walk.call_succ]
    exact bind_ne_error (stops room (by omega) 0 memo) nofun

theorem LoopStops.cons {selection : Selection} (others : walk.LoopStops error rest)
    (below : walk.BelowStops error selection) : walk.LoopStops error (selection :: rest) := by
  obtain ⟨enoughRest, stopsRest⟩ := others
  obtain ⟨enough, stops⟩ := below
  refine ⟨max enough enoughRest, fun room more start memo => ?_⟩
  obtain ⟨moreHere, moreRest⟩ := max_le_iff.mp more
  rw [walk.loop_cons]
  exact bind_ne_error (stops room moreHere memo) fun found => stopsRest room moreRest _ _

/-- **The walk comes to an end where each spread in it does.** -/
theorem loopStops (items : List Selection)
    (spreads : ∀ name, Spreads Selection.view items name → ∀ directives,
      walk.BelowStops error (.fragmentSpread name directives)) : walk.LoopStops error items := by
  induction items using selections_sized.induction with
  | nil =>
      refine ⟨0, fun room _ start memo => ?_⟩
      rw [walk.loop_nil]
      nofun
  | leaf selection rest seen ih =>
      refine (ih fun name there => spreads name (.later there)).cons ⟨0, fun room _ memo => ?_⟩
      rw [walk.below_leaf seen]
      nofun
  | nest selection rest items seen ihInner ih =>
      obtain ⟨enough, stops⟩ := (ihInner fun name there => spreads name (.within seen there)).call
      refine (ih fun name there => spreads name (.later there)).cons ⟨enough, fun room more memo => ?_⟩
      rw [walk.below_nest seen]
      exact stops room more memo
  | call selection rest name seen ih =>
      obtain ⟨directives, rfl⟩ := Selection.spread_of_call seen
      exact (ih fun name there => spreads name (.later there)).cons (spreads name (.here seen) directives)

end Walk

/-! ### The depth comes to an end -/

/-- The fragments that are not on the stack. -/
def offStack (fragments : Dict String (List Selection)) (stack : List String) : List String :=
  fragments.keys.filter fun name => name ∉ stack

/-- One more fragment on the stack. -/
theorem offStack_append {stack : List String} {name : String} (known : name ∈ fragments.keys) (off : name ∉ stack) :
    (offStack fragments (stack ++ [name])).length < (offStack fragments stack).length := by
  have fewer : offStack fragments (stack ++ [name]) =
      (offStack fragments stack).filter fun other => other ≠ name := by
    dsimp only [offStack]
    rw [List.filter_filter]
    refine List.filter_congr fun other _ => ?_
    simp [not_or, and_comm]
  rw [fewer]
  refine List.length_filter_lt_length_iff_exists.mpr ⟨name, ?_, by simp⟩
  exact List.mem_filter.mpr ⟨known, by simpa using off⟩

section

variable (fragments) in
/-- The call comes to an end: with enough room it raises no `RecursionError`. -/
def DepthStops (items : List Selection) (stack : List String) : Prop :=
  ∃ enough, ∀ room, enough ≤ room → ∀ memo,
    depthOf fragments room items memo stack ≠ .error (.raised .recursionError)

variable {stack : List String}

variable (fragments stack) in
/-- How `_depth_of` walks through a selection set. -/
def depthWalk : Walk Failure where
  loop room := deepestOf fragments (depthOf fragments room) stack
  below room memo := depthBelow fragments (depthOf fragments room) memo stack
  call room items memo := depthOf fragments room items memo stack
  join := max
  finish deepest := 1 + deepest
  loop_nil _ _ _ := rfl
  loop_cons _ _ _ _ _ := rfl
  below_leaf seen _ memo := depthBelow_leaf seen memo stack
  below_nest seen _ memo := depthBelow_nest seen memo stack
  call_succ _ _ _ := rfl

/-- A spread, where the fragment is measured with its name on the stack. -/
theorem spread_stops {name : String} (directives : List Directive)
    (parts : ∀ part, fragments.get name = some part → name ∉ stack → DepthStops fragments part (stack ++ [name])) :
    (depthWalk fragments stack).BelowStops (.raised .recursionError) (.fragmentSpread name directives) := by
  by_cases on : name ∈ stack
  · refine ⟨0, fun room _ memo => ?_⟩
    dsimp only [depthWalk, depthBelow]
    rw [if_pos on]
    nofun
  · cases found : fragments.get name with
    | none =>
        refine ⟨0, fun room _ memo => ?_⟩
        dsimp only [depthWalk, depthBelow]
        rw [if_neg on, found]
        nofun
    | some part =>
        obtain ⟨enough, stops⟩ := parts part found on
        refine ⟨enough, fun room more memo => ?_⟩
        dsimp only [depthWalk, depthBelow]
        rw [if_neg on, found]
        cases memo.get name with
        | some known => nofun
        | none => exact bind_ne_error (stops room more memo) nofun

/-- **`_depth_of` comes to an end on every document.** Each call for a fragment puts its name on the stack, and no
name is put there twice, so the calls for fragments inside one another are no more than the fragments. -/
theorem depthOf_stops (items : List Selection) (stack : List String) : DepthStops fragments items stack := by
  induction left : (offStack fragments stack).length using Nat.strong_induction_on generalizing items stack with
  | _ bound ih =>
      subst left
      have spreads : ∀ name, Spreads Selection.view items name → ∀ directives,
          (depthWalk fragments stack).BelowStops (.raised .recursionError) (.fragmentSpread name directives) := by
        intro name _ directives
        refine spread_stops directives fun part found off => ?_
        have known : name ∈ fragments.keys := List.mem_map_of_mem (Dict.get_mem found)
        exact ih _ (offStack_append known off) part (stack ++ [name]) rfl
      exact (Walk.loopStops items spreads).call

/-- `_depth_of` raises nothing but its faults and a `RecursionError`. -/
theorem depthOf_raises {error : PyError} (other : error ≠ .recursionError) (room : ℕ) (items : List Selection)
    (memo : Dict String ℕ) (stack : List String) : depthOf fragments room items memo stack ≠ .error (.raised error) := by
  induction room generalizing items memo stack with
  | zero =>
      intro same
      cases same
      exact other rfl
  | succ room ih =>
      have below : ∀ selection memo,
          depthBelow fragments (depthOf fragments room) memo stack selection ≠ .error (.raised error) := by
        intro selection memo
        cases seen : selection.view with
        | leaf =>
            rw [depthBelow_leaf seen]
            simp
        | nest items =>
            rw [depthBelow_nest seen]
            exact ih items memo stack
        | call name =>
            obtain ⟨directives, rfl⟩ := Selection.spread_of_call seen
            dsimp only [depthBelow]
            split
            · simp
            · split
              · simp
              · split
                · simp
                · exact bind_ne_error (ih _ memo (stack ++ [name])) fun _ same => by cases same
      have loop : ∀ items start memo,
          deepestOf fragments (depthOf fragments room) stack items start memo ≠ .error (.raised error) := by
        intro items
        induction items with
        | nil => simp [deepestOf]
        | cons selection rest ihRest =>
            intro start memo
            exact bind_ne_error (below selection memo) fun found => ihRest _ _
      exact bind_ne_error (loop items 0 memo) fun _ same => by cases same

end

end ProviderSimulator.GraphqlDocument
