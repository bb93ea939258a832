/-
**The nodes of a document are those of its expansion.**

`_nodes_of` adds up each fragment once and reuses the sum, so the work follows the size of the document. It has no
stack: its caller has checked that no fragment spreads itself.

* `nodesOf_sound` — what `_nodes_of` returns is the number of nodes of the expansion;
* `nodesOf_complete` — with an expansion no deeper than the room, it returns;
* `nodesOf_stops` — it comes to an end where no fragment spreads itself, by induction over the fragments;
* `nodesOf_runs_on` — and on a fragment that spreads itself it does not.
-/

import Mathlib.Tactic.Common
import ProviderSimulator.Graphql.Depth

namespace ProviderSimulator.GraphqlDocument

open ProviderSimulator.Lib ProviderSimulator.Python

variable {fragments : Dict String (List Selection)}

/-! ### The number that is returned -/

section

variable {nodesOf : List Selection → Dict String ℕ → Except PyError (ℕ × Dict String ℕ)}

theorem nodesBelow_leaf {selection : Selection} (seen : selection.view = .leaf) (memo : Dict String ℕ) :
    nodesBelow fragments nodesOf memo selection = .ok (0, memo) := by
  cases selection with
  | field _ _ _ _ selectionSet =>
      cases selectionSet with
      | none => rfl
      | some _ => cases seen
  | inlineFragment _ _ => cases seen
  | fragmentSpread _ _ => cases seen

theorem nodesBelow_nest {selection : Selection} {items : List Selection} (seen : selection.view = .nest items)
    (memo : Dict String ℕ) : nodesBelow fragments nodesOf memo selection = nodesOf items memo := by
  cases selection with
  | field _ _ _ _ selectionSet =>
      cases selectionSet with
      | none => cases seen
      | some _ =>
          cases seen
          rfl
  | inlineFragment _ _ =>
      cases seen
      rfl
  | fragmentSpread _ _ => cases seen

theorem totalOf_cons {selection : Selection} {rest : List Selection} {memo between : Dict String ℕ} {below : ℕ}
    (start : ℕ) (first : nodesBelow fragments nodesOf memo selection = .ok (below, between)) :
    totalOf fragments nodesOf (selection :: rest) start memo =
      totalOf fragments nodesOf rest (start + 1 + below) between := by
  dsimp only [totalOf]
  rw [first]
  rfl

variable (fragments nodesOf) in
/-- What the calls below return is the number of nodes of an expansion, and they keep the table. -/
def SoundNodes : Prop :=
  ∀ {items memo nodes left}, TableOf fragments Expanded.nodes memo → nodesOf items memo = .ok (nodes, left) →
    TableOf fragments Expanded.nodes left ∧ ∃ expanded, ExpandsTo fragments items expanded ∧ expanded.nodes = nodes

variable (sound : SoundNodes fragments nodesOf)
include sound

/-- One selection adds itself, and what is below it, to the expansion of the others. -/
theorem nodesBelow_sound {selection : Selection} {memo left : Dict String ℕ} {below : ℕ}
    (table : TableOf fragments Expanded.nodes memo)
    (gave : nodesBelow fragments nodesOf memo selection = .ok (below, left)) :
    TableOf fragments Expanded.nodes left ∧
      ∀ rest others, ExpandsTo fragments rest others → ∃ expanded,
        ExpandsTo fragments (selection :: rest) expanded ∧ expanded.nodes = 1 + below + others.nodes := by
  cases seen : selection.view with
  | leaf =>
      rw [nodesBelow_leaf seen] at gave
      cases gave
      exact ⟨table, fun rest others expands => ⟨.leaf selection others, .leaf seen expands, rfl⟩⟩
  | nest items =>
      rw [nodesBelow_nest seen] at gave
      obtain ⟨kept, inner, within, rfl⟩ := sound table gave
      exact ⟨kept, fun rest others expands => ⟨.nest selection inner others, .nest seen within expands, rfl⟩⟩
  | call name =>
      obtain ⟨directives, rfl⟩ := Selection.spread_of_call seen
      dsimp only [nodesBelow] at gave
      split at gave
      · next stored =>
          cases gave
          obtain ⟨_, inner, there, within, rfl⟩ := table name _ stored
          refine ⟨table, fun rest others expands => ?_⟩
          exact ⟨.nest (.fragmentSpread name directives) inner others, .call seen there within expands, rfl⟩
      · split at gave
        · cases gave
        · next part found =>
            obtain ⟨⟨nodes, later⟩, measured, rest⟩ := ok_of_bind gave
            cases rest
            obtain ⟨kept, inner, within, rfl⟩ := sound table measured
            refine ⟨kept.set found within, fun rest others expands => ?_⟩
            exact ⟨.nest (.fragmentSpread name directives) inner others, .call seen found within expands, rfl⟩

/-- The loop over the selections. -/
theorem totalOf_sound : ∀ {items : List Selection} {start total : ℕ} {memo left : Dict String ℕ},
    TableOf fragments Expanded.nodes memo → totalOf fragments nodesOf items start memo = .ok (total, left) →
    TableOf fragments Expanded.nodes left ∧ ∃ expanded, ExpandsTo fragments items expanded ∧
      total = start + expanded.nodes
  | [], start, total, memo, left, table, gave => by
      cases gave
      exact ⟨table, .nil, .nil, rfl⟩
  | selection :: rest, start, total, memo, left, table, gave => by
      obtain ⟨⟨below, between⟩, first, later⟩ := ok_of_bind gave
      obtain ⟨kept, place⟩ := nodesBelow_sound sound table first
      obtain ⟨keptLater, others, expands, rfl⟩ := totalOf_sound kept later
      obtain ⟨expanded, whole, counted⟩ := place rest others expands
      refine ⟨keptLater, expanded, whole, ?_⟩
      omega

end

/-- **What `_nodes_of` returns is the number of nodes of the expansion**, and each entry of its table that of a
fragment. -/
theorem nodesOf_sound (room : ℕ) : SoundNodes fragments (nodesOf fragments room) := by
  induction room with
  | zero => nofun
  | succ room ih =>
      intro items memo nodes left table gave
      obtain ⟨kept, expanded, expands, rfl⟩ := totalOf_sound ih table gave
      exact ⟨kept, expanded, expands, (Nat.zero_add _).symm⟩

/-! ### Where the number is returned -/

section

variable {nodesOf : List Selection → Dict String ℕ → Except PyError (ℕ × Dict String ℕ)} {room : ℕ}

variable (fragments nodesOf room) in
/-- The calls below return, where an expansion is no deeper than the room. -/
def CompleteNodes : Prop :=
  ∀ {items expanded memo}, ExpandsTo fragments items expanded → expanded.depth ≤ room →
    TableOf fragments Expanded.nodes memo → ∃ left, nodesOf items memo = .ok (expanded.nodes, left)

variable (sound : SoundNodes fragments nodesOf) (complete : CompleteNodes fragments nodesOf room)
include sound complete

/-- A spread: its sum is in the table, or it is added up now. -/
theorem nodesBelow_spread {name : String} (directives : List Directive) {part : List Selection}
    {inner : Expanded Selection} {memo : Dict String ℕ} (found : fragments.get name = some part)
    (within : ExpandsTo fragments part inner) (deep : inner.depth ≤ room)
    (table : TableOf fragments Expanded.nodes memo) :
    ∃ between, TableOf fragments Expanded.nodes between ∧
      nodesBelow fragments nodesOf memo (.fragmentSpread name directives) = .ok (inner.nodes, between) := by
  dsimp only [nodesBelow]
  cases stored : memo.get name with
  | some known =>
      refine ⟨memo, table, ?_⟩
      rw [table.entry stored found within]
  | none =>
      obtain ⟨between, measured⟩ := complete within deep table
      refine ⟨between.set name inner.nodes, (sound table measured).1.set found within, ?_⟩
      dsimp only
      rw [found]
      dsimp only
      rw [measured]
      rfl

/-- The loop over the selections. -/
theorem totalOf_complete {items : List Selection} {expanded : Expanded Selection}
    (expands : ExpandsTo fragments items expanded) (deep : expanded.deepest ≤ room) :
    ∀ (start : ℕ) {memo : Dict String ℕ}, TableOf fragments Expanded.nodes memo → ∃ left,
      totalOf fragments nodesOf items start memo = .ok (start + expanded.nodes, left) := by
  induction expands with
  | nil =>
      intro start memo _
      exact ⟨memo, rfl⟩
  | leaf seen _ ih =>
      intro start memo table
      obtain ⟨left, loop⟩ := ih deep (start + 1 + 0) table
      refine ⟨left, ?_⟩
      rw [totalOf_cons start (nodesBelow_leaf seen memo), loop, Expanded.nodes, Nat.add_zero, Nat.add_assoc]
  | @nest _ _ _ inner others seen within _ _ ih =>
      intro start memo table
      dsimp only [Expanded.deepest] at deep
      obtain ⟨between, measured⟩ := complete within ((le_max_left _ _).trans deep) table
      obtain ⟨left, loop⟩ := ih ((le_max_right _ _).trans deep) (start + 1 + inner.nodes) (sound table measured).1
      refine ⟨left, ?_⟩
      rw [totalOf_cons start ((nodesBelow_nest seen memo).trans measured), loop, Expanded.nodes]
      simp only [Nat.add_assoc]
  | @call _ _ _ _ inner others seen found within _ _ ih =>
      intro start memo table
      dsimp only [Expanded.deepest] at deep
      obtain ⟨directives, rfl⟩ := Selection.spread_of_call seen
      obtain ⟨between, kept, measured⟩ :=
        nodesBelow_spread sound complete directives found within ((le_max_left _ _).trans deep) table
      obtain ⟨left, loop⟩ := ih ((le_max_right _ _).trans deep) (start + 1 + inner.nodes) kept
      refine ⟨left, ?_⟩
      rw [totalOf_cons start measured, loop, Expanded.nodes]
      simp only [Nat.add_assoc]

end

/-- **With an expansion no deeper than the room, `_nodes_of` returns.** -/
theorem nodesOf_complete (room : ℕ) : CompleteNodes fragments (nodesOf fragments room) room := by
  induction room with
  | zero =>
      intro items expanded memo _ deep
      dsimp only [Expanded.depth] at deep
      omega
  | succ room ih =>
      intro items expanded memo expands deep table
      dsimp only [Expanded.depth] at deep
      obtain ⟨left, loop⟩ := totalOf_complete (nodesOf_sound room) ih expands (by omega) 0 table
      exact ⟨left, by rw [nodesOf, loop, Nat.zero_add]⟩

/-! ### The sum comes to an end -/

section

variable (fragments) in
/-- The call comes to an end: with enough room it raises no `RecursionError`. -/
def NodesStops (items : List Selection) : Prop :=
  ∃ enough, ∀ room, enough ≤ room → ∀ memo, nodesOf fragments room items memo ≠ .error .recursionError

variable (fragments) in
/-- How `_nodes_of` walks through a selection set. -/
def nodesWalk : Walk PyError where
  loop room := totalOf fragments (nodesOf fragments room)
  below room := nodesBelow fragments (nodesOf fragments room)
  call := nodesOf fragments
  join total below := total + 1 + below
  finish total := total
  loop_nil _ _ _ := rfl
  loop_cons _ _ _ _ _ := rfl
  below_leaf seen _ memo := nodesBelow_leaf seen memo
  below_nest seen _ memo := nodesBelow_nest seen memo
  call_succ room items memo := by
    show totalOf fragments (nodesOf fragments room) items 0 memo = _
    cases totalOf fragments (nodesOf fragments room) items 0 memo with
    | ok found => rfl
    | error error => rfl

variable {items : List Selection}

/-- A spread whose fragment comes to an end. -/
theorem nodesSpread_stops {name : String} (directives : List Directive)
    (parts : ∀ part, fragments.get name = some part → NodesStops fragments part) :
    (nodesWalk fragments).BelowStops .recursionError (.fragmentSpread name directives) := by
  cases found : fragments.get name with
  | none =>
      refine ⟨0, fun room _ memo => ?_⟩
      dsimp only [nodesWalk, nodesBelow]
      rw [found]
      cases memo.get name <;> nofun
  | some part =>
      obtain ⟨enough, stops⟩ := parts part found
      refine ⟨enough, fun room more memo => ?_⟩
      dsimp only [nodesWalk, nodesBelow]
      rw [found]
      cases memo.get name with
      | some known => nofun
      | none => exact bind_ne_error (stops room more memo) nofun

/-- **`_nodes_of` comes to an end where no fragment spreads itself.** -/
theorem nodesOf_stops (acyclic : Acyclic Selection.view (Dict.get fragments) items) : NodesStops fragments items := by
  refine acyclic.induction fragments_finite (motive := NodesStops fragments) ?_
  intro part _ ih
  have spreads := fun name there directives => nodesSpread_stops directives (ih name · there)
  exact (Walk.loopStops part spreads).call

end

/-- The document `{...f} fragment f on Query {...f}`, where the one fragment spreads itself: each call
for the fragment makes the next one before the table has its sum. -/
theorem nodesOf_runs_on :
    ¬ NodesStops (fragmentsOf [.fragment "f" [.fragmentSpread "f" []]]) [.fragmentSpread "f" []] := by
  have always : ∀ room, nodesOf (fragmentsOf [.fragment "f" [.fragmentSpread "f" []]]) room
      [.fragmentSpread "f" []] [] = .error .recursionError := by
    intro room
    induction room with
    | zero => rfl
    | succ room ih =>
        have next : nodesBelow (fragmentsOf [.fragment "f" [.fragmentSpread "f" []]])
            (nodesOf (fragmentsOf [.fragment "f" [.fragmentSpread "f" []]]) room) [] (.fragmentSpread "f" []) =
            .error .recursionError := by
          dsimp only [nodesBelow, Dict.get_nil]
          rw [show Dict.get (fragmentsOf [.fragment "f" [.fragmentSpread "f" []]]) "f" =
            some [.fragmentSpread "f" []] from rfl]
          dsimp only
          rw [ih]
          rfl
        dsimp only [nodesOf, totalOf]
        rw [next]
        rfl
  rintro ⟨enough, stops⟩
  exact stops enough le_rfl [] (always enough)

end ProviderSimulator.GraphqlDocument
