/-
**Lists of items with named parts.**

An item of a list is a leaf, or it nests another list, or it names a part, and a part is a list of items again
(`View`, and `parts` for the list of a name). `Expanded` is such a list with every part put in its place, and
`Expands` says which one it is.

* `Spreads` and `Reaches` — the names that a list holds, and those that it gets to through parts;
* `Expands.unique` — a list has at most one expansion;
* `Expands.part` — the expansion of each part that a list gets to lies strictly deeper in its own;
* `expands_iff` — a list has an expansion if and only if each part that it gets to is there and none gets to
  itself;
* `Sized.induction` and `Acyclic.induction` — a property of lists, item by item and part by part;
* `Table` — a table of parts with a measure of their expansions.
-/

import Mathlib.Tactic.Common
import Mathlib.Data.Fintype.Card
import Mathlib.Data.Set.Finite.List
import ProviderSimulator.Lib.Dict

namespace ProviderSimulator.Lib

/-- What an item is. -/
inductive View (S K : Type)
  | leaf
  | nest (items : List S)
  | call (name : K)

/-- A list of items with what stands below each one: nothing below a leaf, and a list below any other. -/
inductive Expanded (S : Type)
  | nil
  | leaf (item : S) (rest : Expanded S)
  | nest (item : S) (inner rest : Expanded S)

namespace Expanded

variable {S : Type}

/-- How many lists deep it goes below the list itself. -/
def deepest : Expanded S → ℕ
  | nil => 0
  | leaf _ rest => rest.deepest
  | nest _ inner rest => max (1 + inner.deepest) rest.deepest

/-- How many lists deep it goes, the list itself included. -/
def depth (items : Expanded S) : ℕ := 1 + items.deepest

/-- How many items it holds, at every depth. -/
def nodes : Expanded S → ℕ
  | nil => 0
  | leaf _ rest => 1 + rest.nodes
  | nest _ inner rest => 1 + inner.nodes + rest.nodes

end Expanded

section

variable {S K : Type} (view : S → View S K) (parts : K → Option (List S))

/-- The list holds the name, at any depth. -/
inductive Spreads : List S → K → Prop
  | here {item : S} {rest : List S} {name : K} : view item = .call name → Spreads (item :: rest) name
  | within {item : S} {items rest : List S} {name : K} : view item = .nest items → Spreads items name →
      Spreads (item :: rest) name
  | later {item : S} {rest : List S} {name : K} : Spreads rest name → Spreads (item :: rest) name

/-- The list gets to the name: it holds it, or one of its parts gets to it. -/
inductive Reaches : List S → K → Prop
  | spread {items : List S} {name : K} : Spreads view items name → Reaches items name
  | through {items part : List S} {name other : K} : Spreads view items name → parts name = some part →
      Reaches part other → Reaches items other

/-- Each part that the list gets to is there. -/
def Defined (items : List S) : Prop := ∀ name, Reaches view parts items name → (parts name).isSome = true

/-- No part that the list gets to gets to itself. -/
def Acyclic (items : List S) : Prop :=
  ∀ name part, Reaches view parts items name → parts name = some part → ¬ Reaches view parts part name

/-- The list with every part in its place. -/
inductive Expands : List S → Expanded S → Prop
  | nil : Expands [] .nil
  | leaf {item : S} {rest : List S} {others : Expanded S} : view item = .leaf → Expands rest others →
      Expands (item :: rest) (.leaf item others)
  | nest {item : S} {items rest : List S} {inner others : Expanded S} : view item = .nest items →
      Expands items inner → Expands rest others → Expands (item :: rest) (.nest item inner others)
  | call {item : S} {name : K} {part rest : List S} {inner others : Expanded S} : view item = .call name →
      parts name = some part → Expands part inner → Expands rest others →
      Expands (item :: rest) (.nest item inner others)

variable {view parts}

theorem Reaches.later {item : S} {rest : List S} {name : K} (reaches : Reaches view parts rest name) :
    Reaches view parts (item :: rest) name := by
  cases reaches with
  | spread here => exact .spread (.later here)
  | through here found goes => exact .through (.later here) found goes

theorem Reaches.within {item : S} {items rest : List S} {name : K} (nested : view item = .nest items)
    (reaches : Reaches view parts items name) : Reaches view parts (item :: rest) name := by
  cases reaches with
  | spread here => exact .spread (.within nested here)
  | through here found goes => exact .through (.within nested here) found goes

theorem Reaches.call {item : S} {part rest : List S} {name other : K} (called : view item = .call name)
    (found : parts name = some part) (reaches : Reaches view parts part other) :
    Reaches view parts (item :: rest) other :=
  .through (.here called) found reaches

theorem Reaches.trans {items part : List S} {name other : K} (first : Reaches view parts items name)
    (found : parts name = some part) (second : Reaches view parts part other) : Reaches view parts items other := by
  induction first with
  | spread here => exact .through here found second
  | through here inner _ ih => exact .through here inner (ih found)

/-! ### Expansions -/

/-- **A list has at most one expansion.** -/
theorem Expands.unique {items : List S} {first second : Expanded S} (one : Expands view parts items first)
    (two : Expands view parts items second) : first = second := by
  induction one generalizing second with
  | nil =>
      cases two
      rfl
  | leaf leaf _ ih =>
      cases two with
      | leaf _ others => rw [ih others]
      | nest nested _ _ => cases leaf.symm.trans nested
      | call called _ _ _ => cases leaf.symm.trans called
  | nest nested _ _ ihInner ih =>
      cases two with
      | leaf leaf _ => cases nested.symm.trans leaf
      | nest same inner others =>
          cases nested.symm.trans same
          rw [ihInner inner, ih others]
      | call called _ _ _ => cases nested.symm.trans called
  | call called found _ _ ihInner ih =>
      cases two with
      | leaf leaf _ => cases called.symm.trans leaf
      | nest nested _ _ => cases called.symm.trans nested
      | call same there inner others =>
          cases called.symm.trans same
          cases found.symm.trans there
          rw [ihInner inner, ih others]

/-- The expansion of a part that the list names lies strictly deeper. -/
theorem Expands.spread {items : List S} {expanded : Expanded S} (expands : Expands view parts items expanded)
    {name : K} (spreads : Spreads view items name) :
    ∃ part inner, parts name = some part ∧ Expands view parts part inner ∧ inner.deepest < expanded.deepest := by
  induction expands with
  | nil => cases spreads
  | leaf leaf _ ih =>
      cases spreads with
      | here called => cases leaf.symm.trans called
      | within nested _ => cases leaf.symm.trans nested
      | later there => exact ih there
  | nest nested _ _ ihInner ih =>
      cases spreads with
      | here called => cases nested.symm.trans called
      | within same there =>
          cases nested.symm.trans same
          obtain ⟨part, inner, found, expands, deeper⟩ := ihInner there
          refine ⟨part, inner, found, expands, ?_⟩
          dsimp only [Expanded.deepest]
          omega
      | later there =>
          obtain ⟨part, inner, found, expands, deeper⟩ := ih there
          refine ⟨part, inner, found, expands, ?_⟩
          dsimp only [Expanded.deepest]
          omega
  | @call _ _ part _ inner _ called found expands _ _ ih =>
      cases spreads with
      | here same =>
          cases called.symm.trans same
          refine ⟨part, inner, found, expands, ?_⟩
          dsimp only [Expanded.deepest]
          omega
      | within nested _ => cases called.symm.trans nested
      | later there =>
          obtain ⟨part, inner, found, expands, deeper⟩ := ih there
          refine ⟨part, inner, found, expands, ?_⟩
          dsimp only [Expanded.deepest]
          omega

/-- **The expansion of each part that the list gets to lies strictly deeper.** -/
theorem Expands.part {items : List S} {name : K} (reaches : Reaches view parts items name) {expanded : Expanded S}
    (expands : Expands view parts items expanded) :
    ∃ part inner, parts name = some part ∧ Expands view parts part inner ∧ inner.deepest < expanded.deepest := by
  induction reaches generalizing expanded with
  | spread here => exact expands.spread here
  | through here found _ ih =>
      obtain ⟨part, inner, there, within, deeper⟩ := expands.spread here
      cases found.symm.trans there
      obtain ⟨last, innermost, lastFound, lastExpands, deepest⟩ := ih within
      exact ⟨last, innermost, lastFound, lastExpands, deepest.trans deeper⟩

theorem Expands.defined {items : List S} {expanded : Expanded S} (expands : Expands view parts items expanded) :
    Defined view parts items := by
  intro name reaches
  obtain ⟨part, _, found, -⟩ := expands.part reaches
  rw [found]
  rfl

/-- A list with an expansion does not get to a part that gets to itself: its expansion would lie in itself. -/
theorem Expands.acyclic {items : List S} {expanded : Expanded S} (expands : Expands view parts items expanded) :
    Acyclic view parts items := by
  intro name part reaches found cycle
  obtain ⟨same, inner, there, within, -⟩ := expands.part reaches
  cases found.symm.trans there
  obtain ⟨again, innermost, againFound, againExpands, deeper⟩ := within.part cycle
  cases found.symm.trans againFound
  rw [againExpands.unique within] at deeper
  exact lt_irrefl _ deeper

/-! ### Every list without a cycle -/

variable (view) in
/-- A measure of lists: the rest of a list is smaller, and so is a list that an item of it nests. -/
structure Sized (size : List S → ℕ) : Prop where
  rest : ∀ item rest, size rest < size (item :: rest)
  nested : ∀ item rest items, view item = .nest items → size items < size (item :: rest)

/-- **Induction over the items of a list.** -/
theorem Sized.induction {size : List S → ℕ} (sized : Sized view size) {motive : List S → Prop} (nil : motive [])
    (leaf : ∀ item rest, view item = .leaf → motive rest → motive (item :: rest))
    (nest : ∀ item rest items, view item = .nest items → motive items → motive rest → motive (item :: rest))
    (call : ∀ item rest name, view item = .call name → motive rest → motive (item :: rest)) (items : List S) :
    motive items := by
  induction measured : size items using Nat.strong_induction_on generalizing items with
  | _ bound ih =>
      subst measured
      cases items with
      | nil => exact nil
      | cons item rest =>
          have later : motive rest := ih _ (sized.rest item rest) rest rfl
          cases seen : view item with
          | leaf => exact leaf item rest seen later
          | nest items => exact nest item rest items seen (ih _ (sized.nested item rest items seen) items rfl) later
          | call name => exact call item rest name seen later

/-- A list whose parts have expansions has one. -/
theorem expands_of_parts {size : List S → ℕ} (sized : Sized view size) (items : List S) :
    (∀ name, Spreads view items name → ∃ part inner, parts name = some part ∧ Expands view parts part inner) →
      ∃ expanded, Expands view parts items expanded := by
  induction items using sized.induction with
  | nil => exact fun _ => ⟨.nil, .nil⟩
  | leaf item rest seen ih =>
      intro known
      obtain ⟨others, later⟩ := ih fun name there => known name (.later there)
      exact ⟨.leaf item others, .leaf seen later⟩
  | nest item rest items seen ihInner ih =>
      intro known
      obtain ⟨inner, within⟩ := ihInner fun name there => known name (.within seen there)
      obtain ⟨others, later⟩ := ih fun name there => known name (.later there)
      exact ⟨.nest item inner others, .nest seen within later⟩
  | call item rest name seen ih =>
      intro known
      obtain ⟨part, inner, found, within⟩ := known name (.here seen)
      obtain ⟨others, later⟩ := ih fun name there => known name (.later there)
      exact ⟨.nest item inner others, .call seen found within later⟩

section

variable {names : List K} (finite : ∀ name, (parts name).isSome = true → name ∈ names) {items : List S}
include finite

/-- **Induction over the parts of a list without a cycle.** The parts that the list gets to are finitely many, so
the relation between a part and those that it gets to is well founded. -/
theorem Acyclic.induction (acyclic : Acyclic view parts items) {motive : List S → Prop}
    (step : ∀ part, (part = items ∨ ∃ name, Reaches view parts items name ∧ parts name = some part) →
      (∀ name inner, Spreads view part name → parts name = some inner → motive inner) → motive part) :
    motive items := by
  let Reached := { name : K // name ∈ names ∧ Reaches view parts items name }
  have finitely : Finite Reached := (Set.Finite.subset (List.finite_toSet names) fun _ both => both.1).to_subtype
  let Below : Reached → Reached → Prop := fun lower upper =>
    ∃ part, parts upper.1 = some part ∧ Reaches view parts part lower.1
  have transitive : IsTrans Reached Below := by
    refine ⟨?_⟩
    rintro first second third ⟨inner, innerFound, toFirst⟩ ⟨part, found, toSecond⟩
    exact ⟨part, found, toSecond.trans innerFound toFirst⟩
  have irreflexive : Std.Irrefl Below := by
    refine ⟨?_⟩
    rintro name ⟨part, found, cycle⟩
    exact acyclic name.1 part name.2.2 found cycle
  have known : ∀ {name part}, parts name = some part → name ∈ names := fun found =>
    finite _ (by rw [found]; rfl)
  have each : ∀ (name : Reached) part, parts name.1 = some part → motive part := by
    intro name
    induction name using (Finite.wellFounded_of_trans_of_irrefl Below).induction with
    | _ name ih =>
        intro part found
        refine step part (.inr ⟨name.1, name.2.2, found⟩) fun other inner there innerFound => ?_
        have onward : Reaches view parts items other := name.2.2.trans found (.spread there)
        exact ih ⟨other, known innerFound, onward⟩ ⟨part, found, .spread there⟩ inner innerFound
  refine step items (.inl rfl) fun name part there found => ?_
  exact each ⟨name, known found, .spread there⟩ part found

variable {size : List S → ℕ} (sized : Sized view size)
include sized

/-- **A list whose parts are there and have no cycle has an expansion.** -/
theorem expands_of_acyclic (defined : Defined view parts items) (acyclic : Acyclic view parts items) :
    ∃ expanded, Expands view parts items expanded := by
  refine acyclic.induction finite (motive := fun part => ∃ expanded, Expands view parts part expanded) ?_
  intro part among ih
  refine expands_of_parts sized part fun name there => ?_
  have reached : Reaches view parts items name := by
    rcases among with rfl | ⟨outer, reaches, found⟩
    · exact .spread there
    · exact reaches.trans found (.spread there)
  obtain ⟨inner, found⟩ := Option.isSome_iff_exists.mp (defined name reached)
  obtain ⟨expanded, expands⟩ := ih name inner there found
  exact ⟨inner, expanded, found, expands⟩

/-- **Which lists have an expansion.** -/
theorem expands_iff :
    (∃ expanded, Expands view parts items expanded) ↔ Defined view parts items ∧ Acyclic view parts items := by
  constructor
  · rintro ⟨expanded, expands⟩
    exact ⟨expands.defined, expands.acyclic⟩
  · rintro ⟨defined, acyclic⟩
    exact expands_of_acyclic finite sized defined acyclic

end

/-! ### Tables of measures -/

section

variable [DecidableEq K]

variable (view parts) in
/-- Each entry of the table is the measure of the expansion of its part. -/
def Table (measure : Expanded S → ℕ) (memo : Dict K ℕ) : Prop :=
  ∀ name value, memo.get name = some value →
    ∃ part expanded, parts name = some part ∧ Expands view parts part expanded ∧ measure expanded = value

variable {measure : Expanded S → ℕ} {memo : Dict K ℕ}

theorem table_nil : Table view parts measure [] := nofun

theorem Table.set (table : Table view parts measure memo) {name : K} {part : List S} {expanded : Expanded S}
    (found : parts name = some part) (expands : Expands view parts part expanded) :
    Table view parts measure (memo.set name (measure expanded)) := by
  intro other value stored
  rw [Dict.get_set] at stored
  split at stored
  · next same =>
      subst same
      cases stored
      exact ⟨part, expanded, found, expands, rfl⟩
  · exact table other value stored

/-- The entry of a part whose expansion is known. -/
theorem Table.entry (table : Table view parts measure memo) {name : K} {part : List S} {expanded : Expanded S}
    {value : ℕ} (stored : memo.get name = some value) (found : parts name = some part)
    (expands : Expands view parts part expanded) : value = measure expanded := by
  obtain ⟨same, again, there, expandsAgain, measured⟩ := table name value stored
  cases found.symm.trans there
  rw [← measured, expandsAgain.unique expands]

end

end

end ProviderSimulator.Lib
