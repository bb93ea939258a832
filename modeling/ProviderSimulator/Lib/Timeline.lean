/-
**Groups of a timeline.**

The items of a timeline have a key and a time. An item joins the group of its key where it lies within a window after
the first item of that group, and starts a new group otherwise. The groups of many keys lie in one another.

* `place` — one more item; `correlate` — all of them;
* `Sound` — what holds of a timeline so far, and `Sound.place` — one more item keeps it;
* `starts_iff` — when an item starts a group;
* `same_group_iff` — **two items are in one group if and only if** they have one key and lie within the window after the
  first item of the group;
* `eraseDups_groups` — the groups are numbered from one on, in the order of their first items;
* `byTime` — the items in the order of their times, and `byTime_filter` — the sort is stable.
-/

import Mathlib.Tactic.Common
import Mathlib.Tactic.Linarith
import Mathlib.Data.List.Induction
import ProviderSimulator.Lib.Dict

namespace ProviderSimulator.Lib.Timeline

theorem eraseDups_append_singleton (numbers : List ℕ) (number : ℕ) :
    (numbers ++ [number]).eraseDups = numbers.eraseDups ++ if number ∈ numbers then [] else [number] := by
  have rest : [number].removeAll numbers = if number ∈ numbers then [] else [number] := by
    unfold List.removeAll
    by_cases there : number ∈ numbers
    · simp [there]
    · simp [there]
  rw [List.eraseDups_append, rest]
  by_cases there : number ∈ numbers
  · rw [if_pos there]
    rfl
  · rw [if_neg there]
    rfl

/-- An item with its place in the timeline and its group. -/
structure Placed (A : Type) where
  item : A
  order : ℕ
  group : ℕ

/-- The current group of each key with the time of its first item, the count of the groups, and the items so far. -/
structure State (A K : Type) where
  groups : Dict K (ℕ × ℚ)
  count : ℕ
  placed : List (Placed A)

variable {A K : Type} [DecidableEq K] (key : A → K) (time : A → ℚ) (window : ℚ)

/-- The item joins a group. -/
def State.join (state : State A K) (item : A) (group : ℕ) : State A K :=
  { state with placed := state.placed ++ [⟨item, state.placed.length + 1, group⟩] }

/-- The item starts a group. -/
def State.start (state : State A K) (item : A) : State A K where
  groups := state.groups.set (key item) (state.count + 1, time item)
  count := state.count + 1
  placed := state.placed ++ [⟨item, state.placed.length + 1, state.count + 1⟩]

/-- One more item. -/
def place (state : State A K) (item : A) : State A K :=
  match state.groups.get (key item) with
  | some (group, first) => if time item - first ≤ window then state.join item group else state.start key time item
  | none => state.start key time item

/-- The timeline of some items. -/
def timeline (items : List A) : State A K := items.foldl (place key time window) ⟨[], 0, []⟩

/-- **The items with their places and their groups.** -/
def correlate (items : List A) : List (Placed A) := (timeline key time window items).placed

/-! ### Sorting by time -/

section

variable (items : List A)

/-- Is the item not later than the other one? -/
def notLater (one other : A) : Bool := time one ≤ time other

/-- The items in the order of their times. -/
def byTime : List A := items.mergeSort (notLater time)

theorem notLater_trans (one other third : A) (first : notLater time one other = true)
    (second : notLater time other third = true) : notLater time one third = true :=
  decide_eq_true ((of_decide_eq_true first).trans (of_decide_eq_true second))

theorem notLater_total (one other : A) : (notLater time one other || notLater time other one) = true := by
  unfold notLater
  rw [Bool.or_eq_true, decide_eq_true_eq, decide_eq_true_eq]
  exact le_total _ _

theorem byTime_perm : (byTime time items).Perm items := List.mergeSort_perm _ _

theorem byTime_sorted : (byTime time items).Pairwise fun one other => time one ≤ time other :=
  (List.pairwise_mergeSort (notLater_trans time) (notLater_total time) items).imp of_decide_eq_true

/-- **The sort is stable**: items of one time keep their order. -/
theorem byTime_filter (moment : ℚ) :
    (byTime time items).filter (fun item => time item = moment) = items.filter fun item => time item = moment := by
  -- Items of one time are in order already, so they are a part of the sorted list.
  have ordered : (items.filter fun item => time item = moment).Pairwise fun one other => notLater time one other := by
    refine List.pairwise_of_forall_mem_list fun one first other second => decide_eq_true ?_
    rw [of_decide_eq_true (List.mem_filter.mp first).2, of_decide_eq_true (List.mem_filter.mp second).2]
  have part := List.sublist_mergeSort (notLater_trans time) (notLater_total time) ordered List.filter_sublist
  have inside := part.filter fun item => decide (time item = moment)
  rw [List.filter_filter] at inside
  simp only [Bool.and_self] at inside
  exact (inside.eq_of_length ((byTime_perm time items).filter _).length_eq.symm).symm

end

/-! ### First and last items -/

/-- The first item of a group. -/
def firstOf (placed : List (Placed A)) (group : ℕ) : Option (Placed A) := placed.find? fun found => found.group = group

/-- The last item of a key. -/
def lastOf (placed : List (Placed A)) (wanted : K) : Option (Placed A) :=
  placed.reverse.find? fun found => key found.item = wanted

section

variable {placed : List (Placed A)} {found first : Placed A} {group : ℕ} {wanted : K}

theorem firstOf_append (placed later : List (Placed A)) (group : ℕ) :
    firstOf (placed ++ later) group = (firstOf placed group).or (firstOf later group) := List.find?_append

/-- The first item of a group stays the first one. -/
theorem firstOf_append_of_some (later : List (Placed A)) (is : firstOf placed group = some first) :
    firstOf (placed ++ later) group = some first := by
  rw [firstOf_append, is]
  rfl

theorem firstOf_append_of_mem (later : List (Placed A)) (member : found ∈ placed) :
    firstOf (placed ++ later) found.group = firstOf placed found.group := by
  cases is : firstOf placed found.group with
  | some first => exact firstOf_append_of_some later is
  | none =>
      have none := List.find?_eq_none.mp is found member
      simp at none

/-- Every group of an item has a first one. -/
theorem firstOf_of_mem (member : found ∈ placed) : ∃ first, firstOf placed found.group = some first := by
  cases is : firstOf placed found.group with
  | some first => exact ⟨first, rfl⟩
  | none =>
      have none := List.find?_eq_none.mp is found member
      simp at none

theorem firstOf_spec (is : firstOf placed group = some first) : first ∈ placed ∧ first.group = group :=
  ⟨List.mem_of_find?_eq_some is, by simpa using List.find?_some is⟩

theorem lastOf_append_singleton (placed : List (Placed A)) (found : Placed A) (wanted : K) :
    lastOf key (placed ++ [found]) wanted = if key found.item = wanted then some found else lastOf key placed wanted := by
  unfold lastOf
  rw [List.reverse_append, List.reverse_singleton, List.singleton_append, List.find?_cons]
  by_cases same : key found.item = wanted
  · simp [same]
  · simp [same]

variable {key}

theorem lastOf_spec (is : lastOf key placed wanted = some found) : found ∈ placed ∧ key found.item = wanted :=
  ⟨List.mem_reverse.mp (List.mem_of_find?_eq_some is), by simpa using List.find?_some is⟩

variable (key) in
theorem lastOf_of_mem (member : found ∈ placed) : ∃ last, lastOf key placed (key found.item) = some last := by
  cases is : lastOf key placed (key found.item) with
  | some last => exact ⟨last, rfl⟩
  | none =>
      have none := List.find?_eq_none.mp is found (List.mem_reverse.mpr member)
      simp at none

end

/-- **What holds of a timeline so far.** -/
structure Sound (state : State A K) : Prop where
  /-- The current group of a key is the one of its last item. -/
  current : ∀ wanted, state.groups.get wanted = (lastOf key state.placed wanted).bind fun last =>
    (firstOf state.placed last.group).map fun first => (last.group, time first.item)
  /-- The items of a group have one key. -/
  keys : ∀ one ∈ state.placed, ∀ other ∈ state.placed, one.group = other.group → key one.item = key other.item
  /-- An item lies within the window of its group. -/
  within : ∀ found ∈ state.placed, ∀ first, firstOf state.placed found.group = some first →
    time found.item - time first.item ≤ window
  /-- The current group of a key starts after the window of every older one. -/
  apart : ∀ found ∈ state.placed, ∀ group start, state.groups.get (key found.item) = some (group, start) →
    found.group ≠ group → ∀ first, firstOf state.placed found.group = some first → window < start - time first.item
  groups : (state.placed.map Placed.group).eraseDups = List.range' 1 state.count
  orders : state.placed.map Placed.order = List.range' 1 state.placed.length

namespace Sound

variable {key time window} {state : State A K} (sound : Sound key time window state)

include sound

/-- The current group of a key, with its last item and its first one. -/
theorem current_some {wanted : K} {group : ℕ} {start : ℚ} (is : state.groups.get wanted = some (group, start)) :
    ∃ last first, lastOf key state.placed wanted = some last ∧ last.group = group ∧
      firstOf state.placed group = some first ∧ time first.item = start := by
  rw [sound.current, Option.bind_eq_some_iff] at is
  obtain ⟨last, isLast, mapped⟩ := is
  rw [Option.map_eq_some_iff] at mapped
  obtain ⟨first, isFirst, same⟩ := mapped
  cases same
  exact ⟨last, first, isLast, rfl, isFirst, rfl⟩

/-- The key of an item has a current group. -/
theorem current_of_mem {found : Placed A} (member : found ∈ state.placed) :
    ∃ group start, state.groups.get (key found.item) = some (group, start) := by
  obtain ⟨last, isLast⟩ := lastOf_of_mem key member
  obtain ⟨first, isFirst⟩ := firstOf_of_mem (lastOf_spec isLast).1
  refine ⟨last.group, time first.item, ?_⟩
  rw [sound.current, isLast, Option.bind_some, isFirst]
  rfl

/-- The first item of the current group has the time that is kept. -/
theorem start_eq {found first : Placed A} {group : ℕ} {start : ℚ}
    (is : state.groups.get (key found.item) = some (group, start)) (current : found.group = group)
    (isFirst : firstOf state.placed found.group = some first) : time first.item = start := by
  obtain ⟨last, other, -, -, isOther, same⟩ := sound.current_some is
  rw [current, isOther] at isFirst
  cases isFirst
  exact same

theorem group_le {found : Placed A} (member : found ∈ state.placed) : found.group ≤ state.count := by
  have inside : found.group ∈ (state.placed.map Placed.group).eraseDups :=
    List.mem_eraseDups.mpr (List.mem_map_of_mem member)
  rw [sound.groups, List.mem_range'_1] at inside
  omega

/-- A last item that is not the new one. -/
theorem current_append {found : Placed A} {wanted : K} (other : key found.item ≠ wanted) :
    ((lastOf key (state.placed ++ [found]) wanted).bind fun last =>
      (firstOf (state.placed ++ [found]) last.group).map fun first => (last.group, time first.item)) =
        state.groups.get wanted := by
  rw [sound.current, lastOf_append_singleton, if_neg other]
  cases isLast : lastOf key state.placed wanted with
  | none => rfl
  | some last => rw [Option.bind_some, Option.bind_some, firstOf_append_of_mem _ (lastOf_spec isLast).1]

theorem orders_append (item : A) (group : ℕ) :
    (state.placed ++ [(⟨item, state.placed.length + 1, group⟩ : Placed A)]).map Placed.order =
      List.range' 1 (state.placed ++ [(⟨item, state.placed.length + 1, group⟩ : Placed A)]).length := by
  rw [List.map_append, sound.orders, List.length_append, List.length_singleton, List.range'_concat, Nat.one_mul,
    Nat.add_comm 1]
  rfl

/-- **An item that joins a group.** -/
theorem join {item : A} {group : ℕ} {start : ℚ} (is : state.groups.get (key item) = some (group, start))
    (near : time item - start ≤ window) : Sound key time window (state.join item group) := by
  obtain ⟨last, first, isLast, rfl, isFirst, rfl⟩ := sound.current_some is
  obtain ⟨lastMember, lastKey⟩ := lastOf_spec isLast
  have joined : ∀ found ∈ state.placed, found.group = last.group → key found.item = key item := fun found member same =>
    (sound.keys found member last lastMember same).trans lastKey
  refine ⟨?_, ?_, ?_, ?_, ?_, sound.orders_append item _⟩
  · intro wanted
    by_cases same : key item = wanted
    · change state.groups.get wanted = _
      unfold State.join
      dsimp only
      rw [lastOf_append_singleton, if_pos same, Option.bind_some, firstOf_append_of_some _ isFirst, ← same, is]
      rfl
    · exact (sound.current_append same).symm
  · intro one oneMember other otherMember same
    rcases List.mem_append.mp oneMember with oneOld | oneNew
    · rcases List.mem_append.mp otherMember with otherOld | otherNew
      · exact sound.keys one oneOld other otherOld same
      · obtain rfl := List.mem_singleton.mp otherNew
        exact joined one oneOld same
    · obtain rfl := List.mem_singleton.mp oneNew
      rcases List.mem_append.mp otherMember with otherOld | otherNew
      · exact (joined other otherOld same.symm).symm
      · obtain rfl := List.mem_singleton.mp otherNew
        rfl
  · intro found member other isOther
    rcases List.mem_append.mp member with old | new
    · change firstOf (state.placed ++ _) _ = _ at isOther
      rw [firstOf_append_of_mem _ old] at isOther
      exact sound.within found old other isOther
    · obtain rfl := List.mem_singleton.mp new
      change firstOf (state.placed ++ _) _ = _ at isOther
      rw [firstOf_append_of_some _ isFirst] at isOther
      cases isOther
      exact near
  · intro found member group start isCurrent older other isOther
    rcases List.mem_append.mp member with old | new
    · change firstOf (state.placed ++ _) _ = _ at isOther
      rw [firstOf_append_of_mem _ old] at isOther
      exact sound.apart found old group start isCurrent older other isOther
    · obtain rfl := List.mem_singleton.mp new
      have same := is.symm.trans isCurrent
      injection same with same
      injection same with same
      exact absurd same older
  · have there : last.group ∈ state.placed.map Placed.group := List.mem_map_of_mem lastMember
    change ((state.placed ++ _).map Placed.group).eraseDups = _
    rw [List.map_append, List.map_singleton, eraseDups_append_singleton, if_pos there, List.append_nil, sound.groups]
    rfl

/-- **An item that starts a group.** -/
theorem start (positive : 0 ≤ window) {item : A}
    (far : ∀ group start, state.groups.get (key item) = some (group, start) → window < time item - start) :
    Sound key time window (state.start key time item) := by
  have fresh : ∀ found ∈ state.placed, found.group ≠ state.count + 1 := fun found member same => by
    have small := sound.group_le member
    omega
  have none : firstOf state.placed (state.count + 1) = none := by
    refine List.find?_eq_none.mpr fun found member => ?_
    simpa using fresh found member
  have itself : firstOf (state.placed ++ [⟨item, state.placed.length + 1, state.count + 1⟩]) (state.count + 1) =
      some ⟨item, state.placed.length + 1, state.count + 1⟩ := by
    rw [firstOf_append, none]
    simp [firstOf]
  refine ⟨?_, ?_, ?_, ?_, ?_, sound.orders_append item _⟩
  · intro wanted
    unfold State.start
    dsimp only
    by_cases same : key item = wanted
    · rw [lastOf_append_singleton, if_pos same, Option.bind_some, itself, same, Dict.get_set_self]
      rfl
    · rw [sound.current_append same, Dict.get_set_of_ne _ same]
  · intro one oneMember other otherMember same
    rcases List.mem_append.mp oneMember with oneOld | oneNew
    · rcases List.mem_append.mp otherMember with otherOld | otherNew
      · exact sound.keys one oneOld other otherOld same
      · obtain rfl := List.mem_singleton.mp otherNew
        exact absurd same (fresh one oneOld)
    · obtain rfl := List.mem_singleton.mp oneNew
      rcases List.mem_append.mp otherMember with otherOld | otherNew
      · exact absurd same.symm (fresh other otherOld)
      · obtain rfl := List.mem_singleton.mp otherNew
        rfl
  · intro found member other isOther
    change firstOf (state.placed ++ _) _ = _ at isOther
    rcases List.mem_append.mp member with old | new
    · rw [firstOf_append_of_mem _ old] at isOther
      exact sound.within found old other isOther
    · obtain rfl := List.mem_singleton.mp new
      rw [itself] at isOther
      cases isOther
      rw [sub_self]
      exact positive
  · intro found member group start isCurrent older other isOther
    change firstOf (state.placed ++ _) _ = _ at isOther
    change (state.groups.set (key item) (state.count + 1, time item)).get _ = _ at isCurrent
    rcases List.mem_append.mp member with old | new
    · rw [firstOf_append_of_mem _ old] at isOther
      by_cases same : key item = key found.item
      · rw [same, Dict.get_set_self] at isCurrent
        cases isCurrent
        -- The group that was current until now lies between.
        obtain ⟨before, since, isBefore⟩ := sound.current_of_mem old
        have gap := far before since (same ▸ isBefore)
        by_cases last : found.group = before
        · rw [sound.start_eq isBefore last isOther]
          exact gap
        · have earlier := sound.apart found old before since isBefore last other isOther
          linarith
      · rw [Dict.get_set_of_ne _ same] at isCurrent
        exact sound.apart found old group start isCurrent older other isOther
    · obtain rfl := List.mem_singleton.mp new
      rw [Dict.get_set_self] at isCurrent
      cases isCurrent
      exact absurd rfl older
  · have absent : state.count + 1 ∉ state.placed.map Placed.group := by
      intro inside
      obtain ⟨found, member, same⟩ := List.mem_map.mp inside
      exact fresh found member same
    change ((state.placed ++ _).map Placed.group).eraseDups = List.range' 1 (state.count + 1)
    rw [List.map_append, List.map_singleton, eraseDups_append_singleton, if_neg absent, sound.groups, List.range'_concat,
      Nat.one_mul, Nat.add_comm 1]

/-- **One more item.** -/
theorem place (positive : 0 ≤ window) (item : A) : Sound key time window (place key time window state item) := by
  unfold Timeline.place
  cases is : state.groups.get (key item) with
  | none => exact sound.start positive fun group start found => nomatch is.symm.trans found
  | some current =>
      obtain ⟨group, first⟩ := current
      dsimp only
      by_cases near : time item - first ≤ window
      · rw [if_pos near]
        exact sound.join is near
      · rw [if_neg near]
        refine sound.start positive fun other start found => ?_
        cases is.symm.trans found
        exact not_le.mp near

/-- The group of one more item that is not earlier than the others: the one of each item of its key that it lies near. -/
theorem group_eq_iff (positive : 0 ≤ window) {item : A} {placed : Placed A}
    (sorted : ∀ found ∈ state.placed, time found.item ≤ time item)
    (is : (Timeline.place key time window state item).placed = state.placed ++ [placed]) {found : Placed A}
    (member : found ∈ state.placed) :
    found.group = placed.group ↔ key found.item = key item ∧
      ∀ first, firstOf state.placed found.group = some first → time item - time first.item ≤ window := by
  obtain ⟨group, start, current⟩ := sound.current_of_mem member
  obtain ⟨first, isFirst⟩ := firstOf_of_mem member
  -- An item of the key of the new one, in an older group, lies too far behind.
  have older : key found.item = key item → found.group ≠ group → window < start - time first.item :=
    fun _ other => sound.apart found member group start current other first isFirst
  unfold Timeline.place at is
  cases now : state.groups.get (key item) with
  | none =>
      simp only [now, State.start, List.append_cancel_left_eq, List.cons.injEq, and_true] at is
      subst is
      have small := sound.group_le member
      refine iff_of_false (by simp only; omega) fun both => ?_
      rw [both.1, now] at current
      cases current
  | some pair =>
      obtain ⟨joined, since⟩ := pair
      simp only [now] at is
      by_cases near : time item - since ≤ window
      · simp only [if_pos near, State.join, List.append_cancel_left_eq, List.cons.injEq, and_true] at is
        subst is
        obtain ⟨last, begins, isLast, same, isBegins, rfl⟩ := sound.current_some now
        dsimp only
        constructor
        · intro inside
          have lastMember := lastOf_spec isLast
          refine ⟨(sound.keys found member last lastMember.1 (inside.trans same.symm)).trans lastMember.2, ?_⟩
          intro other isOther
          rw [inside, isBegins] at isOther
          cases isOther
          exact near
        · rintro ⟨sameKey, close⟩
          rw [sameKey, now] at current
          cases current
          by_contra apart
          have gap := older sameKey apart
          have late := sorted begins (firstOf_spec isBegins).1
          have within := close first isFirst
          linarith
      · simp only [if_neg near, State.start, List.append_cancel_left_eq, List.cons.injEq, and_true] at is
        subst is
        have small := sound.group_le member
        refine iff_of_false (by simp only; omega) fun both => ?_
        have within := both.2 first isFirst
        rw [both.1, now] at current
        cases current
        by_cases last : found.group = group
        · rw [sound.start_eq (both.1 ▸ now) last isFirst] at within
          exact near within
        · have gap := older both.1 last
          linarith

end Sound

/-! ### The whole timeline -/

section

/-- One more item comes at the end. -/
theorem placed_place (state : State A K) (item : A) :
    ∃ placed, (place key time window state item).placed = state.placed ++ [placed] ∧ placed.item = item := by
  unfold place
  split
  · split
    · exact ⟨_, rfl, rfl⟩
    · exact ⟨_, rfl, rfl⟩
  · exact ⟨_, rfl, rfl⟩

theorem correlate_append_singleton (items : List A) (item : A) :
    ∃ placed, correlate key time window (items ++ [item]) = correlate key time window items ++ [placed] ∧
      placed.item = item := by
  unfold correlate timeline
  rw [List.foldl_append]
  exact placed_place key time window _ item

theorem items_correlate (items : List A) : (correlate key time window items).map Placed.item = items := by
  induction items using List.reverseRecOn with
  | nil => rfl
  | append_singleton items item ih =>
      obtain ⟨placed, same, rfl⟩ := correlate_append_singleton key time window items item
      rw [same, List.map_append, ih]
      rfl

theorem length_correlate (items : List A) : (correlate key time window items).length = items.length := by
  have same := congrArg List.length (items_correlate key time window items)
  rwa [List.length_map] at same

/-- The timeline of the first items is the first part of the timeline. -/
theorem correlate_take (items : List A) (count : ℕ) :
    correlate key time window (items.take count) = (correlate key time window items).take count := by
  induction items using List.reverseRecOn with
  | nil =>
      rw [List.take_nil]
      exact List.take_nil.symm
  | append_singleton items item ih =>
      obtain ⟨placed, same, -⟩ := correlate_append_singleton key time window items item
      by_cases few : count ≤ items.length
      · rw [List.take_append_of_le_length few, ih, same,
          List.take_append_of_le_length (by rw [length_correlate]; exact few)]
      · have all : (items ++ [item]).length ≤ count := by
          rw [List.length_append, List.length_singleton]
          omega
        rw [List.take_of_length_le all, List.take_of_length_le (by rw [length_correlate]; exact all)]

theorem sound_timeline (positive : 0 ≤ window) (items : List A) :
    Sound key time window (timeline key time window items) := by
  induction items using List.reverseRecOn with
  | nil =>
      refine ⟨fun _ => rfl, ?_, ?_, ?_, rfl, rfl⟩
      · intro one member
        cases member
      · intro found member
        cases member
      · intro found member
        cases member
  | append_singleton items item ih =>
      unfold timeline
      rw [List.foldl_append]
      exact ih.place positive item

/-- **The groups are numbered from one on**, in the order of their first items. -/
theorem eraseDups_groups (positive : 0 ≤ window) (items : List A) :
    ∃ count, ((correlate key time window items).map Placed.group).eraseDups = List.range' 1 count :=
  ⟨_, (sound_timeline key time window positive items).groups⟩

theorem orders_correlate (positive : 0 ≤ window) (items : List A) :
    (correlate key time window items).map Placed.order = List.range' 1 items.length := by
  rw [← length_correlate key time window items]
  exact (sound_timeline key time window positive items).orders

/-- **Two items are in one group if and only if** they have one key and lie within the window after the first item of the
group of the earlier one. -/
theorem same_group_iff (positive : 0 ≤ window) {items : List A}
    (sorted : items.Pairwise fun one other => time one ≤ time other) :
    (correlate key time window items).Pairwise fun one other =>
      one.group = other.group ↔ key one.item = key other.item ∧
        ∀ first, firstOf (correlate key time window items) one.group = some first →
          time one.item - time first.item ≤ window ∧ time other.item - time first.item ≤ window := by
  induction items using List.reverseRecOn with
  | nil => exact .nil
  | append_singleton items item ih =>
      rw [List.pairwise_append] at sorted
      obtain ⟨earlier, -, later⟩ := sorted
      have sound := sound_timeline key time window positive items
      have last : ∀ found ∈ correlate key time window items, time found.item ≤ time item := by
        intro found member
        have inside : found.item ∈ (correlate key time window items).map Placed.item := List.mem_map_of_mem member
        rw [items_correlate] at inside
        exact later found.item inside item List.mem_cons_self
      obtain ⟨placed, same, rfl⟩ := correlate_append_singleton key time window items item
      have one : (place key time window (timeline key time window items) placed.item).placed =
          correlate key time window items ++ [placed] := by
        rw [← same]
        unfold correlate timeline
        rw [List.foldl_append]
        rfl
      rw [same, List.pairwise_append]
      refine ⟨(ih earlier).imp_of_mem fun {found _} member _ iff => ?_, List.pairwise_singleton _ _, ?_⟩
      · rw [firstOf_append_of_mem _ member]
        exact iff
      · intro found member other isOther
        obtain rfl := List.mem_singleton.mp isOther
        rw [sound.group_eq_iff positive last one member, firstOf_append_of_mem _ member]
        refine and_congr_right fun _ => forall_congr' fun first => imp_congr_right fun isFirst => ?_
        exact ⟨fun near => ⟨sound.within found member first isFirst, near⟩, And.right⟩

/-- **An item starts a group if and only if** no earlier item has its key, or it lies more than the window after the first
item of the current group of its key. -/
theorem starts_iff (positive : 0 ≤ window) {items : List A} {before after : List (Placed A)} {found : Placed A}
    (split : correlate key time window items = before ++ found :: after) :
    found.group ∉ before.map Placed.group ↔
      ∀ last, lastOf key before (key found.item) = some last → ∀ first, firstOf before last.group = some first →
        window < time found.item - time first.item := by
  have whole : items = before.map Placed.item ++ found.item :: after.map Placed.item := by
    have same := items_correlate key time window items
    rw [split, List.map_append, List.map_cons] at same
    exact same.symm
  have early : correlate key time window (before.map Placed.item) = before := by
    have first : before.map Placed.item = items.take before.length := by
      rw [whole, List.take_left' (List.length_map _)]
    rw [first, correlate_take, split, List.take_left' rfl]
  have next : correlate key time window (before.map Placed.item ++ [found.item]) = before ++ [found] := by
    have first : items.take (before.length + 1) = before.map Placed.item ++ [found.item] := by
      rw [whole, List.append_cons, List.take_left' (by simp)]
    rw [← first, correlate_take, split, List.append_cons before found, List.take_left' (by simp)]
  have sound := sound_timeline key time window positive (before.map Placed.item)
  have placed : (place key time window (timeline key time window (before.map Placed.item)) found.item).placed =
      before ++ [found] := by
    rw [← next]
    unfold correlate timeline
    rw [List.foldl_append]
    rfl
  change (timeline key time window (before.map Placed.item)).placed = before at early
  generalize timeline key time window (before.map Placed.item) = state at early sound placed
  subst early
  have absent : ∀ order, found = ⟨found.item, order, state.count + 1⟩ → found.group ∉ state.placed.map Placed.group := by
    intro order same inside
    obtain ⟨other, member, group⟩ := List.mem_map.mp inside
    have small := sound.group_le member
    rw [group, same] at small
    dsimp only at small
    omega
  unfold place at placed
  cases now : state.groups.get (key found.item) with
  | none =>
      simp only [now, State.start, List.append_cancel_left_eq, List.cons.injEq, and_true] at placed
      refine iff_of_true (absent _ placed.symm) fun last isLast => ?_
      obtain ⟨group, start, current⟩ := sound.current_of_mem (lastOf_spec isLast).1
      rw [(lastOf_spec isLast).2, now] at current
      cases current
  | some pair =>
      obtain ⟨group, start⟩ := pair
      obtain ⟨last, first, isLast, rfl, isFirst, rfl⟩ := sound.current_some now
      simp only [now] at placed
      by_cases near : time found.item - time first.item ≤ window
      · simp only [if_pos near, State.join, List.append_cancel_left_eq, List.cons.injEq, and_true] at placed
        refine iff_of_false (fun absent => absent ?_) fun far => absurd (far last isLast first isFirst) (not_lt.mpr near)
        rw [← placed]
        exact List.mem_map.mpr ⟨last, (lastOf_spec isLast).1, rfl⟩
      · simp only [if_neg near, State.start, List.append_cancel_left_eq, List.cons.injEq, and_true] at placed
        refine iff_of_true (absent _ placed.symm) fun other isOther begins isBegins => ?_
        rw [isLast] at isOther
        cases isOther
        rw [isFirst] at isBegins
        cases isBegins
        exact not_le.mp near

end

end ProviderSimulator.Lib.Timeline
