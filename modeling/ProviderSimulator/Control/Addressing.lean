/-
**Every address leads to its provider.**

A provider is addressed by its key, which the control API splits at the first colon, and by the ports of its
endpoints. Both maps are filled by the loop of `build_registry`.

* `Distinct` — no pool and no pid is there twice, which each turn keeps, so a key leads to its provider;
* `mem_allProviders_iff` — the providers are the ones that a key leads to;
* `writePorts_size` — a row adds as many ports as it names, each counted once;
* `addressing_iff` — with a row that names a port twice, the last of its endpoints takes the port, and the
  others are served by no listener. Where no row does so, every address leads to its owner.
-/

import Mathlib.Tactic.Common
import Mathlib.Data.Finset.Card
import Mathlib.Algebra.Order.BigOperators.Group.List
import ProviderSimulator.Domain.BuildRegistry
import ProviderSimulator.Control.AllOrNothing

namespace ProviderSimulator.Control

open ProviderSimulator.Lib ProviderSimulator.Python ProviderSimulator.Domain

/-! ### Providers by their keys -/

/-- No pool and no provider of a pool is there twice. -/
structure Distinct (pools : Dict String Pool) : Prop where
  names : pools.keys.Nodup
  pids : ∀ name pool, pools.get name = some pool → pool.providers.keys.Nodup

theorem provider_eq_ok_iff {registry : Registry} {pool pid : String} {found : Provider} :
    registry.provider pool pid = .ok found ↔ ∃ stored, registry.pools.get pool = some stored ∧
      stored.providers.get pid = some found.endpoints ∧ found.key = ⟨pool, pid⟩ ∧ found.chain = stored.chain := by
  unfold Registry.provider
  constructor
  · intro served
    split at served
    · cases served
    · next stored here =>
        split at served
        · cases served
        · next endpoints listed =>
            cases served
            exact ⟨stored, here, listed, rfl, rfl⟩
  · rintro ⟨stored, here, listed, key, chain⟩
    rw [here]
    dsimp only
    rw [listed, ← key, ← chain]

/-- **The providers are the ones that a key leads to.** -/
theorem mem_allProviders_iff {registry : Registry} (distinct : Distinct registry.pools) (provider : Provider) :
    provider ∈ registry.allProviders ↔ registry.provider provider.key.pool provider.key.pid = .ok provider := by
  rw [provider_eq_ok_iff]
  unfold Registry.allProviders Registry.providersOf
  rw [List.mem_flatMap]
  constructor
  · rintro ⟨⟨name, pool⟩, here, member⟩
    obtain ⟨⟨pid, endpoints⟩, listed, rfl⟩ := List.mem_map.mp member
    have found := Dict.get_of_mem distinct.names here
    exact ⟨pool, found, Dict.get_of_mem (distinct.pids name pool found) listed, rfl, rfl⟩
  · rintro ⟨pool, here, listed, -, chain⟩
    refine ⟨_, Dict.get_mem here, List.mem_map.mpr ⟨_, Dict.get_mem listed, ?_⟩⟩
    dsimp only
    rw [← chain]

section Turn

variable {registry grown : PortRegistry} {row : TopologyRow} {valid : ValidRow} {pool : Pool}
  (place : registry.pools.get valid.key.pool = some pool ∨
    registry.pools.get valid.key.pool = none ∧ pool.providers = [])
  (written : grown.pools = registry.pools.set valid.key.pool
    ⟨pool.chain, pool.providers.set valid.key.pid valid.endpoints⟩)

include place written

theorem Distinct.turn (distinct : Distinct registry.pools) : Distinct grown.pools := by
  rw [written]
  refine ⟨Dict.keys_set_nodup distinct.names _ _, fun name stored found => ?_⟩
  rw [Dict.get_set] at found
  split at found
  · cases found
    refine Dict.keys_set_nodup ?_ _ _
    rcases place with here | ⟨-, none⟩
    · exact distinct.pids _ pool here
    · rw [none]
      exact List.nodup_nil
  · exact distinct.pids name stored found

/-- After a turn a key leads to the new provider, or to the one that it led to before. -/
theorem provider_turn (chain : pool.chain = valid.chain) (fresh : pool.providers.get valid.key.pid = none)
    (provider : Provider) :
    grown.provider provider.key.pool provider.key.pid = .ok provider ↔
      provider = valid.provider ∨ registry.provider provider.key.pool provider.key.pid = .ok provider := by
  rw [provider_eq_ok_iff, provider_eq_ok_iff, written]
  constructor
  · rintro ⟨stored, here, listed, -, same⟩
    rw [Dict.get_set] at here
    split at here
    · next name =>
        cases here
        rw [Dict.get_set] at listed
        split at listed
        · next pid =>
            refine .inl ?_
            obtain ⟨⟨poolName, number⟩, kind, endpoints⟩ := provider
            cases name
            cases pid
            cases Option.some.inj listed
            cases same.trans chain
            rfl
        · rcases place with before | ⟨-, none⟩
          · exact .inr ⟨pool, name ▸ before, listed, rfl, same⟩
          · rw [none] at listed
            cases listed
    · exact .inr ⟨stored, here, listed, rfl, same⟩
  · rintro (rfl | ⟨stored, here, listed, -, same⟩)
    · refine ⟨_, Dict.get_set_self _ _ _, Dict.get_set_self _ _ _, rfl, chain.symm⟩
    · rw [Dict.get_set]
      split
      · next name =>
          rw [← name] at here
          rcases place with before | ⟨none, -⟩
          · cases before.symm.trans here
            have other : valid.key.pid ≠ provider.key.pid := by
              intro pid
              rw [← pid, fresh] at listed
              cases listed
            exact ⟨_, rfl, (Dict.get_set_of_ne _ other _).trans listed, rfl, same⟩
          · cases none.symm.trans here
      · exact ⟨stored, here, listed, rfl, same⟩

end Turn

/-! ### The ports -/

section Ports

variable (provider : Provider)

theorem writePorts_cons (endpoint : Endpoint) (endpoints : List Endpoint) (ownerOf : Dict ℕ (Provider × Endpoint)) :
    writePorts provider (endpoint :: endpoints) ownerOf =
      writePorts provider endpoints (ownerOf.set endpoint.port (provider, endpoint)) := rfl

/-- A port that the row does not name keeps its owner. -/
theorem writePorts_get_of_notMem {endpoints : List Endpoint} {port : ℕ}
    (other : port ∉ endpoints.map Endpoint.port) (ownerOf : Dict ℕ (Provider × Endpoint)) :
    (writePorts provider endpoints ownerOf).get port = ownerOf.get port := by
  induction endpoints generalizing ownerOf with
  | nil => rfl
  | cons endpoint endpoints ih =>
      rw [List.map_cons, List.mem_cons, not_or] at other
      rw [writePorts_cons, ih other.2, Dict.get_set_of_ne _ (Ne.symm other.1)]

/-- A port that the row names once is owned by its endpoint. -/
theorem writePorts_get_of_mem {endpoints : List Endpoint} (once : (endpoints.map Endpoint.port).Nodup)
    {endpoint : Endpoint} (member : endpoint ∈ endpoints) (ownerOf : Dict ℕ (Provider × Endpoint)) :
    (writePorts provider endpoints ownerOf).get endpoint.port = some (provider, endpoint) := by
  induction endpoints generalizing ownerOf with
  | nil => cases member
  | cons first endpoints ih =>
      rw [List.map_cons, List.nodup_cons] at once
      rw [writePorts_cons]
      rcases List.mem_cons.mp member with rfl | later
      · rw [writePorts_get_of_notMem provider once.1, Dict.get_set_self]
      · exact ih once.2 later _

theorem writePorts_nodup {ownerOf : Dict ℕ (Provider × Endpoint)} (distinct : ownerOf.keys.Nodup)
    (endpoints : List Endpoint) : (writePorts provider endpoints ownerOf).keys.Nodup := by
  induction endpoints generalizing ownerOf with
  | nil => exact distinct
  | cons endpoint endpoints ih =>
      rw [writePorts_cons]
      exact ih (Dict.keys_set_nodup distinct _ _)

/-- The ports after a turn: those from before, and those of the row. -/
theorem writePorts_keys (endpoints : List Endpoint) (ownerOf : Dict ℕ (Provider × Endpoint)) :
    (writePorts provider endpoints ownerOf).keys.toFinset =
      ownerOf.keys.toFinset ∪ (endpoints.map Endpoint.port).toFinset := by
  ext port
  rw [List.mem_toFinset, Finset.mem_union, List.mem_toFinset, List.mem_toFinset]
  induction endpoints generalizing ownerOf with
  | nil => exact (or_iff_left (List.not_mem_nil)).symm
  | cons endpoint endpoints ih =>
      have first : port ∈ (ownerOf.set endpoint.port (provider, endpoint)).keys ↔
          port ∈ ownerOf.keys ∨ port = endpoint.port := by
        rw [Dict.keys_set]
        split
        · next old => exact ⟨.inl, fun known => known.elim id fun same => same ▸ old⟩
        · rw [List.mem_append, List.mem_singleton]
      rw [writePorts_cons, ih, first, List.map_cons, List.mem_cons, or_assoc]

/-- **A turn adds each port of its row once.** -/
theorem writePorts_size {ownerOf : Dict ℕ (Provider × Endpoint)} (distinct : ownerOf.keys.Nodup)
    {endpoints : List Endpoint} (fresh : ∀ endpoint ∈ endpoints, endpoint.port ∉ ownerOf.keys) :
    (writePorts provider endpoints ownerOf).keys.length =
      ownerOf.keys.length + (endpoints.map Endpoint.port).toFinset.card := by
  have apart : Disjoint ownerOf.keys.toFinset (endpoints.map Endpoint.port).toFinset := by
    rw [Finset.disjoint_right]
    intro port named
    obtain ⟨endpoint, member, rfl⟩ := List.mem_map.mp (List.mem_toFinset.mp named)
    exact fun old => fresh endpoint member (List.mem_toFinset.mp old)
  rw [← List.toFinset_card_of_nodup (writePorts_nodup provider distinct endpoints), writePorts_keys,
    Finset.card_union_of_disjoint apart, List.toFinset_card_of_nodup distinct]

end Ports

/-! ### The whole table -/

/-- What holds of the registry of some rows, however often they name a port. -/
structure Built (rows : List TopologyRow) (registry : PortRegistry) : Prop where
  distinct : Distinct registry.pools
  ports : registry.ownerOf.keys.Nodup
  size : registry.ownerOf.keys.length = (rows.map fun row => row.ports.toFinset.card).sum
  /-- Where each row names its ports once, a port leads to its endpoint. -/
  owners : (∀ row ∈ rows, row.ports.Nodup) →
    ∀ provider : Provider, registry.provider provider.key.pool provider.key.pid = .ok provider →
      ∀ endpoint ∈ provider.endpoints, registry.ownerOf.get endpoint.port = some (provider, endpoint)
  lengths : ∀ row ∈ rows, row.ports.length = row.endpointSpecs.length

theorem Built.empty : Built [] .empty where
  distinct := ⟨List.nodup_nil, nofun⟩
  ports := List.nodup_nil
  size := rfl
  owners := nofun
  lengths := nofun

/-- **One turn of the loop.** -/
theorem Built.turn {rows : List TopologyRow} {row : TopologyRow} {registry grown : PortRegistry}
    (built : Built rows registry) (added : addRow registry row = .ok grown) : Built (rows ++ [row]) grown := by
  obtain ⟨valid, pool, named, count, place, chain, new, fresh, pools, owners⟩ := addRow_cases added
  refine ⟨built.distinct.turn place pools, ?_, ?_, ?_, ?_⟩
  · rw [owners]
    exact writePorts_nodup _ built.ports _
  · rw [owners, writePorts_size _ built.ports fresh, built.size, named, List.map_append, List.sum_append,
      List.map_singleton, List.sum_singleton]
  · intro once provider served endpoint member
    rw [owners]
    rcases (provider_turn place pools chain new provider).mp served with rfl | old
    · have ports := once row (List.mem_append_right _ List.mem_cons_self)
      rw [← named] at ports
      exact writePorts_get_of_mem _ ports member _
    · have before : ∀ row ∈ rows, row.ports.Nodup := fun row member => once row (List.mem_append_left _ member)
      have owner := built.owners before provider old endpoint member
      rw [writePorts_get_of_notMem, owner]
      intro again
      obtain ⟨other, among, same⟩ := List.mem_map.mp again
      refine fresh other among ?_
      rw [same]
      exact List.mem_map.mpr ⟨_, Dict.get_mem owner, rfl⟩
  · intro one member
    rcases List.mem_append.mp member with old | last
    · exact built.lengths one old
    · rw [List.mem_singleton.mp last, ← named, List.length_map, count]

theorem foldlM_addRow {done rows : List TopologyRow} {registry grown : PortRegistry} (built : Built done registry)
    (run : rows.foldlM addRow registry = .ok grown) : Built (done ++ rows) grown := by
  induction rows generalizing done registry with
  | nil =>
      cases run
      rw [List.append_nil]
      exact built
  | cons row rows ih =>
      rw [List.foldlM_cons] at run
      obtain ⟨middle, added, run⟩ := ok_of_bind run
      have later := ih (built.turn added) run
      rwa [List.append_assoc] at later

/-- **What `build_registry` gives.** -/
theorem buildRegistry_built {rows : List TopologyRow} {registry : PortRegistry}
    (run : buildRegistry rows = .ok registry) : Built rows registry :=
  foldlM_addRow .empty run

/-! ### Every address -/

/-- Every port and every key leads to its owner. -/
structure Addressed (rows : List TopologyRow) (registry : PortRegistry) : Prop where
  byPort : ∀ provider ∈ registry.allProviders, ∀ endpoint ∈ provider.endpoints,
    registry.byPort endpoint.port = .ok (provider, endpoint)
  ports : registry.ports.length = (rows.map fun row => row.endpointSpecs.length).sum
  keys : ∀ provider ∈ registry.allProviders, ∃ parts, partitionKey provider.key.text = some parts ∧
    registry.provider parts.pool parts.pid = .ok provider ∧
    ∀ other ∈ registry.allProviders, partitionKey other.key.text = some parts → other = provider

/-- Sums of bounded terms are equal only term by term. -/
theorem forall_eq_of_sum_eq {rows : List TopologyRow} {part whole : TopologyRow → ℕ}
    (bounded : ∀ row ∈ rows, part row ≤ whole row)
    (same : (rows.map part).sum = (rows.map whole).sum) : ∀ row ∈ rows, part row = whole row := by
  induction rows with
  | nil => nofun
  | cons row rows ih =>
      rw [List.forall_mem_cons] at bounded
      have others : (rows.map part).sum ≤ (rows.map whole).sum := List.sum_le_sum bounded.2
      simp only [List.map_cons, List.sum_cons] at same
      have first := bounded.1
      exact List.forall_mem_cons.mpr ⟨by omega, ih bounded.2 (by omega)⟩

theorem ports_length {rows : List TopologyRow} {registry : PortRegistry} (built : Built rows registry) :
    registry.ports.length = (rows.map fun row => row.endpointSpecs.length).sum ↔ ∀ row ∈ rows, row.ports.Nodup := by
  have size : registry.ports.length = (rows.map fun row => row.ports.toFinset.card).sum := by
    unfold PortRegistry.ports
    rw [List.length_mergeSort, built.size]
  have whole : rows.map (fun row => row.endpointSpecs.length) = rows.map fun row => row.ports.length :=
    List.map_congr_left fun row member => (built.lengths row member).symm
  rw [size, whole]
  constructor
  · intro same row member
    have equal := forall_eq_of_sum_eq (fun row _ => List.toFinset_card_le row.ports) same row member
    exact Multiset.toFinset_card_eq_card_iff_nodup.mp equal
  · intro once
    exact congrArg List.sum (List.map_congr_left fun row member => List.toFinset_card_of_nodup (once row member))

theorem keys_lead {registry : PortRegistry} (distinct : Distinct registry.pools) :
    ∀ provider ∈ registry.allProviders, ∃ parts, partitionKey provider.key.text = some parts ∧
      registry.provider parts.pool parts.pid = .ok provider ∧
      ∀ other ∈ registry.allProviders, partitionKey other.key.text = some parts → other = provider := by
  have split : ∀ provider ∈ registry.allProviders, partitionKey provider.key.text = some provider.key := by
    intro provider member
    have served := (mem_allProviders_iff distinct provider).mp member
    exact partitionKey_of_plain (Registry.provider_pool served)
  intro provider member
  have served := (mem_allProviders_iff distinct provider).mp member
  refine ⟨provider.key, split provider member, served, fun other among same => ?_⟩
  have keys : other.key = provider.key := Option.some.inj ((split other among).symm.trans same)
  have serves := (mem_allProviders_iff distinct other).mp among
  rw [keys] at serves
  exact Except.ok.inj (serves.symm.trans served)

/-- **Every address leads to its owner exactly when no row names a port twice.** -/
theorem addressing_iff (rows : List TopologyRow) (registry : PortRegistry) (run : buildRegistry rows = .ok registry) :
    Addressed rows registry ↔ ∀ row ∈ rows, row.ports.Nodup := by
  have built := buildRegistry_built run
  constructor
  · intro addressed
    exact (ports_length built).mp addressed.ports
  · intro once
    refine ⟨fun provider member endpoint among => ?_, (ports_length built).mpr once, keys_lead built.distinct⟩
    have served := (mem_allProviders_iff built.distinct provider).mp member
    unfold PortRegistry.byPort
    rw [built.owners once provider served endpoint among]

/-- One provider, with the given ports for its two endpoints. -/
def oneRow (http ws : ℤ) : TopologyRow :=
  ⟨"eth-sim", "eth", "1", [⟨"jsonrpc", "http", .int http⟩, ⟨"jsonrpc", "ws", .int ws⟩]⟩

theorem addressing_one_row :
    ∃ registry, buildRegistry [oneRow 18545 18557] = .ok registry ∧ Addressed [oneRow 18545 18557] registry := by
  cases run : buildRegistry [oneRow 18545 18557] with
  | error refusal =>
      have passed : (buildRegistry [oneRow 18545 18557]).isOk = true := by decide +kernel
      rw [run] at passed
      cases passed
  | ok registry =>
      exact ⟨registry, rfl, (addressing_iff [oneRow 18545 18557] registry run).mpr (by decide +kernel)⟩

/-- A row that names a port twice is accepted, and its first endpoint is not reached. -/
theorem shadowed_endpoint :
    ∃ registry, buildRegistry [oneRow 18545 18545] = .ok registry ∧ registry.ports = [18545] ∧
      ¬ Addressed [oneRow 18545 18545] registry := by
  cases run : buildRegistry [oneRow 18545 18545] with
  | error refusal =>
      have passed : (buildRegistry [oneRow 18545 18545]).isOk = true := by decide +kernel
      rw [run] at passed
      cases passed
  | ok registry =>
      have ports : (buildRegistry [oneRow 18545 18545]).toOption.map PortRegistry.ports = some [18545] := by
        decide +kernel
      rw [run] at ports
      refine ⟨registry, rfl, Option.some.inj ports, fun addressed => ?_⟩
      have once := (ports_length (buildRegistry_built run)).mp addressed.ports
      revert once
      decide +kernel

end ProviderSimulator.Control
