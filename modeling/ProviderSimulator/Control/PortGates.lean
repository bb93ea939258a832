/-
**The gates that a start makes.**

`start` makes a gate for each port: first for the http and ws endpoints of every provider, then, where grpcio can be
imported, for the gRPC endpoints. A later gate of a port takes the place of an earlier one. That can happen in one row
of the topology only, since `build_registry` refuses a port that another provider has.

* `portGates` — the gates of `start`;
* `ports_owned` — a port of a provider is owned by it, even where a row names a port twice;
* `portGates_own` — **the gate of a port of a provider is its own**.
-/

import Mathlib.Tactic.Common
import ProviderSimulator.Control.Addressing

namespace ProviderSimulator.Control

open ProviderSimulator.Lib ProviderSimulator.Python ProviderSimulator.Domain

/-! ### Ports of a provider -/

/-- A port that a row names is owned by its provider. -/
theorem writePorts_get_owner (provider : Provider) {endpoints : List Endpoint} {endpoint : Endpoint}
    (member : endpoint ∈ endpoints) (ownerOf : Dict ℕ (Provider × Endpoint)) :
    ∃ served, (writePorts provider endpoints ownerOf).get endpoint.port = some (provider, served) := by
  induction endpoints generalizing endpoint ownerOf with
  | nil => cases member
  | cons first endpoints ih =>
      rw [writePorts_cons]
      by_cases later : endpoint.port ∈ endpoints.map Endpoint.port
      · obtain ⟨other, among, same⟩ := List.mem_map.mp later
        rw [← same]
        exact ih among _
      · rcases List.mem_cons.mp member with rfl | among
        · exact ⟨endpoint, by rw [writePorts_get_of_notMem provider later, Dict.get_set_self]⟩
        · exact absurd (List.mem_map_of_mem among) later

/-- Every port of a provider of the registry is owned by it. -/
def PortsOwned (registry : PortRegistry) : Prop :=
  ∀ provider : Provider, registry.provider provider.key.pool provider.key.pid = .ok provider →
    ∀ endpoint ∈ provider.endpoints, ∃ served, registry.ownerOf.get endpoint.port = some (provider, served)

theorem PortsOwned.turn {registry grown : PortRegistry} {row : TopologyRow} (owned : PortsOwned registry)
    (added : addRow registry row = .ok grown) : PortsOwned grown := by
  obtain ⟨valid, pool, -, -, place, chain, new, fresh, pools, owners⟩ := addRow_cases added
  intro provider served endpoint member
  rw [owners]
  rcases (provider_turn place pools chain new provider).mp served with rfl | old
  · exact writePorts_get_owner _ member _
  · obtain ⟨other, owner⟩ := owned provider old endpoint member
    refine ⟨other, ?_⟩
    rw [writePorts_get_of_notMem, owner]
    intro again
    obtain ⟨found, among, same⟩ := List.mem_map.mp again
    refine fresh found among ?_
    rw [same]
    exact List.mem_map.mpr ⟨_, Dict.get_mem owner, rfl⟩

/-- **Each turn keeps the ports with their owners.** -/
theorem ports_owned {rows : List TopologyRow} {registry : PortRegistry} (run : buildRegistry rows = .ok registry) :
    PortsOwned registry := by
  have turns : ∀ (rows : List TopologyRow) (start : PortRegistry), PortsOwned start →
      rows.foldlM addRow start = .ok registry → PortsOwned registry := by
    intro rows
    induction rows with
    | nil =>
        intro start owned done
        cases done
        exact owned
    | cons row rows ih =>
        intro start owned done
        rw [List.foldlM_cons] at done
        obtain ⟨middle, added, done⟩ := ok_of_bind done
        exact ih middle (owned.turn added) done
  refine turns rows .empty ?_ run
  intro provider served
  cases served

/-! ### The gates -/

/-- The endpoints of the registry with their providers, in the order of the loops of `start`. -/
def startOrder (registry : Registry) : List (Provider × Endpoint) :=
  registry.allProviders.flatMap fun provider => provider.endpoints.map fun endpoint => (provider, endpoint)

/-- `port_gates` after `start`. -/
def portGates (registry : Registry) (grpcio : Bool) : Dict ℕ Gate :=
  let plain := (startOrder registry).filter fun found => found.2.interface ≠ .grpc
  let grpc := (startOrder registry).filter fun found => found.2.interface = .grpc
  (plain ++ if grpcio then grpc else []).foldl
    (fun gates found => gates.set found.2.port ⟨found.1.key, found.2⟩) []

/-- A gate is of one of the endpoints that it was made for. -/
theorem get_foldl_gates {found : List (Provider × Endpoint)} {gates : Dict ℕ Gate} {port : ℕ} {gate : Gate}
    (here : (found.foldl (fun gates found => gates.set found.2.port ⟨found.1.key, found.2⟩) gates).get port =
      some gate) :
    gates.get port = some gate ∨ ∃ one ∈ found, one.2.port = port ∧ gate = ⟨one.1.key, one.2⟩ := by
  induction found generalizing gates with
  | nil => exact .inl here
  | cons one rest ih =>
      rw [List.foldl_cons] at here
      rcases ih here with old | ⟨other, among, made⟩
      · by_cases same : port = one.2.port
        · rw [same, Dict.get_set_self] at old
          exact .inr ⟨one, List.mem_cons_self, same.symm, (Option.some.inj old).symm⟩
        · rw [Dict.get_set_of_ne _ (Ne.symm same)] at old
          exact .inl old
      · exact .inr ⟨other, List.mem_cons_of_mem _ among, made⟩

theorem mem_startOrder {registry : Registry} {found : Provider × Endpoint} :
    found ∈ startOrder registry ↔ found.1 ∈ registry.allProviders ∧ found.2 ∈ found.1.endpoints := by
  unfold startOrder
  rw [List.mem_flatMap]
  constructor
  · rintro ⟨provider, listed, member⟩
    obtain ⟨endpoint, among, rfl⟩ := List.mem_map.mp member
    exact ⟨listed, among⟩
  · rintro ⟨listed, among⟩
    exact ⟨found.1, listed, List.mem_map.mpr ⟨found.2, among, rfl⟩⟩

/-- **The gate of a port of a provider is its own.** -/
theorem portGates_own {rows : List TopologyRow} {registry : PortRegistry} (run : buildRegistry rows = .ok registry)
    (grpcio : Bool) {provider : Provider}
    (served : registry.provider provider.key.pool provider.key.pid = .ok provider) {endpoint : Endpoint}
    (member : endpoint ∈ provider.endpoints) {gate : Gate}
    (found : (portGates registry.toRegistry grpcio).get endpoint.port = some gate) : gate.provider = provider.key := by
  have distinct := (buildRegistry_built run).distinct
  have owned := ports_owned run
  rcases get_foldl_gates found with old | ⟨one, among, port, rfl⟩
  · cases old
  · have listed : one ∈ startOrder registry.toRegistry := by
      rcases List.mem_append.mp among with plain | grpc
      · exact (List.mem_filter.mp plain).1
      · split at grpc
        · exact (List.mem_filter.mp grpc).1
        · cases grpc
    obtain ⟨known, endpoints⟩ := mem_startOrder.mp listed
    obtain ⟨first, owner⟩ := owned one.1 ((mem_allProviders_iff distinct one.1).mp known) one.2 endpoints
    obtain ⟨second, owner'⟩ := owned provider served endpoint member
    rw [port, owner'] at owner
    exact congrArg Provider.key (congrArg Prod.fst (Option.some.inj owner)).symm

end ProviderSimulator.Control
