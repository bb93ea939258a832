/-
**The registry that a topology table gives.**

`build_registry` takes the rows one by one. A row passes `_validate_row`, its pool is found or made, its ports
are looked up among the ports of the rows before it, its provider joins the pool, and then its ports are
written. The two loops over the ports of a row are apart: the first one sees no port of its own row.

* `validateRow` gives a `ValidRow`, which carries what the checks of a row have found;
* `addRow` is one turn of the loop, and `buildRegistry` the whole of it.

`name`, `is_backup` and `group_label` are handed on and read by nothing here, so a `TopologyRow` leaves them out.
-/

import Mathlib.Tactic.Common
import ProviderSimulator.Python.Host
import ProviderSimulator.Domain.Provider

namespace ProviderSimulator.Domain

open ProviderSimulator.Lib ProviderSimulator.Python

/-! ### Rows -/

/-- One endpoint of a row: its interface, its transport and its port. -/
structure EndpointSpec where
  interface : String
  transport : String
  port : Value

/-- One row of the topology table. -/
structure TopologyRow where
  poolName : String
  chain : String
  pid : String
  endpointSpecs : List EndpointSpec

/-- Why `build_registry` raises its `ValueError`. -/
inductive TopologyRefusal
  | badPoolName (poolName : String)
  | badPid (key : ProviderKey)
  | unknownChain (chain : String)
  | noEndpoints (key : ProviderKey)
  | unknownInterface (key : ProviderKey) (interface : String)
  | unknownTransport (key : ProviderKey) (transport : String)
  | badPort (key : ProviderKey) (port : Value)
  | twoChains (poolName : String) (first second : Chain)
  | duplicatePort (port : ℕ)
  | duplicateProvider (key : ProviderKey)

/-- `INTERFACES`, in their order. -/
def interfaces : List Interface := [.jsonrpc, .rest, .grpc, .tendermintrpc, .graphql]

/-- `TRANSPORTS`, in their order. -/
def transportKinds : List Transport := [.http, .http2, .ws]

/-- The chains of `_QUIRKS_BY_CHAIN`, in their order. -/
def quirksChains : List Chain := [.eth, .btc, .ln, .solana, .lava, .sui, .suit]

/-- The text of the exception. -/
def TopologyRefusal.text (repr : Value → String) : TopologyRefusal → String
  | .badPoolName poolName => "bad pool name " ++ repr (.str poolName) ++ ": must be non-empty and contain no ':'"
  | .badPid key =>
      "bad pid " ++ repr (.str key.pid) ++ " in pool " ++ repr (.str key.pool) ++ ": non-empty, no ':' allowed"
  | .unknownChain chain =>
      "unknown chain " ++ repr (.str chain) ++ "; known chains are " ++
        repr (textList (sortedTexts (quirksChains.map Chain.name)))
  | .noEndpoints key => "provider " ++ key.text ++ " has no endpoints — it would be unreachable"
  | .unknownInterface key interface =>
      "provider " ++ key.text ++ ": unknown interface " ++ repr (.str interface) ++ "; valid: " ++
        repr (textList (interfaces.map Interface.name))
  | .unknownTransport key transport =>
      "provider " ++ key.text ++ ": unknown transport " ++ repr (.str transport) ++ "; valid: " ++
        repr (textList transports)
  | .badPort key port => "provider " ++ key.text ++ ": bad port " ++ repr port
  | .twoChains poolName first second =>
      "pool " ++ repr (.str poolName) ++ " declares two chains: " ++ repr (.str first.name) ++ " and " ++
        repr (.str second.name) ++ " — one pool serves exactly one chain"
  | .duplicatePort port => "duplicate port " ++ toString port ++ " in topology"
  | .duplicateProvider key => "duplicate provider " ++ key.text

/-- The number of a port that passes its check. `True` is the port 1, as a key and in a comparison. -/
def portNumber : Value → Option ℕ
  | .int port => if port ≤ 0 then none else some port.toNat
  | .bool flag => if flag then some 1 else none
  | _ => none

/-- The ports that a row names. -/
def TopologyRow.ports (row : TopologyRow) : List ℕ := row.endpointSpecs.filterMap fun spec => portNumber spec.port

/-- A row that passed its checks. -/
structure ValidRow where
  key : ProviderKey
  chain : Chain
  endpoints : List Endpoint
  plain : ':' ∉ key.pool.toList

/-- The provider that the row adds. -/
def ValidRow.provider (row : ValidRow) : Provider := ⟨row.key, row.chain, row.endpoints⟩

/-- One turn of the loop of `_validate_row`, and the endpoint that it lets through. -/
def readSpec (key : ProviderKey) (spec : EndpointSpec) : Except TopologyRefusal Endpoint :=
  match interfaces.find? fun interface => interface.name = spec.interface with
  | none => .error (.unknownInterface key spec.interface)
  | some interface =>
      match transportKinds.find? fun transport => transport.name = spec.transport with
      | none => .error (.unknownTransport key spec.transport)
      | some transport =>
          match portNumber spec.port with
          | none => .error (.badPort key spec.port)
          | some port => .ok ⟨interface, transport, port⟩

/-- The loop over the endpoints of a row. -/
def readSpecs (key : ProviderKey) : List EndpointSpec → Except TopologyRefusal (List Endpoint)
  | [] => .ok []
  | spec :: specs => do
      let endpoint ← readSpec key spec
      let endpoints ← readSpecs key specs
      pure (endpoint :: endpoints)

/-- `_validate_row`, with the endpoints that `build_registry` makes of its `endpoint_specs`. -/
def validateRow (row : TopologyRow) : Except TopologyRefusal ValidRow :=
  if row.poolName = "" then .error (.badPoolName row.poolName)
  else if named : ':' ∈ row.poolName.toList then .error (.badPoolName row.poolName)
  else if row.pid = "" ∨ ':' ∈ row.pid.toList then .error (.badPid ⟨row.poolName, row.pid⟩)
  else
    match quirksChains.find? fun chain => chain.name = row.chain with
    | none => .error (.unknownChain row.chain)
    | some chain =>
        if row.endpointSpecs.isEmpty then .error (.noEndpoints ⟨row.poolName, row.pid⟩)
        else do
          let endpoints ← readSpecs ⟨row.poolName, row.pid⟩ row.endpointSpecs
          pure ⟨⟨row.poolName, row.pid⟩, chain, endpoints, named⟩

/-! ### The registry with its ports -/

/-- `Registry`, with the map of its ports. -/
structure PortRegistry extends Registry where
  /-- `_by_port`. -/
  ownerOf : Dict ℕ (Provider × Endpoint)

namespace PortRegistry

/-- A registry as `Registry()` makes it. -/
def empty : PortRegistry := ⟨⟨[], nofun⟩, []⟩

/-- `Registry.by_port`: the `KeyError` names the port. -/
def byPort (registry : PortRegistry) (port : ℕ) : Except String (Provider × Endpoint) :=
  match registry.ownerOf.get port with
  | some found => .ok found
  | none => .error ("no endpoint on port " ++ toString port)

/-- `Registry.ports`. -/
def ports (registry : PortRegistry) : List ℕ := registry.ownerOf.keys.mergeSort fun a b => decide (a ≤ b)

end PortRegistry

/-- The pool of a row: the one with its name, or a new one. -/
def poolOf (pools : Dict String Pool) (row : ValidRow) : Except TopologyRefusal Pool :=
  match pools.get row.key.pool with
  | none => .ok ⟨row.chain, []⟩
  | some pool => if pool.chain = row.chain then .ok pool else .error (.twoChains row.key.pool pool.chain row.chain)

/-- The check loop over the ports of a row. -/
def checkPorts (ownerOf : Dict ℕ (Provider × Endpoint)) : List Endpoint → Except TopologyRefusal Unit
  | [] => .ok ()
  | endpoint :: endpoints =>
      if ownerOf.has endpoint.port then .error (.duplicatePort endpoint.port) else checkPorts ownerOf endpoints

/-- `Pool.add_provider`. -/
def addProvider (pool : Pool) (row : ValidRow) : Except TopologyRefusal Pool :=
  if pool.providers.has row.key.pid then .error (.duplicateProvider row.key)
  else .ok { pool with providers := pool.providers.set row.key.pid row.endpoints }

/-- The insert loop over the ports of a row. -/
def writePorts (provider : Provider) (endpoints : List Endpoint) (ownerOf : Dict ℕ (Provider × Endpoint)) :
    Dict ℕ (Provider × Endpoint) :=
  endpoints.foldl (fun ownerOf endpoint => ownerOf.set endpoint.port (provider, endpoint)) ownerOf

/-- The pools with the pool of a valid row written. Their names stay plain. -/
def setPool (registry : Registry) (row : ValidRow) (pool : Pool) : Registry where
  pools := registry.pools.set row.key.pool pool
  plain := by
    intro name member
    rw [Dict.keys_set] at member
    split at member
    · exact registry.plain name member
    · rcases List.mem_append.mp member with old | new
      · exact registry.plain name old
      · rw [List.mem_singleton.mp new]
        exact row.plain

/-- One turn of the loop of `build_registry`. -/
def addRow (registry : PortRegistry) (row : TopologyRow) : Except TopologyRefusal PortRegistry := do
  let valid ← validateRow row
  let pool ← poolOf registry.pools valid
  checkPorts registry.ownerOf valid.endpoints
  let pool ← addProvider pool valid
  pure ⟨setPool registry.toRegistry valid pool, writePorts valid.provider valid.endpoints registry.ownerOf⟩

/-- `build_registry`. -/
def buildRegistry (rows : List TopologyRow) : Except TopologyRefusal PortRegistry := rows.foldlM addRow .empty

/-! ### What a turn does -/

theorem readSpec_port {key : ProviderKey} {spec : EndpointSpec} {endpoint : Endpoint}
    (read : readSpec key spec = .ok endpoint) : portNumber spec.port = some endpoint.port := by
  unfold readSpec at read
  split at read
  · cases read
  · split at read
    · cases read
    · split at read
      · cases read
      · next port =>
          cases read
          exact port

theorem readSpecs_ports {key : ProviderKey} {specs : List EndpointSpec} {endpoints : List Endpoint}
    (read : readSpecs key specs = .ok endpoints) :
    endpoints.map Endpoint.port = specs.filterMap (fun spec => portNumber spec.port) ∧
      endpoints.length = specs.length := by
  induction specs generalizing endpoints with
  | nil =>
      cases read
      exact ⟨rfl, rfl⟩
  | cons spec specs ih =>
      obtain ⟨endpoint, first, read⟩ := ok_of_bind read
      obtain ⟨others, later, same⟩ := ok_of_bind read
      cases same
      obtain ⟨ports, lengths⟩ := ih later
      refine ⟨?_, congrArg (· + 1) lengths⟩
      rw [List.map_cons, List.filterMap_cons, readSpec_port first, ports]

theorem validateRow_ports {row : TopologyRow} {valid : ValidRow} (passed : validateRow row = .ok valid) :
    valid.endpoints.map Endpoint.port = row.ports ∧ valid.endpoints.length = row.endpointSpecs.length := by
  unfold validateRow at passed
  split at passed
  · cases passed
  · split at passed
    · cases passed
    · split at passed
      · cases passed
      · split at passed
        · cases passed
        · split at passed
          · cases passed
          · obtain ⟨endpoints, read, same⟩ := ok_of_bind passed
            cases same
            exact readSpecs_ports read

theorem checkPorts_fresh {ownerOf : Dict ℕ (Provider × Endpoint)} {endpoints : List Endpoint}
    (passed : checkPorts ownerOf endpoints = .ok ()) : ∀ endpoint ∈ endpoints, endpoint.port ∉ ownerOf.keys := by
  induction endpoints with
  | nil => nofun
  | cons endpoint endpoints ih =>
      unfold checkPorts at passed
      split at passed
      · cases passed
      · next absent =>
          refine List.forall_mem_cons.mpr ⟨?_, ih passed⟩
          rw [← Dict.get_eq_none_iff]
          exact Option.not_isSome_iff_eq_none.mp absent

/-- **What a turn does**: the row is valid, its ports are none of the rows before it, its provider is new, and
the provider and the ports are written. -/
theorem addRow_cases {registry grown : PortRegistry} {row : TopologyRow} (added : addRow registry row = .ok grown) :
    ∃ (valid : ValidRow) (pool : Pool),
      valid.endpoints.map Endpoint.port = row.ports ∧ valid.endpoints.length = row.endpointSpecs.length ∧
      (registry.pools.get valid.key.pool = some pool ∨
        registry.pools.get valid.key.pool = none ∧ pool.providers = []) ∧
      pool.chain = valid.chain ∧ pool.providers.get valid.key.pid = none ∧
      (∀ endpoint ∈ valid.endpoints, endpoint.port ∉ registry.ownerOf.keys) ∧
      grown.pools = registry.pools.set valid.key.pool
        ⟨pool.chain, pool.providers.set valid.key.pid valid.endpoints⟩ ∧
      grown.ownerOf = writePorts valid.provider valid.endpoints registry.ownerOf := by
  obtain ⟨valid, passed, added⟩ := ok_of_bind added
  obtain ⟨pool, found, added⟩ := ok_of_bind added
  obtain ⟨⟨⟩, fresh, added⟩ := ok_of_bind added
  obtain ⟨joined, adds, same⟩ := ok_of_bind added
  cases same
  obtain ⟨ports, lengths⟩ := validateRow_ports passed
  unfold addProvider at adds
  split at adds
  · cases adds
  · next absent =>
      cases adds
      have place : (registry.pools.get valid.key.pool = some pool ∨
          registry.pools.get valid.key.pool = none ∧ pool.providers = []) ∧ pool.chain = valid.chain := by
        unfold poolOf at found
        split at found
        · next none =>
            cases found
            exact ⟨.inr ⟨none, rfl⟩, rfl⟩
        · next here =>
            split at found
            · next chain =>
                cases found
                exact ⟨.inl here, chain⟩
            · cases found
      exact ⟨valid, pool, ports, lengths, place.1, place.2, Option.not_isSome_iff_eq_none.mp absent,
        checkPorts_fresh fresh, rfl, rfl⟩

end ProviderSimulator.Domain
