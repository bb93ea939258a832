/-
**The server of one `http` or `ws` provider port.**

The record of a `_ProviderHTTPServer` and its operations, cut at the places where another thread can
run between them. `_clients_lock` protects the flag `closed_by_scenario` and the set of the client
sockets, so `beginClose`, `registerOrClose` and `forget` are one step each; `closeSocket` is the
`shutdown` and the `close` of the listening socket.
-/

import Mathlib.Tactic.Common

namespace ProviderSimulator.Ports

/-- A `_ProviderHTTPServer`. A client socket is the position of its connection among those that the
server accepted. -/
structure HttpServer where
  /-- The listening socket is open. The constructor binds it. -/
  listening : Bool := true
  serveStarted : Bool := false
  closedByScenario : Bool := false
  clients : List ℕ := []
  deriving DecidableEq

namespace HttpServer

/-- The locked block of `close_port`: the flag and the copy of the clients change together. -/
def beginClose (server : HttpServer) : HttpServer × List ℕ :=
  ({ server with closedByScenario := true }, server.clients)

/-- `self.socket.shutdown` and `self.socket.close` of `close_port`, and `server_close`. A second call
finds a closed socket and changes nothing. -/
def closeSocket (server : HttpServer) : HttpServer := { server with listening := false }

/-- The locked block of `get_request`: the client is recorded, or false when the block closes it. -/
def registerOrClose (server : HttpServer) (client : ℕ) : HttpServer × Bool :=
  if server.closedByScenario then (server, false)
  else ({ server with clients := server.clients ++ [client] }, true)

/-- The locked block of `shutdown_request`. -/
def forget (server : HttpServer) (client : ℕ) : HttpServer :=
  { server with clients := server.clients.filter (· ≠ client) }

/-- `serve`, after `thread.start()` returned. -/
def markServing (server : HttpServer) : HttpServer := { server with serveStarted := true }

end HttpServer

end ProviderSimulator.Ports
