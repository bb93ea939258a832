/-
**Endpoints.**

An endpoint pairs an application protocol with the transport that carries it and the port that it is
served on. `INTERFACES` and `TRANSPORTS` are closed vocabularies, and `build_registry` refuses a row
that names another word, so each is an enumeration with the source's words as its names.
-/

import Mathlib.Tactic.Common
import ProviderSimulator.Python.Value

namespace ProviderSimulator.Domain

open ProviderSimulator.Python

/-- `INTERFACES`. -/
inductive Interface
  | jsonrpc
  | rest
  | grpc
  | tendermintrpc
  | graphql
  deriving DecidableEq

/-- `TRANSPORTS`. -/
inductive Transport
  | http
  | http2
  | ws
  deriving DecidableEq

def Interface.name : Interface → String
  | .jsonrpc => "jsonrpc"
  | .rest => "rest"
  | .grpc => "grpc"
  | .tendermintrpc => "tendermintrpc"
  | .graphql => "graphql"

def Transport.name : Transport → String
  | .http => "http"
  | .http2 => "http2"
  | .ws => "ws"

/-- The words of `TRANSPORTS`, in their order. -/
def transports : List String := ["http", "http2", "ws"]

/-- `Endpoint`. -/
structure Endpoint where
  interface : Interface
  transport : Transport
  port : ℕ
  deriving DecidableEq

/-- Is the value one of `TRANSPORTS`? -/
def isTransport (value : Value) : Bool := transports.any fun word => value.eqText word

end ProviderSimulator.Domain
