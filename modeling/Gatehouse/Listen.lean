import Gatehouse.Settings
import Gatehouse.Url.Host

/-!
# Where the service listens

The address at which the service listens is given by host and port, and the host has to be an address
of version 4, or one of version 6 between square brackets.
-/

namespace Gatehouse

structure SocketAddress where
  host : Url.Host
  port : Nat
  deriving DecidableEq, Repr

namespace SocketAddress

def port? (text : List Char) : Option Nat := (Text.digits? text).filter (· < 0x10000)

/-- The address of four decimal bytes. -/
def ipv4? (text : List Char) : Option Nat := do
  match ← (text.splitOn '.').mapM Url.Host.tailByte? with
  | [a, b, c, d] => pure (((a * 256 + b) * 256 + c) * 256 + d)
  | _ => none

/-- Reads an address and a port with a colon between them. -/
def parse? (text : String) : Option SocketAddress :=
  match text.toList with
  | '[' :: rest =>
    match rest.dropWhile (· != ']') with
    | ']' :: ':' :: port => do
      pure ⟨.ipv6 (← Url.Host.ipv6? (rest.takeWhile (· != ']'))), ← port? port⟩
    | _ => none
  | cs =>
    match cs.dropWhile (· != ':') with
    | ':' :: port => do pure ⟨.ipv4 (← ipv4? (cs.takeWhile (· != ':'))), ← port? port⟩
    | _ => none

/-- The address at which a service with some environment listens. -/
def ofEnvironment (env : Environment) : Except String SocketAddress :=
  let host := (env.lookup "APP_HOST").getD "0.0.0.0"
  let port := (env.lookup "APP_PORT").getD "8080"
  match parse? (host ++ ":" ++ port) with
  | some address => .ok address
  | none => .error "invalid socket address syntax"

end SocketAddress

end Gatehouse
