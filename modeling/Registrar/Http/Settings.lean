/-!
# Settings of the service

## Main definitions

* `ApiSettings` — where the service listens and what it accepts.
-/

namespace Registrar

/-- Where the service listens and what it accepts. -/
structure ApiSettings where
  host : String
  port : Nat
  /-- The origins from which pages may see responses; with none, all may. -/
  origins : List String
  /-- The largest body of a request, in bytes. -/
  maxBodySize : Nat
deriving DecidableEq, Inhabited, Repr

namespace ApiSettings

/-- The host at which the service listens unless configured otherwise: all interfaces. -/
def defaultHost : String := "0.0.0.0"

/-- The port at which the service listens unless configured otherwise. -/
def defaultPort : Nat := 4321

/-- The largest body unless configured otherwise: 64 MiB. -/
def defaultMaxBodySize : Nat := 64 * 1024 * 1024

/-- Settings for a host and a port that let pages from everywhere see responses. -/
def ofAddress (host : String) (port : Nat) : ApiSettings :=
  ⟨host, port, [], defaultMaxBodySize⟩

/-- The address at which the service listens. -/
def address (settings : ApiSettings) : String :=
  settings.host ++ ":" ++ toString settings.port

end ApiSettings

end Registrar
