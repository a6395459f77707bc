/-
How one broker is reached: its address, the credentials, and how a
connection that fails is tried again.

The virtual host `/` is the broker's default and stays as it is; any other
virtual host is addressed without the slashes in front of it.
-/
import Courier.Json.Shape
import Courier.Required
import Courier.Span

namespace Courier.Settings

/-- Settings of the connection to a broker. -/
structure Connection where
  host : String := "localhost"
  virtualHost : String := "/"
  port : UInt16 := 5672
  user : String := "guest"
  password : String := "guest"
  /-- Delay between two attempts. -/
  retryTimeout : Span := .ofMillis 5000
  /-- How many times a failed attempt is repeated. -/
  maxReconnectCount : UInt32 := 0
  deriving DecidableEq, Repr

/-- What a connection is opened with. -/
structure Address where
  user : String
  password : String
  host : String
  port : UInt16
  virtualHost : String
  deriving DecidableEq, Repr

/-- The scheme of every address. -/
def Address.scheme : String := "amqp"

namespace Connection

/-- Checks every setting and reports the first one that is wrong. -/
def check (c : Connection) : Except Failure Unit := do
  required "host" c.host
  required "virtual host" c.virtualHost
  required "user" c.user
  required "password" c.password
  refuseIf (c.port == 0) "the port must be correct"
  refuseIf c.retryTimeout.isZero "retry timeout must be greater than 0"

/-- The checks one by one, as what they leave. -/
theorem check_eq_ok_iff {c : Connection} : c.check = .ok () ↔
    Text.isBlank c.host = false ∧ Text.isBlank c.virtualHost = false
      ∧ Text.isBlank c.user = false ∧ Text.isBlank c.password = false
      ∧ c.port ≠ 0 ∧ c.retryTimeout.isZero = false := by
  simp only [check, required_bind_eq_ok_iff, refuseIf_bind_eq_ok_iff, refuseIf_eq_ok_iff,
    beq_eq_false_iff_ne]

/-- A virtual host as it is addressed. -/
def addressedHost (virtualHost : String) : String :=
  if virtualHost = "/" then virtualHost
  else String.ofList (virtualHost.toList.dropWhile (· == '/'))

/-- The address of the broker. Credentials and names are taken as they are,
whatever characters they hold. -/
def address (c : Connection) : Address :=
  { user := c.user
    password := c.password
    host := c.host
    port := c.port
    virtualHost := addressedHost c.virtualHost }

/-- Host and port, as logs show them. -/
def display (c : Connection) : String :=
  c.host ++ ":" ++ String.ofList (Json.digits c.port.toNat)

/-- The record that holds connection settings. -/
def shape : Json.Shape where
  name := "ConnectionConfig"
  fields := [
    ⟨"host", .text, none⟩,
    ⟨"virtual_host", .text, some "/"⟩,
    ⟨"port", .word .u16, none⟩,
    ⟨"user", .text, none⟩,
    ⟨"password", .text, none⟩,
    ⟨"retry_timeout_ms", .word .u64, none⟩,
    ⟨"max_reconnect_count", .word .u32, some (0 : UInt32)⟩]

/-- The settings in a record. -/
def ofRow : Json.Row shape.fields → Connection
  | (host, virtualHost, port, user, password, millis, count, ()) =>
    { host := host
      virtualHost := virtualHost
      port := port
      user := user
      password := password
      retryTimeout := .ofMillis millis
      maxReconnectCount := count }

/-- Settings as a record; the timeout is written in milliseconds. -/
def toRow (c : Connection) : Json.Row shape.fields :=
  (c.host, c.virtualHost, c.port, c.user, c.password, c.retryTimeout.millis64,
    c.maxReconnectCount, ())

/-- Reads settings from a JSON text. -/
def ofBytes (bytes : List UInt8) : Except Json.Fault Connection :=
  ofRow <$> shape.ofBytes bytes

/-- Settings as JSON. -/
def toJson (c : Connection) : Json.Value := shape.toValue c.toRow

/-- Only the timeout is changed by writing and reading: it is cut to whole
milliseconds, of which the low 64 bits are kept. -/
theorem ofRow_toRow (c : Connection) :
    ofRow c.toRow = { c with retryTimeout := .ofMillis c.retryTimeout.millis64 } := rfl

end Connection

end Courier.Settings
