/-
Messages as payloads. A message type has a name and a JSON form; payloads
are read as messages and messages written as payloads. A type may be one
that cannot be written.

`Format` is what is left of a message type when only its payloads matter:
its name, and how a payload is read, the message shown as JSON.
-/
import Courier.Failure
import Courier.Json.Shape

namespace Courier

/-- A type of messages. -/
class Message (α : Type) where
  typeName : String
  decode : List UInt8 → Except Json.Fault α
  /-- The message as JSON. -/
  view : α → Json.Value
  /-- The payload of a message. -/
  encode : α → Except Failure (List UInt8) := fun m => .ok (view m).bytes

/-- How payloads of a message type are read. -/
structure Format where
  typeName : String
  read : List UInt8 → Except Json.Fault Json.Value

/-- The format of a message type. -/
def Format.of (α : Type) [Message α] : Format where
  typeName := Message.typeName α
  read bytes := Message.view <$> Message.decode (α := α) bytes

/-- Reads a payload and writes the message again; the outer failure is of
reading, the inner one of writing. -/
def Message.recode (α : Type) [Message α] (bytes : List UInt8) :
    Except Json.Fault (Except Failure (List UInt8)) :=
  (fun m : α => Message.encode m) <$> Message.decode bytes

end Courier
