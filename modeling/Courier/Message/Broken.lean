/-
Messages that can be read and not written.
-/
import Courier.Message

namespace Courier

/-- A message with no content and no written form. -/
inductive Broken where
  | broken
  deriving DecidableEq, Repr

namespace Broken

/-- The record that holds such a message. -/
def shape : Json.Shape where
  name := "Broken"
  fields := []

instance : Message Broken where
  typeName := "Broken"
  decode bytes := (fun _ => .broken) <$> shape.ofBytes bytes
  view _ := .object []
  encode _ := .error .unwritableMessage

end Broken

end Courier
