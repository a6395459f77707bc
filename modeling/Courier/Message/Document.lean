/-
Messages without a type of their own: any JSON value is one.
-/
import Courier.Message

namespace Courier

instance : Message Json.Value where
  typeName := "Value"
  decode := Json.Value.ofBytes
  view v := v

end Courier
