/-
A message of two fields, a number and a text.
-/
import Courier.Message

namespace Courier

/-- A parcel on its way. -/
structure Parcel where
  id : UInt32
  carrier : String
  deriving DecidableEq, Repr

namespace Parcel

/-- The record that holds a parcel. -/
def shape : Json.Shape where
  name := "Parcel"
  fields := [⟨"id", .word .u32, none⟩, ⟨"carrier", .text, none⟩]

def ofRow : Json.Row shape.fields → Parcel
  | (id, carrier, ()) => ⟨id, carrier⟩

def toRow (p : Parcel) : Json.Row shape.fields := (p.id, p.carrier, ())

instance : Message Parcel where
  typeName := "Parcel"
  decode bytes := ofRow <$> shape.ofBytes bytes
  view p := shape.toValue p.toRow

end Parcel

end Courier
