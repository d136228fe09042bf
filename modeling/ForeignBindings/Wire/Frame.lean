import ForeignBindings.ByteOrder
import ForeignBindings.Wire.Error

/-!
# Frames

A payload of bytes behind a header of four bytes that holds its length, highest byte first.  Bytes
after the announced length do not belong to the payload.
-/

namespace ForeignBindings
namespace Frame

/-- The number of bytes of the header. -/
def headerSize : Nat := 4

/-- The frame of a payload whose length fits the header. -/
def encode (payload : List UInt8) : Except WireError (List UInt8) :=
  if payload.length < ByteOrder.patternCount headerSize then
    .ok (ByteOrder.big.bytes headerSize payload.length ++ payload)
  else .error (.payloadTooLarge payload.length)

/-- The payload at the start of a sequence of bytes. -/
def decode (frame : List UInt8) : Except WireError (List UInt8) :=
  if frame.length < headerSize then .error (.truncated headerSize frame.length)
  else
    let announced := ByteOrder.big.number (frame.take headerSize)
    if headerSize + announced ≤ frame.length then
      .ok ((frame.drop headerSize).take announced)
    else .error (.truncated (headerSize + announced) frame.length)

example : encode [1, 2, 3] = .ok [0, 0, 0, 3, 1, 2, 3] := rfl

example : decode [0, 0, 0, 2, 9, 8, 7, 6] = .ok [9, 8] := rfl

example : decode [0, 0, 0, 5, 1] = .error (.truncated 9 5) := rfl

end Frame
end ForeignBindings
