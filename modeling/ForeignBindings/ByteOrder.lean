/-!
# Byte order

Natural numbers as bytes of a fixed count, lowest byte first or highest byte first.
-/

namespace ForeignBindings

/-- The order of the bytes of a number. -/
inductive ByteOrder where
  /-- Lowest byte first. -/
  | little
  /-- Highest byte first. -/
  | big
  deriving DecidableEq, Repr, Inhabited

namespace ByteOrder

/-- The lowest bytes of a number, the lowest first. -/
def lowBytes : Nat → Nat → List UInt8
  | 0, _ => []
  | count + 1, number => UInt8.ofNat number :: lowBytes count (number / 256)

/-- The number whose bytes are given, the lowest first. -/
def ofLowBytes : List UInt8 → Nat
  | [] => 0
  | byte :: rest => byte.toNat + 256 * ofLowBytes rest

/-- The number of patterns of a count of bytes. -/
def patternCount (count : Nat) : Nat := Nat.pow 256 count

/-- The bytes of a number in a given order; what does not fit into `count` bytes is dropped. -/
def bytes (order : ByteOrder) (count number : Nat) : List UInt8 :=
  match order with
  | .little => lowBytes count number
  | .big => (lowBytes count number).reverse

/-- The number whose bytes are given in a given order. -/
def number (order : ByteOrder) (bytes : List UInt8) : Nat :=
  match order with
  | .little => ofLowBytes bytes
  | .big => ofLowBytes bytes.reverse

@[simp]
theorem length_lowBytes (count number : Nat) : (lowBytes count number).length = count := by
  induction count generalizing number with
  | zero => rfl
  | succ count induction => simp [lowBytes, induction]

@[simp]
theorem length_bytes (order : ByteOrder) (count number : Nat) :
    (order.bytes count number).length = count := by
  cases order <;> simp [bytes]

theorem patternCount_succ (count : Nat) : patternCount (count + 1) = 256 * patternCount count :=
  Nat.mul_comm ..

theorem ofLowBytes_lowBytes (count number : Nat) :
    ofLowBytes (lowBytes count number) = number % patternCount count := by
  induction count generalizing number with
  | zero => simp [lowBytes, ofLowBytes, patternCount, Nat.mod_one]
  | succ count induction =>
      have low : (UInt8.ofNat number).toNat = number % 256 := UInt8.toNat_ofNat'
      rw [lowBytes, ofLowBytes, induction, low, patternCount_succ, Nat.mod_mul]

theorem number_bytes (order : ByteOrder) (count number : Nat) :
    order.number (order.bytes count number) = number % patternCount count := by
  cases order <;> simp [bytes, ByteOrder.number, ofLowBytes_lowBytes]

end ByteOrder
end ForeignBindings
