import RecordCodec.Error

namespace RecordCodec

inductive ByteOrder where
  | big
  | little
deriving DecidableEq, Inhabited

namespace ByteOrder

def ofValue : Value → Except Error ByteOrder
  | .text "big" => .ok .big
  | .text "little" => .ok .little
  | v => .error (.badOrder v)

def toValue : ByteOrder → Value
  | .big => .text "big"
  | .little => .text "little"

theorem ofValue_toValue (order : ByteOrder) : ofValue order.toValue = .ok order := by
  cases order <;> rfl

/-- The lowest `size` base-256 digits of `n`, least significant first. -/
def digits : Nat → Nat → Bytes
  | 0, _ => []
  | size + 1, n => UInt8.ofNat n :: digits size (n / 256)

def ofDigits : Bytes → Nat
  | [] => 0
  | b :: rest => b.toNat + 256 * ofDigits rest

def encode (order : ByteOrder) (size n : Nat) : Bytes :=
  match order with
  | .big => (digits size n).reverse
  | .little => digits size n

def decode (order : ByteOrder) (data : Bytes) : Nat :=
  match order with
  | .big => ofDigits data.reverse
  | .little => ofDigits data

end ByteOrder

end RecordCodec
