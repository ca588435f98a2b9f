import RecordCodec.ByteOrder

namespace RecordCodec.ByteOrder

-- Powers of natural numbers are those of the core library.
attribute [local instance (high)] instPowNat

@[simp]
theorem length_digits (size n : Nat) : (digits size n).length = size := by
  induction size generalizing n with
  | zero => rfl
  | succ size ih => rw [digits, List.length_cons, ih]

theorem ofDigits_digits (size n : Nat) : ofDigits (digits size n) = n % 256 ^ size := by
  induction size generalizing n with
  | zero => rw [digits, ofDigits, Nat.pow_zero, Nat.mod_one]
  | succ size ih =>
    have hdigit : (UInt8.ofNat n).toNat = n % 256 := UInt8.toNat_ofNat'
    rw [digits, ofDigits, ih, hdigit, Nat.pow_succ', Nat.mod_mul]

theorem digits_ofDigits (data : Bytes) : digits data.length (ofDigits data) = data := by
  induction data with
  | nil => rfl
  | cons b rest ih =>
    have hb : b.toNat < 256 := b.toNat_lt
    have hdiv : (b.toNat + 256 * ofDigits rest) / 256 = ofDigits rest := by omega
    have hmod : UInt8.ofNat (b.toNat + 256 * ofDigits rest) = b := by
      apply UInt8.toNat_inj.1
      rw [UInt8.toNat_ofNat']
      omega
    rw [ofDigits, List.length_cons, digits, hdiv, hmod, ih]

theorem ofDigits_lt (data : Bytes) : ofDigits data < 256 ^ data.length := by
  induction data with
  | nil => exact Nat.one_pos
  | cons b rest ih =>
    have hb : b.toNat < 256 := b.toNat_lt
    rw [ofDigits, List.length_cons, Nat.pow_succ]
    omega

variable (order : ByteOrder)

@[simp]
theorem length_encode (size n : Nat) : (order.encode size n).length = size := by
  cases order with
  | big => rw [encode, List.length_reverse, length_digits]
  | little => rw [encode, length_digits]

theorem decode_encode (size n : Nat) : order.decode (order.encode size n) = n % 256 ^ size := by
  cases order with
  | big => rw [decode, encode, List.reverse_reverse, ofDigits_digits]
  | little => rw [decode, encode, ofDigits_digits]

theorem decode_encode_of_lt {size n : Nat} (h : n < 256 ^ size) :
    order.decode (order.encode size n) = n := by
  rw [decode_encode, Nat.mod_eq_of_lt h]

theorem encode_decode (data : Bytes) : order.encode data.length (order.decode data) = data := by
  cases order with
  | big =>
    rw [decode, encode, ← List.length_reverse, digits_ofDigits, List.reverse_reverse]
  | little => rw [decode, encode, digits_ofDigits]

theorem decode_lt (data : Bytes) : order.decode data < 256 ^ data.length := by
  cases order with
  | big =>
    rw [decode, ← List.length_reverse]
    exact ofDigits_lt _
  | little => exact ofDigits_lt _

def opposite : ByteOrder → ByteOrder
  | big => little
  | little => big

theorem encode_opposite (size n : Nat) :
    order.opposite.encode size n = (order.encode size n).reverse := by
  cases order with
  | big => exact (List.reverse_reverse _).symm
  | little => rfl

theorem decode_opposite (data : Bytes) :
    order.opposite.decode data = order.decode data.reverse := by
  cases order with
  | big =>
    rw [decode, List.reverse_reverse]
    rfl
  | little => rfl

end RecordCodec.ByteOrder
