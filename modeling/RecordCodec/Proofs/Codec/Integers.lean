import RecordCodec.Codec.Unchecked
import RecordCodec.Proofs.Expansion.Codec
import RecordCodec.Proofs.Leaf.Acceptance
import RecordCodec.Proofs.Registry.Containers

namespace RecordCodec

-- Powers of natural numbers are those of the core library.
attribute [local instance (high)] instPowNat

namespace ByteOrder

theorem getElem?_digits {size i : Nat} (n : Nat) (h : i < size) :
    (digits size n)[i]? = some (UInt8.ofNat (n / 256 ^ i)) := by
  induction size generalizing n i with
  | zero => omega
  | succ size ih =>
    cases i with
    | zero => rw [digits, List.getElem?_cons_zero, Nat.pow_zero, Nat.div_one]
    | succ i =>
      rw [digits, List.getElem?_cons_succ, ih (n / 256) (by omega), Nat.div_div_eq_div_mul,
        Nat.pow_succ']

def place (order : ByteOrder) (size i : Nat) : Nat :=
  match order with
  | big => size - 1 - i
  | little => i

theorem getElem?_encode (order : ByteOrder) {size i : Nat} (n : Nat) (h : i < size) :
    (order.encode size n)[order.place size i]? = some (UInt8.ofNat (n / 256 ^ i)) := by
  have hdigit := getElem?_digits n h
  cases order with
  | little => exact hdigit
  | big =>
    have hplace : (digits size n).length - 1 - (size - 1 - i) = i := by
      rw [length_digits]
      omega
    rw [encode, place, List.getElem?_reverse (by rw [length_digits]; omega), hplace, hdigit]

theorem place_lt (order : ByteOrder) {size i : Nat} (h : i < size) : order.place size i < size := by
  cases order with
  | little => exact h
  | big =>
    rw [place]
    omega

end ByteOrder

namespace Window

variable {data : Bytes} {start length size : Nat} {offset : Int}

/-- Whether an offset designates a place of a buffer, be it from the start or from the end. -/
def Designates (offset : Int) (start length : Nat) : Prop :=
  offset = start ∨ offset = (start : Int) - length

theorem Designates.start?_eq (h : Designates offset start length) (hsize : 0 < size)
    (hroom : start + size ≤ length) : start? length size offset = some start := by
  rcases h with rfl | rfl
  · exact start?_of_le hroom
  · rw [start?, if_pos (by omega), Int.sub_add_cancel, if_pos (by omega), Int.toNat_natCast]

variable {block : Bytes}

theorem get_set_of_length_eq (hblock : block.length = size) (h : start + size ≤ data.length) :
    get (set data start block) start size = block := by
  subst hblock
  exact get_set (by omega)

theorem SameOutside.set_of_length_eq (hblock : block.length = size)
    (h : start + size ≤ data.length) :
    SameOutside start size data (Window.set data start block) := by
  subst hblock
  exact .set h

theorem getElem?_set_add {i : Nat} (hblock : block.length = size)
    (h : start + size ≤ data.length) (hi : i < size) :
    (set data start block)[start + i]? = block[i]? := by
  rw [← List.getElem?_drop, ← List.getElem?_take_of_lt hi]
  exact congrArg (·[i]?) (get_set_of_length_eq hblock h)

end Window

namespace Leaf

def IsIntOf (signed : Bool) (n : Nat) (x : Int) : Prop :=
  match signed with
  | true => -(2 ^ (8 * n - 1) : Nat) ≤ x ∧ x < (2 ^ (8 * n - 1) : Nat)
  | false => 0 ≤ x ∧ x < (2 ^ (8 * n) : Nat)

instance (signed : Bool) (n : Nat) (x : Int) : Decidable (IsIntOf signed n x) :=
  match signed with
  | true => inferInstanceAs (Decidable (_ ∧ _))
  | false => inferInstanceAs (Decidable (_ ∧ _))

theorem isIntOf_iff (signed : Bool) (size : WordSize) (x : Int) :
    IsIntOf signed size.bytes x ↔
      (intRange signed size).1 ≤ x ∧ x < (intRange signed size).2 := by
  cases signed <;> rfl

/-- Whether a buffer is another one with an integer in a window of `n` bytes: the base-256 digits
of the integer modulo the number of patterns stand there, each at its place. -/
structure HoldsInt (order : ByteOrder) (n : Nat) (x : Int) (start : Nat) (data after : Bytes) :
    Prop where
  sameOutside : Window.SameOutside start n data after
  digit : ∀ i < n, ∃ b, after[start + order.place n i]? = some b ∧
    b.toNat = (x % (2 ^ (8 * n) : Nat)).toNat / 256 ^ i % 256

variable {signed : Bool} {size : WordSize} {order : ByteOrder} {options : Value} {data : Bytes}
  {s : Source} {start : Nat} {offset x : Int}

theorem holdsInt_set (order : ByteOrder) (x : Int) (hroom : start + size.bytes ≤ data.length) :
    HoldsInt order size.bytes x start data
      (Window.set data start (order.encode size.bytes (toPattern size x))) := by
  have hlength := order.length_encode size.bytes (toPattern size x)
  refine ⟨.set_of_length_eq hlength hroom, fun i hi ↦ ?_⟩
  refine ⟨UInt8.ofNat (toPattern size x / 256 ^ i), ?_, UInt8.toNat_ofNat'⟩
  rw [Window.getElem?_set_add hlength hroom (order.place_lt hi), order.getElem?_encode _ hi]

theorem bytes_pos (size : WordSize) : 0 < size.bytes := by
  cases size <;> decide

theorem decode_encode_int (order : ByteOrder) (options : Value)
    (h : IsIntOf signed size.bytes x) :
    (int signed size).decode order options (order.encode size.bytes (toPattern size x)) =
      .ok (.int x) := by
  obtain ⟨hleast, hlt⟩ := (isIntOf_iff signed size x).1 h
  have hpattern := ByteOrder.decode_encode_of_lt order (toPattern_lt size x)
  cases signed with
  | false => rw [decode, hpattern, natCast_toPattern hleast hlt]
  | true => rw [decode, hpattern, toSigned_toPattern hleast hlt]

theorem exists_decode_int {block : Bytes} (signed : Bool) (hblock : block.length = size.bytes)
    (order : ByteOrder) (options : Value) : ∃ x, IsIntOf signed size.bytes x ∧
      (int signed size).decode order options block = .ok (.int x) ∧
      order.encode size.bytes (toPattern size x) = block := by
  have hlt := order.decode_lt block
  have hencode := order.encode_decode block
  rw [hblock] at hlt hencode
  cases signed with
  | false =>
    refine ⟨order.decode block, (isIntOf_iff _ _ _).2 (natCast_mem_intRange hlt), rfl, ?_⟩
    rw [toPattern_natCast hlt, hencode]
  | true =>
    refine ⟨toSigned size (order.decode block), (isIntOf_iff _ _ _).2 (toSigned_mem_intRange hlt),
      rfl, ?_⟩
    rw [toPattern_toSigned hlt, hencode]

theorem encodeInt?_of_isIntOf {v : Value} (order : ByteOrder) (hv : v.toInt? = some x)
    (hx : IsIntOf signed size.bytes x) :
    encodeInt? signed size order v = some (order.encode size.bytes (toPattern size x)) := by
  simp only [encodeInt?, bind, hv, Option.bind_some]
  exact if_pos ((isIntOf_iff signed size x).1 hx)

theorem encodeInt?_eq_none {v : Value} (order : ByteOrder)
    (h : ¬ ∃ x, v.toInt? = some x ∧ IsIntOf signed size.bytes x) :
    encodeInt? signed size order v = none := by
  by_contra hne
  obtain ⟨x, hx, hrange⟩ := (encodeInt?_ne_none_iff signed size order v).1 hne
  exact h ⟨x, hx, (isIntOf_iff signed size x).2 hrange⟩

theorem store_of_start? {l : Leaf} (h : Window.start? data.length l.size offset = some start)
    (hroom : start + l.size ≤ data.length) (order : ByteOrder) (s : Source) :
    (l.store order s offset).run data = (l.store order s start).run data := by
  unfold store
  rw [EStateM.run_bind, EStateM.run_bind, EStateM.run_get]
  dsimp only
  rw [h, Window.start?_of_le hroom]

end Leaf

namespace Codec

open Registry

variable {reg : Registry} {l : Leaf} {m : Memory} {data : Bytes} {offset : Int} {start : Nat}

theorem encode_leaf (hl : reg.find? l.name = some (.scalar (.ofScalar (.leaf l))))
    (hm : m.bytes = .ok data) (offset : Int) (s : Source) (order : ByteOrder) (options : Value) :
    encode reg m offset l.name s order.toValue options =
      runOn (.flat data m.writable) (.ok (encodeLeaf l m.writable order options s offset)) := by
  have hwritable : m.isWritable = m.writable := by
    rw [Memory.isWritable, hm]
    exact Bool.and_true _
  have hbuffer : m.buffer = .flat data m.writable := by
    rw [Memory.buffer, hwritable, hm]
    rfl
  rw [encode, hbuffer, hwritable, lookup_of_find? hl, ok_bind, ByteOrder.ofValue_toValue, ok_bind]
  rfl

theorem decode_leaf (hl : reg.find? l.name = some (.scalar (.ofScalar (.leaf l))))
    (hm : m.bytes = .ok data) (hstart : Window.start? data.length l.size offset = some start)
    (order : ByteOrder) (options : Value) {v : Value}
    (hv : l.decode order options (Window.get data start l.size) = .ok v) :
    decode reg m offset l.name order.toValue options = .ok (v, l.size) := by
  have hread : l.read order options data offset = .ok v := by
    rw [Leaf.read, hstart]
    exact hv
  rw [decode, lookup_of_find? hl, ok_bind, ByteOrder.ofValue_toValue, ok_bind]
  change (do let bytes ← m.bytes; (Scalar.leaf l).read order options bytes offset) = _
  rw [hm, ok_bind, Scalar.read, hread]
  rfl

theorem run_encodeLeaf_int (signed : Bool) (size : WordSize) (order : ByteOrder) (options : Value)
    (s : Source) (offset : Int) (data : Bytes) (writable : Bool) :
    (encodeLeaf (.int signed size) writable order options s offset).run data =
      if writable then ((Leaf.int signed size).store order s offset).run data
      else .error .notWritable data := by
  cases writable <;> rfl

variable (reg : Registry) (signed : Bool) (size : WordSize) (order : ByteOrder) (options : Value)

/-- What encoding a source as an integer comes to, at a place of a memory that holds `data`. -/
structure EncodesInt (m : Memory) (data : Bytes) (offset : Int) (start : Nat) (s : Source) :
    Prop where
  accepts : m.writable = true → ∀ x, (s.now data).toInt? = some x →
    Leaf.IsIntOf signed size.bytes x → ∃ after,
      encode reg m offset (Leaf.int signed size).name s order.toValue options =
        (.ok size.bytes, .flat after true) ∧
      Leaf.HoldsInt order size.bytes x start data after ∧
      ∀ m' : Memory, m'.bytes = .ok after →
        decode reg m' offset (Leaf.int signed size).name order.toValue options =
          .ok (.int x, size.bytes)
  rejects : m.writable = true →
    (¬ ∃ x, (s.now data).toInt? = some x ∧ Leaf.IsIntOf signed size.bytes x) → ∃ e after,
      encode reg m offset (Leaf.int signed size).name s order.toValue options =
        (.error e, .flat after true) ∧
      e = .unencodable (s.now after) (Leaf.int signed size).name ∧
      e.kind = if (s.now after).isWritable then .encode else .badValue
  refuses : m.writable = false →
    encode reg m offset (Leaf.int signed size).name s order.toValue options =
      (.error .notWritable, .flat data false)

/-- The bytes at any place of a memory that holds `data` are decoded as an integer in the range, and
encoding that integer at any place of any memory puts the same bytes there. -/
def DecodesInt (m : Memory) (data : Bytes) (offset : Int) (start : Nat) : Prop :=
  ∃ x, Leaf.IsIntOf signed size.bytes x ∧
    decode reg m offset (Leaf.int signed size).name order.toValue options =
      .ok (.int x, size.bytes) ∧
    ∀ (m' : Memory) (data' : Bytes) (offset' : Int) (start' : Nat), m'.bytes = .ok data' →
      m'.writable = true → Window.Designates offset' start' data'.length →
      start' + size.bytes ≤ data'.length → ∃ after,
        encode reg m' offset' (Leaf.int signed size).name (.value (.int x)) order.toValue options =
          (.ok size.bytes, .flat after true) ∧
        Window.SameOutside start' size.bytes data' after ∧
        Window.get after start' size.bytes = Window.get data start size.bytes

variable {reg signed size}

section

variable (hfind : reg.find? (Leaf.int signed size).name =
    some (.scalar (.ofScalar (.leaf (.int signed size)))))
  (hm : m.bytes = .ok data) (hplace : Window.Designates offset start data.length)
  (hroom : start + size.bytes ≤ data.length)

include hfind hm hplace hroom

theorem encode_int_eq_store (hw : m.writable = true) (s : Source) :
    encode reg m offset (Leaf.int signed size).name s order.toValue options =
      runOn (.flat data true) (.ok ((Leaf.int signed size).store order s start)) := by
  have hstart : Window.start? data.length (Leaf.int signed size).size offset = some start :=
    hplace.start?_eq (Leaf.bytes_pos size) hroom
  rw [encode_leaf hfind hm, hw, runOn, runOn]
  dsimp only [Buffer.data]
  rw [run_encodeLeaf_int, if_pos rfl, Leaf.store_of_start? hstart hroom]

theorem encode_int_of_some (hw : m.writable = true) {s : Source} {block : Bytes}
    (hblock : Leaf.encodeInt? signed size order (s.now data) = some block) :
    encode reg m offset (Leaf.int signed size).name s order.toValue options =
      (.ok size.bytes, .flat (Window.set data start block) true) := by
  have hstore := Leaf.store_of_some (l := .int signed size) hblock hroom
  rw [encode_int_eq_store order options hfind hm hplace hroom hw, runOn]
  dsimp only [Buffer.data]
  rw [hstore]
  rfl

theorem encode_int_of_none (hw : m.writable = true) {s : Source}
    (hnone : Leaf.encodeInt? signed size order (s.now data) = none) : ∃ after,
      encode reg m offset (Leaf.int signed size).name s order.toValue options =
        (.error (.unencodable (s.now after) (Leaf.int signed size).name), .flat after true) := by
  have hstore := Leaf.store_eq_residue (l := .int signed size) hnone hroom
  refine ⟨Window.set data start ((Leaf.int signed size).residue order (s.now data)), ?_⟩
  rw [encode_int_eq_store order options hfind hm hplace hroom hw, runOn]
  dsimp only [Buffer.data]
  rw [hstore]
  rfl

theorem decode_int {block : Bytes} {x : Int} (hblock : Window.get data start size.bytes = block)
    (hx : (Leaf.int signed size).decode order options block = .ok (.int x)) :
    decode reg m offset (Leaf.int signed size).name order.toValue options =
      .ok (.int x, size.bytes) :=
  decode_leaf hfind hm (hplace.start?_eq (Leaf.bytes_pos size) hroom) order options
    (l := .int signed size) (hblock.symm ▸ hx)

theorem encodesInt (s : Source) :
    EncodesInt reg signed size order options m data offset start s := by
  constructor
  · intro hw x hx hrange
    have hlength := order.length_encode size.bytes (Leaf.toPattern size x)
    have hblock := Leaf.encodeInt?_of_isIntOf order hx hrange
    have hafter := Leaf.holdsInt_set order x hroom
    refine ⟨_, encode_int_of_some order options hfind hm hplace hroom hw hblock, hafter, ?_⟩
    intro m' hm'
    have hsize := hafter.sameOutside.length_eq
    exact decode_int order options hfind hm' (hsize ▸ hplace) (hsize ▸ hroom)
      (Window.get_set_of_length_eq hlength hroom) (Leaf.decode_encode_int order options hrange)
  · intro hw hno
    obtain ⟨after, hafter⟩ := encode_int_of_none order options hfind hm hplace hroom hw
      (Leaf.encodeInt?_eq_none order hno)
    exact ⟨_, after, hafter, rfl, rfl⟩
  · intro hw
    rw [encode_leaf hfind hm, hw, runOn]
    dsimp only [Buffer.data]
    rw [run_encodeLeaf_int, if_neg Bool.false_ne_true]
    rfl

theorem decodesInt : DecodesInt reg signed size order options m data offset start := by
  obtain ⟨x, hrange, hdecode, hblock⟩ :=
    Leaf.exists_decode_int signed (Window.length_get hroom) order options
  refine ⟨x, hrange, decode_int order options hfind hm hplace hroom rfl hdecode, ?_⟩
  intro m' data' offset' start' hm' hw hplace' hroom'
  have hx : Leaf.encodeInt? signed size order ((Source.value (.int x)).now data') =
      some (Window.get data start size.bytes) :=
    hblock ▸ Leaf.encodeInt?_of_isIntOf order rfl hrange
  have hlength := Window.length_get hroom
  exact ⟨_, encode_int_of_some order options hfind hm' hplace' hroom' hw hx,
    .set_of_length_eq hlength hroom', Window.get_set_of_length_eq hlength hroom'⟩

end

theorem find?_int_callAll (calls : List Call) (signed : Bool) (size : WordSize) :
    (primitive.callAll calls).find? (Leaf.int signed size).name =
      some (.scalar (.ofScalar (.leaf (.int signed size)))) := by
  have hnew : primitive.lookup (Scalar.leaf (.int signed size)).name =
      .ok (.scalar (.ofScalar (.leaf (.int signed size)))) :=
    lookup_of_new (.inl rfl) (by cases signed <;> cases size <;> decide)
  exact find?_of_grown (prefix_callAll primitive calls) (lookup_eq_ok_iff.1 hnew)

end Codec

end RecordCodec
