import RecordCodec.Proofs.Expansion.Basic
import RecordCodec.Proofs.Leaf.Encoding
import RecordCodec.Proofs.Number.Exact

namespace RecordCodec

-- Powers of natural numbers are those of the core library.
attribute [local instance (high)] instPowNat

def Value.IsAtom : Value → Prop
  | bytearray _ | list _ | tuple _ | dict _ | again _ => False
  | _ => True

namespace Leaf

/-- Whether a block of bytes comes back from its value: a truth value must be zero or one, and a
single must not be a NaN. -/
def Reproduces (l : Leaf) (order : ByteOrder) (block : Bytes) : Prop :=
  match l with
  | bool => order.decode block ≤ 1
  | single => order.decode block % BinaryFormat.single.signBit ≤ BinaryFormat.single.infinity
  | _ => True

instance (l : Leaf) (order : ByteOrder) (block : Bytes) : Decidable (l.Reproduces order block) :=
  match l with
  | bool => inferInstanceAs (Decidable (_ ≤ _))
  | single => inferInstanceAs (Decidable (_ ≤ _))
  | int _ _ | double | char | bits _ => .isTrue trivial

/-- Whether a value is of the kind and in the range of the leaf. -/
def Canonical (l : Leaf) (options v : Value) : Prop :=
  match l, v with
  | int signed size, .int n => (intRange signed size).1 ≤ n ∧ n < (intRange signed size).2
  | single, .float x => x.isNaN = false ∧ x.IsSingle
  | double, .float x => x.isNaN = false
  | char, .text s => ∃ c : Char, s = String.ofList [c] ∧ c.toNat ≤ 0xFF
  | bool, .bool _ => True
  | bits c, .bits b =>
    b.container = c ∧ (Layout.build options c.width c.name).map Subtype.val = .ok b.layout
  | _, _ => False

theorem toPattern_lt (size : WordSize) (n : Int) : toPattern size n < 256 ^ size.bytes := by
  cases size <;> simp only [toPattern, WordSize.bytes] <;> omega

theorem toPattern_natCast {size : WordSize} {p : Nat} (h : p < 256 ^ size.bytes) :
    toPattern size p = p := by
  cases size <;> simp only [toPattern, WordSize.bytes] at h ⊢ <;> omega

theorem toPattern_toSigned {size : WordSize} {p : Nat} (h : p < 256 ^ size.bytes) :
    toPattern size (toSigned size p) = p := by
  unfold toSigned toPattern
  split <;> cases size <;> simp only [WordSize.bytes] at * <;> omega

theorem toSigned_toPattern {size : WordSize} {n : Int} (h₁ : (intRange true size).1 ≤ n)
    (h₂ : n < (intRange true size).2) : toSigned size (toPattern size n) = n := by
  simp only [intRange, if_pos] at h₁ h₂
  unfold toSigned toPattern
  split <;> cases size <;> simp only [WordSize.bytes] at * <;> omega

theorem natCast_toPattern {size : WordSize} {n : Int} (h₁ : (intRange false size).1 ≤ n)
    (h₂ : n < (intRange false size).2) : (toPattern size n : Int) = n := by
  cases size <;> simp [toPattern, intRange, WordSize.bytes] at h₁ h₂ ⊢ <;> omega

theorem natCast_mem_intRange {size : WordSize} {p : Nat} (h : p < 256 ^ size.bytes) :
    (intRange false size).1 ≤ (p : Int) ∧ (p : Int) < (intRange false size).2 := by
  cases size <;> simp [intRange, WordSize.bytes] at h ⊢ <;> omega

theorem toSigned_mem_intRange {size : WordSize} {p : Nat} (h : p < 256 ^ size.bytes) :
    (intRange true size).1 ≤ toSigned size p ∧ toSigned size p < (intRange true size).2 := by
  simp only [intRange, if_pos]
  unfold toSigned
  split <;> cases size <;> simp only [WordSize.bytes] at * <;> omega

theorem encodeInt?_of_mem {signed : Bool} {size : WordSize} (order : ByteOrder) {n : Int}
    (h : (intRange signed size).1 ≤ n ∧ n < (intRange signed size).2) :
    encodeInt? signed size order (.int n) =
      some (order.encode size.bytes (toPattern size n)) :=
  if_pos h

theorem byte?_ofNat (b : UInt8) : Latin1.byte? (Char.ofNat b.toNat) = some b := by
  have hb := b.toNat_lt
  have hvalid : b.toNat.isValidChar := .inl (by omega)
  have hchar : (Char.ofNat b.toNat).toNat = b.toNat := by
    rw [Char.ofNat, dif_pos hvalid]
    rfl
  rw [Latin1.byte?, hchar, if_pos (by omega), UInt8.ofNat_toNat]

theorem charByte_decode (b : UInt8) : charByte (.text (Latin1.decode [b])) = .ok b := by
  have hencode : Latin1.encode? (Latin1.decode [b]) = some [b] := by
    simp [Latin1.encode?, Latin1.decode, byte?_ofNat]
  simp only [charByte, hencode]

theorem decode_char {c : Char} (h : c.toNat ≤ 0xFF) :
    Latin1.decode [UInt8.ofNat c.toNat] = String.ofList [c] := by
  have hbyte : (UInt8.ofNat c.toNat).toNat = c.toNat := by
    rw [UInt8.toNat_ofNat']
    omega
  rw [Latin1.decode, List.map_singleton, hbyte, Char.ofNat_toNat]

theorem two_pow_width (c : Container) : 2 ^ c.width = 256 ^ c.bytes := by
  cases c <;> rfl

theorem ofRaw_eq_ok {c : Container} {raw : Nat} {options : Value}
    {layout : { l : Layout // (l.width : Int) ≤ c.width }} (h : raw < 2 ^ c.width)
    (hl : Layout.build options c.width c.name = .ok layout) :
    ∃ b, Bitfield.ofRaw c raw options = .ok b ∧ b.container = c ∧ b.raw = raw ∧
      b.layout = layout := by
  have hraw : 0 ≤ (raw : Int) ∧ (raw : Int) < (2 ^ c.width : Nat) := by omega
  rw [Bitfield.ofRaw, dif_pos hraw, hl]
  exact ⟨_, rfl, rfl, Int.toNat_natCast raw, rfl⟩

theorem bitfield_ext {b b' : Bitfield} (hc : b.container = b'.container)
    (hl : b.layout = b'.layout) (hr : b.raw = b'.raw) : b = b' := by
  cases b; cases b'; cases hc; cases hl; cases hr; rfl

variable {l : Leaf} {order : ByteOrder} {options v : Value} {block : Bytes}

theorem Canonical.isAtom (h : l.Canonical options v) : v.IsAtom := by
  unfold Canonical at h
  split at h
  case h_7 => contradiction
  all_goals trivial

theorem decode_isAtom (h : l.decode order options block = .ok v) : v.IsAtom := by
  unfold decode at h
  split at h
  case h_7 =>
    obtain ⟨b, -, h⟩ := bind_eq_ok.1 h
    cases h
    trivial
  all_goals
    cases h
    trivial

def StandsFor (l : Leaf) (order : ByteOrder) (options v : Value) (block : Bytes) : Prop :=
  (∀ data, l.encoding? order options data (.value v) = some block) ∧
    l.decode order options block = .ok v

theorem standsFor_unsigned {size : WordSize} (order : ByteOrder) (options : Value) {p : Nat}
    (hp : p < 256 ^ size.bytes) :
    (int false size).StandsFor order options (.int p) (order.encode size.bytes p) := by
  have hint := encodeInt?_of_mem order (natCast_mem_intRange hp)
  rw [toPattern_natCast hp] at hint
  refine ⟨fun _ ↦ hint, ?_⟩
  rw [decode, ByteOrder.decode_encode_of_lt _ hp]

theorem standsFor_signed {size : WordSize} (order : ByteOrder) (options : Value) {p : Nat}
    (hp : p < 256 ^ size.bytes) :
    (int true size).StandsFor order options (.int (toSigned size p))
      (order.encode size.bytes p) := by
  have hint := encodeInt?_of_mem order (toSigned_mem_intRange hp)
  rw [toPattern_toSigned hp] at hint
  refine ⟨fun _ ↦ hint, ?_⟩
  rw [decode, ByteOrder.decode_encode_of_lt _ hp]

theorem standsFor_single (order : ByteOrder) (options : Value) {p : Nat} (hp : p < 256 ^ (4 : Nat))
    (hnarrow : Binary64.narrow? (.widen p) = some p) :
    single.StandsFor order options (.float (.widen p)) (order.encode 4 p) := by
  have hencode : encode? single order (.float (.widen p)) = some (order.encode 4 p) := by
    simp only [encode?, toDouble?, Option.bind_some, hnarrow, Option.map_some]
  refine ⟨fun _ ↦ hencode, ?_⟩
  rw [decode, ByteOrder.decode_encode_of_lt _ hp]

theorem standsFor_double (order : ByteOrder) (options : Value) (x : Binary64) :
    double.StandsFor order options (.float x) (order.encode 8 x.bits.toNat) := by
  refine ⟨fun _ ↦ rfl, ?_⟩
  rw [decode, ByteOrder.decode_encode_of_lt _ x.bits.toNat_lt, UInt64.ofNat_toNat]

theorem standsFor_char (order : ByteOrder) (options : Value) (b : UInt8) :
    char.StandsFor order options (.text (Latin1.decode [b])) [b] := by
  refine ⟨fun data ↦ ?_, rfl⟩
  have hchar : charByte ((Source.value (.text (Latin1.decode [b]))).now data) = .ok b :=
    charByte_decode b
  simp only [encoding?, prepare, hchar]
  rfl

theorem standsFor_bool (order : ByteOrder) (options : Value) (b : Bool) :
    bool.StandsFor order options (.bool b) (order.encode 4 b.toNat) := by
  have hp : b.toNat < 256 ^ 4 := by cases b <;> decide
  refine ⟨fun _ ↦ by cases b <;> rfl, ?_⟩
  rw [decode, ByteOrder.decode_encode_of_lt _ hp]
  cases b <;> rfl

theorem standsFor_bits (order : ByteOrder) {options : Value} {b : Bitfield}
    (hl : (Layout.build options b.container.width b.container.name).map Subtype.val =
      .ok b.layout) :
    (bits b.container).StandsFor order options (.bits b)
      (order.encode b.container.bytes b.raw) := by
  have hp : b.raw < 256 ^ b.container.bytes := two_pow_width _ ▸ b.raw_lt
  refine ⟨fun data ↦ ?_, ?_⟩
  · have hcoerce : Bitfield.coerce b.container ((Source.value (.bits b)).opened data) options =
        .ok b := if_pos rfl
    simp only [encoding?, prepare, hcoerce]
    rfl
  · obtain ⟨layout, hbuild, hlayout⟩ := map_eq_ok.1 hl
    obtain ⟨b', hb', hcontainer, hraw, hlayout'⟩ := ofRaw_eq_ok b.raw_lt hbuild
    have heq : b' = b := bitfield_ext hcontainer (hlayout'.trans hlayout) hraw
    rw [decode, ByteOrder.decode_encode_of_lt _ hp, hb', heq]
    rfl

theorem Canonical.exists_block (order : ByteOrder) (h : l.Canonical options v) :
    ∃ block, l.StandsFor order options v block := by
  unfold Canonical at h
  split at h
  · rename_i signed size n
    have hp := toPattern_lt size n
    cases signed with
    | false =>
      have hstands := standsFor_unsigned order options hp
      rw [natCast_toPattern h.1 h.2] at hstands
      exact ⟨_, hstands⟩
    | true =>
      have hstands := standsFor_signed order options hp
      rw [toSigned_toPattern h.1 h.2] at hstands
      exact ⟨_, hstands⟩
  · obtain ⟨p, hp, hnarrow, rfl⟩ := h.2.exists_narrow?
    exact ⟨_, standsFor_single order options hp hnarrow⟩
  · exact ⟨_, standsFor_double order options _⟩
  · obtain ⟨c, rfl, hc⟩ := h
    have hstands := standsFor_char order options (UInt8.ofNat c.toNat)
    rw [decode_char hc] at hstands
    exact ⟨_, hstands⟩
  · exact ⟨_, standsFor_bool order options _⟩
  · obtain ⟨rfl, hl⟩ := h
    exact ⟨_, standsFor_bits order hl⟩
  · contradiction

theorem Reproduces.exists_value (ha : l.Admits options) (hb : block.length = l.size)
    (h : l.Reproduces order block) : ∃ v, l.StandsFor order options v block := by
  have hlt : order.decode block < 256 ^ l.size := hb ▸ order.decode_lt block
  have hencode : order.encode l.size (order.decode block) = block := hb ▸ order.encode_decode block
  cases l with
  | int signed size =>
    cases signed with
    | false => exact ⟨_, hencode ▸ standsFor_unsigned order options hlt⟩
    | true => exact ⟨_, hencode ▸ standsFor_signed order options hlt⟩
  | single =>
    exact ⟨_, hencode ▸ standsFor_single order options hlt (Binary64.narrow?_widen hlt h)⟩
  | double =>
    have hstands := standsFor_double order options ⟨UInt64.ofNat (order.decode block)⟩
    rw [UInt64.toNat_ofNat_of_lt' hlt] at hstands
    exact ⟨_, hencode ▸ hstands⟩
  | char =>
    obtain ⟨b, rfl⟩ := List.length_eq_one_iff.1 hb
    exact ⟨_, standsFor_char order options b⟩
  | bool =>
    -- the only patterns are those of the two truth values
    have hbit : ∃ b : Bool, b.toNat = order.decode block := by
      rcases Nat.le_one_iff_eq_zero_or_eq_one.1 h with hbit | hbit
      · exact ⟨false, hbit.symm⟩
      · exact ⟨true, hbit.symm⟩
    obtain ⟨b, hbit⟩ := hbit
    have hstands := standsFor_bool order options b
    rw [hbit] at hstands
    exact ⟨_, hencode ▸ hstands⟩
  | bits c =>
    obtain ⟨layout, hbuild⟩ := ha
    obtain ⟨b, -, rfl, hraw, hlayout⟩ := ofRaw_eq_ok (two_pow_width c ▸ hlt) hbuild
    have hl : (Layout.build options b.container.width b.container.name).map Subtype.val =
        .ok b.layout := map_eq_ok.2 ⟨layout, hbuild, hlayout.symm⟩
    have hstands := standsFor_bits order hl
    rw [hraw] at hstands
    exact ⟨_, hencode ▸ hstands⟩

theorem reproduces_of_encoding? {data : Bytes} {s : Source}
    (h : l.encoding? order options data s = some block)
    (hnan : l = single → ∀ x, toDouble? (s.now data) = some x → x.isNaN = false) :
    l.Reproduces order block := by
  cases l with
  | int | double | char | bits => trivial
  | single =>
    obtain ⟨p, hp, rfl⟩ := Option.map_eq_some_iff.1 h
    obtain ⟨x, hx, hp⟩ := Option.bind_eq_some_iff.1 hp
    obtain ⟨hlt, hle⟩ := Binary64.narrow?_le hp (hnan rfl x hx)
    rw [Reproduces, ByteOrder.decode_encode_of_lt _ hlt]
    exact hle
  | bool =>
    have hbit : encodeInt? false .four order (.int (if (s.now data).isTrue then 1 else 0)) =
        some block := h
    rw [encodeInt?_of_mem order (by split <;> decide)] at hbit
    cases hbit
    rw [Reproduces, ByteOrder.decode_encode_of_lt _ (toPattern_lt .four _)]
    split <;> decide

end Leaf

end RecordCodec
