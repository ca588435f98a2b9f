import RecordCodec.Proofs.Bitfield.Projection
import RecordCodec.Proofs.Expansion.Stored

namespace RecordCodec

-- Powers of natural numbers are those of the core library.
attribute [local instance (high)] instPowNat

namespace Leaf

variable {l : Leaf} {order : ByteOrder} {options v : Value} {block : Bytes} {s : Source}

/-- Whether a block is what another one becomes on the way through the external representation of
its value. Of the NaNs among the singles nothing is said. -/
def Externalised (l : Leaf) (order : ByteOrder) (options : Value) (block block' : Bytes) : Prop :=
  match l with
  | bool => block' = order.encode 4 (if order.decode block = 0 then 0 else 1)
  | single => single.Reproduces order block → block' = block
  | bits c => block'.length = c.bytes ∧
      ∃ layout, Layout.build options c.width c.name = .ok layout ∧
        ∀ i, (order.decode block').testBit i = true ↔
          (order.decode block).testBit i = true ∧ layout.1.Exposes c.width i
  | _ => block' = block

theorem StandsFor.encoding?_eq (h : l.StandsFor order options v block) (hs : s.Shows v)
    (hv : v.IsAtom) (data : Bytes) : l.encoding? order options data s = some block := by
  rw [hs.leaf_encoding? hv, h.1]

theorem isAtom_projectCell (b : Bitfield) (p : Placed) : (b.projectCell p).IsAtom := by
  rw [Bitfield.projectCell]
  split <;> trivial

theorem encoding?_project_bits (b : Bitfield) (order : ByteOrder)
    (hl : (Layout.build options b.container.width b.container.name).map Subtype.val =
      .ok b.layout) (hs : s.Shows (.dict b.project)) :
    ∃ raw < 2 ^ b.container.width, (∀ data, (bits b.container).encoding? order options data s =
        some (order.encode b.container.bytes raw)) ∧
      ∀ i, raw.testBit i = true ↔ b.raw.testBit i = true ∧ b.layout.Exposes b.width i := by
  obtain ⟨b', hcoerce, hc, -, hbits⟩ := Bitfield.exists_coerce_project hl
  refine ⟨b'.raw, hc ▸ b'.raw_lt, fun data ↦ ?_, hbits⟩
  have hatoms : ∀ entry ∈ b.project, entry.2.IsAtom := by
    intro entry hentry
    obtain ⟨p, -, rfl⟩ := List.mem_map.1 hentry
    exact isAtom_projectCell b p
  have hopened := hs.opened_dict hatoms data
  simp only [encoding?, prepare, hopened, hcoerce]
  rfl

theorem exists_externalised (ha : l.Admits options) (hb : block.length = l.size)
    (hv : l.decode order options block = .ok v) (hs : s.Shows v.project) :
    ∃ block', l.Externalised order options block block' ∧
      ∀ data, l.encoding? order options data s = some block' := by
  have hlt : order.decode block < 256 ^ l.size := hb ▸ order.decode_lt block
  have hsame (hr : l.Reproduces order block) (hproject : v.project = v) (data : Bytes) :
      l.encoding? order options data s = some block := by
    obtain ⟨w, hw⟩ := hr.exists_value ha hb
    cases hv.symm.trans hw.2
    exact hw.encoding?_eq (hproject ▸ hs) (decode_isAtom hv) data
  cases l with
  | int signed size =>
    refine ⟨block, rfl, hsame trivial ?_⟩
    cases signed <;> cases hv <;> rfl
  | double =>
    refine ⟨block, rfl, hsame trivial ?_⟩
    cases hv
    rfl
  | char =>
    refine ⟨block, rfl, hsame trivial ?_⟩
    cases hv
    rfl
  | single =>
    cases hv
    by_cases hr : single.Reproduces order block
    · exact ⟨block, fun _ ↦ rfl, hsame hr rfl⟩
    · obtain ⟨p, hp⟩ := Option.ne_none_iff_exists'.1 (Binary64.narrow?_widen_ne_none hlt)
      have hs : s.Shows (.float (.widen (order.decode block))) := hs
      refine ⟨order.encode 4 p, fun h ↦ absurd h hr, fun data ↦ ?_⟩
      rw [hs.leaf_encoding? trivial]
      simp [encoding?, prepare, Source.now, encode?, toDouble?, hp]
  | bool =>
    cases hv
    have hstands := standsFor_bool order options (order.decode block != 0)
    refine ⟨_, ?_, hstands.encoding?_eq hs trivial⟩
    simp only [Externalised]
    by_cases hzero : order.decode block = 0
    · rw [hzero]
      rfl
    · rw [if_neg hzero, (bne_iff_ne).2 hzero]
      rfl
  | bits c =>
    obtain ⟨layout, hlayout⟩ := ha
    obtain ⟨b, hofRaw, rfl, hraw, hl⟩ := ofRaw_eq_ok (two_pow_width c ▸ hlt) hlayout
    rw [decode, hofRaw] at hv
    cases hv
    obtain ⟨raw, hraw', hencoding, hbits⟩ :=
      encoding?_project_bits b order (map_eq_ok.2 ⟨layout, hlayout, hl.symm⟩) hs
    refine ⟨_, ⟨order.length_encode _ _, layout, hlayout, fun i ↦ ?_⟩, hencoding⟩
    rw [ByteOrder.decode_encode_of_lt _ (two_pow_width _ ▸ hraw'), hbits, hraw, hl]
    rfl

end Leaf

end RecordCodec
