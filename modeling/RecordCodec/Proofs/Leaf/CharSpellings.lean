import RecordCodec.Proofs.Leaf.Acceptance

namespace RecordCodec

namespace Leaf

/-- The values that stand for a character. -/
inductive SpellsChar (c : Char) : Value → Prop
  | text : SpellsChar c (.text (String.ofList [c]))
  | bytes : SpellsChar c (.bytes [UInt8.ofNat c.toNat])
  | integer : SpellsChar c (.int c.toNat)

/-- The sequences that stand for a text, item by item. -/
inductive SpellsText (text : String) : Value → Prop
  | text : SpellsText text (.text text)
  | bytes {data : Bytes} : Latin1.encode? text = some data → SpellsText text (.bytes data)
  | bytearray {data : Bytes} : Latin1.encode? text = some data → SpellsText text (.bytearray data)
  | list {items : List Value} : text.toList.Forall₂ SpellsChar items →
      SpellsText text (.list items)
  | tuple {items : List Value} : text.toList.Forall₂ SpellsChar items →
      SpellsText text (.tuple items)

variable {c : Char} {v : Value} {text : String} {b : UInt8}

theorem toNat_lt_of_byte? (h : Latin1.byte? c = some b) :
    c.toNat < 256 ∧ b = UInt8.ofNat c.toNat := by
  rw [Latin1.byte?] at h
  split at h
  · rename_i hc
    cases h
    exact ⟨hc, rfl⟩
  · contradiction

theorem exists_encode? (h : ∀ c ∈ text.toList, c.toNat ≤ 0xFF) :
    ∃ data, Latin1.encode? text = some data := by
  have hbytes : ∀ c ∈ text.toList, ∃ b, Latin1.byte? c = some b := fun c hc ↦
    ⟨_, if_pos (show c.toNat < 256 from Nat.lt_succ_of_le (h c hc))⟩
  obtain ⟨data, hdata⟩ := exists_forall₂ hbytes
  exact ⟨data, mapM_eq_some.2 hdata⟩

theorem SpellsChar.charByte_eq (h : SpellsChar c v) (hc : Latin1.byte? c = some b) :
    charByte v = .ok b := by
  obtain ⟨hlt, rfl⟩ := toNat_lt_of_byte? hc
  cases h with
  | text =>
    have hencode : Latin1.encode? (String.ofList [c]) = some [UInt8.ofNat c.toNat] := by
      rw [Latin1.encode?, String.toList_ofList, mapM_eq_some]
      exact .cons hc .nil
    simp only [charByte, hencode]
  | bytes => rfl
  | integer =>
    rw [charByte, if_pos (by omega), Int.toNat_natCast]

theorem spellsChar_bytes {data : Bytes} (h : Latin1.encode? text = some data) :
    text.toList.Forall₂ SpellsChar (data.map fun b ↦ .int b.toNat) := by
  rw [List.forall₂_map_right_iff]
  refine (mapM_eq_some.1 h).imp fun c b hb ↦ ?_
  obtain ⟨hlt, rfl⟩ := toNat_lt_of_byte? hb
  have hcode : (UInt8.ofNat c.toNat).toNat = c.toNat := UInt8.toNat_ofNat_of_lt hlt
  rw [hcode]
  exact .integer

theorem SpellsText.items? (h : SpellsText text v) :
    ∃ items, v.items? = some items ∧ text.toList.Forall₂ SpellsChar items := by
  cases h with
  | text =>
    refine ⟨_, rfl, ?_⟩
    rw [List.forall₂_map_right_iff, List.forall₂_same]
    exact fun c _ ↦ .text
  | bytes h => exact ⟨_, rfl, spellsChar_bytes h⟩
  | bytearray h => exact ⟨_, rfl, spellsChar_bytes h⟩
  | list h => exact ⟨_, rfl, h⟩
  | tuple h => exact ⟨_, rfl, h⟩

end Leaf

namespace Store

variable {store : Store} {memory : Ref → Option Bytes} {depth : Nat} {above : List Ref} {r : Ref}
  {v : Value}

/-- How a cell looks where it is not cut off, given how other parts look. -/
def Looks (memory : Ref → Option Bytes) (inner : Ref → Option Value) (r : Ref) (v : Value) :
    Cell → Prop
  | .atom w => v = w
  | .bytearray data => v = .bytearray ((memory r).getD data)
  | .list refs => ∃ items, refs.mapM inner = some items ∧ v = .list items
  | .tuple refs => ∃ items, refs.mapM inner = some items ∧ v = .tuple items
  | .dict _ => ∃ entries, v = .dict entries
  | .bits b => v = .bits b

theorem valueWithin_succ (h : store.valueWithin memory (depth + 1) above r = some v) :
    ∃ cell, store.get? r = some cell ∧ ((∃ c, v = .again c) ∨
      Looks memory (store.valueWithin memory depth (r :: above)) r v cell) := by
  rw [valueWithin] at h
  obtain ⟨cell, hcell, h⟩ := Option.bind_eq_some_iff.1 h
  refine ⟨cell, hcell, ?_⟩
  simp only at h
  split at h
  · cases h
    exact .inl ⟨_, rfl⟩
  · refine .inr ?_
    cases cell with
    | atom w => exact (Option.some.inj h).symm
    | bytearray data => exact (Option.some.inj h).symm
    | list refs =>
      obtain ⟨items, hitems, h⟩ := Option.bind_eq_some_iff.1 h
      exact ⟨items, hitems, (Option.some.inj h).symm⟩
    | tuple refs =>
      obtain ⟨items, hitems, h⟩ := Option.bind_eq_some_iff.1 h
      exact ⟨items, hitems, (Option.some.inj h).symm⟩
    | dict refs =>
      obtain ⟨entries, -, h⟩ := Option.bind_eq_some_iff.1 h
      exact ⟨entries, (Option.some.inj h).symm⟩
    | bits b => exact (Option.some.inj h).symm

end Store

namespace Source

open Leaf

variable {data : Bytes} {t : Source} {text : String} {v : Value}

def Spells (data : Bytes) (text : String) (t : Source) : Prop :=
  ∃ items, t.items? data = some items ∧
    text.toList.Forall₂ (fun c item ↦ SpellsChar c ((item.taken data).now data)) items

theorem spells_of_items (h : t.items? data = itemsOfValue? v) (hv : SpellsText text v) :
    t.Spells data text := by
  obtain ⟨items, hitems, hspells⟩ := hv.items?
  refine ⟨items.map value, ?_, ?_⟩
  · rw [h, itemsOfValue?, hitems]
    rfl
  · rw [List.forall₂_map_right_iff]
    exact hspells

section Part

variable {store : Store} {target : Option (Ref × Surroundings)} {r : Ref}

theorem now_of_atom (h : store.get? r = some (.atom v)) :
    (part store target r).now data = v := by
  rw [now, Store.valueWith?, Store.valueWithin, h]
  simp

theorem now_of_spellsChar {c : Char} {memory : Ref → Option Bytes} {depth : Nat}
    {above : List Ref} (hv : store.valueWithin memory depth above r = some v)
    (hc : SpellsChar c v) : (part store target r).now data = v := by
  cases depth with
  | zero => cases hv
  | succ depth =>
    obtain ⟨cell, hcell, hagain | hlooks⟩ := Store.valueWithin_succ hv
    · obtain ⟨again, rfl⟩ := hagain
      cases hc
    · cases cell with
      | atom w =>
        cases hlooks
        exact now_of_atom hcell
      | bytearray | bits =>
        cases hlooks
        cases hc
      | list | tuple =>
        obtain ⟨items, -, rfl⟩ := hlooks
        cases hc
      | dict =>
        obtain ⟨entries, rfl⟩ := hlooks
        cases hc

theorem spells_of_refs {refs : List Ref} {items : List Value}
    {inner : Ref → Option Value} (h : (part store target r).items? data =
      some (refs.map (part store target))) (hitems : refs.mapM inner = some items)
    (hinner : ∀ ref v c, inner ref = some v → SpellsChar c v →
      (part store target ref).now data = v) (hspells : text.toList.Forall₂ SpellsChar items) :
    (part store target r).Spells data text := by
  refine ⟨_, h, ?_⟩
  rw [List.forall₂_map_right_iff]
  have hrefs := mapM_eq_some.1 hitems
  clear h hitems
  generalize text.toList = chars at hspells
  induction hrefs generalizing chars with
  | nil =>
    cases hspells
    exact .nil
  | @cons ref v refs items hv _ ih =>
    cases hspells with
    | @cons c _ chars _ hc hspells =>
      have hnow : ((part store target ref).taken data).now data = v := hinner ref v c hv hc
      exact .cons (hnow ▸ hc) (ih chars hspells)

theorem spells_of_bytearray {own : Bytes} (hcell : store.get? r = some (.bytearray own))
    (h : Latin1.encode? text = some ((memoryIn target data r).getD own)) :
    (part store target r).Spells data text := by
  rw [memoryIn] at h
  cases htarget : target.filter fun t ↦ t.1 == r with
  | none =>
    rw [htarget, Option.map_none, Option.getD_none] at h
    exact spells_of_items (by simp only [items?, hcell, htarget]) (.bytearray h)
  | some owner =>
    rw [htarget, Option.map_some, Option.getD_some] at h
    have hitems : (part store target r).items? data =
        some ((List.range (owner.2.whole data).length).map (byte owner.2)) := by
      simp only [items?, hcell, htarget]
    have hvalues : ((List.range (owner.2.whole data).length).map (byte owner.2)).map
        (fun item ↦ (item.taken data).now data) =
        (owner.2.whole data).map fun b ↦ .int b.toNat := by
      apply List.ext_getElem
      · simp
      · intro i hi _
        have hlt : i < (owner.2.whole data).length := by simpa using hi
        simp [taken, now, List.getElem?_eq_getElem hlt]
    refine ⟨_, hitems, ?_⟩
    rw [← List.forall₂_map_right_iff, hvalues]
    exact spellsChar_bytes h

end Part

theorem spells_of_now (h : SpellsText text (t.now data)) : t.Spells data text := by
  cases t with
  | value v => exact spells_of_items rfl h
  | sequence | mapping | byte => cases h
  | part store target r =>
    rw [now] at h
    cases hv : store.valueWith? (memoryIn target data) r with
    | none =>
      rw [hv] at h
      cases h
    | some v =>
      rw [hv, Option.getD_some] at h
      obtain ⟨cell, hcell, hagain | hlooks⟩ := Store.valueWithin_succ hv
      · obtain ⟨again, rfl⟩ := hagain
        cases h
      cases cell with
      | atom w =>
        cases hlooks
        exact spells_of_items (by simp only [items?, hcell]) h
      | bytearray own =>
        cases hlooks
        cases h with
        | bytearray h => exact spells_of_bytearray hcell h
      | list refs =>
        obtain ⟨items, hitems, rfl⟩ := hlooks
        cases h with
        | list h =>
          exact spells_of_refs (by simp only [items?, hcell]) hitems
            (fun _ _ _ hv ↦ now_of_spellsChar hv) h
      | tuple refs =>
        obtain ⟨items, hitems, rfl⟩ := hlooks
        cases h with
        | tuple h =>
          exact spells_of_refs (by simp only [items?, hcell]) hitems
            (fun _ _ _ hv ↦ now_of_spellsChar hv) h
      | dict refs =>
        obtain ⟨entries, rfl⟩ := hlooks
        cases h
      | bits b =>
        cases hlooks
        cases h

end Source

end RecordCodec
