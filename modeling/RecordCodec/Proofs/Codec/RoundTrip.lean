import RecordCodec.Proofs.Expansion.RoundTrip
import RecordCodec.Proofs.Expansion.Write

namespace RecordCodec

namespace Codec

open Expansion Registry

variable {record : String} {r : RecordType}

theorem exists_expansion (schemas : List (String × String))
    (hr : (standard.attemptAll schemas).find? record = some (.record r)) :
    ∃ x, (standard.attemptAll schemas).expansion? (.record r) .none = some x ∧ x.Sound ∧
      (x.size : Int) = r.size :=
  (wellFormed_attemptAll schemas).exists_expansion hr rfl
    (show (Descriptor.record r).Admits .none from trivial)

/-- Reading a record and writing it elsewhere copies its bytes, if every truth value in them is zero
or one and no single is a NaN. -/
theorem write_read (schemas : List (String × String))
    (hr : (standard.attemptAll schemas).find? record = some (.record r)) :
    ∃ x, (standard.attemptAll schemas).expansion? (.record r) .none = some x ∧
      ∀ (order : ByteOrder) (data data' : Bytes) (writable : Bool) (p q : Nat),
        (p : Int) + r.size ≤ data.length → (q : Int) + r.size ≤ data'.length →
        (∀ place ∈ x.places, place.leaf.Reproduces order (place.window data p)) →
        ∃ v, read (standard.attemptAll schemas) (.flat data writable) (.int p) record
            order.toValue = .ok v ∧
          ∀ s : Source, s.Shows v → ∃ after,
            write (standard.attemptAll schemas) (.flat data' true) (.int q) record s
              order.toValue = (.ok r.size.toNat, .flat after true) ∧
            Window.get after q r.size.toNat = Window.get data p r.size.toNat := by
  obtain ⟨x, hx, hsound, hsize⟩ := exists_expansion schemas hr
  refine ⟨x, hx, fun order data data' writable p q hp hq hplaces ↦ ?_⟩
  have hnat : r.size.toNat = x.size := by omega
  have hq' : q + x.size ≤ data'.length := by omega
  obtain ⟨v, hread, hencodes⟩ := exists_value order data x hsound p (by omega) hplaces
  refine ⟨v, by rw [read_eq hr hx hp, hread]; rfl, fun s hs ↦ ?_⟩
  have hencoding := fun place hp ↦ (hencodes place hp).encoding?_eq hs data'
  obtain ⟨blocks, hblocks, hlength, hrun⟩ := write_of_encodings hsound order s hq'
    fun place hp ↦ by rw [hencoding place hp]; exact nofun
  have hflatten := x.packed_places.flatten_eq hblocks hencoding
  rw [Nat.add_zero, Nat.sub_zero] at hflatten
  refine ⟨Window.set data' q blocks.flatten, by rw [write_eq hr hx hq, hrun, hnat], ?_⟩
  rw [hnat, ← hflatten, ← hlength]
  exact Window.get_set (by omega)

def rowSchemas : List (String × String) :=
  [("s16 tag\nfloat level\nBitfield8\x7ba: 3\x7d flags", "Cell"),
    ("bool on\nCell[2] cells", "Row")]

def rowExpansion : Expansion :=
  .record "Row" [("on", .leaf .bool .none), ("cells", .array "cells" 2 (.record "Cell"
    [("tag", .leaf (.int true .two) .none), ("level", .leaf .single .none),
      ("flags", .leaf (.bits .bits8) (.dict [("a", .int 3)]))]))]

-- Expansions cannot be compared by deciding, so the kernel looks for this one only.
def isRowExpansion : Expansion → Bool
  | .record "Row" [("on", .leaf .bool .none), ("cells", .array "cells" 2 (.record "Cell"
    [("tag", .leaf (.int true .two) .none), ("level", .leaf .single .none),
      ("flags", .leaf (.bits .bits8) (.dict [("a", .int 3)]))]))] => true
  | _ => false

theorem eq_rowExpansion {x : Expansion} (h : isRowExpansion x = true) : x = rowExpansion := by
  unfold isRowExpansion at h
  split at h
  · rfl
  · cases h

def isRowType (reg : Registry) : Descriptor → Bool
  | .record r => r.size == 18 && (reg.expansion? (.record r) .none).any isRowExpansion
  | .scalar _ => false

theorem find?_row : ∃ r, (standard.attemptAll rowSchemas).find? "Row" = some (.record r) ∧
    r.size = 18 ∧
    (standard.attemptAll rowSchemas).expansion? (.record r) .none = some rowExpansion := by
  have h : ((standard.attemptAll rowSchemas).find? "Row").any
      (isRowType (standard.attemptAll rowSchemas)) = true := by
    decide +kernel
  obtain ⟨d, hd, hrow⟩ := (Option.any_eq_true _ _).1 h
  cases d with
  | scalar t => cases hrow
  | record r =>
    rw [isRowType, Bool.and_eq_true, beq_iff_eq] at hrow
    obtain ⟨hsize, hexpansion⟩ := hrow
    obtain ⟨x, hx, hrow⟩ := (Option.any_eq_true _ _).1 hexpansion
    rw [eq_rowExpansion hrow] at hx
    exact ⟨r, hd, hsize, hx⟩

def rowBytes : Bytes :=
  [9, 0, 0, 0, 1, 0xFF, 0xFE, 0x3F, 0xC0, 0, 0, 0xA7, 0, 1, 0xFF, 0x80, 0, 0, 0x55]

theorem write_read_row : ∃ v,
    read (standard.attemptAll rowSchemas) (.flat rowBytes false) (.int 1) "Row" (.text "big") =
      .ok v ∧
    ∀ s : Source, s.Shows v → ∃ after,
      write (standard.attemptAll rowSchemas) (.flat (List.replicate 20 0) true) (.int 2) "Row" s
        (.text "big") = (.ok 18, .flat after true) ∧
      Window.get after 2 18 = Window.get rowBytes 1 18 := by
  obtain ⟨r, hr, hsize, hrow⟩ := find?_row
  obtain ⟨x, hx, h⟩ := write_read rowSchemas hr
  cases hrow.symm.trans hx
  have := h .big rowBytes (List.replicate 20 0) false 1 2 (by rw [hsize]; decide)
    (by rw [hsize]; decide) (by decide)
  rwa [hsize] at this

/-- Writing a canonical value and reading it gives the value. -/
theorem read_write (schemas : List (String × String))
    (hr : (standard.attemptAll schemas).find? record = some (.record r)) :
    ∃ x, (standard.attemptAll schemas).expansion? (.record r) .none = some x ∧
      ∀ (order : ByteOrder) (data : Bytes) (p : Nat) (v : Value) (s : Source),
        (p : Int) + r.size ≤ data.length → x.Canonical v → s.Shows v →
        ∃ after,
          write (standard.attemptAll schemas) (.flat data true) (.int p) record s
            order.toValue = (.ok r.size.toNat, .flat after true) ∧
          read (standard.attemptAll schemas) (.flat after true) (.int p) record order.toValue =
            .ok v := by
  obtain ⟨x, hx, hsound, hsize⟩ := exists_expansion schemas hr
  refine ⟨x, hx, fun order data p v s hp hv hs ↦ ?_⟩
  have hnat : r.size.toNat = x.size := by omega
  have hfit : p + x.size ≤ data.length := by omega
  have hencodes := Canonical.exists_encoding order x hsound v hv
  obtain ⟨blocks, hblocks, hlength, hrun⟩ := write_of_encodings hsound order s hfit
    fun place hp ↦ by
      obtain ⟨block, hblock⟩ := hencodes place hp
      rw [hblock.encoding?_eq hs]
      exact nofun
  let after := Window.set data p blocks.flatten
  have hafter : after.length = data.length := Window.length_set (by omega)
  have hwindow : Window.get after (p + 0) blocks.flatten.length = blocks.flatten :=
    Window.get_set (by omega)
  have hplaces := x.packed_places.exists_block (fun _ _ ↦ Place.length_encoding?) hblocks
    (by omega) hwindow
  -- what has been written at each place is what its part is encoded as
  have hwritten : ∀ place ∈ x.places, place.Encodes order v (place.window after p) := by
    intro place hp
    obtain ⟨block, hblock⟩ := hencodes place hp
    have := (hblock.encoding?_eq hs data).symm.trans (hplaces place hp)
    rwa [← Option.some.inj this]
  have hp' : (p : Int) + r.size ≤ after.length := by omega
  refine ⟨after, by rw [write_eq hr hx hp, hrun, hnat], ?_⟩
  rw [read_eq hr hx hp', Canonical.read_eq order after x hsound v hv p (by omega) hwritten]
  rfl

def rowLayout : Layout :=
  ⟨[⟨"a", 3, by decide⟩], by decide⟩

def rowFlags (raw : Nat) (h : raw < 256) : Bitfield where
  container := .bits8
  layout := rowLayout
  raw := raw
  fits := by decide
  raw_lt := h

def rowValue : Value :=
  .dict [("on", .bool true), ("cells", .list
    [.dict [("tag", .int (-2)), ("level", .float ⟨0x3FF8000000000000⟩),
      ("flags", .bits (rowFlags 0xA7 (by decide)))],
    .dict [("tag", .int 1), ("level", .float ⟨0xFFF0000000000000⟩),
      ("flags", .bits (rowFlags 0x55 (by decide)))]])]

theorem canonical_rowValue : rowExpansion.Canonical rowValue := by
  have hflags (raw : Nat) (h : raw < 256) :
      (Expansion.leaf (.bits .bits8) (.dict [("a", .int 3)])).Canonical
        (.bits (rowFlags raw h)) := by
    have hnamed : rowLayout.IsNamed := by
      intro f hf
      rw [List.mem_singleton.1 hf]
      decide +kernel
    exact ⟨rfl, congrArg (Except.map Subtype.val) (Layout.build_options hnamed (by decide) _)⟩
  have hcell {n : Int} {x : Binary64} (raw : Nat) (h : raw < 256) (hn : -32768 ≤ n ∧ n < 32768)
      (hnumber : x.isNaN = false) (hx : x.IsSingle) :
      (Expansion.record "Cell" [("tag", .leaf (.int true .two) .none),
        ("level", .leaf .single .none),
        ("flags", .leaf (.bits .bits8) (.dict [("a", .int 3)]))]).Canonical
        (.dict [("tag", .int n), ("level", .float x), ("flags", .bits (rowFlags raw h))]) :=
    ⟨rfl, hn, rfl, ⟨hnumber, hx⟩, rfl, hflags raw h, trivial⟩
  refine ⟨rfl, trivial, rfl, ⟨rfl, fun v hv ↦ ?_⟩, trivial⟩
  rcases List.mem_pair.1 hv with rfl | rfl
  · exact hcell _ _ (by decide) (by decide) (.inr ⟨by decide, 3, -1, by decide⟩)
  · exact hcell _ _ (by decide) (by decide) (.inl (by decide))

theorem read_write_row : ∃ after,
    write (standard.attemptAll rowSchemas) (.flat (List.replicate 20 0) true) (.int 2) "Row"
      (.value rowValue) (.text "little") = (.ok 18, .flat after true) ∧
    read (standard.attemptAll rowSchemas) (.flat after true) (.int 2) "Row" (.text "little") =
      .ok rowValue := by
  obtain ⟨r, hr, hsize, hrow⟩ := find?_row
  obtain ⟨x, hx, h⟩ := read_write rowSchemas hr
  cases hrow.symm.trans hx
  have := h .little (List.replicate 20 0) 2 rowValue (.value rowValue) (by rw [hsize]; decide)
    canonical_rowValue (.value rowValue)
  rwa [hsize] at this

end Codec

end RecordCodec
