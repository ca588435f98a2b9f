import RecordCodec.Proofs.Codec.Acceptance
import RecordCodec.Proofs.Expansion.Projection

namespace RecordCodec.Codec

open Expansion Registry

theorem write_project (schemas : List (String × String)) {record : String} {r : RecordType}
    (hr : (standard.attemptAll schemas).find? record = some (.record r)) :
    ∃ x, (standard.attemptAll schemas).expansion? (.record r) .none = some x ∧
      ∀ (order : ByteOrder) (data data' : Bytes) (writable : Bool) (position position' : Value)
        (p q : Nat), Position.ofValue position = .ok p → Position.ofValue position' = .ok q →
        (p : Int) + r.size ≤ data.length → (q : Int) + r.size ≤ data'.length →
        ∃ v, read (standard.attemptAll schemas) (.flat data writable) position record
            order.toValue = .ok v ∧
          ∀ s : Source, s.Shows v.project →
            let result := write (standard.attemptAll schemas) (.flat data' true) position' record s
              order.toValue
            ((∃ n, result.1 = .ok n) ↔ x.IsPublic) ∧
            ∀ n, result.1 = .ok n → (n : Int) = r.size ∧
              ∀ place ∈ x.places, place.leaf.Externalised order place.options
                (place.window data p) (place.window result.2.data q) := by
  obtain ⟨x, hx, hsound, hsize⟩ := exists_expansion schemas hr
  refine ⟨x, hx, ?_⟩
  intro order data data' writable position position' p q hpos hpos' hp hq
  have hfit : p + x.size ≤ data.length := by omega
  obtain ⟨v, hread, hparts⟩ := exists_read_parts order data x hsound p hfit
  refine ⟨v, read_eq_ok hr hx hp hpos hread writable, ?_⟩
  intro s hs result
  constructor
  · rw [exists_write_eq_ok_iff hr hx hsound hsize hpos' hq]
    exact encodings_project_iff hsound hfit hparts hs data'
  · intro n h
    obtain ⟨rfl, hcomplete⟩ := complete_of_write_eq_ok hr hx hsound hsize hpos' hq h
    exact ⟨hsize, hcomplete.externalised hsound hfit hparts hs⟩

theorem isPublic_rowExpansion : rowExpansion.IsPublic := by
  have hpublic : ∀ name ∈ ["on", "cells", "tag", "level", "flags"],
      Value.isReservedName name = false := by
    decide +kernel
  simp only [List.forall_mem_cons] at hpublic
  obtain ⟨hon, hcells, htag, hlevel, hflags, -⟩ := hpublic
  exact ⟨hon, trivial, hcells, ⟨htag, trivial, hlevel, trivial, hflags, trivial, trivial⟩, trivial⟩

def oddRowBytes : Bytes :=
  [0, 0, 1, 0, 0xFF, 0xFE, 0x3F, 0xC0, 0, 0, 0xA7, 0, 1, 0xFF, 0x80, 0, 0, 0x55]

theorem write_project_row : ∃ v,
    read (standard.attemptAll rowSchemas) (.flat oddRowBytes false) (.int 0) "Row" (.text "big") =
      .ok v ∧
    let result := write (standard.attemptAll rowSchemas) (.flat (List.replicate 20 9) true) (.int 2)
      "Row" (.value v.project) (.text "big")
    result.1 = .ok 18 ∧ ∀ place ∈ rowExpansion.places,
      place.leaf.Externalised .big place.options (place.window oddRowBytes 0)
        (place.window result.2.data 2) := by
  obtain ⟨r, hr, hsize, hrow⟩ := find?_row
  obtain ⟨x, hx, h⟩ := write_project rowSchemas hr
  cases hrow.symm.trans hx
  obtain ⟨v, hread, hwrite⟩ := h .big oddRowBytes (List.replicate 20 9) false (.int 0) (.int 2) 0 2
    rfl rfl (by rw [hsize]; decide) (by rw [hsize]; decide)
  refine ⟨v, hread, ?_⟩
  intro result
  obtain ⟨hiff, hresult⟩ := hwrite (.value v.project) (.value v.project)
  obtain ⟨n, hn⟩ := hiff.2 isPublic_rowExpansion
  obtain ⟨hsize', hplaces⟩ := hresult n hn
  obtain rfl : n = 18 := by omega
  exact ⟨hn, hplaces⟩

/-- Of the byte `0xA7` only the three bits of the run are left, and the truth value is one. -/
example : (match read (standard.attemptAll rowSchemas) (.flat oddRowBytes false) (.int 0) "Row"
      (.text "big") with
    | .ok v => (write (standard.attemptAll rowSchemas) (.flat (List.replicate 18 9) true) (.int 0)
      "Row" (.value v.project) (.text "big")).2
    | .error _ => .strided) =
    .flat [0, 0, 0, 1, 0xFF, 0xFE, 0x3F, 0xC0, 0, 0, 0xA0, 0, 1, 0xFF, 0x80, 0, 0, 0x40] true := by
  decide +kernel

end RecordCodec.Codec
