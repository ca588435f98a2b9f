import RecordCodec.Proofs.Codec.Acceptance
import RecordCodec.Proofs.Expansion.Mirror

namespace RecordCodec.Codec

open Expansion Registry

theorem access_in_opposite_order (schemas : List (String × String)) {record : String}
    {r : RecordType} (hr : (standard.attemptAll schemas).find? record = some (.record r)) :
    ∃ x, (standard.attemptAll schemas).expansion? (.record r) .none = some x ∧
      (x.size : Int) = r.size ∧
      (∀ data : Bytes, data.length = x.size → (x.mirror data).length = x.size) ∧
      ∀ (order : ByteOrder) (data data' : Bytes) (position position' : Value) (p p' : Nat),
        Position.ofValue position = .ok p → Position.ofValue position' = .ok p' →
        (p : Int) + r.size ≤ data.length → (p' : Int) + r.size ≤ data'.length →
        (Window.get data' p' x.size = x.mirror (Window.get data p x.size) →
          ∀ writable writable', ∃ v,
            read (standard.attemptAll schemas) (.flat data writable) position record
              order.toValue = .ok v ∧
            read (standard.attemptAll schemas) (.flat data' writable') position' record
              order.opposite.toValue = .ok v) ∧
        ∀ s s', x.Agree data data' s s' →
          let result :=
            write (standard.attemptAll schemas) (.flat data true) position record s order.toValue
          let result' := write (standard.attemptAll schemas) (.flat data' true) position' record s'
            order.opposite.toValue
          ((∃ n, result.1 = .ok n) ↔ ∃ n, result'.1 = .ok n) ∧
          ∀ n n', result.1 = .ok n → result'.1 = .ok n' → n = x.size ∧ n' = x.size ∧
            Window.get result'.2.data p' x.size =
              x.mirror (Window.get result.2.data p x.size) := by
  obtain ⟨x, hx, hsound, hsize⟩ := exists_expansion schemas hr
  refine ⟨x, hx, hsize, fun data h ↦ (length_mirror h).trans h, ?_⟩
  intro order data data' position position' p p' hpos hpos' hp hp'
  have hfit : p + x.size ≤ data.length := by omega
  have hfit' : p' + x.size ≤ data'.length := by omega
  constructor
  · intro h writable writable'
    obtain ⟨v, hread, hread'⟩ := exists_read_opposite hsound order hfit hfit' h
    exact ⟨v, read_eq_ok hr hx hp hpos hread writable, read_eq_ok hr hx hp' hpos' hread' writable'⟩
  · intro s s' hagree result result'
    constructor
    · rw [exists_write_eq_ok_iff hr hx hsound hsize hpos hp,
        exists_write_eq_ok_iff hr hx hsound hsize hpos' hp']
      refine forall₂_congr fun place hplace ↦ not_congr ?_
      rw [hagree.encoding?_opposite order hplace, Option.map_eq_none_iff]
    · intro n n' h h'
      obtain ⟨rfl, hcomplete⟩ := complete_of_write_eq_ok hr hx hsound hsize hpos hp h
      obtain ⟨rfl, hcomplete'⟩ := complete_of_write_eq_ok hr hx hsound hsize hpos' hp' h'
      exact ⟨rfl, rfl, hcomplete.window_eq_mirror hagree hfit hfit' hcomplete'⟩

def littleRowBytes : Bytes :=
  [1, 0, 0, 0, 0xFE, 0xFF, 0, 0, 0xC0, 0x3F, 0xA7, 1, 0, 0, 0, 0x80, 0xFF, 0x55]

theorem access_in_opposite_order_row :
    (∃ v, read (standard.attemptAll rowSchemas) (.flat littleRowBytes false) (.int 0) "Row"
        (.text "little") = .ok v ∧
      read (standard.attemptAll rowSchemas) (.flat rowBytes false) (.int 1) "Row" (.text "big") =
        .ok v) ∧
    let result := write (standard.attemptAll rowSchemas) (.flat (List.replicate 20 0) true) (.int 2)
      "Row" (.value looseRow) (.text "little")
    let result' := write (standard.attemptAll rowSchemas) (.flat rowBytes true) (.int 1) "Row"
      (.value looseRow) (.text "big")
    result.1 = .ok 18 ∧ result'.1 = .ok 18 ∧
      Window.get result'.2.data 1 18 = rowExpansion.mirror (Window.get result.2.data 2 18) := by
  obtain ⟨r, hr, hsize, hrow⟩ := find?_row
  obtain ⟨x, hx, -, -, h⟩ := access_in_opposite_order rowSchemas hr
  cases hrow.symm.trans hx
  constructor
  · refine (h .little littleRowBytes rowBytes (.int 0) (.int 1) 0 1 rfl rfl (by rw [hsize]; decide)
      (by rw [hsize]; decide)).1 ?_ false false
    decide
  · intro result result'
    have hok : result.1.isOk = true := by
      decide +kernel
    obtain ⟨hiff, hresults⟩ := (h .little (List.replicate 20 0) rowBytes (.int 2) (.int 1) 2 1 rfl
      rfl (by rw [hsize]; decide) (by rw [hsize]; decide)).2 (.value looseRow) (.value looseRow)
      (agree_value _ _ rowExpansion looseRow)
    obtain ⟨n, hn⟩ := exists_of_isOk hok
    obtain ⟨n', hn'⟩ := hiff.1 ⟨n, hn⟩
    obtain ⟨rfl, rfl, hwindow⟩ := hresults n n' hn hn'
    exact ⟨hn, hn', hwindow⟩

end RecordCodec.Codec
