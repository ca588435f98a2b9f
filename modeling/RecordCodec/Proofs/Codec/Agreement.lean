import RecordCodec.Proofs.Codec.Acceptance
import RecordCodec.Proofs.Expansion.Agreement

namespace RecordCodec

namespace Expansion

variable {x : Expansion} {order : ByteOrder} {data data' after after' : Bytes} {s s' : Source}
  {p p' : Nat}

/-- All bytes of the span are covered by leaves, so nothing of the old contents is left in it. -/
theorem Complete.window_eq (hagree : x.Agree data data' s s') (h : x.Complete order s p data after)
    (h' : x.Complete order s' p' data' after') :
    Window.get after p x.size = Window.get after' p' x.size := by
  have hplaces : ∀ place ∈ x.places, place.window after p = place.window after' p' := by
    intro place hp
    apply Option.some.inj
    rw [← h.encoding?_eq place hp, ← h'.encoding?_eq place hp]
    exact Agree.encoding?_eq order x s s' hagree place hp
  rw [← x.flatMap_window, ← x.flatMap_window]
  exact List.flatMap_congr hplaces

end Expansion

namespace Codec

open Expansion Registry

theorem write_of_agree (schemas : List (String × String)) {record : String} {r : RecordType}
    (hr : (standard.attemptAll schemas).find? record = some (.record r)) :
    ∃ x, (standard.attemptAll schemas).expansion? (.record r) .none = some x ∧
      ∀ (order : ByteOrder) (data data' : Bytes) (position position' : Value) (p p' : Nat)
        (s s' : Source), Position.ofValue position = .ok p → Position.ofValue position' = .ok p' →
        (p : Int) + r.size ≤ data.length → (p' : Int) + r.size ≤ data'.length →
        x.Agree data data' s s' →
        let result :=
          write (standard.attemptAll schemas) (.flat data true) position record s order.toValue
        let result' :=
          write (standard.attemptAll schemas) (.flat data' true) position' record s' order.toValue
        ((∃ n, result.1 = .ok n) ↔ ∃ n, result'.1 = .ok n) ∧
        ∀ n n', result.1 = .ok n → result'.1 = .ok n' →
          (n : Int) = r.size ∧ n' = n ∧
          Window.get result.2.data p n = Window.get result'.2.data p' n ∧
          Window.SameOutside p n data result.2.data ∧
          Window.SameOutside p' n data' result'.2.data := by
  obtain ⟨x, hx, hsound, hsize⟩ := exists_expansion schemas hr
  refine ⟨x, hx, ?_⟩
  intro order data data' position position' p p' s s' hpos hpos' hp hp' hagree result result'
  constructor
  · rw [exists_write_eq_ok_iff hr hx hsound hsize hpos hp,
      exists_write_eq_ok_iff hr hx hsound hsize hpos' hp']
    have heq := Agree.encoding?_eq order x s s' hagree
    constructor
    · intro h place hplace
      rw [← heq place hplace]
      exact h place hplace
    · intro h place hplace
      rw [heq place hplace]
      exact h place hplace
  · intro n n' h h'
    obtain ⟨rfl, hcomplete⟩ := complete_of_write_eq_ok hr hx hsound hsize hpos hp h
    obtain ⟨rfl, hcomplete'⟩ := complete_of_write_eq_ok hr hx hsound hsize hpos' hp' h'
    exact ⟨hsize, rfl, hcomplete.window_eq hagree hcomplete', hcomplete.sameOutside,
      hcomplete'.sameOutside⟩

def shuffledRow : Value :=
  .dict [("cells", .tuple
    [.dict [("flags", .dict [("a", .text "0b101")]), ("tag", .bool true), ("level", .int (-3))],
    .dict [("level", .bool false), ("note", .none), ("flags", .int 255), ("tag", .int 5)]]),
    ("on", .int 7)]

theorem agree_shuffledRow (data data' : Bytes) :
    rowExpansion.Agree data data' (.value looseRow) (.value shuffledRow) := by
  simp [rowExpansion, looseRow, shuffledRow, Agree, AgreeOn, List.lookup_cons, Source.entries?,
    Source.items?, Source.itemsOfValue?, Value.items?, Source.taken, Source.now, Source.opened]

theorem write_of_agree_row :
    let result := write (standard.attemptAll rowSchemas) (.flat (List.replicate 20 0) true)
      (.int 2) "Row" (.value looseRow) (.text "little")
    let result' := write (standard.attemptAll rowSchemas) (.flat rowBytes true) (.int 1) "Row"
      (.value shuffledRow) (.text "little")
    result.1 = .ok 18 ∧ result'.1 = .ok 18 ∧
      Window.get result.2.data 2 18 = Window.get result'.2.data 1 18 ∧
      Window.SameOutside 2 18 (List.replicate 20 0) result.2.data ∧
      Window.SameOutside 1 18 rowBytes result'.2.data := by
  obtain ⟨r, hr, hsize, hrow⟩ := find?_row
  obtain ⟨x, hx, h⟩ := write_of_agree rowSchemas hr
  cases hrow.symm.trans hx
  intro result result'
  have hok : result.1.isOk = true := by
    decide +kernel
  obtain ⟨hiff, hresults⟩ := h .little (List.replicate 20 0) rowBytes (.int 2) (.int 1) 2 1
    (.value looseRow) (.value shuffledRow) rfl rfl (by rw [hsize]; decide) (by rw [hsize]; decide)
    (agree_shuffledRow _ _)
  obtain ⟨n, hn⟩ := exists_of_isOk hok
  obtain ⟨n', hn'⟩ := hiff.1 ⟨n, hn⟩
  obtain ⟨hsize', rfl, hwindow, houtside, houtside'⟩ := hresults n n' hn hn'
  obtain rfl : n' = 18 := by omega
  exact ⟨hn, hn', hwindow, houtside, houtside'⟩

end Codec

end RecordCodec
