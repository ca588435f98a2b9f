import RecordCodec.Proofs.Codec.RoundTrip
import RecordCodec.Proofs.Expansion.Rejection

namespace RecordCodec.Codec

open Expansion Registry

/-- A record is written as a whole, or the first leaf without an encoding is to be blamed. -/
theorem write_or_blame (schemas : List (String × String)) {record : String} {r : RecordType}
    (hr : (standard.attemptAll schemas).find? record = some (.record r)) :
    ∃ x, (standard.attemptAll schemas).expansion? (.record r) .none = some x ∧
      ∀ (order : ByteOrder) (data : Bytes) (position : Value) (p : Nat) (s : Source),
        Position.ofValue position = .ok p → (p : Int) + r.size ≤ data.length →
        let result := (write (standard.attemptAll schemas) (.flat data true) position record s
          order.toValue).1
        (∃ n : Nat, result = .ok n ∧ n = r.size ∧
          ∀ place ∈ x.places, place.encoding? order data s ≠ none) ∨
        ∃ e done place rest, result = .error e ∧ x.places = done ++ place :: rest ∧
          (∀ q ∈ done, q.encoding? order data s ≠ none) ∧ place.encoding? order data s = none ∧
          e.Reports (place.overflow? data s) ∧
          e.kind = if e.isWritable then place.causeKind data s else .badValue := by
  obtain ⟨x, hx, hsound, hsize⟩ := exists_expansion schemas hr
  refine ⟨x, hx, ?_⟩
  intro order data position p s hpos hp result
  have hprogress := write_progress (covers_rejection order) (explains_rejection order) x hsound data
    s p (by omega)
  have hwrite : write (standard.attemptAll schemas) (.flat data true) position record s
      order.toValue = _ :=
    (write_eq_writeValue hr ..).trans (writeValue_eq hr rfl hx hpos hp s)
  generalize (x.write order s p).run data = outcome at hprogress hwrite
  cases hprogress with
  | @completed blocks hall =>
    have hlength := x.packed_places.length_flatten (fun _ _ ↦ Place.length_encoding?) hall
    exact .inl ⟨_, congrArg Prod.fst hwrite, by omega, ne_none_of_map_eq hall⟩
  | @halted e done place rest blocks left hplaces hdone hblame =>
    refine .inr ⟨e, done, place, rest, congrArg Prod.fst hwrite, hplaces, ne_none_of_map_eq hdone,
      hblame.1, hblame.2, ?_⟩
    rw [Error.kind, causeKind_of_blame hblame]

def wideRow : Value :=
  .dict [("on", .bool true), ("cells", .list
    [.dict [("tag", .int 5), ("level", .int 1), ("flags", .int 256)],
    .dict [("tag", .int 70000), ("level", .int 1), ("flags", .int 7)]])]

theorem write_or_blame_wideRow : ∃ e done place rest,
    (write (standard.attemptAll rowSchemas) (.flat (List.replicate 20 9) true) (.int 1) "Row"
      (.value wideRow) (.text "big")).1 = .error e ∧
    rowExpansion.places = done ++ place :: rest ∧
    e.Reports (place.overflow? (List.replicate 20 9) (.value wideRow)) := by
  obtain ⟨r, hr, hsize, hrow⟩ := find?_row
  obtain ⟨x, hx, h⟩ := write_or_blame rowSchemas hr
  cases hrow.symm.trans hx
  have hfails : (write (standard.attemptAll rowSchemas) (.flat (List.replicate 20 9) true) (.int 1)
      "Row" (.value wideRow) (.text "big")).1.isOk = false := by
    decide +kernel
  rcases h .big (List.replicate 20 9) (.int 1) 1 (.value wideRow) rfl (by rw [hsize]; decide) with
    ⟨n, hn, -⟩ | ⟨e, done, place, rest, he, hplaces, -, -, hreports, -⟩
  · have hok := congrArg Except.isOk hn
    cases hfails.symm.trans hok
  · exact ⟨e, done, place, rest, he, hplaces, hreports⟩

/-- A value that is too wide for its bits is no value that cannot be encoded. -/
theorem kind_of_write_wideRow : ∃ r e, (standard.attemptAll rowSchemas).find? "Row" =
      some (.record r) ∧ (1 : Int) + r.size ≤ 20 ∧
    (write (standard.attemptAll rowSchemas) (.flat (List.replicate 20 9) true) (.int 1) "Row"
      (.value wideRow) (.text "big")).1 = .error e ∧ e.kind = .widthOverflow := by
  obtain ⟨r, hr, hsize, -⟩ := find?_row
  have hverdict : verdict (write (standard.attemptAll rowSchemas)
      (.flat (List.replicate 20 9) true) (.int 1) "Row" (.value wideRow) (.text "big")).1 =
        .inr .widthOverflow := by
    decide +kernel
  obtain ⟨e, hwrite, hkind⟩ := exists_error_of_verdict ⟨hverdict, rfl⟩
  exact ⟨r, e, hr, by rw [hsize]; decide, congrArg Prod.fst hwrite, hkind⟩

end RecordCodec.Codec
