import RecordCodec.Proofs.Codec.RoundTrip

namespace RecordCodec.Codec

open Expansion Registry

/-- An error leaves the encodings of the leaves in front of one leaf, and changes nothing outside
these and that one. The source may be any value, even one that shows the buffer itself. -/
theorem write_error (schemas : List (String × String)) {record : String} {r : RecordType}
    (hr : (standard.attemptAll schemas).find? record = some (.record r)) :
    ∃ x, (standard.attemptAll schemas).expansion? (.record r) .none = some x ∧
      ∀ (order : ByteOrder) (data : Bytes) (p : Nat) (s : Source) (e : Error) (after : Buffer),
        (p : Int) + r.size ≤ data.length →
        write (standard.attemptAll schemas) (.flat data true) (.int p) record s order.toValue =
          (.error e, after) →
        ∃ data' done place rest, after = .flat data' true ∧ x.places = done ++ place :: rest ∧
          data'.length = data.length ∧
          (∀ q ∈ done, ∃ part, s.part? data q.path = some part ∧
            q.leaf.encoding? order q.options data part = some (q.window data' p)) ∧
          ∀ i, i < p ∨ p + place.offset + place.leaf.size ≤ i → data'[i]? = data[i]? := by
  obtain ⟨x, hx, hsound, hsize⟩ := exists_expansion schemas hr
  refine ⟨x, hx, fun order data p s e after hp hw ↦ ?_⟩
  have hwritten := write_written order x hsound data s p (by omega)
  rw [write_eq hr hx hp] at hw
  generalize (x.write order s p).run data = result at hwritten hw
  cases hwritten with
  | all => cases hw
  | @torn e' done place rest blocks torn hplaces hdone hnone hlength =>
    cases hw
    have hpacked := x.packed_places
    have hbounds := hpacked.bounds (hplaces ▸ List.mem_append_right _ List.mem_cons_self)
    rw [hplaces] at hpacked
    have hfront := hpacked.front_of_append
    have hblocks := hfront.length_flatten (fun _ _ ↦ Place.length_encoding?) hdone
    have hend : (blocks.flatten ++ torn).length = place.offset + place.leaf.size := by
      rw [List.length_append, hlength]
      omega
    have hafter : (Window.set data p (blocks.flatten ++ torn)).length = data.length :=
      Window.length_set (by omega)
    refine ⟨_, done, place, rest, rfl, hplaces, hafter, fun q hq ↦ ?_, fun i hi ↦ ?_⟩
    · have hwindow : Window.get (Window.set data p (blocks.flatten ++ torn)) (p + 0)
          blocks.flatten.length = blocks.flatten := Window.get_set_append (by omega)
      have hencoding := hfront.exists_block (fun _ _ ↦ Place.length_encoding?) hdone
        (by omega) hwindow q hq
      exact Option.bind_eq_some_iff.1 hencoding
    · rcases hi with hi | hi
      · exact Window.getElem?_set_of_lt hi (by omega)
      · exact Window.getElem?_set_of_le (by omega) (by omega)

def tornRow : Value :=
  .dict [("on", .bool true), ("cells", .list
    [.dict [("tag", .int 5), ("level", .int 1), ("flags", .int 7)],
    .dict [("tag", .int 70000), ("level", .int 1), ("flags", .int 7)]])]

theorem write_error_tornRow : ∃ e data' done place rest,
    write (standard.attemptAll rowSchemas) (.flat (List.replicate 20 9) true) (.int 1) "Row"
      (.value tornRow) (.text "little") = (.error e, .flat data' true) ∧
    rowExpansion.places = done ++ place :: rest ∧ data'.length = 20 ∧
    (∀ q ∈ done, ∃ part, (Source.value tornRow).part? (List.replicate 20 9) q.path = some part ∧
      q.leaf.encoding? .little q.options (List.replicate 20 9) part = some (q.window data' 1)) ∧
    ∀ i, i < 1 ∨ 1 + place.offset + place.leaf.size ≤ i →
      data'[i]? = (List.replicate 20 (9 : UInt8))[i]? := by
  obtain ⟨r, hr, hsize, hrow⟩ := find?_row
  obtain ⟨x, hx, h⟩ := write_error rowSchemas hr
  cases hrow.symm.trans hx
  have hfails : (write (standard.attemptAll rowSchemas) (.flat (List.replicate 20 9) true) (.int 1)
      "Row" (.value tornRow) (.text "little")).1.isOk = false := by
    decide +kernel
  generalize hw : write (standard.attemptAll rowSchemas) (.flat (List.replicate 20 9) true)
    (.int 1) "Row" (.value tornRow) (.text "little") = result at hfails
  obtain ⟨e | n, after⟩ := result
  · obtain ⟨data', done, place, rest, rfl, h'⟩ := h .little (List.replicate 20 9) 1 (.value tornRow)
      e after (by rw [hsize]; decide) hw
    exact ⟨e, data', done, place, rest, rfl, h'⟩
  · cases hfails

end RecordCodec.Codec
