import RecordCodec.Proofs.Codec.Untouched
import RecordCodec.Proofs.Expansion.Outline
import RecordCodec.Proofs.Expansion.Write

namespace RecordCodec

theorem Error.causeKind_eq_kind {e : Error} (h : e.kind ≠ .badValue) : e.causeKind = e.kind := by
  rw [kind] at h ⊢
  by_cases hwritable : e.isWritable = true
  · rw [if_pos hwritable]
  · rw [if_neg hwritable] at h
    exact absurd rfl h

namespace Codec

open Expansion Registry

/-- Where a record is written and the error is a mismatch, a leaf has been reached whose type has no
writer, the first one in order. The leaves in front of it have their encodings, and nothing else has
changed. -/
theorem write_reaches_unwritable {requests : List Request}
    (h : ∀ request ∈ requests, request.IsGrounded) {record : String} {r : RecordType}
    (hr : (standard.handleAll requests).find? record = some (.record r)) :
    ∃ x, (standard.handleAll requests).outline? (.record r) .none = some x ∧
      (x.size : Int) = r.size ∧
      ∀ (order : ByteOrder) (data : Bytes) (position : Value) (p : Nat) (s : Source) (e : Error)
        (after : Buffer), Position.ofValue position = .ok p → (p : Int) + r.size ≤ data.length →
        write (standard.handleAll requests) (.flat data true) position record s order.toValue =
          (.error e, after) →
        e.kind = .typeMismatch →
        ∃ data' done place rest t, after = .flat data' true ∧ x.places = done ++ place :: rest ∧
          (standard.handleAll requests).scalarAt? record place.path = some t ∧ t.writer = none ∧
          e = .noEncoder t.name ∧
          (∀ q ∈ done, (∃ u, (standard.handleAll requests).scalarAt? record q.path = some u ∧
              u.writer = some q.leaf) ∧
            q.encoding? order data s = some (q.window data' p)) ∧
          data'.length = data.length ∧
          ∀ i, i < p ∨ p + place.offset ≤ i → data'[i]? = data[i]? := by
  have hreg := wellFormed_standard.grounded.handleAll h
  obtain ⟨x, hx, hsound, hsize⟩ :=
    hreg.exists_outline hr (d := .record r) rfl trivial
  refine ⟨x, hx, hsize, ?_⟩
  intro order data position p s e after hpos hp hwrite he
  have hprogress : Supplies _ order record x.places data s p
      (writeNested _ order _ (.record r) .none s p) :=
    writeNested_progress hreg hr hx hsound (by omega)
  rw [Supplies] at hprogress
  rw [write_eq_writeValue hr, writeValue_eq_run hr rfl hpos hp] at hwrite
  generalize (writeNested _ order _ (.record r) .none s p).run data = outcome at hprogress hwrite
  have hkind : e.kind ≠ .badValue := by
    rw [he]
    decide
  have hcause : e.causeKind = .typeMismatch := by
    rw [Error.causeKind_eq_kind hkind, he]
  cases hprogress with
  | completed => cases hwrite
  | @halted e' done place rest blocks left hplaces hdone hblame =>
    cases hwrite
    rcases hblame with ⟨t, ht, hwriter, he', rfl⟩ | hother
    · have hsteady := steady_supplied (standard.handleAll requests) order record
      have hpacked := x.packed_places
      have hbounds := hpacked.bounds (hplaces ▸ List.mem_append_right _ List.mem_cons_self)
      rw [hplaces] at hpacked
      have hfront := hpacked.front_of_append
      have hblocks := hfront.length_flatten (fun _ _ ↦ hsteady.length_at) hdone
      have hwindows := hfront.window_of_set_append (fun _ _ ↦ hsteady.length_at) hdone
        (show p + place.offset + ([] : Bytes).length ≤ data.length by rw [List.length_nil]; omega)
      rw [List.append_nil] at hwindows ⊢
      have hsame : Window.SameOutside p blocks.flatten.length data
          (Window.set data p blocks.flatten) := .set (by omega)
      exact ⟨_, done, place, rest, t, rfl, hplaces, ht, hwriter, he',
        fun q hq ↦ supplied_at_eq_some order (hwindows q hq), hsame.length_eq,
        fun i hi ↦ hsame.getElem?_eq i (by omega)⟩
    · exact absurd hcause hother

def sealedType : ScalarType :=
  ⟨"Sealed", some 1, .leaf (.int false .one), none, by decide, by simp⟩

def sealedRequests : List Request :=
  [.register "Sealed" (.descriptor (.scalar sealedType)),
    .compile "u8 before\nSealed seal\nu8 behind" "Parcel"]

theorem isGrounded_sealedRequests : ∀ request ∈ sealedRequests, request.IsGrounded :=
  List.forall_mem_cons.2
    ⟨⟨.int false .one, rfl, rfl, .inr rfl⟩, List.forall_mem_singleton.2 trivial⟩

def parcel : Source :=
  .value (.dict [("before", .int 1), ("seal", .int 2), ("behind", .int 3)])

def isParcelType : Descriptor → Bool
  | .record r => r.size == 3
  | .scalar _ => false

theorem find?_parcel : ∃ r, (standard.handleAll sealedRequests).find? "Parcel" = some (.record r) ∧
    r.size = 3 := by
  have h : ((standard.handleAll sealedRequests).find? "Parcel").any isParcelType = true := by
    decide +kernel
  obtain ⟨d, hd, hsize⟩ := (Option.any_eq_true _ _).1 h
  cases d with
  | scalar t => cases hsize
  | record r => exact ⟨r, hd, beq_iff_eq.1 hsize⟩

theorem write_parcel : ∃ e, write (standard.handleAll sealedRequests) (.flat [7, 7, 7, 7] true)
      (.int 0) "Parcel" parcel (.text "big") = (.error e, .flat [1, 7, 7, 7] true) ∧
    e.kind = .typeMismatch :=
  exists_error_of_verdict (by decide +kernel)

theorem write_reaches_unwritable_parcel : (∀ request ∈ sealedRequests, request.IsGrounded) ∧
    ∃ r e t, ∃ x : Expansion, ∃ place done rest,
      (standard.handleAll sealedRequests).find? "Parcel" = some (.record r) ∧
      Position.ofValue (.int 0) = .ok 0 ∧ ((0 : Nat) : Int) + r.size ≤ 4 ∧
      write (standard.handleAll sealedRequests) (.flat [7, 7, 7, 7] true) (.int 0) "Parcel" parcel
        (.text "big") = (.error e, .flat [1, 7, 7, 7] true) ∧ e.kind = .typeMismatch ∧
      x.places = done ++ place :: rest ∧
      (standard.handleAll sealedRequests).scalarAt? "Parcel" place.path = some t ∧
      t.writer = none ∧ e = .noEncoder t.name := by
  obtain ⟨r, hr, hsize⟩ := find?_parcel
  obtain ⟨e, hwrite, hkind⟩ := write_parcel
  obtain ⟨x, -, -, hreaches⟩ := write_reaches_unwritable isGrounded_sealedRequests hr
  have hfit : ((0 : Nat) : Int) + r.size ≤ 4 := by rw [hsize]; decide
  obtain ⟨-, done, place, rest, t, -, hplaces, ht, hwriter, he, -⟩ :=
    hreaches .big [7, 7, 7, 7] (.int 0) 0 parcel e _ rfl hfit hwrite hkind
  exact ⟨isGrounded_sealedRequests, r, e, t, x, place, done, rest, hr, rfl, hfit, hwrite, hkind,
    hplaces, ht, hwriter, he⟩

/-- The byte in front of the one that cannot be written has changed when the mismatch is noticed. -/
theorem mismatch_changes_parcel : (∀ request ∈ sealedRequests, request.IsGrounded) ∧
    ∃ r e after, (standard.handleAll sealedRequests).find? "Parcel" = some (.record r) ∧
      (0 : Int) + r.size ≤ 4 ∧
      write (standard.handleAll sealedRequests) (.flat [7, 7, 7, 7] true) (.int 0) "Parcel" parcel
        (.text "big") = (.error e, .flat after true) ∧ e.kind = .typeMismatch ∧
      after ≠ [7, 7, 7, 7] := by
  obtain ⟨r, hr, hsize⟩ := find?_parcel
  obtain ⟨e, hwrite, hkind⟩ := write_parcel
  exact ⟨isGrounded_sealedRequests, r, e, _, hr, by rw [hsize]; decide, hwrite, hkind, by decide⟩

end Codec

end RecordCodec
