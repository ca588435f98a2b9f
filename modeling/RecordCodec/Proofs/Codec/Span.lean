import RecordCodec.Proofs.Codec.RoundTrip

namespace RecordCodec

theorem Descriptor.admits_none (d : Descriptor) : d.Admits .none := by
  cases d with
  | record r => trivial
  | scalar t =>
    intro l _
    cases l with
    | bits c => exact ⟨_, Layout.build_none c.width c.name⟩
    | _ => trivial

namespace Codec

open Expansion Registry

section Check

variable {reg : Registry} {name : String} {d : Descriptor} {size : Int} {position : Value} {p : Nat}
  {data : Bytes}

theorem readValue_of_lt (hd : reg.find? name = some d) (hsize : d.size? = some size)
    (hpos : Position.ofValue position = .ok p) (hlt : (data.length : Int) < p + size)
    (writable : Bool) (order options : Value) :
    readValue reg (.flat data writable) position name order options =
      .error (.beyondEnd name size p data.length) := by
  rw [readValue, Buffer.view, ok_bind, lookup_of_find? hd, ok_bind, startOf_of_size? hsize,
    span_of_lt hpos hlt]
  rfl

end Check

/-- A value of fixed size is read exactly where its bytes lie inside the buffer, and takes all of
them. There no leaf in it refuses its bytes; elsewhere the span is what is reported. -/
theorem readValue_ok_iff (schemas : List (String × String)) {name : String} {d : Descriptor}
    {size : Int} (hd : (standard.attemptAll schemas).find? name = some d)
    (hsize : d.size? = some size) :
    ∃ x, (standard.attemptAll schemas).expansion? d .none = some x ∧ (x.size : Int) = size ∧
      ∀ (order : ByteOrder) (data : Bytes) (writable : Bool) (p : Nat),
        let outcome := readValue (standard.attemptAll schemas) (.flat data writable) (.int p) name
          order.toValue .none
        ((∃ v n, outcome = .ok (v, n)) ↔ (p : Int) + size ≤ data.length) ∧
        (∀ v n, outcome = .ok (v, n) → (n : Int) = size) ∧
        ((p : Int) + size ≤ data.length → ∀ place ∈ x.places, ∃ v,
          place.leaf.read order place.options data (p + place.offset : Nat) = .ok v) ∧
        ((data.length : Int) < p + size →
          outcome = .error (.beyondEnd name size p data.length)) ∧
        ∀ r, d = .record r →
          read (standard.attemptAll schemas) (.flat data writable) (.int p) name order.toValue =
            outcome.map Prod.fst := by
  obtain ⟨x, hx, hsound, hxsize⟩ :=
    (wellFormed_attemptAll schemas).exists_expansion hd hsize d.admits_none
  refine ⟨x, hx, hxsize, ?_⟩
  intro order data writable p outcome
  have hpos := ofValue_natCast p
  have hin (hp : (p : Int) + size ≤ data.length) : ∃ v, outcome = .ok (v, x.size) := by
    have hfit : p + x.size ≤ data.length := by omega
    obtain ⟨v, hv⟩ := exists_read order data x hsound p hfit
    have hread : outcome = x.read order data p := readValue_eq hd hsize hx hpos hp writable
    exact ⟨v, hread.trans hv⟩
  have hout (hlt : (data.length : Int) < p + size) :
      outcome = .error (.beyondEnd name size p data.length) :=
    readValue_of_lt hd hsize hpos hlt writable order.toValue .none
  have hfits (v : Value) (n : Nat) (h : outcome = .ok (v, n)) :
      (p : Int) + size ≤ data.length := by
    by_contra hlt
    have herror := hout (by omega)
    rw [h] at herror
    cases herror
  refine ⟨⟨?_, ?_⟩, ?_, ?_, hout, ?_⟩
  · rintro ⟨v, n, h⟩
    exact hfits v n h
  · intro hp
    obtain ⟨v, hv⟩ := hin hp
    exact ⟨v, x.size, hv⟩
  · intro v n h
    obtain ⟨w, hw⟩ := hin (hfits v n h)
    rw [h] at hw
    cases hw
    exact hxsize
  · intro hp
    exact hsound.exists_read_place order (by omega)
  · rintro r rfl
    exact read_eq_readValue hd _ _ _

theorem readValue_row_inside :
    (∃ v, readValue (standard.attemptAll rowSchemas) (.flat rowBytes false) (.int 1) "Row"
      (.text "big") .none = .ok (v, 18)) ∧
    readValue (standard.attemptAll rowSchemas) (.flat rowBytes false) (.int 2) "Row"
      (.text "big") .none = .error (.beyondEnd "Row" 18 2 19) := by
  obtain ⟨r, hr, hsize, -⟩ := find?_row
  obtain ⟨x, -, -, h⟩ := readValue_ok_iff rowSchemas hr (show _ = some 18 from congrArg some hsize)
  constructor
  · obtain ⟨hok, htaken, -⟩ := h .big rowBytes false 1
    obtain ⟨v, n, hv⟩ := hok.2 (by decide)
    have hn := htaken v n hv
    exact ⟨v, by rw [← show n = 18 by omega]; exact hv⟩
  · exact (h .big rowBytes false 2).2.2.2.1 (by decide)

end Codec

end RecordCodec
