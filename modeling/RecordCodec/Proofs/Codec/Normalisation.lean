import RecordCodec.Proofs.Codec.Acceptance
import RecordCodec.Proofs.Expansion.Locality

namespace RecordCodec

namespace Expansion

variable {x : Expansion} {order : ByteOrder} {data after : Bytes} {s : Source} {p : Nat}

/-- Whether no part of a source that belongs to a single is a NaN. -/
def AvoidsNaN (x : Expansion) (data : Bytes) (s : Source) : Prop :=
  ∀ place ∈ x.places, place.leaf = .single →
    ∀ y ∈ (s.part? data place.path).bind fun t ↦ Leaf.toDouble? (t.now data), y.isNaN = false

theorem Complete.reproduces (h : x.Complete order s p data after) (hnan : x.AvoidsNaN data s) :
    ∀ place ∈ x.places, place.leaf.Reproduces order (place.window after p) := by
  intro place hp
  obtain ⟨t, ht, hencoding⟩ := Option.bind_eq_some_iff.1 (h.encoding?_eq place hp)
  refine Leaf.reproduces_of_encoding? hencoding fun hleaf y hy ↦ hnan place hp hleaf y ?_
  rwa [ht, Option.bind_some]

theorem Complete.exists_fixed (hsound : x.Sound) (h : x.Complete order s p data after)
    (hnan : x.AvoidsNaN data s) (hfit : p + x.size ≤ data.length) :
    ∃ v, x.read order after p = .ok (v, x.size) ∧
      ∀ t : Source, t.Shows v → ∀ (data' : Bytes) (q : Nat), q + x.size ≤ data'.length →
        ∃ after', (x.write order t q).run data' = .ok x.size after' ∧
          after'.length = data'.length ∧
          Window.get after' q x.size = Window.get after p x.size ∧
          x.read order after' q = .ok (v, x.size) := by
  have hroom : p + x.size ≤ after.length := h.length_eq.symm ▸ hfit
  obtain ⟨v, hread, hencodes⟩ := exists_value order after x hsound p hroom (h.reproduces hnan)
  refine ⟨v, hread, fun t ht data' q hq ↦ ?_⟩
  have hrun := write_of_windows hsound hq fun place hp ↦ (hencodes place hp).encoding?_eq ht data'
  have hblock : (Window.get after p x.size).length = x.size := Window.length_get hroom
  have hlength : (Window.set data' q (Window.get after p x.size)).length = data'.length :=
    Window.length_set (by omega)
  have hwindow : Window.get (Window.set data' q (Window.get after p x.size)) q
      (Window.get after p x.size).length = Window.get after p x.size := Window.get_set (by omega)
  rw [hblock] at hwindow
  refine ⟨_, hrun, hlength, hwindow, ?_⟩
  rw [← hread]
  exact read_eq_of_get_eq order hsound (by omega) hroom hwindow

end Expansion

namespace Codec

open Expansion Registry

/-- Whatever is accepted for a record without a NaN for a single, what it has been written as is
read as a value that is written as the same bytes, in every buffer with room, and read from there as
itself. -/
theorem write_normalises (schemas : List (String × String)) {record : String} {r : RecordType}
    (hr : (standard.attemptAll schemas).find? record = some (.record r)) :
    ∃ x, (standard.attemptAll schemas).expansion? (.record r) .none = some x ∧
      ∀ (order : ByteOrder) (data : Bytes) (position : Value) (p : Nat) (s : Source) (n : Nat),
        Position.ofValue position = .ok p → (p : Int) + r.size ≤ data.length →
        let written :=
          write (standard.attemptAll schemas) (.flat data true) position record s order.toValue
        written.1 = .ok n → x.AvoidsNaN data s →
        ∃ v, read (standard.attemptAll schemas) written.2 position record order.toValue = .ok v ∧
          ∀ t : Source, t.Shows v → ∀ (data' : Bytes) (position' : Value) (p' : Nat),
            Position.ofValue position' = .ok p' → (p' : Int) + r.size ≤ data'.length →
            let again :=
              write (standard.attemptAll schemas) (.flat data' true) position' record t
                order.toValue
            again.1 = .ok n ∧
            Window.get again.2.data p' n = Window.get written.2.data p n ∧
            read (standard.attemptAll schemas) again.2 position' record order.toValue = .ok v := by
  obtain ⟨x, hx, hsound, hsize⟩ := exists_expansion schemas hr
  refine ⟨x, hx, ?_⟩
  intro order data position p s n hpos hp
  rw [write_eq_writeValue hr, writeValue_eq hr rfl hx hpos hp]
  intro written hwritten hnan
  have hfit : p + x.size ≤ data.length := by omega
  cases hrun : (x.write order s p).run data with
  | error e after =>
    simp only [written, hrun, reduceCtorEq] at hwritten
  | ok size after =>
    simp only [written, hrun, Except.ok.injEq] at hwritten ⊢
    subst hwritten
    obtain ⟨rfl, hcomplete⟩ := complete_of_write hsound hfit hrun
    obtain ⟨v, hread, hagain⟩ := hcomplete.exists_fixed hsound hnan hfit
    have hlength := hcomplete.length_eq
    refine ⟨v, read_eq_ok hr hx (by omega) hpos hread true, ?_⟩
    intro t ht data' position' p' hpos' hp'
    obtain ⟨after', hrun', hlength', hwindow, hread'⟩ := hagain t ht data' p' (by omega)
    rw [write_eq_writeValue hr, writeValue_eq hr rfl hx hpos' hp', hrun']
    exact ⟨rfl, hwindow, read_eq_ok hr hx (by omega) hpos' hread' true⟩

theorem write_normalises_looseRow :
    rowExpansion.AvoidsNaN (List.replicate 20 0) (.value looseRow) ∧
    ∃ n v,
      let written := write (standard.attemptAll rowSchemas) (.flat (List.replicate 20 0) true)
        (.int 2) "Row" (.value looseRow) (.text "big")
      let again := write (standard.attemptAll rowSchemas) (.flat rowBytes true) (.int 1) "Row"
        (.value v) (.text "big")
      written.1 = .ok n ∧
      read (standard.attemptAll rowSchemas) written.2 (.int 2) "Row" (.text "big") = .ok v ∧
      again.1 = .ok n ∧ Window.get again.2.data 1 n = Window.get written.2.data 2 n ∧
      read (standard.attemptAll rowSchemas) again.2 (.int 1) "Row" (.text "big") = .ok v := by
  obtain ⟨r, hr, hsize, hrow⟩ := find?_row
  obtain ⟨x, hx, h⟩ := write_normalises rowSchemas hr
  cases hrow.symm.trans hx
  have hnan : rowExpansion.AvoidsNaN (List.replicate 20 0) (.value looseRow) := by
    rw [AvoidsNaN]
    decide +kernel
  have hok : (write (standard.attemptAll rowSchemas) (.flat (List.replicate 20 0) true) (.int 2)
      "Row" (.value looseRow) (.text "big")).1.isOk = true := by
    decide +kernel
  obtain ⟨n, hn⟩ := exists_of_isOk hok
  obtain ⟨v, hread, hagain⟩ := h .big (List.replicate 20 0) (.int 2) 2 (.value looseRow) n rfl
    (by rw [hsize]; decide) hn hnan
  exact ⟨hnan, n, v, hn, hread,
    hagain (.value v) (.value v) rowBytes (.int 1) 1 rfl (by rw [hsize]; decide)⟩

end Codec

end RecordCodec
