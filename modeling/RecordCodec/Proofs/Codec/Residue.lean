import RecordCodec.Proofs.Codec.Untouched

namespace RecordCodec

namespace Codec

open Expansion Registry

variable {reg : Registry} {type : String} {t : ScalarType} {l : Leaf} {data : Bytes} {s : Source}
  {position order options : Value} {p : Nat} {o : ByteOrder}

/-- Whether a call gets as far as the window of a number, and the value has no encoding. -/
structure FailsInWindow (t : ScalarType) (data : Bytes) (position : Value) (s : Source)
    (order : Value) (l : Leaf) (p : Nat) (o : ByteOrder) : Prop where
  writer_eq : t.writer = some l
  isNumeric : l.isNumeric = true
  position_eq : Position.ofValue position = .ok p
  fits : p + l.size ≤ data.length
  order_eq : ByteOrder.ofValue order = .ok o
  encode?_eq : l.encode? o (s.now data) = none

theorem writeValue_leaf (ht : reg.find? type = some (.scalar (.ofScalar (.leaf l)))) (data : Bytes)
    (position : Value) (s : Source) (order options : Value) :
    writeValue reg (.flat data true) position type s order options =
      runOn (.flat data true) (do
        let start ← Position.span data.length position l.size type
        let order ← ByteOrder.ofValue order
        return l.write order options s start) := by
  obtain ⟨bound, hbound⟩ := reg.exists_nestingBound
  have hview : (Buffer.flat data true).writableView = .ok data := rfl
  have hsize : (Descriptor.scalar (.ofScalar (.leaf l))).size? = some (l.size : Int) := rfl
  simp only [writeValue, hview, ok_bind, lookup_of_find? ht, hsize, writeAt, hbound, writeNested]
  rfl

theorem writeValue_leaf_eq_error (ht : reg.find? type = some (.scalar (.ofScalar (.leaf l))))
    {e : Error} {after : Buffer}
    (h : writeValue reg (.flat data true) position type s order options = (.error e, after)) :
    after = .flat data true ∨ ∃ p o data', Position.ofValue position = .ok p ∧
      p + l.size ≤ data.length ∧ ByteOrder.ofValue order = .ok o ∧
      (l.write o options s p).run data = .error e data' ∧ after = .flat data' true := by
  rw [writeValue_leaf ht] at h
  cases hspan : Position.span data.length position l.size type with
  | error e' =>
    rw [hspan] at h
    cases h
    exact .inl rfl
  | ok p =>
    cases ho : ByteOrder.ofValue order with
    | error e' =>
      rw [hspan, ok_bind, ho] at h
      cases h
      exact .inl rfl
    | ok o =>
      obtain ⟨hp, hle⟩ := Position.span_eq_ok hspan
      rw [hspan, ok_bind, ho, ok_bind] at h
      simp only [runOn, pure, Except.pure, Buffer.data] at h
      split at h
      · cases h
      · rename_i data' hrun
        cases h
        exact .inr ⟨p, o, data', hp, by omega, rfl, hrun, rfl⟩

theorem FailsInWindow.writeValue_eq (h : FailsInWindow t data position s order l p o)
    (ht : reg.find? type = some (.scalar (.ofScalar (.leaf l)))) (options : Value) :
    writeValue reg (.flat data true) position type s order options =
      (.error (.unencodable (s.now (Window.set data p (l.residue o (s.now data)))) l.name),
        .flat (Window.set data p (l.residue o (s.now data))) true) := by
  have hfits := h.fits
  rw [writeValue_leaf ht, span_of_le h.position_eq (by omega), ok_bind, h.order_eq, ok_bind]
  simp only [runOn, pure, Except.pure, Buffer.data,
    Leaf.write_of_prepare (Leaf.prepare_of_isNumeric h.isNumeric options data s),
    Leaf.store_eq_residue h.encode?_eq hfits]
  rfl

theorem FailsInWindow.holds_residue (h : FailsInWindow t data position s order l p o) :
    Window.get (Window.set data p (l.residue o (s.now data))) p l.size = l.residue o (s.now data) ∧
      Window.SameOutside p l.size data (Window.set data p (l.residue o (s.now data))) ∧
      (Window.set data p (l.residue o (s.now data)) = data ↔
        Window.get data p l.size = l.residue o (s.now data)) := by
  have hlength := l.length_residue o (s.now data)
  have hfits := h.fits
  rw [← hlength]
  exact ⟨Window.get_set (by omega), .set (by omega), Window.set_eq_self_iff (by omega)⟩

theorem untouched_of_not_failsInWindow
    (ht : reg.find? type = some (.scalar (.ofScalar (.leaf l))))
    (hnone : ∀ l' p o, ¬ FailsInWindow (.ofScalar (.leaf l)) data position s order l' p o)
    {e : Error} {after : Buffer}
    (h : writeValue reg (.flat data true) position type s order options = (.error e, after)) :
    after = .flat data true := by
  rcases writeValue_leaf_eq_error ht h with rfl | ⟨p, o, data', hp, hfits, ho, hrun, rfl⟩
  · rfl
  · cases hl : l.isNumeric with
    | true =>
      obtain ⟨hencode, -⟩ := Leaf.write_eq_error_of_isNumeric hl hfits hrun
      exact absurd ⟨rfl, hl, hp, hfits, ho, hencode⟩ (hnone l p o)
    | false =>
      obtain ⟨-, rfl⟩ := Leaf.write_eq_error_of_not_isNumeric hl hfits hrun
      rfl

theorem writeValue_string (ht : reg.find? type = some (.scalar (.ofScalar .string))) (data : Bytes)
    (position : Value) (s : Source) (order options : Value) :
    writeValue reg (.flat data true) position type s order options =
      (.error (.noEncoder type), .flat data true) := by
  have hview : (Buffer.flat data true).writableView = .ok data := rfl
  have hsize : (Descriptor.scalar (.ofScalar .string)).size? = none := rfl
  simp only [writeValue, hview, ok_bind, lookup_of_find? ht, hsize]
  rfl

/-- When a number has no encoding, its window is left with the residue, whatever was in it before,
and nothing else is changed. So the buffer is as it was only where the residue was in it already. A
call for any other scalar type, and any call that fails for another reason, leaves it as it was. -/
theorem residue_of_unencodable (schemas : List (String × String)) {type : String} {t : ScalarType}
    (ht : (standard.attemptAll schemas).find? type = some (.scalar t)) (data : Bytes)
    (position : Value) (s : Source) (order options : Value) :
    let reg := standard.attemptAll schemas
    (∀ l p o, FailsInWindow t data position s order l p o → ∃ after e,
      writeValue reg (.flat data true) position type s order options =
        (.error e, .flat after true) ∧
      e = .unencodable (s.now after) l.name ∧
      Window.get after p l.size = l.residue o (s.now data) ∧
      Window.SameOutside p l.size data after ∧
      (after = data ↔ Window.get data p l.size = l.residue o (s.now data))) ∧
    ((∀ l p o, ¬ FailsInWindow t data position s order l p o) → ∀ e after,
      writeValue reg (.flat data true) position type s order options = (.error e, after) →
      after = .flat data true) := by
  intro reg
  have hreg : reg.WellFormed := wellFormed_attemptAll schemas
  rcases hreg.find?_cases ht with ⟨l | _, -, -, heq⟩ | ⟨r, -, -, heq⟩
  · cases heq
    refine ⟨fun l' p o h ↦ ?_, fun hnone e after h ↦ untouched_of_not_failsInWindow ht hnone h⟩
    cases h.writer_eq
    exact ⟨_, _, h.writeValue_eq ht options, rfl, h.holds_residue⟩
  · cases heq
    refine ⟨fun l p o h ↦ ?_, fun _ e after h ↦ ?_⟩
    · cases h.writer_eq
    · rw [writeValue_string ht] at h
      cases h
      rfl
  · cases heq

theorem residue_of_unencodable_u16 : ∃ t,
    (standard.attemptAll []).find? "u16" = some (.scalar t) ∧
    FailsInWindow t [7, 7, 7] (.int 1) (.value (.int 65536)) (.text "little") (.int false .two) 1
      .little ∧
    ∃ after e, writeValue (standard.attemptAll []) (.flat [7, 7, 7] true) (.int 1) "u16"
        (.value (.int 65536)) (.text "little") .none = (.error e, .flat after true) ∧
      Window.get after 1 2 = [0, 0] ∧ after[0]? = some 7 := by
  have hfails : FailsInWindow (.ofScalar (.leaf (.int false .two))) [7, 7, 7] (.int 1)
      (.value (.int 65536)) (.text "little") (.int false .two) 1 .little :=
    ⟨rfl, rfl, rfl, by decide, rfl, by decide +kernel⟩
  have ht : (standard.attemptAll []).find? "u16" =
      some (.scalar (.ofScalar (.leaf (.int false .two)))) := rfl
  obtain ⟨htorn, -⟩ := residue_of_unencodable [] ht [7, 7, 7] (.int 1) (.value (.int 65536))
    (.text "little") .none
  obtain ⟨after, e, hwrite, -, hget, houtside, -⟩ := htorn _ _ _ hfails
  exact ⟨_, ht, hfails, after, e, hwrite, hget, houtside.getElem?_eq 0 (by decide)⟩

/-- Two bytes are lost when a number is written that is too large for them. -/
theorem bytes_lost_u16 : ∃ e after, after ≠ [7, 7] ∧
    writeValue standard (.flat [7, 7] true) (.int 0) "u16" (.value (.int 65536)) (.text "big")
      .none = (.error e, .flat after true) :=
  ⟨.unencodable (.int 65536) "u16", [0, 0], by decide, rfl⟩

end Codec

end RecordCodec
