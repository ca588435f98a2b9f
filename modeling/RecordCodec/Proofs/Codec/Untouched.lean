import RecordCodec.Proofs.Codec.RoundTrip
import RecordCodec.Proofs.Expansion.Rejection

namespace RecordCodec

namespace Position

/-- Whether a number is no place for `size` bytes in a buffer: it is negative or not finite, or the
bytes would end behind the last one. -/
def IsOutside (length : Nat) (size : Int) : Value → Prop
  | .int n => n < 0 ∨ (length : Int) < n + size
  | .bool b => (length : Int) < (if b then 1 else 0) + size
  | .float x => x.isFinite = false ∨ x.num < 0 ∨ (length : Int) * x.den < x.num + size * x.den
  | _ => False

variable {position : Value} {p length : Nat} {size : Int} {name : String}

theorem ofInt_eq_ok {n : Int} (h : ofInt n = .ok p) : n = p := by
  rw [ofInt] at h
  split at h
  · cases h
    omega
  · cases h

theorem ofValue_eq_ok (h : ofValue position = .ok p) :
    position = .int p ∨ ∃ x, position = .float x ∧ x.isFinite = true ∧ x.num = p * x.den := by
  unfold ofValue at h
  split at h
  · rw [ofInt_eq_ok h]
    exact .inl rfl
  · rename_i x
    split at h
    · cases h
    · split at h
      · cases h
      · rename_i hinteger
        have hinteger : x.isInteger = true := by simpa using hinteger
        rw [Binary64.isInteger, Bool.and_eq_true, beq_iff_eq] at hinteger
        obtain ⟨hfinite, hmod⟩ := hinteger
        have htruncate := ofInt_eq_ok h
        have hnum := Int.tdiv_mul_cancel (Int.dvd_of_emod_eq_zero hmod)
        refine .inr ⟨x, rfl, hfinite, ?_⟩
        rw [← htruncate, Binary64.truncate, hnum]
  · cases h

theorem span_eq_ok (h : span length position size name = .ok p) :
    ofValue position = .ok p ∧ (p : Int) + size ≤ length := by
  rw [span, bind_eq_ok] at h
  obtain ⟨start, hstart, h⟩ := h
  split at h
  · cases h
  · cases h
    exact ⟨hstart, by omega⟩

theorem span_of_isOutside (h : IsOutside length size position) (name : String) :
    ∃ e, span length position size name = .error e := by
  cases hspan : span length position size name with
  | error e => exact ⟨e, rfl⟩
  | ok p =>
    obtain ⟨hp, hle⟩ := span_eq_ok hspan
    rcases ofValue_eq_ok hp with rfl | ⟨x, rfl, hfinite, hnum⟩
    · rcases h with hneg | hlt
      · omega
      · omega
    · have hden := Int.natCast_nonneg x.den
      rcases h with hinfinite | hneg | hlt
      · rw [hfinite] at hinfinite
        cases hinfinite
      · have := Int.mul_nonneg (Int.natCast_nonneg p) hden
        omega
      · have := Int.mul_le_mul_of_nonneg_right hle hden
        rw [hnum, ← Int.add_mul] at hlt
        omega

end Position

namespace Codec

open Expansion Registry

variable {reg : Registry} {buffer after : Buffer} {position order options : Value} {name : String}
  {s : Source} {d : Descriptor} {size : Int} {e : Error}

theorem writableView_eq_ok {data : Bytes} (h : buffer.writableView = .ok data) :
    buffer = .flat data true := by
  cases buffer with
  | flat own writable =>
    cases writable
    · cases h
    · cases h
      rfl
  | _ => cases h

/-- A call comes to nothing before the first byte, or it passes all checks. -/
theorem writeValue_cases (reg : Registry) (buffer : Buffer) (position : Value) (name : String)
    (s : Source) (order options : Value) :
    (∃ e, writeValue reg buffer position name s order options = (.error e, buffer)) ∨
      ∃ data d size, ∃ start : Nat, ∃ order', buffer = .flat data true ∧
        reg.find? name = some d ∧ d.size? = some size ∧ (start : Int) + size ≤ data.length ∧
        writeValue reg buffer position name s order options =
          runOn buffer (.ok (writeAt reg order' d options s start)) := by
  rw [writeValue]
  cases hview : buffer.writableView with
  | error e => exact .inl ⟨e, rfl⟩
  | ok data =>
    cases writableView_eq_ok hview
    cases hd : reg.lookup name with
    | error e => exact .inl ⟨e, rfl⟩
    | ok d =>
      cases hsize : d.size? with
      | none =>
        simp only [ok_bind, hsize]
        exact .inl ⟨.noEncoder name, rfl⟩
      | some size =>
        simp only [ok_bind, hsize]
        cases hstart : Position.span data.length position size name with
        | error e => exact .inl ⟨e, rfl⟩
        | ok start =>
          cases ByteOrder.ofValue order with
          | error e => exact .inl ⟨e, rfl⟩
          | ok order' =>
            exact .inr ⟨data, d, size, start, order', rfl, lookup_eq_ok_iff.1 hd, hsize,
              (Position.span_eq_ok hstart).2, rfl⟩

theorem writeValue_eq_error
    (h : writeValue reg buffer position name s order options = (.error e, after)) :
    after = buffer ∨ ∃ data d size, ∃ start : Nat, ∃ order' data', buffer = .flat data true ∧
      reg.find? name = some d ∧ d.size? = some size ∧ (start : Int) + size ≤ data.length ∧
      (writeAt reg order' d options s start).run data = .error e data' ∧
      after = .flat data' true := by
  rcases writeValue_cases reg buffer position name s order options with
    ⟨e', he⟩ | ⟨data, d, size, start, order', rfl, hd, hsize, hspan, hwrite⟩
  · rw [he] at h
    cases h
    exact .inl rfl
  · rw [hwrite, runOn] at h
    split at h
    · cases h
    · rename_i hrun
      cases h
      exact .inr ⟨data, d, size, start, order', _, rfl, hd, hsize, hspan, hrun, rfl⟩

/-- The options of a leaf can be at fault, but only before it is stored. -/
theorem writeValue_untouched (hreg : reg.WellFormed)
    (h : writeValue reg buffer position name s order options = (.error e, after)) :
    after = buffer ∨ e.IsRejection := by
  rcases writeValue_eq_error h with
    rfl | ⟨data, d, size, start, order', data', rfl, hd, hsize, hspan, hrun, rfl⟩
  · exact .inl rfl
  · cases d with
    | record r =>
      have hadmits : (Descriptor.record r).Admits options := trivial
      obtain ⟨x, hx, hsound, hxsize⟩ := hreg.exists_expansion hd hsize hadmits
      rw [writeAt, writeNested_eq hx] at hrun
      have hsettled := write_settled order' x hsound data s start (by omega)
      rw [hrun] at hsettled
      cases hsettled with
      | rejected he => exact .inr he
    | scalar t =>
      rcases hreg.find?_cases hd with ⟨scalar, -, -, ht⟩ | ⟨r, -, -, hr⟩
      · cases ht
        cases scalar with
        | string => cases hsize
        | leaf l =>
          have hl : (l.size : Int) = size := Option.some.inj hsize
          have hfit : start + l.size ≤ data.length := by omega
          obtain ⟨bound, hbound⟩ := reg.exists_nestingBound
          rw [writeAt, hbound, writeNested] at hrun
          rcases Leaf.prepare_eq_error_or_rejects hfit hrun with ⟨-, rfl⟩ | he
          · exact .inl rfl
          · exact .inr he
      · cases hr

theorem write_cases (reg : Registry) (buffer : Buffer) (position : Value) (name : String)
    (s : Source) (order : Value) :
    write reg buffer position name s order = writeValue reg buffer position name s order .none ∨
      ∃ e, write reg buffer position name s order = (.error e, buffer) := by
  cases hr : reg.lookupRecord name with
  | ok r =>
    refine .inl (write_eq_writeValue (r := r) ?_ buffer position s order)
    rw [lookupRecord] at hr
    split at hr
    · rename_i t ht
      cases hr
      exact ht
    · cases hr
    · cases hr
  | error e =>
    right
    rw [write]
    cases buffer.writableView with
    | error e' => exact ⟨e', rfl⟩
    | ok data =>
      rw [ok_bind, hr]
      exact ⟨e, rfl⟩

theorem writeValue_of_isOutside (hd : reg.find? name = some d) (hsize : d.size? = some size)
    (h : Position.IsOutside buffer.data.length size position) (s : Source) (order options : Value) :
    ∃ e, writeValue reg buffer position name s order options = (.error e, buffer) := by
  obtain ⟨e, hspan⟩ := Position.span_of_isOutside h name
  rw [writeValue]
  cases hview : buffer.writableView with
  | error e' => exact ⟨e', rfl⟩
  | ok data =>
    cases writableView_eq_ok hview
    rw [Buffer.data] at hspan
    rw [ok_bind, lookup_of_find? hd, ok_bind, hsize]
    simp only [hspan]
    exact ⟨e, rfl⟩

/-- A call that fails has not changed the buffer, unless it rejects the value; and where the bytes
would not lie inside the buffer it does fail. A rejection that cannot be put into words, because of
an integer too long to be written, is raised as another error. -/
theorem unchanged_unless_rejected (schemas : List (String × String)) (buffer : Buffer)
    (position : Value) (name : String) (s : Source) (order options : Value) :
    (∀ e after, (write (standard.attemptAll schemas) buffer position name s order =
          (.error e, after) ∨
        writeValue (standard.attemptAll schemas) buffer position name s order options =
          (.error e, after)) →
      after = buffer ∨
        e.IsRejection ∧ e.kind = if e.isWritable then e.causeKind else .badValue) ∧
    ∀ d size, (standard.attemptAll schemas).find? name = some d → d.size? = some size →
      Position.IsOutside buffer.data.length size position →
      (∃ e, write (standard.attemptAll schemas) buffer position name s order =
        (.error e, buffer)) ∧
      ∃ e, writeValue (standard.attemptAll schemas) buffer position name s order options =
        (.error e, buffer) := by
  have hreg := wellFormed_attemptAll schemas
  have hcases := write_cases (standard.attemptAll schemas) buffer position name s order
  constructor
  · intro e after h
    have huntouched : after = buffer ∨ e.IsRejection := by
      rcases h with h | h
      · rcases hcases with hwrite | ⟨e', hwrite⟩
        · rw [hwrite] at h
          exact writeValue_untouched hreg h
        · rw [hwrite] at h
          cases h
          exact .inl rfl
      · exact writeValue_untouched hreg h
    exact huntouched.imp_right fun hrejection ↦ ⟨hrejection, rfl⟩
  · intro d size hd hsize houtside
    refine ⟨?_, writeValue_of_isOutside hd hsize houtside s order options⟩
    rcases hcases with hwrite | hwrite
    · rw [hwrite]
      exact writeValue_of_isOutside hd hsize houtside s order .none
    · exact hwrite

theorem unchanged_row :
    (∃ e after, write (standard.attemptAll rowSchemas) (.flat (List.replicate 20 7) true) (.int 2)
        "Row" (.value rowValue) (.text "middle") = (.error e, after) ∧ e.kind = .badValue ∧
      after = .flat (List.replicate 20 7) true) ∧
    ∃ e, write (standard.attemptAll rowSchemas) (.flat (List.replicate 20 7) true)
      (.float (.ofMagnitude false 0x4008000000000000)) "Row" (.value rowValue) (.text "big") =
        (.error e, .flat (List.replicate 20 7) true) := by
  constructor
  · have hkind : (match (write (standard.attemptAll rowSchemas)
          (.flat (List.replicate 20 7) true) (.int 2) "Row" (.value rowValue)
          (.text "middle")).1 with
        | .error e => e.isWritable && e.kind == .badValue
        | .ok _ => false) = true := by
      decide +kernel
    generalize hw : write (standard.attemptAll rowSchemas) (.flat (List.replicate 20 7) true)
      (.int 2) "Row" (.value rowValue) (.text "middle") = result at hkind
    obtain ⟨e | n, after⟩ := result
    · rw [Bool.and_eq_true, beq_iff_eq] at hkind
      obtain ⟨hwritable, hkind⟩ := hkind
      have h := (unchanged_unless_rejected rowSchemas (.flat (List.replicate 20 7) true) (.int 2)
        "Row" (.value rowValue) (.text "middle") .none).1 e after (.inl hw)
      rcases h with hbuffer | ⟨hrejection, hcause⟩
      · exact ⟨e, after, rfl, hkind, hbuffer⟩
      · rw [hkind, if_pos hwritable] at hcause
        rcases hrejection with h | h
        · cases hcause.trans h
        · cases hcause.trans h
    · cases hkind
  · obtain ⟨r, hr, hsize, -⟩ := find?_row
    have h := unchanged_unless_rejected rowSchemas (.flat (List.replicate 20 7) true)
      (.float (.ofMagnitude false 0x4008000000000000)) "Row" (.value rowValue) (.text "big") .none
    refine (h.2 (.record r) 18 hr (congrArg some hsize) (.inr (.inr ?_))).1
    decide +kernel

/-- The error is none of a rejection, and the bytes have changed all the same. -/
theorem writeValue_overlong : ∃ e, writeValue (standard.attemptAll []) (.flat [7, 7] true) (.int 0)
      "u16" (.value (.int Numeral.unwritableFrom)) (.text "big") .none =
        (.error e, .flat [0, 0] true) ∧ e.kind = .badValue :=
  exists_error_of_verdict (by decide +kernel)

end Codec

end RecordCodec
