import RecordCodec.Proofs.Codec.Stream
import RecordCodec.Proofs.Schema.Acceptance

namespace RecordCodec.Stream

open Registry Expansion

section Loop

variable (reg : Registry) (type : String) (order : Value)

/-- What reading up to the end of a stream gives, however long it takes. -/
inductive Drains : Stream → Drained → Prop
  | finished {s : Stream} : (s.length : Int) ≤ s.cursor → Drains s ⟨[], none, s⟩
  | failed {s : Stream} {e : Error} : s.cursor < s.length → s.readNext reg type order = .error e →
      Drains s ⟨[], some e, s⟩
  | next {s after : Stream} {v : Value} {rest : Drained} : s.cursor < s.length →
      s.readNext reg type order = .ok (v, after) → Drains after rest →
      Drains s { rest with values := v :: rest.values }

end Loop

variable {reg : Registry} {type : String} {order : Value} {s : Stream}

def moved (s : Stream) (n : Int) : Stream :=
  { s with cursor := s.cursor + n }

@[simp]
theorem cursor_moved (s : Stream) (n : Int) : (s.moved n).cursor = s.cursor + n :=
  rfl

@[simp]
theorem length_moved (s : Stream) (n : Int) : (s.moved n).length = s.length :=
  rfl

@[simp]
theorem readAt_moved (s : Stream) (n : Int) (offset : Value) :
    (s.moved n).readAt reg offset type order = s.readAt reg offset type order :=
  rfl

theorem moved_zero (s : Stream) : s.moved 0 = s := by
  rw [moved, Int.add_zero]

theorem moved_moved (s : Stream) (m n : Int) : (s.moved m).moved n = s.moved (m + n) := by
  rw [moved, cursor_moved, Int.add_assoc]
  rfl

theorem Drains.drainWithin_eq {d : Drained} (h : Drains reg type order s d) {bound : Nat}
    (hbound : d.values.length + d.stopped.toList.length ≤ bound) :
    s.drainWithin reg type order bound = d := by
  induction h generalizing bound with
  | finished hend =>
    cases bound with
    | zero => rw [drainWithin, if_neg (Int.not_lt.2 hend)]
    | succ bound => rw [drainWithin, if_neg (Int.not_lt.2 hend)]
  | failed hlt hread =>
    cases bound with
    | zero => cases hbound
    | succ bound => rw [drainWithin, if_pos hlt, hread]
  | next hlt hread _ ih =>
    cases bound with
    | zero => simp at hbound
    | succ bound =>
      simp only [List.length_cons] at hbound
      simp only [drainWithin, if_pos hlt, hread, ih (show _ ≤ bound by omega)]

section Sized

variable {d : Descriptor} {size : Int} {order : ByteOrder}
  (hreg : reg.WellFormed) (hd : reg.find? type = some d) (hsize : d.size? = some size)
include hreg hd hsize

theorem exists_readNext (hcursor : 0 ≤ s.cursor) (hfits : s.cursor + size ≤ s.length) :
    ∃ v, s.readNext reg type order.toValue = .ok (v, s.moved size) ∧
      s.readAt reg (.int s.cursor) type order.toValue = .ok v := by
  obtain ⟨x, hx, hsound, hxsize⟩ := hreg.exists_expansion hd hsize d.admits_none
  obtain ⟨p, hp⟩ := Int.eq_ofNat_of_zero_le hcursor
  have hlength : (s.data.drop s.start).length = s.length := List.length_drop
  obtain ⟨v, hv⟩ := exists_read order (s.data.drop s.start) x hsound p (by omega)
  have hread : Codec.readValue reg s.tail (.int s.cursor) type order.toValue .none =
      .ok (v, x.size) := by
    rw [hp, tail, Codec.readValue_eq hd hsize hx (Codec.ofValue_natCast p) (by omega), hv]
  refine ⟨v, ?_, ?_⟩
  · rw [readNext, hread, ← hxsize]
    rfl
  · rw [readAt, hread]
    rfl

omit hreg in
theorem readNext_of_lt (hcursor : 0 ≤ s.cursor) (hlt : (s.length : Int) < s.cursor + size) :
    s.readNext reg type order.toValue = .error (.beyondEnd type size s.cursor s.length) := by
  obtain ⟨p, hp⟩ := Int.eq_ofNat_of_zero_le hcursor
  have hlength : (s.data.drop s.start).length = s.length := List.length_drop
  rw [readNext, tail, hp, Codec.readValue_of_lt hd hsize (Codec.ofValue_natCast p) (by omega),
    hlength]
  rfl

omit hreg in
theorem readNext_of_neg (hcursor : s.cursor < 0) :
    s.readNext reg type order.toValue = .error (.positionNegative s.cursor) := by
  have hpos : Position.ofValue (.int s.cursor) = .error (.positionNegative s.cursor) := by
    rw [Position.ofValue, Position.ofInt, if_neg (by omega)]
  rw [readNext, tail, Codec.readValue, Buffer.view, ok_bind, Codec.lookup_of_find? hd, ok_bind,
    Codec.startOf_of_size? hsize, Position.span, hpos]
  rfl

def remainder (type : String) (size : Int) (n : Nat) (s : Stream) : Option Error :=
  if s.cursor + n * size = s.length then none
  else some (.beyondEnd type size (s.cursor + n * size) s.length)

omit hreg hd hsize in
theorem add_succ_mul (a size : Int) (n : Nat) : a + (n + 1 : Nat) * size = a + size + n * size := by
  rw [Int.natCast_succ, Int.add_mul, Int.one_mul, Int.add_comm (n * size), Int.add_assoc]

omit hreg hd hsize in
theorem remainder_moved (n : Nat) :
    (s.moved size).remainder type size n = s.remainder type size (n + 1) := by
  rw [remainder, remainder, cursor_moved, length_moved, add_succ_mul]

omit hreg hd hsize in
theorem moved_succ (s : Stream) (size : Int) (n : Nat) :
    (s.moved size).moved (n * size) = s.moved ((n + 1 : Nat) * size) := by
  rw [moved_moved, Int.natCast_succ, Int.add_mul, Int.one_mul, Int.add_comm]

/-- As many values as fit are read one behind the other. -/
theorem exists_drains (hpos : 0 < size) (n : Nat) (hcursor : 0 ≤ s.cursor)
    (hle : s.cursor + n * size ≤ s.length) (hlt : (s.length : Int) < s.cursor + n * size + size) :
    ∃ values, values.length = n ∧ (∀ (i : Nat) v, values[i]? = some v →
        s.readAt reg (.int (s.cursor + i * size)) type order.toValue = .ok v) ∧
      Drains reg type order.toValue s
        ⟨values, s.remainder type size n, s.moved (n * size)⟩ := by
  induction n generalizing s with
  | zero =>
    rw [Int.natCast_zero, Int.zero_mul, Int.add_zero] at hle hlt
    refine ⟨[], rfl, nofun, ?_⟩
    rw [remainder, Int.natCast_zero, Int.zero_mul, Int.add_zero, moved_zero]
    split
    · rename_i hend
      exact .finished (Int.le_of_eq hend.symm)
    · rename_i hend
      exact .failed (by omega) (readNext_of_lt hd hsize hcursor hlt)
  | succ n ih =>
    rw [add_succ_mul] at hle hlt
    have hnonneg : 0 ≤ n * size := Int.mul_nonneg (Int.natCast_nonneg n) (Int.le_of_lt hpos)
    obtain ⟨v, hnext, hread⟩ := exists_readNext hreg hd hsize hcursor (by omega)
    obtain ⟨values, hlength, hvalues, hdrains⟩ :=
      ih (s := s.moved size) (by rw [cursor_moved]; omega) hle hlt
    refine ⟨v :: values, congrArg (· + 1) hlength, ?_, ?_⟩
    · intro i w hw
      cases i with
      | zero =>
        cases hw
        simpa using hread
      | succ i =>
        have := hvalues i w hw
        rwa [readAt_moved, cursor_moved, ← add_succ_mul] at this
    · rw [moved_succ, remainder_moved] at hdrains
      exact .next (by omega) hnext hdrains

omit hreg hd hsize in
theorem Drains.drain_eq {order : Value} {drained : Drained} (h : Drains reg type order s drained)
    (hbound : drained.values.length + drained.stopped.toList.length ≤ (s.length - s.cursor).toNat) :
    s.drain reg type order = drained :=
  h.drainWithin_eq hbound

/-- What a stream gives from a cursor that is not negative: as many values as fit, one behind the
other, and then its end or a value that is cut off. -/
structure Tiles (reg : Registry) (type : String) (order : Value) (size : Int) (s : Stream)
    (drained : Drained) : Prop where
  length_eq : (drained.values.length : Int) = max 0 ((s.length - s.cursor) / size)
  readAt_eq : ∀ (i : Nat) v, drained.values[i]? = some v →
    s.readAt reg (.int (s.cursor + i * size)) type order = .ok v
  ended : s.length ≤ s.cursor ∨ size ∣ s.length - s.cursor →
    drained.stopped = none ∧ drained.stream = { s with cursor := max s.cursor s.length }
  cut : s.cursor < s.length → ¬ size ∣ s.length - s.cursor → ∃ last e,
    last = s.cursor + size * ((s.length - s.cursor) / size) ∧
    e = .beyondEnd type size last s.length ∧
    e.kind = (if Numeral.isWritable size && Numeral.isWritable last then .outOfBounds
      else .badValue) ∧
    drained.stopped = some e ∧ drained.stream = { s with cursor := last }

omit hreg hd hsize in
theorem tiles_of_le (hpos : 0 < size) {order : Value} (hle : (s.length : Int) ≤ s.cursor) :
    Tiles reg type order size s ⟨[], none, s⟩ := by
  have hquotient : ((s.length : Int) - s.cursor) / size ≤ 0 / size :=
    Int.ediv_le_ediv hpos (by omega)
  rw [Int.zero_ediv] at hquotient
  refine ⟨(Int.max_eq_left hquotient).symm, nofun, fun _ ↦ ⟨rfl, ?_⟩, fun hlt ↦ ?_⟩
  · rw [Int.max_eq_left hle]
  · omega

omit hreg hd hsize in
theorem tiles_of_lt {order : Value} {n : Nat} {values : List Value} (hlt : s.cursor < s.length)
    (hn : (s.length - s.cursor) / size = n) (hlength : values.length = n)
    (hvalues : ∀ (i : Nat) v, values[i]? = some v →
      s.readAt reg (.int (s.cursor + i * size)) type order = .ok v) :
    Tiles reg type order size s ⟨values, s.remainder type size n, s.moved (n * size)⟩ := by
  have hdvd : s.cursor + n * size = s.length ↔ size ∣ s.length - s.cursor := by
    constructor
    · intro h
      refine ⟨n, ?_⟩
      rw [Int.mul_comm]
      omega
    · intro h
      have hcancel := Int.ediv_mul_cancel h
      rw [hn] at hcancel
      omega
  refine ⟨?_, hvalues, ?_, ?_⟩
  · rw [hlength, hn, Int.max_eq_right (Int.natCast_nonneg n)]
  · rintro (hle | h)
    · omega
    · rw [remainder, if_pos (hdvd.2 h), moved, hdvd.2 h, Int.max_eq_right (Int.le_of_lt hlt)]
      exact ⟨rfl, rfl⟩
  · intro _ h
    refine ⟨s.cursor + n * size, _, ?_, rfl, rfl, ?_, rfl⟩
    · rw [hn, Int.mul_comm]
    · rw [remainder, if_neg (mt hdvd.1 h)]

theorem exists_tiles (hpos : 0 < size) (hcursor : 0 ≤ s.cursor) :
    Drains reg type order.toValue s (s.drain reg type order.toValue) ∧
      Tiles reg type order.toValue size s (s.drain reg type order.toValue) := by
  by_cases hlt : s.cursor < s.length
  · obtain ⟨n, hn⟩ := Int.eq_ofNat_of_zero_le
      (Int.ediv_nonneg (a := s.length - s.cursor) (by omega) (Int.le_of_lt hpos))
    have hmul := Int.ediv_mul_le (s.length - s.cursor) (Int.ne_of_gt hpos)
    have hmul' := Int.lt_ediv_add_one_mul_self (s.length - s.cursor) hpos
    rw [hn] at hmul hmul'
    rw [Int.add_mul, Int.one_mul] at hmul'
    obtain ⟨values, hlength, hvalues, hdrains⟩ :=
      exists_drains hreg hd hsize hpos n hcursor (by omega) (by omega)
    -- every value takes a byte at least, and so does what is left over
    have hle : (n : Int) ≤ n * size := by
      have := Int.mul_le_mul_of_nonneg_left hpos (Int.natCast_nonneg n)
      rwa [Int.zero_add, Int.mul_one] at this
    have hbound : values.length + (s.remainder type size n).toList.length ≤
        (s.length - s.cursor).toNat := by
      rw [hlength, remainder]
      split
      · rw [Option.toList_none, List.length_nil]
        omega
      · rw [Option.toList_some, List.length_singleton]
        omega
    rw [hdrains.drain_eq hbound]
    exact ⟨hdrains, tiles_of_lt hlt hn hlength hvalues⟩
  · have hge := Int.not_lt.1 hlt
    have hdrains : Drains reg type order.toValue s ⟨[], none, s⟩ := .finished hge
    rw [hdrains.drain_eq (Nat.zero_le _)]
    exact ⟨hdrains, tiles_of_le hpos hge⟩

omit hreg in
theorem drain_of_neg (hcursor : s.cursor < 0) :
    Drains reg type order.toValue s ⟨[], some (.positionNegative s.cursor), s⟩ ∧
      s.drain reg type order.toValue = ⟨[], some (.positionNegative s.cursor), s⟩ := by
  have hdrains : Drains reg type order.toValue s ⟨[], some (.positionNegative s.cursor), s⟩ :=
    .failed (by omega) (readNext_of_neg hd hsize hcursor)
  refine ⟨hdrains, hdrains.drain_eq ?_⟩
  simp only [List.length_nil, Option.toList_some, List.length_singleton]
  omega

end Sized

/-- Reading a stream to its end comes to an end for every type of a fixed size. From a cursor that
is not negative the values tile what is left of the stream; from another one nothing is read. An
error whose message has a number too long to be written is of another kind. -/
theorem drain_tiles (schemas : List (String × String)) {type : String} {d : Descriptor} {size : Int}
    (hd : (standard.attemptAll schemas).find? type = some d) (hsize : d.size? = some size)
    (order : ByteOrder) (s : Stream) :
    let reg := standard.attemptAll schemas
    let drained := s.drain reg type order.toValue
    0 < size ∧ Drains reg type order.toValue s drained ∧
      (0 ≤ s.cursor → Tiles reg type order.toValue size s drained) ∧
      (s.cursor < 0 → ∃ e, e = .positionNegative s.cursor ∧ drained = ⟨[], some e, s⟩ ∧
        e.kind = if Numeral.isWritable s.cursor then .outOfBounds else .badValue) := by
  intro reg drained
  have hreg : reg.WellFormed := wellFormed_attemptAll schemas
  have hpos : 0 < size := hreg.size_pos hd hsize
  by_cases hcursor : 0 ≤ s.cursor
  · obtain ⟨hdrains, htiles⟩ := exists_tiles hreg hd hsize hpos hcursor
    exact ⟨hpos, hdrains, fun _ ↦ htiles, fun h ↦ absurd hcursor (Int.not_le.2 h)⟩
  · obtain ⟨hdrains, heq⟩ := drain_of_neg hd hsize (Int.not_le.1 hcursor)
    rw [← heq] at hdrains
    exact ⟨hpos, hdrains, (absurd · hcursor), fun _ ↦ ⟨_, rfl, heq, rfl⟩⟩

theorem drain_tiles_row : ∃ r, (standard.attemptAll Codec.rowSchemas).find? "Row" =
      some (.record r) ∧ r.size = 18 ∧
    let drained := (⟨Codec.rowBytes, false, 0, 0⟩ : Stream).drain
      (standard.attemptAll Codec.rowSchemas) "Row" (.text "big")
    drained.values.length = 1 ∧ drained.stopped = some (.beyondEnd "Row" 18 18 19) ∧
      drained.stream.cursor = 18 := by
  obtain ⟨r, hr, hsize, -⟩ := Codec.find?_row
  refine ⟨r, hr, hsize, ?_⟩
  intro drained
  obtain ⟨-, -, htiles, -⟩ := drain_tiles Codec.rowSchemas hr
    (show _ = some 18 from congrArg some hsize) .big ⟨Codec.rowBytes, false, 0, 0⟩
  have htiles := htiles (Int.le_refl 0)
  obtain ⟨last, e, rfl, rfl, -, hstopped, hstream⟩ := htiles.cut (by decide) (by decide)
  refine ⟨?_, hstopped, ?_⟩
  · exact Int.ofNat.inj htiles.length_eq
  · exact congrArg cursor hstream

section Wide

open Schema Declaration

def arrayLine (digits : List Char) : List Char :=
  ['u', '1', '6'] ++ (['['] ++ (digits ++ ([']'] ++ ([' '] ++ ['x'] ++ []))))

variable {digits : List Char}

theorem exists_arrayDeclaration (hdigits : IsNumeral digits)
    (hlength : digits.length ≤ Numeral.maxDecimalDigits) (hpos : 0 < valueOf digits) :
    ∃ d, ofLine (String.ofList (arrayLine digits)) 1 = .ok d ∧
      d.Holds (.array "u16" (valueOf digits) "x") := by
  have htype : IsIdentifier ['u', '1', '6'] := .intro rfl (List.all_eq_true.1 rfl)
  have hmeans : Means [['u', '1', '6'], ['['], digits, [']'], ['x']]
      (.array "u16" (valueOf digits) "x") :=
    .array htype hdigits (.plain (.intro rfl nofun))
  have hreadable : IsReadable [['u', '1', '6'], ['['], digits, [']'], ['x']] := by
    intro part hpart _
    simp only [List.mem_cons, List.not_mem_nil, or_false] at hpart
    rcases hpart with rfl | rfl | rfl | rfl | rfl
    · decide
    · decide
    · exact hlength
    · decide
    · decide
  have hcut := cut_array htype hdigits ['x']
  rw [← arrayLine, ← String.toList_ofList (l := arrayLine digits)] at hcut
  have hcount : 0 < (Shape.array "u16" (valueOf digits) "x").count := hpos
  obtain ⟨d, hd⟩ := exists_ofShape_eq_ok_iff.2 hcount
  exact ⟨d, (ofLine_of_means hcut hmeans hreadable).trans hd, (ofShape_eq_ok_iff.1 hd).1⟩

theorem filledLines_arrayLine (hdigits : IsNumeral digits) :
    filledLines (String.ofList (arrayLine digits)) = [(arrayLine digits, 1)] := by
  have hlast : (arrayLine digits).getLast? = some 'x' := by
    simp [arrayLine, List.getLast?_cons, List.getLast?_append]
  apply filledLines_ofList
  · exact List.cons_ne_nil _ _
  · intro c hc
    have hdigit (h : c ∈ digits) : c ≠ '\n' ∧ c ≠ '\r' := by
      constructor <;> rintro rfl <;> cases hdigits.2 _ h
    simp only [arrayLine, List.mem_append, List.mem_cons, List.not_mem_nil, or_false] at hc
    rcases hc with (rfl | rfl | rfl) | rfl | h | rfl | rfl | rfl
    · decide
    · decide
    · decide
    · decide
    · exact hdigit h
    · decide
    · decide
    · decide
  · intro c hc
    cases hc
    rfl
  · intro c hc
    cases hlast.symm.trans hc
    rfl

theorem exists_arrayType (hdigits : IsNumeral digits)
    (hlength : digits.length ≤ Numeral.maxDecimalDigits) (hpos : 0 < valueOf digits) :
    ∃ r, (standard.attemptAll [(String.ofList (arrayLine digits), "Wide")]).find? "Wide" =
      some (.record r) ∧ r.size = 2 * (valueOf digits : Int) := by
  obtain ⟨d, hd, hholds⟩ := exists_arrayDeclaration hdigits hlength hpos
  have htype : d.typeName = "u16" := hholds.typeName
  have hname : "Wide" ≠ "" := by decide
  have habsent : "Wide" ∉ standard.names := by decide
  have hfits : d.Fits standard := by
    refine ⟨?_, ?_, ?_⟩
    · rw [htype]
      decide
    · rw [htype]
      decide
    · rw [hholds.runs]
      exact nofun
  obtain ⟨r, grown, hcompile, hfind, hsize⟩ := exists_compile_line wellFormed_standard hname habsent
    (filledLines_arrayLine hdigits) hd hfits
  refine ⟨r, ?_, ?_⟩
  · rw [attemptAll, List.foldl_cons, List.foldl_nil, attempt, hcompile]
    exact hfind
  · have hu16 : (standard.find? "u16").bind Descriptor.size? = some 2 := by decide +kernel
    rw [hsize, Registry.sizeOf, htype, hu16, hholds.count, Int.mul_comm]
    rfl

def nines : List Char :=
  List.replicate Numeral.maxDecimalDigits '9'

theorem isNumeral_nines : IsNumeral nines := by
  refine ⟨?_, fun c hc ↦ ?_⟩
  · rw [nines, Ne, List.replicate_eq_nil_iff]
    decide
  · rw [List.eq_of_mem_replicate hc]
    rfl

theorem valueOf_nines : valueOf nines + 1 = Numeral.unwritableFrom := by
  have hpow (n : Nat) : Nat.ofDigits 10 (List.replicate n 9) + 1 = 10 ^ n := by
    induction n with
    | zero => rfl
    | succ n ih =>
      rw [List.replicate_succ, Nat.ofDigits_cons, Nat.pow_succ, ← ih]
      omega
  rw [valueOf, nines, List.reverse_replicate, List.map_replicate]
  exact hpow _

/-- A type whose size cannot be written does not fit in a stream, and the refusal says something
else. -/
theorem drain_wide : ∃ r e,
    let reg := standard.attemptAll [(String.ofList (arrayLine nines), "Wide")]
    reg.find? "Wide" = some (.record r) ∧ ¬ r.size ∣ 1 ∧
      ((⟨[0], false, 0, 0⟩ : Stream).drain reg "Wide" (.text "big")).stopped = some e ∧
      e.kind ≠ .outOfBounds := by
  have hvalue := valueOf_nines
  have hlarge : 1 < Numeral.unwritableFrom := by decide +kernel
  have hpos : 0 < valueOf nines := by omega
  obtain ⟨r, hr, hsize⟩ := exists_arrayType isNumeral_nines List.length_replicate.le hpos
  have hnot : ¬ r.size ∣ 1 := by
    intro h
    have := Int.le_of_dvd Int.one_pos h
    omega
  have hwide : Numeral.isWritable r.size = false := by
    rw [Numeral.isWritable, decide_eq_false_iff_not]
    omega
  have hfixed : (Descriptor.record r).size? = some r.size := rfl
  have hreg := wellFormed_attemptAll [(String.ofList (arrayLine nines), "Wide")]
  have htiles : Tiles _ "Wide" ByteOrder.big.toValue r.size ⟨[0], false, 0, 0⟩ _ :=
    (exists_tiles hreg hr hfixed (by omega) (Int.le_refl 0)).2
  obtain ⟨last, e, -, -, hkind, hstopped, -⟩ := htiles.cut Int.one_pos hnot
  refine ⟨r, e, hr, hnot, hstopped, ?_⟩
  rw [hkind, hwide]
  exact nofun

end Wide

end RecordCodec.Stream
