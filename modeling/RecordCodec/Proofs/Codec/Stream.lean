import RecordCodec.Codec.Stream
import RecordCodec.Proofs.Codec.Span
import RecordCodec.Proofs.Codec.Untouched

namespace RecordCodec

namespace Codec

open Expansion Registry

/-- Whether a value of a type takes up `size` bytes. A string takes up one more than it has
characters. -/
def TakesUp (reg : Registry) (type : String) (v : Value) (size : Int) : Prop :=
  (∃ d, reg.find? type = some d ∧ d.size? = some size) ∨
    type = Scalar.string.name ∧ ∃ text, v = .text text ∧ size = text.length + 1

variable {reg : Registry} {buffer after : Buffer} {position order : Value} {name : String}
  {v : Value} {n : Nat}

theorem readString_eq_ok {data : Bytes} {start : Int}
    (h : Scalar.readString data start = .ok (v, n)) :
    ∃ text : String, v = .text text ∧ n = text.length + 1 := by
  simp only [Scalar.readString] at h
  split at h
  · cases h
  · split at h
    · cases h
    · cases h
      refine ⟨_, rfl, ?_⟩
      rw [Latin1.decode, String.length_ofList, List.length_map]

theorem readValue_takesUp (hreg : reg.WellFormed)
    (h : readValue reg buffer position name order .none = .ok (v, n)) : TakesUp reg name v n := by
  obtain ⟨data, -, h⟩ := bind_eq_ok.1 h
  obtain ⟨d, hd, h⟩ := bind_eq_ok.1 h
  obtain ⟨start, hstart, h⟩ := bind_eq_ok.1 h
  obtain ⟨order', -, hread⟩ := bind_eq_ok.1 h
  rw [lookup_eq_ok_iff] at hd
  cases hsize : d.size? with
  | some size =>
    obtain ⟨x, hx, hsound, hxsize⟩ := hreg.exists_expansion hd hsize d.admits_none
    rw [startOf_of_size? hsize] at hstart
    have hspan := (Position.span_eq_ok hstart).2
    obtain ⟨w, hw⟩ := exists_read order' data x hsound start (by omega)
    rw [readAt, readNested_eq data hx, hw] at hread
    cases hread
    exact .inl ⟨d, hd, by rw [hsize, hxsize]⟩
  | none =>
    rcases hreg.find?_cases hd with ⟨s, -, rfl, rfl⟩ | ⟨r, -, -, rfl⟩
    · cases s with
      | leaf l => cases hsize
      | string =>
        obtain ⟨bound, hbound⟩ := reg.exists_nestingBound
        rw [readAt, hbound, readNested] at hread
        obtain ⟨text, rfl, hn⟩ := readString_eq_ok hread
        exact .inr ⟨rfl, text, rfl, by rw [hn]; rfl⟩
    · cases hsize

theorem writeValue_takesUp (hreg : reg.WellFormed) {s : Source}
    (h : writeValue reg buffer position name s order .none = (.ok n, after)) :
    ∃ d, reg.find? name = some d ∧ d.size? = some (n : Int) := by
  rcases writeValue_cases reg buffer position name s order .none with
    ⟨e, he⟩ | ⟨data, d, size, start, order', rfl, hd, hsize, hspan, hwrite⟩
  · rw [he] at h
    cases h
  · obtain ⟨x, hx, hsound, hxsize⟩ := hreg.exists_expansion hd hsize d.admits_none
    have hsettled := write_settled order' x hsound data s start (by omega)
    rw [hwrite, runOn, writeAt, writeNested_eq hx, Buffer.data] at h
    generalize (x.write order' s start).run data = result at h hsettled
    cases hsettled with
    | taken => cases h; exact ⟨d, hd, by rw [hsize, hxsize]⟩
    | rejected => cases h

end Codec

namespace Stream

open Registry

variable {reg : Registry} {s : Stream} {front : Bytes} {type : String} {order : Value}

def behind (front : Bytes) (s : Stream) : Stream :=
  ⟨front ++ s.data, s.writable, front.length + s.start, s.cursor⟩

@[simp]
theorem tail_behind : (s.behind front).tail = s.tail := by
  rw [tail, tail, behind, List.drop_append, List.drop_of_length_le (Nat.le_add_right _ _),
    Nat.add_sub_cancel_left, List.nil_append]

@[simp]
theorem length_behind : (s.behind front).length = s.length := by
  rw [behind, length, length, List.length_append, Nat.add_sub_add_left]

@[simp]
theorem withTail_behind (b : Buffer) :
    (s.behind front).withTail b = (s.withTail b).behind front := by
  rw [withTail, withTail, behind, behind, List.take_append, Nat.add_sub_cancel_left,
    List.take_of_length_le (Nat.le_add_right _ _), List.append_assoc]

theorem seek_behind (offset whence : Value) :
    (s.behind front).seek offset whence = (s.seek offset whence).map (behind front) := by
  rw [seek, seek, length_behind]
  cases seekOffset offset with
  | error e => rfl
  | ok n =>
    simp only [ok_bind]
    split
    · rfl
    · split
      · rfl
      · split <;> rfl

theorem readAt_behind (offset : Value) :
    (s.behind front).readAt reg offset type order = s.readAt reg offset type order := by
  rw [readAt, readAt, tail_behind]

theorem readNext_behind : (s.behind front).readNext reg type order =
    (s.readNext reg type order).map (Prod.map id (behind front)) := by
  rw [readNext, readNext, tail_behind, behind]
  cases Codec.readValue reg s.tail (.int s.cursor) type order .none <;> rfl

theorem writeAt_behind (offset : Value) (source : Source) :
    (s.behind front).writeAt reg offset type source order =
      Prod.map id (behind front) (s.writeAt reg offset type source order) := by
  rw [writeAt, writeAt, tail_behind]
  simp only [withTail_behind]
  rfl

theorem writeNext_behind (source : Source) : (s.behind front).writeNext reg type source order =
    Prod.map id (behind front) (s.writeNext reg type source order) := by
  have hcursor : (s.behind front).cursor = s.cursor := rfl
  rw [writeNext, writeNext, hcursor, writeAt_behind]
  obtain ⟨result, after⟩ := s.writeAt reg (.int s.cursor) type source order
  cases result <;> rfl

theorem drainWithin_behind (bound : Nat) : (s.behind front).drainWithin reg type order bound =
    let drained := s.drainWithin reg type order bound
    { drained with stream := drained.stream.behind front } := by
  induction bound generalizing s with
  | zero =>
    rw [drainWithin, drainWithin, length_behind]
    rfl
  | succ bound ih =>
    rw [drainWithin, drainWithin, length_behind, readNext_behind]
    have hcursor : (s.behind front).cursor = s.cursor := rfl
    by_cases h : s.cursor < s.length
    · rw [hcursor, if_pos h, if_pos h]
      cases s.readNext reg type order with
      | error e => rfl
      | ok result => simp only [Except.map, Prod.map, ih, id_eq]
    · rw [hcursor, if_neg h, if_neg h]

/-- What may be done with a stream. An iteration takes nothing before it is resumed. -/
inductive Operation where
  | seek (offset whence : Value)
  | readNext (type : String) (order : Value)
  | readAt (offset : Value) (type : String) (order : Value)
  | writeNext (type : String) (source : Source) (order : Value)
  | writeAt (offset : Value) (type : String) (source : Source) (order : Value)
  | iterate (type : String) (order : Value)
  | resume (iteration : Nat)

inductive Answer where
  | done
  | value (v : Value)
  | written (size : Nat)
  | exhausted

/-- An iteration over the values of a stream. Once it has come to an end or has failed it stays
ended. -/
structure Iteration where
  type : String
  order : Value
  ended : Bool

/-- A stream together with the iterations that have been begun over it. -/
structure Usage where
  stream : Stream
  iterations : List Iteration

namespace Usage

variable {reg : Registry} {u : Usage} {front : Bytes}

def behind (front : Bytes) (u : Usage) : Usage :=
  { u with stream := u.stream.behind front }

def ended (u : Usage) (i : Nat) : Usage :=
  { u with iterations := u.iterations.modify i fun iteration ↦ { iteration with ended := true } }

def perform (reg : Registry) (u : Usage) : Operation → Except Error Answer × Usage
  | .seek offset whence =>
    match u.stream.seek offset whence with
    | .ok s => (.ok .done, { u with stream := s })
    | .error e => (.error e, u)
  | .readNext type order =>
    match u.stream.readNext reg type order with
    | .ok (v, s) => (.ok (.value v), { u with stream := s })
    | .error e => (.error e, u)
  | .readAt offset type order => ((u.stream.readAt reg offset type order).map .value, u)
  | .writeNext type source order =>
    let (result, s) := u.stream.writeNext reg type source order
    (result.map .written, { u with stream := s })
  | .writeAt offset type source order =>
    let (result, s) := u.stream.writeAt reg offset type source order
    (result.map .written, { u with stream := s })
  | .iterate type order =>
    (.ok .done, { u with iterations := u.iterations ++ [⟨type, order, false⟩] })
  | .resume i =>
    match u.iterations[i]? with
    | some ⟨type, order, false⟩ =>
      let drained := u.stream.drainWithin reg type order 1
      match drained.values, drained.stopped with
      | v :: _, _ => (.ok (.value v), { u with stream := drained.stream })
      | [], some e => (.error e, u.ended i)
      | [], none => (.ok .exhausted, u.ended i)
    | _ => (.ok .exhausted, u)

def performAll (reg : Registry) (u : Usage) :
    List Operation → List (Except Error Answer × Int) × Usage
  | [] => ([], u)
  | operation :: rest =>
    let (answer, after) := u.perform reg operation
    let (answers, last) := after.performAll reg rest
    ((answer, after.stream.cursor) :: answers, last)

/-- No operation depends on the bytes in front of the stream, or changes them. -/
theorem perform_behind (operation : Operation) : (u.behind front).perform reg operation =
    Prod.map id (behind front) (u.perform reg operation) := by
  cases operation with
  | seek offset whence =>
    simp only [perform, behind, seek_behind]
    cases u.stream.seek offset whence <;> rfl
  | readNext type order =>
    simp only [perform, behind, readNext_behind]
    cases u.stream.readNext reg type order <;> rfl
  | readAt offset type order =>
    simp only [perform, behind, readAt_behind]
    rfl
  | writeNext type source order =>
    simp only [perform, behind, writeNext_behind]
    rfl
  | writeAt offset type source order =>
    simp only [perform, behind, writeAt_behind]
    rfl
  | iterate type order => rfl
  | resume i =>
    simp only [perform, behind, drainWithin_behind]
    split
    · split <;> rfl
    · rfl

theorem performAll_behind (operations : List Operation) :
    (u.behind front).performAll reg operations =
      Prod.map id (behind front) (u.performAll reg operations) := by
  induction operations generalizing u with
  | nil => rfl
  | cons operation rest ih =>
    simp only [performAll, perform_behind, Prod.map, ih]
    rfl

def Moves (reg : Registry) (u : Usage) (operation : Operation) (answer : Except Error Answer)
    (after : Usage) : Prop :=
  match answer with
  | .error _ => after.stream.cursor = u.stream.cursor
  | .ok answer =>
    match operation with
    | .seek offset whence => u.stream.seek offset whence = .ok after.stream
    | .readAt .. | .writeAt .. | .iterate .. => after.stream.cursor = u.stream.cursor
    | .readNext type _ => ∃ v, answer = .value v ∧
        Codec.TakesUp reg type v (after.stream.cursor - u.stream.cursor)
    | .writeNext type _ _ => ∃ n, answer = .written n ∧
        after.stream.cursor = u.stream.cursor + n ∧
        ∃ d, reg.find? type = some d ∧ d.size? = some (n : Int)
    | .resume i => answer = .exhausted ∧ after.stream.cursor = u.stream.cursor ∨
        ∃ iteration v, u.iterations[i]? = some iteration ∧ iteration.ended = false ∧
          answer = .value v ∧
          Codec.TakesUp reg iteration.type v (after.stream.cursor - u.stream.cursor)

theorem readNext_takesUp (hreg : reg.WellFormed) {s after : Stream} {type : String}
    {order v : Value} (h : s.readNext reg type order = .ok (v, after)) :
    Codec.TakesUp reg type v (after.cursor - s.cursor) := by
  obtain ⟨⟨v', n⟩, hread, h⟩ := bind_eq_ok.1 h
  cases h
  have := Codec.readValue_takesUp hreg hread
  rwa [show s.cursor + (n : Int) - s.cursor = n by omega]

theorem perform_moves (hreg : reg.WellFormed) (u : Usage) (operation : Operation) :
    u.Moves reg operation (u.perform reg operation).1 (u.perform reg operation).2 := by
  cases operation with
  | seek offset whence =>
    simp only [perform]
    cases hseek : u.stream.seek offset whence with
    | error e => rfl
    | ok s => exact hseek
  | readNext type order =>
    simp only [perform]
    cases hread : u.stream.readNext reg type order with
    | error e => rfl
    | ok result => exact ⟨result.1, rfl, readNext_takesUp hreg hread⟩
  | readAt offset type order =>
    simp only [perform]
    cases u.stream.readAt reg offset type order <;> rfl
  | writeNext type source order =>
    simp only [perform, writeNext, writeAt]
    cases hwrite : Codec.writeValue reg u.stream.tail (.int u.stream.cursor) type source order
        .none with
    | mk result after =>
      cases result with
      | error e => rfl
      | ok n => exact ⟨n, rfl, rfl, Codec.writeValue_takesUp hreg hwrite⟩
  | writeAt offset type source order =>
    simp only [perform, writeAt]
    cases (Codec.writeValue reg u.stream.tail offset type source order .none).1 <;> rfl
  | iterate type order => rfl
  | resume i =>
    simp only [perform]
    split
    · rename_i type order hi
      rw [drainWithin]
      by_cases h : u.stream.cursor < u.stream.length
      · rw [if_pos h]
        cases hread : u.stream.readNext reg type order with
        | error e => rfl
        | ok result => exact .inr ⟨_, result.1, hi, rfl, rfl, readNext_takesUp hreg hread⟩
      · rw [if_neg h]
        exact .inl ⟨rfl, rfl⟩
    · exact .inl ⟨rfl, rfl⟩

end Usage

theorem ofBuffer_of_le {data : Bytes} {writable : Bool} {k : Nat} (hk : k ≤ data.length) :
    ofBuffer (.flat data writable) (.int k) = .ok ⟨data, writable, k, 0⟩ := by
  have hstart : startOf (.int k) data.length = .ok k := by
    simp only [startOf, Value.toInt?]
    exact if_pos ⟨Int.natCast_nonneg k, Int.ofNat_le.2 hk⟩
  rw [ofBuffer, Buffer.view, ok_bind, hstart]
  cases writable <;> rfl

/-- A stream that begins at an offset is used like one over a copy of what comes after it: every
operation gives the same answer and leaves the cursor at the same place, and in the end the bytes in
front are what they were. In whatever state the streams are, what fails leaves the cursor alone, and
so does what is done at an offset. What is read or written next moves it by as much as it takes
up. -/
theorem refines_stream_over_tail (schemas : List (String × String)) (data : Bytes)
    (writable : Bool) {k : Nat} (hk : k ≤ data.length) (operations : List Operation) :
    let reg := standard.attemptAll schemas
    ∃ whole tail, ofBuffer (.flat data writable) (.int k) = .ok whole ∧
      ofBuffer (.flat (data.drop k) writable) (.int 0) = .ok tail ∧
      ((⟨whole, []⟩ : Usage).performAll reg operations).1 =
        ((⟨tail, []⟩ : Usage).performAll reg operations).1 ∧
      ((⟨whole, []⟩ : Usage).performAll reg operations).2.stream.data =
        data.take k ++ ((⟨tail, []⟩ : Usage).performAll reg operations).2.stream.data ∧
      ∀ (u : Usage) (operation : Operation),
        u.Moves reg operation (u.perform reg operation).1 (u.perform reg operation).2 := by
  intro reg
  let tail : Stream := ⟨data.drop k, writable, 0, 0⟩
  have hwhole : (⟨data, writable, k, 0⟩ : Stream) = tail.behind (data.take k) := by
    rw [behind, List.take_append_drop, List.length_take_of_le hk]
    rfl
  have hrun : (⟨⟨data, writable, k, 0⟩, []⟩ : Usage).performAll reg operations =
      Prod.map id (Usage.behind (data.take k))
        ((⟨tail, []⟩ : Usage).performAll reg operations) := by
    rw [hwhole]
    exact Usage.performAll_behind (u := ⟨tail, []⟩) operations
  refine ⟨_, tail, ofBuffer_of_le hk, ofBuffer_of_le (Nat.zero_le _), ?_, ?_,
    Usage.perform_moves (wellFormed_attemptAll schemas)⟩
  · rw [hrun]
    rfl
  · rw [hrun]
    rfl

def rowOperations : List Operation :=
  [.readNext "Row" (.text "big"), .seek (.int (-2)) (.int 2), .iterate "u8" (.text "big"),
    .resume 0, .writeNext "u16" (.value (.int 7)) (.text "big"),
    .writeAt (.int 0) "u8" (.value (.int 1)) (.text "big"), .resume 0, .resume 0, .resume 0]

theorem refines_stream_over_tail_row : 1 ≤ Codec.rowBytes.length ∧
    ∃ whole tail, ofBuffer (.flat Codec.rowBytes true) (.int 1) = .ok whole ∧
      ofBuffer (.flat (Codec.rowBytes.drop 1) true) (.int 0) = .ok tail ∧
      ((⟨whole, []⟩ : Usage).performAll (standard.attemptAll Codec.rowSchemas) rowOperations).1 =
        ((⟨tail, []⟩ : Usage).performAll (standard.attemptAll Codec.rowSchemas) rowOperations).1 ∧
      ((⟨tail, []⟩ : Usage).performAll (standard.attemptAll Codec.rowSchemas)
        rowOperations).1.map Prod.snd = [18, 16, 16, 17, 17, 17, 18, 18, 18] := by
  have hlength : 1 ≤ Codec.rowBytes.length := by decide
  obtain ⟨whole, tail, hwhole, htail, hanswers, -⟩ :=
    refines_stream_over_tail Codec.rowSchemas Codec.rowBytes true hlength rowOperations
  refine ⟨hlength, whole, tail, hwhole, htail, hanswers, ?_⟩
  cases htail
  decide +kernel

end Stream

end RecordCodec
