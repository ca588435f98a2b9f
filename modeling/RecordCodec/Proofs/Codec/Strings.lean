import RecordCodec.Proofs.Codec.Iteration
import RecordCodec.Proofs.Registry.Containers
import Mathlib.Data.List.TakeDrop

namespace RecordCodec

namespace Scalar

variable {data piece rest : Bytes} {p : Nat}

theorem span_of_zero_notMem (h : 0 ∉ piece) : piece.span (· != 0) = (piece, []) := by
  have hall : ∀ b ∈ piece, (b != 0) = true := fun b hb ↦ bne_iff_ne.2 fun he ↦ h (he ▸ hb)
  rw [List.span_eq_takeWhile_dropWhile, List.takeWhile_eq_self_iff.2 hall,
    List.dropWhile_eq_nil_iff.2 hall]

theorem span_piece (h : 0 ∉ piece) (rest : Bytes) :
    (piece ++ 0 :: rest).span (· != 0) = (piece, 0 :: rest) := by
  have hall : ∀ b ∈ piece, (b != 0) = true := fun b hb ↦ bne_iff_ne.2 fun he ↦ h (he ▸ hb)
  rw [List.span_eq_takeWhile_dropWhile, List.takeWhile_append_of_pos hall,
    List.dropWhile_append_of_pos hall]
  simp

theorem readString_of_piece (hdata : data.drop p = piece ++ 0 :: rest) (h : 0 ∉ piece) :
    readString data p = .ok (.text (Latin1.decode piece), piece.length + 1) := by
  have hlength := congrArg List.length hdata
  rw [List.length_drop, List.length_append, List.length_cons] at hlength
  rw [readString, if_neg (by omega), Int.toNat_natCast, hdata, span_piece h]

theorem readString_of_le (h : data.length ≤ p) : readString data p = .error (.noStringAt p) := by
  rw [readString, if_pos (by omega)]

theorem readString_of_zero_notMem (hp : p < data.length) (h : 0 ∉ data.drop p) :
    readString data p = .error (.unterminated p) := by
  rw [readString, if_neg (by omega), Int.toNat_natCast, span_of_zero_notMem h]

end Scalar

namespace Latin1

theorem encode?_decode (bytes : Bytes) : encode? (decode bytes) = some bytes := by
  rw [encode?, decode, String.toList_ofList]
  induction bytes with
  | nil => rfl
  | cons b rest ih =>
    rw [List.map_cons, List.mapM_cons, Leaf.byte?_ofNat, ih]
    rfl

theorem mapM_encode?_decode (pieces : List Bytes) :
    (pieces.map decode).mapM encode? = some pieces := by
  induction pieces with
  | nil => rfl
  | cons piece pieces ih =>
    rw [List.map_cons, List.mapM_cons, encode?_decode, ih]
    rfl

theorem zero_notMem_decode {bytes : Bytes} (h : 0 ∉ bytes) :
    Char.ofNat 0 ∉ (decode bytes).toList := by
  rw [decode, String.toList_ofList, List.mem_map]
  rintro ⟨b, hb, hchar⟩
  -- a byte is its character's code, so only the zero byte gives the character without one
  have hbyte := Leaf.byte?_ofNat b
  rw [hchar] at hbyte
  cases hbyte
  exact h hb

theorem length_decode (bytes : Bytes) : (decode bytes).length = bytes.length := by
  rw [decode, String.length_ofList, List.length_map]

end Latin1

namespace Codec

open Registry

/-- What reading a string at a position gives. The message of an error has the position in it, which
may be too long to be written. -/
structure ReadsString (data : Bytes) (p : Nat) (result : Except Error (Value × Nat)) : Prop where
  exists_ok_iff : (∃ v n, result = .ok (v, n)) ↔ 0 ∈ data.drop p
  decodes : ∀ v n, result = .ok (v, n) → ∃ text encoded, v = .text text ∧
    Char.ofNat 0 ∉ text.toList ∧ n = text.length + 1 ∧ Latin1.encode? text = some encoded ∧
    (data.drop p).take n = encoded ++ [0]
  fails : ∀ e, result = .error e →
    e = (if data.length ≤ p then .noStringAt p else .unterminated p) ∧
    e.kind = if Numeral.isWritable p then .outOfBounds else .badValue

variable {reg : Registry} {buffer : Buffer} {data : Bytes} {position options : Value} {p : Nat}

theorem find?_string_callAll (calls : List Call) :
    (primitive.callAll calls).find? "string" = some (.scalar (.ofScalar .string)) := by
  have hnew : primitive.lookup "string" = .ok (.scalar (.ofScalar .string)) :=
    lookup_of_new (.inl rfl) (s := .string) (by decide)
  exact find?_of_grown (prefix_callAll primitive calls) (lookup_eq_ok_iff.1 hnew)

theorem readValue_string (hstring : reg.find? "string" = some (.scalar (.ofScalar .string)))
    (hview : buffer.view = .ok data) (hp : Position.ofValue position = .ok p)
    (order : ByteOrder) (options : Value) :
    readValue reg buffer position "string" order.toValue options = Scalar.readString data p := by
  obtain ⟨bound, hbound⟩ := reg.exists_nestingBound
  have hstart : startOf (.scalar (.ofScalar .string)) data.length position "string" = .ok p := hp
  rw [readValue, hview, ok_bind, lookup_of_find? hstring, ok_bind, hstart, ok_bind,
    ByteOrder.ofValue_toValue, ok_bind, readAt, hbound, readNested]
  rfl

theorem readsString (data : Bytes) (p : Nat) :
    ReadsString data p (Scalar.readString data p) := by
  by_cases hzero : 0 ∈ data.drop p
  · obtain ⟨piece, rest, hdata, hpiece⟩ := List.eq_append_cons_of_mem hzero
    rw [Scalar.readString_of_piece hdata hpiece]
    refine ⟨iff_of_true ⟨_, _, rfl⟩ hzero, ?_, ?_⟩
    · intro v n h
      cases h
      refine ⟨_, piece, rfl, Latin1.zero_notMem_decode hpiece, ?_, Latin1.encode?_decode piece, ?_⟩
      · rw [Latin1.length_decode]
      · rw [hdata, List.append_cons, List.take_left' (by simp)]
    · intro e h
      cases h
  · have hkind : Scalar.readString data p =
        .error (if data.length ≤ p then .noStringAt p else .unterminated p) := by
      split
      · rename_i hle
        exact Scalar.readString_of_le hle
      · rename_i hlt
        exact Scalar.readString_of_zero_notMem (Nat.not_le.1 hlt) hzero
    rw [hkind]
    refine ⟨iff_of_false ?_ hzero, ?_, ?_⟩
    · rintro ⟨v, n, h⟩
      cases h
    · intro v n h
      cases h
    · intro e h
      cases h
      split
      · exact ⟨rfl, rfl⟩
      · exact ⟨rfl, rfl⟩

end Codec

namespace Stream

open Registry

def terminated (pieces : List Bytes) : Bytes :=
  pieces.flatMap (· ++ [0])

@[simp]
theorem terminated_nil : terminated [] = [] :=
  rfl

theorem terminated_cons (piece : Bytes) (pieces : List Bytes) :
    terminated (piece :: pieces) = piece ++ 0 :: terminated pieces := by
  rw [terminated, List.flatMap_cons, List.append_assoc]
  rfl

theorem length_terminated_cons (piece : Bytes) (pieces : List Bytes) :
    (terminated (piece :: pieces)).length = piece.length + 1 + (terminated pieces).length := by
  rw [terminated_cons, List.length_append, List.length_cons, Nat.add_assoc, Nat.add_comm 1]

theorem length_le_terminated (pieces : List Bytes) :
    pieces.length ≤ (terminated pieces).length := by
  induction pieces with
  | nil => exact Nat.le_refl _
  | cons piece pieces ih =>
    rw [length_terminated_cons, List.length_cons]
    omega

theorem exists_pieces (data : Bytes) : ∃ pieces rest, data = terminated pieces ++ rest ∧
    (∀ piece ∈ pieces, 0 ∉ piece) ∧ 0 ∉ rest := by
  induction data with
  | nil => exact ⟨[], [], rfl, List.forall_mem_nil _, List.not_mem_nil⟩
  | cons b data ih =>
    obtain ⟨pieces, rest, rfl, hpieces, hrest⟩ := ih
    by_cases hb : b = 0
    · refine ⟨[] :: pieces, rest, ?_, List.forall_mem_cons.2 ⟨List.not_mem_nil, hpieces⟩, hrest⟩
      rw [hb]
      rfl
    -- any other byte belongs to what comes next, the first piece or the rest
    cases pieces with
    | nil =>
      exact ⟨[], b :: rest, rfl, hpieces, List.not_mem_cons_of_ne_of_not_mem (Ne.symm hb) hrest⟩
    | cons piece pieces =>
      obtain ⟨hpiece, hpieces⟩ := List.forall_mem_cons.1 hpieces
      exact ⟨(b :: piece) :: pieces, rest, rfl, List.forall_mem_cons.2
        ⟨List.not_mem_cons_of_ne_of_not_mem (Ne.symm hb) hpiece, hpieces⟩, hrest⟩

/-- How reading strings up to the end of a stream ends: the bytes from the cursor on are the
encodings of the strings with a zero behind each, and a rest without a zero. -/
def CutsAtZeros (s : Stream) (drained : Drained) : Prop :=
  ∃ (texts : List String) (pieces : List Bytes) (rest : Bytes),
    drained.values = texts.map Value.text ∧
    (∀ text ∈ texts, Char.ofNat 0 ∉ text.toList) ∧ texts.mapM Latin1.encode? = some pieces ∧
    (s.data.drop s.start).drop s.cursor.toNat = terminated pieces ++ rest ∧ 0 ∉ rest ∧
    drained.stream = s.moved (terminated pieces).length ∧
    (drained.stopped = none ↔ rest = []) ∧
    ∀ e, drained.stopped = some e → e = .unterminated drained.stream.cursor ∧
      e.kind = if Numeral.isWritable drained.stream.cursor then .outOfBounds else .badValue

section Found

variable {reg : Registry} {s : Stream} {rest : Bytes} {p : Nat}
  (hstring : reg.find? "string" = some (.scalar (.ofScalar .string)))
include hstring

theorem readNext_string (hp : s.cursor = p) (order : ByteOrder) :
    s.readNext reg "string" order.toValue =
      (Scalar.readString (s.data.drop s.start) p).map fun (v, n) ↦ (v, s.moved n) := by
  have hposition : Position.ofValue (.int s.cursor) = .ok p := by
    rw [hp, Codec.ofValue_natCast]
  rw [readNext, Codec.readValue_string hstring rfl hposition]
  cases Scalar.readString (s.data.drop s.start) p <;> rfl

/-- The pieces are read one after the other, and what is behind the last zero is no string. -/
theorem drains_pieces (order : ByteOrder) (hrest : 0 ∉ rest) (pieces : List Bytes)
    (hpieces : ∀ piece ∈ pieces, 0 ∉ piece) (hp : s.cursor = p) (hle : p ≤ s.length)
    (hdrop : (s.data.drop s.start).drop p = terminated pieces ++ rest) :
    Drains reg "string" order.toValue s ⟨pieces.map fun piece ↦ .text (Latin1.decode piece),
      if rest = [] then none else some (.unterminated (s.cursor + (terminated pieces).length)),
      s.moved (terminated pieces).length⟩ := by
  have hlength : (s.data.drop s.start).length = s.length := List.length_drop
  have htail := congrArg List.length hdrop
  rw [List.length_drop, List.length_append, hlength] at htail
  induction pieces generalizing s p with
  | nil =>
    rw [terminated_nil, List.nil_append] at hdrop
    rw [terminated_nil, List.length_nil] at htail ⊢
    rw [Int.natCast_zero, moved_zero, Int.add_zero]
    split
    · rename_i hnil
      rw [hnil, List.length_nil] at htail
      exact .finished (by omega)
    · rename_i hne
      have hpos : 0 < rest.length := List.length_pos_of_ne_nil hne
      have hread : Scalar.readString (s.data.drop s.start) p = .error (.unterminated p) :=
        Scalar.readString_of_zero_notMem (by omega) (hdrop ▸ hrest)
      refine .failed (by omega) ?_
      rw [readNext_string hstring hp, hread, hp]
      rfl
  | cons piece pieces ih =>
    obtain ⟨hpiece, hpieces⟩ := List.forall_mem_cons.1 hpieces
    rw [length_terminated_cons] at htail ⊢
    rw [terminated_cons, List.append_assoc, List.cons_append] at hdrop
    have hread : Scalar.readString (s.data.drop s.start) p =
        .ok (.text (Latin1.decode piece), piece.length + 1) :=
      Scalar.readString_of_piece hdrop hpiece
    have hnext : s.readNext reg "string" order.toValue =
        .ok (.text (Latin1.decode piece), s.moved (piece.length + 1 : Nat)) := by
      rw [readNext_string hstring hp, hread]
      rfl
    have hbehind : (s.data.drop s.start).drop (p + (piece.length + 1)) =
        terminated pieces ++ rest := by
      rw [← List.drop_drop, hdrop, List.append_cons, List.drop_left' (by simp)]
    have := ih (s := s.moved (piece.length + 1 : Nat)) hpieces
      (by rw [cursor_moved, hp]; rfl) (by rw [length_moved]; omega) hbehind hlength (by
        rw [length_moved]; omega)
    rw [moved_moved, cursor_moved, Int.add_assoc, ← Int.natCast_add] at this
    exact .next (by omega) hnext this

theorem cutsAtZeros (hnonneg : 0 ≤ s.cursor) (hle : s.cursor ≤ s.length) (order : ByteOrder) :
    Drains reg "string" order.toValue s (s.drain reg "string" order.toValue) ∧
      s.CutsAtZeros (s.drain reg "string" order.toValue) := by
  obtain ⟨p, hp⟩ := Int.eq_ofNat_of_zero_le hnonneg
  obtain ⟨pieces, rest, hdrop, hpieces, hrest⟩ := exists_pieces ((s.data.drop s.start).drop p)
  have hdrains := drains_pieces hstring order hrest pieces hpieces hp (by omega) hdrop
  have hlength : (s.data.drop s.start).length = s.length := List.length_drop
  have htail := congrArg List.length hdrop
  rw [List.length_drop, List.length_append, hlength] at htail
  -- every piece takes its zero at least, and a rest that is not empty takes a byte
  have hcount := length_le_terminated pieces
  have hbound : (pieces.map fun piece ↦ Value.text (Latin1.decode piece)).length +
      (if rest = [] then none else some (Error.unterminated
        (s.cursor + (terminated pieces).length))).toList.length ≤ (s.length - s.cursor).toNat := by
    rw [List.length_map]
    split
    · rw [Option.toList_none, List.length_nil]
      omega
    · rename_i hne
      have hpos := List.length_pos_of_ne_nil hne
      rw [Option.toList_some, List.length_singleton]
      omega
  rw [hdrains.drain_eq hbound]
  refine ⟨hdrains, pieces.map Latin1.decode, pieces, rest, ?_, ?_,
    Latin1.mapM_encode?_decode pieces, ?_, hrest, rfl, ?_, ?_⟩
  · rw [List.map_map]
    rfl
  · intro text htext
    obtain ⟨piece, hpiece, rfl⟩ := List.mem_map.1 htext
    exact Latin1.zero_notMem_decode (hpieces piece hpiece)
  · rw [hp]
    exact hdrop
  · simp
  · intro e he
    obtain ⟨-, he⟩ := Option.ite_none_left_eq_some.1 he
    cases he
    exact ⟨rfl, rfl⟩

end Found

/-- A registry is what any calls make of a new one that holds the primitive types. Reading a string
from it succeeds if and only if there is a zero byte to end it, and gives what is in front of the
first one. Draining strings from anywhere in a stream cuts the bytes at their zeros. -/
theorem strings_end_at_zeros (calls : List Call) (order : ByteOrder) :
    let reg := primitive.callAll calls
    (∀ (buffer : Buffer) (data : Bytes) (position options : Value) (p : Nat),
      buffer.view = .ok data → Position.ofValue position = .ok p →
      Codec.ReadsString data p
        (Codec.readValue reg buffer position "string" order.toValue options)) ∧
    ∀ s : Stream, 0 ≤ s.cursor → s.cursor ≤ s.length →
      Drains reg "string" order.toValue s (s.drain reg "string" order.toValue) ∧
      s.CutsAtZeros (s.drain reg "string" order.toValue) := by
  refine ⟨fun buffer data position options p hview hp ↦ ?_, fun s hnonneg hle ↦ ?_⟩
  · rw [Codec.readValue_string (Codec.find?_string_callAll calls) hview hp]
    exact Codec.readsString data p
  · exact cutsAtZeros (Codec.find?_string_callAll calls) hnonneg hle order

def stringBytes : Bytes :=
  [65, 0xE9, 0, 0, 66]

def stringStream : Stream :=
  ⟨stringBytes, false, 0, 0⟩

theorem strings_end_at_zeros_cut : (Buffer.flat stringBytes false).view = .ok stringBytes ∧
    Position.ofValue (.int 1) = .ok 1 ∧
    (∃ v n, Codec.readValue (primitive.callAll sixteenCalls) (.flat stringBytes false) (.int 1)
      "string" (.text "little") .none = .ok (v, n)) ∧
    0 ≤ stringStream.cursor ∧ stringStream.cursor ≤ stringStream.length ∧
    let drained := stringStream.drain (primitive.callAll sixteenCalls) "string" (.text "little")
    drained.values.length = 2 ∧ drained.stream.cursor = 4 ∧
      drained.stopped = some (.unterminated 4) := by
  obtain ⟨hread, hdrain⟩ := strings_end_at_zeros sixteenCalls .little
  have hone := hread (.flat stringBytes false) stringBytes (.int 1) .none 1 rfl rfl
  have hnonneg : 0 ≤ stringStream.cursor := Int.le_refl 0
  have hle : stringStream.cursor ≤ stringStream.length := by decide
  obtain ⟨-, texts, pieces, rest, -, -, -, -, -, -, -, hstopped⟩ := hdrain stringStream hnonneg hle
  refine ⟨rfl, rfl, hone.exists_ok_iff.2 (by decide), hnonneg, hle, ?_⟩
  intro drained
  have hcursor : drained.stream.cursor = 4 := by decide +kernel
  have hsome : drained.stopped.isSome = true := by decide +kernel
  obtain ⟨e, he⟩ := Option.isSome_iff_exists.1 hsome
  obtain ⟨rfl, -⟩ := hstopped e he
  exact ⟨by decide +kernel, hcursor, hcursor ▸ he⟩

/-- There is no string behind the end, and at a position that is too long to be written the error is
another one. -/
theorem readValue_string_overlong :
    Position.ofValue (.int Numeral.unwritableFrom) = .ok Numeral.unwritableFrom ∧
    stringBytes.length ≤ Numeral.unwritableFrom ∧
    ∃ e, Codec.readValue (primitive.callAll [.containers]) (.flat stringBytes false)
      (.int Numeral.unwritableFrom) "string" (.text "big") .none = .error e ∧
      e.kind ≠ .outOfBounds := by
  have hposition : Position.ofValue (.int Numeral.unwritableFrom) = .ok Numeral.unwritableFrom :=
    Codec.ofValue_natCast _
  have hle : stringBytes.length ≤ Numeral.unwritableFrom := by decide +kernel
  have hlong : (Error.noStringAt Numeral.unwritableFrom).isWritable = false := by
    rw [Error.isWritable, Numeral.isWritable, Int.natAbs_natCast]
    exact decide_eq_false (Nat.lt_irrefl _)
  have hview : (Buffer.flat stringBytes false).view = .ok stringBytes := rfl
  have hread := Codec.readValue_string (Codec.find?_string_callAll [.containers]) hview hposition
    .big .none
  rw [Scalar.readString_of_le hle] at hread
  refine ⟨hposition, hle, _, hread, ?_⟩
  rw [Error.kind, hlong, if_neg Bool.false_ne_true]
  decide

end Stream

end RecordCodec
