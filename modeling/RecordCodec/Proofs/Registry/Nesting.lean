import Mathlib.Data.List.Chain
import RecordCodec.Dataclass.Dependencies
import RecordCodec.Proofs.Expansion.Codec

namespace RecordCodec

namespace Registry

variable {reg : Registry} {d : Descriptor} {r : RecordType} {options : Value} {n n' : Nat}
  {x : Expansion}

/-- Whether a record type of the one name has a member of a type of the other. -/
def Mentions (reg : Registry) (outer inner : String) : Prop :=
  ∃ r, reg.find? outer = some (.record r) ∧ ∃ m ∈ r.members, m.typeName = inner

theorem WellFormed.rank_lt_of_mentions (h : reg.WellFormed) {outer inner : String}
    (hm : reg.Mentions outer inner) : reg.rank inner < reg.rank outer := by
  obtain ⟨r, hfind, m, hm, rfl⟩ := hm
  obtain ⟨hr, rfl⟩ := h.mem_records hfind
  exact (h.supported r hr m hm).rank_lt

theorem WellFormed.rank_decreases (h : reg.WellFormed) {chain : List String}
    (hc : chain.IsChain reg.Mentions) :
    chain.Pairwise fun outer inner ↦ reg.rank inner < reg.rank outer := by
  have hrank : chain.IsChain fun outer inner ↦ reg.rank inner < reg.rank outer :=
    hc.imp fun _ _ ↦ h.rank_lt_of_mentions
  have : IsTrans String fun outer inner ↦ reg.rank inner < reg.rank outer :=
    ⟨fun _ _ _ hab hbc ↦ hbc.trans hab⟩
  exact hrank.pairwise

theorem expandMember_imp {expand expand' : Descriptor → Value → Option Expansion} {m : Member}
    {entry : String × Expansion}
    (himp : ∀ d options x, expand d options = some x → expand' d options = some x)
    (h : reg.expandMember expand m = some entry) : reg.expandMember expand' m = some entry := by
  obtain ⟨d, x, hd, hx, rfl⟩ := expandMember_eq_some h
  simp [expandMember, hd, himp d m.options x hx]

/-- More nesting than is needed makes no difference. -/
theorem expandWithin_of_le (h : reg.expandWithin n d options = some x) (hn : n ≤ n') :
    reg.expandWithin n' d options = some x := by
  induction n generalizing n' d options x with
  | zero => cases h
  | succ n ih =>
    cases n' with
    | zero => omega
    | succ n' =>
      cases d with
      | scalar t => exact h
      | record r =>
        obtain ⟨members, rfl, hm⟩ := expandWithin_record h
        have hm' := hm.imp fun _ _ ↦
          expandMember_imp fun d options x hx ↦ ih hx (Nat.le_of_succ_le_succ hn)
        simp [expandWithin, mapM_eq_some.2 hm']

theorem WellFormed.exists_record (h : reg.WellFormed) (hr : r ∈ reg.records) (options : Value) :
    ∃ x, (∀ nesting, reg.rank r.name < nesting →
      reg.expandWithin nesting (.record r) options = some x) ∧
        reg.expansion? (.record r) options = some x ∧ x.Sound ∧ (x.size : Int) = r.size := by
  have hfind := h.find?_record hr
  obtain ⟨x, hx, hsound, hsize⟩ :=
    h.exists_expandWithin hfind (Nat.lt_succ_self _) rfl (show (Descriptor.record r).Admits options
      from trivial)
  have hrank := rank_lt_size (mem_names_of_find? hfind)
  refine ⟨x, fun nesting hn ↦ expandWithin_of_le hx hn, expandWithin_of_le hx ?_, hsound, hsize⟩
  simp only [nestingBound]
  omega

end Registry

namespace Codec

variable {reg : Registry} {r : RecordType} {nesting : Nat}

theorem readNested_stable (h : reg.WellFormed) (hr : r ∈ reg.records)
    (hn : reg.rank r.name < nesting) (order : ByteOrder) (buffer : Bytes) (options : Value) :
    readNested reg order buffer nesting (.record r) options =
      readAt reg order buffer (.record r) options := by
  obtain ⟨x, hx, hexpansion, -, -⟩ := h.exists_record hr options
  funext start
  rw [readAt, readNested_eq buffer (hx nesting hn), readNested_eq buffer hexpansion]

theorem writeNested_stable (h : reg.WellFormed) (hr : r ∈ reg.records)
    (hn : reg.rank r.name < nesting) (order : ByteOrder) (options : Value) :
    writeNested reg order nesting (.record r) options =
      writeAt reg order (.record r) options := by
  obtain ⟨x, hx, hexpansion, -, -⟩ := h.exists_record hr options
  funext s start
  rw [writeAt, writeNested_eq (hx nesting hn), writeNested_eq hexpansion]

theorem readAt_ends (h : reg.WellFormed) (hr : r ∈ reg.records) (order : ByteOrder)
    (buffer : Bytes) (options : Value) (start : Nat) :
    Ends (readAt reg order buffer (.record r) options start) := by
  obtain ⟨x, -, hx, -, -⟩ := h.exists_record hr options
  rw [readAt, readNested_eq buffer hx]
  exact x.read_ends order buffer start

theorem writeAt_ends (h : reg.WellFormed) (hr : r ∈ reg.records) (order : ByteOrder)
    (options : Value) (s : Source) (start : Nat) :
    WriteEnds (writeAt reg order (.record r) options s start) := by
  obtain ⟨x, -, hx, -, -⟩ := h.exists_record hr options
  rw [writeAt, writeNested_eq hx]
  exact x.write_ends order s start

end Codec

namespace Dataclass

variable {reg : Registry} {r : RecordType} {nesting : Nat}

theorem collectWithin_ends (h : reg.WellFormed) (hr : r ∈ reg.records)
    (hn : reg.rank r.name < nesting) (found : List Placement) :
    Ends (collectWithin reg nesting r found) := by
  induction nesting generalizing r found with
  | zero => omega
  | succ nesting ih =>
    rw [collectWithin]
    split
    · exact .ok _
    · refine .bind (.foldlM (fun found m hm ↦ ?_) found) fun _ ↦ .ok _
      have hs := h.supported r hr m hm
      obtain ⟨d, hd, -⟩ := hs.sized
      have hlookup : reg.lookup m.typeName = .ok d := by rw [Registry.lookup, hd]
      have hrank := hs.rank_lt
      split
      · exact .ok _
      · rw [hlookup]
        cases d with
        | scalar t => exact .ok _
        | record inner =>
          obtain ⟨hinner, hname⟩ := h.mem_records hd
          exact ih hinner (by rw [hname]; omega) found

theorem collect_ends (h : reg.WellFormed) (hr : r ∈ reg.records) : Ends (collect reg r) := by
  have hrank := Registry.rank_lt_size (Registry.mem_names_of_find? (h.find?_record hr))
  exact collectWithin_ends h hr (by omega) []

end Dataclass

namespace Registry

/-- Whatever schemas are compiled, successfully or not: the built-in types stay first, every record
type rests on types that were registered before it, and no recursion over nested types goes deeper
than the place of a record type. -/
theorem types_rest_on_earlier_types (schemas : List (String × String)) :
    let reg := standard.attemptAll schemas
    reg.names.Nodup ∧
    (∀ name d, (name, d) ∈ reg.entries → d.name = name) ∧
    reg.entries.take 17 =
      (Scalar.primitives ++ Scalar.containers).map (fun s ↦ (s.name, .scalar (.ofScalar s))) ∧
    reg.entries.drop 17 = reg.records.map (fun r ↦ (r.name, .record r)) ∧
    (∀ r ∈ reg.records, r.members ≠ [] ∧ (r.members.map Member.name).Nodup ∧ 0 < r.size ∧
      ∀ m ∈ r.members, 0 < m.count ∧ reg.Supports r m) ∧
    (∀ chain : List String, chain.IsChain reg.Mentions →
      chain.Pairwise fun outer inner ↦ reg.rank inner < reg.rank outer) ∧
    ∀ r ∈ reg.records, ∀ nesting, reg.rank r.name < nesting → ∀ order options,
      (∀ buffer start,
        Codec.readNested reg order buffer nesting (.record r) options start =
          Codec.readAt reg order buffer (.record r) options start ∧
        Ends (Codec.readAt reg order buffer (.record r) options start)) ∧
      (∀ s start,
        Codec.writeNested reg order nesting (.record r) options s start =
          Codec.writeAt reg order (.record r) options s start ∧
        WriteEnds (Codec.writeAt reg order (.record r) options s start)) ∧
      (∀ found, Ends (Dataclass.collectWithin reg nesting r found)) ∧
      Ends (Dataclass.collect reg r) := by
  intro reg
  have h : reg.WellFormed := wellFormed_attemptAll schemas
  refine ⟨h.nodup, fun name d hd ↦ h.name_of_find? (lookup_of_mem h.nodup hd), ?_, ?_,
    ?_, fun chain ↦ h.rank_decreases, ?_⟩
  · rw [h.entries_eq, standard_eq]
    exact List.take_left' rfl
  · rw [h.entries_eq]
    exact List.drop_left' rfl
  · intro r hr
    exact ⟨h.inhabited r hr, r.nodup, h.record_size_pos hr,
      fun m hm ↦ ⟨m.count_pos, h.supported r hr m hm⟩⟩
  · intro r hr nesting hn order options
    refine ⟨fun buffer start ↦ ⟨?_, Codec.readAt_ends h hr order buffer options start⟩,
      fun s start ↦ ⟨?_, Codec.writeAt_ends h hr order options s start⟩,
      Dataclass.collectWithin_ends h hr hn, Dataclass.collect_ends h hr⟩
    · rw [Codec.readNested_stable h hr hn]
    · rw [Codec.writeNested_stable h hr hn]

end Registry

end RecordCodec
