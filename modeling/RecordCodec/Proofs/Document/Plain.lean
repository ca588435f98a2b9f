import RecordCodec.Proofs.Document.RoundTrip
import RecordCodec.Value.Projection

namespace RecordCodec

/-- Whether a value is put together from truth values, integers with a decimal numeral, doubles with
a property, texts, lists and mappings. A mapping has each name once, and none that is reserved. -/
inductive Value.IsPlain (P : Binary64 → Prop) : Value → Prop
  | bool (b : Bool) : IsPlain P (.bool b)
  | int {n : Int} : Numeral.isWritable n = true → IsPlain P (.int n)
  | float {x : Binary64} : P x → IsPlain P (.float x)
  | text (s : String) : IsPlain P (.text s)
  | list {items : List Value} : (∀ v ∈ items, IsPlain P v) → IsPlain P (.list items)
  | dict {entries : List (String × Value)} : (entries.map Prod.fst).Nodup →
      (∀ e ∈ entries, isReservedName e.1 = false) → (∀ e ∈ entries, IsPlain P e.2) →
      IsPlain P (.dict entries)

namespace Value

variable {P : Binary64 → Prop}

theorem isPlain_float_iff {x : Binary64} : (float x).IsPlain P ↔ P x := by
  constructor
  · intro h
    cases h with
    | float hx => exact hx
  · exact .float

theorem isPlain_list_iff {items : List Value} :
    (list items).IsPlain P ↔ ∀ v ∈ items, v.IsPlain P := by
  constructor
  · intro h
    cases h with
    | list hitems => exact hitems
  · exact .list

end Value

namespace Document

mutual

def toValue : Document → Value
  | null => .none
  | bool b => .bool b
  | int n => .int n
  | float x => .float x
  | text s => .text s
  | array items => .list (toItems items)
  | object entries => .dict (toEntries entries)

def toItems : List Document → List Value
  | [] => []
  | d :: rest => toValue d :: toItems rest

def toEntries : List (String × Document) → List (String × Value)
  | [] => []
  | (key, d) :: rest => (key, toValue d) :: toEntries rest

end

mutual

theorem ofValue?_toValue : (d : Document) → ofValue? d.toValue = some d
  | null | bool _ | int _ | float _ | text _ => rfl
  | array items => by
    rw [toValue, ofValue?, ofItems?_toItems]
    rfl
  | object entries => by
    rw [toValue, ofValue?, ofEntries?_toEntries]
    rfl

theorem ofItems?_toItems : (items : List Document) → ofItems? (toItems items) = some items
  | [] => rfl
  | d :: rest => by
    rw [toItems, ofItems?, ofValue?_toValue, ofItems?_toItems]
    rfl

theorem ofEntries?_toEntries :
    (entries : List (String × Document)) → ofEntries? (toEntries entries) = some entries
  | [] => rfl
  | (key, d) :: rest => by
    rw [toEntries, ofEntries?, ofValue?_toValue, ofEntries?_toEntries]
    rfl

end

/-- Whether a document that can be printed holds a value. -/
structure Holds (d : Document) (v : Value) : Prop where
  toValue_eq : d.toValue = v
  writable : d.isWritable = true
  finite_iff : d.isFinite = true ↔ v.IsPlain fun x ↦ x.isFinite = true

variable {items : List Value} {entries : List (String × Value)} {P : Binary64 → Prop} {v : Value}

theorem exists_items (h : ∀ v ∈ items, ∃ d, Holds d v) : ∃ ds, toItems ds = items ∧
    areWritable ds = true ∧
    (areFinite ds = true ↔ ∀ v ∈ items, v.IsPlain fun x ↦ x.isFinite = true) := by
  induction items with
  | nil => exact ⟨[], rfl, rfl, iff_of_true rfl (List.forall_mem_nil _)⟩
  | cons v rest ih =>
    obtain ⟨⟨d, hd⟩, hrest⟩ := List.forall_mem_cons.1 h
    obtain ⟨ds, rfl, hwritable, hfinite⟩ := ih hrest
    refine ⟨d :: ds, ?_, ?_, ?_⟩
    · rw [toItems, hd.toValue_eq]
    · rw [areWritable, hd.writable, hwritable, Bool.and_true]
    · rw [areFinite, Bool.and_eq_true, hd.finite_iff, hfinite, List.forall_mem_cons]

theorem exists_entries (h : ∀ e ∈ entries, ∃ d, Holds d e.2) : ∃ ds, toEntries ds = entries ∧
    areEntriesWritable ds = true ∧
    (areEntriesFinite ds = true ↔ ∀ e ∈ entries, e.2.IsPlain fun x ↦ x.isFinite = true) := by
  induction entries with
  | nil => exact ⟨[], rfl, rfl, iff_of_true rfl (List.forall_mem_nil _)⟩
  | cons e rest ih =>
    obtain ⟨⟨d, hd⟩, hrest⟩ := List.forall_mem_cons.1 h
    obtain ⟨ds, rfl, hwritable, hfinite⟩ := ih hrest
    refine ⟨(e.1, d) :: ds, ?_, ?_, ?_⟩
    · rw [toEntries, hd.toValue_eq]
    · rw [areEntriesWritable, hd.writable, hwritable, Bool.and_true]
    · rw [areEntriesFinite, Bool.and_eq_true, hd.finite_iff, hfinite, List.forall_mem_cons]

theorem exists_holds (h : v.IsPlain P) : ∃ d, Holds d v := by
  induction h with
  | bool b => exact ⟨bool b, rfl, rfl, iff_of_true rfl (.bool b)⟩
  | @int n hn => exact ⟨int n, rfl, hn, iff_of_true rfl (.int hn)⟩
  | @float x _ =>
    exact ⟨float x, rfl, rfl, by rw [Value.isPlain_float_iff, isFinite]⟩
  | text s => exact ⟨text s, rfl, rfl, iff_of_true rfl (.text s)⟩
  | list _ ih =>
    obtain ⟨ds, hds, hwritable, hfinite⟩ := exists_items ih
    exact ⟨array ds, congrArg Value.list hds, hwritable, hfinite.trans Value.isPlain_list_iff.symm⟩
  | dict hnodup hreserved _ ih =>
    obtain ⟨ds, hds, hwritable, hfinite⟩ := exists_entries ih
    refine ⟨object ds, congrArg Value.dict hds, hwritable, hfinite.trans ?_⟩
    constructor
    · exact .dict hnodup hreserved
    · intro h
      cases h with
      | dict _ _ hentries => exact hentries

end Document

end RecordCodec
