import RecordCodec.Proofs.Codec.Span
import RecordCodec.Proofs.Expansion.Locality
import RecordCodec.Proofs.Expansion.Pieces

namespace RecordCodec

open Expansion Registry

namespace RecordType

variable {r : RecordType} {f : Member} {o : Int}

theorem names_offsetsFrom (start : Int) (members : List Member) :
    (offsetsFrom start members).map Prod.fst = members.map Member.name := by
  induction members generalizing start with
  | nil => rfl
  | cons m rest ih => rw [offsetsFrom, List.map_cons, List.map_cons, ih]

theorem mem_offsetsFrom (start : Int) (front rest : List Member) (f : Member) :
    (f.name, start + totalSize front) ∈ offsetsFrom start (front ++ f :: rest) := by
  induction front generalizing start with
  | nil =>
    rw [totalSize, Int.add_zero]
    exact List.mem_cons_self
  | cons m front ih =>
    rw [totalSize, ← Int.add_assoc]
    exact List.mem_cons_of_mem _ (ih (start + m.size))

theorem exists_front (hf : f ∈ r.members) (ho : (f.name, o) ∈ r.offsets) :
    ∃ front rest, r.members = front ++ f :: rest ∧ o = totalSize front := by
  obtain ⟨front, rest, hmembers⟩ := List.append_of_mem hf
  refine ⟨front, rest, hmembers, ?_⟩
  have hnodup : (r.offsets.map Prod.fst).Nodup := by
    rw [offsets, names_offsetsFrom]
    exact r.nodup
  have hoffset : (f.name, totalSize front) ∈ r.offsets := by
    have hmem := mem_offsetsFrom 0 front rest f
    rwa [Int.zero_add, ← hmembers] at hmem
  have hlookup := lookup_of_mem hnodup ho
  rw [lookup_of_mem hnodup hoffset] at hlookup
  exact (Option.some_inj.1 hlookup).symm

end RecordType

namespace Codec

variable {reg : Registry} {name : String} {d : Descriptor} {size : Int} {data data' : Bytes}
  {p p' : Nat}

theorem readAt_eq_of_get_eq (hreg : reg.WellFormed) (hd : reg.find? name = some d)
    (hsize : d.size? = some size) (hp : (p : Int) + size ≤ data.length)
    (hp' : (p' : Int) + size ≤ data'.length)
    (h : Window.get data p size.toNat = Window.get data' p' size.toNat) (order : ByteOrder)
    (options : Value) : readAt reg order data d options p = readAt reg order data' d options p' := by
  rcases hreg.find?_cases hd with ⟨s, -, -, rfl⟩ | ⟨r, -, -, rfl⟩
  · cases s with
    | string => cases hsize
    | leaf l =>
      -- a bitfield may have been given a layout that it refuses, so there need be no expansion
      cases hsize
      obtain ⟨bound, hbound⟩ := reg.exists_nestingBound
      have hread : l.read order options data p = l.read order options data' p' := by
        rw [read_leaf options (Int.ofNat_le.1 hp), read_leaf options (Int.ofNat_le.1 hp')]
        exact congrArg (l.decode order options) h
      rw [readAt, readAt, hbound, readNested, readNested]
      simp only [ScalarType.ofScalar, Scalar.read, hread]
  · obtain ⟨x, hx, hsound, hxsize⟩ :=
      hreg.exists_expansion hd hsize (show (Descriptor.record r).Admits options from trivial)
    rw [show size.toNat = x.size by omega] at h
    rw [readAt, readAt, readNested_eq data hx, readNested_eq data' hx]
    exact read_eq_of_get_eq order hsound (by omega) (by omega) h

theorem exists_readValue_apart (hreg : reg.WellFormed) {record : String} {r : RecordType}
    (hr : reg.find? record = some (.record r)) {f : Member} {o : Int} (hf : f ∈ r.members)
    (ho : (f.name, o) ∈ r.offsets) (order : ByteOrder) (options : Value) {position : Value}
    (hpos : Position.ofValue position = .ok p) (hp : (p : Int) + r.size ≤ data.length)
    (hlength : data'.length = data.length)
    (hsame : ∀ i : Nat, (i : Int) < p + o ∨ p + o + f.size ≤ i → data'[i]? = data[i]?) :
    ∃ before v v' behind,
      (before ++ (f.name, v) :: behind).map Prod.fst = r.members.map Member.name ∧
      (before ++ (f.name, v') :: behind).map Prod.fst = r.members.map Member.name ∧
      ∀ writable writable' : Bool,
        readValue reg (.flat data writable) position record order.toValue options =
          .ok (.dict (before ++ (f.name, v) :: behind), r.size.toNat) ∧
        readValue reg (.flat data' writable') position record order.toValue options =
          .ok (.dict (before ++ (f.name, v') :: behind), r.size.toNat) := by
  obtain ⟨x, hx, hsound, hxsize⟩ :=
    hreg.exists_expansion hr rfl (show (Descriptor.record r).Admits options from trivial)
  obtain ⟨hmem, -⟩ := hreg.mem_records hr
  obtain ⟨members, rfl, hmembers⟩ := hreg.exists_expands hmem hx
  have hnames : members.map Prod.fst = r.members.map Member.name :=
    map_eq_map_of_forall₂ (hmembers.imp fun _ _ hm ↦ hm.name_eq)
  obtain ⟨front, rest, hsplit, rfl⟩ := RecordType.exists_front hf ho
  obtain ⟨front', ⟨name, x⟩, rest', rfl, hfront, hentry⟩ :=
    exists_append_of_forall₂ (hsplit ▸ hmembers)
  have hoffset := sizeAll_eq_totalSize (hfront.imp fun _ _ hm ↦ hm.size_eq)
  have hxsize' : (x.size : Int) = f.size := hentry.size_eq
  obtain rfl : name = f.name := hentry.name_eq
  rw [Expansion.size] at hxsize
  have hnat : r.size.toNat = sizeAll (front' ++ (f.name, x) :: rest') := by omega
  cases hsound with
  | record _ hnodup hsound =>
    have hapart : Window.SameOutside (p + sizeAll front') x.size data data' :=
      ⟨hlength, fun i hi ↦ hsame i (by omega)⟩
    obtain ⟨before, v, v', behind, hv, hv'⟩ :=
      exists_readMembers_apart order front' hsound hnodup (by omega) hapart
    refine ⟨before, v, v', behind, ?_, ?_, fun writable writable' ↦ ⟨?_, ?_⟩⟩
    · exact (names_of_readMembers hv).trans hnames
    · exact (names_of_readMembers hv').trans hnames
    · rw [readValue_eq hr rfl hx hpos hp, Expansion.read, hv, hnat]
      rfl
    · rw [readValue_eq hr rfl hx hpos (by omega), Expansion.read, hv', hnat]
      rfl

theorem lookup_append_cons_of_ne {α : Type} {name other : String} (h : other ≠ name)
    (before behind : List (String × α)) (v v' : α) :
    (before ++ (name, v) :: behind).lookup other = (before ++ (name, v') :: behind).lookup other := by
  rw [List.lookup_append, List.lookup_append, List.lookup_cons, List.lookup_cons,
    beq_false_of_ne h]

/-- Equal bytes are read as equal values, with whatever options and in whatever order of bytes,
wherever they lie. A record that is read twice, with changes to the bytes of one member in between,
has the same entries under all other names. -/
theorem reads_do_not_interfere (schemas : List (String × String)) :
    (∀ (name : String) (d : Descriptor) (size : Int),
      (standard.attemptAll schemas).find? name = some d → d.size? = some size →
      ∀ (order options position position' : Value) (data data' : Bytes) (writable writable' : Bool)
        (p p' : Nat), Position.ofValue position = .ok p → Position.ofValue position' = .ok p' →
        (p : Int) + size ≤ data.length → (p' : Int) + size ≤ data'.length →
        Window.get data p size.toNat = Window.get data' p' size.toNat →
        readValue (standard.attemptAll schemas) (.flat data writable) position name order options =
          readValue (standard.attemptAll schemas) (.flat data' writable') position' name order
            options) ∧
    ∀ (record : String) (r : RecordType),
      (standard.attemptAll schemas).find? record = some (.record r) →
      ∀ f ∈ r.members, ∀ o, (f.name, o) ∈ r.offsets →
      ∀ (order : ByteOrder) (options position : Value) (data data' : Bytes)
        (writable writable' : Bool) (p : Nat), Position.ofValue position = .ok p →
        (p : Int) + r.size ≤ data.length → data'.length = data.length →
        (∀ i : Nat, (i : Int) < p + o ∨ p + o + f.size ≤ i → data'[i]? = data[i]?) →
        ∃ entries entries',
          readValue (standard.attemptAll schemas) (.flat data writable) position record
            order.toValue options = .ok (.dict entries, r.size.toNat) ∧
          readValue (standard.attemptAll schemas) (.flat data' writable') position record
            order.toValue options = .ok (.dict entries', r.size.toNat) ∧
          entries.map Prod.fst = r.members.map Member.name ∧
          entries'.map Prod.fst = r.members.map Member.name ∧
          ∀ other ≠ f.name, entries.lookup other = entries'.lookup other := by
  have hreg := wellFormed_attemptAll schemas
  constructor
  · intro name d size hd hsize order options position position' data data' writable writable' p p'
      hpos hpos' hp hp' h
    have hread (order : ByteOrder) := readAt_eq_of_get_eq hreg hd hsize hp hp' h order options
    simp only [readValue, Buffer.view, lookup_of_find? hd, startOf_of_size? hsize,
      span_of_le hpos hp, span_of_le hpos' hp', ok_bind, hread]
  · intro record r hr f hf o ho order options position data data' writable writable' p hpos hp
      hlength hsame
    obtain ⟨before, v, v', behind, hnames, hnames', hreads⟩ :=
      exists_readValue_apart hreg hr hf ho order options hpos hp hlength hsame
    obtain ⟨hread, hread'⟩ := hreads writable writable'
    refine ⟨_, _, hread, hread', hnames, hnames', ?_⟩
    intro other hother
    exact lookup_append_cons_of_ne hother before behind v v'

def isPlacedRow : Descriptor → Bool
  | .record r => r.size == 18 && r.offsets == [("on", 0), ("cells", 4)] &&
    r.members.any fun m ↦ m.name == "cells" && m.size == 14
  | .scalar _ => false

theorem find?_placedRow : ∃ r, (standard.attemptAll rowSchemas).find? "Row" = some (.record r) ∧
    r.size = 18 ∧ ∃ f ∈ r.members, f.name = "cells" ∧ f.size = 14 ∧ (f.name, 4) ∈ r.offsets := by
  have h : ((standard.attemptAll rowSchemas).find? "Row").any isPlacedRow = true := by
    decide +kernel
  obtain ⟨d, hd, hrow⟩ := (Option.any_eq_true _ _).1 h
  cases d with
  | scalar t => cases hrow
  | record r =>
    simp only [isPlacedRow, Bool.and_eq_true, beq_iff_eq, List.any_eq_true] at hrow
    obtain ⟨⟨hsize, hoffsets⟩, f, hf, hname, hfsize⟩ := hrow
    exact ⟨r, hd, hsize, f, hf, hname, hfsize, by rw [hname, hoffsets]; decide⟩

theorem reads_do_not_interfere_row :
    readValue (standard.attemptAll rowSchemas) (.flat rowBytes false) (.int 1) "Row" (.text "big")
        (.int 5) =
      readValue (standard.attemptAll rowSchemas) (.flat (rowBytes.drop 1) true) (.int 0) "Row"
        (.text "big") (.int 5) ∧
    ∃ entries entries',
      readValue (standard.attemptAll rowSchemas) (.flat rowBytes false) (.int 1) "Row"
        (.text "big") .none = .ok (.dict entries, 18) ∧
      readValue (standard.attemptAll rowSchemas) (.flat (rowBytes.set 7 0xFF) false) (.int 1) "Row"
        (.text "big") .none = .ok (.dict entries', 18) ∧
      entries.lookup "on" = entries'.lookup "on" := by
  obtain ⟨r, hr, hsize, f, hf, hname, hfsize, ho⟩ := find?_placedRow
  obtain ⟨hlocal, hapart⟩ := reads_do_not_interfere rowSchemas
  constructor
  · exact hlocal "Row" (.record r) 18 hr (congrArg some hsize) (.text "big") (.int 5) (.int 1)
      (.int 0) rowBytes (rowBytes.drop 1) false true 1 0 rfl rfl (by decide) (by decide) (by decide)
  · obtain ⟨entries, entries', hread, hread', -, -, hlookup⟩ := hapart "Row" r hr f hf 4 ho .big
      .none (.int 1) rowBytes (rowBytes.set 7 0xFF) false false 1 rfl (by rw [hsize]; decide)
      List.length_set fun i hi ↦ List.getElem?_set_ne (by omega)
    rw [hsize] at hread hread'
    exact ⟨entries, entries', hread, hread', hlookup "on" (by rw [hname]; decide)⟩

end Codec

end RecordCodec
