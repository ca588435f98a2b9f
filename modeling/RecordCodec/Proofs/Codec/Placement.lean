import RecordCodec.Proofs.Codec.RoundTrip
import RecordCodec.Proofs.Expansion.Pieces

namespace RecordCodec

open Expansion Registry

namespace Registry.Resolves

variable {reg : Registry} {name : String} {options : Value} {y : Expansion} {data : Bytes} {p : Nat}

theorem readValue_eq (h : reg.Resolves name options y) (order : ByteOrder)
    (hp : p + y.size ≤ data.length) (writable : Bool) :
    Codec.readValue reg (.flat data writable) (.int p) name order.toValue options =
      y.read order data p := by
  obtain ⟨d, hd, hsize, hy⟩ := h.find?
  exact Codec.readValue_eq hd hsize hy (Codec.ofValue_natCast p) (by omega) writable

theorem writeValue_eq (h : reg.Resolves name options y) (order : ByteOrder)
    (hp : p + y.size ≤ data.length) (s : Source) :
    Codec.writeValue reg (.flat data true) (.int p) name s order.toValue options =
      match (y.write order s p).run data with
      | .ok size after => (.ok size, .flat after true)
      | .error e after => (.error e, .flat after true) := by
  obtain ⟨d, hd, hsize, hy⟩ := h.find?
  exact Codec.writeValue_eq hd hsize hy (Codec.ofValue_natCast p) (by omega) s

end Registry.Resolves

variable {reg : Registry} {order : ByteOrder} {data : Bytes} {p : Nat}

def Slot.readAt (slot : Slot) (reg : Registry) (order : ByteOrder) (buffer : Buffer) (p : Nat)
    (offset : Int) : Except Error Value :=
  (Codec.readValue reg buffer (.int (p + offset)) slot.typeName order.toValue slot.options).map
    Prod.fst

/-- Whether a value is what reading the elements of the slot one by one gives: the element itself
if there is only one, otherwise the list of all. -/
def Slot.IsReadAs (slot : Slot) (reg : Registry) (order : ByteOrder) (buffer : Buffer) (p : Nat)
    (v : Value) : Prop :=
  if slot.count = 1 then slot.readAt reg order buffer p slot.offset = .ok v
  else
    ∃ items, v = .list items ∧ items.length = slot.count ∧
      ∀ (i : Nat) w, items[i]? = some w →
        slot.readAt reg order buffer p (slot.offset + i * slot.elementSize) = .ok w

theorem readAt_slot {m : Member} {y : Expansion} (hy : reg.Resolves m.typeName m.options y)
    {offset o : Nat} {v : Value} {n : Nat} (hp : p + o + y.size ≤ data.length)
    (hv : y.read order data (p + o) = .ok (v, n)) (writable : Bool) :
    (m.slot offset).readAt reg order (.flat data writable) p o = .ok v := by
  have hread := hy.readValue_eq order hp writable
  rw [hv, Int.natCast_add] at hread
  exact congrArg (Except.map Prod.fst) hread

theorem exists_isReadAs {m : Member} {y : Expansion} (hy : reg.Resolves m.typeName m.options y)
    (hsize : (y.size : Int) = m.elementSize) (order : ByteOrder) {offset : Nat}
    (hfit : p + offset + m.count * y.size ≤ data.length) (writable : Bool) : ∃ v,
      (if m.count = 1 then y else .array m.name m.count y).read order data (p + offset) =
        .ok (v, m.count * y.size) ∧
      (m.slot offset).IsReadAs reg order (.flat data writable) p v := by
  have hcount : (m.slot offset).count = m.count := rfl
  have hoffset : (m.slot offset).offset = offset := rfl
  have helement : ∀ i < m.count, ∃ v,
      y.read order data (p + offset + i * y.size) = .ok (v, y.size) ∧
        (m.slot offset).readAt reg order (.flat data writable) p
          (offset + i * (m.slot offset).elementSize) = .ok v := by
    intro i hi
    have hle := element_end_le hi y.size
    obtain ⟨v, hv⟩ := exists_read order data y hy.sound (p + offset + i * y.size) (by omega)
    refine ⟨v, hv, ?_⟩
    rw [m.elementSize_slot, ← hsize, ← Int.natCast_mul, ← Int.natCast_add]
    rw [Nat.add_assoc] at hv
    exact readAt_slot hy (by omega) hv writable
  simp only [Slot.IsReadAs, hcount, hoffset]
  by_cases hc : m.count = 1
  · obtain ⟨v, hv, hread⟩ := helement 0 (by omega)
    rw [Nat.zero_mul, Nat.add_zero] at hv
    rw [Int.natCast_zero, Int.zero_mul, Int.add_zero] at hread
    refine ⟨v, ?_, ?_⟩
    · rw [if_pos hc, hv, hc, Nat.one_mul]
    · rw [if_pos hc]
      exact hread
  · obtain ⟨items, hlength, hitems⟩ := exists_items helement
    refine ⟨.list items, ?_, ?_⟩
    · rw [if_neg hc, Expansion.read, ← hlength,
        readItems_of_getElem? fun i v hi ↦ (hitems i v hi).1]
      rfl
    · rw [if_neg hc]
      exact ⟨items, rfl, hlength, fun i w hi ↦ (hitems i w hi).2⟩

theorem names_slotsFrom (offset : Int) (members : List Member) :
    (Placement.slotsFrom offset members).map Slot.name = members.map Member.name := by
  induction members generalizing offset with
  | nil => rfl
  | cons m rest ih => rw [m.slotsFrom_cons, List.map_cons, List.map_cons, ih]; rfl

theorem exists_readMembers_slots {members : List Member} {entries : List (String × Expansion)}
    (h : members.Forall₂ reg.Expands entries) (order : ByteOrder) (offset : Nat)
    (hfit : p + offset + sizeAll entries ≤ data.length) (writable : Bool) : ∃ values,
      Expansion.readMembers order data entries (p + offset) = .ok (values, sizeAll entries) ∧
      (Placement.slotsFrom offset members).Forall₂ (fun slot value ↦ value.1 = slot.name ∧
        slot.IsReadAs reg order (.flat data writable) p value.2) values := by
  induction h generalizing offset with
  | nil => exact ⟨[], rfl, .nil⟩
  | @cons m entry members entries hm _ ih =>
    have hmsize := hm.size_eq
    obtain ⟨y, hy, hsize, rfl⟩ := hm
    simp only [sizeAll, size_member] at hfit hmsize ⊢
    have hroom : p + offset + m.count * y.size ≤ data.length := by omega
    obtain ⟨v, hv, hslot⟩ := exists_isReadAs hy hsize order hroom writable
    obtain ⟨values, hvalues, hslots⟩ := ih (offset + m.count * y.size) (by omega)
    refine ⟨(m.name, v) :: values, ?_, ?_⟩
    · rw [← Nat.add_assoc] at hvalues
      exact readMembers_cons hv hvalues
    · rw [m.slotsFrom_cons, ← hmsize, ← Int.natCast_add]
      exact .cons ⟨rfl, hslot⟩ hslots

def Piece.write (q : Piece) (reg : Registry) (order : ByteOrder) (s : Source) (p : Nat)
    (buffer : Buffer) : Option Buffer :=
  (s.part? buffer.data q.path).bind fun part ↦
    match Codec.writeValue reg buffer (.int (p + q.offset)) q.slot.typeName part order.toValue
      q.slot.options with
    | (.ok _, after) => some after
    | (.error _, _) => none

namespace Piece.Covers

variable {places : List Expansion.Place} {stop start : Nat} {q : Piece} {y : Expansion}
  {cur : Bytes} {s : Source}

theorem offset_natCast (h : q.Covers reg places stop start y) :
    q.offset = (start + q.index * y.size : Nat) := by
  rw [Piece.offset, h.offset_eq, h.size_eq, ← Int.natCast_mul, ← Int.natCast_add]

theorem fits (h : q.Covers reg places stop start y) :
    start + q.index * y.size + y.size ≤ stop := by
  have hle := element_end_le h.index_lt y.size
  have hend := h.end_le
  omega

theorem part?_eq (h : q.Covers reg places stop start y) (hfit : p + stop ≤ data.length)
    (hsame : Window.SameOn (p + start + q.index * y.size) y.size data cur) :
    s.part? cur q.path = s.part? data q.path := by
  have hend := h.end_le
  rw [Piece.path]
  by_cases hc : q.slot.count = 1
  · rw [if_pos hc]
    rfl
  · rw [if_neg hc]
    show (s.step? data (.member q.slot.name)).bind _ = (s.step? data (.member q.slot.name)).bind _
    refine Option.bind_congr fun t _ ↦ ?_
    have hstep : t.step? cur (.element q.slot.count q.index) =
        t.step? data (.element q.slot.count q.index) :=
      step?_element_of_sameOn hsame h.resolves.sound.size_pos (by omega)
    rw [Source.part?, Source.part?, hstep]
    rfl

theorem encoding?_eq {x : Expansion} {after : Bytes} (h : q.Covers reg x.places x.size start y)
    (hx : x.Complete order s p data after) {place : Expansion.Place} (hp : place ∈ y.places) :
    (s.part? data q.path).bind (place.encoding? order data) =
      some (place.window after (p + (start + q.index * y.size))) := by
  rw [← place.encoding?_along, ← place.window_along q.path]
  exact hx.encoding?_eq _ (h.along_mem place hp)

theorem exists_part {x : Expansion} {after : Bytes} (h : q.Covers reg x.places x.size start y)
    (hx : x.Complete order s p data after) : ∃ t, s.part? data q.path = some t ∧ t.IsTaken := by
  obtain ⟨place, hp⟩ := exists_place h.resolves.sound.size_pos
  obtain ⟨t, ht, -⟩ := Option.bind_eq_some_iff.1 (h.encoding?_eq hx hp)
  refine ⟨t, ht, Source.isTaken_of_part? (fun hnil ↦ ?_) ht⟩
  rw [Piece.path] at hnil
  split at hnil <;> cases hnil

end Piece.Covers

/-- How far the pieces of a record have been written: those that are left are as before, and the
rest of the buffer is as in the end. -/
structure Pending (todo : List Piece) (p : Nat) (data after cur : Bytes) : Prop where
  length_eq : cur.length = data.length
  as_before : ∀ q ∈ todo, ∀ i : Nat, q.Owns (i - p) → cur[i]? = data[i]?
  as_after : ∀ i : Nat, (∀ q ∈ todo, ¬ q.Owns (i - p)) → cur[i]? = after[i]?

namespace Pending

variable {x : Expansion} {s : Source} {after cur : Bytes} {q : Piece} {todo : List Piece}
  {places : List Expansion.Place} {stop start : Nat} {y : Expansion}

theorem sameOn (h : Pending todo p data after cur) (hq : q ∈ todo)
    (hcovers : q.Covers reg places stop start y) :
    Window.SameOn (p + start + q.index * y.size) y.size data cur := by
  refine ⟨h.length_eq, fun i hi hi' ↦ h.as_before q hq i ?_⟩
  rw [Piece.Owns, hcovers.offset_natCast, hcovers.size_eq]
  omega

theorem of_contiguous {front : List Piece} (hx : x.Complete order s p data after)
    (h : Contiguous 0 front x.size) (hperm : todo.Perm front) : Pending todo p data after data := by
  refine ⟨rfl, fun _ _ _ _ ↦ rfl, fun i hi ↦ (hx.getElem?_eq i ?_).symm⟩
  by_contra hinside
  obtain ⟨q, hq, howns⟩ := h.exists_owns (i := i - p) (by omega) (by omega)
  exact hi q (hperm.mem_iff.2 hq) howns

theorem set (h : Pending (q :: todo) p data after cur) (hafter : after.length = data.length)
    (hdisjoint : ∀ q' ∈ todo, ∀ i, q.Owns i → ¬ q'.Owns i)
    (hcovers : q.Covers reg places stop start y) (hfit : p + stop ≤ data.length) :
    Pending todo p data after (Window.set cur (p + (start + q.index * y.size))
      (Window.get after (p + (start + q.index * y.size)) y.size)) := by
  have hend := hcovers.fits
  have hlength := h.length_eq
  have hblock : (Window.get after (p + (start + q.index * y.size)) y.size).length = y.size :=
    Window.length_get (by omega)
  have hinside (i : Nat) (howns : q.Owns (i - p)) :
      (Window.set cur (p + (start + q.index * y.size))
        (Window.get after (p + (start + q.index * y.size)) y.size))[i]? = after[i]? := by
    rw [Piece.Owns, hcovers.offset_natCast, hcovers.size_eq] at howns
    exact Window.getElem?_set_get (by omega) (by omega) (by omega) (by omega)
  have houtside (i : Nat) (howns : ¬ q.Owns (i - p)) :
      (Window.set cur (p + (start + q.index * y.size))
        (Window.get after (p + (start + q.index * y.size)) y.size))[i]? = cur[i]? := by
    rw [Piece.Owns, hcovers.offset_natCast, hcovers.size_eq] at howns
    by_cases hi : i < p + (start + q.index * y.size)
    · exact Window.getElem?_set_of_lt hi (by omega)
    · exact Window.getElem?_set_of_le (by omega) (by omega)
  refine ⟨?_, ?_, ?_⟩
  · rw [← hlength]
    exact Window.length_set (by omega)
  · intro q' hq' i howns'
    rw [houtside i fun howns ↦ hdisjoint q' hq' _ howns howns']
    exact h.as_before q' (List.mem_cons_of_mem _ hq') i howns'
  · intro i hi
    by_cases howns : q.Owns (i - p)
    · exact hinside i howns
    · rw [houtside i howns]
      refine h.as_after i fun q' hq' ↦ ?_
      rcases List.mem_cons.1 hq' with rfl | hq'
      · exact howns
      · exact hi q' hq'

/-- One piece is written as it was when the whole record was. -/
theorem step (hx : x.Complete order s p data after) (hfit : p + x.size ≤ data.length)
    (h : Pending (q :: todo) p data after cur)
    (hdisjoint : ∀ q' ∈ todo, ∀ i, q.Owns i → ¬ q'.Owns i)
    (hcovers : ∃ start y, q.Covers reg x.places x.size start y) :
    ∃ next, q.write reg order s p (.flat cur true) = some (.flat next true) ∧
      Pending todo p data after next := by
  obtain ⟨start, y, hcovers⟩ := hcovers
  obtain ⟨t, ht, htaken⟩ := hcovers.exists_part hx
  have hsame := h.sameOn List.mem_cons_self hcovers
  have hend := hcovers.fits
  have hlength := h.length_eq
  have hpart : s.part? cur q.path = s.part? data q.path := hcovers.part?_eq hfit hsame
  have hroom : p + (start + q.index * y.size) + y.size ≤ cur.length := by omega
  have hwrite := write_of_windows hcovers.resolves.sound hroom fun place hp ↦ by
    have hencoding := hcovers.encoding?_eq hx hp
    rw [ht, Option.bind_some] at hencoding
    rw [← hencoding]
    exact encoding?_of_sameOn y hsame place hp t htaken (by omega)
  refine ⟨_, ?_, h.set hx.length_eq hdisjoint hcovers hfit⟩
  have hvalue := hcovers.resolves.writeValue_eq order hroom t
  rw [hwrite, Int.natCast_add, ← hcovers.offset_natCast] at hvalue
  show (s.part? cur q.path).bind _ = _
  rw [hpart, ht, Option.bind_some, hvalue]

theorem run (hx : x.Complete order s p data after) (hfit : p + x.size ≤ data.length)
    (h : Pending todo p data after cur)
    (hdisjoint : todo.Pairwise fun q q' ↦ ∀ i, q.Owns i → ¬ q'.Owns i)
    (hcovers : ∀ q ∈ todo, ∃ start y, q.Covers reg x.places x.size start y) :
    todo.foldlM (fun buffer q ↦ q.write reg order s p buffer) (.flat cur true) =
      some (.flat after true) := by
  induction todo generalizing cur with
  | nil =>
    have hcur : cur = after := List.ext_getElem? fun i ↦ h.as_after i nofun
    rw [hcur]
    rfl
  | cons q todo ih =>
    obtain ⟨hhead, hdisjoint⟩ := List.pairwise_cons.1 hdisjoint
    obtain ⟨next, hnext, hpending⟩ := h.step hx hfit hhead (hcovers q List.mem_cons_self)
    rw [List.foldlM_cons, hnext]
    exact ih hpending hdisjoint fun q' hq' ↦ hcovers q' (List.mem_cons_of_mem _ hq')

end Pending

namespace Codec

/-- Member by member or element by element: a record is read as the values at the offsets of its
placement, and what is written does not depend on the order in which its pieces are. -/
theorem access_by_placement (schemas : List (String × String)) {record : String} {r : RecordType}
    (hr : (standard.attemptAll schemas).find? record = some (.record r)) (order : ByteOrder)
    (data : Bytes) {position : Value} {p : Nat} (hpos : Position.ofValue position = .ok p)
    (hp : (p : Int) + r.size ≤ data.length) :
    (∀ writable, ∃ entries,
      read (standard.attemptAll schemas) (.flat data writable) position record order.toValue =
        .ok (.dict entries) ∧
      entries.map Prod.fst = (Placement.ofRecord r).slots.map Slot.name ∧
      ∀ slot ∈ (Placement.ofRecord r).slots, ∃ v, entries.lookup slot.name = some v ∧
        slot.IsReadAs (standard.attemptAll schemas) order (.flat data writable) p v) ∧
    ∀ (s : Source) (n : Nat) (after : Buffer),
      write (standard.attemptAll schemas) (.flat data true) position record s order.toValue =
        (.ok n, after) →
      ∀ pieces : List Piece, pieces.Perm (Placement.ofRecord r).pieces →
        pieces.foldlM (fun buffer q ↦ q.write (standard.attemptAll schemas) order s p buffer)
          (.flat data true) = some after := by
  have h := wellFormed_attemptAll schemas
  obtain ⟨hmem, -⟩ := h.mem_records hr
  obtain ⟨x, hx, hsound, hsize⟩ := exists_expansion schemas hr
  obtain ⟨members, rfl, hmembers⟩ := h.exists_expands hmem hx
  have hsizeAll : (Expansion.record r.name members).size = sizeAll members := by
    rw [Expansion.size]
  have hfit : p + (Expansion.record r.name members).size ≤ data.length := by omega
  constructor
  · intro writable
    have hroom : p + 0 + sizeAll members ≤ data.length := by omega
    obtain ⟨values, hvalues, hslots⟩ := exists_readMembers_slots hmembers order 0 hroom writable
    have hnames : values.map Prod.fst = (Placement.ofRecord r).slots.map Slot.name :=
      map_eq_map_of_forall₂ (hslots.imp fun _ _ hslot ↦ hslot.1)
    refine ⟨values, ?_, hnames, ?_⟩
    · rw [read_eq_readValue hr, readValue_eq hr rfl hx hpos hp, Expansion.read]
      rw [Nat.add_zero] at hvalues
      rw [hvalues]
      rfl
    · intro slot hslot
      obtain ⟨value, hvalue, hname, hread⟩ := exists_of_forall₂ hslots.flip hslot
      refine ⟨value.2, lookup_of_mem ?_ ?_, hread⟩
      · rw [hnames, Placement.ofRecord, names_slotsFrom]
        exact r.nodup
      · rw [← hname]
        exact hvalue
  · intro s n after hw pieces hpieces
    rw [write_eq_writeValue hr, writeValue_eq hr rfl hx hpos hp] at hw
    cases hrun : ((Expansion.record r.name members).write order s p).run data with
    | error e data' =>
      rw [hrun] at hw
      cases hw
    | ok size data' =>
      rw [hrun] at hw
      cases hw
      obtain ⟨-, hcomplete⟩ := complete_of_write hsound hfit hrun
      have hcontiguous := contiguous_slotsFrom r.members 0
      have hcovers := exists_covers hmembers 0
      rw [Int.zero_add] at hcontiguous
      have hpositive : ∀ q ∈ (Placement.ofRecord r).pieces, 0 ≤ q.slot.elementSize := by
        intro q hq
        obtain ⟨start, y, hcover⟩ := hcovers q hq
        rw [hcover.size_eq]
        exact Int.natCast_nonneg _
      have hall : Contiguous 0 (Placement.ofRecord r).pieces
          (Expansion.record r.name members).size := by
        rw [hsize]
        exact hcontiguous
      refine (Pending.of_contiguous hcomplete hall hpieces).run hcomplete hfit ?_ ?_
      · refine (hpieces.pairwise_iff fun hdisjoint i howns howns' ↦ ?_).2
          (hcontiguous.pairwise hpositive)
        exact hdisjoint i howns' howns
      · intro q hq
        have hcover := hcovers q (hpieces.mem_iff.1 hq)
        rwa [Nat.zero_add, ← hsizeAll, ← Expansion.places] at hcover

theorem access_by_placement_row : ∃ r n after,
    (standard.attemptAll rowSchemas).find? "Row" = some (.record r) ∧
    write (standard.attemptAll rowSchemas) (.flat (List.replicate 20 0) true)
      (.float ⟨0x4000000000000000⟩) "Row" (.value rowValue) (.text "little") = (.ok n, after) ∧
    (Placement.ofRecord r).pieces.reverse.foldlM
      (fun buffer q ↦ q.write (standard.attemptAll rowSchemas) .little (.value rowValue) 2 buffer)
      (.flat (List.replicate 20 0) true) = some after := by
  obtain ⟨r, hr, hsize, -⟩ := find?_row
  have hpos : Position.ofValue (.float ⟨0x4000000000000000⟩) = .ok 2 := by rfl
  have h := (access_by_placement rowSchemas hr .little (List.replicate 20 0) hpos
    (by rw [hsize]; decide)).2 (.value rowValue)
  have hok : (write (standard.attemptAll rowSchemas) (.flat (List.replicate 20 0) true)
      (.float ⟨0x4000000000000000⟩) "Row" (.value rowValue) (.text "little")).1.isOk = true := by
    decide +kernel
  cases hw : write (standard.attemptAll rowSchemas) (.flat (List.replicate 20 0) true)
      (.float ⟨0x4000000000000000⟩) "Row" (.value rowValue) (.text "little") with
  | mk outcome after =>
    rw [hw] at hok
    cases outcome with
    | error e => cases hok
    | ok n => exact ⟨r, n, after, hr, rfl, h n after hw _ (List.reverse_perm _)⟩

end Codec

end RecordCodec
