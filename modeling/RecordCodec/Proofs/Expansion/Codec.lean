import RecordCodec.Codec.Read
import RecordCodec.Codec.Write
import RecordCodec.Proofs.Expansion.Basic
import RecordCodec.Proofs.Leaf.Errors

namespace RecordCodec

namespace Expansion

variable (order : ByteOrder)

mutual

def read (buffer : Bytes) : Expansion → Nat → Except Error (Value × Nat)
  | leaf l options, cursor => do return (← l.read order options buffer cursor, l.size)
  | array _ count item, cursor => do
    let (items, size) ← Codec.readItems (read buffer item) count cursor
    return (.list items, size)
  | record _ members, cursor => do
    let (entries, size) ← readMembers buffer members cursor
    return (.dict entries, size)

def readMembers (buffer : Bytes) :
    List (String × Expansion) → Nat → Except Error (List (String × Value) × Nat)
  | [], _ => .ok ([], 0)
  | (name, x) :: rest, cursor => do
    let (v, size) ← read buffer x cursor
    let (entries, total) ← readMembers buffer rest (cursor + size)
    return ((name, v) :: entries, size + total)

end

theorem readMembers_cons {order : ByteOrder} {buffer : Bytes} {name : String} {x : Expansion}
    {rest : List (String × Expansion)} {cursor size total : Nat} {v : Value}
    {entries : List (String × Value)} (hv : read order buffer x cursor = .ok (v, size))
    (hrest : readMembers order buffer rest (cursor + size) = .ok (entries, total)) :
    readMembers order buffer ((name, x) :: rest) cursor =
      .ok ((name, v) :: entries, size + total) := by
  rw [readMembers, hv, ok_bind]
  simp only [hrest, ok_bind]
  rfl

def arrayItems (member : String) (count : Nat) (data : Bytes) (s : Source) :
    Except Error (List Source) :=
  match s.items? data with
  | none => .error (.notSequence member s.kind)
  | some items =>
    if items.length = count then .ok items else .error (.itemCount member count items.length)

mutual

def write : Expansion → Source → Nat → WriteM Nat
  | leaf l options, s, cursor => l.write order options s cursor
  | array member count item, s, cursor => do
    let items ← Codec.outcome (arrayItems member count (← get) s)
    Codec.writeItems (write item) items cursor
  | record name members, s, cursor =>
    match s.entries? with
    | some entries => writeMembers name entries members cursor
    | none => throw (.notMapping name s.kind)

def writeMembers (record : String) (entries : List (String × Source)) :
    List (String × Expansion) → Nat → WriteM Nat
  | [], _ => pure 0
  | (name, x) :: rest, cursor => do
    let size ← match entries.lookup name with
      | some s => write x s cursor
      | none => throw (.missingMember name record)
    let total ← writeMembers record entries rest (cursor + size)
    return size + total

end

end Expansion

namespace Codec

variable {reg : Registry} {order : ByteOrder} {d : Descriptor} {options : Value} {n : Nat}
  {x : Expansion} {m : Member} {entry : String × Expansion}
  {expand : Descriptor → Value → Option Expansion}

section Reading

variable {buffer : Bytes} {item : Descriptor → Value → Nat → Except Error (Value × Nat)}
  (hitem : ∀ d options x, expand d options = some x →
    item d options = x.read order buffer)
include hitem

theorem readMember_eq (h : reg.expandMember expand m = some entry) :
    readMember reg item m = entry.2.read order buffer := by
  obtain ⟨d, x, hd, hx, rfl⟩ := Registry.expandMember_eq_some h
  funext cursor
  have hlookup : reg.lookup m.typeName = .ok d := by rw [Registry.lookup, hd]
  rw [readMember, hlookup, ok_bind, hitem d m.options x hx]
  by_cases hc : m.count = 1
  · simp only [if_pos hc]
  · simp only [if_neg hc, Expansion.read]

theorem readMembers_eq {members : List Member} {entries : List (String × Expansion)}
    (h : members.Forall₂ (fun m entry ↦ reg.expandMember expand m = some entry) entries)
    (cursor : Nat) : readMembers (readMember reg item) members cursor =
      Expansion.readMembers order buffer entries cursor := by
  induction h generalizing cursor with
  | nil => rfl
  | @cons m entry members entries hm _ ih =>
    have hname : entry.1 = m.name := by
      obtain ⟨_, _, -, -, rfl⟩ := Registry.expandMember_eq_some hm
      rfl
    rw [readMembers, Expansion.readMembers, readMember_eq hitem hm, hname]
    simp only [ih]

end Reading

theorem readNested_eq (buffer : Bytes) (h : reg.expandWithin n d options = some x) :
    readNested reg order buffer n d options = x.read order buffer := by
  induction n generalizing d options x with
  | zero => cases h
  | succ n ih =>
    funext cursor
    cases d with
    | scalar t =>
      obtain ⟨l, hl, -, rfl⟩ := Registry.expandWithin_scalar h
      rw [readNested, hl, Expansion.read]
      rfl
    | record r =>
      obtain ⟨entries, rfl, hm⟩ := Registry.expandWithin_record h
      rw [readNested, Expansion.read, readMembers_eq (fun d options x hx ↦ ih hx) hm]

section Writing

variable {item : Descriptor → Value → Source → Nat → WriteM Nat}
  (hitem : ∀ d options x, expand d options = some x → item d options = x.write order)
include hitem

theorem writeMember_eq {record : String} {sources : List (String × Source)}
    (h : reg.expandMember expand m = some entry) (cursor : Nat) :
    writeMember reg item record sources m cursor =
      match sources.lookup m.name with
      | some s => entry.2.write order s cursor
      | none => throw (.missingMember m.name record) := by
  obtain ⟨d, x, hd, hx, rfl⟩ := Registry.expandMember_eq_some h
  have hlookup : reg.lookup m.typeName = .ok d := by rw [Registry.lookup, hd]
  rw [writeMember]
  cases sources.lookup m.name with
  | none => rfl
  | some s =>
    simp only [hlookup, outcome, pure_bind, hitem d m.options x hx]
    by_cases hc : m.count = 1
    · simp only [if_pos hc]
    · simp only [if_neg hc, Expansion.write]
      rfl

theorem writeMembers_eq {record : String} {sources : List (String × Source)}
    {members : List Member} {entries : List (String × Expansion)}
    (h : members.Forall₂ (fun m entry ↦ reg.expandMember expand m = some entry) entries)
    (cursor : Nat) : writeMembers (writeMember reg item record sources) members cursor =
      Expansion.writeMembers order record sources entries cursor := by
  induction h generalizing cursor with
  | nil => rfl
  | @cons m entry members entries hm _ ih =>
    have hname : entry.1 = m.name := by
      obtain ⟨_, _, -, -, rfl⟩ := Registry.expandMember_eq_some hm
      rfl
    rw [writeMembers, Expansion.writeMembers, writeMember_eq hitem hm, hname]
    simp only [ih]
    cases sources.lookup m.name <;> rfl

end Writing

theorem writeNested_eq (h : reg.expandWithin n d options = some x) :
    writeNested reg order n d options = x.write order := by
  induction n generalizing d options x with
  | zero => cases h
  | succ n ih =>
    funext s cursor
    cases d with
    | scalar t =>
      obtain ⟨l, -, hl, rfl⟩ := Registry.expandWithin_scalar h
      rw [writeNested, hl, Expansion.write]
    | record r =>
      obtain ⟨entries, rfl, hm⟩ := Registry.expandWithin_record h
      rw [writeNested, Expansion.write]
      cases s.entries? with
      | none => rfl
      | some sources => exact writeMembers_eq (fun d options x hx ↦ ih hx) hm cursor

section Position

variable {name : String} {position : Value} {p : Nat} {length : Nat} {size : Int}

theorem ofValue_natCast (p : Nat) : Position.ofValue (.int p) = .ok p := by
  rw [Position.ofValue, Position.ofInt, if_pos (Int.natCast_nonneg p), Int.toNat_natCast]

theorem span_of_le (hpos : Position.ofValue position = .ok p) (h : (p : Int) + size ≤ length) :
    Position.span length position size name = .ok p := by
  rw [Position.span, hpos, ok_bind, if_neg (by omega)]
  rfl

theorem span_of_lt (hpos : Position.ofValue position = .ok p) (h : (length : Int) < p + size) :
    Position.span length position size name = .error (.beyondEnd name size p length) := by
  rw [Position.span, hpos, ok_bind, if_pos h]
  rfl

theorem lookup_of_find? (h : reg.find? name = some d) : reg.lookup name = .ok d := by
  rw [Registry.lookup, h]

theorem startOf_of_size? (h : d.size? = some size) :
    startOf d length position name = Position.span length position size name := by
  rw [startOf, h]

end Position

section Records

variable {r : RecordType} {record : String}

theorem lookupRecord_of_find? (h : reg.find? record = some (.record r)) :
    reg.lookupRecord record = .ok r := by
  rw [Registry.lookupRecord, h]

theorem read_eq_readValue (h : reg.find? record = some (.record r)) (buffer : Buffer)
    (position order : Value) : read reg buffer position record order =
      (readValue reg buffer position record order .none).map Prod.fst := by
  have hstart (length : Nat) : startOf (.record r) length position record =
      Position.span length position r.size record := startOf_of_size? rfl
  simp only [read, readValue, lookupRecord_of_find? h, lookup_of_find? h, ok_bind, hstart]
  cases buffer.view with
  | error e => rfl
  | ok data =>
    simp only [ok_bind]
    cases Position.span data.length position r.size record with
    | error e => rfl
    | ok start =>
      simp only [ok_bind]
      cases ByteOrder.ofValue order with
      | error e => rfl
      | ok order =>
        simp only [ok_bind]
        cases readAt reg order data (.record r) .none start <;> rfl

theorem write_eq_writeValue (h : reg.find? record = some (.record r)) (buffer : Buffer)
    (position : Value) (s : Source) (order : Value) : write reg buffer position record s order =
      writeValue reg buffer position record s order .none := by
  simp only [write, writeValue, lookupRecord_of_find? h, lookup_of_find? h, ok_bind,
    Descriptor.size?]

end Records

section Values

variable {name : String} {position : Value} {p : Nat} {data : Bytes} {size : Int}
  (h : reg.find? name = some d) (hsize : d.size? = some size)
  (hx : reg.expansion? d options = some x) (hpos : Position.ofValue position = .ok p)
  (hp : (p : Int) + size ≤ data.length)
include h hsize hx hpos hp

theorem readValue_eq (writable : Bool) :
    readValue reg (.flat data writable) position name order.toValue options =
      x.read order data p := by
  rw [readValue, Buffer.view, ok_bind, lookup_of_find? h, ok_bind, startOf_of_size? hsize,
    span_of_le hpos hp, ok_bind, ByteOrder.ofValue_toValue, ok_bind, readAt,
    readNested_eq data hx]

omit hx in
theorem writeValue_eq_run (s : Source) :
    writeValue reg (.flat data true) position name s order.toValue options =
      match (writeNested reg order reg.nestingBound d options s p).run data with
      | .ok size after => (.ok size, .flat after true)
      | .error e after => (.error e, .flat after true) := by
  have hview : (Buffer.flat data true).writableView = .ok data := rfl
  simp only [writeValue, hview, ok_bind, lookup_of_find? h, hsize, span_of_le hpos hp,
    ByteOrder.ofValue_toValue, writeAt]
  rfl

/-- After the checks, a value is written as its expansion. -/
theorem writeValue_eq (s : Source) :
    writeValue reg (.flat data true) position name s order.toValue options =
      match (x.write order s p).run data with
      | .ok size after => (.ok size, .flat after true)
      | .error e after => (.error e, .flat after true) := by
  rw [writeValue_eq_run h hsize hpos hp, writeNested_eq hx]

end Values

section Records

variable {r : RecordType} {record : String} {p : Nat} {data : Bytes}
  (h : reg.find? record = some (.record r))
  (hx : reg.expansion? (.record r) .none = some x) (hp : (p : Int) + r.size ≤ data.length)
include h hx hp

theorem read_eq (writable : Bool) :
    read reg (.flat data writable) (.int p) record order.toValue =
      (x.read order data p).map Prod.fst := by
  rw [read_eq_readValue h, readValue_eq h rfl hx (ofValue_natCast p) hp]

theorem write_eq (s : Source) :
    write reg (.flat data true) (.int p) record s order.toValue =
      match (x.write order s p).run data with
      | .ok size after => (.ok size, .flat after true)
      | .error e after => (.error e, .flat after true) := by
  rw [write_eq_writeValue h, writeValue_eq h rfl hx (ofValue_natCast p) hp]

theorem read_eq_ok {position v : Value} {n : Nat} (hpos : Position.ofValue position = .ok p)
    (hread : x.read order data p = .ok (v, n)) (writable : Bool) :
    read reg (.flat data writable) position record order.toValue = .ok v := by
  rw [read_eq_readValue h, readValue_eq h rfl hx hpos hp, hread]
  rfl

end Records

theorem readItems_ends {item : Nat → Except Error (Value × Nat)} (h : ∀ cursor, Ends (item cursor))
    (n cursor : Nat) : Ends (readItems item n cursor) := by
  induction n generalizing cursor with
  | zero => exact .ok _
  | succ n ih => exact (h cursor).bind fun _ ↦ (ih _).bind fun _ ↦ .ok _

theorem writeItems_ends {item : Source → Nat → WriteM Nat}
    (h : ∀ s cursor, WriteEnds (item s cursor)) (items : List Source) (cursor : Nat) :
    WriteEnds (writeItems item items cursor) := by
  induction items generalizing cursor with
  | nil => exact .pure _
  | cons s rest ih =>
    exact .bind .get fun _ ↦ .bind (h _ _) fun _ ↦ .bind (ih _) fun _ ↦ .pure _

theorem outcome_ends {α : Type} {o : Except Error α} (h : Ends o) : WriteEnds (outcome o) := by
  cases o with
  | ok a => exact .pure a
  | error e => exact .throw (h e rfl)

end Codec

namespace Expansion

variable (order : ByteOrder)

theorem arrayItems_ends (member : String) (count : Nat) (data : Bytes) (s : Source) :
    Ends (arrayItems member count data s) := by
  unfold arrayItems
  split
  · exact .error nofun
  · split
    · exact .ok _
    · exact .error nofun

mutual

theorem read_ends (buffer : Bytes) : (x : Expansion) → (cursor : Nat) →
    Ends (x.read order buffer cursor)
  | leaf l options, cursor => by
    rw [read]
    exact (l.read_ends order options buffer cursor).bind fun _ ↦ .ok _
  | array _ count item, cursor => by
    rw [read]
    exact (Codec.readItems_ends (read_ends buffer item) count cursor).bind fun _ ↦ .ok _
  | record _ members, cursor => by
    rw [read]
    exact (readMembers_ends buffer members cursor).bind fun _ ↦ .ok _

theorem readMembers_ends (buffer : Bytes) : (members : List (String × Expansion)) →
    (cursor : Nat) → Ends (readMembers order buffer members cursor)
  | [], _ => .ok _
  | (_, x) :: rest, cursor => by
    rw [readMembers]
    exact (read_ends buffer x cursor).bind fun _ ↦
      (readMembers_ends buffer rest _).bind fun _ ↦ .ok _

end

mutual

theorem write_ends : (x : Expansion) → (s : Source) → (cursor : Nat) →
    WriteEnds (x.write order s cursor)
  | leaf l options, s, cursor => by
    rw [write]
    exact l.write_ends order options s cursor
  | array member count item, s, cursor => by
    rw [write]
    refine .bind .get fun data ↦ .bind ?_ fun items ↦ ?_
    · exact Codec.outcome_ends (arrayItems_ends member count data s)
    · exact Codec.writeItems_ends (write_ends item) items cursor
  | record name members, s, cursor => by
    rw [write]
    split
    · exact writeMembers_ends name _ members cursor
    · exact .throw nofun

theorem writeMembers_ends (record : String) (entries : List (String × Source)) :
    (members : List (String × Expansion)) → (cursor : Nat) →
      WriteEnds (writeMembers order record entries members cursor)
  | [], _ => .pure _
  | (name, x) :: rest, cursor => by
    have hrest := writeMembers_ends record entries rest
    rw [writeMembers]
    split
    · exact .bind (write_ends x _ cursor) fun _ ↦ .bind (hrest _) fun _ ↦ .pure _
    · exact .bind (.throw nofun) fun _ ↦ .bind (hrest _) fun _ ↦ .pure _

end

end Expansion

end RecordCodec
