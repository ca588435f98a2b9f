import RecordCodec.Value.Store

namespace RecordCodec

/-- The bytes of a byte string around the memory in it. -/
structure Surroundings where
  before : Bytes
  after : Bytes

namespace Surroundings

def whole (s : Surroundings) (data : Bytes) : Bytes :=
  s.before ++ data ++ s.after

end Surroundings

/-- A value, or a sequence or a mapping of any type with what it holds. A list that holds a sequence
of another type is given in this way as well. What is held does not change and is apart from the
memory. -/
inductive Content where
  | value (v : Value)
  | sequence (o : Object) (items : List Content)
  | mapping (o : Object) (entries : List (String × Content))

inductive Source where
  | value (v : Value)
  | sequence (o : Object) (items : List Content)
  | mapping (o : Object) (entries : List (String × Content))
  /-- A part in a store. The memory belongs to the byte string `target`, if to any. -/
  | part (store : Store) (target : Option (Ref × Surroundings)) (r : Ref)
  /-- One byte of the byte string around the memory, as an integer. -/
  | byte (s : Surroundings) (index : Nat)

def Content.source : Content → Source
  | value v => .value v
  | sequence o items => .sequence o items
  | mapping o entries => .mapping o entries

namespace Source

instance : Inhabited Source := ⟨.value .none⟩

def memoryIn (target : Option (Ref × Surroundings)) (data : Bytes) (r : Ref) : Option Bytes :=
  (target.filter fun t => t.1 == r).map fun t => t.2.whole data

/-- The value of a source while the memory holds `data`. -/
def now (data : Bytes) : Source → Value
  | value v => v
  | sequence o _ | mapping o _ => .again (.other o)
  | part store target r => (store.valueWith? (memoryIn target data) r).getD .none
  | byte s index => .int ((s.whole data).getD index 0).toNat

def kind (s : Source) : String :=
  (s.now []).kind

def entries? : Source → Option (List (String × Source))
  | value (.dict entries) => some (entries.map fun entry => (entry.1, value entry.2))
  | mapping _ entries => some (entries.map fun entry => (entry.1, entry.2.source))
  | part store target r =>
    match store.get? r with
    | some (.dict entries) => some (entries.map fun entry => (entry.1, part store target entry.2))
    | _ => none
  | _ => none

def itemsOfValue? (v : Value) : Option (List Source) :=
  v.items?.map fun items => items.map value

/-- The items of a sequence while the memory holds `data`; those of the byte string around it are
taken one by one. -/
def items? (data : Bytes) : Source → Option (List Source)
  | value v => itemsOfValue? v
  | sequence _ items => some (items.map Content.source)
  | part store target r =>
    match store.get? r with
    | some (.list items) | some (.tuple items) => some (items.map (part store target))
    | some (.bytearray own) =>
      match target.filter fun t => t.1 == r with
      | some (_, s) => some ((List.range (s.whole data).length).map (byte s))
      | none => itemsOfValue? (.bytearray own)
    | some (.atom v) => itemsOfValue? v
    | _ => none
  | mapping .. | byte .. => none

/-- A byte becomes an integer of its own when it is taken. -/
def taken (data : Bytes) : Source → Source
  | byte s index => value ((byte s index).now data)
  | s => s

/-- The value of a source whose entries, if it is a mapping, are each taken by themselves. -/
def opened (data : Bytes) (s : Source) : Value :=
  match s.entries? with
  | some entries => .dict (entries.map fun entry => (entry.1, entry.2.now data))
  | none => s.now data

def mapItems (data : Bytes) (f : Source → Value) (s : Source) : Value :=
  match s with
  | part store target r =>
    match store.get? r with
    | some (.list items) => .list (items.map fun r => f (part store target r))
    | some (.tuple items) => .tuple (items.map fun r => f (part store target r))
    | _ => s.opened data
  | s => s.now data

def table (data : Bytes) (s : Source) : Value :=
  s.mapItems data (mapItems data (now data))

end Source

end RecordCodec
