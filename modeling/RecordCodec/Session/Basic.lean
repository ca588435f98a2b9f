import RecordCodec.Bitfield.Build
import RecordCodec.Codec.Stream
import RecordCodec.Codec.Unchecked
import RecordCodec.Session.View

namespace RecordCodec

inductive Backing where
  | object (r : Ref)
  | view (v : View)

/-- A stream with its memory left where it is. -/
structure OpenStream where
  backing : Backing
  start : Nat
  cursor : Int

structure Session where
  registry : Registry
  store : Store
  values : List (String × Ref)
  buffers : List (String × Backing)
  streams : List (String × OpenStream)

abbrev SessionM := EStateM Error Session

namespace Session

def ofRegistry (reg : Registry) : Session :=
  ⟨reg, .empty, [], [], []⟩

inductive Key where
  | name (s : String)
  | index (n : Int)

/-- A description of a value: it is built anew, except for what it refers to by name. -/
inductive Expr where
  | atom (v : Value)
  | bytearray (data : Bytes)
  | list (items : List Expr)
  | tuple (items : List Expr)
  | dict (entries : List (String × Expr))
  | bits (width : Nat) (raw layout : Expr)
  | part (name : String) (path : List Key)

instance : Inhabited Expr := ⟨.atom .none⟩

def onStore {α : Type} (action : StateM Store α) : SessionM α :=
  modifyGet fun s =>
    let (a, store) := action.run s.store
    (a, { s with store })

def insert (c : Cell) : SessionM Ref :=
  onStore (Store.insert c)

def insertValue (v : Value) : SessionM Ref :=
  onStore (Store.insertValue v)

def cellOf (r : Ref) : SessionM Cell := do
  match (← get).store.get? r with
  | some c => return c
  | none => throw .noItem

def valueOf (r : Ref) : SessionM Value := do
  match (← get).store.value? r with
  | some v => return v
  | none => throw .noItem

def sourceOf (r : Ref) : SessionM Source := do
  return .part (← get).store none r

def tableOf (r : Ref) : SessionM Value := do
  return (← sourceOf r).table []

/-- The value of a part as a result, which must not hold itself. -/
def resultOf (r : Ref) : SessionM Value := do
  let v ← valueOf r
  if v.isWhole then return v else throw .endless

def placeOf (length : Nat) (n : Int) : SessionM Nat :=
  let i := if n < 0 then n + length else n
  if i < 0 ∨ length ≤ i then throw .noItem else return i.toNat

def freshItem (items : List Value) (n : Int) : SessionM Ref := do
  let i ← placeOf items.length n
  insert (.atom (items.getD i .none))

def runOf (b : Bitfield) (name : String) : SessionM Nat :=
  match b.get? name with
  | some n => return n
  | none => throw (.noRun b.container.name name)

def partAt (r : Ref) (key : Key) : SessionM Ref := do
  match ← cellOf r, key with
  | .dict entries, .name s =>
    match entries.lookup s with
    | some r => return r
    | none => throw (.noMember s)
  | .dict _, .index n => throw (.noMember (intText n))
  | .list items, .index n | .tuple items, .index n => do
    let i ← placeOf items.length n
    match items[i]? with
    | some r => return r
    | none => throw .noItem
  | .bits b, .name s => do insert (.atom (.int (← runOf b s)))
  | .bits b, .index n => throw (.noRun b.container.name (intText n))
  | .bytearray data, .index n => freshItem (data.map fun b => .int b.toNat) n
  | .atom v, .index n =>
    match v.items? with
    | some items => freshItem items n
    | none => throw .notIndexable
  | _, _ => throw .notIndexable

def named (name : String) : SessionM Ref := do
  match (← get).values.lookup name with
  | some r => return r
  | none => throw (.noMember name)

def save (name : Option String) (r : Ref) : SessionM Unit := do
  match name with
  | none => return
  | some name => modify fun s => { s with values := Value.insertEntry name r s.values }

mutual

def build : Expr → SessionM Ref
  | .atom v => do
    if !v.isWritable then throw .numberTooLong
    insert (.atom v)
  | .bytearray data => insert (.bytearray data)
  | .list items => do insert (.list (← buildAll items))
  | .tuple items => do insert (.tuple (← buildAll items))
  | .dict entries => do insert (.dict (Value.entriesOf (← buildEntries entries)))
  | .bits width raw layout => do
    let raw ← valueOf (← build raw)
    let layout ← tableOf (← build layout)
    let b ← MonadExcept.ofExcept (Bitfield.new width raw layout)
    insert (.bits b)
  | .part name path => do path.foldlM partAt (← named name)

def buildAll : List Expr → SessionM (List Ref)
  | [] => return []
  | e :: rest => do
    let r ← build e
    return r :: (← buildAll rest)

def buildEntries : List (String × Expr) → SessionM (List (String × Ref))
  | [] => return []
  | (key, e) :: rest => do
    let r ← build e
    return (key, r) :: (← buildEntries rest)

end

def evaluate (e : Expr) : SessionM Value := do
  valueOf (← build e)

def evaluateTable (e : Expr) : SessionM Value := do
  tableOf (← build e)

def memoryOf (r : Ref) : SessionM (Option (Bytes × Bool)) := do
  match ← cellOf r with
  | .atom (.bytes data) => return some (data, false)
  | .bytearray data => return some (data, true)
  | _ => return none

def bytesOfView (v : View) : SessionM Bytes := do
  match ← memoryOf v.base with
  | some (data, _) =>
    let cells := data.toArray
    return v.positions.map fun i => cells.getD i 0
  | none => return []

def bytesOf (b : Backing) : SessionM (Option Bytes) := do
  match b with
  | .object r => return (← memoryOf r).map Prod.fst
  | .view v => return some (← bytesOfView v)

def contents (b : Backing) : SessionM Buffer := do
  match b with
  | .object r =>
    match ← memoryOf r with
    | some (data, writable) => return .flat data writable
    | none => return .other (← valueOf r).kind
  | .view v =>
    if !v.isContiguous then return .strided
    if !v.isFlattenable then return .unflattenable
    return .flat (← bytesOfView v) (!v.readOnly)

def memory (b : Backing) : SessionM Memory := do
  match b with
  | .object r => return .ofValue (← valueOf r)
  | .view v =>
    let data ← bytesOfView v
    return {
      bytes := if v.isContiguous then .ok data else .error .stridedMemory
      writable := !v.readOnly
      elements := .ok (v.elements data) }

/-- The byte string that a writable buffer is a part of, with what is around it there. -/
def target (b : Backing) : SessionM (Option (Ref × Surroundings)) := do
  match b with
  | .object r =>
    match ← cellOf r with
    | .bytearray _ => return some (r, ⟨[], []⟩)
    | _ => return none
  | .view v =>
    match ← cellOf v.base with
    | .bytearray whole =>
      if !v.isContiguous then return none
      let first := v.positions.headD 0
      return some (v.base, ⟨whole.take first, whole.drop (first + v.positions.length)⟩)
    | _ => return none

/-- What a part is as a source for a buffer; `skipped` bytes of the buffer are left out at its
start. -/
def sourceFor (b : Backing) (skipped : Nat) (r : Ref) : SessionM Source := do
  let target ← target b
  let shown := ((← bytesOf b).getD []).take skipped
  let target := target.map fun t => (t.1, { t.2 with before := t.2.before ++ shown })
  return .part (← get).store target r

def putBack (b : Backing) (data : Bytes) : SessionM Unit := do
  match b with
  | .object r =>
    match ← cellOf r with
    | .bytearray _ => modify fun s => { s with store := s.store.replace r (.bytearray data) }
    | _ => return
  | .view v =>
    match ← cellOf v.base, v.positions with
    | .bytearray whole, first :: _ =>
      modify fun s =>
        { s with store := s.store.replace v.base (.bytearray (Window.set whole first data)) }
    | _, _ => return

def buffer (name : String) : SessionM Backing := do
  match (← get).buffers.lookup name with
  | some b => return b
  | none => throw (.noMember name)

def setBuffer (name : String) (b : Backing) : SessionM Unit :=
  modify fun s => { s with buffers := Value.insertEntry name b s.buffers }

def finish (b : Backing) (outcome : Except Error Nat × Buffer) : SessionM Nat := do
  match outcome.2 with
  | .flat data true => putBack b data
  | _ => pure ()
  MonadExcept.ofExcept outcome.1

end Session

end RecordCodec
