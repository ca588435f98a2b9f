import RecordCodec.Codec.Unchecked
import RecordCodec.Dataclass.Source
import RecordCodec.Schema.Compile
import RecordCodec.Session.Basic
import RecordCodec.Value.Integral

namespace RecordCodec.Session

def orFail {α : Type} (result : Except Error α) : SessionM α :=
  MonadExcept.ofExcept result

def evaluateD (default : Value) : Option Expr → SessionM Value
  | none => return default
  | some e => evaluate e

def layoutOf : Option Expr → SessionM Value
  | none => return .none
  | some e => evaluateTable e

def orderOf (e : Option Expr) : SessionM Value :=
  evaluateD (.text "big") e

def saveValue (name : Option String) (v : Value) : SessionM Value := do
  if name.isSome then save name (← insertValue v)
  return v

def setRegistry (reg : Registry) : SessionM Unit :=
  modify fun s => { s with registry := reg }

def compile (text name : String) : SessionM RecordType := do
  let (record, reg) ← orFail ((← get).registry.compile text name)
  setRegistry reg
  return record

def resolve (text : String) (line : Int) (runs : Option (List (String × Expr))) :
    SessionM Member := do
  let runs ← runs.mapM fun runs =>
    runs.mapM fun (run : String × Expr) => do return (Value.text run.1, ← evaluate run.2)
  let d ← orFail (Schema.Declaration.ofLine text line)
  let reg := (← get).registry
  match runs with
  | none => orFail (d.member reg)
  | some runs => orFail (d.memberWith reg (some runs))

structure MemberSpec where
  typeName : String
  name : String
  elementSize : Int
  count : Int
  runs : Option (List (String × Int))

inductive WriterSpec where
  | none
  | invalid
  | ofType (name : String)

inductive DescriptorSpec where
  | existing (name : String)
  | value (e : Expr)
  | scalar (name size : Expr) (reader : Option String) (writer : WriterSpec)
  | record (name : Expr) (members : List MemberSpec)

def writerOf (reg : Registry) : WriterSpec → Except Error ScalarType.WriterSource
  | .none => .ok .none
  | .invalid => .ok .invalid
  | .ofType name => do
    match (← Codec.lookupScalar reg name).writer with
    | none => return .none
    | some l => return .leaf l

def candidate (spec : DescriptorSpec) : SessionM Registry.Candidate := do
  let reg := (← get).registry
  match spec with
  | .existing name => return .descriptor (← orFail (reg.lookup name))
  | .value e => return .value (← evaluate e).kind
  | .scalar name size reader writer =>
    let name ← evaluate name
    let size ← evaluate size
    let reader ← orFail (reader.mapM fun n => do return (← Codec.lookupScalar reg n).reader)
    let writer ← orFail (writerOf reg writer)
    return .descriptor (.scalar (← orFail (ScalarType.make name size reader writer)))
  | .record name members =>
    let name ← evaluate name
    let members ← orFail (members.mapM fun m =>
      Member.make m.typeName m.name m.elementSize m.count m.runs)
    return .descriptor (.record (← orFail (RecordType.make name members)))

def describe (spec : DescriptorSpec) : SessionM Descriptor := do
  match ← candidate spec with
  | .descriptor d => return d
  | .value _ => throw .noCodec

def register (name : String) (spec : DescriptorSpec) : SessionM Unit := do
  let c ← candidate spec
  setRegistry (← orFail ((← get).registry.register name c))

def registerContainers : SessionM Unit := do
  let (result, reg) := (← get).registry.registerContainers
  setRegistry reg
  orFail result

def lookup (name : String) : SessionM Descriptor := do
  orFail ((← get).registry.lookup name)

def lookupRecord (name : String) : SessionM RecordType := do
  orFail ((← get).registry.lookupRecord name)

def member (record name : String) : SessionM Member := do
  let r ← lookupRecord record
  orFail (r.member name)

def recordOf (name : Option String) (spec : Option DescriptorSpec) : SessionM RecordType := do
  match name, spec with
  | some name, _ => lookupRecord name
  | none, some spec =>
    match ← describe spec with
    | .record r => return r
    | .scalar _ => throw .noCodec
  | none, none => throw .noCodec

def render (r : RecordType) (runtime : Option String) : SessionM String := do
  orFail (Dataclass.render (← get).registry r (runtime.getD Dataclass.defaultRuntime))

def newBuffer (name : String) (data : Bytes) (writable : Bool) : SessionM Unit := do
  let r ← insert (if writable then .bytearray data else .atom (.bytes data))
  setBuffer name (.object r)

def valueBuffer (name : String) (e : Expr) : SessionM Unit := do
  setBuffer name (.object (← build e))

/-- How a view is derived from a buffer, in the order of the fields. -/
structure ViewSpec where
  slice : Option Slice
  format : Option String
  shape : Option (List Int)
  inner : Option Slice
  readOnly : Bool

def wholeView (b : Backing) : SessionM View := do
  match b with
  | .view v => return v
  | .object r =>
    match ← memoryOf r with
    | some (data, writable) => return .ofBytes r data.length (!writable)
    | none => throw .badCast

def viewBuffer (name source : String) (spec : ViewSpec) : SessionM Unit := do
  let v ← wholeView (← buffer source)
  let v ← orFail do
    let v ← match spec.slice with
      | none => pure v
      | some s => v.slice s
    let v ← match spec.format with
      | none => pure v
      | some format => v.cast format spec.shape
    match spec.inner with
    | none => pure v
    | some s => v.slice s
  setBuffer name (.view { v with readOnly := v.readOnly || spec.readOnly })

def bufferBytes (name : String) : SessionM (Option Bytes) := do
  bytesOf (← buffer name)

def read (buf : String) (position : Expr) (record : String) (order : Option Expr)
    (name : Option String) : SessionM Value := do
  let position ← evaluate position
  let order ← orderOf order
  let b ← contents (← buffer buf)
  let v ← orFail (Codec.read (← get).registry b position record order)
  saveValue name v

def readValue (buf : String) (position : Expr) (type : String) (order options : Option Expr)
    (name : Option String) : SessionM (Value × Nat) := do
  let position ← evaluate position
  let order ← orderOf order
  let options ← layoutOf options
  let b ← contents (← buffer buf)
  let (v, size) ← orFail (Codec.readValue (← get).registry b position type order options)
  return (← saveValue name v, size)

def decode (buf : String) (offset : Int) (type : String) (order options : Option Expr)
    (name : Option String) : SessionM (Value × Nat) := do
  let order ← orderOf order
  let options ← layoutOf options
  let m ← memory (← buffer buf)
  let (v, size) ← orFail (Codec.decode (← get).registry m offset type order options)
  return (← saveValue name v, size)

def write (buf : String) (position : Expr) (record : String) (value : Expr)
    (order : Option Expr) : SessionM Nat := do
  let position ← evaluate position
  let r ← build value
  let order ← orderOf order
  let b ← buffer buf
  let source ← sourceFor b 0 r
  finish b (Codec.write (← get).registry (← contents b) position record source order)

def writeValue (buf : String) (position : Expr) (type : String) (value : Expr)
    (order options : Option Expr) : SessionM Nat := do
  let position ← evaluate position
  let r ← build value
  let order ← orderOf order
  let options ← layoutOf options
  let b ← buffer buf
  let source ← sourceFor b 0 r
  finish b (Codec.writeValue (← get).registry (← contents b) position type source order options)

def encode (buf : String) (offset : Int) (type : String) (value : Expr)
    (order options : Option Expr) : SessionM Nat := do
  let r ← build value
  let order ← orderOf order
  let options ← layoutOf options
  let b ← buffer buf
  let source ← sourceFor b 0 r
  finish b (Codec.encode (← get).registry (← memory b) offset type source order options)

def set (value : Expr) (name : String) : SessionM Value := do
  let r ← build value
  save (some name) r
  resultOf r

def byteOf (v : Value) : SessionM UInt8 := do
  match ← orFail (Memory.itemByte v) with
  | [b] => return b
  | _ => throw .notIntegral

def assign (r : Ref) (key : Key) (item : Ref) : SessionM Unit := do
  let replace (c : Cell) : SessionM Unit :=
    modify fun s => { s with store := s.store.replace r c }
  match ← cellOf r, key with
  | .dict entries, .name s => replace (.dict (Value.insertEntry s item entries))
  | .list items, .index n =>
    let i ← placeOf items.length n
    replace (.list (items.set i item))
  | .bytearray data, .index n =>
    if !Window.isAddress n then throw .noItem
    let b ← byteOf (← valueOf item)
    let i ← placeOf data.length n
    replace (.bytearray (data.set i b))
  | .bits b, .name s =>
    if (b.layout.find? s).isNone then throw (.noRun b.container.name s)
    let n ← orFail (← valueOf item).integer
    match b.set? s n with
    | some b => replace (.bits b)
    | none => throw (.noRun b.container.name s)
  | .bits b, .index n => throw (.noRun b.container.name (intText n))
  | _, _ => throw .notIndexable

def put (name : String) (path : List Key) (value : Expr) : SessionM Value := do
  let whole ← named name
  let item ← build value
  match path.getLast? with
  | none => throw .notIndexable
  | some last =>
    let owner ← path.dropLast.foldlM partAt whole
    assign owner last item
    resultOf whole

def jsonable (value : Expr) (name : Option String) : SessionM Value := do
  let r ← build value
  let s ← get
  match s.store.project? r with
  | none => throw .endless
  | some (r, store) =>
    modify fun s => { s with store }
    save name r
    resultOf r

def equal (a b : Expr) : SessionM Bool := do
  let a ← build a
  let b ← build b
  match (← get).store.equal? a b with
  | some same => return same
  | none => throw .endless

def newBits (width : Nat) (raw layout : Option Expr) (name : Option String) :
    SessionM Value := do
  let raw ← evaluateD (.int 0) raw
  let layout ← layoutOf layout
  let b ← orFail (Bitfield.new width raw layout)
  saveValue name (.bits b)

/-- An existing bitfield of the width is given back as the same part. -/
def coerceBits (width : Nat) (value layout : Expr) (name : Option String) : SessionM Value := do
  let r ← build value
  let layout ← evaluateTable layout
  let b ← orFail (Bitfield.coerceTo width ((← sourceOf r).opened []) layout)
  match ← cellOf r with
  | .bits _ => save name r
  | _ => save name (← insert (.bits b))
  return .bits b

def bitsOf (r : Ref) : SessionM Bitfield := do
  match ← cellOf r with
  | .bits b => return b
  | _ => throw .noCodec

def bitfield (e : Expr) : SessionM Bitfield := do
  bitsOf (← build e)

def getBits (e : Expr) (name : String) : SessionM Nat := do
  runOf (← bitfield e) name

def setBits (e : Expr) (name : String) (value : Expr) : SessionM Nat := do
  let r ← build e
  let item ← build value
  let _ ← bitsOf r
  assign r (.name name) item
  return (← bitsOf r).raw

def bitOffset (e : Expr) (name : String) : SessionM Nat := do
  let b ← bitfield e
  match b.layout.find? name with
  | some p => return p.offset
  | none => throw (.noRun b.container.name name)

def hasBits (e : Expr) (name : Expr) : SessionM Bool := do
  let b ← bitfield e
  match ← evaluate name with
  | .text s => return (b.layout.find? s).isSome
  | v => if v.isHashable then return false else throw .unhashable

def openStream (name buf : String) (offset : Option Expr) : SessionM Nat := do
  let offset ← evaluateD (.int 0) offset
  let b ← buffer buf
  let s ← orFail (Stream.ofBuffer (← contents b) offset)
  modify fun session =>
    { session with streams := Value.insertEntry name ⟨b, s.start, 0⟩ session.streams }
  return s.length

def stream? (name : String) : SessionM (Option OpenStream) := do
  return (← get).streams.lookup name

def load (o : OpenStream) : SessionM Stream := do
  let b ← contents o.backing
  return ⟨b.data, b.writableView.toBool, o.start, o.cursor⟩

def withStream {α : Type} (name : String) (action : Registry → Stream → Except Error α × Stream) :
    SessionM α := do
  match ← stream? name with
  | none => throw (.noMember name)
  | some o =>
    let s ← load o
    let (result, after) := action (← get).registry s
    if after.writable then putBack o.backing after.data
    modify fun session =>
      { session with
        streams := Value.insertEntry name { o with cursor := after.cursor } session.streams }
    orFail result

def streamBytes (name : String) : SessionM (Option Bytes) := do
  match ← stream? name with
  | none => return none
  | some o => bytesOf o.backing

def cursor? (name : String) : SessionM (Option Int) := do
  return (← stream? name).map OpenStream.cursor

def seek (name : String) (offset : Expr) (whence : Option Expr) : SessionM Int := do
  let offset ← evaluate offset
  let whence ← evaluateD (.int 0) whence
  withStream name fun _ s =>
    match s.seek offset whence with
    | .ok s => (.ok s.cursor, s)
    | .error e => (.error e, s)

def tell (name : String) : SessionM Int :=
  withStream name fun _ s => (.ok s.cursor, s)

def readNext (name type : String) (order : Option Expr) (saved : Option String) :
    SessionM Value := do
  let order ← orderOf order
  let v ← withStream name fun reg s =>
    match s.readNext reg type order with
    | .ok (v, s) => (.ok v, s)
    | .error e => (.error e, s)
  saveValue saved v

def readAt (name : String) (offset : Expr) (type : String) (order : Option Expr)
    (saved : Option String) : SessionM Value := do
  let offset ← evaluate offset
  let order ← orderOf order
  let v ← withStream name fun reg s => (s.readAt reg offset type order, s)
  saveValue saved v

def sourceForStream (name : String) (r : Ref) : SessionM Source := do
  match ← stream? name with
  | none => throw (.noMember name)
  | some o => sourceFor o.backing o.start r

def writeNext (name type : String) (value : Expr) (order : Option Expr) : SessionM Nat := do
  let r ← build value
  let order ← orderOf order
  let source ← sourceForStream name r
  withStream name fun reg s => s.writeNext reg type source order

def writeAt (name : String) (offset : Expr) (type : String) (value : Expr)
    (order : Option Expr) : SessionM Nat := do
  let offset ← evaluate offset
  let r ← build value
  let order ← orderOf order
  let source ← sourceForStream name r
  withStream name fun reg s => s.writeAt reg offset type source order

def iterate (name : String) (type : Option String) (order : Option Expr) :
    SessionM (List Value × Option Error) := do
  let order ← orderOf order
  withStream name fun reg s =>
    let drained := s.drain reg (type.getD "u8") order
    (.ok (drained.values, drained.stopped), drained.stream)

end RecordCodec.Session
