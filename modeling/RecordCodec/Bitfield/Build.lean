import RecordCodec.Error
import RecordCodec.Number.Numeral

namespace RecordCodec

-- Powers of natural numbers are those of the core library.
attribute [local instance (high)] instPowNat

namespace Layout

def isBareMark (name : String) : Bool :=
  name.toList.all (· == '#')

def push (l : Layout) (name width : Value) : Except Error Layout :=
  match name with
  | .text s =>
    if isBareMark s then .error (.runName name)
    else if h : s ∈ l.names then .error (.duplicateRun s)
    else
      match width with
      | .int n =>
        if hn : 0 < n then
          .ok
            { fields := l.fields ++ [⟨s, n.toNat, by omega⟩]
              nodup := by
                have := l.nodup
                simp only [names] at h
                rw [List.map_append, List.nodup_append]
                refine ⟨this, by simp, ?_⟩
                intro a ha b hb
                simp only [List.map_cons, List.map_nil, List.mem_singleton] at hb
                subst hb
                exact fun he => h (he ▸ ha) }
        else .error (.runWidth s width)
      | _ => .error (.runWidth s width)
  | _ => .error (.runName name)

def ofPairs (pairs : List (Value × Value)) : Except Error Layout :=
  pairs.foldlM (fun l pair => l.push pair.1 pair.2) empty

def pairOf (v : Value) : Except Error (Value × Value) :=
  match v with
  | .dict [(a, _), (b, _)] => .ok (.text a, .text b)
  | .dict _ => .error .notPair
  | .bits b => .error (.noRun b.container.name "0")
  | v =>
    match v.items? with
    | some [a, b] => .ok (a, b)
    | some _ => .error .notPair
    | none => .error .notIterable

def itemsOf (v : Value) : Except Error (List Value) :=
  if !v.isTrue then .ok []
  else
    match v with
    | .dict entries => .ok (entries.map fun entry => .tuple [.text entry.1, entry.2])
    | .bits b => .error (.noRun b.container.name "0")
    | v =>
      match v.items? with
      | some items => .ok items
      | none => .error .notIterable

/-- The layout that a list of items describes; the first faulty item decides the error. -/
def ofItems (items : List Value) : Except Error Layout :=
  items.foldlM (fun l item => do let pair ← pairOf item; l.push pair.1 pair.2) empty

def fit (l : Layout) (width : Int) (container : String) :
    Except Error { l : Layout // (l.width : Int) ≤ width } :=
  if h : (l.width : Int) ≤ width then .ok ⟨l, h⟩
  else .error (.layoutTooWide container l.width width)

def build (v : Value) (width : Int) (container : String) :
    Except Error { l : Layout // (l.width : Int) ≤ width } := do
  let items ← itemsOf v
  let l ← ofItems items
  l.fit width container

end Layout

namespace Bitfield

def ofRaw (c : Container) (raw : Int) (layout : Value) : Except Error Bitfield :=
  if h : 0 ≤ raw ∧ raw < (2 ^ c.width : Nat) then do
    let l ← Layout.build layout c.width c.name
    return ⟨c, l.1, raw.toNat, by have := l.2; omega, by omega⟩
  else .error (.rawTooWide raw c.width)

/-- The width names the container; zero is the width of none. -/
def new (width : Nat) (raw layout : Value) : Except Error Bitfield :=
  match Container.ofWidth? width with
  | none => .error .abstractBitfield
  | some c =>
    match raw with
    | .int n => ofRaw c n layout
    | _ => .error (.rawNotInteger raw.kind)

/-- The integer that a run is set to: text holds binary digits after the mark `0b`, otherwise a
numeral in the base that its own mark says. -/
def runValue (name : String) (v : Value) : Except Error Int :=
  match v with
  | .int n => .ok n
  | .bool b => .ok (if b then 1 else 0)
  | .text s =>
    match Numeral.parse? (if s.startsWith "0b" then .two else .byPrefix) s.toList with
    | some n => .ok n
    | none => .error (.runValue v name)
  | _ => .error (.runValue v name)

def assign (b : Bitfield) (entry : String × Value) : Except Error Bitfield :=
  match h : b.layout.find? entry.1 with
  | none => .error (.unknownRun b.container.name entry.1)
  | some p => do
    let n ← runValue entry.1 entry.2
    return b.setCell p (Layout.offset_add_width_le_of_find? h) n

/-- The bitfield that a value stands for; an existing one keeps its own layout. -/
def coerce (c : Container) (v layout : Value) : Except Error Bitfield :=
  match v with
  | .bits b => if b.container = c then .ok b else .error (.otherContainer b.container.name c.name)
  | .int n => ofRaw c n layout
  | .dict entries => do
    let start ← ofRaw c 0 layout
    entries.foldlM assign start
  | _ => .error (.unencodable v c.name)

/-- Without a container nothing can be built; the error depends on the value all the same. -/
def coerceAbstract (v : Value) : Except Error Bitfield :=
  match v with
  | .bits b => .error (.otherContainer b.container.name "Bitfield")
  | .int _ | .dict _ => .error .abstractBitfield
  | _ => .error (.unencodable v "Bitfield")

def coerceTo (width : Nat) (v layout : Value) : Except Error Bitfield :=
  match Container.ofWidth? width with
  | some c => coerce c v layout
  | none => coerceAbstract v

end Bitfield

end RecordCodec
