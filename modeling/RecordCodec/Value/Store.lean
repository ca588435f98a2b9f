import RecordCodec.Value.Entries
import RecordCodec.Value.Projection

namespace RecordCodec

abbrev Ref := Nat

inductive Cell where
  | atom (v : Value)
  | bytearray (data : Bytes)
  | list (items : List Ref)
  | tuple (items : List Ref)
  | dict (entries : List (String × Ref))
  | bits (b : Bitfield)

instance : Inhabited Cell := ⟨.atom .none⟩

structure Store where
  cells : Array Cell

namespace Store

def empty : Store := ⟨#[]⟩

def insert (c : Cell) : StateM Store Ref := fun s =>
  (s.cells.size, ⟨s.cells.push c⟩)

def get? (s : Store) (r : Ref) : Option Cell :=
  s.cells[r]?

def replace (s : Store) (r : Ref) (c : Cell) : Store :=
  ⟨s.cells.setIfInBounds r c⟩

mutual

def insertValue : Value → StateM Store Ref
  | .bytearray data => insert (.bytearray data)
  | .list items => do insert (.list (← insertAll items))
  | .tuple items => do insert (.tuple (← insertAll items))
  | .dict entries => do insert (.dict (← insertEntries entries))
  | .bits b => insert (.bits b)
  | v => insert (.atom v)

def insertAll : List Value → StateM Store (List Ref)
  | [] => return []
  | v :: rest => do
    let r ← insertValue v
    return r :: (← insertAll rest)

def insertEntries : List (String × Value) → StateM Store (List (String × Ref))
  | [] => return []
  | (key, v) :: rest => do
    let r ← insertValue v
    return (key, r) :: (← insertEntries rest)

end

def collection? : Cell → Option Collection
  | .list _ => some .list
  | .tuple _ => some .tuple
  | .dict _ => some .dict
  | _ => none

/-- The value of a part at most `depth` levels deep, with other bytes in the byte strings that
`memory` knows. What holds itself is cut off where it comes up again: below the parts `above`. -/
def valueWithin (s : Store) (memory : Ref → Option Bytes) : Nat → List Ref → Ref → Option Value
  | 0, _, _ => none
  | depth + 1, above, r => do
    let cell ← s.get? r
    let inner := s.valueWithin memory depth (r :: above)
    match if r ∈ above then collection? cell else none with
    | some c => return .again c
    | none =>
      match cell with
      | .atom v => return v
      | .bytearray data => return .bytearray ((memory r).getD data)
      | .list items => return .list (← items.mapM inner)
      | .tuple items => return .tuple (← items.mapM inner)
      | .dict entries =>
        return .dict (← entries.mapM fun entry => do return (entry.1, ← inner entry.2))
      | .bits b => return .bits b

def valueWith? (s : Store) (memory : Ref → Option Bytes) (r : Ref) : Option Value :=
  s.valueWithin memory (s.cells.size + 1) [] r

def value? (s : Store) (r : Ref) : Option Value :=
  s.valueWith? (fun _ => none) r

/-- The external representation of a part at most `depth` levels deep. Lists and mappings are
built anew, other parts that stay as they are remain shared. -/
def projectWithin : Nat → Ref → StateT Store Option Ref
  | 0, _ => failure
  | depth + 1, r => do
    match (← get).get? r with
    | none => failure
    | some (.bits b) => always (insertValue (.dict b.project))
    | some (.list items) =>
      let items ← items.mapM (projectWithin depth)
      always (insert (.list items))
    | some (.dict entries) =>
      let kept := entries.filter fun entry => !Value.isReservedName entry.1
      let kept ← kept.mapM fun entry => do return (entry.1, ← projectWithin depth entry.2)
      always (insert (.dict kept))
    | some _ => return r
where
  always (action : StateM Store Ref) : StateT Store Option Ref := fun s => some (action s)

def project? (s : Store) (r : Ref) : Option (Ref × Store) :=
  (projectWithin (s.cells.size + 1) r).run s

def atomsEqual : Value → Value → Bool
  | .none, .none => true
  | .text s, .text t => s == t
  | .float x, .float y => x.beq y
  | .float x, v | v, .float x =>
    match v.toInt? with
    | some n => x.eqInt n
    | none => false
  | v, w =>
    match v.toInt?, w.toInt? with
    | some m, some n => m == n
    | _, _ => false

def bytesOf? : Cell → Option Bytes
  | .atom (.bytes data) | .bytearray data => some data
  | _ => none

def allEqual (same : Ref → Ref → Option Bool) : List (Ref × Ref) → Option Bool
  | [] => some true
  | (a, b) :: rest => do
    if ← same a b then allEqual same rest else return false

def equalWithin (s : Store) : Nat → Ref → Ref → Option Bool
  | 0, _, _ => none
  | depth + 1, a, b =>
    let same (x y : Ref) := if x = y then some true else equalWithin s depth x y
    let sameAll (xs ys : List Ref) :=
      if xs.length = ys.length then allEqual same (xs.zip ys) else some false
    match s.get? a, s.get? b with
    | some (.list xs), some (.list ys) => sameAll xs ys
    | some (.tuple xs), some (.tuple ys) => sameAll xs ys
    | some (.dict xs), some (.dict ys) =>
      if xs.length ≠ ys.length then some false
      else
        match xs.mapM fun entry => (ys.lookup entry.1).map fun y => (entry.2, y) with
        | some pairs => allEqual same pairs
        | none => some false
    | some (.bits b), some (.bits c) => some (b == c)
    | some c, some d =>
      match bytesOf? c, bytesOf? d, c, d with
      | some x, some y, _, _ => some (x == y)
      | _, _, .atom v, .atom w => some (atomsEqual v w)
      | _, _, _, _ => some false
    | _, _ => some false

def equal? (s : Store) (a b : Ref) : Option Bool :=
  s.equalWithin (s.cells.size * s.cells.size + 1) a b

end Store

end RecordCodec
