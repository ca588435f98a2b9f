import RecordCodec.Error
import RecordCodec.Leaf

namespace RecordCodec

structure View where
  base : Ref
  positions : List Nat
  itemSize : Nat
  format : String
  shape : List Nat
  /-- How many elements of the memory one step in the first dimension goes on. -/
  stride : Int
  readOnly : Bool

structure Slice where
  start : Option Int
  stop : Option Int
  step : Option Int
deriving Inhabited

namespace Slice

def clamp (length : Nat) (low high n : Int) : Int :=
  let n := if n < 0 then n + length else n
  max low (min high n)

def indices? (s : Slice) (length : Nat) : Option (List Nat) :=
  let step := s.step.getD 1
  let low : Int := if step < 0 then -1 else 0
  let high : Int := if step < 0 then length - 1 else length
  let start := (s.start.map (clamp length low high)).getD (if step < 0 then high else low)
  let stop := (s.stop.map (clamp length low high)).getD (if step < 0 then low else high)
  let count :=
    if step < 0 then (start - stop - step - 1) / -step else (stop - start + step - 1) / step
  if step = 0 then none
  else some ((List.range count.toNat).map fun (i : Nat) => (start + i * step).toNat)

end Slice

namespace View

def ofBytes (base : Ref) (length : Nat) (readOnly : Bool) : View :=
  ⟨base, List.range length, 1, "B", [length], 1, readOnly⟩

def chunks (size : Nat) (positions : List Nat) : List (List Nat) :=
  (List.range (if size = 0 then 0 else positions.length / size)).map fun i =>
    (positions.drop (i * size)).take size

/-- The bytes of each element of the first dimension. Without dimensions there is one element, which
cannot be taken out. -/
def elements (v : View) (data : Bytes) : List (Except Error Bytes) :=
  match v.shape with
  | [] => [.error .notIndexable]
  | length :: inner =>
    let size := v.itemSize * inner.foldl (· * ·) 1
    (List.range length).map fun i => .ok ((data.drop (i * size)).take size)

def slice (v : View) (s : Slice) : Except Error View :=
  match v.shape with
  | [] => .error .badCast
  | length :: inner =>
    match s.indices? length with
    | none => .error .zeroStep
    | some indices =>
      let elements := (chunks (v.itemSize * inner.foldl (· * ·) 1) v.positions).toArray
      .ok { v with
        positions := indices.flatMap fun i => elements.getD i []
        shape := indices.length :: inner
        stride := v.stride * s.step.getD 1 }

/-- Whether no bytes are left out between the first and the last; a row without elements counts by
its stride. -/
def isContiguous (v : View) : Bool :=
  match v.positions with
  | [] => 1 < v.shape.length || v.stride == 1
  | first :: _ => v.positions == List.range' first v.positions.length

def formatSize? : List Char → Option Nat
  | ['@', c] | [c] =>
    if c ∈ ['b', 'B', 'c', '?'] then some 1
    else if c ∈ ['h', 'H'] then some 2
    else if c ∈ ['i', 'I', 'f'] then some 4
    else if c ∈ ['l', 'L', 'q', 'Q', 'n', 'N', 'd', 'P'] then some 8
    else none
  | _ => none

def isByteFormat (format : String) : Bool :=
  format ∈ ["b", "B", "c", "@b", "@B", "@c"]

def maxDimensions : Nat := 64

/-- The number of bytes that elements of `size` bytes take in the given dimensions; the bytes up to
each of them have addresses. -/
def extent (size : Nat) (dims : List Int) : Except Error Nat :=
  dims.foldlM (fun (total : Nat) (n : Int) =>
    if !Window.isAddress n then .error .offsetTooLarge
    else if n ≤ 0 ∨ !Window.isAddress (n * total) then .error .badFormat
    else .ok (n * total).toNat) size

def cast (v : View) (format : String) (shape : Option (List Int)) : Except Error View := do
  if !v.isContiguous then throw .badCast
  if (shape.isSome || v.shape.length ≠ 1) && v.shape.contains 0 then throw .badCast
  if (shape.map List.length).any (maxDimensions < ·) then throw .badFormat
  if v.shape.length ≠ 1 && (shape.map List.length).any (· ≠ 1) then throw .badCast
  match formatSize? format.toList with
  | none => throw .badFormat
  | some size =>
    if !isByteFormat v.format && !isByteFormat format then throw .badCast
    if v.positions.length % size ≠ 0 then throw .badCast
    let flat :=
      { v with itemSize := size, format, shape := [v.positions.length / size], stride := 1 }
    match shape with
    | none => return flat
    | some dims =>
      if (← extent size dims) ≠ v.positions.length then throw .badCast
      return { flat with shape := dims.map Int.toNat }

def isFlattenable (v : View) : Bool :=
  v.shape.length == 1 || !v.shape.contains 0

end View

end RecordCodec
