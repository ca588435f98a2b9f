import RecordCodec.Value.Basic

namespace RecordCodec

inductive Document where
  | null
  | bool (b : Bool)
  | int (n : Int)
  | float (x : Binary64)
  | text (s : String)
  | array (items : List Document)
  | object (entries : List (String × Document))

namespace Document

instance : Inhabited Document := ⟨.null⟩

mutual

def ofValue? : Value → Option Document
  | .none => some null
  | .bool b => some (bool b)
  | .int n => some (int n)
  | .float x => some (float x)
  | .text s => some (text s)
  | .bytes _ | .bytearray _ | .bits _ | .again _ => none
  | .list items | .tuple items => (ofItems? items).map array
  | .dict entries => (ofEntries? entries).map object

def ofItems? : List Value → Option (List Document)
  | [] => some []
  | v :: rest => do
    let d ← ofValue? v
    let ds ← ofItems? rest
    return d :: ds

def ofEntries? : List (String × Value) → Option (List (String × Document))
  | [] => some []
  | (key, v) :: rest => do
    let d ← ofValue? v
    let ds ← ofEntries? rest
    return (key, d) :: ds

end

mutual

def isWritable : Document → Bool
  | int n => Numeral.isWritable n
  | array items => areWritable items
  | object entries => areEntriesWritable entries
  | _ => true

def areWritable : List Document → Bool
  | [] => true
  | d :: rest => isWritable d && areWritable rest

def areEntriesWritable : List (String × Document) → Bool
  | [] => true
  | (_, d) :: rest => isWritable d && areEntriesWritable rest

end

end Document

end RecordCodec
