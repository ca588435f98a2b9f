namespace RecordCodec.Text

structure Column where
  cells : List String
  right : Bool

namespace Column

def width (c : Column) : Nat :=
  (c.cells.map String.length).foldl max 0

def align (c : Column) (cell : String) : String :=
  let blanks := String.ofList (List.replicate (c.width - cell.length) ' ')
  (if c.right then blanks ++ cell else cell ++ blanks) ++ "  "

def aligned (c : Column) : List String :=
  c.cells.map c.align

end Column

def tableLines (columns : List Column) : List String :=
  match columns.map Column.aligned with
  | [] => []
  | first :: rest => rest.foldl (List.zipWith (· ++ ·)) first

end RecordCodec.Text
