import RecordCodec.Value.Basic

namespace RecordCodec.Value

variable {α : Type}

/-- Replaces the item under a key, or adds it at the end. -/
def insertEntry (key : String) (item : α) : List (String × α) → List (String × α)
  | [] => [(key, item)]
  | (k, x) :: rest => if k = key then (k, item) :: rest else (k, x) :: insertEntry key item rest

def entriesOf (pairs : List (String × α)) : List (String × α) :=
  pairs.foldl (fun entries pair => insertEntry pair.1 pair.2 entries) []

end RecordCodec.Value
