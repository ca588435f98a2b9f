namespace RecordCodec.Text

def splitLines : List Char → List (List Char)
  | [] => [[]]
  | c :: rest =>
    if c = '\n' then [] :: splitLines rest
    else
      match splitLines rest with
      | [] => [[c]]
      | line :: lines => (c :: line) :: lines

def isLineEnd (c : Char) : Bool :=
  let n := c.toNat
  (10 ≤ n && n ≤ 13) || (28 ≤ n && n ≤ 30) || n == 0x85 || n == 0x2028 || n == 0x2029

def lines : List Char → List (List Char)
  | [] => []
  | '\r' :: '\n' :: rest => [] :: lines rest
  | c :: rest =>
    if isLineEnd c then [] :: lines rest
    else
      match lines rest with
      | [] => [[c]]
      | line :: others => (c :: line) :: others

/-- Puts blanks before every line but the first and those that are empty. -/
def indentRest (width : Nat) (text : String) : String :=
  let shift (line : List Char) :=
    '\n' :: if line.isEmpty then [] else List.replicate width ' ' ++ line
  match lines (text.toList ++ ['\n']) with
  | [] => ""
  | first :: rest => String.ofList (first ++ rest.flatMap shift)

end RecordCodec.Text
