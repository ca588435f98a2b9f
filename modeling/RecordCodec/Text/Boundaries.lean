namespace RecordCodec.Text

/-- Whether code point `c` lies in the class with the given boundaries: the class begins at the
first of them, ends before the second, begins again at the third, and so on. -/
def within (c : Nat) : List Nat → Bool
  | [] => false
  | [first] => first ≤ c
  | first :: stop :: rest => first ≤ c && (c < stop || within c rest)

end RecordCodec.Text
