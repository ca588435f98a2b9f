import RecordCodec.Text.CellWidth

namespace RecordCodec.Text

structure Styled where
  chars : List Char
  spans : List (Nat × Nat)

structure Glyph where
  char : Char
  place : Nat

def Styled.glyphs (text : Styled) : List Glyph :=
  text.chars.zipIdx.map fun entry => ⟨entry.1, entry.2⟩

def edges (spans : List (Nat × Nat)) : List Nat :=
  spans.flatMap fun span => [span.1, span.2]

/-- Glyphs that are shown as one. -/
structure Grapheme where
  glyphs : List Glyph
  cells : Nat

/-- The graphemes of a text behind `current`, which goes on as long as marks follow. A picture mark
widens `last`, the last character with a width, at most once. -/
def Grapheme.following (current : Grapheme) (last : Option Char) : List Glyph → List Grapheme
  | [] => [current]
  | g :: rest =>
    if g.char = joiner then
      following ⟨current.glyphs ++ g :: rest.take 1, current.cells⟩ last (rest.drop 1)
    else if g.char = pictureMark ∧ last.any isPictograph then
      following ⟨current.glyphs ++ [g], current.cells + 1⟩ none rest
    else
      match cellWidth g.char with
      | 0 => following ⟨current.glyphs ++ [g], current.cells⟩ last rest
      | width => current :: following ⟨[g], width⟩ (some g.char) rest
termination_by text => text.length
decreasing_by all_goals simp only [List.length_drop, List.length_cons]; omega

def graphemes : List Glyph → List Grapheme
  | [] => []
  | g :: rest =>
    match cellWidth g.char with
    | 0 => Grapheme.following ⟨[g], 0⟩ none rest
    | width => Grapheme.following ⟨[g], width⟩ (some g.char) rest

def dropJoined : List Glyph → List Glyph
  | [] => []
  | [g] => if g.char = joiner then [] else [g]
  | g :: h :: rest => if g.char = joiner then dropJoined rest else g :: h :: rest

def cells (text : List Glyph) : Nat :=
  (graphemes (dropJoined text)).foldl (· + ·.cells) 0

/-- The graphemes at the beginning that take the given number of cells. Half of a wide one is a
blank. -/
def cut (width : Nat) : List Grapheme → List Glyph
  | [] => []
  | g :: rest =>
    if width = 0 then []
    else if g.cells ≤ width then g.glyphs ++ cut (width - g.cells) rest
    else (g.glyphs.take 1).map fun h => { h with char := ' ' }

def fit (width : Nat) (text : List Glyph) : List Glyph :=
  if width < cells text then cut width (graphemes text) else text

end RecordCodec.Text
