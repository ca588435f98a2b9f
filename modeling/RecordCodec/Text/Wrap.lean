import RecordCodec.Text.Blank
import RecordCodec.Text.Glyph
import RecordCodec.Text.Lines

namespace RecordCodec.Text

def Glyph.isBlank (g : Glyph) : Bool := Text.isBlank g.char

def words (text : List Glyph) : List (List Glyph) :=
  let lead := text.takeWhile Glyph.isBlank
  match _h : text.dropWhile Glyph.isBlank with
  | [] => []
  | g :: rest =>
    let behind := rest.dropWhile fun g => !g.isBlank
    (lead ++ g :: (rest.takeWhile fun g => !g.isBlank) ++ behind.takeWhile Glyph.isBlank) ::
      words (behind.dropWhile Glyph.isBlank)
termination_by text.length
decreasing_by
  have h₀ := _h ▸ (List.dropWhile_sublist (l := text) Glyph.isBlank).length_le
  have h₁ := (List.dropWhile_sublist (l := rest) fun g => !g.isBlank).length_le
  have h₂ := (List.dropWhile_sublist (l := rest.dropWhile fun g => !g.isBlank)
    Glyph.isBlank).length_le
  simp only [List.length_cons] at h₀
  omega

def trimEnd (text : List Glyph) : List Glyph :=
  (text.reverse.dropWhile Glyph.isBlank).reverse

/-- Breaks a text where its graphemes do not fit in `width` cells. Of the first piece, `used` cells
are taken by what comes before. -/
def fold (width used : Nat) : List Grapheme → List (List Glyph)
  | [] => [[]]
  | g :: rest =>
    let here := used + g.cells ≤ width
    match fold width (if here then used + g.cells else g.cells) rest with
    | [] => []
    | piece :: others =>
      if here then (g.glyphs ++ piece) :: others else [] :: (g.glyphs ++ piece) :: others

def fill (width : Nat) (line : List Glyph) (used : Nat) : List (List Glyph) → List (List Glyph)
  | [] => [line]
  | word :: rest =>
    let size := cells (trimEnd word)
    if used + size ≤ width then fill width (line ++ word) (used + cells word) rest
    else
      let begun := if line.isEmpty then [] else [line]
      if width < size then
        let pieces := fold width 0 (graphemes word)
        let last := pieces.getLast?.getD []
        begun ++ pieces.dropLast ++ fill width last (cells last) rest
      else begun ++ fill width word (cells word) rest

def shorten (width : Nat) (line : List Glyph) : List Glyph :=
  let blanks := line.length - (trimEnd line).length
  line.take (line.length - min blanks (line.length - width))

def expandTabs (text : List Glyph) : List Glyph :=
  match _h : text.dropWhile (·.char != '\t') with
  | [] => text
  | tab :: rest =>
    let blank := { tab with char := ' ' }
    let before := text.takeWhile (·.char != '\t') ++ [blank]
    before ++ List.replicate ((8 - cells before % 8) % 8) blank ++ expandTabs rest
termination_by text.length
decreasing_by
  have h := _h ▸ (List.dropWhile_sublist (l := text) (·.char != '\t')).length_le
  exact h

/-- Cuts a line so that its runs, taken by themselves, have room. -/
def fitRuns (width : Nat) : List (List Glyph) → List Glyph
  | [] => []
  | run :: rest =>
    let size := cells run
    if size < width then run ++ fitRuns (width - size) rest else fit width run

def fitLine (width : Nat) (edges : List Nat) (line : List Glyph) : List Glyph :=
  let runs := line.splitBy fun g h => g.place == h.place || h.place ∉ edges
  if width < runs.foldl (· + cells ·) 0 then fitRuns width runs else line

def wrapLine (width : Nat) (text : List Glyph) : List (List Glyph) :=
  let text := expandTabs text
  let lines := match words text with
    | [] => [text]
    | words => fill width [] 0 words
  lines.map fun line => fit width (shorten width line)

def tabEnds (text : List Glyph) : List Nat :=
  (text.filter (·.char == '\t')).map (·.place + 1)

/-- The lines of a text, none wider than `width` cells. In a text that is not taken apart, styles
without characters have edges too. -/
def wrap (width : Nat) (text : Styled) : List String :=
  let lines := (text.glyphs.splitOnP (·.char == '\n')).flatMap (wrapLine width)
  let tabEnds := tabEnds text.glyphs
  let isWhole := lines.length = 1 ∧ tabEnds.isEmpty
  let spans := if isWhole then text.spans else text.spans.filter fun span => span.1 < span.2
  lines.map fun line =>
    String.ofList ((fitLine width (edges spans ++ tabEnds) line).map Glyph.char)

end RecordCodec.Text
