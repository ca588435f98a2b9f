import RecordCodec.Text.Blank
import RecordCodec.Text.Digit
import RecordCodec.Text.Lower

namespace RecordCodec.Text

structure Style where
  attributes : List (Option Bool)
  colour : Option (List Char)
  ground : Option (List Char)
  address : Option (List Char)
deriving DecidableEq

namespace Style

def attributeNames : List (List String) :=
  [["dim", "d"], ["bold", "b"], ["italic", "i"], ["underline", "u"], ["blink"], ["blink2"],
    ["reverse", "r"], ["conceal", "c"], ["strike", "s"], ["underline2", "uu"], ["frame"],
    ["encircle"], ["overline", "o"]]

def plain : Style :=
  ⟨attributeNames.map fun _ => none, none, none, none⟩

def attribute? (s : Style) (name : List Char) (isSet : Bool) : Option Style :=
  (attributeNames.findIdx? (·.contains (String.ofList name))).map fun i =>
    { s with attributes := s.attributes.set i (some isSet) }

inductive Failure where
  | noStyle
  | fault
deriving DecidableEq

def colours : List String :=
  ["black", "red", "green", "yellow", "blue", "magenta", "cyan", "white", "bright_black",
    "bright_red", "bright_green", "bright_yellow", "bright_blue", "bright_magenta", "bright_cyan",
    "bright_white", "grey0", "gray0", "navy_blue", "dark_blue", "blue3", "blue1", "dark_green",
    "deep_sky_blue4", "dodger_blue3", "dodger_blue2", "green4", "spring_green4", "turquoise4",
    "deep_sky_blue3", "dodger_blue1", "green3", "spring_green3", "dark_cyan", "light_sea_green",
    "deep_sky_blue2", "deep_sky_blue1", "spring_green2", "cyan3", "dark_turquoise", "turquoise2",
    "green1", "spring_green1", "medium_spring_green", "cyan2", "cyan1", "dark_red", "deep_pink4",
    "purple4", "purple3", "blue_violet", "orange4", "grey37", "gray37", "medium_purple4",
    "slate_blue3", "royal_blue1", "chartreuse4", "dark_sea_green4", "pale_turquoise4", "steel_blue",
    "steel_blue3", "cornflower_blue", "chartreuse3", "cadet_blue", "sky_blue3", "steel_blue1",
    "pale_green3", "sea_green3", "aquamarine3", "medium_turquoise", "chartreuse2", "sea_green2",
    "sea_green1", "aquamarine1", "dark_slate_gray2", "dark_magenta", "dark_violet", "purple",
    "light_pink4", "plum4", "medium_purple3", "slate_blue1", "yellow4", "wheat4", "grey53",
    "gray53", "light_slate_grey", "light_slate_gray", "medium_purple", "light_slate_blue",
    "dark_olive_green3", "dark_sea_green", "light_sky_blue3", "sky_blue2", "dark_sea_green3",
    "dark_slate_gray3", "sky_blue1", "chartreuse1", "light_green", "pale_green1",
    "dark_slate_gray1", "red3", "medium_violet_red", "magenta3", "dark_orange3", "indian_red",
    "hot_pink3", "medium_orchid3", "medium_orchid", "medium_purple2", "dark_goldenrod",
    "light_salmon3", "rosy_brown", "grey63", "gray63", "medium_purple1", "gold3", "dark_khaki",
    "navajo_white3", "grey69", "gray69", "light_steel_blue3", "light_steel_blue", "yellow3",
    "dark_sea_green2", "light_cyan3", "light_sky_blue1", "green_yellow", "dark_olive_green2",
    "dark_sea_green1", "pale_turquoise1", "deep_pink3", "magenta2", "hot_pink2", "orchid",
    "medium_orchid1", "orange3", "light_pink3", "pink3", "plum3", "violet", "light_goldenrod3",
    "tan", "misty_rose3", "thistle3", "plum2", "khaki3", "light_goldenrod2", "light_yellow3",
    "grey84", "gray84", "light_steel_blue1", "yellow2", "dark_olive_green1", "honeydew2",
    "light_cyan1", "red1", "deep_pink2", "deep_pink1", "magenta1", "orange_red1", "indian_red1",
    "hot_pink", "dark_orange", "salmon1", "light_coral", "pale_violet_red1", "orchid2", "orchid1",
    "orange1", "sandy_brown", "light_salmon1", "light_pink1", "pink1", "plum1", "gold1",
    "navajo_white1", "misty_rose1", "thistle1", "yellow1", "light_goldenrod1", "khaki1", "wheat1",
    "cornsilk1", "grey100", "gray100", "grey3", "gray3", "grey7", "gray7", "grey11", "gray11",
    "grey15", "gray15", "grey19", "gray19", "grey23", "gray23", "grey27", "gray27", "grey30",
    "gray30", "grey35", "gray35", "grey39", "gray39", "grey42", "gray42", "grey46", "gray46",
    "grey50", "gray50", "grey54", "gray54", "grey58", "gray58", "grey62", "gray62", "grey66",
    "gray66", "grey70", "gray70", "grey74", "gray74", "grey78", "gray78", "grey82", "gray82",
    "grey85", "gray85", "grey89", "gray89", "grey93", "gray93"]

def isHexDigit (c : Char) : Bool :=
  c.isDigit || ('a' ≤ c && c ≤ 'f')

def argument? (start : String) (word : List Char) : Option (List Char) :=
  if start.toList.isPrefixOf word && word.getLast? = some ')' then
    some (word.drop start.length).dropLast
  else none

def isNumbered (digits : List Char) : Bool :=
  0 < digits.length && digits.length ≤ 3 && digits.all Char.isDigit &&
    digits.foldl (fun n c => 10 * n + (c.toNat - '0'.toNat)) 0 ≤ 255

def checkShares (shares : List Char) : Except Failure Unit :=
  let parts := shares.splitOnP (· == ',')
  if shares.isEmpty || !shares.all (fun c => c == ',' || (decimalValue? c).isSome) then
    .error .noStyle
  else if parts.length ≠ 3 then .error .noStyle
  else if parts.any List.isEmpty then .error .fault
  else .ok ()

def colourOf (word : List Char) : Except Failure (List Char) := do
  let word := word.map lower
  if String.ofList word = "default" || String.ofList word ∈ colours then return word
  match word, argument? "color(" word, argument? "rgb(" word with
  | '#' :: digits, _, _ => if digits.length = 6 && digits.all isHexDigit then return word
  | _, some number, _ => if isNumbered number then return word
  | _, _, some shares =>
    checkShares shares
    return word
  | _, _, _ => pure ()
  throw .noStyle

/-- Adds what words say from left to right; the first that does not fit decides. -/
def read (s : Style) : List (List Char) → Except Failure Style
  | [] => .ok s
  | word :: rest =>
    match String.ofList (word.map lower), rest with
    | "on", [] | "not", [] | "link", [] => .error .noStyle
    | "on", word :: rest => do
      let colour ← colourOf word
      read { s with ground := some colour } rest
    | "not", name :: rest =>
      match s.attribute? name false with
      | some s => read s rest
      | none => .error .noStyle
    | "link", address :: rest => read { s with address := some address } rest
    | _, rest =>
      match s.attribute? (word.map lower) true with
      | some s => read s rest
      | none => do
        let colour ← colourOf word
        read { s with colour := some colour } rest

def words (text : List Char) : List (List Char) :=
  (text.splitOnP isBlank).filter (!·.isEmpty)

def ofWords (words : List (List Char)) : Except Failure Style :=
  if words = [['n', 'o', 'n', 'e']] then .ok plain else plain.read words

/-- What the part of a tag before `=` names: a style, or else words in small letters. Nothing if
it is at fault. -/
def named? (tag : List Char) : Option (Style ⊕ List (List Char)) :=
  let name := words (tag.takeWhile (· != '='))
  match ofWords name with
  | .ok s => some (.inl s)
  | .error .noStyle => some (.inr (name.map (·.map lower)))
  | .error .fault => none

def canFollow (s : Style) (words : List (List Char)) : Bool :=
  match s.read words with
  | .error .fault => false
  | _ => true

def isReadable (tag : List Char) : Bool :=
  let more := words (tag.dropWhile (· != '=')).tail
  match named? tag with
  | none => false
  | some (.inl s) => s = plain || s.canFollow more
  | some (.inr name) => plain.canFollow (name ++ more)

end Style

end RecordCodec.Text
