import RecordCodec.Text.Blank
import RecordCodec.Text.Emoji
import RecordCodec.Text.Glyph
import RecordCodec.Text.Lower
import RecordCodec.Text.Style

namespace RecordCodec.Text

namespace Markup

inductive Part where
  | text (chars : List Char)
  | tag (chars : List Char)

def isTagInitial (c : Char) : Bool :=
  c.isLower || c == '#' || c == '/' || c == '@'

def tag? : List Char → Option (List Char × List Char)
  | '[' :: c :: text =>
    if isTagInitial c then
      match text.dropWhile fun c => c != '[' && c != ']' with
      | ']' :: rest =>
        some ('[' :: c :: (text.takeWhile fun c => c != '[' && c != ']') ++ [']'], rest)
      | _ => none
    else none
  | _ => none

theorem length_lt_of_tag? {text tag rest : List Char} (h : tag? text = some (tag, rest)) :
    rest.length < text.length := by
  unfold tag? at h
  split at h
  · rename_i c text
    split at h
    · split at h
      · rename_i rest' hd
        cases h
        have := (List.dropWhile_sublist fun c => c != '[' && c != ']' : List.Sublist _ text)
        have := hd ▸ this.length_le
        simp only [List.length_cons] at this ⊢
        omega
      · contradiction
    · contradiction
  · contradiction

/-- The texts and the tags of a text; `pending` has been read of the next text, last character
first. -/
def parts (pending text : List Char) : List Part :=
  match text with
  | [] => [.text pending.reverse]
  | c :: rest =>
    let slashes := (c :: rest).takeWhile (· == '\\')
    match h : tag? ((c :: rest).dropWhile (· == '\\')) with
    | some (tag, after) =>
      .text pending.reverse :: .text (List.replicate (slashes.length / 2) '\\') ::
        (if slashes.length % 2 = 1 then .text tag else .tag (tag.tail.dropLast)) :: parts [] after
    | none => parts (c :: pending) rest
termination_by text.length
decreasing_by
  · have := length_lt_of_tag? h
    have := (List.dropWhile_sublist (· == '\\') : List.Sublist _ (c :: rest)).length_le
    omega
  · simp

def unescape : List Char → List Char
  | [] => []
  | '\\' :: '[' :: rest => '[' :: unescape rest
  | c :: rest => c :: unescape rest

def nameAndMark (code : List Char) : List Char × List Char :=
  let pick (suffix : String) (mark : Char) : Option (List Char × List Char) :=
    if suffix.toList.isSuffixOf code then
      some (code.take (code.length - suffix.length), [mark])
    else none
  (pick "-emoji" pictureMark <|> pick "-text" textMark).getD (code, [])

def picture? (code : List Char) : Option (List Char) :=
  let (name, mark) := nameAndMark code
  (emoji? (String.ofList (name.map lower))).map (· ++ mark)

def isCodeChar (c : Char) : Bool :=
  c != ':' && !isBlank c

def withPictures : List Char → List Char
  | [] => []
  | c :: rest =>
    if c = ':' then
      match _h : rest.dropWhile isCodeChar with
      | ':' :: after =>
        let code := rest.takeWhile isCodeChar
        (picture? code).getD (':' :: code ++ [':']) ++ withPictures after
      | _ => c :: withPictures rest
    else c :: withPictures rest
termination_by text => text.length
decreasing_by
  · have := _h ▸ (List.dropWhile_sublist isCodeChar : List.Sublist _ rest).length_le
    simp only [List.length_cons] at this ⊢
    omega
  all_goals simp

def isShown (c : Char) : Bool :=
  c.toNat ∉ [7, 8, 11, 12, 13]

abbrev Begun := Option (Style ⊕ List (List Char)) × Nat

/-- Shows the parts of a text behind `shown`. A tag with a slash ends the style of its name that has
been begun last; the end of the text ends the others. -/
def styled (shown : Styled) (begun : List Begun) : List Part → Styled
  | [] =>
    { shown with
      spans := begun.map (fun style => (style.2, shown.chars.length)) ++ shown.spans }
  | .text chars :: rest =>
    let chars := (withPictures (unescape chars)).filter isShown
    styled { shown with chars := shown.chars ++ chars } begun rest
  | .tag ('/' :: chars) :: rest =>
    match begun.find? (·.1 == Style.named? chars) with
    | none => styled shown begun rest
    | some style =>
      styled { shown with spans := (style.2, shown.chars.length) :: shown.spans }
        (begun.eraseP (·.1 == Style.named? chars)) rest
  | .tag chars :: rest => styled shown ((Style.named? chars, shown.chars.length) :: begun) rest

end Markup

def isReadable (text : String) : Bool :=
  (Markup.parts [] text.toList).all fun
    | .text _ => true
    | .tag chars => Style.isReadable chars

def styledText (text : String) : Styled :=
  Markup.styled ⟨[], []⟩ [] (Markup.parts [] text.toList)

end RecordCodec.Text
