import RecordCodec.Text.Word

namespace RecordCodec.Text

inductive Pattern where
  | nothing
  | one (p : Char → Bool)
  | seq (a b : Pattern)
  | either (a b : Pattern)
  /-- A pattern `least` times and up to `most` times, rather more often if `greedy`. -/
  | times (greedy : Bool) (least : Nat) (most : Option Nat) (a : Pattern)
  | edge
  | notAfter (p : Char → Bool)
  | marked (a : Pattern)

namespace Pattern

structure Progress where
  before : Option Char
  rest : List Char
  place : Nat
  spans : List (Nat × Nat)

abbrev Matcher := (Progress → Option Progress) → Progress → Option Progress

def exactly (step : Matcher) : Nat → Matcher
  | 0, next => next
  | n + 1, next => step (exactly step n next)

def upTo (greedy : Bool) (step : Matcher) : Nat → Matcher
  | 0, next => next
  | n + 1, next => fun here =>
    if greedy then step (upTo greedy step n next) here <|> next here
    else next here <|> step (upTo greedy step n next) here

/-- Matches a pattern at the beginning of the rest, and what `next` asks for behind it. A repeated
pattern takes a character at least. -/
def matching : Pattern → Matcher
  | nothing, next => next
  | one p, next => fun here =>
    match here.rest with
    | [] => none
    | c :: rest => if p c then next { here with before := some c, rest, place := here.place + 1 } else none
  | seq a b, next => a.matching (b.matching next)
  | either a b, next => fun here => a.matching next here <|> b.matching next here
  | times greedy least most a, next => fun here =>
    let more := (most.getD (least + here.rest.length)) - least
    exactly a.matching least (upTo greedy a.matching more next) here
  | edge, next => fun here =>
    if here.before.any isWord == here.rest.head?.any isWord then none else next here
  | notAfter p, next => fun here => if here.before.any p then none else next here
  | marked a, next => fun start =>
    a.matching (fun stop =>
      next (if stop.place = start.place then stop
        else { stop with spans := (start.place, stop.place) :: stop.spans })) start

/-- Where the marked parts of all matches lie in a text from `place` on. A match begins behind the
one before. -/
def spansFrom (a : Pattern) (before : Option Char) (place : Nat) (text : List Char) :
    List (Nat × Nat) :=
  match text with
  | [] => []
  | c :: rest =>
    match a.matching some ⟨before, c :: rest, place, []⟩ with
    | none => a.spansFrom (some c) (place + 1) rest
    | some found =>
      if found.rest.length ≤ rest.length then
        found.spans ++ a.spansFrom found.before found.place found.rest
      else a.spansFrom (some c) (place + 1) rest
termination_by text.length
decreasing_by all_goals simp only [List.length_cons]; omega

def spansIn (a : Pattern) (text : List Char) : List (Nat × Nat) :=
  a.spansFrom none 0 text

def inOrder (parts : List Pattern) : Pattern :=
  parts.foldr seq nothing

def firstOf (choices : List Pattern) : Pattern :=
  choices.foldr either (one fun _ => false)

def char (c : Char) : Pattern :=
  one (· == c)

def charOf (chars : String) : Pattern :=
  one fun c => chars.contains c

def literal (s : String) : Pattern :=
  inOrder (s.toList.map char)

def optional (a : Pattern) : Pattern :=
  times true 0 (some 1) a

def many (a : Pattern) : Pattern :=
  times true 0 none a

def several (a : Pattern) : Pattern :=
  times true 1 none a

def repeated (n : Nat) (a : Pattern) : Pattern :=
  times true n (some n) a

end Pattern

end RecordCodec.Text
