import RecordCodec.Text.Digit
import RecordCodec.Text.Glyph
import RecordCodec.Text.Pattern

namespace RecordCodec.Text

namespace Highlight

open Pattern

def isHexDigit (c : Char) : Bool :=
  c.isDigit || ('a' ≤ c && c ≤ 'f') || ('A' ≤ c && c ≤ 'F')

def digit : Pattern := one Char.isDigit

def hexDigit : Pattern := one isHexDigit

def word : Pattern := one isWord

def sign : Pattern := charOf "+-"

def tag : Pattern :=
  inOrder [marked (char '<'), marked (many (one fun c => isWord c || "-.:|".contains c)),
    marked (many (one fun _ => true)), marked (char '>')]

def assignment : Pattern :=
  inOrder [marked (times true 1 (some 50) word), char '=',
    optional (marked (inOrder [optional (char '"'), several word, optional (char '"')]))]

def bracket : Pattern :=
  marked (charOf "[]\x7b\x7d()")

def address4 : Pattern :=
  marked (inOrder [times true 1 (some 3) digit, char '.', times true 1 (some 3) digit, char '.',
    times true 1 (some 3) digit, char '.', times true 1 (some 3) digit])

def address6 : Pattern :=
  let group := times true 1 (some 4) hexDigit
  marked (seq (times true 1 (some 7) (inOrder [group, char ':', optional (char ':')])) group)

def device (pairs groups : Nat) : Pattern :=
  let pair := times true 1 (some 2) hexDigit
  let four := repeated 4 hexDigit
  let joined (n : Nat) (part : Pattern) (mark : Char) :=
    seq (repeated (n - 1) (seq part (char mark))) part
  marked (firstOf [joined pairs pair '-', joined pairs pair ':', joined groups four '.'])

def identifier : Pattern :=
  let part (n : Nat) := repeated n hexDigit
  marked (inOrder [part 8, char '-', part 4, char '-', part 4, char '-', part 4, char '-', part 12])

def call : Pattern :=
  seq (marked (times false 0 none (one fun c => isWord c || c == '.'))) (char '(')

def constant : Pattern :=
  firstOf (["True", "False", "None"].map fun s => inOrder [edge, marked (literal s), edge])

def ellipsis : Pattern :=
  marked (literal "...")

/-- A number without a sign; its exponent has as few digits as possible unless `greedy`. -/
def unsigned (greedy : Bool) : Pattern :=
  inOrder [several digit, optional (char '.'), many digit,
    optional (inOrder [char 'e', optional sign,
      times greedy 1 none (one fun c => (decimalValue? c).isSome)])]

def signed : Pattern :=
  inOrder [notAfter isWord, optional (char '-'), unsigned false]

def complex : Pattern :=
  marked (inOrder [signed, optional (seq sign (unsigned true)), char 'j'])

def number : Pattern :=
  marked (either (seq signed edge) (seq (literal "0x") (many hexDigit)))

def quoted : Pattern :=
  let between (quotes : String) :=
    inOrder [optional (char 'b'), literal quotes, times false 0 none (one (· != '\n')),
      notAfter (· == '\\'), literal quotes]
  seq (notAfter fun c => c == '\\' || isWord c)
    (marked (firstOf [between "\x27\x27\x27", between "\x27", between "\x22\x22\x22",
      between "\x22"]))

def value : Pattern :=
  firstOf [address4, address6, device 8 4, device 6 3, identifier, call, constant, ellipsis,
    complex, number, quoted]

def patterns : List Pattern :=
  [tag, assignment, bracket, value]

end Highlight

def highlighted (text : Styled) : Styled :=
  { text with
    spans := text.spans ++ Highlight.patterns.flatMap fun p => p.spansIn text.chars }

end RecordCodec.Text
