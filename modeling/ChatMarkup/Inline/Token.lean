import ChatMarkup.Inline.Switches
import ChatMarkup.Span
import ChatMarkup.Text.Blank

/-!
# Tokens of Inline Markup

The units that inline text falls into before any emphasis is paired.

Each token remembers how it was written, and `Token.source` writes it again:
the sources of the tokens of a text, one after the other, are the text. What a
token comes to mean is a separate question, which depends on the switches. So
a link is a link token even where links are switched off; it is then shown as
its source.

## Main definitions

* `Marker`: The three characters that mark emphasis.
* `Run`: A maximal run of one marker, and what it can do where it stands.
* `Link`: A bracketed label with a target.
* `Link.url`: The address within the target.
* `Token`: A unit of inline text.
* `Token.source`: The unit as it was written.
-/

namespace ChatMarkup.Inline

/-- A character that marks emphasis. -/
inductive Marker
  | asterisk
  | underscore
  | tilde
  deriving DecidableEq, Repr

namespace Marker

/-- The marker as it is written. -/
def char : Marker → Char
  | asterisk => '*'
  | underscore => '_'
  | tilde => '~'

/-- The marker that a character is, if it is one. -/
def ofChar? (c : Char) : Option Marker :=
  if c = '*' then some asterisk
  else if c = '_' then some underscore
  else if c = '~' then some tilde
  else none

end Marker

/-- A maximal run of one marker. Whether it can open or close emphasis depends
    on the characters around it, so it is settled when the run is read. -/
structure Run where
  /-- The character repeated. -/
  marker : Marker
  /-- How often. -/
  length : Nat
  /-- It can begin emphasis on what follows. -/
  canOpen : Bool
  /-- It can end emphasis on what precedes. -/
  canClose : Bool
  deriving DecidableEq, Repr

namespace Run

/-- The run as it was written. -/
def source (run : Run) : Text :=
  List.replicate run.length run.marker.char

/-- Whether the run takes part in the pairing. A run whose own kind is switched
    off is text, and so is one that stands where it can neither open nor
    close. -/
def takesPart (switches : Switches) (run : Run) : Bool :=
  (run.canOpen || run.canClose) &&
    match run.marker with
    | .tilde => switches.strike && run.length == 2
    | .underscore => switches.underscores && switches.allowsSize (min run.length 3)
    | .asterisk => switches.allowsSize (min run.length 3)

end Run

/-- A label in brackets with a target in parentheses right after it. -/
structure Link where
  /-- What stands between the brackets. -/
  label : Text
  /-- What stands between the parentheses. -/
  target : Text
  deriving DecidableEq, Repr

namespace Link

/-- The link as it was written. -/
def source (link : Link) : Text :=
  '[' :: link.label ++ ']' :: '(' :: link.target ++ [')']

/-- The address within the target: its first word, without angle brackets if
    it stands in a pair of them. A title after it is dropped. -/
def url (link : Link) : Text :=
  match Text.firstWord link.target with
  | '<' :: rest => if rest.getLast? = some '>' then rest.dropLast else '<' :: rest
  | word => word

end Link

/-- The backtick, which delimits code. -/
def backtick : Char := '\x60'

/-- A unit of inline text. -/
inductive Token
  /-- A character that stands for itself. -/
  | char (c : Char)
  /-- A punctuation character after a backslash. -/
  | escaped (c : Char)
  /-- A run of backticks that no other run of its length follows. -/
  | ticks (count : Nat)
  /-- Text between two runs of as many backticks. -/
  | code (count : Nat) (body : Text)
  /-- A link. -/
  | link (link : Link)
  /-- A link after an exclamation mark. -/
  | image (link : Link)
  /-- A run of emphasis markers. -/
  | run (run : Run)
  deriving DecidableEq, Repr

namespace Token

/-- The unit as it was written. -/
def source : Token → Text
  | char c => [c]
  | escaped c => ['\\', c]
  | ticks count => List.replicate count backtick
  | code count body => List.replicate count backtick ++ body ++ List.replicate count backtick
  | link l => l.source
  | image l => '!' :: l.source
  | run r => r.source

end Token

end ChatMarkup.Inline
