import ChatMarkup.Text.Digits
import ChatMarkup.Toml.Layout
import ChatMarkup.Toml.Value

/-!
# Bare Words of TOML

Booleans, numbers and dates: the values that are written without quotes or
brackets.

Such a value is one word, and its grammar is tried on the whole word. Between
two digits of a number there may be an underscore. A decimal number does not
begin with a zero unless it is zero or a point follows, and only a decimal
number has a sign. An underscore may stand behind the sign, and the zeros after
it do not matter. Dates are checked against the calendar.

Where underscores make groups of a whole number, a document is held only to
the edges of the groups. Whether there are digits between the edges matters to
no one but the setting that takes the number.

## Main definitions

* `word`: A bare word.
* `ungroup?`: Digits without the underscores between them.
* `Unsigned`: A number without its sign.
* `integer?`: A whole number.
* `real?`: A number with a point or an exponent, or a special number.
* `isMoment`: Whether a word is a date, a time of day or both.
* `scalar?`: The value that a word is.
-/

namespace ChatMarkup.Toml

/-! ### Words -/

/-- Whether a bare word ends in front of the character. -/
def endsWord (c : Char) : Bool :=
  isSpace c || c == '\n' || c == '\r' || c == '=' || c == ',' || c == '#' ||
    c == '[' || c == ']' || c == '\x7b' || c == '\x7d'

/-- Whether a bare word goes on with the character behind spaces. -/
def goesOn (c : Char) : Bool :=
  !endsWord c && c != '.' && c != '"' && c != '\''

/-- A bare word at the start of the text and the text after it. Spaces belong to
    the word if it goes on behind them. A date goes on with a time of day; any
    other word with spaces in it is an error, or no number. -/
def word (s : Text) : Text × Text :=
  let first := s.takeWhile fun c => !endsWord c
  match _h : s.dropWhile fun c => !endsWord c with
  | [] => (first, [])
  | c :: rest =>
    let after := skipSpaces rest
    if isSpace c && after.head?.any goesOn then
      let next := word after
      (first ++ c :: rest.takeWhile isSpace ++ next.1, next.2)
    else (first, c :: rest)
termination_by s.length
decreasing_by
  have h1 := Text.length_dropWhile_le (fun c => !endsWord c) s
  have h2 := length_skipSpaces_le rest
  rw [_h, List.length_cons] at h1
  omega

/-! ### Numbers -/

/-- The digits without underscores, each of which must stand between two
    digits. There must be at least one digit. -/
def ungroup? (base : Nat) (s : Text) : Option Text :=
  let groups := Text.splitOn '_' s
  if groups.all fun group => !group.isEmpty && group.all (Text.isDigitOf base) then
    some groups.flatten
  else none

/-- The sign at the start of a text, and what follows it. -/
def sign : Text → Bool × Text
  | '-' :: rest => (true, rest)
  | '+' :: rest => (false, rest)
  | rest => (false, rest)

/-- A number without its sign. -/
structure Unsigned where
  /-- The sign was a minus. -/
  negative : Bool
  /-- An underscore stood behind the sign, so zeros may come first. -/
  padded : Bool
  /-- What is left. -/
  body : Text

/-- The number that the word writes, without its sign and an underscore behind
    that. -/
def Unsigned.ofWord : Text → Unsigned
  | '-' :: '_' :: rest => ⟨true, true, rest⟩
  | '+' :: '_' :: rest => ⟨false, true, rest⟩
  | word => ⟨(sign word).1, false, (sign word).2⟩

/-- Whether zeros come first that should not: the text begins with a zero and is
    longer than that, and it needs no zeros in front. -/
def Unsigned.hasNeedlessZero (number : Unsigned) (s : Text) : Bool :=
  !number.padded && s.head? == some '0' && decide (1 < s.length)

/-- The number with its sign. -/
def Unsigned.sized (number : Unsigned) (n : Nat) : Int :=
  if number.negative then -(n : Int) else n

/-- What the digits after `0x`, `0o` or `0b` write. -/
def based? (base : Nat) (s : Text) : Option Scalar :=
  if s.isEmpty then some .illegible
  else (ungroup? base s).map fun digits => .integer (Text.readDigits base digits)

/-- Whether there are digits at the edges of groups: each group begins with a
    digit, and each but the last ends with one. Letters count as digits. -/
def hasEdges : List Text → Bool
  | [] => true
  | [last] => last.head?.any (Text.isDigitOf 16)
  | group :: rest =>
    group.head?.any (Text.isDigitOf 16) && group.getLast?.any (Text.isDigitOf 16) &&
      hasEdges rest

/-- Whether the character marks a word as something else than a whole number. -/
def isForeign (c : Char) : Bool :=
  c == '.' || c == 'e' || c == 'E' || c == ' '

/-- A whole number, or a word that has the form of one. Unless an underscore
    stands behind its sign, the first group has nothing but digits. -/
def integer? (word : Text) : Option Scalar :=
  match word with
  | '0' :: 'x' :: digits => based? 16 digits
  | '0' :: 'o' :: digits => based? 8 digits
  | '0' :: 'b' :: digits => based? 2 digits
  | _ =>
    let number := Unsigned.ofWord word
    let groups := Text.splitOn '_' number.body
    let leads := number.padded || groups.head?.any fun group => group.all Text.isDigit
    if leads && hasEdges groups && !number.hasNeedlessZero number.body &&
        !number.body.any isForeign then
      let digits := groups.flatten
      if digits.all Text.isDigit then some (.integer (number.sized (Text.readDigits 10 digits)))
      else some .illegible
    else none

/-- The exponent that a text writes, with the letter in front of it. A text
    without any characters is no exponent at all. -/
def exponent? (s : Text) : Option Int :=
  match s with
  | [] => some 0
  | c :: rest =>
    if c = 'e' ∨ c = 'E' then
      let (negative, digits) := sign rest
      (ungroup? 10 digits).map fun digits =>
        let n := Text.readDigits 10 digits
        if negative then -(n : Int) else n
    else none

/-- Infinity and what is not a number. -/
def special? (word : Text) : Option Real :=
  if (sign word).2 = ['i', 'n', 'f'] then some (.infinite (sign word).1)
  else if (sign word).2 = ['n', 'a', 'n'] then some .nan
  else none

/-- A number with a point or an exponent. -/
def decimal? (word : Text) : Option Real :=
  let number := Unsigned.ofWord word
  let isExponentMark (c : Char) : Bool := c == 'e' || c == 'E'
  let isMark (c : Char) : Bool := c == '.' || isExponentMark c
  let whole := number.body.takeWhile fun c => !isMark c
  match number.body.dropWhile fun c => !isMark c with
  | [] => none
  | c :: after =>
    let places := if c = '.' then after.takeWhile fun c => !isExponentMark c else []
    let power := if c = '.' then after.dropWhile fun c => !isExponentMark c else c :: after
    let places? := if c = '.' then ungroup? 10 places else some []
    if number.hasNeedlessZero whole then none
    else match ungroup? 10 whole, places?, exponent? power with
      | some whole, some places, some exponent =>
        some (.finite number.negative (Text.readDigits 10 (whole ++ places))
          (exponent - places.length))
      | _, _, _ => none

/-- A number with a point or an exponent, or a special number. -/
def real? (word : Text) : Option Real :=
  (special? word).orElse fun () => decimal? word

/-! ### Dates and times -/

/-- A number of exactly `count` digits and the text after it. -/
def fixedDigits? (count : Nat) (s : Text) : Option (Nat × Text) :=
  let digits := s.take count
  if digits.length = count ∧ digits.all Text.isDigit then
    some (Text.readDigits 10 digits, s.drop count)
  else none

/-- The text after the given character. -/
def after? (c : Char) : Text → Option Text
  | [] => none
  | d :: rest => if d = c then some rest else none

/-- The number of days of a month. -/
def daysOfMonth (year month : Nat) : Nat :=
  if month = 2 then
    if year % 4 = 0 ∧ (year % 100 ≠ 0 ∨ year % 400 = 0) then 29 else 28
  else if month = 4 ∨ month = 6 ∨ month = 9 ∨ month = 11 then 30
  else 31

/-- The text after a date. -/
def date? (s : Text) : Option Text := do
  let (year, s) ← fixedDigits? 4 s
  let s ← after? '-' s
  let (month, s) ← fixedDigits? 2 s
  let s ← after? '-' s
  let (day, s) ← fixedDigits? 2 s
  if 1 ≤ month ∧ month ≤ 12 ∧ 1 ≤ day ∧ day ≤ daysOfMonth year month then some s else none

/-- The text after hours and minutes. -/
def hourMinute? (s : Text) : Option Text := do
  let (hour, s) ← fixedDigits? 2 s
  let s ← after? ':' s
  let (minute, s) ← fixedDigits? 2 s
  if hour ≤ 23 ∧ minute ≤ 59 then some s else none

/-- The text after seconds, which may have a fraction. A minute may have a leap
    second. -/
def second? (s : Text) : Option Text := do
  let (second, s) ← fixedDigits? 2 s
  if 60 < second then none
  else match s with
    | '.' :: rest =>
      if rest.head?.any Text.isDigit then some (rest.dropWhile Text.isDigit) else none
    | _ => some s

/-- The text after a time of day. The seconds may be left out. -/
def time? (s : Text) : Option Text := do
  match ← hourMinute? s with
  | ':' :: rest => second? rest
  | rest => some rest

/-- The text after an offset from universal time. -/
def offset? (s : Text) : Option Text :=
  match s with
  | [] => none
  | c :: rest =>
    if c = 'Z' ∨ c = 'z' then some rest
    else if c = '+' ∨ c = '-' then hourMinute? rest
    else none

/-- Whether the text is a time of day, with an offset if one is allowed. -/
def isTime (withOffset : Bool) (s : Text) : Bool :=
  match time? s with
  | none => false
  | some [] => true
  | some rest => withOffset && offset? rest == some []

/-- Whether the word is a date, a time of day or both. -/
def isMoment (word : Text) : Bool :=
  match date? word with
  | none => isTime false word
  | some [] => true
  | some (c :: rest) => (c == 'T' || c == 't' || c == ' ') && isTime true rest

/-- The value that the word is. -/
def scalar? (word : Text) : Option Scalar :=
  if word = ['t', 'r', 'u', 'e'] then some (.boolean true)
  else if word = ['f', 'a', 'l', 's', 'e'] then some (.boolean false)
  else match integer? word with
    | some value => some value
    | none =>
      match real? word with
      | some x => some (.real x)
      | none => if isMoment word then some .moment else none

end ChatMarkup.Toml
