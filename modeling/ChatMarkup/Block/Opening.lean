import ChatMarkup.Block.Basic
import ChatMarkup.Block.Fence
import ChatMarkup.Block.Table
import ChatMarkup.Text.Digits

/-!
# What a Line Opens

The block that begins with a line.

A line says by itself what begins with it, with one exception: the header of a
table is one only if the next line separates it. The tests are tried in a fixed
order, because lines can pass more than one of them. Three hyphens are a rule
although a hyphen can be a bullet, and a table with a colon in its separator
is a table although its lines could be text. A line that passes none of the
tests is the line of a paragraph.

## Main definitions

* `isRule`: Whether a line is a horizontal rule.
* `heading?`: The level and the text of a heading.
* `Item`: The first line of a list item.
* `item?`: The list item that begins with a line.
* `quote?`: The depth and the text of a quoted line.
* `Opening`: What begins with a line.
* `Opening.ofLine`: The first of the tests that the line passes.
* `startsBlock`: Whether the line passes a test, which ends a paragraph.

## Theorems

* `Opening.ofLine_eq_paragraph_iff`: A line that passes none of the tests, and
  is not blank, is that of a paragraph.
-/

namespace ChatMarkup

/-- Whether the line is a rule: three or more of one character out of three,
    with nothing but white space between them. -/
def isRule (line : Text) : Bool :=
  match line.filter fun c => !Text.isBlank c with
  | [] => false
  | c :: rest =>
    (c == '-' || c == '*' || c == '_') && rest.all (· == c) && decide (2 ≤ rest.length)

/-- Whether the text is over or goes on with a space or a tab. A marker in
    front of it then stands alone. -/
def standsApart (rest : Text) : Bool :=
  rest.head?.all Text.isSpaceOrTab

/-- The text of a heading without the number signs that may close it. They
    close it only if a space or a tab stands before them, or nothing at all. -/
def dropClosingSigns (s : Text) : Text :=
  let shorter := Text.dropEndWhile (· == '#') s
  match shorter.getLast? with
  | none => []
  | some c => if Text.isSpaceOrTab c then Text.trimEnd shorter else s

/-- The level and the text of a heading: up to three spaces, one to six number
    signs, and the text apart from them. -/
def heading? (line : Text) : Option (Nat × Text) :=
  let body := Text.stripEnd line
  let signs := body.dropWhile (· == ' ')
  let level := Text.countWhile (· == '#') signs
  let rest := signs.dropWhile (· == '#')
  if decide (Text.countWhile (· == ' ') body ≤ 3) && decide (1 ≤ level) && decide (level ≤ 6) &&
      standsApart rest then
    some (level, dropClosingSigns (Text.trim rest))
  else none

/-- The first line of a list item. -/
structure Item where
  /-- The bullet or the number. -/
  marker : ItemMarker
  /-- The column of the marker. -/
  indent : Nat
  /-- For a task, whether it is done. -/
  task : Option Bool
  /-- The text of the item. -/
  content : Text
  deriving DecidableEq, Repr

/-- The marker at the start of a text and what follows it. A number has at most
    nine digits. -/
def itemMarker? (body : Text) : Option (ItemMarker × Text) :=
  match body with
  | [] => none
  | c :: rest =>
    if c == '-' || c == '*' || c == '+' then some (.bullet c, rest)
    else
      let digits := body.takeWhile Text.isDigit
      if digits.isEmpty || decide (9 < digits.length) then none
      else match body.dropWhile Text.isDigit with
        | [] => none
        | d :: rest =>
          if d == '.' || d == ')' then some (.ordered (Text.readDigits 10 digits) d, rest) else none

/-- The state of a task and its text, if the text of an item begins with a
    checkbox that stands alone. -/
def task (content : Text) : Option Bool × Text :=
  match content with
  | '[' :: c :: ']' :: rest =>
    if (c == ' ' || c == 'x' || c == 'X') && standsApart rest then
      (some (c != ' '), Text.trimStart rest)
    else (none, content)
  | _ => (none, content)

/-- The list item that begins with the line: any indentation, a marker, and the
    text apart from it. -/
def item? (line : Text) : Option Item :=
  let body := Text.stripEnd line
  match itemMarker? (body.dropWhile Text.isSpaceOrTab) with
  | none => none
  | some (marker, rest) =>
    if standsApart rest then
      let (task, content) := task (Text.trimStart rest)
      some ⟨marker, Text.indentation body, task, content⟩
    else none

/-- The number of angle brackets at the start of a text, each with an optional
    space behind it, and the text after them. -/
def dropQuoteMarks : Text → Nat × Text
  | '>' :: ' ' :: rest => ((dropQuoteMarks rest).1 + 1, (dropQuoteMarks rest).2)
  | '>' :: rest => ((dropQuoteMarks rest).1 + 1, (dropQuoteMarks rest).2)
  | rest => (0, rest)

/-- The depth and the text of a quoted line: up to three spaces and at least
    one angle bracket before the text. -/
def quote? (line : Text) : Option (Nat × Text) :=
  let body := Text.stripEnd line
  if decide (Text.countWhile (· == ' ') body ≤ 3) then
    match dropQuoteMarks (body.dropWhile (· == ' ')) with
    | (0, _) => none
    | (depth, rest) => some (depth, rest)
  else none

/-- What begins with a line. -/
inductive Opening
  /-- Blank lines. -/
  | blank
  /-- Fenced code. -/
  | fence (fence : Fence)
  /-- A table. -/
  | table
  /-- A horizontal rule. -/
  | rule
  /-- A heading. -/
  | heading (level : Nat) (content : Text)
  /-- A list item. -/
  | item (item : Item)
  /-- A quote. -/
  | quote (depth : Nat) (content : Text)
  /-- A paragraph. -/
  | paragraph
  deriving DecidableEq, Repr

/-- What begins with the line, given the line after it. -/
def Opening.ofLine (line : Text) (next : Option Text) : Opening :=
  if Text.allBlank line then .blank
  else match Fence.ofLine? line with
  | some f => .fence f
  | none =>
    if Table.begins line next then .table
    else if isRule line then .rule
    else match heading? line with
    | some (level, content) => .heading level content
    | none =>
      match item? line with
      | some i => .item i
      | none =>
        match quote? line with
        | some (depth, content) => .quote depth content
        | none => .paragraph

/-- Whether the line, with the lines behind it, starts a block that ends a
    paragraph. -/
def startsBlock (line : Text) (rest : List Text) : Bool :=
  (Fence.ofLine? line).isSome || (Table.length? (line :: rest)).isSome || isRule line ||
    (heading? line).isSome || (item? line).isSome || (quote? line).isSome

/-- A paragraph begins with a line if nothing else does. In which order the tests
    are tried does not matter here. -/
theorem Opening.ofLine_eq_paragraph_iff (line : Text) (rest : List Text) :
    Opening.ofLine line rest.head? = .paragraph ↔
      Text.allBlank line = false ∧ startsBlock line rest = false := by
  have htable : (Table.length? (line :: rest)).isSome = Table.begins line rest.head? := by
    rw [Table.length?_cons]
    cases Table.begins line rest.head? <;> rfl
  rw [Opening.ofLine, startsBlock, htable]
  cases Text.allBlank line with
  | true => simp
  | false =>
      cases Fence.ofLine? line with
      | some f => simp
      | none =>
          cases Table.begins line rest.head? with
          | true => simp
          | false =>
              cases isRule line with
              | true => simp
              | false =>
                  cases heading? line with
                  | some found => simp
                  | none =>
                      cases item? line with
                      | some i => simp
                      | none => cases quote? line <;> simp

end ChatMarkup
