import ChatMarkup.Text.Blank

/-!
# Lines

Text cut after each line feed, and the ends of lines.

A line keeps its line feed, so the lines of a text put one after the other are
the text again. Only the last line can lack a line feed, and an empty text has
no lines at all. The end of a line is a line feed, with or without a carriage
return before it.

## Main definitions

* `lines`: The text cut after each line feed.
* `stripEnd`: A line without its end.
* `indentation`: The column at which the text of a line begins.

## Theorems

* `flatten_lines`: The lines put one after the other are the text.
-/

namespace ChatMarkup

namespace Text

/-- The text cut after each line feed; each line keeps its own. -/
def lines : Text → List Text
  | [] => []
  | c :: rest =>
    if c = '\n' then [c] :: lines rest
    else match lines rest with
      | [] => [[c]]
      | line :: more => (c :: line) :: more

/-- The line without its line feed, and without a carriage return before
    that. -/
def stripEnd (line : Text) : Text :=
  dropLastIf '\r' (dropLastIf '\n' line)

/-- The column reached after the spaces and tabs at the start of a line that
    is read from `column` on. A tab reaches to the next multiple of four. -/
def indentationFrom (column : Nat) : Text → Nat
  | [] => column
  | c :: rest =>
    if c = ' ' then indentationFrom (column + 1) rest
    else if c = '\t' then indentationFrom (column + (4 - column % 4)) rest
    else column

/-- The column at which the text of the line begins. -/
def indentation (line : Text) : Nat :=
  indentationFrom 0 line

/-- Nothing is lost at the cuts. -/
theorem flatten_lines (s : Text) : (lines s).flatten = s := by
  induction s with
  | nil => rfl
  | cons c rest ih =>
      rw [lines]
      split
      · rw [List.flatten_cons, ih, List.singleton_append]
      · cases h : lines rest with
        | nil => rw [h] at ih; simpa using ih
        | cons line more =>
            rw [h, List.flatten_cons] at ih
            rw [List.flatten_cons, List.cons_append, ih]

end Text

end ChatMarkup
