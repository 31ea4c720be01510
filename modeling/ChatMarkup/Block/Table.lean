import ChatMarkup.Text.Lines

/-!
# Tables

The lines that make a table.

A row is a line between two vertical bars. Rows alone are no table: the second
must separate the first, which is the header, from the rest. It does so by
having as many cells, each of them dashes with an optional colon at either
end for the alignment. Dashes may be any of the four that editors put in place
of the hyphen.

## Main definitions

* `Table.isRow`: Whether a line is between two bars.
* `Table.cells`: The cells of a row.
* `Table.separates`: Whether a row separates a header from the rows below.
* `Table.begins`: Whether a table begins with a line.
* `Table.length?`: How many lines the table has that begins with some lines.

## Theorems

* `Table.length?_cons`: A table begins with a line, and it has that line and all
  rows below it.
-/

namespace ChatMarkup.Table

/-- Whether the line stands between two bars and holds something. -/
def isRow (line : Text) : Bool :=
  let row := Text.trim line
  decide (3 ≤ row.length) && row.head? == some '|' && row.getLast? == some '|'

/-- The cells of a row, without the bars at its ends. -/
def cells (line : Text) : List Text :=
  (Text.splitOn '|' (Text.dropLastIf '|' (Text.dropFirstIf '|' (Text.trim line)))).map Text.trim

/-- The hyphen, the dashes and the minus sign. -/
def isDash (c : Char) : Bool :=
  c == '-' || c == '\u2013' || c == '\u2014' || c == '\u2212'

/-- Whether the cell is dashes with an optional colon at either end. -/
def isSeparatorCell (cell : Text) : Bool :=
  let dashes := Text.dropLastIf ':' (Text.dropFirstIf ':' cell)
  !dashes.isEmpty && dashes.all isDash

/-- Whether the row separates the header from the rows below it. -/
def separates (header row : Text) : Bool :=
  (cells header).length == (cells row).length && (cells row).all isSeparatorCell

/-- Whether a table begins with the line, given the line after it. -/
def begins (line : Text) (next : Option Text) : Bool :=
  match next with
  | none => false
  | some next => isRow line && isRow next && separates line next

/-- How many lines the table has with which the lines begin, if they begin with
    one. It has all rows that there are before the first line that is none. -/
def length? (lines : List Text) : Option Nat :=
  let rows := lines.takeWhile isRow
  match rows with
  | header :: row :: _ => if separates header row then some rows.length else none
  | _ => none

theorem length?_cons (line : Text) (rest : List Text) :
    length? (line :: rest) =
      if begins line rest.head? then some ((rest.takeWhile isRow).length + 1) else none := by
  cases rest with
  | nil =>
      rw [length?, List.takeWhile_cons, List.takeWhile_nil]
      cases isRow line <;> rfl
  | cons next rest =>
      rw [length?, List.takeWhile_cons, List.takeWhile_cons, List.head?_cons, begins]
      cases isRow line with
      | false => rfl
      | true =>
          cases isRow next with
          | false => rfl
          | true => simp only [if_true, Bool.true_and, List.length_cons]

end ChatMarkup.Table
