import ChatMarkup.Text.Basic

/-!
# Values of TOML

What a TOML document describes: tables of values by name.

A table remembers how it came about, because that decides what may still be
added to it. A table that was only passed on the way to another one can get a
header of its own later, one that was made by a dotted key can only be
extended by dotted keys of the same place, and a table written inline is
complete.

A number with a point is kept as it was written, as a decimal. Nothing is
rounded before it is known what the number is for. For the same reason a whole
number may turn out to be none only when it is asked for.

## Main definitions

* `Scalar`: A value without parts.
* `Origin`: How a table came about.
* `Value`: A value.
* `Entries`: The content of a table.
-/

namespace ChatMarkup.Toml

/-- A number with a point or an exponent, or one of the special numbers. -/
inductive Real
  /-- The number `digits * 10 ^ exponent`, or its negative. -/
  | finite (negative : Bool) (digits : Nat) (exponent : Int)
  /-- Infinity, or its negative. -/
  | infinite (negative : Bool)
  /-- Not a number. -/
  | nan
  deriving DecidableEq, Repr

/-- A value without parts. -/
inductive Scalar
  | string (s : Text)
  | integer (n : Int)
  /-- A word that has the outer form of a whole number and writes none. A
      document may hold it, but no setting can take it. -/
  | illegible
  | real (x : Real)
  | boolean (b : Bool)
  /-- A date, a time of day or both. Which one does not matter here. -/
  | moment
  deriving DecidableEq, Repr

/-- How a table came about. -/
inductive Origin
  /-- It was passed on the way of a header. -/
  | passed
  /-- It was passed on the way of a dotted key. -/
  | dotted
  /-- It has a header. -/
  | header
  /-- It was written in braces. -/
  | inline
  deriving DecidableEq, Repr

/-- A value. -/
inductive Value
  /-- A value without parts. -/
  | scalar (value : Scalar)
  /-- Values in brackets. -/
  | array (items : List Value)
  /-- Values by name. -/
  | table (origin : Origin) (entries : List (Text × Value))
  /-- Tables of one name, each with a header in double brackets. -/
  | tables (elements : List (List (Text × Value)))
  deriving Repr

/-- The content of a table. No two entries have the same name, and they stand
    in the order of their names, not in that of the document. -/
abbrev Entries := List (Text × Value)

end ChatMarkup.Toml
