import ChatMarkup.Text.Basic

/-!
# Ranges of Characters

Membership in a set of characters that is given by its ranges.

The Unicode properties that the markup depends on hold for thousands of
characters, but they hold in runs, so each is written as a table of first and
last code points. The ranges of a table stand in ascending order, which lets
the search stop at the first range that begins beyond the character.

## Main definitions

* `Ranges`: A table of ranges, each with its first and its last code point.
* `Ranges.covers`: Whether a character falls into one of the ranges.
-/

namespace ChatMarkup

/-- Ranges of code points in ascending order, both ends included. -/
abbrev Ranges := List (Nat × Nat)

namespace Ranges

/-- Whether `n` falls into one of the ranges. -/
def coversPoint : Ranges → Nat → Bool
  | [], _ => false
  | (first, last) :: rest, n =>
    if n < first then false
    else if n ≤ last then true
    else coversPoint rest n

/-- Whether the character falls into one of the ranges. -/
def covers (ranges : Ranges) (c : Char) : Bool :=
  coversPoint ranges c.toNat

end Ranges

end ChatMarkup
