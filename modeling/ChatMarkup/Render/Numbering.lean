import ChatMarkup.Text.Basic

/-!
# Numbering of Lists

The numbers that the items of ordered lists are shown with.

Markdown lets the items of a list carry any numbers and means a list that
counts on from its first item. The count of a level lasts while items of that
level or of deeper levels follow. An item closer to the margin ends the counts
of all deeper levels, and an item with a bullet ends the count of its own.

Numbers are unsigned and have sixty-four bits. The largest is not counted
past.

## Main definitions

* `Numbering`: For each level, the last number shown.
* `Numbering.passBullet`: The state after an item with a bullet.
* `Numbering.next`: The number of an ordered item.
* `Numbering.passNumber`: The state after an ordered item.
-/

namespace ChatMarkup

/-- For each level, outermost first, the number of its last item, if the level
    is counting. -/
abbrev Numbering := List (Option Nat)

namespace Numbering

/-- No level is counting. -/
def start : Numbering := []

/-- The largest number of an item. -/
def largest : Nat := Nat.pow 2 64 - 1

/-- The levels outside the given one. A level that has had no item yet is not
    counting. -/
def outside (numbering : Numbering) (level : Nat) : Numbering :=
  numbering.take level ++ List.replicate (level - numbering.length) none

/-- The state after an item with a bullet. -/
def passBullet (numbering : Numbering) (level : Nat) : Numbering :=
  numbering.outside level ++ [none]

/-- The number of an ordered item: one more than the last of its level, or the
    number it was given if the level is not counting. -/
def next (numbering : Numbering) (level : Nat) (given : Nat) : Nat :=
  match numbering[level]? with
  | some (some last) => min (last + 1) largest
  | _ => given

/-- The state after an ordered item that is shown with the given number. -/
def passNumber (numbering : Numbering) (level : Nat) (shown : Nat) : Numbering :=
  numbering.outside level ++ [some shown]

end Numbering

end ChatMarkup
