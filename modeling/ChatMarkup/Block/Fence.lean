import ChatMarkup.Text.Lines

/-!
# Code Fences

The lines between which code stands.

A fence is a run of at least three backticks or tildes. The one that closes
has the same character and at least the length of the one that opens, and
nothing else on its line. Behind the opening fence there may be words, such as
the name of a language. If they held a backtick behind backticks, the line
would be inline code and no fence.

## Main definitions

* `Fence`: An opening fence.
* `Fence.ofLine?`: The fence that a line opens.
* `Fence.closedBy`: Whether a line closes the fence.
-/

namespace ChatMarkup

/-- An opening fence. -/
structure Fence where
  /-- The character that it consists of. -/
  char : Char
  /-- How many there are. -/
  length : Nat
  /-- The words behind it, if there are any. -/
  info : Option Text
  deriving DecidableEq, Repr

namespace Fence

/-- Whether a fence can consist of the character. -/
def isFenceChar (c : Char) : Bool :=
  c == '\x60' || c == '~'

/-- The fence that the line opens, if it opens one. -/
def ofLine? (line : Text) : Option Fence :=
  match Text.trim line with
  | [] => none
  | c :: rest =>
    let length := Text.countWhile (· == c) rest + 1
    let info := Text.trim (rest.dropWhile (· == c))
    if isFenceChar c && decide (3 ≤ length) && !(c == '\x60' && info.contains '\x60') then
      some ⟨c, length, if info.isEmpty then none else some info⟩
    else none

/-- Whether the line closes the fence. -/
def closedBy (fence : Fence) (line : Text) : Bool :=
  let mark := Text.trim line
  mark.all (· == fence.char) && decide (fence.length ≤ mark.length)

end Fence

end ChatMarkup
