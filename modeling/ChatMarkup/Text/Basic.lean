/-!
# Text

The sequence of characters that every other module reads and writes.

Text is held as a list of characters, because every rule of the markup is
stated one character at a time: a list is taken apart by pattern matching,
and what has been read and what is left are again lists. `String` appears only
at the edges, for messages and paths.

The functions here know nothing of markup. They cut text at a separator, put
the pieces together again, and drop characters from either end.

## Main definitions

* `Text`: A list of characters.
* `splitOn`: The pieces between the occurrences of a separator.
* `joinWith`: Pieces with a separator between neighbours.
* `dropEndWhile`: What is left after dropping a run from the end.
* `dropLastIf`: What is left after dropping one given character from the end.
* `countWhile`: How many characters at the start satisfy a test.

## Theorems

* `length_dropWhile_le`: Dropping from the start never lengthens a list.
* `joinWith_splitOn`: Cutting and joining give the text back.
-/

namespace ChatMarkup

/-- A sequence of Unicode scalar values. -/
abbrev Text := List Char

namespace Text

/-- The pieces between the occurrences of `sep`. There is always at least
    one piece, and `n` separators make `n + 1` pieces. -/
def splitOn (sep : Char) : Text → List Text
  | [] => [[]]
  | c :: rest =>
    if c = sep then [] :: splitOn sep rest
    else match splitOn sep rest with
      | [] => [[c]]
      | piece :: pieces => (c :: piece) :: pieces

/-- The pieces in order, with `sep` between neighbours. -/
def joinWith (sep : Char) : List Text → Text
  | [] => []
  | [piece] => piece
  | piece :: next :: pieces => piece ++ sep :: joinWith sep (next :: pieces)

/-- The text without the longest run at its end that satisfies `p`. -/
def dropEndWhile (p : Char → Bool) (s : Text) : Text :=
  (s.reverse.dropWhile p).reverse

/-- The text without its first character, if that character is `c`. -/
def dropFirstIf (c : Char) : Text → Text
  | [] => []
  | d :: rest => if d = c then rest else d :: rest

/-- The text without its last character, if that character is `c`. -/
def dropLastIf (c : Char) (s : Text) : Text :=
  (dropFirstIf c s.reverse).reverse

/-- How many characters at the start satisfy `p` before one does not. -/
def countWhile (p : Char → Bool) : Text → Nat
  | [] => 0
  | c :: rest => if p c then countWhile p rest + 1 else 0

/-- The text `s` written `n` times. -/
def times (n : Nat) (s : Text) : Text :=
  (List.replicate n s).flatten

theorem length_dropWhile_le (p : α → Bool) (l : List α) :
    (l.dropWhile p).length ≤ l.length := by
  induction l with
  | nil => exact Nat.le_refl _
  | cons a l ih =>
      rw [List.dropWhile_cons]
      split
      · exact Nat.le_succ_of_le ih
      · exact Nat.le_refl _

theorem splitOn_ne_nil (sep : Char) (s : Text) : splitOn sep s ≠ [] := by
  cases s with
  | nil => simp [splitOn]
  | cons c rest =>
      rw [splitOn]
      split
      · simp
      · split <;> simp

/-- Joining the pieces of a text with the separator they were cut at gives the
    text back, so nothing but the separators is lost in between. -/
theorem joinWith_splitOn (sep : Char) (s : Text) : joinWith sep (splitOn sep s) = s := by
  induction s with
  | nil => rfl
  | cons c rest ih =>
      rw [splitOn]
      cases h : splitOn sep rest with
      | nil => exact absurd h (splitOn_ne_nil sep rest)
      | cons piece pieces =>
          rw [h] at ih
          split
          · next hc => rw [joinWith, ih, hc, List.nil_append]
          · cases pieces with
            | nil => simp only [joinWith] at ih ⊢; rw [ih]
            | cons next pieces =>
                simp only [joinWith] at ih ⊢
                rw [List.cons_append, ih]

end Text

end ChatMarkup
