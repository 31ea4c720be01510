import ChatMarkup.Text.Ranges

/-!
# Blank Characters

White space in the sense of the Unicode property `White_Space`, and the
functions that trim it.

The set is larger than the one core knows: it holds the vertical tab, the form
feed, the no-break spaces and the separators of lines and paragraphs as well.
Blank lines, flanking of emphasis markers and the ends of link targets all
depend on it, so a narrower set would read some documents differently.

## Main definitions

* `blankRanges`: The characters with the property `White_Space`.
* `isBlank`: Whether a character has the property.
* `trimStart`, `trimEnd`, `trim`: Text without blank characters at its ends.
* `allBlank`: Whether a text holds blank characters only.
* `firstWord`: The first run of characters that are not blank.

## Theorems

* `isBlank_of_isWhitespace`: White space in the sense of core is blank.
-/

namespace ChatMarkup

namespace Text

/-- The characters with the Unicode property `White_Space`. -/
def blankRanges : Ranges :=
  [(0x09, 0x0D), (0x20, 0x20), (0x85, 0x85), (0xA0, 0xA0), (0x1680, 0x1680), (0x2000, 0x200A),
    (0x2028, 0x2029), (0x202F, 0x202F), (0x205F, 0x205F), (0x3000, 0x3000)]

/-- Whether the character is white space. -/
def isBlank (c : Char) : Bool :=
  blankRanges.covers c

/-- The text without the blank characters at its start. -/
def trimStart (s : Text) : Text :=
  s.dropWhile isBlank

/-- The text without the blank characters at its end. -/
def trimEnd (s : Text) : Text :=
  dropEndWhile isBlank s

/-- The text without the blank characters at either end. -/
def trim (s : Text) : Text :=
  trimEnd (trimStart s)

/-- Whether every character is blank; so it is for the empty text. -/
def allBlank (s : Text) : Bool :=
  s.all isBlank

/-- The first run of characters that are not blank. It is empty only if there
    is no such character. -/
def firstWord (s : Text) : Text :=
  (trimStart s).takeWhile (fun c => !isBlank c)

/-- Space or tab, the two characters that indent a line and set off a marker. -/
def isSpaceOrTab (c : Char) : Bool :=
  c == ' ' || c == '\t'

/-- White space in the narrow sense of core is white space here too. -/
theorem isBlank_of_isWhitespace (c : Char) (h : c.isWhitespace = true) : isBlank c = true := by
  simp only [Char.isWhitespace, Bool.or_eq_true, decide_eq_true_eq] at h
  rcases h with ((rfl | rfl) | rfl) | rfl <;> rfl

end Text

end ChatMarkup
