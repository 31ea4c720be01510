import ChatMarkup.Text.Basic

/-!
# Layout of TOML

What stands between the parts of a TOML document: spaces, comments and the
ends of lines.

A line ends in a line feed, with or without a carriage return before it. A
carriage return anywhere else is an error, and so are control characters in a
comment. The readers here stop in front of what they cannot pass; the reader
of what comes next then fails on it.

## Main definitions

* `isPlain`: Whether a character may stand in a comment or a string.
* `skipSpaces`: The text after spaces and tabs.
* `newline?`: The text after the end of a line.
* `lineEnd?`: The text after the rest of a line on which nothing follows.
* `skipLines`: The text after spaces, comments and ends of lines.

## Theorems

* `length_skipSpaces_le`: Skipping spaces never lengthens a text.
-/

namespace ChatMarkup.Toml

/-- Whether the character may stand in a comment or a string of one line: all
    but control characters, of which the tab is allowed. -/
def isPlain (c : Char) : Bool :=
  c == '\t' || (decide (' ' ≤ c) && c != '\x7f')

/-- Whether the character is a space or a tab. -/
def isSpace (c : Char) : Bool :=
  c == ' ' || c == '\t'

/-- The text after the spaces and tabs at its start. -/
def skipSpaces (s : Text) : Text :=
  s.dropWhile isSpace

theorem length_skipSpaces_le (s : Text) : (skipSpaces s).length ≤ s.length :=
  Text.length_dropWhile_le isSpace s

/-- The text after the end of a line at its start. -/
def newline? : Text → Option Text
  | '\n' :: rest => some rest
  | '\r' :: '\n' :: rest => some rest
  | _ => none

/-- The text after a comment, if one begins the text. -/
def skipComment (s : Text) : Text :=
  match s with
  | '#' :: rest => rest.dropWhile isPlain
  | _ => s

/-- The text after the rest of a line: spaces, perhaps a comment, and the end of
    the line or of the document. -/
def lineEnd? (s : Text) : Option Text :=
  match skipComment (skipSpaces s) with
  | [] => some []
  | rest => newline? rest

/-- The text after spaces, comments and ends of lines. The flag says whether
    the text begins within a comment. -/
def skipLinesFrom (inComment : Bool) : Text → Text
  | [] => []
  | c :: rest =>
    if c = '\n' then skipLinesFrom false rest
    else if c = '\r' then
      match rest with
      | '\n' :: rest => skipLinesFrom false rest
      | _ => c :: rest
    else if inComment then
      if isPlain c then skipLinesFrom true rest else c :: rest
    else if isSpace c then skipLinesFrom false rest
    else if c = '#' then skipLinesFrom true rest
    else c :: rest

/-- The text after spaces, comments and ends of lines. -/
def skipLines (s : Text) : Text :=
  skipLinesFrom false s

end ChatMarkup.Toml
