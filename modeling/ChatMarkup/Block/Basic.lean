import ChatMarkup.Text.Lines

/-!
# Blocks

The units that a document consists of.

A block remembers the lines it was read from, ends of lines included, so that
a document can be written again as it was. What the lines say, without the
marks that make them a heading or a quote, is kept beside them: it is the
text whose inline markup will be read.

## Main definitions

* `ItemMarker`: The bullet or the number in front of a list item.
* `Block.Kind`: What a block is.
* `Block`: A block with its source and its content.
* `Block.lineCount`: The number of lines that a block covers.
-/

namespace ChatMarkup

/-- What stands in front of a list item. -/
inductive ItemMarker
  /-- A single character. -/
  | bullet (c : Char)
  /-- A number and the character after it. -/
  | ordered (number : Nat) (delimiter : Char)
  deriving DecidableEq, Repr

namespace Block

/-- What a block is. -/
inductive Kind
  /-- Blank lines between other blocks. -/
  | blank
  /-- Lines of text. -/
  | paragraph
  /-- A heading of some level. -/
  | heading (level : Nat)
  /-- An item of a list. The indentation is that of its marker. A task knows
      whether it is done. -/
  | listItem (marker : ItemMarker) (indent : Nat) (task : Option Bool)
  /-- Code between fences, with the words after the opening fence. Without a
      closing fence it goes on to the end of the document. -/
  | fence (info : Option Text) (closed : Bool)
  /-- Quoted lines. -/
  | quote
  /-- The rows of a table. -/
  | table
  /-- A horizontal rule. -/
  | rule
  deriving DecidableEq, Repr

end Block

/-- A unit of a document. -/
structure Block where
  /-- What it is. -/
  kind : Block.Kind
  /-- The lines it was read from. -/
  source : Text
  /-- What the lines say, without the marks of the block. -/
  content : Text
  /-- The depth of a quote or of a list item in its list, and otherwise zero.
      Every quote takes a character and every list an item, so a machine that
      can hold the text can count the levels. -/
  level : Nat
  deriving DecidableEq, Repr

namespace Block

/-- Whether the block is blank lines. -/
def Kind.isBlank (kind : Kind) : Bool :=
  kind == .blank

/-- Whether the block is blank lines. -/
def isBlank (block : Block) : Bool :=
  block.kind.isBlank

/-- The number of lines that a source covers. -/
def lineCount (source : Text) : Nat :=
  (Text.lines source).length

end Block

end ChatMarkup
