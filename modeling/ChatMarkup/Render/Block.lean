import ChatMarkup.Block.Rich
import ChatMarkup.Render.Numbering

/-!
# Blocks as Chat Markup

How a sequence of blocks is written.

Each block is written as whole lines, so blocks can be written one after the
other. What one block needs to know of those before it is the numbering of the
lists, and nothing else. It is passed from block to block.

Blank lines at either end of the sequence are not written, and neither is the
end of the last line.

## Main definitions

* `headingLine`: A heading as a line.
* `itemLines`: A list item as lines.
* `RichBlock.render`: A block as lines.
* `RichBlock.after`: The numbering after a block.
* `renderLines`: Blocks as lines.
* `renderBlocks`: Blocks as the text of a message.
-/

namespace ChatMarkup

/-- The line with its end. -/
def endLine (line : Text) : Text :=
  line ++ ['\n']

/-- The text in bold, unless there is none. -/
def boldText (s : Text) : Text :=
  if s.isEmpty then [] else '*' :: s ++ ['*']

/-- The text set off by a space, unless there is none. -/
def setOff (s : Text) : Text :=
  if s.isEmpty then [] else ' ' :: s

/-- A heading as a line. Where headings are not converted, they are shown with
    number signs, as they were written. -/
def headingLine (config : Config) (level : Nat) (spans : List Span) : Text :=
  let signed := List.replicate level '#' ++ setOff (Span.renderAll config.look spans)
  let text := Span.renderAll config.plainLook spans
  if config.convert.headings then
    match config.headings.style with
    | .signed => signed
    | .boldOnly => boldText text
    | .boldWithMarker => Text.times level config.headings.marker ++ setOff (boldText text)
    | .plain => text
  else signed

/-- The marker of a list item, with its indentation. Where lists are converted,
    the indentation shows the level and ordered items are counted; otherwise
    both are as they were written. -/
def itemMark (config : Config) (numbering : Numbering) (level : Nat) (marker : ItemMarker)
    (indent : Nat) : Text :=
  if config.convert.lists then
    List.replicate (2 * level) ' ' ++
      match marker with
      | .bullet _ => config.lists.bullet
      | .ordered number _ => Text.decimal (numbering.next level number) ++ ['.']
  else
    List.replicate indent ' ' ++
      match marker with
      | .bullet c => [c]
      | .ordered number delimiter => Text.decimal number ++ [delimiter]

/-- The checkbox of a task, with a space in front. One that is not converted is
    kept as it was written only where lists are too. -/
def checkbox (config : Config) (task : Option Bool) : Text :=
  match task with
  | none => []
  | some done =>
    if config.convert.taskLists then
      ' ' :: if done then config.lists.checkboxChecked else config.lists.checkboxUnchecked
    else if config.convert.lists then []
    else [' ', '[', if done then 'x' else ' ', ']']

/-- A list item as lines: its mark, and its text, whose further lines hang
    under the first. -/
def itemLines (mark : Text) (text : Text) : Text :=
  let hang := List.replicate (mark.length + 1) ' '
  match Text.splitOn '\n' text with
  | [] => endLine mark
  | first :: rest =>
    endLine (mark ++ setOff first) ++ rest.flatMap fun line => endLine (hang ++ line)

/-- A quote as lines, each with one angle bracket for each level. -/
def quoteLines (depth : Nat) (text : Text) : Text :=
  (Text.splitOn '\n' text).flatMap fun line =>
    endLine (List.replicate depth '>' ++ setOff line)

/-- A line of fenced code without its end. A carriage return belongs to the
    end only if a line feed follows. -/
def codeLine (line : Text) : Text :=
  if line.getLast? = some '\n' then Text.stripEnd line else line

/-- Three backticks. -/
def codeFence : Text :=
  Inline.ticks 3

namespace RichBlock

/-- The block as lines. -/
def render (config : Config) (numbering : Numbering) (block : RichBlock) : Text :=
  let text := Span.renderAll config.look block.spans
  match block.kind with
  | .blank => List.replicate (Block.lineCount block.source) '\n'
  | .paragraph => endLine text
  | .heading level => endLine (headingLine config level block.spans)
  | .listItem marker indent task =>
    itemLines (itemMark config numbering block.level marker indent ++ checkbox config task) text
  | .fence _ _ => (Text.lines block.source).flatMap fun line => endLine (codeLine line)
  | .quote => quoteLines block.level text
  | .table =>
    if config.tablesAsCode then
      endLine codeFence ++ endLine (Span.renderAll config.plainLook block.spans) ++
        endLine codeFence
    else endLine text
  | .rule =>
    if config.convert.rules then endLine (Text.times config.rules.length config.rules.char)
    else endLine (Text.trimEnd block.source)

/-- The numbering after the block. Blank lines do not end a list, and items
    whose numbers are left as they are do not count. -/
def after (config : Config) (numbering : Numbering) (block : RichBlock) : Numbering :=
  match block.kind with
  | .blank => numbering
  | .listItem marker _ _ =>
    if config.convert.lists then
      match marker with
      | .bullet _ => numbering.passBullet block.level
      | .ordered number _ =>
        numbering.passNumber block.level (numbering.next block.level number)
    else numbering
  | _ => .start

end RichBlock

/-- The blocks as lines, one block after the other. -/
def renderLines (config : Config) (numbering : Numbering) : List RichBlock → Text
  | [] => []
  | block :: rest =>
    block.render config numbering ++ renderLines config (block.after config numbering) rest

/-- The blocks without blank ones at either end. -/
def trimBlanks (blocks : List RichBlock) : List RichBlock :=
  ((blocks.dropWhile RichBlock.isBlank).reverse.dropWhile RichBlock.isBlank).reverse

/-- The blocks as the text of a message. -/
def renderBlocks (config : Config) (blocks : List RichBlock) : Text :=
  Text.dropLastIf '\n' (renderLines config .start (trimBlanks blocks))

end ChatMarkup
