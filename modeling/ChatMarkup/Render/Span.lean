import ChatMarkup.Config.Basic
import ChatMarkup.Inline.Parse

/-!
# Spans as Chat Markup

How a tree of spans is written.

Bold takes asterisks, italic takes underscores and struck text takes tildes,
one on either side. A link is written in angle brackets with its address
first. Where text stands in bold as a whole, as a heading does, bold and
italic markers within it would end the emphasis early; the plain look leaves
them out.

## Main definitions

* `Look`: What may differ between two ways of writing the same span.
* `Span.render`, `Span.renderAll`: A span, and spans in a row, as text.
* `Config.inlineSwitches`: The constructs of inline markup that are converted.
* `parseInline`: The spans of inline markup under a configuration.
* `convertInline`: Inline markup in the markup of the chat.
-/

namespace ChatMarkup

/-- How spans are written. -/
structure Look where
  /-- The parts of a link that are kept. -/
  links : LinkFormat
  /-- Whether bold and italic text is marked. -/
  marked : Bool
  deriving DecidableEq, Repr

namespace Config

/-- The look of text in a paragraph. -/
def look (config : Config) : Look where
  links := config.links.format
  marked := true

/-- The look of text that is shown in bold, or as code, as a whole. -/
def plainLook (config : Config) : Look where
  links := config.links.format
  marked := false

/-- The constructs of inline markup that are converted. -/
def inlineSwitches (config : Config) : Inline.Switches where
  bold := config.convert.bold
  italic := config.convert.italic
  strike := config.convert.strikethrough
  underscores := true
  links := config.convert.links
  images := config.convert.images
  escapes := true

end Config

/-- What stands on either side of text in a style. -/
def Look.mark (look : Look) : Emphasis → Text
  | .bold => if look.marked then ['*'] else []
  | .italic => if look.marked then ['_'] else []
  | .strike => ['~']

namespace Span

mutual

/-- The span as text. -/
def render (look : Look) : Span → Text
  | text s => s
  | styled emphasis content => look.mark emphasis ++ renderAll look content ++ look.mark emphasis
  | code s => s
  | link url content =>
    match look.links with
    | .slack => '<' :: url ++ '|' :: renderAll look content ++ ['>']
    | .urlOnly => '<' :: url ++ ['>']
    | .textOnly => renderAll look content
  | image url _ => '<' :: url ++ ['>']
  | lineBreak => ['\n']

/-- The spans as text, one after the other. -/
def renderAll (look : Look) : List Span → Text
  | [] => []
  | span :: spans => render look span ++ renderAll look spans

end

end Span

/-- The spans of inline markup under a configuration. -/
def parseInline (config : Config) (s : Text) : List Span :=
  Inline.parse config.inlineSwitches s

/-- Inline markup in the markup of the chat. -/
def convertInline (config : Config) (s : Text) : Text :=
  Span.renderAll config.look (parseInline config s)

end ChatMarkup
