import ChatMarkup.Render.Block

/-!
# Conversion

From a Markdown text to the text of a chat message.

The text is split into blocks, their inline markup is read, and the blocks are
written again.

## Main definitions

* `Document.convert`: The message that a document makes.
* `convert`: The message that a text makes.
-/

namespace ChatMarkup

/-- The message that the document makes. -/
def Document.convert (config : Config) (document : Document) : Text :=
  renderBlocks config (document.read config)

/-- The message that the text makes. -/
def convert (config : Config) (markdown : Text) : Text :=
  (Document.ofText markdown).convert config

end ChatMarkup
