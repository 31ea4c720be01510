import ChatMarkup.Text.Basic

/-!
# Spans

What inline markup means: a tree of styled, linked and literal text.

A span tree no longer knows which marker was used, how long the run was or
where it stood. What is kept as written is kept for a reason. A code span
holds its backticks, because the chat markup writes code the same way, and an
image holds its description although the chat markup has no place for it.

Styling something twice the same way is styling it once, so a styled span
never has a single child of its own style when it is built by `style`.

## Main definitions

* `Emphasis`: Bold, italic or struck through.
* `Span`: A node of the tree.
* `Span.style`: A styled span that merges with a single child of its style.
-/

namespace ChatMarkup

/-- A way in which text can stand out. -/
inductive Emphasis
  | bold
  | italic
  | strike
  deriving DecidableEq, Repr

/-- A piece of inline content. -/
inductive Span
  /-- Text that stands for itself. -/
  | text (s : Text)
  /-- Content in a style. -/
  | styled (emphasis : Emphasis) (content : List Span)
  /-- Code, with the backticks around it. -/
  | code (s : Text)
  /-- A link with its label. -/
  | link (url : Text) (content : List Span)
  /-- An image with its description. -/
  | image (url : Text) (description : Text)
  /-- The end of a table row. -/
  | lineBreak
  deriving Repr

namespace Span

/-- The content in a style. Content that is already a single span of the same
    style is left as it is. -/
def style (emphasis : Emphasis) (content : List Span) : Span :=
  match content with
  | [styled inner content'] =>
    if inner = emphasis then styled inner content' else styled emphasis [styled inner content']
  | _ => styled emphasis content

end Span

end ChatMarkup
