/-!
# Switches of Inline Markup

Which constructs are read as markup, and which runs of markers may take part.

A construct that is switched off stays as it was written. For emphasis the
decision is made for a whole run: a run whose own kind is off never opens or
closes anything, even though a longer or a shorter run of the same marker
might.

## Main definitions

* `Switches`: One switch for each construct.
* `Switches.emphasisOnly`: The switches for the rows of a table that is shown
  as code.
* `Switches.allowsSize`: Whether a match of so many `*` or `_` has a meaning.
-/

namespace ChatMarkup.Inline

/-- Which constructs of inline markup are recognised. -/
structure Switches where
  /-- Two markers make bold. -/
  bold : Bool
  /-- One marker makes italic. -/
  italic : Bool
  /-- Two tildes strike through. -/
  strike : Bool
  /-- Underscores are markers, like asterisks. -/
  underscores : Bool
  /-- A bracketed label with a target is a link. -/
  links : Bool
  /-- A link after an exclamation mark is an image. -/
  images : Bool
  /-- A backslash before punctuation is dropped. -/
  escapes : Bool
  deriving DecidableEq, Repr

namespace Switches

/-- Asterisks for bold and italic and nothing else. Table cells shown as code
    are read this way: their underscores mostly belong to identifiers, and
    their backslashes are kept. -/
def emphasisOnly : Switches where
  bold := true
  italic := true
  strike := false
  underscores := false
  links := false
  images := false
  escapes := false

/-- Whether a match that uses `size` asterisks or underscores on either side
    has a meaning. Three stand for bold and italic at once and keep whichever
    is switched on. -/
def allowsSize (switches : Switches) (size : Nat) : Bool :=
  match size with
  | 3 => switches.bold || switches.italic
  | 2 => switches.bold
  | _ => switches.italic

end Switches

end ChatMarkup.Inline
