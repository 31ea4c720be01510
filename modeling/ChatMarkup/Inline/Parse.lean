import ChatMarkup.Inline.Scan
import ChatMarkup.Inline.Tree

/-!
# Reading Inline Markup

From inline text to its span tree.

The text falls into tokens, the tokens become pieces according to the
switches, the runs among the pieces are paired, and the pieces with their
paired runs are assembled into a tree.

The label of a link is read the same way, with one difference: there are no
links within links. That is what keeps the definition from being recursive. The
reader takes a function for the labels as a parameter. The labels of links in
the text are read by the reader whose links are switched off, and that one
never meets a label.

## Main definitions

* `Token.piece`: What a token comes to mean under the switches.
* `resolve`: The spans of pieces.
* `parseLabel`: The spans of a link's label.
* `parse`: The spans of a text.
-/

namespace ChatMarkup.Inline

/-- What the token comes to mean. A construct that is switched off is the text
    it was written as. The function `label` reads the label of a link. -/
def Token.piece (switches : Switches) (label : Text → List Span) (token : Token) : Piece :=
  match token with
  | .char c => .text [c]
  | .escaped c => .text [c]
  | .ticks _ => .text token.source
  | .code _ _ => .span (.code token.source)
  | .link l => if switches.links then .span (.link l.url (label l.label)) else .text token.source
  | .image l => if switches.images then .span (.image l.url l.label) else .text token.source
  | .run r => if r.takesPart switches then .run r else .text token.source

/-- The spans of the pieces: their runs are paired, and what the pairs say is
    assembled. -/
def resolve (switches : Switches) (pieces : List Piece) : List Span :=
  let paired := pairRuns switches (pieces.filterMap Piece.run?)
  assemble switches (mergeTexts (events paired.made 0 paired.runs pieces))

/-- The spans of a text between two characters, with a reader for the labels
    of its links. -/
def parseBetween (switches : Switches) (label : Text → List Span) (before after : Option Char)
    (s : Text) : List Span :=
  resolve switches ((tokens switches.escapes before s after).map (Token.piece switches label))

/-- The spans of a link's label, which stands between its brackets and holds no
    links. -/
def parseLabel (switches : Switches) (s : Text) : List Span :=
  parseBetween { switches with links := false } (fun _ => []) (some '[') (some ']') s

/-- The spans of a text. -/
def parse (switches : Switches) (s : Text) : List Span :=
  parseBetween switches (parseLabel switches) none none s

end ChatMarkup.Inline
