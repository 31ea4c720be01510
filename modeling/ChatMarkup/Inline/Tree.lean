import ChatMarkup.Inline.Pairing

/-!
# From Pairs to Spans

How paired runs and the text between them become a tree of spans.

A run that took part in several pairs stands for several ends of emphasis at
once. In the order of the text it first closes what it was paired with as a
closer, then shows the markers that no pair used, and then opens what it was
paired with as an opener. Its closings happen in the order in which the pairs
were made, which is from the innermost outwards, and its openings in the
reverse order, for the same reason.

Written out like this, the text is a sequence of events, and the tree is built
by a stack of the emphasis that is open. Neighbouring texts are merged while
they are still events. No two texts can then become neighbours in the tree,
because closing emphasis puts a span between them.

## Main definitions

* `Piece`: Text, a finished span or a run that takes part in the pairing.
* `Event`: What happens at one place of the text.
* `events`: The events of pieces whose runs have been paired.
* `mergeTexts`: Events with neighbouring texts merged and empty ones dropped.
* `Pair.wrap`: The emphasis that a pair puts on what stands between its runs.
* `assemble`: The spans that a sequence of events describes.
-/

namespace ChatMarkup.Inline

/-- A part of the text before its runs are paired. -/
inductive Piece
  /-- Text that stands for itself. -/
  | text (s : Text)
  /-- A span that nothing outside can reach into. -/
  | span (span : Span)
  /-- A run that takes part in the pairing. -/
  | run (run : Run)

/-- The run that a piece is, if it is one. -/
def Piece.run? : Piece → Option Run
  | run r => some r
  | _ => none

/-- What happens at one place of the text. -/
inductive Event
  /-- Text. -/
  | text (s : Text)
  /-- A finished span. -/
  | span (span : Span)
  /-- The emphasis of a pair begins. -/
  | opening (pair : Pair)
  /-- The emphasis of a pair ends. -/
  | closing (pair : Pair)

/-- What the run at `index` stands for: the ends of the pairs that it closed,
    the markers that are left, and the beginnings of the pairs that it
    opened. -/
def Held.events (held : Held) (index : Nat) (pairs : List Pair) : List Event :=
  (pairs.filter fun pair => pair.closer == index).map .closing ++
    .text (List.replicate held.remaining held.run.marker.char) ::
      (pairs.filter fun pair => pair.opener == index).reverse.map .opening

/-- The events of the pieces, the first of whose runs has the given index. The
    list of runs holds what the pairing left of each run in the pieces. -/
def events (pairs : List Pair) : (index : Nat) → List Held → List Piece → List Event
  | _, _, [] => []
  | index, runs, .text s :: pieces => .text s :: events pairs index runs pieces
  | index, runs, .span span :: pieces => .span span :: events pairs index runs pieces
  | index, held :: runs, .run _ :: pieces =>
    held.events index pairs ++ events pairs (index + 1) runs pieces
  | index, [], .run _ :: pieces => events pairs index [] pieces

/-- The event in front of the others, merged with the first of them if both
    are texts. A text without characters is no event. -/
def pushEvent (event : Event) (rest : List Event) : List Event :=
  match event, rest with
  | .text [], rest => rest
  | .text s, .text t :: rest => .text (s ++ t) :: rest
  | event, rest => event :: rest

/-- The events without empty texts and with neighbouring texts merged. -/
def mergeTexts (events : List Event) : List Event :=
  events.foldr pushEvent []

/-- The content in the emphasis of the pair. Three markers stand for bold and
    italic at once, as far as they are switched on. -/
def Pair.wrap (switches : Switches) (pair : Pair) (content : List Span) : Span :=
  match pair.marker, pair.size with
  | .tilde, _ => .style .strike content
  | _, 3 =>
    if switches.bold then
      if switches.italic then .style .bold [.style .italic content] else .style .bold content
    else .style .italic content
  | _, 2 => .style .bold content
  | _, _ => .style .italic content

/-- Emphasis that has begun and not ended. -/
structure Frame where
  /-- The pair whose opener has been met. -/
  pair : Pair
  /-- The siblings in front of the emphasis, latest first. -/
  before : List Span

/-- The spans when the events are over. Emphasis that is still open ends
    there. -/
def closeAll (switches : Switches) : List Frame → List Span → List Span
  | [], current => current.reverse
  | frame :: frames, current =>
    closeAll switches frames (frame.pair.wrap switches current.reverse :: frame.before)

/-- The spans that the events describe, given the emphasis that is open,
    innermost first, and the spans in the innermost, latest first. -/
def assembleFrom (switches : Switches) : List Frame → List Span → List Event → List Span
  | frames, current, [] => closeAll switches frames current
  | frames, current, .text s :: events => assembleFrom switches frames (.text s :: current) events
  | frames, current, .span span :: events => assembleFrom switches frames (span :: current) events
  | frames, current, .opening pair :: events =>
    assembleFrom switches (⟨pair, current⟩ :: frames) [] events
  | [], current, .closing _ :: events => assembleFrom switches [] current events
  | frame :: frames, current, .closing _ :: events =>
    assembleFrom switches frames (frame.pair.wrap switches current.reverse :: frame.before) events

/-- The spans that the events describe. -/
def assemble (switches : Switches) (events : List Event) : List Span :=
  assembleFrom switches [] [] events

end ChatMarkup.Inline
