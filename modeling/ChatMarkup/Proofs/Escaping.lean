import ChatMarkup.Proofs.SpacedEmphasis

/-!
# Escaped Text

Text in which a backslash stands before whatever could be read as markup.

What could be read as markup depends on the place. Some characters begin inline
markup wherever they stand. Others begin a block where they come first on their
line, and the period and the parenthesis do so behind a number. `Escaped` goes
over a text character by character with what has been passed on the line in
hand. It asks for a backslash where one is needed and allows one before any
other punctuation.

Such a text is read without a single construct. An escaped character is a token
of its own, and so is a character without a backslash. For this it must not be
an exclamation mark in front of a bracket, but brackets have a backslash before
them. All tokens then mean the characters of the text, which merge to one span.

## Main definitions

* `beginsBlock`, `isNumber`: What can make a character the beginning of a block.
* `needsEscape`: The character could be read as markup.
* `Escaped`: One text is the other with backslashes where they are needed.
* `escapeFrom`: A text with backslashes.

## Theorems

* `escaped_escapeFrom`: Every text can be escaped.
* `Escaped.append_line`: Escaped lines are escaped one under the other.
* `Escaped.pieces`: The tokens mean the characters of the text.
* `Escaped.convertInline`: Escaped text is shown as the text.
-/

namespace ChatMarkup

open Inline

/-- Whether a block can begin with the character, which is no inline markup. -/
def beginsBlock (c : Char) : Bool :=
  c == '#' || c == '>' || c == '-' || c == '+' || c == '|'

/-- Whether there are digits behind the white space, and nothing else. -/
def isNumber (front : Text) : Bool :=
  !(Text.trimStart front).isEmpty && (Text.trimStart front).all Text.isDigit

/-- Whether the character, which stands behind `front` on its line, could be read
    as markup. -/
def needsEscape (front : Text) (c : Char) : Bool :=
  !Phrase.isPlain c || (beginsBlock c && Text.allBlank front) ||
    ((c == '.' || c == ')') && isNumber front)

/-- What stands on the line behind the character, if `front` stands before it. -/
def onLine (front : Text) (c : Char) : Text :=
  if c = '\n' then [] else front ++ [c]

/-- The second text is the first with backslashes. Where the texts begin, `front`
    has been passed on the line. -/
inductive Escaped : Text → Text → Text → Prop
  /-- There is nothing left. -/
  | nil (front : Text) : Escaped front [] []
  /-- A character that could not be read as markup can stay as it is. -/
  | plain {front s e : Text} {c : Char} : needsEscape front c = false →
      Escaped (onLine front c) s e → Escaped front (c :: s) (c :: e)
  /-- Any punctuation can have a backslash. -/
  | escaped {front s e : Text} {c : Char} : isPunctuation c = true →
      Escaped (onLine front c) s e → Escaped front (c :: s) ('\\' :: c :: e)

theorem not_isBlank_of_isPunctuation {c : Char} (h : isPunctuation c = true) :
    Text.isBlank c = false :=
  Ranges.not_covers_of_covers (by decide) h

theorem isPlain_of_needsEscape {front : Text} {c : Char} (h : needsEscape front c = false) :
    Phrase.isPlain c = true := by
  rw [needsEscape, Bool.or_eq_false_iff, Bool.or_eq_false_iff] at h
  exact (Bool.not_eq_false' _).mp h.1.1

/-- The text with a backslash wherever one is needed, and before any other
    punctuation that is chosen. -/
def escapeFrom (chosen : Char → Bool) : (front : Text) → Text → Text
  | _, [] => []
  | front, c :: s =>
    if needsEscape front c || (isPunctuation c && chosen c) then
      '\\' :: c :: escapeFrom chosen (onLine front c) s
    else c :: escapeFrom chosen (onLine front c) s

/-- Whatever could be read as markup is punctuation. -/
theorem isPunctuation_of_needsEscape {front : Text} {c : Char} (h : needsEscape front c = true) :
    isPunctuation c = true := by
  have hall : ['\\', backtick, '[', '*', '_', '~', '#', '>', '-', '+', '|', '.', ')'].all
      isPunctuation = true := rfl
  refine List.all_eq_true.mp hall c ?_
  simp only [needsEscape, Phrase.isPlain, beginsBlock, Bool.not_not, Bool.or_eq_true,
    Bool.and_eq_true, beq_iff_eq] at h
  rcases h with ((((((h | h) | h) | h) | h) | h) | ⟨(((h | h) | h) | h) | h, -⟩) | ⟨h | h, -⟩
  all_goals simp [h]

/-- Every text can be escaped. -/
theorem escaped_escapeFrom (chosen : Char → Bool) (front s : Text) :
    Escaped front s (escapeFrom chosen front s) := by
  induction s generalizing front with
  | nil => exact .nil front
  | cons c s ih =>
      rw [escapeFrom]
      split
      · next hescape =>
          refine .escaped ?_ (ih _)
          rw [Bool.or_eq_true, Bool.and_eq_true] at hescape
          exact hescape.elim isPunctuation_of_needsEscape And.left
      · next hescape =>
          rw [Bool.not_eq_true, Bool.or_eq_false_iff] at hescape
          exact .plain hescape.1 (ih _)

namespace Escaped

variable {front s e : Text}

/-- Nothing but backslashes is new. -/
theorem mem {d : Char} (h : Escaped front s e) (hd : d ∈ e) : d = '\\' ∨ d ∈ s := by
  induction h with
  | nil => exact absurd hd List.not_mem_nil
  | plain _ _ ih =>
      rcases List.mem_cons.mp hd with rfl | hd
      · exact .inr List.mem_cons_self
      · exact (ih hd).imp_right (List.mem_cons_of_mem _)
  | escaped _ _ ih =>
      rcases List.mem_cons.mp hd with rfl | hd
      · exact .inl rfl
      · rcases List.mem_cons.mp hd with rfl | hd
        · exact .inr List.mem_cons_self
        · exact (ih hd).imp_right (List.mem_cons_of_mem _)

theorem not_mem {d : Char} (h : Escaped front s e) (hd : d ≠ '\\') (hs : d ∉ s) : d ∉ e :=
  fun hmem => (h.mem hmem).elim hd hs

/-- White space is not escaped. -/
theorem allBlank (h : Escaped front s e) : Text.allBlank e = Text.allBlank s := by
  induction h with
  | nil => rfl
  | plain _ _ ih => rw [Text.allBlank, Text.allBlank, List.all_cons, List.all_cons, ← Text.allBlank,
      ← Text.allBlank, ih]
  | escaped hc _ _ =>
      -- Neither the backslash nor what it escapes is white space.
      have hblank := not_isBlank_of_isPunctuation hc
      have hslash : Text.isBlank '\\' = false := by decide
      simp only [Text.allBlank, List.all_cons, hblank, hslash, Bool.false_and]

/-- A line feed stays as it is, and behind it a line begins. -/
theorem append_line (h : Escaped front s e) {s' e' : Text} (h' : Escaped [] s' e') :
    Escaped front (s ++ '\n' :: s') (e ++ '\n' :: e') := by
  induction h with
  | nil => exact .plain rfl h'
  | plain hc _ ih => exact .plain hc ih
  | escaped hc _ ih => exact .escaped hc ih

theorem joinWith {bodies bodies' : List Text} (h : List.Forall₂ (Escaped []) bodies bodies') :
    Escaped [] (Text.joinWith '\n' bodies) (Text.joinWith '\n' bodies') := by
  induction h with
  | nil => exact .nil []
  | cons hbody hmore ih =>
      cases hmore with
      | nil => exact hbody
      | cons => exact hbody.append_line ih

/-- A bracket has a backslash, so no text begins with one. -/
theorem head?_ne_bracket (h : Escaped front s e) : e.head? ≠ some '[' := by
  cases h with
  | nil => exact fun heq => Option.some_ne_none _ heq.symm
  | plain hc _ =>
      exact fun heq => Text.ne_of_passes (isPlain_of_needsEscape hc) rfl (Option.some.inj heq)
  | escaped => exact fun heq => absurd (Option.some.inj heq) (by decide)

theorem nextToken_escaped {c : Char} (hc : isPunctuation c = true) (before after : Option Char)
    (rest : Text) : nextToken true before after '\\' (c :: rest) = (.escaped c, rest) := by
  rw [nextToken, if_pos rfl]
  simp only [hc, Bool.and_true, if_true]

/-- Whatever is switched on, the tokens mean the characters of the text. -/
theorem pieces (h : Escaped front s e) (switches : Switches) (label : Text → List Span)
    (before after : Option Char) :
    (tokens true before e after).map (Token.piece switches label) =
      s.map fun c => .text [c] := by
  induction h generalizing before with
  | nil =>
      rw [tokens]
      rfl
  | plain hc h ih =>
      rw [tokens, nextToken_plain (isPlain_of_needsEscape hc) _ _ _ h.head?_ne_bracket,
        List.map_cons, ih]
      rfl
  | escaped hc _ ih =>
      rw [tokens, nextToken_escaped hc, List.map_cons, ih]
      rfl

/-- Characters that stand for themselves are one span. -/
theorem resolve_chars (switches : Switches) (s : Text) :
    resolve switches (s.map fun c => .text [c]) = if s = [] then [] else [.text s] := by
  have hevents := events_chars (pairRuns switches ((s.map fun c => Piece.text [c]).filterMap
    Piece.run?)).made 0 (pairRuns switches ((s.map fun c => Piece.text [c]).filterMap
    Piece.run?)).runs s []
  rw [List.append_nil] at hevents
  rw [resolve, hevents, events]
  by_cases hs : s = []
  · rw [if_pos hs, hs]
    rfl
  · have hrest : NotText (mergeTexts []) := fun _ _ => (List.cons_ne_nil _ _).symm
    rw [if_neg hs, mergeTexts_chars hs hrest]
    rfl

/-- Escaped text is shown as the text, whatever the configuration. -/
theorem convertInline (h : Escaped front s e) (config : Config) :
    ChatMarkup.convertInline config e = s := by
  rw [ChatMarkup.convertInline, parseInline, parse, parseBetween,
    show config.inlineSwitches.escapes = true from rfl, h.pieces, resolve_chars]
  split
  · next hs => rw [hs]; rfl
  · exact List.append_nil s

end Escaped

end ChatMarkup
