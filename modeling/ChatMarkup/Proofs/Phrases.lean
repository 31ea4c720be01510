import ChatMarkup.Inline.Parse
import ChatMarkup.Proofs.Backticks
import ChatMarkup.Render.Span
import Mathlib.Data.List.Chain

/-!
# Phrases and How They Are Written

Emphasis that is set off by white space, as a tree and as text.

A phrase is text, code, or a list of phrases in some style. Asterisks and
underscores both write the same styles, so a phrase in a style remembers which
it is written with. What keeps the markers of different phrases apart is the
white space around every phrase in a style: a run of markers behind white space
can only open, and one before white space can only close. The content of the
phrase begins and ends with text that holds on to its markers.

So the tokens of a phrase do not depend on what stands around it, and neither do
the pieces that they become.

## Main definitions

* `Style`: Bold, italic, both at once, or struck through.
* `Phrase`: A tree of text, code and emphasis.
* `Phrase.write`: The phrase as it is written.
* `Phrase.span`: The span that the phrase is.
* `Phrase.chat`: The phrase in the markup of the chat.
* `Phrase.Fits`, `Phrase.Spaced`: The phrases that can stand next to each other.
* `Phrase.pieces`: What the tokens of a phrase come to mean.

## Theorems

* `tokens_plain`, `tokens_code`, `tokens_run`: Tokens in front of other text.
* `pieces_writeAll`: Written phrases are read as their pieces.
-/

namespace ChatMarkup

namespace Inline

/-! ### Phrases -/

/-- How a phrase stands out. -/
inductive Style
  | bold
  | italic
  | boldItalic
  | strike
  deriving DecidableEq, Repr

/-- Text, code, or phrases in a style. -/
inductive Phrase
  /-- Text that stands for itself. -/
  | text (s : Text)
  /-- Code, without the backticks. -/
  | code (body : Text)
  /-- Phrases in a style, which is written with underscores or with asterisks. A
      phrase that is struck through is written with tildes. -/
  | styled (style : Style) (underscores : Bool) (content : List Phrase)

namespace Style

/-- The marker that writes the style. -/
def marker (underscores : Bool) : Style → Marker
  | strike => .tilde
  | _ => if underscores then .underscore else .asterisk

/-- The number of markers on either side. -/
def length : Style → Nat
  | bold => 2
  | italic => 1
  | boldItalic => 3
  | strike => 2

/-- The run of markers on either side. -/
def mark (underscores : Bool) (style : Style) : Text :=
  List.replicate style.length (style.marker underscores).char

/-- The content in the style. Bold italic is bold of italic. -/
def apply (content : List Span) : Style → Span
  | bold => .styled .bold content
  | italic => .styled .italic content
  | boldItalic => .styled .bold [.styled .italic content]
  | strike => .styled .strike content

/-- What stands in front of the style in the chat. -/
def chatOpen : Style → Text
  | bold => ['*']
  | italic => ['_']
  | boldItalic => ['*', '_']
  | strike => ['~']

/-- What stands behind the style in the chat. -/
def chatClose : Style → Text
  | bold => ['*']
  | italic => ['_']
  | boldItalic => ['_', '*']
  | strike => ['~']

/-- The run that opens the style, behind white space. -/
def opener (underscores : Bool) (style : Style) : Run :=
  ⟨style.marker underscores, style.length, true, false⟩

/-- The run that closes the style, before white space. -/
def closer (underscores : Bool) (style : Style) : Run :=
  ⟨style.marker underscores, style.length, false, true⟩

end Style

namespace Phrase

mutual

/-- The phrase as it is written. -/
def write : Phrase → Text
  | text s => s
  | code body => backtick :: body ++ [backtick]
  | styled style underscores content =>
    style.mark underscores ++ writeAll content ++ style.mark underscores

/-- The phrases as they are written, one after the other. -/
def writeAll : List Phrase → Text
  | [] => []
  | phrase :: phrases => write phrase ++ writeAll phrases

end

mutual

/-- The span that the phrase is. -/
def span : Phrase → Span
  | text s => .text s
  | code body => .code (backtick :: body ++ [backtick])
  | styled style _ content => style.apply (spans content)

/-- The spans that the phrases are. -/
def spans : List Phrase → List Span
  | [] => []
  | phrase :: phrases => span phrase :: spans phrases

end

mutual

/-- The phrase in the markup of the chat. -/
def chat : Phrase → Text
  | text s => s
  | code body => backtick :: body ++ [backtick]
  | styled style _ content => style.chatOpen ++ chatAll content ++ style.chatClose

/-- The phrases in the markup of the chat, one after the other. -/
def chatAll : List Phrase → Text
  | [] => []
  | phrase :: phrases => chat phrase ++ chatAll phrases

end

/-- The characters that can stand in the text of a phrase: none of those with
    which markup begins. -/
def isPlain (c : Char) : Bool :=
  !(c == '\\' || c == backtick || c == '[' || c == '*' || c == '_' || c == '~')

/-- The two phrases can stand next to each other. Texts and other phrases take
    turns, and there is white space next to emphasis. -/
def Fits : Phrase → Phrase → Prop
  | text _, text _ => False
  | text _, code _ => True
  | text s, styled _ _ _ => s.getLast?.any Text.isBlank = true
  | code _, text _ => True
  | styled _ _ _, text s => s.head?.any Text.isBlank = true
  | _, _ => False

/-- The first and the last phrase are texts that begin and end with something
    other than white space. -/
def Firm (phrases : List Phrase) : Prop :=
  (∃ s, phrases.head? = some (text s) ∧ s.head?.any (fun c => !Text.isBlank c) = true) ∧
    ∃ s, phrases.getLast? = some (text s) ∧ s.getLast?.any (fun c => !Text.isBlank c) = true

mutual

/-- The phrase is made of plain text, of code in single backticks, and of
    emphasis that is set off by white space and holds on to its content. -/
def Sound : Phrase → Prop
  | text s => s ≠ [] ∧ ∀ c ∈ s, isPlain c = true
  | code body => body ≠ [] ∧ backtick ∉ body
  | styled _ _ content => AllSound content ∧ content.IsChain Fits ∧ Firm content

/-- All the phrases are sound. -/
def AllSound : List Phrase → Prop
  | [] => True
  | phrase :: phrases => Sound phrase ∧ AllSound phrases

end

/-- The phrases can be written next to each other. -/
structure Spaced (phrases : List Phrase) : Prop where
  /-- Each of them can be written. -/
  sound : AllSound phrases
  /-- Neighbours can stand next to each other. -/
  fits : phrases.IsChain Fits

mutual

/-- What the tokens of the phrase come to mean. -/
def pieces : Phrase → List Piece
  | text s => s.map fun c => .text [c]
  | code body => [.span (.code (backtick :: body ++ [backtick]))]
  | styled style underscores content =>
    .run (style.opener underscores) :: piecesAll content ++ [.run (style.closer underscores)]

/-- What the tokens of the phrases come to mean. -/
def piecesAll : List Phrase → List Piece
  | [] => []
  | phrase :: phrases => pieces phrase ++ piecesAll phrases

end

end Phrase

/-! ### Tokens in front of other text -/

namespace Phrase

theorem ofChar?_of_isPlain {c : Char} (h : isPlain c = true) : Marker.ofChar? c = none := by
  rw [Marker.ofChar?, if_neg (Text.ne_of_passes h rfl), if_neg (Text.ne_of_passes h rfl),
    if_neg (Text.ne_of_passes h rfl)]

end Phrase

/-- A plain character is a token of its own, unless it is an exclamation mark in
    front of a bracket. -/
theorem nextToken_plain {c : Char} (hc : Phrase.isPlain c = true) (escapes : Bool)
    (before after : Option Char) {rest : Text} (hrest : rest.head? ≠ some '[') :
    nextToken escapes before after c rest = (.char c, rest) := by
  rw [nextToken.eq_def, if_neg (Text.ne_of_passes hc rfl),
    if_neg (Text.ne_of_passes hc rfl)]
  split
  · split
    · exact absurd rfl hrest
    · rfl
  · rw [if_neg (Text.ne_of_passes hc rfl), Phrase.ofChar?_of_isPlain hc]

/-- Plain text is read character by character. -/
theorem tokens_plain {s : Text} (hs : ∀ c ∈ s, Phrase.isPlain c = true) (escapes : Bool)
    (before after : Option Char) {rest : Text} (hrest : rest.head? ≠ some '[') :
    tokens escapes before (s ++ rest) after =
      s.map .char ++ tokens escapes (s.getLast?.or before) rest after := by
  induction s generalizing before with
  | nil => rfl
  | cons c s ih =>
      have hplain : ∀ d ∈ s, Phrase.isPlain d = true :=
        fun d hd => hs d (List.mem_cons_of_mem _ hd)
      -- What comes next is plain too, or it is what stands behind the text.
      have hnext : (s ++ rest).head? ≠ some '[' := by
        cases s with
        | nil => exact hrest
        | cons d s =>
            exact fun heq => Text.ne_of_passes (hplain d List.mem_cons_self) rfl
              (Option.some.inj heq)
      have hlast : s.getLast?.or (some c) = ((c :: s).getLast?).or before := by
        rw [List.getLast?_cons]
        cases s.getLast? <;> rfl
      rw [List.cons_append, tokens, nextToken_plain (hs c List.mem_cons_self) _ _ _ hnext]
      simp only [Token.source, List.getLast?_singleton]
      rw [ih hplain, hlast]
      rfl

/-- Code between single backticks is one token. -/
theorem tokens_code {body : Text} (hne : body ≠ []) (hbody : backtick ∉ body) (escapes : Bool)
    (before after : Option Char) {rest : Text} (hrest : rest.head? ≠ some backtick) :
    tokens escapes before (backtick :: body ++ backtick :: rest) after =
      .code 1 body :: tokens escapes (some backtick) rest after := by
  have hcode := tokens_ticks_code (Nat.le_refl 1) hne hbody hrest escapes before after
  rwa [show ticks 1 = [backtick] from rfl, List.append_assoc, List.singleton_append] at hcode

theorem Marker.ofChar?_char (marker : Marker) : Marker.ofChar? marker.char = some marker := by
  cases marker <;> rfl

theorem Marker.isPlain_char (marker : Marker) : Phrase.isPlain marker.char = false := by
  cases marker <;> rfl

theorem Marker.not_isBlank_char (marker : Marker) : Text.isBlank marker.char ≠ true := by
  cases marker <;> decide

/-- Markers up to another character are one token. -/
theorem tokens_run (marker : Marker) (n : Nat) (escapes : Bool) (before after : Option Char)
    {rest : Text} (hrest : rest.head? ≠ some marker.char) :
    tokens escapes before (List.replicate (n + 1) marker.char ++ rest) after =
      .run (.between marker (n + 1) before (rest.head?.or after)) ::
        tokens escapes (some marker.char) rest after := by
  have hnext : nextToken escapes before after marker.char
      (List.replicate n marker.char ++ rest) =
        (.run (.between marker (n + 1) before (rest.head?.or after)), rest) := by
    rcases Text.countWhile_replicate marker.char n rest hrest with ⟨hcount, hdrop⟩
    -- Four other characters are asked for before the markers.
    have hlink : marker.char ≠ '[' ∧ marker.char ≠ '!' ∧ marker.char ≠ '\\' ∧
        marker.char ≠ backtick := by
      cases marker <;> decide
    rw [nextToken.eq_def, if_neg hlink.2.2.1, if_neg hlink.2.2.2, if_neg hlink.2.1, if_neg hlink.1,
      Marker.ofChar?_char]
    simp only [hcount, hdrop]
  rw [List.replicate_succ, List.cons_append, tokens, hnext]
  simp only [Token.source, Run.source, Run.between]
  rw [List.replicate_succ', List.getLast?_concat]

/-! ### The pieces of phrases -/

/-- All emphasis is read as such, whether asterisks or underscores write it. -/
structure Switches.AllEmphasis (switches : Switches) : Prop where
  /-- Two markers make bold. -/
  bold : switches.bold = true
  /-- One marker makes italic. -/
  italic : switches.italic = true
  /-- Two tildes strike through. -/
  strike : switches.strike = true
  /-- Underscores are markers. -/
  underscores : switches.underscores = true

/-- Behind white space and in front of something else a run can only open. -/
theorem Run.between_of_blank_before (marker : Marker) (length : Nat) {before after : Option Char}
    (hbefore : before.all Text.isBlank = true) (hafter : touches after = true) :
    Run.between marker length before after = ⟨marker, length, true, false⟩ := by
  have hblank : touches before = false ∧ joinsWord before = false := by
    cases before with
    | none => exact ⟨rfl, rfl⟩
    | some c =>
        have hc : Text.isBlank c = true := hbefore
        exact ⟨congrArg not hc, Text.not_isAlphanumeric_of_isBlank hc⟩
  simp only [between, opens, closes, hblank, hafter, Bool.and_false, Bool.not_false,
    Bool.and_true, Bool.false_and]

/-- Before white space and behind something else a run can only close. -/
theorem Run.between_of_blank_after (marker : Marker) (length : Nat) {before after : Option Char}
    (hbefore : touches before = true) (hafter : after.all Text.isBlank = true) :
    Run.between marker length before after = ⟨marker, length, false, true⟩ := by
  have hblank : touches after = false ∧ joinsWord after = false := by
    cases after with
    | none => exact ⟨rfl, rfl⟩
    | some c =>
        have hc : Text.isBlank c = true := hafter
        exact ⟨congrArg not hc, Text.not_isAlphanumeric_of_isBlank hc⟩
  simp only [between, opens, closes, hblank, hbefore, Bool.and_false, Bool.not_false,
    Bool.and_true, Bool.false_and]

namespace Style

variable {switches : Switches} (underscores : Bool) (style : Style)

theorem takesPart_opener (h : switches.AllEmphasis) :
    (style.opener underscores).takesPart switches = true := by
  cases style <;> cases underscores <;>
    simp [Run.takesPart, opener, marker, length, Switches.allowsSize, h.bold, h.italic, h.strike,
      h.underscores]

theorem takesPart_closer (h : switches.AllEmphasis) :
    (style.closer underscores).takesPart switches = true := by
  cases style <;> cases underscores <;>
    simp [Run.takesPart, closer, marker, length, Switches.allowsSize, h.bold, h.italic, h.strike,
      h.underscores]

/-- A run of markers is not empty. -/
theorem mark_eq : style.mark underscores =
    List.replicate (style.length - 1 + 1) (style.marker underscores).char := by
  cases style <;> rfl

theorem head?_mark : (style.mark underscores).head? = some (style.marker underscores).char := by
  rw [mark_eq]
  rfl

theorem getLast?_mark :
    (style.mark underscores).getLast? = some (style.marker underscores).char := by
  rw [mark_eq, List.replicate_succ', List.getLast?_concat]

/-- Markers behind white space and in front of plain text open. -/
theorem tokens_mark_opener (escapes : Bool) {before : Option Char}
    (hbefore : before.all Text.isBlank = true) {rest : Text} {c : Char} (hc : rest.head? = some c)
    (hplain : Phrase.isPlain c = true) (htouches : touches (some c) = true) :
    tokens escapes before (style.mark underscores ++ rest) none =
      .run (style.opener underscores) ::
        tokens escapes (some (style.marker underscores).char) rest none := by
  have hne : rest.head? ≠ some (style.marker underscores).char := fun heq =>
    Text.ne_of_passes hplain (Marker.isPlain_char _) (Option.some.inj (hc.symm.trans heq))
  rw [mark_eq, tokens_run _ _ _ _ _ hne, Option.or_none, hc,
    Run.between_of_blank_before _ _ hbefore htouches]
  cases style <;> rfl

/-- Markers before white space and behind something else close. -/
theorem tokens_mark_closer (escapes : Bool) {before : Option Char}
    (hbefore : touches before = true) {rest : Text} (hrest : rest.head?.all Text.isBlank = true) :
    tokens escapes before (style.mark underscores ++ rest) none =
      .run (style.closer underscores) ::
        tokens escapes (some (style.marker underscores).char) rest none := by
  have hne : rest.head? ≠ some (style.marker underscores).char := by
    intro heq
    rw [heq] at hrest
    exact absurd hrest (Marker.not_isBlank_char _)
  rw [mark_eq, tokens_run _ _ _ _ _ hne, Option.or_none,
    Run.between_of_blank_after _ _ hbefore hrest]
  cases style <;> rfl

theorem marker_ne_bracket : (style.marker underscores).char ≠ '[' := by
  cases style <;> cases underscores <;> decide

end Style

namespace Phrase

/-- What stands in front of the phrase does not change how it is read. -/
def MayFollow (before : Option Char) : Phrase → Prop
  | styled _ _ _ => before.all Text.isBlank = true
  | _ => True

/-- What stands behind the phrase does not change how it is read. -/
def MayPrecede (after : Option Char) : Phrase → Prop
  | text _ => after ≠ some '['
  | code _ => after ≠ some backtick
  | styled _ _ _ => after.all Text.isBlank = true

theorem mayFollow_none (phrase : Phrase) : phrase.MayFollow none := by
  cases phrase with
  | text s => exact trivial
  | code body => exact trivial
  | styled style underscores content => rfl

theorem mayPrecede_none (phrase : Phrase) : phrase.MayPrecede none := by
  cases phrase with
  | text s => exact Option.some_ne_none _ ∘ Eq.symm
  | code body => exact Option.some_ne_none _ ∘ Eq.symm
  | styled style underscores content => rfl

theorem write_ne_nil {phrase : Phrase} (h : phrase.Sound) : phrase.write ≠ [] := by
  cases phrase with
  | text s =>
      rw [Sound] at h
      exact h.1
  | code body => exact List.cons_ne_nil _ _
  | styled style underscores content =>
      rw [write, Style.mark_eq, List.replicate_succ]
      exact List.cons_ne_nil _ _

theorem isPlain_head? {s : Text} {c : Char} (h : ∀ c ∈ s, isPlain c = true)
    (hc : s.head? = some c) : isPlain c = true :=
  h c (List.mem_of_mem_head? hc)

theorem mayFollow_of_fits {first second : Phrase} (h : Fits first second) :
    second.MayFollow first.write.getLast? := by
  cases second with
  | text s => exact trivial
  | code body => exact trivial
  | styled style underscores content =>
      cases first with
      | text s =>
          rw [MayFollow, write]
          rw [Fits] at h
          cases hlast : s.getLast? with
          | none => rfl
          | some c => exact (hlast ▸ h : (some c).any Text.isBlank = true)
      | code body => exact absurd h id
      | styled style' underscores' content' => exact absurd h id

theorem mayPrecede_of_fits {first second : Phrase} (h : Fits first second)
    (hsecond : second.Sound) : first.MayPrecede second.write.head? := by
  cases second with
  | text s =>
      cases first with
      | text s' => exact absurd h id
      | code body =>
          intro hhead
          rw [Sound] at hsecond
          exact absurd (isPlain_head? hsecond.2 hhead) (by decide)
      | styled style underscores content =>
          rw [MayPrecede, write]
          rw [Fits] at h
          cases hhead : s.head? with
          | none => rfl
          | some c => exact (hhead ▸ h : (some c).any Text.isBlank = true)
  | code body =>
      cases first with
      | text s => exact fun hhead => absurd (Option.some.inj hhead) (by decide)
      | code body => exact absurd h id
      | styled style underscores content => exact absurd h id
  | styled style underscores content =>
      cases first with
      | text s =>
          intro hhead
          rw [write, Style.mark_eq, List.replicate_succ] at hhead
          exact style.marker_ne_bracket underscores (Option.some.inj hhead)
      | code body => exact absurd h id
      | styled style' underscores' content' => exact absurd h id

theorem writeAll_append (first second : List Phrase) :
    writeAll (first ++ second) = writeAll first ++ writeAll second := by
  induction first with
  | nil => rfl
  | cons phrase first ih => rw [List.cons_append, writeAll, writeAll, ih, List.append_assoc]

/-- Content that holds on to its markers begins with a character that is neither
    markup nor white space. -/
theorem exists_head?_of_firm {content : List Phrase} (hsound : AllSound content)
    (hfirm : Firm content) (rest : Text) :
    ∃ c, (writeAll content ++ rest).head? = some c ∧ isPlain c = true ∧
      touches (some c) = true := by
  rcases hfirm.1 with ⟨s, hhead, hs⟩
  rcases List.head?_eq_some_iff.mp hhead with ⟨others, rfl⟩
  rw [AllSound, Sound] at hsound
  cases s with
  | nil => exact absurd rfl hsound.1.1
  | cons c s => exact ⟨c, rfl, hsound.1.2 c List.mem_cons_self, hs⟩

/-- Content that holds on to its markers ends with a character that is not white
    space. -/
theorem touches_getLast?_of_firm {content : List Phrase} (hfirm : Firm content)
    (before : Option Char) : touches ((writeAll content).getLast?.or before) = true := by
  rcases hfirm.2 with ⟨s, hlast, hs⟩
  rcases List.getLast?_eq_some_iff.mp hlast with ⟨others, rfl⟩
  rw [writeAll_append, writeAll, writeAll, List.append_nil, write, List.getLast?_append]
  cases hchar : s.getLast? with
  | none =>
      rw [hchar] at hs
      exact absurd hs Bool.false_ne_true
  | some c =>
      rw [hchar] at hs
      exact hs

mutual

/-- A written phrase is read as its pieces, whatever comes behind it. -/
theorem pieces_write {switches : Switches} (hall : switches.AllEmphasis)
    (label : Text → List Span) : ∀ (phrase : Phrase) (before : Option Char) (rest : Text),
    phrase.Sound → phrase.MayFollow before → phrase.MayPrecede rest.head? →
    (tokens switches.escapes before (phrase.write ++ rest) none).map
        (Token.piece switches label) =
      phrase.pieces ++ (tokens switches.escapes phrase.write.getLast? rest none).map
        (Token.piece switches label)
  | text s, before, rest, hsound, _, hrest => by
      rw [Sound] at hsound
      have hlast : s.getLast?.or before = s.getLast? := by
        rw [List.getLast?_eq_getLast_of_ne_nil hsound.1]
        rfl
      rw [write, tokens_plain hsound.2 _ _ _ hrest, hlast, List.map_append, List.map_map, pieces]
      rfl
  | code body, before, rest, hsound, _, hrest => by
      rw [Sound] at hsound
      have hlast : (backtick :: body ++ [backtick]).getLast? = some backtick :=
        List.getLast?_concat
      rw [write, hlast, List.append_assoc, List.singleton_append,
        tokens_code hsound.1 hsound.2 _ _ _ hrest, pieces]
      rfl
  | styled style underscores content, before, rest, hsound, hbefore, hrest => by
      rw [Sound] at hsound
      rcases hsound with ⟨hcontent, hchain, hfirm⟩
      let mark := style.mark underscores
      let marker := (style.marker underscores).char
      rcases exists_head?_of_firm hcontent hfirm (mark ++ rest) with ⟨c, hc, hplain, htouches⟩
      -- On its inner side either run touches the text that the content holds on with.
      have hopener := style.tokens_mark_opener underscores switches.escapes hbefore hc hplain
        htouches
      have hcloser := style.tokens_mark_closer underscores switches.escapes
        (touches_getLast?_of_firm hfirm (some marker)) hrest
      have hlast : (mark ++ writeAll content ++ mark).getLast? = some marker := by
        rw [List.getLast?_append, Style.getLast?_mark]
        rfl
      -- The content ends and begins with texts, which the runs do not bother.
      have hends : ∀ last ∈ content.getLast?, last.MayPrecede (mark ++ rest).head? := by
        intro last hmem
        rcases hfirm.2 with ⟨s, hs, _⟩
        rw [Option.mem_def, hs] at hmem
        rw [← Option.some.inj hmem, List.head?_append, Style.head?_mark]
        exact fun heq => style.marker_ne_bracket underscores (Option.some.inj heq)
      have hbegins : ∀ first ∈ content.head?, first.MayFollow (some marker) := by
        intro first hmem
        rcases hfirm.1 with ⟨s, hs, _⟩
        rw [Option.mem_def, hs] at hmem
        rw [← Option.some.inj hmem]
        exact trivial
      have hinner := pieces_writeAll hall label content (some marker) (mark ++ rest) hcontent hchain
        hbegins hends
      rw [write, hlast, List.append_assoc, List.append_assoc, hopener, List.map_cons, hinner,
        hcloser, List.map_cons, pieces, Token.piece, if_pos (style.takesPart_opener _ hall),
        Token.piece, if_pos (style.takesPart_closer _ hall), List.cons_append, List.cons_append,
        List.append_assoc]
      rfl

/-- Written phrases are read as their pieces, whatever comes behind them. -/
theorem pieces_writeAll {switches : Switches} (hall : switches.AllEmphasis)
    (label : Text → List Span) : ∀ (phrases : List Phrase) (before : Option Char) (rest : Text),
    AllSound phrases → phrases.IsChain Fits →
    (∀ phrase ∈ phrases.head?, phrase.MayFollow before) →
    (∀ phrase ∈ phrases.getLast?, phrase.MayPrecede rest.head?) →
    (tokens switches.escapes before (writeAll phrases ++ rest) none).map
        (Token.piece switches label) =
      piecesAll phrases ++
        (tokens switches.escapes ((writeAll phrases).getLast?.or before) rest none).map
          (Token.piece switches label)
  | [], before, rest, _, _, _, _ => rfl
  | phrase :: phrases, before, rest, hsound, hchain, hbefore, hrest => by
      rw [AllSound] at hsound
      have hlast : (writeAll (phrase :: phrases)).getLast?.or before =
          (writeAll phrases).getLast?.or phrase.write.getLast? := by
        rw [writeAll, List.getLast?_append, List.getLast?_eq_getLast_of_ne_nil
          (write_ne_nil hsound.1)]
        cases (writeAll phrases).getLast? <;> rfl
      -- Behind a phrase stands the next one, or what stands behind all of them.
      have hnext : phrase.MayPrecede (writeAll phrases ++ rest).head? := by
        cases phrases with
        | nil => exact hrest phrase rfl
        | cons second phrases =>
            rw [AllSound] at hsound
            have hsecond := mayPrecede_of_fits (List.isChain_cons_cons.mp hchain).1 hsound.2.1
            rw [writeAll, List.append_assoc, List.head?_append_of_ne_nil _
              (write_ne_nil hsound.2.1)]
            exact hsecond
      have hfollows : ∀ second ∈ phrases.head?, second.MayFollow phrase.write.getLast? := by
        intro second hsecond
        rcases List.head?_eq_some_iff.mp hsecond with ⟨others, rfl⟩
        exact mayFollow_of_fits (List.isChain_cons_cons.mp hchain).1
      have hends : ∀ last ∈ phrases.getLast?, last.MayPrecede rest.head? := by
        intro last hmem
        refine hrest last ?_
        rw [List.getLast?_cons, hmem]
        rfl
      rw [hlast, writeAll, List.append_assoc,
        pieces_write hall label phrase before _ hsound.1 (hbefore phrase rfl) hnext,
        pieces_writeAll hall label phrases _ rest hsound.2 hchain.tail hfollows hends, piecesAll,
        List.append_assoc]

end

end Phrase

end Inline

end ChatMarkup
