import ChatMarkup.Proofs.Backticks
import ChatMarkup.Proofs.Rendering

/-!
# Inline Code

What stands between backticks is shown as it is, and nothing around it depends
on it.

Code is read before any emphasis is paired, and a run next to it sees the
backtick and never the body. So the tokens around code are the same for every
body, and so are the pieces, the runs and their pairs. The tree is built from
events by a stack, in which the code has one place: in front of the events to
come, or in front of emphasis that is still open. Whatever happens next, it keeps
a place of its own.

A tree with such a place left open is a `Clearing`. That all bodies fill the same
clearing says more than that any two trees differ in one leaf, and the text
around the code can be read off the clearing.

## Main definitions

* `Clearing`: Spans with one place left open, at any depth of emphasis.
* `Clearing.fill`: The spans with a span put into that place.
* `HasPlace`: The spans are the same for all codes, but for the code.

## Theorems

* `tokens_append_ticks`: What stands in front of backticks does not see past
  them.
* `hasPlace_resolve`: Code among pieces has a place in the tree.
* `renderAll_fill`: Text around a clearing does not depend on what fills it.
* `parseInline_code_opaque`: The law of inline code.
-/

namespace ChatMarkup

open ChatMarkup.Span

/-- Spans with one place left open. The place may lie within emphasis. -/
inductive Clearing
  /-- The place is between two rows of spans. -/
  | here (before after : List Span)
  /-- The place is in the content of a styled span. -/
  | within (before : List Span) (emphasis : Emphasis) (inner : Clearing) (after : List Span)

namespace Clearing

/-- The spans with a span put into the open place. -/
def fill (span : Span) : Clearing → List Span
  | here before after => before ++ span :: after
  | within before emphasis inner after => before ++ .styled emphasis (inner.fill span) :: after

/-- The clearing with more spans around it. -/
def between (left right : List Span) : Clearing → Clearing
  | here before after => here (left ++ before) (after ++ right)
  | within before emphasis inner after => within (left ++ before) emphasis inner (after ++ right)

theorem fill_between (left right : List Span) (clearing : Clearing) (span : Span) :
    (clearing.between left right).fill span = left ++ clearing.fill span ++ right := by
  cases clearing with
  | here before after => simp [between, fill]
  | within before emphasis inner after => simp [between, fill]

/-- What fills a clearing is written between two texts that do not depend on
    it. -/
theorem renderAll_fill (look : Look) (clearing : Clearing) :
    ∃ left right, ∀ span, renderAll look (clearing.fill span) =
      left ++ span.render look ++ right := by
  induction clearing with
  | here before after =>
      refine ⟨renderAll look before, renderAll look after, fun span => ?_⟩
      rw [fill, renderAll_append, renderAll, List.append_assoc]
  | within before emphasis inner after ih =>
      rcases ih with ⟨left, right, hinner⟩
      refine ⟨renderAll look before ++ look.mark emphasis ++ left,
        right ++ look.mark emphasis ++ renderAll look after, fun span => ?_⟩
      rw [fill, renderAll_append, renderAll, render, hinner]
      simp only [List.append_assoc]

end Clearing

namespace Inline

/-! ### The place of code in a tree -/

/-- The spans are the same for every code that a row is made with, except that
    one place holds the code itself. -/
def HasPlace (row : Text → List Span) : Prop :=
  ∃ clearing : Clearing, ∀ code, row code = clearing.fill (.code code)

namespace HasPlace

variable {row : Text → List Span}

theorem between (h : HasPlace row) (left right : List Span) :
    HasPlace fun code => left ++ row code ++ right := by
  rcases h with ⟨clearing, hrow⟩
  refine ⟨clearing.between left right, fun code => ?_⟩
  dsimp only
  rw [hrow, Clearing.fill_between]

/-- A style is put around the place, or merges with the one that is there. -/
theorem style (h : HasPlace row) (emphasis : Emphasis) :
    HasPlace fun code => [Span.style emphasis (row code)] := by
  rcases h with ⟨clearing, hrow⟩
  -- Unless the row is a single span, it is put into the style as it is.
  have hmany (hne : ∀ code inner content, row code ≠ [.styled inner content]) :
      HasPlace fun code => [Span.style emphasis (row code)] := by
    refine ⟨.within [] emphasis clearing [], fun code => ?_⟩
    have hstyle : Span.style emphasis (row code) = .styled emphasis (row code) := by
      unfold Span.style
      split
      · next inner content hsingle => exact absurd hsingle (hne code inner content)
      · rfl
    dsimp only
    rw [hstyle, hrow]
    rfl
  cases clearing with
  | here before after =>
      refine hmany fun code inner content hsingle => ?_
      have hmem : Span.code code ∈ [Span.styled inner content] := by
        rw [← hsingle, hrow, Clearing.fill]
        exact List.mem_append_right _ List.mem_cons_self
      exact Span.noConfusion (List.mem_singleton.mp hmem)
  | within before other inner after =>
      by_cases halone : before = [] ∧ after = []
      · obtain ⟨rfl, rfl⟩ := halone
        by_cases hsame : other = emphasis
        · refine ⟨.within [] other inner [], fun code => ?_⟩
          dsimp only
          rw [hrow, Clearing.fill, List.nil_append, Span.style, if_pos hsame]
        · refine ⟨.within [] emphasis (.within [] other inner []) [], fun code => ?_⟩
          dsimp only
          rw [hrow, Clearing.fill, List.nil_append, Span.style, if_neg hsame]
          rfl
      · refine hmany fun code inner' content hsingle => halone ?_
        have hlength := congrArg List.length hsingle
        rw [hrow, Clearing.fill, List.length_append, List.length_cons, List.length_singleton]
          at hlength
        exact ⟨List.length_eq_zero_iff.mp (by omega), List.length_eq_zero_iff.mp (by omega)⟩

theorem wrap (h : HasPlace row) (switches : Switches) (pair : Pair) :
    HasPlace fun code => [pair.wrap switches (row code)] := by
  unfold Pair.wrap
  split
  · exact h.style .strike
  · split
    · split
      · exact (h.style .italic).style .bold
      · exact h.style .bold
    · exact h.style .italic
  · exact h.style .bold
  · exact h.style .italic

end HasPlace

/-- The stack on which a tree is built has a place for the code: among the spans
    of the innermost emphasis, or among those in front of emphasis that is
    open. -/
inductive StackHasPlace : (Text → List Frame × List Span) → Prop
  | current (frames : List Frame) (row : Text → List Span) :
    HasPlace (fun code => (row code).reverse) → StackHasPlace fun code => (frames, row code)
  | frame (inner : List Frame) (pair : Pair) (row : Text → List Span) (outer : List Frame)
    (current : List Span) : HasPlace (fun code => (row code).reverse) →
    StackHasPlace fun code => (inner ++ ⟨pair, row code⟩ :: outer, current)

/-- The stack after the innermost emphasis has ended. -/
def closeFrame (switches : Switches) : List Frame × List Span → List Frame × List Span
  | ([], current) => ([], current)
  | (frame :: frames, current) =>
    (frames, frame.pair.wrap switches current.reverse :: frame.before)

theorem assembleFrom_closing (switches : Switches) (stack : List Frame × List Span) (pair : Pair)
    (events : List Event) :
    assembleFrom switches stack.1 stack.2 (.closing pair :: events) =
      assembleFrom switches (closeFrame switches stack).1 (closeFrame switches stack).2 events := by
  obtain ⟨frames, current⟩ := stack
  cases frames with
  | nil => rfl
  | cons frame frames => rfl

theorem closeAll_closeFrame (switches : Switches) (stack : List Frame × List Span) :
    closeAll switches stack.1 stack.2 =
      closeAll switches (closeFrame switches stack).1 (closeFrame switches stack).2 := by
  obtain ⟨frames, current⟩ := stack
  cases frames with
  | nil => rfl
  | cons frame frames => rfl

namespace StackHasPlace

variable {stack : Text → List Frame × List Span}

/-- A span that comes next does not touch the place. -/
theorem push (h : StackHasPlace stack) (span : Span) :
    StackHasPlace fun code => ((stack code).1, span :: (stack code).2) := by
  cases h with
  | current frames row hrow =>
      refine .current frames (fun code => span :: row code) ?_
      simpa only [List.reverse_cons, List.nil_append] using hrow.between [] [span]
  | frame inner pair row outer current hrow =>
      exact .frame inner pair row outer (span :: current) hrow

/-- When emphasis begins, the place comes to lie in front of it. -/
theorem opening (h : StackHasPlace stack) (pair : Pair) :
    StackHasPlace fun code => (⟨pair, (stack code).2⟩ :: (stack code).1, []) := by
  cases h with
  | current frames row hrow => exact .frame [] pair row frames [] hrow
  | frame inner other row outer current hrow =>
      exact .frame (⟨pair, current⟩ :: inner) other row outer [] hrow

/-- When emphasis ends, the place comes to lie in it, or behind it is a span
    more. -/
theorem closing (h : StackHasPlace stack) (switches : Switches) :
    StackHasPlace fun code => closeFrame switches (stack code) := by
  cases h with
  | current frames row hrow =>
      cases frames with
      | nil => exact .current [] row hrow
      | cons frame frames =>
          refine .current frames
            (fun code => frame.pair.wrap switches (row code).reverse :: frame.before) ?_
          simpa only [List.reverse_cons, List.append_nil] using
            (hrow.wrap switches frame.pair).between frame.before.reverse []
  | frame inner pair row outer current hrow =>
      cases inner with
      | nil =>
          refine .current outer (fun code => pair.wrap switches current.reverse :: row code) ?_
          simpa only [List.reverse_cons, List.nil_append] using
            hrow.between [] [pair.wrap switches current.reverse]
      | cons frame inner => exact .frame inner pair row outer _ hrow

/-- When all emphasis has ended, the place is in the tree. -/
theorem closeAll (h : StackHasPlace stack) (switches : Switches) :
    HasPlace fun code => Inline.closeAll switches (stack code).1 (stack code).2 := by
  have hdepth : ∃ depth, ∀ code, (stack code).1.length = depth := by
    cases h with
    | current frames row hrow => exact ⟨frames.length, fun _ => rfl⟩
    | frame inner pair row outer current hrow =>
        exact ⟨inner.length + (outer.length + 1), fun _ => by simp⟩
  rcases hdepth with ⟨depth, hdepth⟩
  induction depth generalizing stack with
  | zero =>
      cases h with
      | current frames row hrow =>
          obtain rfl := List.length_eq_zero_iff.mp (hdepth [])
          exact hrow
      | frame inner pair row outer current hrow =>
          have hzero := hdepth []
          simp at hzero
  | succ depth ih =>
      simp only [closeAll_closeFrame switches (stack _)]
      refine ih (h.closing switches) fun code => ?_
      have hcode := hdepth code
      rcases hstack : stack code with ⟨_ | ⟨frame, frames⟩, current⟩
      · rw [hstack] at hcode
        exact absurd hcode (by simp)
      · rw [hstack] at hcode
        exact Nat.succ.inj hcode

/-- Whatever events come next, the place is in the tree. -/
theorem assembleFrom (h : StackHasPlace stack) (switches : Switches) (events : List Event) :
    HasPlace fun code => Inline.assembleFrom switches (stack code).1 (stack code).2 events := by
  induction events generalizing stack with
  | nil =>
      simp only [Inline.assembleFrom]
      exact h.closeAll switches
  | cons event events ih =>
      cases event with
      | text s =>
          simp only [Inline.assembleFrom]
          exact ih (h.push (.text s))
      | span span =>
          simp only [Inline.assembleFrom]
          exact ih (h.push span)
      | opening pair =>
          simp only [Inline.assembleFrom]
          exact ih (h.opening pair)
      | closing pair =>
          simp only [assembleFrom_closing]
          exact ih (h.closing switches)

end StackHasPlace

/-! ### Code among pieces -/

/-- The events in front leave a stack that does not depend on what comes next. -/
theorem exists_stack (switches : Switches) (xs : List Event) (frames : List Frame)
    (current : List Span) : ∃ stack : List Frame × List Span, ∀ events,
      assembleFrom switches frames current (xs ++ events) =
        assembleFrom switches stack.1 stack.2 events := by
  induction xs generalizing frames current with
  | nil => exact ⟨(frames, current), fun _ => rfl⟩
  | cons event xs ih =>
      cases event with
      | text s =>
          simp only [List.cons_append, assembleFrom]
          exact ih _ _
      | span span =>
          simp only [List.cons_append, assembleFrom]
          exact ih _ _
      | opening pair =>
          simp only [List.cons_append, assembleFrom]
          exact ih _ _
      | closing pair =>
          simp only [List.cons_append, assembleFrom_closing switches (frames, current)]
          exact ih _ _

/-- A finished span among pieces is one event, and the other events do not depend
    on it. -/
theorem exists_events_span (pairs : List Pair) (index : Nat) (runs : List Held)
    (ps qs : List Piece) : ∃ xs ys, ∀ span,
      events pairs index runs (ps ++ .span span :: qs) = xs ++ .span span :: ys := by
  induction ps generalizing index runs with
  | nil => exact ⟨[], events pairs index runs qs, fun _ => rfl⟩
  | cons piece ps ih =>
      cases piece with
      | text s =>
          rcases ih index runs with ⟨xs, ys, hevents⟩
          exact ⟨.text s :: xs, ys, fun span => by rw [List.cons_append, events, hevents]; rfl⟩
      | span other =>
          rcases ih index runs with ⟨xs, ys, hevents⟩
          exact ⟨.span other :: xs, ys, fun span => by rw [List.cons_append, events, hevents]; rfl⟩
      | run run =>
          cases runs with
          | nil =>
              rcases ih index [] with ⟨xs, ys, hevents⟩
              exact ⟨xs, ys, fun span => by rw [List.cons_append, events, hevents]⟩
          | cons held runs =>
              rcases ih (index + 1) runs with ⟨xs, ys, hevents⟩
              refine ⟨held.events index pairs ++ xs, ys, fun span => ?_⟩
              rw [List.cons_append, events, hevents, List.append_assoc]

/-- Texts are not merged over a finished span. -/
theorem mergeTexts_span (xs ys : List Event) (span : Span) :
    mergeTexts (xs ++ .span span :: ys) = mergeTexts xs ++ .span span :: mergeTexts ys := by
  induction xs with
  | nil => rfl
  | cons event xs ih =>
      have hpush : ∀ merged : List Event, pushEvent event (merged ++ .span span :: mergeTexts ys) =
          pushEvent event merged ++ .span span :: mergeTexts ys := by
        intro merged
        cases event with
        | text s =>
            rcases s with _ | ⟨c, s⟩
            · rfl
            · rcases merged with _ | ⟨first, merged⟩
              · rfl
              · cases first <;> rfl
        | span other => rfl
        | opening pair => rfl
        | closing pair => rfl
      simp only [mergeTexts, List.cons_append, List.foldr_cons] at ih ⊢
      rw [ih]
      exact hpush _

/-- Code among pieces has a place in their tree. -/
theorem hasPlace_resolve (switches : Switches) (ps qs : List Piece) :
    HasPlace fun code => resolve switches (ps ++ .span (.code code) :: qs) := by
  -- Code is no run, so the runs are paired without it.
  let paired := pairRuns switches (ps.filterMap Piece.run? ++ qs.filterMap Piece.run?)
  rcases exists_events_span paired.made 0 paired.runs ps qs with ⟨xs, ys, hevents⟩
  rcases exists_stack switches (mergeTexts xs) [] [] with ⟨stack, hstack⟩
  have hresolve (code : Text) : resolve switches (ps ++ .span (.code code) :: qs) =
      assembleFrom switches stack.1 (.code code :: stack.2) (mergeTexts ys) := by
    have hruns : (ps ++ .span (.code code) :: qs).filterMap Piece.run? =
        ps.filterMap Piece.run? ++ qs.filterMap Piece.run? := by
      rw [List.filterMap_append, List.filterMap_cons_none rfl]
    rw [resolve, hruns, hevents, mergeTexts_span, assemble, hstack]
    rfl
  simp only [hresolve]
  refine StackHasPlace.assembleFrom (.current stack.1 (fun code => .code code :: stack.2)
    ⟨.here stack.2.reverse [], fun code => ?_⟩) switches (mergeTexts ys)
  exact List.reverse_cons

/-! ### Tokens in front of code -/

theorem countWhile_append_of_head? {p : Char → Bool} {t : Text} (ht : t.head?.all (!p ·) = true)
    (s : Text) : Text.countWhile p (s ++ t) = Text.countWhile p s ∧
      (s ++ t).dropWhile p = s.dropWhile p ++ t := by
  induction s with
  | nil =>
      cases t with
      | nil => exact ⟨rfl, rfl⟩
      | cons c t =>
          have hc : p c = false := by simpa using ht
          simp [Text.countWhile, hc]
  | cons c s ih =>
      rw [List.cons_append, Text.countWhile, Text.countWhile, List.dropWhile_cons,
        List.dropWhile_cons]
      split
      · exact ⟨by rw [ih.1], ih.2⟩
      · exact ⟨rfl, rfl⟩

/-- A token in front of backticks does not see past the first of them. Only a
    bracket could, and a backslash would make the backtick a character. -/
theorem nextToken_append {c : Char} {rest t : Text} (hc : c ≠ backtick) (hbracket : '[' ∉ c :: rest)
    (hslash : c = '\\' → rest ≠ []) (ht : t.head? = some backtick) (escapes : Bool)
    (before after : Option Char) :
    nextToken escapes before after c (rest ++ t) =
      ((nextToken escapes before (some backtick) c rest).1,
        (nextToken escapes before (some backtick) c rest).2 ++ t) := by
  rw [List.mem_cons, not_or] at hbracket
  unfold nextToken
  by_cases hc' : c = '\\'
  · rw [if_pos hc', if_pos hc']
    rcases List.exists_cons_of_ne_nil (hslash hc') with ⟨d, rest, rfl⟩
    simp only [List.cons_append]
    split <;> rfl
  · rw [if_neg hc', if_neg hc', if_neg hc, if_neg hc]
    by_cases hmark : c = '!'
    · rw [if_pos hmark, if_pos hmark]
      -- No bracket follows, neither in the text nor in the backticks.
      have hnone : ∀ s : Text, (s ++ t).head? ≠ some '[' ∨ '[' ∈ s := by
        intro s
        cases s with
        | nil => exact .inl (by rw [List.nil_append, ht]; decide)
        | cons d s =>
            by_cases hd : d = '['
            · exact .inr (by rw [hd]; exact List.mem_cons_self)
            · exact .inl fun heq => hd (Option.some.inj heq)
      have hfull := (hnone rest).resolve_right hbracket.2
      split
      · next inner hinner => exact absurd (by rw [hinner]; rfl) hfull
      · split
        · next inner hinner =>
            exact absurd (show '[' ∈ '[' :: inner from List.mem_cons_self) hbracket.2
        · rfl
    · rw [if_neg hmark, if_neg hmark, if_neg (Ne.symm hbracket.1), if_neg (Ne.symm hbracket.1)]
      cases hmarker : Marker.ofChar? c with
      | none => rfl
      | some marker =>
          have hstop : t.head?.all (!· == c) = true := by
            rw [ht, Option.all_some, Bool.not_eq_true', beq_eq_false_iff_ne]
            exact Ne.symm hc
          rcases countWhile_append_of_head? hstop rest with ⟨hcount, hdrop⟩
          simp only [hcount, hdrop, List.head?_append, ht]
          cases (rest.dropWhile (· == c)).head? <;> rfl

/-- What stands in front of backticks does not see past the first of them. -/
theorem tokens_append_ticks {p : Text} (hticks : backtick ∉ p) (hbracket : '[' ∉ p)
    (hslash : p.getLast? ≠ some '\\') {t : Text} (ht : t.head? = some backtick) (escapes : Bool)
    (before after : Option Char) :
    ∃ last, tokens escapes before (p ++ t) after =
      tokens escapes before p (some backtick) ++ tokens escapes last t after := by
  fun_induction tokens escapes before p (some backtick) with
  | case1 before => exact ⟨before, rfl⟩
  | case2 before c rest step ih =>
      have hsource := nextToken_source escapes before (some backtick) c rest
      have hstep : nextToken escapes before after c (rest ++ t) = (step.1, step.2 ++ t) := by
        refine nextToken_append (List.ne_of_not_mem_cons hticks).symm hbracket ?_ ht _ _ _
        rintro rfl rfl
        exact hslash rfl
      have hmem : ∀ d, d ∈ step.2 → d ∈ c :: rest := by
        intro d hd
        rw [← hsource]
        exact List.mem_append_right _ hd
      have hlast : step.2.getLast? ≠ some '\\' := by
        intro hend
        rw [← hsource, List.getLast?_append, show step.2.getLast? = _ from hend] at hslash
        exact hslash rfl
      rcases ih (fun h => hticks (hmem _ h)) (fun h => hbracket (hmem _ h)) hlast with
        ⟨last, hrest⟩
      refine ⟨last, ?_⟩
      rw [List.cons_append, tokens, hstep, hrest]
      rfl

end Inline

open Inline

/-- Inline code is opaque. Let a text without backticks and brackets stand in front
    of a run of backticks, not ending in a backslash, and a text that begins with
    no backtick behind another run of as many. Then what is between the runs is
    code, and all else is the same whatever it is: the trees are one clearing filled
    with the code, and the messages are the code, with its backticks, between the
    same two texts. -/
theorem parseInline_code_opaque (config : Config) {p s : Text} {count : Nat}
    (hticks : backtick ∉ p) (hbracket : '[' ∉ p) (hslash : p.getLast? ≠ some '\\')
    (hcount : 1 ≤ count) (hs : s.head? ≠ some backtick) :
    ∃ (clearing : Clearing) (left right : Text), ∀ body, body ≠ [] → backtick ∉ body →
      parseInline config (p ++ ticks count ++ body ++ ticks count ++ s) =
          clearing.fill (.code (ticks count ++ body ++ ticks count)) ∧
        convertInline config (p ++ ticks count ++ body ++ ticks count ++ s) =
          left ++ ticks count ++ body ++ ticks count ++ right := by
  let switches := config.inlineSwitches
  let label := parseLabel switches
  let piece := Token.piece switches label
  rcases hasPlace_resolve switches ((tokens switches.escapes none p (some backtick)).map piece)
    ((tokens switches.escapes (some backtick) s none).map piece) with ⟨clearing, hclearing⟩
  rcases clearing.renderAll_fill config.look with ⟨left, right, hrender⟩
  refine ⟨clearing, left, right, fun body hne hbody => ?_⟩
  have hhead : (ticks count ++ body ++ ticks count ++ s).head? = some backtick := by
    rw [List.append_assoc, List.append_assoc, List.head?_append, head?_ticks hcount]
    rfl
  rcases tokens_append_ticks hticks hbracket hslash hhead switches.escapes none none with
    ⟨last, htokens⟩
  rw [tokens_ticks_code hcount hne hbody hs] at htokens
  have hparse : parseInline config (p ++ ticks count ++ body ++ ticks count ++ s) =
      clearing.fill (.code (ticks count ++ body ++ ticks count)) := by
    rw [← hclearing, parseInline, parse, parseBetween,
      show p ++ ticks count ++ body ++ ticks count ++ s =
        p ++ (ticks count ++ body ++ ticks count ++ s) by simp only [List.append_assoc],
      htokens, List.map_append, List.map_cons]
    rfl
  refine ⟨hparse, ?_⟩
  rw [convertInline, hparse, hrender, render]
  simp only [List.append_assoc]

/-- Code that is italic within bold text, next to tildes that find no partner. The
    body may look like anything. -/
theorem parseInline_code_opaque_within_bold :
    let p := "**a _".toList
    let s := "_ ~~b** c".toList
    backtick ∉ p ∧ '[' ∉ p ∧ p.getLast? ≠ some '\\' ∧ 1 ≤ 2 ∧ s.head? ≠ some backtick ∧
      ∃ (clearing : Clearing) (left right : Text), ∀ body, body ≠ [] → backtick ∉ body →
        parseInline {} (p ++ ticks 2 ++ body ++ ticks 2 ++ s) =
            clearing.fill (.code (ticks 2 ++ body ++ ticks 2)) ∧
          convertInline {} (p ++ ticks 2 ++ body ++ ticks 2 ++ s) =
            left ++ ticks 2 ++ body ++ ticks 2 ++ right := by
  intro p s
  have hp : backtick ∉ p := by decide
  have hbracket : '[' ∉ p := by decide
  have hslash : p.getLast? ≠ some '\\' := by decide
  have hs : s.head? ≠ some backtick := by decide
  exact ⟨hp, hbracket, hslash, by decide, hs,
    parseInline_code_opaque {} hp hbracket hslash (by decide) hs⟩

end ChatMarkup
