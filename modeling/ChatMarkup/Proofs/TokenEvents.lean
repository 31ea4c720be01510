import ChatMarkup.Proofs.Accounting
import ChatMarkup.Proofs.Replay

/-!
# From Tokens to What Is Shown

What a text shows, told from its tokens one by one.

Between the tokens of a text and its tree lie the pairing of its runs and the
stack on which the tree is built. Neither has to be looked at to know what the
tree shows. The events of a text come from its tokens in order. A token that
takes no part in the pairing is one event, a text or a finished span. A run that
takes part is an event for each of its pairs and one for the markers that no
pair has taken, and those are told by the balance of the run.

Emphasis ends up around the content of a tree, never within it. So whatever
reads a tree from left to right and does not see emphasis reads the events. It
need not be blind to all emphasis, only to that of the pairs in the text.

## Main definitions

* `Unfolds`: The events of a token.
* `FlatView`: A reader of trees that does not see the emphasis of some pairs.
* `Event.viewed`: What the reader sees of an event.

## Theorems

* `exists_unfolded`: The events of a text, token by token.
* `text_of_piece`, `span_of_piece`: What a token becomes.
* `parseBetween_eq_assemble`: The tree of a text is built from these events.
* `FlatView.assemble`: The reader sees the events in their order.
-/

namespace ChatMarkup.Inline

/-! ### Token by token -/

/-- The events of a token, given the pairs of the text in which it stands. -/
inductive Unfolds (switches : Switches) (label : Text → List Span) (pairs : List Pair) :
    Token → List Event → Prop
  /-- What is a text is shown. -/
  | text (token : Token) (s : Text) : token.piece switches label = .text s →
    Unfolds switches label pairs token [.text s]
  /-- What is a finished span is shown. -/
  | span (token : Token) (span : Span) : token.piece switches label = .span span →
    Unfolds switches label pairs token [.span span]
  /-- A run that takes part ends some pairs, shows the markers that are left, and
      begins some pairs. -/
  | run (held : Held) (index : Nat) : held.run.takesPart switches = true →
    Settled pairs index held → Unfolds switches label pairs (.run held.run) (held.events index pairs)

section Unfolding

/-- A token is a text, a finished span, or a run that takes part. -/
theorem Token.piece_cases (switches : Switches) (label : Text → List Span) (token : Token) :
    (∃ s, token.piece switches label = .text s) ∨
      (∃ span, token.piece switches label = .span span) ∨
      ∃ run, token = .run run ∧ run.takesPart switches = true ∧
        token.piece switches label = .run run := by
  cases token with
  | char c => exact .inl ⟨_, rfl⟩
  | escaped c => exact .inl ⟨_, rfl⟩
  | ticks count => exact .inl ⟨_, rfl⟩
  | code count body => exact .inr (.inl ⟨_, rfl⟩)
  | link l =>
      by_cases hlinks : switches.links = true
      · exact .inr (.inl ⟨_, if_pos hlinks⟩)
      · exact .inl ⟨_, if_neg hlinks⟩
  | image l =>
      by_cases himages : switches.images = true
      · exact .inr (.inl ⟨_, if_pos himages⟩)
      · exact .inl ⟨_, if_neg himages⟩
  | run r =>
      by_cases htakes : r.takesPart switches = true
      · exact .inr (.inr ⟨r, rfl, htakes, if_pos htakes⟩)
      · exact .inl ⟨_, if_neg htakes⟩

variable {switches : Switches} {label : Text → List Span}

/-- The events of tokens are those of the first, and then those of the second,
    and so on. Their runs are settled, wherever the count of runs begins. -/
theorem exists_unfolded {pairs : List Pair} (index : Nat) (runs : List Held) (ts : List Token)
    (hruns : runs.map Held.run = (ts.map (Token.piece switches label)).filterMap Piece.run?)
    (hsettled : ∀ (offset : Nat) (held : Held), runs[offset]? = some held →
      Settled pairs (index + offset) held) :
    ∃ groups, List.Forall₂ (Unfolds switches label pairs) ts groups ∧
      events pairs index runs (ts.map (Token.piece switches label)) = groups.flatten := by
  induction ts generalizing index runs with
  | nil =>
      rw [List.map_nil, List.filterMap_nil, List.map_eq_nil_iff] at hruns
      exact ⟨[], .nil, by rw [hruns]; rfl⟩
  | cons token ts ih =>
      rw [List.map_cons] at hruns ⊢
      rcases Token.piece_cases switches label token with
        ⟨s, hpiece⟩ | ⟨span, hpiece⟩ | ⟨run, rfl, htakes, hpiece⟩
      · rw [hpiece] at hruns ⊢
        rcases ih index runs hruns hsettled with ⟨groups, hgroups, hevents⟩
        exact ⟨[.text s] :: groups, .cons (.text token s hpiece) hgroups,
          by rw [events, hevents]; rfl⟩
      · rw [hpiece] at hruns ⊢
        rcases ih index runs hruns hsettled with ⟨groups, hgroups, hevents⟩
        exact ⟨[.span span] :: groups, .cons (.span token span hpiece) hgroups,
          by rw [events, hevents]; rfl⟩
      · rw [hpiece] at hruns ⊢
        rw [List.filterMap_cons_some (show (Piece.run run).run? = some run from rfl)] at hruns
        rcases List.map_eq_cons_iff.mp hruns with ⟨held, others, rfl, rfl, hothers⟩
        have hlater : ∀ (offset : Nat) (later : Held), others[offset]? = some later →
            Settled pairs (index + 1 + offset) later := by
          intro offset later hget
          have h := hsettled (offset + 1) later hget
          rwa [Nat.add_assoc, Nat.add_comm 1 offset]
        rcases ih (index + 1) others hothers hlater with ⟨groups, hgroups, hevents⟩
        exact ⟨held.events index pairs :: groups,
          .cons (.run held index htakes (hsettled 0 held rfl)) hgroups, by rw [events, hevents]; rfl⟩

/-- A finished span is code, or a link or an image where those are switched on. -/
theorem span_of_piece {token : Token} {span : Span} (h : token.piece switches label = .span span) :
    (∃ count body, token = .code count body ∧ span = .code token.source) ∨
      (∃ l, token = .link l ∧ switches.links = true ∧ span = .link l.url (label l.label)) ∨
      ∃ l, token = .image l ∧ switches.images = true ∧ span = .image l.url l.label := by
  cases token with
  | code count body => exact .inl ⟨count, body, rfl, (Piece.span.inj h).symm⟩
  | link l =>
      rw [Token.piece] at h
      split at h
      · next hon => exact .inr (.inl ⟨l, rfl, hon, (Piece.span.inj h).symm⟩)
      · exact Piece.noConfusion h
  | image l =>
      rw [Token.piece] at h
      split at h
      · next hon => exact .inr (.inr ⟨l, rfl, hon, (Piece.span.inj h).symm⟩)
      · exact Piece.noConfusion h
  | run r =>
      rw [Token.piece] at h
      split at h <;> exact Piece.noConfusion h
  | _ => exact Piece.noConfusion h

/-- Every event of a text is an event of one of its tokens. -/
theorem exists_token_of_mem {Becomes : Token → List Event → Prop} {ts : List Token}
    {groups : List (List Event)} (h : List.Forall₂ Becomes ts groups) {event : Event}
    (hmem : event ∈ groups.flatten) :
    ∃ token group, token ∈ ts ∧ Becomes token group ∧ event ∈ group := by
  induction h with
  | nil => exact absurd hmem List.not_mem_nil
  | @cons token group ts groups hbecomes _ ih =>
      rcases List.mem_append.mp hmem with hgroup | hgroups
      · exact ⟨token, group, List.mem_cons_self, hbecomes, hgroup⟩
      · rcases ih hgroups with ⟨token, group, htoken, hbecomes, hgroup⟩
        exact ⟨token, group, List.mem_cons_of_mem _ htoken, hbecomes, hgroup⟩

theorem opening_mem_events {pairs : List Pair} {held : Held} {index : Nat} {pair : Pair} :
    .opening pair ∈ held.events index pairs ↔ pair ∈ pairs ∧ pair.opener = index := by
  rw [Held.events]
  simp

/-- Merging texts brings in nothing but texts. -/
theorem mem_of_mem_mergeTexts {events : List Event} {event : Event}
    (h : event ∈ mergeTexts events) (hne : ∀ s, event ≠ .text s) : event ∈ events := by
  induction events with
  | nil => exact h
  | cons first events ih =>
      rw [mergeTexts, List.foldr_cons, ← mergeTexts] at h
      have hpushed : event ∈ first :: mergeTexts events := by
        unfold pushEvent at h
        split at h
        · exact List.mem_cons_of_mem _ h
        · next hmerged =>
            rw [hmerged]
            exact List.mem_cons_of_mem _ (List.mem_cons_of_mem _
              ((List.mem_cons.mp h).resolve_left (hne _)))
        · exact h
      rcases List.mem_cons.mp hpushed with heq | hmem
      · exact List.mem_cons.mpr (.inl heq)
      · exact List.mem_cons_of_mem _ (ih hmem)

/-- A run is paired only if it takes part. -/
theorem takesPart_of_piece {token : Token} {run : Run}
    (h : (token.piece switches label).run? = some run) : run.takesPart switches = true := by
  rcases Token.piece_cases switches label token with
    ⟨s, hpiece⟩ | ⟨span, hpiece⟩ | ⟨r, rfl, htakes, hpiece⟩
  · exact absurd h (by simp [hpiece, Piece.run?])
  · exact absurd h (by simp [hpiece, Piece.run?])
  · rw [hpiece] at h
    rwa [← Option.some.inj h]

/-- Every run that is paired takes part. -/
theorem takesPart_of_mem_pieces {ts : List Token} {run : Run}
    (h : run ∈ (ts.map (Token.piece switches label)).filterMap Piece.run?) :
    run.takesPart switches = true := by
  rcases List.mem_filterMap.mp h with ⟨piece, hpiece, hsome⟩
  rcases List.mem_map.mp hpiece with ⟨token, _, rfl⟩
  exact takesPart_of_piece hsome

/-- A text is what the token was written as, unless a backslash is dropped. -/
theorem text_of_piece {token : Token} {s : Text} (h : token.piece switches label = .text s) :
    s = token.source ∨ ∃ c, token = .escaped c ∧ s = [c] := by
  have hkept (on : Bool) (piece : Piece) (hpiece : ∀ t, piece ≠ .text t)
      (h : (if on = true then piece else .text token.source) = .text s) : s = token.source := by
    split at h
    · exact absurd h (hpiece s)
    · exact (Piece.text.inj h).symm
  cases token with
  | escaped c => exact .inr ⟨c, rfl, (Piece.text.inj h).symm⟩
  | code count body => exact Piece.noConfusion h
  | link l => exact .inl (hkept switches.links _ (fun _ => Piece.noConfusion) h)
  | image l => exact .inl (hkept switches.images _ (fun _ => Piece.noConfusion) h)
  | run r => exact .inl (hkept (r.takesPart switches) _ (fun _ => Piece.noConfusion) h)
  | _ => exact .inl (Piece.text.inj h).symm

/-- The tree of a text is built from the events of its tokens, and these open and
    close pairs in order. -/
theorem parseBetween_eq_assemble (switches : Switches) (label : Text → List Span)
    (before after : Option Char) (s : Text) :
    ∃ runs groups,
      List.Forall₂ (Unfolds switches label (pairRuns switches runs).made)
        (tokens switches.escapes before s after) groups ∧
      parseBetween switches label before after s = assemble switches (mergeTexts groups.flatten) ∧
      openAfter [] groups.flatten = some [] := by
  let ts := tokens switches.escapes before s after
  let pieces := ts.map (Token.piece switches label)
  let paired := pairRuns switches (pieces.filterMap Piece.run?)
  have htakes : ∀ run ∈ pieces.filterMap Piece.run?, run.takesPart switches = true :=
    fun _ hrun => takesPart_of_mem_pieces hrun
  have hsettled : ∀ (offset : Nat) (held : Held), paired.runs[offset]? = some held →
      Settled paired.made (0 + offset) held := by
    intro offset held hheld
    rw [Nat.zero_add]
    exact settled_pairRuns switches htakes hheld
  rcases exists_unfolded 0 paired.runs ts (map_run_pairRuns switches _) hsettled with
    ⟨groups, hgroups, hevents⟩
  have hopen : openAfter [] (mergeTexts (events paired.made 0 paired.runs pieces)) = some [] :=
    openAfter_pairRuns switches pieces
  rw [openAfter_mergeTexts, hevents] at hopen
  refine ⟨pieces.filterMap Piece.run?, groups, hgroups, ?_, hopen⟩
  rw [← hevents]
  rfl

end Unfolding

/-! ### Readers that do not see emphasis -/

variable {α : Type} {switches : Switches} {holds : Pair → Prop} {view : List Span → List α}

/-- The emphasis of a pair is put on at once, or it is bold around italic. -/
theorem Pair.wrap_cases (switches : Switches) (pair : Pair) (content : List Span) :
    (∃ emphasis, (emphasis = .strike → pair.marker = .tilde) ∧
        pair.wrap switches content = .style emphasis content) ∨
      pair.wrap switches content = .style .bold [.style .italic content] := by
  rw [wrap]
  split
  · next hmarker => exact .inl ⟨.strike, fun _ => hmarker, rfl⟩
  · split
    · split
      · exact .inr rfl
      · exact .inl ⟨.bold, Emphasis.noConfusion, rfl⟩
    · exact .inl ⟨.italic, Emphasis.noConfusion, rfl⟩
  · exact .inl ⟨.bold, Emphasis.noConfusion, rfl⟩
  · exact .inl ⟨.italic, Emphasis.noConfusion, rfl⟩

/-- The view of a tree is put together from the views of its parts, and does not
    see the emphasis of the pairs in question. -/
structure FlatView (switches : Switches) (holds : Pair → Prop) (view : List Span → List α) :
    Prop where
  append : ∀ xs ys, view (xs ++ ys) = view xs ++ view ys
  wrap : ∀ pair content, holds pair → view [pair.wrap switches content] = view content

/-- What is seen of the event. -/
def Event.viewed (view : List Span → List α) : Event → List α
  | .text s => view [.text s]
  | .span shown => view [shown]
  | .opening _ => []
  | .closing _ => []

/-- What is seen of the siblings in front of open emphasis. -/
def viewOpen (view : List Span → List α) (frames : List Frame) : List α :=
  frames.reverse.flatMap fun frame => view frame.before.reverse

theorem viewOpen_cons (view : List Span → List α) (frame : Frame) (frames : List Frame) :
    viewOpen view (frame :: frames) = viewOpen view frames ++ view frame.before.reverse := by
  rw [viewOpen, List.reverse_cons, List.flatMap_append, List.flatMap_singleton]
  rfl

namespace FlatView

theorem nil (h : FlatView switches holds view) : view [] = [] := by
  have hlength := congrArg List.length (h.append [] [])
  rw [List.append_nil, List.length_append] at hlength
  exact List.length_eq_zero_iff.mp (by omega)

theorem closeAll (h : FlatView switches holds view) (frames : List Frame) (current : List Span)
    (hframes : ∀ frame ∈ frames, holds frame.pair) :
    view (Inline.closeAll switches frames current) =
      viewOpen view frames ++ view current.reverse := by
  induction frames generalizing current with
  | nil => rfl
  | cons frame frames ih =>
      rw [List.forall_mem_cons] at hframes
      rw [Inline.closeAll, ih _ hframes.2, viewOpen_cons, List.reverse_cons, h.append,
        h.wrap _ _ hframes.1, List.append_assoc]

/-- What is seen of a tree in the making is what was in front of the events and
    what is seen of the events, in this order. -/
theorem assembleFrom (h : FlatView switches holds view) (frames : List Frame)
    (current : List Span) (events : List Event) (hframes : ∀ frame ∈ frames, holds frame.pair)
    (hevents : ∀ pair, .opening pair ∈ events → holds pair) :
    view (Inline.assembleFrom switches frames current events) =
      viewOpen view frames ++ view current.reverse ++ events.flatMap (Event.viewed view) := by
  fun_induction Inline.assembleFrom switches frames current events with
  | case1 frames current => rw [h.closeAll _ _ hframes, List.flatMap_nil, List.append_nil]
  | case2 frames current s events ih =>
      rw [ih hframes fun pair hpair => hevents pair (List.mem_cons_of_mem _ hpair),
        List.reverse_cons, h.append, List.flatMap_cons]
      simp only [List.append_assoc, Event.viewed]
  | case3 frames current span events ih =>
      rw [ih hframes fun pair hpair => hevents pair (List.mem_cons_of_mem _ hpair),
        List.reverse_cons, h.append, List.flatMap_cons]
      simp only [List.append_assoc, Event.viewed]
  | case4 frames current pair events ih =>
      rw [ih (List.forall_mem_cons.mpr ⟨hevents pair List.mem_cons_self, hframes⟩)
        fun pair hpair => hevents pair (List.mem_cons_of_mem _ hpair), viewOpen_cons,
        List.flatMap_cons]
      simp only [List.append_assoc, Event.viewed, List.reverse_nil, h.nil, List.nil_append]
  | case5 current pair events ih =>
      rw [ih hframes fun pair hpair => hevents pair (List.mem_cons_of_mem _ hpair),
        List.flatMap_cons]
      rfl
  | case6 current frame frames pair events ih =>
      rw [List.forall_mem_cons] at hframes
      rw [ih hframes.2 fun pair hpair => hevents pair (List.mem_cons_of_mem _ hpair),
        viewOpen_cons, List.reverse_cons, h.append, h.wrap _ _ hframes.1, List.flatMap_cons]
      simp only [List.append_assoc, Event.viewed, List.nil_append]

/-- The view of a tree is the view of its events, in the same order. -/
theorem assemble (h : FlatView switches holds view) {events : List Event}
    (hevents : ∀ pair, .opening pair ∈ events → holds pair) :
    view (Inline.assemble switches events) = events.flatMap (Event.viewed view) := by
  have hview := h.assembleFrom [] [] events (fun _ hframe => absurd hframe List.not_mem_nil) hevents
  rw [List.reverse_nil, h.nil] at hview
  exact hview

end FlatView

end ChatMarkup.Inline
