import ChatMarkup.Proofs.Conservation
import ChatMarkup.Proofs.TokenShapes

/-!
# What Is Everywhere in a Tree

How a property of spans spreads over the tree of a text.

To know something of every span in a tree, at any depth, it is enough to know it
of the spans that tokens become and of emphasis when it is put around content
that has the property already. Emphasis is put around content only where the
switches allow it, and never around nothing. The second is the reason for most of
this module. The end of a pair could come right behind its beginning only if the
two runs of the pair were next to each other, and then they would have different
markers.

Texts that are next to each other are merged before the tree is built, and
whatever comes between two texts in the tree is a span. So the spans of every
level are a `Row`, in which no two texts are neighbours.

## Main definitions

* `Span.nodes`: A span and everything in it.
* `Span.Row`: No two texts are next to each other, and a property is everywhere.
* `Switches.allows`, `Pair.Allowed`: The emphasis that may come of a text.
* `EmphasisKeeps`: Emphasis around content with the property has it.
* `Event.Follows`: What can be next to each other after merging.

## Theorems

* `EmphasisKeeps.wrap`: The emphasis of a pair has the property.
* `allowed_of_unfolds`: The pairs of a text are allowed.
* `isChain_merged`: No pair ends right behind its beginning.
* `row_assembleFrom`: A tree in the making is a row.
* `row_parseBetween`: What is everywhere in the tree of a text.
* `parseBetween_ne_nil`: The tree of a text shows something.
-/

namespace ChatMarkup

namespace Span

/-! ### Nodes -/

mutual

/-- The span and everything in it. -/
def nodes : Span → List Span
  | text s => [text s]
  | styled emphasis content => styled emphasis content :: nodesAll content
  | code s => [code s]
  | link url content => link url content :: nodesAll content
  | image url description => [image url description]
  | lineBreak => [lineBreak]

/-- The spans and everything in them. -/
def nodesAll : List Span → List Span
  | [] => []
  | span :: spans => nodes span ++ nodesAll spans

end

theorem nodesAll_append (xs ys : List Span) :
    nodesAll (xs ++ ys) = nodesAll xs ++ nodesAll ys := by
  induction xs with
  | nil => rfl
  | cons x xs ih => rw [List.cons_append, nodesAll, nodesAll, ih, List.append_assoc]

theorem nodesAll_singleton (span : Span) : nodesAll [span] = span.nodes := by
  rw [nodesAll, nodesAll, List.append_nil]

/-- The spans are not two texts. -/
def Separated : Span → Span → Prop
  | text _, text _ => False
  | _, _ => True

theorem separated_of_ne_text {span : Span} (h : ∀ s, span ≠ text s) (other : Span) :
    Separated span other ∧ Separated other span := by
  cases span with
  | text s => exact absurd rfl (h s)
  | _ => cases other <;> exact ⟨trivial, trivial⟩

/-- No two texts in the row are next to each other, and everything in the row has
    the property, at any depth. -/
structure Row (Holds : Span → Prop) (spans : List Span) : Prop where
  /-- No two texts are next to each other. -/
  apart : spans.IsChain Separated
  /-- The property holds everywhere. -/
  nodes : ∀ node ∈ nodesAll spans, Holds node

namespace Row

variable {Holds : Span → Prop} {spans : List Span}

theorem imp {Implied : Span → Prop} (h : Row Holds spans)
    (himp : ∀ node, Holds node → Implied node) : Row Implied spans :=
  ⟨h.apart, fun node hnode => himp node (h.nodes node hnode)⟩

theorem nil : Row Holds [] :=
  ⟨.nil, fun _ h => absurd h List.not_mem_nil⟩

theorem concat (h : Row Holds spans) {span : Span}
    (hlast : ∀ last ∈ spans.getLast?, last.Separated span)
    (hspan : ∀ node ∈ span.nodes, Holds node) :
    Row Holds (spans ++ [span]) where
  apart := by
    refine List.isChain_append.mpr ⟨h.apart, .singleton _, fun last hmem next hnext => ?_⟩
    rw [← Option.some.inj hnext]
    exact hlast last hmem
  nodes := by
    rw [nodesAll_append, nodesAll_singleton]
    exact List.forall_mem_append.mpr ⟨h.nodes, hspan⟩

theorem singleton {span : Span} (h : ∀ node ∈ span.nodes, Holds node) : Row Holds [span] :=
  nil.concat (fun _ hlast => absurd hlast (by simp)) h

/-- Of styled content only the style is new, and not even that if it merges. -/
theorem style (h : Row Holds spans) {emphasis : Emphasis}
    (hstyled : (∀ inner, spans ≠ [styled emphasis inner]) → Holds (styled emphasis spans)) :
    ∀ node ∈ (Span.style emphasis spans).nodes, Holds node := by
  have hnew (hne : ∀ inner, spans ≠ [styled emphasis inner]) :
      ∀ node ∈ (styled emphasis spans).nodes, Holds node := by
    rw [Span.nodes]
    exact List.forall_mem_cons.mpr ⟨hstyled hne, h.nodes⟩
  rw [style.eq_def]
  split
  · next inner content =>
      split
      · -- The single span of the same style is all there is.
        rw [← nodesAll_singleton]
        exact h.nodes
      · next hdiffers =>
          refine hnew fun other heq => ?_
          rw [List.singleton_inj, styled.injEq] at heq
          exact hdiffers heq.1
  · next hother => exact hnew fun inner => hother emphasis inner

end Row

theorem exists_style_eq (emphasis : Emphasis) (content : List Span) :
    ∃ inner, style emphasis content = styled emphasis inner := by
  rw [style.eq_def]
  split
  · split
    · next heq => exact ⟨_, by rw [heq]⟩
    · exact ⟨_, rfl⟩
  · exact ⟨_, rfl⟩

end Span

namespace Inline

open ChatMarkup.Span

/-! ### Emphasis that is switched on -/

/-- Whether the emphasis is switched on. -/
def Switches.allows (switches : Switches) : Emphasis → Bool
  | .bold => switches.bold
  | .italic => switches.italic
  | .strike => switches.strike

/-- The emphasis of the pair is switched on, or of three asterisks one of the
    two. -/
def Pair.Allowed (switches : Switches) (pair : Pair) : Prop :=
  match pair.marker with
  | .tilde => switches.strike = true
  | _ => switches.allowsSize pair.size = true

theorem Pair.Allowed.of_tilde {switches : Switches} {pair : Pair} (h : pair.Allowed switches)
    (hmarker : pair.marker = .tilde) : switches.strike = true := by
  rw [Pair.Allowed, hmarker] at h
  exact h

theorem Pair.Allowed.of_ne_tilde {switches : Switches} {pair : Pair} (h : pair.Allowed switches)
    (hmarker : pair.marker ≠ .tilde) : switches.allowsSize pair.size = true := by
  rw [Pair.Allowed] at h
  split at h
  · next htilde => exact absurd htilde hmarker
  · exact h

/-- Emphasis has the property if it is switched on and stands around content that
    has it everywhere, unless the two would merge. -/
def EmphasisKeeps (switches : Switches) (Holds : Span → Prop) : Prop :=
  ∀ emphasis content, switches.allows emphasis = true → content ≠ [] → Row Holds content →
    (∀ inner, content ≠ [styled emphasis inner]) → Holds (styled emphasis content)

variable {switches : Switches} {Holds : Span → Prop}

/-- The emphasis of an allowed pair has the property. -/
theorem EmphasisKeeps.wrap (h : EmphasisKeeps switches Holds) {pair : Pair}
    (hallowed : pair.Allowed switches) {content : List Span} (hne : content ≠ [])
    (hrow : Row Holds content) : ∀ node ∈ (pair.wrap switches content).nodes, Holds node := by
  have hstyle (emphasis : Emphasis) (hon : switches.allows emphasis = true) {inside : List Span}
      (hinside : inside ≠ []) (hrow : Row Holds inside) :
      ∀ node ∈ (Span.style emphasis inside).nodes, Holds node :=
    hrow.style fun hmerges => h emphasis inside hon hinside hrow hmerges
  rw [Pair.wrap]
  split
  · next hmarker => exact hstyle .strike (hallowed.of_tilde hmarker) hne hrow
  · next hsize hmarker =>
      -- Of bold and italic one is on, and whichever is on is put around the content.
      have hon := hallowed.of_ne_tilde hmarker
      rw [hsize, Switches.allowsSize, Bool.or_eq_true] at hon
      split
      · next hbold =>
          split
          · next hitalic =>
              have hinner := hstyle .italic hitalic hne hrow
              exact hstyle .bold hbold (List.cons_ne_nil _ _) (.singleton hinner)
          · exact hstyle .bold hbold hne hrow
      · next hbold => exact hstyle .italic (hon.resolve_left hbold) hne hrow
  · next hsize hmarker =>
      have hon := hallowed.of_ne_tilde hmarker
      rw [hsize] at hon
      exact hstyle .bold hon hne hrow
  · next hmarker hthree htwo =>
      have hon := hallowed.of_ne_tilde hmarker
      rw [Switches.allowsSize] at hon
      · exact hstyle .italic hon hne hrow
      · exact hthree
      · exact htwo

theorem wrap_ne_text (switches : Switches) (pair : Pair) (content : List Span) (s : Text) :
    pair.wrap switches content ≠ .text s := by
  have hstyle (emphasis : Emphasis) (inside : List Span) :
      Span.style emphasis inside ≠ .text s := by
    rcases exists_style_eq emphasis inside with ⟨inner, heq⟩
    rw [heq]
    exact Span.noConfusion
  rcases pair.wrap_cases switches content with ⟨emphasis, _, heq⟩ | heq
  · rw [heq]
    exact hstyle emphasis content
  · rw [heq]
    exact hstyle .bold _

theorem allowsSize_of_fit {opener closer : Held} {size : Nat}
    (h : fit switches opener closer = some size) (hmarker : closer.run.marker ≠ .tilde) :
    switches.allowsSize size = true := by
  rw [fit, if_neg hmarker] at h
  split at h
  · split at h
    · exact absurd h (by simp)
    · -- A size is looked for among those that are allowed.
      have hfound := List.find?_some h
      simp only [Bool.and_eq_true] at hfound
      exact hfound.2
  · exact absurd h (by simp)

/-- Every match of asterisks or underscores has a meaning. -/
def Pairing.Meaningful (switches : Switches) (state : Pairing) : Prop :=
  ∀ pair ∈ state.made, pair.marker ≠ .tilde → switches.allowsSize pair.size = true

theorem Pairing.Meaningful.step {limit : Pairing → Held → Nat} {state next : Pairing}
    (h : state.Meaningful switches) (hstep : state.step switches limit = some next) :
    next.Meaningful switches := by
  rcases Pairing.step_cases hstep with ⟨closer, rest, _, hcase⟩
  rcases hcase with ⟨_, rfl⟩ | ⟨_, _, rfl⟩ | ⟨found, _, hfound, rfl⟩
  · exact h
  · exact h
  · rw [Meaningful, made_join]
    refine List.forall_mem_append.mpr ⟨h, List.forall_mem_singleton.mpr fun hmarker => ?_⟩
    exact allowsSize_of_fit (nearest_split hfound).2 hmarker

theorem Pairing.Meaningful.of_reaches {limit : Pairing → Held → Nat} {runs : List Run}
    {state : Pairing} (h : Reaches switches limit (start runs) state) :
    state.Meaningful switches :=
  reaches_induction (fun _ _ hstep meaningful => meaningful.step hstep) h
    fun _ hpair => absurd hpair List.not_mem_nil

/-- A pair is allowed if its runs take part. -/
theorem Pairing.Meaningful.allowed {state : Pairing} (h : state.Meaningful switches)
    {pair : Pair} (hpair : pair ∈ state.made) {run : Run}
    (htakes : run.takesPart switches = true) (hmarker : pair.marker = run.marker) :
    pair.Allowed switches := by
  rw [Pair.Allowed]
  split
  · next htilde =>
      -- A run of tildes takes part only if they are switched on.
      rw [Run.takesPart, ← hmarker, htilde] at htakes
      simp only [Bool.and_eq_true] at htakes
      exact htakes.2.1
  · next hother => exact h pair hpair hother

variable {label : Text → List Span}

/-- The pairs that begin within the text are allowed. -/
theorem allowed_of_unfolds {runs : List Run} {token : Token} {group : List Event}
    (h : Unfolds switches label (pairRuns switches runs).made token group) {pair : Pair}
    (hmem : .opening pair ∈ group) : pair.Allowed switches := by
  cases h with
  | text => exact absurd (List.mem_singleton.mp hmem) Event.noConfusion
  | span => exact absurd (List.mem_singleton.mp hmem) Event.noConfusion
  | run held index htakes settled =>
      rcases opening_mem_events.mp hmem with ⟨hpair, hopener⟩
      have hmarker := settled.marker pair hpair (.inl hopener)
      exact (Pairing.Meaningful.of_reaches (Pairing.reaches_finish _ _ _)).allowed hpair htakes
        hmarker

/-! ### Events next to each other -/

/-- The second event can stand right behind the first: they are not two texts, and
    not the beginning and the end of one pair. -/
def Event.Follows : Event → Event → Prop
  | .text _, .text _ => False
  | .opening pair, .closing other => pair ≠ other
  | _, _ => True

theorem isChain_pushEvent {event : Event} {rest : List Event} (h : rest.IsChain Event.Follows)
    (hopening : ∀ pair, event ≠ .opening pair) : (pushEvent event rest).IsChain Event.Follows := by
  unfold pushEvent
  split
  · exact h
  · next s t rest _ =>
      rw [List.isChain_cons] at h ⊢
      refine ⟨fun next hnext => ?_, h.2⟩
      have hfollows := h.1 next hnext
      cases next <;> exact hfollows
  · next hempty htexts =>
      refine List.isChain_cons.mpr ⟨fun next hnext => ?_, h⟩
      cases event with
      | text s =>
          cases next with
          | text t =>
              rcases List.head?_eq_some_iff.mp hnext with ⟨more, rfl⟩
              exact absurd rfl (htexts s t more rfl)
          | _ => trivial
      | span shown => cases next <;> trivial
      | opening pair => exact absurd rfl (hopening pair)
      | closing pair => cases next <;> trivial

theorem exists_head?_pushEvent_text {s : Text} (hs : s ≠ []) (rest : List Event) :
    ∃ t, (pushEvent (.text s) rest).head? = some (.text t) := by
  unfold pushEvent
  split
  · next heq => exact absurd (Event.text.inj heq) hs
  · exact ⟨_, rfl⟩
  · exact ⟨_, rfl⟩

theorem mergeTexts_openings (pairs : List Pair) (events : List Event) :
    mergeTexts (pairs.map .opening ++ events) = pairs.map .opening ++ mergeTexts events := by
  induction pairs with
  | nil => rfl
  | cons pair pairs ih => exact congrArg (.opening pair :: ·) ih

theorem mergeTexts_closings (pairs : List Pair) (events : List Event) :
    mergeTexts (pairs.map .closing ++ events) = pairs.map .closing ++ mergeTexts events := by
  induction pairs with
  | nil => rfl
  | cons pair pairs ih => exact congrArg (.closing pair :: ·) ih

/-- The events of a run in front of merged events. -/
theorem mergeTexts_heldEvents (held : Held) (index : Nat) (pairs : List Pair)
    (events : List Event) :
    mergeTexts (held.events index pairs ++ events) =
      (pairs.filter fun pair => pair.closer == index).map .closing ++
        pushEvent (.text (List.replicate held.remaining held.run.marker.char))
          ((pairs.filter fun pair => pair.opener == index).reverse.map .opening ++
            mergeTexts events) := by
  rw [Held.events, List.append_assoc, mergeTexts_closings, List.cons_append, mergeTexts,
    List.foldr_cons, ← mergeTexts, mergeTexts_openings]

theorem Token.Formed.source_ne_nil {token : Token} (h : token.Formed) : token.source ≠ [] := by
  cases token with
  | ticks count => exact fun hnil => absurd ((List.replicate_eq_nil_iff _).mp hnil) h.ne'
  | run r => exact fun hnil => absurd ((List.replicate_eq_nil_iff _).mp hnil) h.ne'
  | code count body =>
      rw [source, List.append_assoc]
      exact fun hnil => h.2.ne_nil
        (List.append_eq_nil_iff.mp (List.append_eq_nil_iff.mp hnil).2).1
  | _ => exact List.cons_ne_nil _ _

/-- A token that becomes a text becomes one with characters. -/
theorem text_ne_nil_of_piece {token : Token} (hformed : token.Formed) {s : Text}
    (h : token.piece switches label = .text s) : s ≠ [] := by
  rcases text_of_piece h with rfl | ⟨c, _, rfl⟩
  · exact hformed.source_ne_nil
  · exact List.cons_ne_nil _ _

/-- What is merged of a run that is settled begins with the end of a pair of its
    own, or it does not begin with the end of a pair. -/
theorem exists_head?_heldEvents {pairs : List Pair} {index : Nat} {held : Held}
    (hlength : 0 < held.run.length) (settled : Settled pairs index held) (events : List Event) :
    ∃ first, (mergeTexts (held.events index pairs ++ events)).head? = some first ∧
      ∀ pair, first = .closing pair → held.run.marker = pair.marker := by
  rw [mergeTexts_heldEvents]
  cases hclosed : pairs.filter fun pair => pair.closer == index with
  | cons pair closed =>
      refine ⟨.closing pair, rfl, fun other heq => ?_⟩
      have hmem : pair ∈ pairs.filter fun pair => pair.closer == index :=
        hclosed ▸ List.mem_cons_self
      rw [List.mem_filter, beq_iff_eq] at hmem
      rw [← Event.closing.inj heq]
      exact (settled.marker pair hmem.1 (.inr hmem.2)).symm
  | nil =>
      rw [List.map_nil, List.nil_append]
      by_cases hleft : held.remaining = 0
      · -- All markers of the run went into pairs that it opens.
        have hbalance := settled.balance
        rw [usedAt, hclosed, hleft, List.map_nil, List.sum_nil, Nat.zero_add, Nat.zero_add,
          ← List.sum_reverse, ← List.map_reverse] at hbalance
        rw [hleft]
        cases hopened : (pairs.filter fun pair => pair.opener == index).reverse with
        | nil =>
            rw [hopened, List.map_nil, List.sum_nil] at hbalance
            omega
        | cons pair opened => exact ⟨.opening pair, rfl, fun other => Event.noConfusion⟩
      · have hne : List.replicate held.remaining held.run.marker.char ≠ [] :=
          fun hnil => hleft ((List.replicate_eq_nil_iff _).mp hnil)
        rcases exists_head?_pushEvent_text hne _ with ⟨t, hhead⟩
        exact ⟨.text t, hhead, fun pair => Event.noConfusion⟩

/-- What is merged of a token begins with what the token becomes. If it begins
    with the end of a pair, the token is a run with the marker of the pair. -/
theorem exists_head?_merged {pairs : List Pair} {token : Token} {group : List Event}
    (hformed : token.Formed) (h : Unfolds switches label pairs token group)
    (events : List Event) :
    ∃ first, (mergeTexts (group ++ events)).head? = some first ∧
      ∀ pair, first = .closing pair → ∃ run, token = .run run ∧ run.marker = pair.marker := by
  cases h with
  | text _ s hpiece =>
      have hs : s ≠ [] := text_ne_nil_of_piece hformed hpiece
      rcases exists_head?_pushEvent_text hs (mergeTexts events) with ⟨t, hhead⟩
      exact ⟨.text t, hhead, fun pair => Event.noConfusion⟩
  | span _ span hpiece => exact ⟨.span span, rfl, fun pair => Event.noConfusion⟩
  | run held index htakes settled =>
      rcases exists_head?_heldEvents hformed settled events with ⟨first, hfirst, hmarker⟩
      exact ⟨first, hfirst, fun pair heq => ⟨held.run, rfl, hmarker pair heq⟩⟩

theorem isChain_openings {pairs : List Pair} {events : List Event}
    (h : events.IsChain Event.Follows)
    (hends : ∀ pair ∈ pairs, events.head? ≠ some (.closing pair)) :
    (pairs.map Event.opening ++ events).IsChain Event.Follows := by
  induction pairs with
  | nil => exact h
  | cons pair pairs ih =>
      rw [List.forall_mem_cons] at hends
      refine List.isChain_cons.mpr ⟨fun next hnext => ?_, ih hends.2⟩
      cases pairs with
      | nil =>
          cases next with
          | closing other => exact fun heq => hends.1 (hnext.trans (by rw [heq]))
          | _ => trivial
      | cons later pairs =>
          rw [← Option.some.inj hnext]
          trivial

theorem isChain_closings (pairs : List Pair) {events : List Event}
    (h : events.IsChain Event.Follows) :
    (pairs.map Event.closing ++ events).IsChain Event.Follows := by
  induction pairs with
  | nil => exact h
  | cons pair pairs ih =>
      exact List.isChain_cons.mpr ⟨fun next _ => by cases next <;> trivial, ih⟩

/-- No pair of a text ends right behind its beginning. -/
theorem isChain_merged {pairs : List Pair} {ts : List Token} {groups : List (List Event)}
    (hformed : ∀ token ∈ ts, token.Formed) (hapart : ts.IsChain Token.Apart)
    (h : List.Forall₂ (Unfolds switches label pairs) ts groups) :
    (mergeTexts groups.flatten).IsChain Event.Follows := by
  induction h with
  | nil => exact .nil
  | @cons token group ts groups hunfolds hrest ih =>
      rw [List.forall_mem_cons] at hformed
      rw [List.isChain_cons] at hapart
      have hchain := ih hformed.2 hapart.2
      have hpushed (event : Event) (hne : ∀ pair, event ≠ .opening pair) :
          (mergeTexts ([event] ++ groups.flatten)).IsChain Event.Follows :=
        isChain_pushEvent hchain hne
      rw [List.flatten_cons]
      cases hunfolds with
      | text _ s _ => exact hpushed (.text s) fun _ => Event.noConfusion
      | span _ span _ => exact hpushed (.span span) fun _ => Event.noConfusion
      | run held index _ settled =>
          rw [mergeTexts_heldEvents]
          refine isChain_closings _ (isChain_pushEvent (isChain_openings hchain ?_) (by simp))
          intro pair hopener hends
          rw [List.mem_reverse, List.mem_filter, beq_iff_eq] at hopener
          -- The end would be that of the next token, a run of the same marker.
          cases hrest with
          | nil => exact absurd hends (by simp [mergeTexts])
          | @cons next group ts groups hnext _ =>
              rcases exists_head?_merged (hformed.2 next List.mem_cons_self) hnext
                groups.flatten with ⟨first, hfirst, hrun⟩
              rw [List.flatten_cons, hfirst] at hends
              rcases hrun pair (Option.some.inj hends) with ⟨run, rfl, hmarker⟩
              have hmarkers : held.run.marker ≠ run.marker := hapart.1 _ rfl
              exact hmarkers ((settled.marker pair hopener.1 (.inl hopener.2)).symm.trans
                hmarker.symm)

/-! ### The tree -/

/-- The event can be next when these spans are in the innermost emphasis, latest
    first. -/
def Event.Fits (current : List Span) : Event → Prop
  | .text s => ∀ last ∈ current.head?, last.Separated (.text s)
  | .closing _ => current ≠ []
  | _ => True

/-- What comes of the event has the property everywhere. -/
def Event.Grows (switches : Switches) (Holds : Span → Prop) : Event → Prop
  | .text s => Holds (.text s)
  | .span shown => (∀ s, shown ≠ .text s) ∧ ∀ node ∈ shown.nodes, Holds node
  | .opening pair => pair.Allowed switches
  | .closing _ => True

/-- Behind a span that is no text, anything can be next. -/
theorem fits_cons {span : Span} (h : ∀ s, span ≠ .text s) (current : List Span) (event : Event) :
    event.Fits (span :: current) := by
  cases event with
  | text s =>
      intro last hlast
      rw [← Option.some.inj hlast]
      exact (separated_of_ne_text h _).1
  | closing pair => exact List.cons_ne_nil _ _
  | _ => trivial

/-- Behind a text, anything but a text can be next. -/
theorem fits_cons_text {s : Text} {event : Event} (h : (Event.text s).Follows event)
    (current : List Span) : event.Fits (.text s :: current) := by
  cases event with
  | text t => exact absurd h id
  | closing pair => exact List.cons_ne_nil _ _
  | _ => trivial

/-- When emphasis has just begun, it is not its end that is next. -/
theorem fits_nil_of_opening {pair : Pair} {stack : List Pair} {events : List Event}
    (hopen : openAfter (pair :: stack) events = some [])
    (hfollows : ∀ next ∈ events.head?, (Event.opening pair).Follows next) :
    ∀ next ∈ events.head?, next.Fits [] := by
  intro next hnext
  cases next with
  | text s => exact fun last hlast => absurd hlast (by simp)
  | closing other =>
      -- The end would have to be that of the pair.
      rcases List.head?_eq_some_iff.mp hnext with ⟨rest, rfl⟩
      have hpairs : pair ≠ other := hfollows _ hnext
      rw [openAfter_cons, Event.act, if_neg hpairs] at hopen
      exact absurd hopen (by simp)
  | _ => trivial

/-- A tree in the making is a row if what is there already is, and what comes
    next fits. -/
theorem row_assembleFrom (hkeeps : EmphasisKeeps switches Holds) {frames : List Frame}
    {current : List Span} {events : List Event}
    (hopen : openAfter (frames.map Frame.pair) events = some [])
    (hchain : events.IsChain Event.Follows)
    (hevents : ∀ event ∈ events, event.Grows switches Holds)
    (hframes : ∀ frame ∈ frames, frame.pair.Allowed switches ∧ Row Holds frame.before.reverse)
    (hcurrent : Row Holds current.reverse) (hnext : ∀ event ∈ events.head?, event.Fits current) :
    Row Holds (assembleFrom switches frames current events) := by
  -- What is next fits again after every event: a text is not followed by a text, and emphasis
  -- that has just begun does not end.
  induction events generalizing frames current with
  | nil =>
      cases frames with
      | nil => exact hcurrent
      | cons frame frames => exact absurd hopen (by simp [openAfter])
  | cons event events ih =>
      rw [openAfter_cons] at hopen
      rw [List.isChain_cons] at hchain
      rw [List.forall_mem_cons] at hevents
      have hfits := hnext event rfl
      have hpushed {span : Span} (hlast : ∀ last ∈ current.head?, last.Separated span)
          (hspan : ∀ node ∈ span.nodes, Holds node) : Row Holds (span :: current).reverse := by
        rw [List.reverse_cons]
        refine hcurrent.concat (fun last hmem => hlast last ?_) hspan
        rwa [List.getLast?_reverse] at hmem
      cases event with
      | text s =>
          rw [assembleFrom]
          exact ih hopen hchain.2 hevents.2 hframes
            (hpushed hfits (List.forall_mem_singleton.mpr hevents.1))
            fun next hmem => fits_cons_text (hchain.1 next hmem) current
      | span shown =>
          rw [assembleFrom]
          exact ih hopen hchain.2 hevents.2 hframes
            (hpushed (fun last _ => (separated_of_ne_text hevents.1.1 last).2) hevents.1.2)
            fun next _ => fits_cons hevents.1.1 _ _
      | opening pair =>
          rw [assembleFrom]
          have hbegun : ∀ frame ∈ Frame.mk pair current :: frames,
              frame.pair.Allowed switches ∧ Row Holds frame.before.reverse :=
            List.forall_mem_cons.mpr ⟨⟨hevents.1, hcurrent⟩, hframes⟩
          exact ih hopen hchain.2 hevents.2 hbegun .nil (fits_nil_of_opening hopen hchain.1)
      | closing pair =>
          cases frames with
          | nil => exact absurd hopen (by simp [Event.act])
          | cons frame frames =>
              rw [List.map_cons, Event.act] at hopen
              rw [List.forall_mem_cons] at hframes
              rw [assembleFrom]
              have hne : current.reverse ≠ [] := mt List.reverse_eq_nil_iff.mp hfits
              have hwrapped := hkeeps.wrap hframes.1.1 hne hcurrent
              have hspan := wrap_ne_text switches frame.pair current.reverse
              split at hopen
              · refine ih hopen hchain.2 hevents.2 hframes.2 ?_ fun next _ => fits_cons hspan _ _
                rw [List.reverse_cons]
                exact hframes.1.2.concat (fun last _ => (separated_of_ne_text hspan last).2)
                  hwrapped
              · exact absurd hopen (by simp)

/-- Where there is something already or something comes, a tree comes of it. -/
theorem assembleFrom_ne_nil {frames : List Frame} {current : List Span} {events : List Event}
    (hopen : openAfter (frames.map Frame.pair) events = some [])
    (h : frames ≠ [] ∨ current ≠ [] ∨ events ≠ []) :
    assembleFrom switches frames current events ≠ [] := by
  fun_induction assembleFrom switches frames current events with
  | case1 frames current =>
      -- Nothing is open any more, so something is there already.
      cases frames with
      | nil => exact mt List.reverse_eq_nil_iff.mp (by simpa using h)
      | cons frame frames => exact absurd hopen (by simp [openAfter])
  | case2 frames current s events ih => exact ih hopen (.inr (.inl (List.cons_ne_nil _ _)))
  | case3 frames current span events ih => exact ih hopen (.inr (.inl (List.cons_ne_nil _ _)))
  | case4 frames current pair events ih => exact ih hopen (.inl (List.cons_ne_nil _ _))
  | case5 current pair events ih => exact absurd hopen (by simp [openAfter, Event.act])
  | case6 current frame frames pair events ih =>
      rw [openAfter_cons, List.map_cons, Event.act] at hopen
      split at hopen
      · exact ih hopen (.inr (.inl (List.cons_ne_nil _ _)))
      · exact absurd hopen (by simp)

/-- What a token becomes as a finished span is no text. -/
theorem ne_text_of_piece {token : Token} {span : Span}
    (h : token.piece switches label = .span span) (s : Text) : span ≠ .text s := by
  rcases span_of_piece h with ⟨_, _, _, rfl⟩ | ⟨_, _, _, rfl⟩ | ⟨_, _, _, rfl⟩
  · exact Span.noConfusion
  · exact Span.noConfusion
  · exact Span.noConfusion

/-- What holds everywhere in the tree of a text: what holds of texts with
    characters, of the spans that tokens become, and of emphasis around such
    content. -/
theorem row_parseBetween (hkeeps : EmphasisKeeps switches Holds)
    (htext : ∀ s, s ≠ [] → Holds (.text s))
    (hspan : ∀ (token : Token) (span : Span), token.Formed →
      token.piece switches label = .span span → ∀ node ∈ span.nodes, Holds node)
    (before after : Option Char) (s : Text) :
    Row Holds (parseBetween switches label before after s) := by
  rcases parseBetween_eq_assemble switches label before after s with
    ⟨runs, groups, hgroups, hparse, hopen⟩
  have hchain := isChain_merged formed_of_mem_tokens (isChain_tokens _ _ _ _) hgroups
  have hopen : openAfter ([].map Frame.pair) (mergeTexts groups.flatten) = some [] := by
    rw [List.map_nil, openAfter_mergeTexts]
    exact hopen
  have hgrows : ∀ event ∈ mergeTexts groups.flatten, event.Grows switches Holds := by
    intro event hmem
    cases event with
    | text s => exact htext s (ne_nil_of_mem_mergeTexts _ s hmem)
    | span shown =>
        have hflat := mem_of_mem_mergeTexts hmem fun _ => Event.noConfusion
        rcases exists_token_of_mem hgroups hflat with ⟨token, group, htoken, hunfolds, hgroup⟩
        cases hunfolds with
        | text => exact absurd (List.mem_singleton.mp hgroup) Event.noConfusion
        | span _ span hpiece =>
            rw [Event.span.inj (List.mem_singleton.mp hgroup)]
            exact ⟨ne_text_of_piece hpiece,
              hspan token span (formed_of_mem_tokens token htoken) hpiece⟩
        | run held index _ _ => exact absurd hgroup (by simp [Held.events])
    | opening pair =>
        have hflat := mem_of_mem_mergeTexts hmem fun _ => Event.noConfusion
        rcases exists_token_of_mem hgroups hflat with ⟨token, group, _, hunfolds, hgroup⟩
        exact allowed_of_unfolds hunfolds hgroup
    | closing pair => trivial
  rw [hparse, assemble]
  have hframes : ∀ frame ∈ ([] : List Frame), frame.pair.Allowed switches ∧
      Row Holds frame.before.reverse :=
    fun _ hframe => absurd hframe List.not_mem_nil
  refine row_assembleFrom hkeeps hopen hchain hgrows hframes .nil fun event hmem => ?_
  cases event with
  | text s => exact fun last hlast => absurd hlast (by simp)
  | closing pair =>
      -- There is nothing yet that could end.
      rcases List.head?_eq_some_iff.mp hmem with ⟨rest, hrest⟩
      rw [hrest] at hopen
      exact absurd hopen (by simp [openAfter, Event.act])
  | _ => trivial

/-- The tree of a text with characters shows something. -/
theorem parseBetween_ne_nil (switches : Switches) (label : Text → List Span)
    (before after : Option Char) {s : Text} (hs : s ≠ []) :
    parseBetween switches label before after s ≠ [] := by
  rcases parseBetween_eq_assemble switches label before after s with
    ⟨runs, groups, hgroups, hparse, hopen⟩
  have hopen : openAfter ([].map Frame.pair) (mergeTexts groups.flatten) = some [] := by
    rw [List.map_nil, openAfter_mergeTexts]
    exact hopen
  rw [hparse, assemble]
  -- The first token becomes an event, whatever follows.
  refine assembleFrom_ne_nil hopen (.inr (.inr ?_))
  have hformed : ∀ token ∈ tokens switches.escapes before s after, token.Formed :=
    formed_of_mem_tokens
  have hsource := flatMap_source_tokens switches.escapes before s after
  generalize tokens switches.escapes before s after = ts at hgroups hformed hsource
  cases hgroups with
  | nil => exact absurd hsource.symm hs
  | @cons token group ts groups hunfolds _ =>
      rcases exists_head?_merged (hformed token List.mem_cons_self) hunfolds groups.flatten with
        ⟨first, hfirst, _⟩
      rw [List.flatten_cons]
      exact fun hnil => absurd (hnil ▸ hfirst) (by simp)

end Inline

end ChatMarkup
