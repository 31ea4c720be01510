import ChatMarkup.Proofs.TokenEvents
import ChatMarkup.Render.Span
import Mathlib.Algebra.Group.Nat.Even

/-!
# Inline Markup Loses Nothing

What becomes of every character of an inline text.

The leaves of a span tree, read from left to right, are what is left of the text
once its emphasis is taken away. A `Fragment` is a piece of the text together
with what becomes of it: characters that stand in a text, a code span, a link or
an image as a whole, or markers that have turned into emphasis and are gone. A
list of fragments *accounts* for leaves if it goes through them one by one and
drops nothing but markers.

Tokens, events and leaves follow each other in one order, and fragments are built
along with the events. At every event that begins or ends emphasis, as many
markers are dropped as the pair has used. That these are the markers that the
run lacks is the balance of the pairing. Every pair drops as many markers where
it ends as where it began, so the number dropped is even.

The label of a link is a text of its own. It is read without links, so a link
within it is kept as it is written.

## Main definitions

* `Literal`: A character that is shown, with or without a backslash before it.
* `Fragment`: A piece of inline text by what becomes of it.
* `Fragment.droppedCount`: The number of markers dropped outside links.
* `Span.leaves`: What a span shows, without its emphasis.
* `Makes`, `Accounts`: Fragments make leaves.
* `Yields`: A fragment becomes an event.
* `Explains`: Fragments are a text, make its leaves and drop markers by twos.

## Theorems

* `leavesAll_assembleFrom`: The tree shows what its events show.
* `even_weight_openAfter`: What is opened and closed drops markers by twos.
* `exists_merged`: Merging texts merges fragments.
* `exists_fragments`: The events of tokens come from fragments.
* `exists_explains_parseBetween`: The fragments of a text explain its spans.
* `parseInline_accounts`: No inline content is lost, invented or reordered.
-/

namespace ChatMarkup

/-! ### Leaves -/

mutual

/-- What the span shows from left to right, without its emphasis. -/
def Span.leaves : Span → List Span
  | .styled _ content => Span.leavesAll content
  | .text s => [.text s]
  | .code s => [.code s]
  | .link url content => [.link url content]
  | .image url description => [.image url description]
  | .lineBreak => [.lineBreak]

/-- What the spans show from left to right, without their emphasis. -/
def Span.leavesAll : List Span → List Span
  | [] => []
  | span :: spans => Span.leaves span ++ Span.leavesAll spans

end

namespace Span

theorem leavesAll_append (xs ys : List Span) :
    leavesAll (xs ++ ys) = leavesAll xs ++ leavesAll ys := by
  induction xs with
  | nil => rfl
  | cons x xs ih => rw [List.cons_append, leavesAll, leavesAll, ih, List.append_assoc]

theorem leavesAll_singleton (span : Span) : leavesAll [span] = span.leaves := by
  rw [leavesAll, leavesAll, List.append_nil]

/-- Emphasis shows what it encloses, also where it merges with its content. -/
theorem leaves_style (emphasis : Emphasis) (content : List Span) :
    (style emphasis content).leaves = leavesAll content := by
  rw [style.eq_def]
  split
  · next inner inside =>
      split
      · exact (leavesAll_singleton _).symm
      · exact leaves.eq_1 emphasis _
  · exact leaves.eq_1 emphasis content

end Span

namespace Inline

open ChatMarkup.Span

theorem leaves_wrap (switches : Switches) (pair : Pair) (content : List Span) :
    (pair.wrap switches content).leaves = leavesAll content := by
  rcases pair.wrap_cases switches content with ⟨emphasis, _, heq⟩ | heq
  · rw [heq, leaves_style]
  · rw [heq, leaves_style, leavesAll_singleton, leaves_style]

/-- What the siblings in front of open emphasis show. -/
def leavesOpen (frames : List Frame) : List Span :=
  frames.reverse.flatMap fun frame => leavesAll frame.before.reverse

/-- What the event shows. -/
def Event.leaves : Event → List Span
  | .text s => [.text s]
  | .span shown => shown.leaves
  | .opening _ => []
  | .closing _ => []

theorem flatView_leavesAll (switches : Switches) :
    FlatView switches (fun _ => True) leavesAll where
  append := leavesAll_append
  wrap pair content _ := by rw [leavesAll_singleton, leaves_wrap]

theorem viewed_leavesAll : Event.viewed leavesAll = Event.leaves := by
  funext event
  cases event with
  | text s => rfl
  | span shown => exact leavesAll_singleton shown
  | opening pair => rfl
  | closing pair => rfl

/-- The tree shows what its events show, in the same order. -/
theorem leavesAll_assembleFrom (switches : Switches) (frames : List Frame) (current : List Span)
    (events : List Event) :
    leavesAll (assembleFrom switches frames current events) =
      leavesOpen frames ++ leavesAll current.reverse ++ events.flatMap Event.leaves := by
  rw [(flatView_leavesAll switches).assembleFrom frames current events (fun _ _ => trivial)
    fun _ _ => trivial, viewed_leavesAll]
  rfl

/-! ### Fragments -/

/-- A character that is shown. The backslash that escapes one is dropped. -/
inductive Literal
  /-- The character as it was written. -/
  | verbatim (c : Char)
  /-- A punctuation character behind a backslash. -/
  | escaped (c : Char) (punctuation : isPunctuation c = true)

namespace Literal

/-- The character that is shown. -/
def char : Literal → Char
  | verbatim c => c
  | escaped c _ => c

/-- The character as it was written. -/
def source : Literal → Text
  | verbatim c => [c]
  | escaped c _ => ['\\', c]

end Literal

/-- A piece of inline text by what becomes of it. -/
inductive Fragment
  /-- Characters that are shown together in one text. -/
  | text (literals : List Literal)
  /-- Code between two runs of as many backticks. -/
  | code (count : Nat) (body : Text)
  /-- A link, and what becomes of its label. -/
  | link (link : Link) (label : List Fragment)
  /-- An image. -/
  | image (link : Link)
  /-- Markers that are dropped because they became emphasis. -/
  | dropped (marker : Marker) (count : Nat)

namespace Fragment

/-- The piece as it was written. -/
def source : Fragment → Text
  | text literals => literals.flatMap Literal.source
  | code count body => ticks count ++ body ++ ticks count
  | link l _ => l.source
  | image l => '!' :: l.source
  | dropped marker count => List.replicate count marker.char

/-- Whether the piece is a link. -/
def isLink : Fragment → Bool
  | link _ _ => true
  | _ => false

/-- How many of the markers the piece drops. What is dropped in the label of a
    link does not count. -/
def drops (marker : Marker) : Fragment → Nat
  | dropped m count => if m = marker then count else 0
  | _ => 0

/-- How many of the markers are dropped outside links. -/
def droppedCount (marker : Marker) (fragments : List Fragment) : Nat :=
  (fragments.map (drops marker)).sum

end Fragment

mutual

/-- The piece makes the leaf as a whole. -/
inductive Makes : Fragment → Span → Prop
  /-- Code is shown as it was written. -/
  | code (count : Nat) (body : Text) : 0 < count →
    Makes (.code count body) (.code (ticks count ++ body ++ ticks count))
  /-- The pieces of a link's label account for what the link shows. There are no
      links among them. -/
  | link (l : Link) (label : List Fragment) (content : List Span) :
    label.flatMap Fragment.source = l.label → (∀ fragment ∈ label, fragment.isLink = false) →
    (∀ marker, Even (Fragment.droppedCount marker label)) →
    Accounts label (leavesAll content) → Makes (.link l label) (.link l.url content)
  /-- The description of an image is its label as it was written. -/
  | image (l : Link) : Makes (.image l) (.image l.url l.label)

/-- The pieces account for the leaves, one after the other. -/
inductive Accounts : List Fragment → List Span → Prop
  /-- No pieces account for no leaves. -/
  | nil : Accounts [] []
  /-- Characters account for the text in which they stand. -/
  | text (literals : List Literal) (fragments : List Fragment) (leaves : List Span) :
    literals ≠ [] → Accounts fragments leaves →
    Accounts (.text literals :: fragments) (.text (literals.map Literal.char) :: leaves)
  /-- A piece that makes a leaf as a whole accounts for it. -/
  | whole (fragment : Fragment) (leaf : Span) (fragments : List Fragment) (leaves : List Span) :
    Makes fragment leaf → Accounts fragments leaves →
    Accounts (fragment :: fragments) (leaf :: leaves)
  /-- Markers that are dropped account for nothing. -/
  | dropped (marker : Marker) (count : Nat) (fragments : List Fragment) (leaves : List Span) :
    Accounts fragments leaves → Accounts (.dropped marker count :: fragments) leaves

end

/-- The piece becomes the event. -/
inductive Yields : Fragment → Event → Prop
  /-- Characters become a text. -/
  | text (literals : List Literal) : Yields (.text literals) (.text (literals.map Literal.char))
  /-- A piece that makes a leaf becomes the leaf. -/
  | whole (fragment : Fragment) (leaf : Span) : Makes fragment leaf → leaf.leaves = [leaf] →
    Yields fragment (.span leaf)
  /-- Dropped markers begin emphasis. -/
  | opening (pair : Pair) : Yields (.dropped pair.marker pair.size) (.opening pair)
  /-- Dropped markers end emphasis. -/
  | closing (pair : Pair) : Yields (.dropped pair.marker pair.size) (.closing pair)

/-! ### Dropped markers -/

/-- The markers of the kind that the event drops. -/
def Event.drops (marker : Marker) : Event → Nat
  | .text _ => 0
  | .span _ => 0
  | .opening pair => if pair.marker = marker then pair.size else 0
  | .closing pair => if pair.marker = marker then pair.size else 0

/-- The markers of the kind that the pairs will still drop when they end. -/
def weight (marker : Marker) (stack : List Pair) : Nat :=
  (stack.map fun pair => if pair.marker = marker then pair.size else 0).sum

theorem weight_cons (marker : Marker) (pair : Pair) (stack : List Pair) :
    weight marker (pair :: stack) =
      (if pair.marker = marker then pair.size else 0) + weight marker stack :=
  rfl

/-- An event drops what it adds to the open pairs or takes from them. -/
theorem even_weight_act (marker : Marker) {stack next : List Pair} {event : Event}
    (h : event.act stack = some next) :
    Even (event.drops marker + (weight marker stack + weight marker next)) := by
  -- What is dropped is the difference between the two weights, or nothing.
  fun_cases Event.act stack event with
  | case1 stack s =>
      rw [← Option.some.inj h, Event.drops, Nat.zero_add]
      exact Even.add_self _
  | case2 stack span =>
      rw [← Option.some.inj h, Event.drops, Nat.zero_add]
      exact Even.add_self _
  | case3 stack pair =>
      rw [← Option.some.inj h, weight_cons, Event.drops, Nat.even_iff]
      omega
  | case4 pair => exact absurd h (by simp [Event.act])
  | case5 stack pair =>
      rw [Event.act, if_pos rfl] at h
      rw [← Option.some.inj h, weight_cons, Event.drops, Nat.even_iff]
      omega
  | case6 top stack pair hne =>
      rw [Event.act, if_neg hne] at h
      exact absurd h (by simp)

/-- Where events open and close pairs in order, every pair drops as many markers
    in the end as it did in the beginning. -/
theorem even_weight_openAfter (marker : Marker) {stack final : List Pair} {events : List Event}
    (h : openAfter stack events = some final) :
    Even ((events.map (Event.drops marker)).sum + (weight marker stack + weight marker final)) := by
  induction events generalizing stack with
  | nil =>
      rw [← Option.some.inj h, List.map_nil, List.sum_nil, Nat.zero_add]
      exact Even.add_self _
  | cons event events ih =>
      rw [openAfter_cons] at h
      rcases Option.bind_eq_some_iff.mp h with ⟨next, hnext, hrest⟩
      have hbalance := ih hrest
      rw [List.map_cons, List.sum_cons]
      have hsum := (even_weight_act marker hnext).add hbalance
      rw [Nat.even_iff] at hsum ⊢
      omega

theorem drops_of_yields {fragment : Fragment} {event : Event} (h : Yields fragment event)
    (marker : Marker) : fragment.drops marker = event.drops marker := by
  cases h with
  | text literals => rfl
  | whole _ leaf hmakes _ => cases hmakes <;> rfl
  | opening pair => rfl
  | closing pair => rfl

theorem droppedCount_of_yields {fragments : List Fragment} {events : List Event}
    (h : List.Forall₂ Yields fragments events) (marker : Marker) :
    Fragment.droppedCount marker fragments = (events.map (Event.drops marker)).sum := by
  induction h with
  | nil => rfl
  | cons hyields _ ih =>
      rw [Fragment.droppedCount, List.map_cons, List.sum_cons, ← Fragment.droppedCount, ih,
        drops_of_yields hyields, List.map_cons, List.sum_cons]

/-! ### Merging -/

/-- Neither list of pieces holds a link if the other does not. -/
def NoNewLinks (fragments merged : List Fragment) : Prop :=
  (∀ fragment ∈ fragments, fragment.isLink = false) → ∀ fragment ∈ merged, fragment.isLink = false

/-- An event in front of others, merged with them if both are texts, comes from a
    piece in front of others, merged in the same way. -/
theorem exists_pushed {fragment : Fragment} {event : Event} {fragments : List Fragment}
    {events : List Event} (hyields : Yields fragment event)
    (h : List.Forall₂ Yields fragments events) :
    ∃ pushed, List.Forall₂ Yields pushed (pushEvent event events) ∧
      pushed.flatMap Fragment.source = (fragment :: fragments).flatMap Fragment.source ∧
      NoNewLinks (fragment :: fragments) pushed := by
  have hkeep : List.Forall₂ Yields (fragment :: fragments) (event :: events) := .cons hyields h
  cases hyields with
  | text literals =>
      rcases literals with _ | ⟨literal, literals⟩
      · -- A text without characters is no event.
        exact ⟨fragments, h, rfl, fun hlinks piece hpiece =>
          hlinks piece (List.mem_cons_of_mem _ hpiece)⟩
      · cases h with
        | nil => exact ⟨_, hkeep, rfl, fun hlinks => hlinks⟩
        | @cons next follower fragments events hnext hrest =>
            cases hnext with
            | text more =>
                refine ⟨.text (literal :: literals ++ more) :: fragments, ?_, ?_, ?_⟩
                · have hmerged := Yields.text (literal :: literals ++ more)
                  rw [List.map_append] at hmerged
                  exact .cons hmerged hrest
                · simp [Fragment.source]
                · intro hlinks piece hpiece
                  rcases List.mem_cons.mp hpiece with rfl | hpiece
                  · rfl
                  · exact hlinks piece (List.mem_cons_of_mem _ (List.mem_cons_of_mem _ hpiece))
            | whole => exact ⟨_, hkeep, rfl, fun hlinks => hlinks⟩
            | opening => exact ⟨_, hkeep, rfl, fun hlinks => hlinks⟩
            | closing => exact ⟨_, hkeep, rfl, fun hlinks => hlinks⟩
  | whole => exact ⟨_, hkeep, rfl, fun hlinks => hlinks⟩
  | opening => exact ⟨_, hkeep, rfl, fun hlinks => hlinks⟩
  | closing => exact ⟨_, hkeep, rfl, fun hlinks => hlinks⟩

/-- Merging texts merges the pieces that they come from. Nothing of what was
    written gets lost. -/
theorem exists_merged {fragments : List Fragment} {events : List Event}
    (h : List.Forall₂ Yields fragments events) :
    ∃ merged, List.Forall₂ Yields merged (mergeTexts events) ∧
      merged.flatMap Fragment.source = fragments.flatMap Fragment.source ∧
      NoNewLinks fragments merged := by
  induction h with
  | nil => exact ⟨[], .nil, rfl, id⟩
  | @cons fragment event fragments events hyields _ ih =>
      rcases ih with ⟨merged, hmerged, hsource, hlinks⟩
      rcases exists_pushed hyields hmerged with ⟨pushed, hpushed, hpushedSource, hpushedLinks⟩
      refine ⟨pushed, hpushed, ?_, fun hnone => hpushedLinks fun piece hpiece => ?_⟩
      · rw [hpushedSource, List.flatMap_cons, List.flatMap_cons, hsource]
      · rcases List.mem_cons.mp hpiece with rfl | hpiece
        · exact hnone _ List.mem_cons_self
        · refine hlinks (fun other hother => ?_) piece hpiece
          exact hnone other (List.mem_cons_of_mem _ hother)

/-- Fragments account for what their events show, if no text among these is
    empty. -/
theorem accounts_of_yields {fragments : List Fragment} {events : List Event}
    (h : List.Forall₂ Yields fragments events) (hne : ∀ s, .text s ∈ events → s ≠ []) :
    Accounts fragments (events.flatMap Event.leaves) := by
  induction h with
  | nil => exact .nil
  | @cons fragment event fragments events hyields _ ih =>
      have hrest := ih fun s hs => hne s (List.mem_cons_of_mem _ hs)
      rw [List.flatMap_cons]
      cases hyields with
      | text literals =>
          refine .text literals fragments _ ?_ hrest
          rintro rfl
          exact hne [] List.mem_cons_self rfl
      | whole _ leaf hmakes hleaf =>
          rw [Event.leaves, hleaf]
          exact .whole fragment leaf fragments _ hmakes hrest
      | opening pair => exact .dropped pair.marker pair.size fragments _ hrest
      | closing pair => exact .dropped pair.marker pair.size fragments _ hrest

theorem ne_nil_of_mem_pushEvent {event : Event} {rest : List Event} {s : Text}
    (hrest : ∀ s, .text s ∈ rest → s ≠ []) (h : .text s ∈ pushEvent event rest) : s ≠ [] := by
  unfold pushEvent at h
  split at h
  · exact hrest s h
  · next t u rest hne =>
      rcases List.mem_cons.mp h with heq | hmem
      · rw [Event.text.inj heq]
        exact fun hnil => hne (List.append_eq_nil_iff.mp hnil).1
      · exact hrest s (List.mem_cons_of_mem _ hmem)
  · next hne _ =>
      rcases List.mem_cons.mp h with heq | hmem
      · rintro rfl
        exact hne heq.symm
      · exact hrest s hmem

/-- No text is empty after merging. -/
theorem ne_nil_of_mem_mergeTexts (events : List Event) :
    ∀ s, .text s ∈ mergeTexts events → s ≠ [] := by
  induction events with
  | nil => exact fun s h => absurd h List.not_mem_nil
  | cons event events ih =>
      intro s h
      rw [mergeTexts, List.foldr_cons, ← mergeTexts] at h
      exact ne_nil_of_mem_pushEvent ih h

/-! ### Fragments of tokens -/

/-- What a token cannot be when it has been read: only punctuation is escaped,
    and code is delimited by backticks. -/
def Token.Read : Token → Prop
  | .escaped c => isPunctuation c = true
  | .code count _ => 0 < count
  | _ => True

theorem read_nextToken (escapes : Bool) (before after : Option Char) (c : Char) (rest : Text) :
    (nextToken escapes before after c rest).1.Read := by
  unfold nextToken
  repeat' split
  all_goals simp_all [Token.Read]

theorem read_of_mem_tokens {escapes : Bool} {before after : Option Char} {s : Text} :
    ∀ token ∈ tokens escapes before s after, token.Read :=
  forall_mem_tokens (fun before c rest => read_nextToken escapes before after c rest) before s

/-- Text that is kept as it was written. -/
def Fragment.verbatim (s : Text) : Fragment :=
  .text (s.map .verbatim)

theorem source_verbatim (s : Text) : (Fragment.verbatim s).source = s := by
  rw [Fragment.verbatim, Fragment.source, List.flatMap_map]
  exact List.flatMap_singleton' s

theorem yields_verbatim (s : Text) : Yields (.verbatim s) (.text s) := by
  have h := Yields.text (s.map .verbatim)
  rw [List.map_map] at h
  simpa [Function.comp_def, Literal.char, Fragment.verbatim] using h

/-- What pairs of one marker take from a run is a run of the marker. -/
theorem flatMap_source_dropped {pairs : List Pair} {marker : Marker}
    (h : ∀ pair ∈ pairs, pair.marker = marker) :
    (pairs.map fun pair => Fragment.dropped pair.marker pair.size).flatMap Fragment.source =
      List.replicate (pairs.map Pair.size).sum marker.char := by
  induction pairs with
  | nil => rfl
  | cons pair pairs ih =>
      have hrest := ih fun other hother => h other (List.mem_cons_of_mem _ hother)
      rw [List.map_cons, List.flatMap_cons, hrest, Fragment.source, h pair List.mem_cons_self,
        List.map_cons, List.sum_cons, List.replicate_add]

/-- The events of a settled run come from the markers of the run. -/
theorem exists_fragments_run {pairs : List Pair} {index : Nat} {held : Held}
    (settled : Settled pairs index held) :
    ∃ fragments, List.Forall₂ Yields fragments (held.events index pairs) ∧
      fragments.flatMap Fragment.source = held.run.source ∧
      ∀ fragment ∈ fragments, fragment.isLink = false := by
  let closed := pairs.filter fun pair => pair.closer == index
  let opened := (pairs.filter fun pair => pair.opener == index).reverse
  let drop (pair : Pair) : Fragment := .dropped pair.marker pair.size
  have hclosed : ∀ pair ∈ closed, pair.marker = held.run.marker := by
    intro pair hpair
    rw [List.mem_filter, beq_iff_eq] at hpair
    exact settled.marker pair hpair.1 (.inr hpair.2)
  have hopened : ∀ pair ∈ opened, pair.marker = held.run.marker := by
    intro pair hpair
    rw [List.mem_reverse, List.mem_filter, beq_iff_eq] at hpair
    exact settled.marker pair hpair.1 (.inl hpair.2)
  have hused : (closed.map Pair.size).sum + (opened.map Pair.size).sum = usedAt pairs index := by
    rw [List.map_reverse, List.sum_reverse]
    rfl
  -- The pairs that end here come first, and those that begin here come last.
  refine ⟨closed.map drop ++
    .verbatim (List.replicate held.remaining held.run.marker.char) :: opened.map drop, ?_, ?_, ?_⟩
  · refine List.rel_append ?_ (.cons (yields_verbatim _) ?_)
    · rw [List.forall₂_map_left_iff, List.forall₂_map_right_iff, List.forall₂_same]
      exact fun pair _ => .closing pair
    · rw [List.forall₂_map_left_iff, List.forall₂_map_right_iff, List.forall₂_same]
      exact fun pair _ => .opening pair
  · rw [List.flatMap_append, List.flatMap_cons, flatMap_source_dropped hclosed,
      flatMap_source_dropped hopened, source_verbatim, ← List.replicate_add, ← List.replicate_add,
      Run.source, settled.balance, ← hused]
    congr 1
    omega
  · intro fragment hfragment
    rcases List.mem_append.mp hfragment with hmem | hmem
    · rcases List.mem_map.mp hmem with ⟨pair, _, rfl⟩
      rfl
    · rcases List.mem_cons.mp hmem with rfl | hmem
      · rfl
      · rcases List.mem_map.mp hmem with ⟨pair, _, rfl⟩
        rfl

/-- The pieces explain what became of the text: one after the other they are the
    text, they account for what the spans show, and of every marker they drop an
    even number. -/
structure Explains (s : Text) (spans : List Span) (fragments : List Fragment) : Prop where
  /-- The text is cut into the pieces. -/
  source : fragments.flatMap Fragment.source = s
  /-- The pieces account for the leaves of the spans. -/
  accounts : Accounts fragments (leavesAll spans)
  /-- Markers are dropped by twos. -/
  even : ∀ marker, Even (Fragment.droppedCount marker fragments)

section Label

variable {switches : Switches} {label : Text → List Span}
  (hlabel : switches.links = true → ∀ s, ∃ fragments, Explains s (label s) fragments ∧
    ∀ fragment ∈ fragments, fragment.isLink = false)
include hlabel

/-- A token becomes a text, a leaf, or a run that takes part in the pairing. -/
theorem piece_cases {token : Token} (hread : token.Read) :
    (∃ fragment, fragment.source = token.source ∧
      (switches.links = false → fragment.isLink = false) ∧
      ((∃ s, token.piece switches label = .text s ∧ Yields fragment (.text s)) ∨
        ∃ span, token.piece switches label = .span span ∧ Yields fragment (.span span))) ∨
    ∃ run, token = .run run ∧ token.piece switches label = .run run := by
  have hkeep : token.piece switches label = .text token.source →
      ∃ fragment, fragment.source = token.source ∧
        (switches.links = false → fragment.isLink = false) ∧
        ((∃ s, token.piece switches label = .text s ∧ Yields fragment (.text s)) ∨
          ∃ span, token.piece switches label = .span span ∧ Yields fragment (.span span)) :=
    fun hpiece => ⟨.verbatim token.source, source_verbatim _, fun _ => rfl,
      .inl ⟨_, hpiece, yields_verbatim _⟩⟩
  cases token with
  | char c => exact .inl (hkeep rfl)
  | escaped c =>
      exact .inl ⟨.text [.escaped c hread], rfl, fun _ => rfl, .inl ⟨[c], rfl, .text _⟩⟩
  | ticks count => exact .inl (hkeep rfl)
  | code count body =>
      exact .inl ⟨.code count body, rfl, fun _ => rfl,
        .inr ⟨_, rfl, .whole _ _ (.code _ _ hread) rfl⟩⟩
  | link l =>
      by_cases hlinks : switches.links = true
      · -- The label is a text of its own, and its pieces become those of the link.
        rcases hlabel hlinks l.label with ⟨fragments, hexplains, hnone⟩
        have hmakes := Makes.link l fragments (label l.label) hexplains.source hnone
          hexplains.even hexplains.accounts
        refine .inl ⟨.link l fragments, rfl, fun hoff => ?_, .inr ⟨_, if_pos hlinks, ?_⟩⟩
        · exact absurd (hlinks.symm.trans hoff) Bool.noConfusion
        · exact .whole _ _ hmakes rfl
      · exact .inl (hkeep (if_neg hlinks))
  | image l =>
      by_cases himages : switches.images = true
      · exact .inl ⟨.image l, rfl, fun _ => rfl,
          .inr ⟨_, if_pos himages, .whole _ _ (.image l) rfl⟩⟩
      · exact .inl (hkeep (if_neg himages))
  | run r =>
      by_cases htakes : r.takesPart switches = true
      · exact .inr ⟨r, rfl, if_pos htakes⟩
      · exact .inl (hkeep (if_neg htakes))

/-- The events of a token come from what the token was written as. -/
theorem exists_fragments_of_unfolds {pairs : List Pair} {token : Token} {group : List Event}
    (hread : token.Read) (h : Unfolds switches label pairs token group) :
    ∃ fragments, List.Forall₂ Yields fragments group ∧
      fragments.flatMap Fragment.source = token.source ∧
      (switches.links = false → ∀ fragment ∈ fragments, fragment.isLink = false) := by
  have hone (event : Event) (fragment : Fragment) (hyields : Yields fragment event)
      (hsource : fragment.source = token.source)
      (hlink : switches.links = false → fragment.isLink = false) :
      ∃ fragments, List.Forall₂ Yields fragments [event] ∧
        fragments.flatMap Fragment.source = token.source ∧
        (switches.links = false → ∀ fragment ∈ fragments, fragment.isLink = false) :=
    ⟨[fragment], .cons hyields .nil, by rw [List.flatMap_singleton, hsource],
      fun hoff => List.forall_mem_singleton.mpr (hlink hoff)⟩
  have hcases := piece_cases hlabel hread
  cases h with
  | text _ s hpiece =>
      rw [hpiece] at hcases
      rcases hcases with ⟨fragment, hsource, hlink, ⟨_, ⟨⟩, hyields⟩ | ⟨_, ⟨⟩, _⟩⟩ | ⟨_, _, ⟨⟩⟩
      exact hone _ fragment hyields hsource hlink
  | span _ span hpiece =>
      rw [hpiece] at hcases
      rcases hcases with ⟨fragment, hsource, hlink, ⟨_, ⟨⟩, _⟩ | ⟨_, ⟨⟩, hyields⟩⟩ | ⟨_, _, ⟨⟩⟩
      exact hone _ fragment hyields hsource hlink
  | run held index _ settled =>
      rcases exists_fragments_run settled with ⟨fragments, hyields, hsource, hlink⟩
      exact ⟨fragments, hyields, hsource, fun _ => hlink⟩

/-- The events of tokens come from what the tokens were written as. -/
theorem exists_fragments {pairs : List Pair} {ts : List Token} {groups : List (List Event)}
    (hread : ∀ token ∈ ts, token.Read)
    (h : List.Forall₂ (Unfolds switches label pairs) ts groups) :
    ∃ fragments, List.Forall₂ Yields fragments groups.flatten ∧
      fragments.flatMap Fragment.source = ts.flatMap Token.source ∧
      (switches.links = false → ∀ fragment ∈ fragments, fragment.isLink = false) := by
  induction h with
  | nil => exact ⟨[], .nil, rfl, fun _ _ h => absurd h List.not_mem_nil⟩
  | cons hunfolds _ ih =>
      rw [List.forall_mem_cons] at hread
      rcases exists_fragments_of_unfolds hlabel hread.1 hunfolds with
        ⟨first, hfirst, hfirstSource, hfirstLinks⟩
      rcases ih hread.2 with ⟨fragments, hall, hsources, hlinks⟩
      refine ⟨first ++ fragments, List.rel_append hfirst hall, ?_, fun hoff => ?_⟩
      · rw [List.flatMap_append, List.flatMap_cons, hfirstSource, hsources]
      · exact List.forall_mem_append.mpr ⟨hfirstLinks hoff, hlinks hoff⟩

/-- For every text between two characters there are pieces that explain what
    became of it. There is no link among them if links are switched off. -/
theorem exists_explains_parseBetween (before after : Option Char) (s : Text) :
    ∃ fragments, Explains s (parseBetween switches label before after s) fragments ∧
      (switches.links = false → ∀ fragment ∈ fragments, fragment.isLink = false) := by
  rcases parseBetween_eq_assemble switches label before after s with
    ⟨runs, groups, hgroups, hparse, hopen⟩
  rcases exists_fragments hlabel read_of_mem_tokens hgroups with
    ⟨fragments, hyields, hsource, hlinks⟩
  rcases exists_merged hyields with ⟨merged, hmerged, hmergedSource, hmergedLinks⟩
  refine ⟨merged, ⟨?_, ?_, fun marker => ?_⟩, fun hoff => hmergedLinks (hlinks hoff)⟩
  · rw [hmergedSource, hsource]
    exact flatMap_source_tokens _ _ _ _
  · have haccounts := accounts_of_yields hmerged (ne_nil_of_mem_mergeTexts _)
    have hleaves := leavesAll_assembleFrom switches [] [] (mergeTexts groups.flatten)
    rw [show leavesOpen [] ++ leavesAll [].reverse = [] from rfl, List.nil_append] at hleaves
    rw [hparse, assemble, hleaves]
    exact haccounts
  · -- Nothing is open in front of the events or behind them.
    rw [← openAfter_mergeTexts] at hopen
    have heven := even_weight_openAfter marker hopen
    rw [droppedCount_of_yields hmerged]
    simpa [weight] using heven

end Label

/-- The pieces of a link's label explain it, and there are no links among them. -/
theorem exists_explains_parseLabel (switches : Switches) (s : Text) :
    ∃ fragments, Explains s (parseLabel switches s) fragments ∧
      ∀ fragment ∈ fragments, fragment.isLink = false := by
  -- Links are switched off within a label, so nothing is asked of labels in it.
  have hlabel : ({ switches with links := false } : Switches).links = true → ∀ s : Text,
      ∃ fragments, Explains s [] fragments ∧ ∀ fragment ∈ fragments, fragment.isLink = false :=
    fun hon => absurd hon Bool.false_ne_true
  rcases exists_explains_parseBetween hlabel (some '[') (some ']') s with
    ⟨fragments, hexplains, hlinks⟩
  exact ⟨fragments, hexplains, hlinks rfl⟩

end Inline

open Inline

/-- No inline content is lost, invented or reordered. Every text can be cut into
    pieces that account for the leaves of its spans from left to right, and of
    every marker an even number is dropped outside links. Within the label of
    each link it is the same. -/
theorem parseInline_accounts (config : Config) (s : Text) :
    ∃ fragments : List Fragment,
      fragments.flatMap Fragment.source = s ∧
      Accounts fragments (Span.leavesAll (parseInline config s)) ∧
      ∀ marker, Even (Fragment.droppedCount marker fragments) := by
  have hlabel : config.inlineSwitches.links = true → ∀ label : Text, ∃ fragments,
      Explains label (parseLabel config.inlineSwitches label) fragments ∧
        ∀ fragment ∈ fragments, fragment.isLink = false :=
    fun _ label => exists_explains_parseLabel config.inlineSwitches label
  rcases exists_explains_parseBetween hlabel none none s with ⟨fragments, hexplains, _⟩
  exact ⟨fragments, hexplains.source, hexplains.accounts, hexplains.even⟩

end ChatMarkup
