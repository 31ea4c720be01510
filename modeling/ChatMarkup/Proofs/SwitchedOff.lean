import ChatMarkup.Proofs.Growth
import ChatMarkup.Proofs.TableRows

/-!
# What Is Switched Off

Constructs that are switched off stay as they were written.

Which emphasis a run stands for is settled late. A run gives up its markers in
parts, three of them stand for two kinds at once, and what is left looks on for
a partner with a smaller match in mind. So it takes the whole way from a run to
the tree to see that a kind that is switched off does not come back. Links and
images are settled at once, but labels are read by themselves, with links
switched off whatever else is on.

A run whose own kind is off is never paired, so it is shown where it stands and
as long as it is. It may be merged with text on either side. What stands in
front of it accounts for what is shown in front, and the same holds behind.

If emphasis, links and images are all switched off, nothing is left that would
be dropped but the backslash in front of punctuation.

## Main definitions

* `Switches.admits`: Whether the kind of a span is switched on.
* `Switches.silences`: Whether the kind of a run is switched off.
* `KeptBetween`: What stands between two parts of a text is shown there.

## Theorems

* `row_admits_parse`: Everything in a tree is switched on.
* `takesPart_of_silences`: A run whose kind is off is not paired.
* `mergedBetween_mergeTexts`: A text between events, after merging.
* `keptBetween_parse`: A token that becomes a text is shown where it stands.
* `renderAll_parse_silent`: If everything is off, a text is shown as it is.
* `parseInline_respects_switches`: The law of what is switched off.
-/

namespace ChatMarkup.Inline

open ChatMarkup.Span

/-! ### Kinds of spans -/

/-- Whether the kind of the span is switched on. Text and code always are. -/
def Switches.admits (switches : Switches) : Span → Bool
  | .styled emphasis _ => switches.allows emphasis
  | .link _ _ => switches.links
  | .image _ _ => switches.images
  | _ => true

/-- In a label everything is switched on too, and there are no links. -/
theorem row_admits_parseLabel (switches : Switches) (s : Text) :
    Row (fun node => switches.admits node = true) (parseLabel switches s) := by
  refine row_parseBetween (fun emphasis _ hon _ _ _ => ?_) (fun _ _ => rfl)
    (fun token span _ hpiece => ?_) _ _ s
  · cases emphasis <;> exact hon
  · rcases span_of_piece hpiece with ⟨_, _, _, rfl⟩ | ⟨_, _, hon, _⟩ | ⟨l, _, hon, rfl⟩
    · exact List.forall_mem_singleton.mpr rfl
    · exact absurd hon Bool.false_ne_true
    · exact List.forall_mem_singleton.mpr hon

/-- Everything in the tree of a text is switched on. -/
theorem row_admits_parse (switches : Switches) (s : Text) :
    Row (fun node => switches.admits node = true) (parse switches s) := by
  refine row_parseBetween (fun _ _ hon _ _ _ => hon) (fun _ _ => rfl)
    (fun token span _ hpiece => ?_) _ _ s
  rcases span_of_piece hpiece with ⟨_, _, _, rfl⟩ | ⟨l, _, hon, rfl⟩ | ⟨l, _, hon, rfl⟩
  · exact List.forall_mem_singleton.mpr rfl
  · exact List.forall_mem_cons.mpr ⟨hon, (row_admits_parseLabel switches l.label).nodes⟩
  · exact List.forall_mem_singleton.mpr hon

/-! ### Runs that are kept -/

/-- Whether the kind of the run is switched off. A run of one asterisk or
    underscore is italic, and a run of two is bold. A longer one could be either.
    Of tildes only two have a meaning. -/
def Switches.silences (switches : Switches) (run : Run) : Prop :=
  match run.marker with
  | .tilde => switches.strike = false ∨ run.length ≠ 2
  | _ => (run.length = 1 ∧ switches.italic = false) ∨ (run.length = 2 ∧ switches.bold = false) ∨
    (switches.italic = false ∧ switches.bold = false)

theorem allowsSize_of_off {switches : Switches} (hitalic : switches.italic = false)
    (hbold : switches.bold = false) (size : Nat) : switches.allowsSize size = false := by
  unfold Switches.allowsSize
  split
  · rw [hbold, hitalic]
    rfl
  · exact hbold
  · exact hitalic

/-- A run takes no part in the pairing if its kind is off. -/
theorem takesPart_of_silences {switches : Switches} {run : Run} (h : switches.silences run) :
    run.takesPart switches = false := by
  have hsize : run.marker ≠ .tilde → switches.allowsSize (min run.length 3) = false := by
    intro hmarker
    have hoff : (run.length = 1 ∧ switches.italic = false) ∨
        (run.length = 2 ∧ switches.bold = false) ∨
          (switches.italic = false ∧ switches.bold = false) := by
      unfold Switches.silences at h
      split at h
      · next htilde => exact absurd htilde hmarker
      · exact h
    rcases hoff with ⟨hone, hitalic⟩ | ⟨htwo, hbold⟩ | ⟨hitalic, hbold⟩
    · rw [hone]
      exact hitalic
    · rw [htwo]
      exact hbold
    · exact allowsSize_of_off hitalic hbold _
  rw [Run.takesPart]
  cases hmarker : run.marker with
  | tilde =>
      rw [Switches.silences, hmarker] at h
      rcases h with hstrike | hlength
      · simp [hstrike]
      · simp [hlength]
  | _ => simp [hsize (by simp [hmarker])]

/-- What stands between two parts of a text is shown there in full, as a text or
    within one. What is in front of it accounts for what is shown in front of it,
    and what is behind it for what is shown behind. -/
def KeptBetween (front kept behind : Text) (spans : List Span) : Prop :=
  ∃ (before after : List Fragment) (earlier later : List Literal) (left right : List Span),
    leavesAll spans =
      left ++ .text (earlier.map Literal.char ++ kept ++ later.map Literal.char) :: right ∧
    Accounts before left ∧ Accounts after right ∧
    front = before.flatMap Fragment.source ++ earlier.flatMap Literal.source ∧
    behind = later.flatMap Literal.source ++ after.flatMap Fragment.source

/-- Within merged events, the text stands in full in one of them. The events in
    front of it, and the characters right in front of it, are what has become of
    one part of the text, and those behind it of the other. -/
def MergedBetween (front kept behind : Text) (merged : List Event) : Prop :=
  ∃ (before after : List Fragment) (earlier later : List Literal) (left right : List Event),
    merged = left ++
      .text (earlier.map Literal.char ++ kept ++ later.map Literal.char) :: right ∧
    List.Forall₂ Yields before left ∧ List.Forall₂ Yields after right ∧
    front = before.flatMap Fragment.source ++ earlier.flatMap Literal.source ∧
    behind = later.flatMap Literal.source ++ after.flatMap Fragment.source

namespace MergedBetween

variable {kept : Text}

/-- The text in front of merged events takes in the text that they begin with. -/
theorem start (hkept : kept ≠ []) {behind : List Fragment} {merged : List Event}
    (h : List.Forall₂ Yields behind merged) :
    MergedBetween [] kept (behind.flatMap Fragment.source) (pushEvent (.text kept) merged) := by
  have halone (hpush : pushEvent (.text kept) merged = .text kept :: merged) :
      MergedBetween [] kept (behind.flatMap Fragment.source) (pushEvent (.text kept) merged) :=
    ⟨[], behind, [], [], [], merged, by simp [hpush], .nil, h, rfl, rfl⟩
  rcases List.exists_cons_of_ne_nil hkept with ⟨c, s, rfl⟩
  cases h with
  | nil => exact halone rfl
  | cons hyields hrest =>
      cases hyields with
      | text literals =>
          exact ⟨[], _, [], literals, [], _, rfl, .nil, hrest, rfl, by rw [List.flatMap_cons]; rfl⟩
      | _ => exact halone rfl

/-- An event in front leaves the text in full. -/
theorem push {front behind : Text} {merged : List Event}
    (h : MergedBetween front kept behind merged) {fragment : Fragment} {event : Event}
    (hyields : Yields fragment event) :
    MergedBetween (fragment.source ++ front) kept behind (pushEvent event merged) := by
  rcases h with ⟨before, after, earlier, later, left, right, rfl, hleft, hright, rfl, rfl⟩
  let held := earlier.map Literal.char ++ kept ++ later.map Literal.char
  have haway (hpush : pushEvent event (left ++ .text held :: right) =
      pushEvent event left ++ .text held :: right) :
      MergedBetween (fragment.source ++
          (before.flatMap Fragment.source ++ earlier.flatMap Literal.source)) kept
        (later.flatMap Literal.source ++ after.flatMap Fragment.source)
        (pushEvent event (left ++ .text held :: right)) := by
    rcases exists_pushed hyields hleft with ⟨pushed, hpushed, hsource, _⟩
    refine ⟨pushed, after, earlier, later, _, right, hpush, hpushed, hright, ?_, rfl⟩
    rw [hsource, List.flatMap_cons, List.append_assoc]
  cases hyields with
  | text literals =>
      rcases literals with _ | ⟨literal, literals⟩
      · exact haway rfl
      · cases hleft with
        | nil =>
            -- The two texts become one.
            refine ⟨[], after, literal :: literals ++ earlier, later, [], right, ?_, .nil, hright,
              ?_, rfl⟩
            · simp [pushEvent]
            · simp [Fragment.source]
        | cons hnext _ => cases hnext <;> exact haway rfl
  | _ => exact haway rfl

end MergedBetween

/-- A text between events that come from pieces is merged with what is next to
    it. -/
theorem mergedBetween_mergeTexts {kept : Text} (hkept : kept ≠ []) {front behind : List Fragment}
    {xs ys : List Event} (hfront : List.Forall₂ Yields front xs)
    (hbehind : List.Forall₂ Yields behind ys) :
    MergedBetween (front.flatMap Fragment.source) kept (behind.flatMap Fragment.source)
      (mergeTexts (xs ++ .text kept :: ys)) := by
  induction hfront with
  | nil =>
      rcases exists_merged hbehind with ⟨merged, hmerged, hsource, _⟩
      rw [← hsource]
      exact .start hkept hmerged
  | cons hyields _ ih =>
      rw [List.flatMap_cons]
      exact ih.push hyields

/-- What stands in full among merged events stands in full in the tree. -/
theorem MergedBetween.assemble {front kept behind : Text} {merged : List Event}
    (h : MergedBetween front kept behind merged) (hne : ∀ s, .text s ∈ merged → s ≠ [])
    (switches : Switches) :
    KeptBetween front kept behind (Inline.assemble switches merged) := by
  rcases h with ⟨before, after, earlier, later, left, right, rfl, hleft, hright, hfront, hbehind⟩
  refine ⟨before, after, earlier, later, left.flatMap Event.leaves, right.flatMap Event.leaves, ?_,
    accounts_of_yields hleft fun s hs => hne s (List.mem_append_left _ hs),
    accounts_of_yields hright fun s hs =>
      hne s (List.mem_append_right _ (List.mem_cons_of_mem _ hs)), hfront, hbehind⟩
  rw [Inline.assemble, leavesAll_assembleFrom, List.flatMap_append, List.flatMap_cons]
  rfl

/-- A token that becomes the text it was written as is shown where it stands. -/
theorem keptBetween_parse {switches : Switches} {s : Text} {ts us : List Token} {token : Token}
    (htokens : tokens switches.escapes none s none = ts ++ token :: us)
    (hpiece : token.piece switches (parseLabel switches) = .text token.source) :
    KeptBetween (ts.flatMap Token.source) token.source (us.flatMap Token.source)
      (parse switches s) := by
  have hlabel : switches.links = true → ∀ label : Text, ∃ fragments,
      Explains label (parseLabel switches label) fragments ∧
        ∀ fragment ∈ fragments, fragment.isLink = false :=
    fun _ label => exists_explains_parseLabel switches label
  have hread : ∀ token ∈ tokens switches.escapes none s none, token.Read := read_of_mem_tokens
  have hformed : ∀ token ∈ tokens switches.escapes none s none, token.Formed :=
    formed_of_mem_tokens
  rcases parseBetween_eq_assemble switches (parseLabel switches) none none s with
    ⟨runs, groups, hgroups, hparse, _⟩
  rw [htokens] at hgroups hread hformed
  rw [List.forall_mem_append, List.forall_mem_cons] at hread
  -- The events fall into those of the tokens in front, of the token, and of those behind.
  have hfront := List.forall₂_take ts.length hgroups
  have hrest := List.forall₂_drop ts.length hgroups
  rw [List.take_left] at hfront
  rw [List.drop_left] at hrest
  rw [← List.take_append_drop ts.length groups] at hparse
  generalize groups.take ts.length = gs at hfront hparse
  generalize groups.drop ts.length = hs at hrest hparse
  cases hrest with
  | @cons _ group _ others hunfolds hbehind =>
      have hgroup : group = [.text token.source] := by
        cases hunfolds with
        | text _ t h => rw [Piece.text.inj (h.symm.trans hpiece)]
        | span _ t h => exact absurd (h.symm.trans hpiece) Piece.noConfusion
        | run held index htakes settled =>
            exact absurd ((if_pos htakes).symm.trans hpiece) Piece.noConfusion
      rcases exists_fragments hlabel hread.1 hfront with ⟨front, hyields, hsource, _⟩
      rcases exists_fragments hlabel hread.2.2 hbehind with ⟨behind, hyields', hsource', _⟩
      have hmerged := mergedBetween_mergeTexts
        (hformed token (List.mem_append_right _ List.mem_cons_self)).source_ne_nil hyields hyields'
      rw [parse, hparse, List.flatten_append, List.flatten_cons, hgroup, ← hsource, ← hsource']
      exact hmerged.assemble (ne_nil_of_mem_mergeTexts _) switches

/-! ### Everything switched off -/

/-- Emphasis, links and images are all switched off. -/
structure Switches.Silent (switches : Switches) : Prop where
  bold : switches.bold = false
  italic : switches.italic = false
  strike : switches.strike = false
  links : switches.links = false
  images : switches.images = false

theorem Switches.Silent.silences {switches : Switches} (h : switches.Silent) (run : Run) :
    switches.silences run := by
  rw [Switches.silences]
  split
  · exact .inl h.strike
  · exact .inr (.inr ⟨h.italic, h.bold⟩)

/-- The events of the token show it as it was written, and begin no emphasis. -/
structure ShowsWhole (look : Look) (token : Token) (group : List Event) : Prop where
  source : group.flatMap (Event.viewed (renderAll look)) = token.source
  noOpening : ∀ pair, .opening pair ∉ group

theorem showsWhole_of_unfolds {switches : Switches} (h : switches.Silent) (look : Look)
    {label : Text → List Span} {pairs : List Pair} {token : Token} {group : List Event}
    (hescaped : ∀ c, token ≠ .escaped c) (hunfolds : Unfolds switches label pairs token group) :
    ShowsWhole look token group := by
  cases hunfolds with
  | text _ s hpiece =>
      obtain rfl := (text_of_piece hpiece).resolve_right fun ⟨c, heq, _⟩ => hescaped c heq
      refine ⟨?_, fun pair hpair => Event.noConfusion (List.mem_singleton.mp hpair)⟩
      rw [List.flatMap_singleton]
      exact renderAll_singleton look _
  | span _ span hpiece =>
      refine ⟨?_, fun pair hpair => Event.noConfusion (List.mem_singleton.mp hpair)⟩
      rcases span_of_piece hpiece with ⟨_, _, _, rfl⟩ | ⟨_, _, hon, _⟩ | ⟨_, _, hon, _⟩
      · rw [List.flatMap_singleton]
        exact renderAll_singleton look _
      · exact absurd (hon.symm.trans h.links) Bool.noConfusion
      · exact absurd (hon.symm.trans h.images) Bool.noConfusion
  | run held index htakes _ =>
      have hoff := takesPart_of_silences (h.silences held.run)
      exact absurd (htakes.symm.trans hoff) Bool.noConfusion

theorem flatMap_viewed_of_showsWhole {look : Look} {ts : List Token} {groups : List (List Event)}
    (h : List.Forall₂ (ShowsWhole look) ts groups) :
    groups.flatten.flatMap (Event.viewed (renderAll look)) = ts.flatMap Token.source := by
  induction h with
  | nil => rfl
  | cons hshows _ ih =>
      rw [List.flatten_cons, List.flatMap_append, List.flatMap_cons, hshows.source, ih]

/-- If everything is switched off, a text without backslashes is shown as it is. -/
theorem renderAll_parse_silent {switches : Switches} (h : switches.Silent) (look : Look) {s : Text}
    (hs : '\\' ∉ s) : renderAll look (parse switches s) = s := by
  rcases parseBetween_eq_assemble switches (parseLabel switches) none none s with
    ⟨runs, groups, hgroups, hparse, _⟩
  have hsource := flatMap_source_tokens switches.escapes none s none
  have hescaped : ∀ token ∈ tokens switches.escapes none s none, ∀ c, token ≠ .escaped c := by
    rintro token htoken c rfl
    refine hs ?_
    rw [← hsource]
    exact List.mem_flatMap.mpr ⟨_, htoken, List.mem_cons_self⟩
  have hshows : List.Forall₂ (ShowsWhole look) (tokens switches.escapes none s none) groups :=
    ((List.forall₂_and_left _ _).mpr ⟨hescaped, hgroups⟩).imp
      fun _ _ hboth => showsWhole_of_unfolds h look hboth.1 hboth.2
  -- No emphasis is begun, so there is none that a reader could see.
  have hflat : FlatView switches (fun _ => False) (renderAll look) :=
    ⟨renderAll_append look, fun _ _ hfalse => hfalse.elim⟩
  have hnone : ∀ pair, .opening pair ∈ mergeTexts groups.flatten → False := by
    intro pair hpair
    have hmem := mem_of_mem_mergeTexts hpair fun _ => Event.noConfusion
    rcases exists_token_of_mem hshows hmem with ⟨token, group, _, hgroup, hopening⟩
    exact hgroup.noOpening pair hopening
  rw [parse, hparse, hflat.assemble hnone, flatMap_viewed_mergeTexts,
    flatMap_viewed_of_showsWhole hshows, hsource]

end ChatMarkup.Inline

namespace ChatMarkup

open Inline

/-- What is switched off is respected. At no depth of the tree of a text is there
    anything whose kind is off. A run of markers whose kind is off is shown in
    full, as text, between what comes of the text in front of it and what comes of
    the text behind. With emphasis, links and images all off, a text without
    backslashes is written as it is. -/
theorem parseInline_respects_switches (config : Config) (s : Text) :
    (∀ node ∈ Span.nodesAll (parseInline config s), config.inlineSwitches.admits node = true) ∧
      (∀ ts run us, tokens true none s none = ts ++ .run run :: us →
        config.inlineSwitches.silences run →
          KeptBetween (ts.flatMap Token.source) run.source (us.flatMap Token.source)
            (parseInline config s)) ∧
      (config.inlineSwitches.Silent → '\\' ∉ s → convertInline config s = s) := by
  refine ⟨(row_admits_parse config.inlineSwitches s).nodes, ?_, ?_⟩
  · intro ts run us htokens hsilences
    have hpiece : (Token.run run).piece config.inlineSwitches
        (parseLabel config.inlineSwitches) = .text (Token.run run).source :=
      if_neg (Bool.eq_false_iff.mp (takesPart_of_silences hsilences))
    have htokens : tokens config.inlineSwitches.escapes none s none = ts ++ .run run :: us :=
      htokens
    exact keptBetween_parse htokens hpiece
  · exact fun hsilent hs => renderAll_parse_silent hsilent config.look hs

/-- Between runs that are paired, one that is too short is kept. -/
theorem parseInline_respects_switches_between_stars :
    let config : Config := { convert := { italic := false } }
    let run : Run := ⟨.underscore, 1, true, false⟩
    tokens true none "**a _b**".toList none =
        [.run ⟨.asterisk, 2, true, false⟩, .char 'a', .char ' '] ++
          .run run :: [.char 'b', .run ⟨.asterisk, 2, false, true⟩] ∧
      config.inlineSwitches.silences run ∧
      KeptBetween "**a ".toList ['_'] "b**".toList (parseInline config "**a _b**".toList) ∧
      let off : Config.Conversions :=
        { bold := false, italic := false, strikethrough := false, links := false, images := false }
      let silent : Config := { convert := off }
      silent.inlineSwitches.Silent ∧ convertInline silent "**a** [b](c)".toList =
        "**a** [b](c)".toList := by
  intro config run
  have htokens : tokens true none "**a _b**".toList none =
      [.run ⟨.asterisk, 2, true, false⟩, .char 'a', .char ' '] ++
        .run run :: [.char 'b', .run ⟨.asterisk, 2, false, true⟩] := by decide +kernel
  have hsilences : config.inlineSwitches.silences run := .inl ⟨rfl, rfl⟩
  refine ⟨htokens, hsilences, ?_, ⟨rfl, rfl, rfl, rfl, rfl⟩, ?_⟩
  · exact (parseInline_respects_switches config _).2.1 _ _ _ htokens hsilences
  · exact (parseInline_respects_switches _ _).2.2 ⟨rfl, rfl, rfl, rfl, rfl⟩ (by decide)

end ChatMarkup
