import ChatMarkup.Proofs.Conservation
import ChatMarkup.Proofs.Contents
import ChatMarkup.Proofs.FencedCode

/-!
# Tables as Code

A table that is shown as code is safe there, and says what it said.

The rows of a table are read as inline markup, although they are going to stand
in code. Under the switches for cells, all that can come of it is bold and
italic text between asterisks, and the look of code leaves the marks out. So
what is shown of a row is the row without the asterisks that found a partner,
and those are even in number. Every other token of the row is shown as it was
written, be it a link, a span of code, or a backslash with whatever follows
it.

A row stands between two bars, and bars are never dropped. So no row closes the
fence around the table, and what is written for the table is fenced code that is
closed, with the rows in it.

## Main definitions

* `Keeps`: What is left of a token.
* `StarsDropped`: A row without some of its asterisks, an even number of them.
* `Config.codeRow`: What is shown of a row in code.
* `FencedCode.ofRows`: Rows between fences.

## Theorems

* `flatView_renderAll`: A look without marks does not see bold and italic.
* `shows_of_unfolds`: The events of a token show what is left of it.
* `starsDropped_codeRow`: What is shown of a row.
* `ofText_render_table`: The law of tables in code.
-/

namespace ChatMarkup

/-! ### Looks without marks -/

namespace Span

/-- What has no mark does not show, also where it merges with its content. -/
theorem render_style {look : Look} {emphasis : Emphasis} (h : look.mark emphasis = [])
    (content : List Span) : (style emphasis content).render look = renderAll look content := by
  have hstyled : (styled emphasis content).render look = renderAll look content := by
    rw [render, h, List.nil_append, List.append_nil]
  rw [style.eq_def]
  split
  · next inner inside =>
      split
      · exact (renderAll_singleton look _).symm
      · exact hstyled
  · exact hstyled

end Span

namespace Inline

open ChatMarkup.Span

theorem render_wrap {look : Look} (h : look.marked = false) (switches : Switches) {pair : Pair}
    (htilde : pair.marker ≠ .tilde) (content : List Span) :
    (pair.wrap switches content).render look = renderAll look content := by
  have hbold : look.mark .bold = [] := by rw [Look.mark, h]; rfl
  have hitalic : look.mark .italic = [] := by rw [Look.mark, h]; rfl
  rcases pair.wrap_cases switches content with ⟨emphasis, hstrike, heq⟩ | heq
  · rw [heq]
    cases emphasis with
    | bold => exact render_style hbold content
    | italic => exact render_style hitalic content
    | strike => exact absurd (hstrike rfl) htilde
  · rw [heq, render_style hbold, renderAll_singleton, render_style hitalic]

/-- A look without marks does not see what is bold or italic. -/
theorem flatView_renderAll {look : Look} (h : look.marked = false) (switches : Switches) :
    FlatView switches (fun pair => pair.marker ≠ .tilde) (renderAll look) where
  append := renderAll_append look
  wrap pair content htilde := by rw [renderAll_singleton, render_wrap h switches htilde]

theorem flatMap_viewed_pushEvent (look : Look) (event : Event) (rest : List Event) :
    (pushEvent event rest).flatMap (Event.viewed (renderAll look)) =
      (event :: rest).flatMap (Event.viewed (renderAll look)) := by
  unfold pushEvent
  split
  · rw [List.flatMap_cons, Event.viewed, renderAll_singleton, render, List.nil_append]
  · simp only [List.flatMap_cons, Event.viewed, renderAll_singleton, render, List.append_assoc]
  · rfl

/-- Merging texts does not change what is shown. -/
theorem flatMap_viewed_mergeTexts (look : Look) (events : List Event) :
    (mergeTexts events).flatMap (Event.viewed (renderAll look)) =
      events.flatMap (Event.viewed (renderAll look)) := by
  induction events with
  | nil => rfl
  | cons event events ih =>
      rw [mergeTexts, List.foldr_cons, ← mergeTexts, flatMap_viewed_pushEvent, List.flatMap_cons,
        List.flatMap_cons, ih]

/-! ### What is left of a row -/

/-- The text is what is left of the token: all of it, or, of a run of asterisks,
    some. -/
inductive Keeps : Token → Text → Prop
  /-- The token as it was written. -/
  | whole (token : Token) : Keeps token token.source
  /-- Some of the asterisks. -/
  | part (run : Run) (count : Nat) : run.marker = .asterisk → count ≤ run.length →
    Keeps (.run run) (List.replicate count '*')

/-- The text is the row without some of its asterisks. -/
structure StarsDropped (row shown : Text) : Prop where
  /-- Nothing is added, and nothing changes places. -/
  sublist : shown.Sublist row
  /-- Nothing but asterisks is dropped. -/
  others : shown.filter (fun c => c != '*') = row.filter fun c => c != '*'
  /-- Asterisks are dropped by twos. -/
  even : Even (row.length - shown.length)
  /-- Tokens other than runs of asterisks are kept as they were written. -/
  tokens : ∃ kept, List.Forall₂ Keeps (tokens false none row none) kept ∧ shown = kept.flatten

theorem Keeps.sublist {token : Token} {kept : Text} (h : Keeps token kept) :
    kept.Sublist token.source := by
  cases h with
  | whole => exact List.Sublist.refl _
  | part run count hmarker hle =>
      rw [Token.source, Run.source, hmarker]
      exact List.replicate_sublist_replicate _ |>.mpr hle

theorem Keeps.filter {token : Token} {kept : Text} (h : Keeps token kept) :
    kept.filter (fun c => c != '*') = token.source.filter fun c => c != '*' := by
  cases h with
  | whole => rfl
  | part run count hmarker hle =>
      rw [Token.source, Run.source, hmarker]
      simp [Marker.char]

theorem nextToken_ne_escaped (before after : Option Char) (c : Char) (rest : Text) (d : Char) :
    (nextToken false before after c rest).1 ≠ .escaped d := by
  unfold nextToken
  repeat' split
  all_goals simp_all

/-- Without escapes, no character is escaped. -/
theorem ne_escaped_of_mem_tokens (before : Option Char) (s : Text) (after : Option Char) :
    ∀ token ∈ tokens false before s after, ∀ c, token ≠ .escaped c :=
  forall_mem_tokens (fun before c rest => nextToken_ne_escaped before after c rest) before s

/-- In cells, only runs of asterisks take part in the pairing. -/
theorem marker_of_takesPart {run : Run} (h : run.takesPart .emphasisOnly = true) :
    run.marker = .asterisk := by
  cases hmarker : run.marker with
  | asterisk => rfl
  | underscore => exact absurd h (by simp [Run.takesPart, hmarker, Switches.emphasisOnly])
  | tilde => exact absurd h (by simp [Run.takesPart, hmarker, Switches.emphasisOnly])

/-- In cells, the only span is code. -/
theorem piece_span_emphasisOnly {label : Text → List Span} {token : Token} {span : Span}
    (h : token.piece .emphasisOnly label = .span span) : span = .code token.source := by
  rcases span_of_piece h with ⟨_, _, _, hcode⟩ | ⟨_, _, hon, _⟩ | ⟨_, _, hon, _⟩
  · exact hcode
  · exact absurd hon Bool.false_ne_true
  · exact absurd hon Bool.false_ne_true

/-- The markers that the events of a settled run drop are those that its pairs
    have taken. -/
theorem drops_events {pairs : List Pair} {index : Nat} {held : Held}
    (settled : Settled pairs index held) :
    ((held.events index pairs).map (Event.drops held.run.marker)).sum = usedAt pairs index := by
  have hclosed : ∀ pair ∈ pairs.filter (fun pair => pair.closer == index),
      (Event.closing pair).drops held.run.marker = pair.size := by
    intro pair hpair
    rw [List.mem_filter, beq_iff_eq] at hpair
    rw [Event.drops, if_pos (settled.marker pair hpair.1 (.inr hpair.2))]
  have hopened : ∀ pair ∈ (pairs.filter fun pair => pair.opener == index).reverse,
      (Event.opening pair).drops held.run.marker = pair.size := by
    intro pair hpair
    rw [List.mem_reverse, List.mem_filter, beq_iff_eq] at hpair
    rw [Event.drops, if_pos (settled.marker pair hpair.1 (.inl hpair.2))]
  rw [Held.events, List.map_append, List.map_cons, List.map_map, List.map_map,
    List.map_congr_left (f := Event.drops held.run.marker ∘ Event.closing) hclosed,
    List.map_congr_left (f := Event.drops held.run.marker ∘ Event.opening) hopened,
    List.sum_append, List.sum_cons, Event.drops, List.map_reverse, List.sum_reverse, usedAt]
  omega

/-- What the events of a settled run show is the markers that are left. -/
theorem viewed_events (look : Look) (held : Held) (index : Nat) (pairs : List Pair) :
    (held.events index pairs).flatMap (Event.viewed (Span.renderAll look)) =
      List.replicate held.remaining held.run.marker.char := by
  have hclosed : ((pairs.filter fun pair => pair.closer == index).map Event.closing).flatMap
      (Event.viewed (Span.renderAll look)) = [] := by
    rw [List.flatMap_map]
    exact List.flatMap_eq_nil_iff.mpr fun _ _ => rfl
  have hopened : ((pairs.filter fun pair => pair.opener == index).reverse.map
      Event.opening).flatMap (Event.viewed (Span.renderAll look)) = [] := by
    rw [List.flatMap_map]
    exact List.flatMap_eq_nil_iff.mpr fun _ _ => rfl
  rw [Held.events, List.flatMap_append, List.flatMap_cons, hclosed, hopened, Event.viewed,
    renderAll_singleton, render, List.nil_append, List.append_nil]

/-- What the events of a token in a cell show is what is left of the token, and
    what is not left they drop. -/
structure Shows (look : Look) (token : Token) (group : List Event) : Prop where
  keeps : Keeps token (group.flatMap (Event.viewed (renderAll look)))
  balance : (group.flatMap (Event.viewed (renderAll look))).length +
    (group.map (Event.drops .asterisk)).sum = token.source.length
  noTilde : ∀ pair, .opening pair ∈ group → pair.marker ≠ .tilde

/-- An event that shows the token as it was written drops nothing of it. -/
theorem shows_whole {look : Look} {token : Token} {event : Event}
    (hview : event.viewed (renderAll look) = token.source) (hdrops : event.drops .asterisk = 0)
    (hopening : ∀ pair, event ≠ .opening pair) : Shows look token [event] where
  keeps := by
    rw [List.flatMap_singleton, hview]
    exact .whole token
  balance := by rw [List.flatMap_singleton, hview, List.map_singleton, List.sum_singleton, hdrops,
    Nat.add_zero]
  noTilde pair hpair := absurd (List.mem_singleton.mp hpair).symm (hopening pair)

theorem shows_of_unfolds (look : Look) {label : Text → List Span} {pairs : List Pair}
    {token : Token} {group : List Event} (hescaped : ∀ c, token ≠ .escaped c)
    (h : Unfolds .emphasisOnly label pairs token group) : Shows look token group := by
  cases h with
  | text _ s hpiece =>
      obtain rfl := (text_of_piece hpiece).resolve_right fun ⟨c, heq, _⟩ => hescaped c heq
      exact shows_whole (renderAll_singleton look _) rfl fun _ => Event.noConfusion
  | span _ span hpiece =>
      obtain rfl := piece_span_emphasisOnly hpiece
      exact shows_whole (renderAll_singleton look _) rfl fun _ => Event.noConfusion
  | run held index htakes settled =>
      have hmarker := marker_of_takesPart htakes
      have hdrops := drops_events settled
      rw [hmarker] at hdrops
      refine ⟨?_, ?_, fun pair hpair => ?_⟩
      · rw [viewed_events, hmarker]
        exact .part held.run held.remaining hmarker (by rw [settled.balance]; omega)
      · rw [viewed_events, hdrops, List.length_replicate, Token.source, Run.source,
          List.length_replicate, settled.balance]
      · -- What the run opens is a pair of its own.
        have hown := opening_mem_events.mp hpair
        rw [settled.marker pair hown.1 (.inl hown.2), hmarker]
        exact Marker.noConfusion

/-- The drops of a text, token by token, make up for what is not shown. -/
theorem length_of_shows {look : Look} {ts : List Token} {groups : List (List Event)}
    (h : List.Forall₂ (Shows look) ts groups) :
    (groups.flatten.flatMap (Event.viewed (renderAll look))).length +
        (groups.flatten.map (Event.drops .asterisk)).sum =
      (ts.flatMap Token.source).length := by
  induction h with
  | nil => rfl
  | cons hshows _ ih =>
      have hbalance := hshows.balance
      simp only [List.flatten_cons, List.flatMap_append, List.map_append, List.sum_append,
        List.flatMap_cons, List.length_append] at ih ⊢
      omega

theorem noTilde_of_shows {look : Look} {ts : List Token} {groups : List (List Event)}
    (h : List.Forall₂ (Shows look) ts groups) :
    ∀ pair, .opening pair ∈ groups.flatten → pair.marker ≠ .tilde := by
  intro pair hpair
  rcases exists_token_of_mem h hpair with ⟨token, group, _, hshows, hmem⟩
  exact hshows.noTilde pair hmem

theorem sublist_of_keeps {ts : List Token} {kept : List Text} (h : List.Forall₂ Keeps ts kept) :
    kept.flatten.Sublist (ts.flatMap Token.source) := by
  induction h with
  | nil => exact List.Sublist.refl _
  | cons hkeeps _ ih => exact hkeeps.sublist.append ih

theorem filter_of_keeps {ts : List Token} {kept : List Text} (h : List.Forall₂ Keeps ts kept) :
    kept.flatten.filter (fun c => c != '*') =
      (ts.flatMap Token.source).filter fun c => c != '*' := by
  induction h with
  | nil => rfl
  | cons hkeeps _ ih =>
      rw [List.flatten_cons, List.flatMap_cons, List.filter_append, List.filter_append,
        hkeeps.filter, ih]

/-- Read as a cell and shown without marks, a row loses some of its asterisks,
    and nothing else. -/
theorem starsDropped_parse {look : Look} (hlook : look.marked = false) (row : Text) :
    StarsDropped row (renderAll look (parse .emphasisOnly row)) := by
  rcases parseBetween_eq_assemble .emphasisOnly (parseLabel .emphasisOnly) none none row with
    ⟨runs, groups, hgroups, hparse, hopen⟩
  have hshows : List.Forall₂ (Shows look) (tokens false none row none) groups :=
    ((List.forall₂_and_left _ _).mpr ⟨ne_escaped_of_mem_tokens none row none, hgroups⟩).imp
      fun _ _ h => shows_of_unfolds look h.1 h.2
  have hkeeps : List.Forall₂ Keeps (tokens false none row none)
      (groups.map fun group => group.flatMap (Event.viewed (renderAll look))) :=
    List.forall₂_map_right_iff.mpr (hshows.imp fun _ _ h => h.keeps)
  have hview : renderAll look (parse .emphasisOnly row) =
      groups.flatten.flatMap (Event.viewed (renderAll look)) := by
    rw [parse, hparse, (flatView_renderAll hlook _).assemble fun pair hpair =>
      noTilde_of_shows hshows pair (mem_of_mem_mergeTexts hpair fun _ => Event.noConfusion),
      flatMap_viewed_mergeTexts]
  have hkept : groups.flatten.flatMap (Event.viewed (renderAll look)) =
      (groups.map fun group => group.flatMap (Event.viewed (renderAll look))).flatten := by
    rw [← List.flatMap_id', List.flatMap_assoc, List.flatMap_def]
  have hsource : (tokens false none row none).flatMap Token.source = row :=
    flatMap_source_tokens _ _ _ _
  refine ⟨?_, ?_, ?_, _, hkeeps, hview.trans hkept⟩
  · have hsublist := sublist_of_keeps hkeeps
    rwa [hsource, ← hkept, ← hview] at hsublist
  · have hfilter := filter_of_keeps hkeeps
    rwa [hsource, ← hkept, ← hview] at hfilter
  · -- What is dropped goes in pairs, for every pair that is opened is closed.
    have hlength := length_of_shows hshows
    rw [hsource, ← hview] at hlength
    have heven := even_weight_openAfter .asterisk hopen
    have hweight : weight .asterisk [] = 0 := rfl
    rw [hweight] at heven
    rwa [← hlength, Nat.add_sub_cancel_left]

namespace StarsDropped

variable {row shown : Text}

theorem mem_of_mem (h : StarsDropped row shown) {c : Char} (hc : c ≠ '*') (hmem : c ∈ row) :
    c ∈ shown := by
  have hfilter : c ∈ shown.filter fun c => c != '*' := by
    rw [h.others]
    exact List.mem_filter.mpr ⟨hmem, bne_iff_ne.mpr hc⟩
  exact (List.mem_filter.mp hfilter).1

/-- Of any other character there are as many as before. -/
theorem count_eq (h : StarsDropped row shown) {c : Char} (hc : c ≠ '*') :
    shown.count c = row.count c := by
  have hcount : ∀ s : Text, (s.filter fun c => c != '*').count c = s.count c :=
    fun _ => List.count_filter (bne_iff_ne.mpr hc)
  rw [← hcount shown, h.others, hcount]

end StarsDropped

end Inline

/-! ### Rows as code -/

open Inline (StarsDropped)

/-- What is shown of a row of a table in code. -/
def Config.codeRow (config : Config) (row : Text) : Text :=
  Span.renderAll config.plainLook (Inline.parse .emphasisOnly row)

theorem starsDropped_codeRow (config : Config) (row : Text) :
    StarsDropped row (config.codeRow row) :=
  Inline.starsDropped_parse rfl row

/-- A row begins with a bar. -/
theorem Table.bar_mem {row : Text} (h : Table.isRow row = true) : '|' ∈ row := by
  simp only [Table.isRow, Bool.and_eq_true, beq_iff_eq] at h
  exact (Text.trim_sublist row).subset (List.mem_of_head? h.1.2)

/-- A line with a bar in it closes no fence. -/
theorem Fence.closedBy_of_bar {fence : Fence} (hfence : fence.char ≠ '|') {line : Text}
    (h : '|' ∈ line) : fence.closedBy line = false := by
  have hmem : '|' ∈ Text.trim line := Text.mem_trim (by decide) h
  have hother : (Text.trim line).all (· == fence.char) = false :=
    List.all_eq_false.mpr ⟨'|', hmem, fun heq => hfence (beq_iff_eq.mp heq).symm⟩
  simp only [Fence.closedBy, hother, Bool.false_and]

namespace FencedCode

/-- Rows between fences. -/
def ofRows (rows : List Text) (hbar : ∀ row ∈ rows, '|' ∈ row)
    (hfeed : ∀ row ∈ rows, '\n' ∉ row) (hreturn : ∀ row ∈ rows, '\r' ∉ row) : FencedCode where
  first := codeFence
  body := rows
  last := codeFence
  fence := ⟨'\x60', 3, none⟩
  opens := by decide
  goesOn row hrow := Fence.closedBy_of_bar (by decide) (hbar row hrow)
  closes := by decide
  noFeed := List.forall_mem_cons.mpr ⟨by decide,
    List.forall_mem_append.mpr ⟨hfeed, List.forall_mem_singleton.mpr (by decide)⟩⟩
  noReturn := List.forall_mem_cons.mpr ⟨by decide,
    List.forall_mem_append.mpr ⟨hreturn, List.forall_mem_singleton.mpr (by decide)⟩⟩

theorem source_ofRows {rows : List Text} (hne : rows ≠ []) (hbar : ∀ row ∈ rows, '|' ∈ row)
    (hfeed : ∀ row ∈ rows, '\n' ∉ row) (hreturn : ∀ row ∈ rows, '\r' ∉ row) :
    (ofRows rows hbar hfeed hreturn).source =
      endLine codeFence ++ endLine (Text.joinWith '\n' rows) ++ endLine codeFence := by
  rw [← flatMap_endLine_eq hne, List.append_assoc, source, lines, List.flatMap_cons,
    List.flatMap_append, List.flatMap_singleton]
  rfl

end FencedCode

/-- The end of a line does not make a row of it, or keep it from being one. -/
theorem Table.isRow_stripEnd (line : Text) :
    Table.isRow (Text.stripEnd line) = Table.isRow line := by
  rw [isRow, isRow, Text.trim_stripEnd]

/-- A table says its rows, which have bars in them and no line feeds. -/
theorem Block.Cut.rows {block : Block} {line : Text} {next : Option Text} {more : List Text}
    (h : block.Cut line next more) (hkind : block.kind = .table) {rows : List Text}
    (hrows : (Text.lines block.source).map Text.stripEnd = rows) :
    rows ≠ [] ∧ block.content = Text.joinWith '\n' rows ∧ (∀ row ∈ rows, '|' ∈ row) ∧
      ∀ row ∈ rows, '\n' ∉ row := by
  rcases h.table hkind with ⟨hcontent, hisRow⟩
  subst hrows
  refine ⟨?_, hcontent, ?_, ?_⟩
  · rw [h.lines, List.map_cons]
    exact List.cons_ne_nil _ _
  · exact List.forall_mem_map.mpr fun row hrow =>
      Table.bar_mem ((Table.isRow_stripEnd row).trans (hisRow row hrow))
  · exact List.forall_mem_map.mpr (Text.areLines_lines block.source).not_mem_stripEnd

/-- The rows of a table, as they are shown in code. -/
theorem render_tableAsCode {config : Config} (hcode : config.tablesAsCode = true) {block : Block}
    (hkind : block.kind = .table) {rows : List Text} (hne : rows ≠ [])
    (hfeed : ∀ row ∈ rows, '\n' ∉ row) (hcontent : block.content = Text.joinWith '\n' rows)
    (numbering : Numbering) :
    (block.read config).render config numbering =
      endLine codeFence ++ endLine (Text.joinWith '\n' (rows.map config.codeRow)) ++
        endLine codeFence := by
  have hspans : (block.read config).spans = rowSpans .emphasisOnly rows := by
    rw [Block.read, Block.spans, hkind]
    simp only [tableSpans, hcontent, Text.splitOn_joinWith hne hfeed, Config.cellSwitches, hcode,
      if_true]
  have htable : (block.read config).kind = .table := hkind
  rw [RichBlock.render, htable]
  simp only [hcode, if_true, hspans, renderAll_rowSpans]
  rfl

/-- Tables in code are safe and say what they said. Let a block of a text without
    carriage returns be a table, and let it be shown as code. Then what is
    written for it is, read again, fenced code that is closed and has no words
    behind the fence, with or without the end of its last line. Its content has
    as many lines as the table has rows. Each is the row without some of its
    asterisks, an even number of them, and there are as many bars in it as in the
    row. -/
theorem ofText_render_table {config : Config} (htables : config.convert.tables = true)
    (hmode : config.tables.mode = .codeBlock) {markdown : Text} (hreturn : '\r' ∉ markdown)
    {block : Block} (hmem : block ∈ (Document.ofText markdown).blocks)
    (hkind : block.kind = .table) (numbering : Numbering) :
    let rows := (Text.lines block.source).map Text.stripEnd
    let content := Text.joinWith '\n' (rows.map config.codeRow)
    let text := (block.read config).render config numbering
    (∀ written ∈ [text, Text.dropLastIf '\n' text],
        (Document.ofText written).blocks = [⟨.fence none true, written, content, 0⟩]) ∧
      Text.splitOn '\n' content = rows.map config.codeRow ∧
      ∀ row ∈ rows, StarsDropped row (config.codeRow row) ∧
        (config.codeRow row).count '|' = row.count '|' := by
  intro rows content text
  have hcode : config.tablesAsCode = true := by
    rw [Config.tablesAsCode, htables, hmode]
    rfl
  have hdropped : ∀ row, StarsDropped row (config.codeRow row) := starsDropped_codeRow config
  rcases exists_cut hmem with ⟨line, next, more, hcut⟩
  rcases hcut.rows hkind (show _ = rows from rfl) with ⟨hne, hcontent, hbar, hfeed⟩
  have hnoReturn : ∀ row ∈ rows, '\r' ∉ row := by
    refine List.forall_mem_map.mpr fun row hrow hr => ?_
    exact Text.not_mem_of_mem_lines (fun hr => hreturn (source_subset hmem hr)) hrow
      ((Text.stripEnd_sublist row).subset hr)
  -- What is shown of a row has the same bars, and no line ends either.
  let code := FencedCode.ofRows (rows.map config.codeRow)
    (List.forall_mem_map.mpr fun row hrow => (hdropped row).mem_of_mem (by decide) (hbar row hrow))
    (List.forall_mem_map.mpr fun row hrow hmem => hfeed row hrow ((hdropped row).sublist.subset hmem))
    (List.forall_mem_map.mpr fun row hrow hmem =>
      hnoReturn row hrow ((hdropped row).sublist.subset hmem))
  have hshown : rows.map config.codeRow ≠ [] := mt List.map_eq_nil_iff.mp hne
  have htext : text = code.source :=
    (render_tableAsCode hcode hkind hne hfeed hcontent numbering).trans
      (FencedCode.source_ofRows hshown _ _ _).symm
  refine ⟨?_, ?_, fun row _ => ⟨hdropped row, (hdropped row).count_eq (by decide)⟩⟩
  · rw [htext]
    exact List.forall_mem_cons.mpr ⟨code.ofText_source,
      List.forall_mem_singleton.mpr (code.ofText_unended (List.cons_ne_nil _ _))⟩
  · exact Text.splitOn_joinWith hshown fun row hrow => code.noFeed row
      (List.mem_cons_of_mem _ (List.mem_append_left _ hrow))

/-- Stars in a link or in code stay where they are, and so do those that find no
    partner. -/
theorem ofText_render_table_stars_everywhere :
    let source := "| *b* | [*c*](d) |\n|:--|--:|\n| ***e* | `*f*` ``` \\_~~g~~ |".toList
    let block : Block := ⟨.table, source, source, 0⟩
    let text := (block.read {}).render {} .start
    let rows := ["| *b* | [*c*](d) |".toList, "|:--|--:|".toList,
      "| ***e* | `*f*` ``` \\_~~g~~ |".toList]
    let shown := ["| b | [*c*](d) |".toList, "|:--|--:|".toList,
      "| **e | `*f*` ``` \\_~~g~~ |".toList]
    block ∈ (Document.ofText ("a\n\n".toList ++ source)).blocks ∧
      rows.map (Config.codeRow {}) = shown ∧
      (∀ written ∈ [text, Text.dropLastIf '\n' text],
        (Document.ofText written).blocks =
          [⟨.fence none true, written, Text.joinWith '\n' shown, 0⟩]) ∧
      ∀ row ∈ rows, StarsDropped row (Config.codeRow {} row) := by
  intro source block text rows shown
  have hmem : block ∈ (Document.ofText ("a\n\n".toList ++ source)).blocks := by decide +kernel
  have hrows : (Text.lines source).map Text.stripEnd = rows := by decide +kernel
  have hshown : rows.map (Config.codeRow {}) = shown := by decide +kernel
  rcases ofText_render_table (show ({} : Config).convert.tables = true from rfl) rfl
    (by decide) hmem rfl .start with ⟨hblocks, _, hdropped⟩
  rw [hrows, hshown] at hblocks
  rw [hrows] at hdropped
  exact ⟨hmem, hshown, hblocks, fun row hrow => (hdropped row hrow).1⟩

end ChatMarkup
