import ChatMarkup.Proofs.Conservation
import ChatMarkup.Proofs.Contents
import ChatMarkup.Proofs.Cutting
import ChatMarkup.Proofs.Drafts
import ChatMarkup.Proofs.Rendering

/-!
# Lines Are Kept

A message has the lines of its text.

A block says one line for each of its own, and what is shown of a text has the
line feeds of the text. Emphasis comes off around line feeds, not with them, and
a backslash in front of one is no escape. Only links could lose lines, since of
a link the address may be all that is kept, and links need a bracket. So in a
text without brackets every block is written on as many lines as it was read
from. A table that is shown as code has two more, for its fences.

What is added to the lines, such as bullets and the markers of headings, must
not have line feeds of its own. `Config.OneLine` asks for that.

Lines are counted by their line feeds. The message lacks the end of its last
line, so its lines are the pieces between the line feeds that it has.

## Main definitions

* `Config.OneLine`: The texts of a configuration stand on one line each.
* `Config.fenceLines`: The lines that are added to a block.
* `renderEach`: What is written for each block.
* `Document.Shows`: The blocks that are shown.

## Theorems

* `count_feed_parse`: What is shown of a text has as many line feeds.
* `Block.Cut.count_feed_render`: A block is written on as many lines as it has.
* `Document.exists_shows`: Which blocks are shown.
* `convert_keeps_lines`: The law, for the blocks and for the message.
-/

namespace ChatMarkup

namespace Text

/-- A line that is shown as code is shown without its line feed. -/
theorem AreLines.not_mem_codeLine {lines : List Text} (h : AreLines lines) :
    ∀ line ∈ lines, '\n' ∉ codeLine line := by
  intro line hline
  rw [codeLine]
  split
  · exact h.not_mem_stripEnd line hline
  · next hlast =>
      -- A line without its end in the last place has none anywhere.
      induction h with
      | nil => exact absurd hline List.not_mem_nil
      | last other _ hfeed => exact List.mem_singleton.mp hline ▸ hfeed
      | cons body more _ _ ih =>
          rcases List.mem_cons.mp hline with rfl | hmore
          · exact absurd List.getLast?_concat hlast
          · exact ih hmore

end Text

/-! ### Line feeds in inline markup -/

namespace Inline

open ChatMarkup.Span

theorem feed_not_mem_mark (look : Look) (emphasis : Emphasis) : '\n' ∉ look.mark emphasis := by
  cases emphasis with
  | bold =>
      rw [Look.mark]
      split <;> decide
  | italic =>
      rw [Look.mark]
      split <;> decide
  | strike =>
      rw [Look.mark]
      decide

mutual

/-- The marks of emphasis are no line feeds. -/
theorem count_feed_leaves (look : Look) :
    ∀ span : Span, (renderAll look span.leaves).count '\n' = (span.render look).count '\n'
  | .styled emphasis content => by
      rw [leaves, render, List.count_append, List.count_append,
        List.count_eq_zero.mpr (feed_not_mem_mark look emphasis), Nat.zero_add, Nat.add_zero,
        count_feed_leavesAll look content]
  | .text s => by rw [leaves, renderAll_singleton]
  | .code s => by rw [leaves, renderAll_singleton]
  | .link url content => by rw [leaves, renderAll_singleton]
  | .image url description => by rw [leaves, renderAll_singleton]
  | .lineBreak => by rw [leaves, renderAll_singleton]

theorem count_feed_leavesAll (look : Look) :
    ∀ spans : List Span,
      (renderAll look (leavesAll spans)).count '\n' = (renderAll look spans).count '\n'
  | [] => rfl
  | span :: spans => by
      rw [leavesAll, renderAll_append, renderAll, List.count_append, List.count_append,
        count_feed_leaves look span, count_feed_leavesAll look spans]

end

/-- Only punctuation stands behind a backslash that is dropped. -/
theorem count_feed_literals (literals : List Literal) :
    (literals.map Literal.char).count '\n' = (literals.flatMap Literal.source).count '\n' := by
  induction literals with
  | nil => rfl
  | cons literal literals ih =>
      rw [List.map_cons, List.flatMap_cons, List.count_cons, List.count_append, ih]
      cases literal with
      | verbatim c => rw [Literal.char, Literal.source, List.count_singleton, Nat.add_comm]
      | escaped c hc =>
          have hfeed : c ≠ '\n' := fun heq => absurd (heq ▸ hc) (by decide)
          rw [Literal.char, Literal.source, if_neg (mt beq_iff_eq.mp hfeed)]
          have hnone : List.count '\n' ['\\', c] = 0 := by
            rw [List.count_eq_zero, List.mem_pair]
            rintro (heq | heq)
            · exact absurd heq (by decide)
            · exact hfeed heq.symm
          rw [hnone, Nat.add_comm]

/-- Without a bracket, the only leaf that is not text is code. -/
theorem eq_code_of_makes {fragment : Fragment} {leaf : Span} (h : Makes fragment leaf)
    (hbracket : '[' ∉ fragment.source) : leaf = .code fragment.source := by
  cases h with
  | code count body _ => rfl
  | link l label content =>
      refine absurd ?_ hbracket
      rw [Fragment.source, Link.source]
      exact List.mem_append_left _ List.mem_cons_self
  | image l =>
      refine absurd ?_ hbracket
      rw [Fragment.source, Link.source]
      exact List.mem_cons_of_mem _ (List.mem_append_left _ List.mem_cons_self)

/-- What is written without a bracket is shown on as many lines. -/
theorem count_feed_accounts (look : Look) :
    ∀ {fragments : List Fragment} {shown : List Span}, Accounts fragments shown →
      '[' ∉ fragments.flatMap Fragment.source →
      (renderAll look shown).count '\n' = (fragments.flatMap Fragment.source).count '\n'
  | _, _, .nil, _ => rfl
  | _, _, .text literals fragments shown _ hrest, hbracket => by
      rw [List.flatMap_cons, List.mem_append, not_or] at hbracket
      rw [renderAll, render, List.flatMap_cons, List.count_append, List.count_append,
        count_feed_accounts look hrest hbracket.2, count_feed_literals]
      rfl
  | _, _, .whole fragment leaf fragments shown hmakes hrest, hbracket => by
      rw [List.flatMap_cons, List.mem_append, not_or] at hbracket
      rw [renderAll, eq_code_of_makes hmakes hbracket.1, render, List.flatMap_cons,
        List.count_append, List.count_append, count_feed_accounts look hrest hbracket.2]
  | _, _, .dropped marker count fragments shown hrest, hbracket => by
      have hmarker : '\n' ∉ (Fragment.dropped marker count).source :=
        Text.not_mem_replicate (by cases marker <;> decide) _
      rw [List.flatMap_cons, List.mem_append, not_or] at hbracket
      rw [List.flatMap_cons, List.count_append, List.count_eq_zero.mpr hmarker, Nat.zero_add,
        count_feed_accounts look hrest hbracket.2]

/-- Read and shown, a text without brackets has as many lines as before. -/
theorem count_feed_parse (look : Look) (switches : Switches) {s : Text} (h : '[' ∉ s) :
    (renderAll look (parse switches s)).count '\n' = s.count '\n' := by
  have hlabel : switches.links = true → ∀ label : Text, ∃ fragments,
      Explains label (parseLabel switches label) fragments ∧
        ∀ fragment ∈ fragments, fragment.isLink = false :=
    fun _ label => exists_explains_parseLabel switches label
  rcases exists_explains_parseBetween hlabel none none s with ⟨fragments, hexplains, _⟩
  have hcount := count_feed_accounts look hexplains.accounts (by rwa [hexplains.source])
  rwa [hexplains.source, count_feed_leavesAll] at hcount

end Inline

/-! ### Lines that are written -/

theorem count_feed_flatMap_endLine {α : Type} {f : α → Text} {xs : List α}
    (h : ∀ x ∈ xs, '\n' ∉ f x) : (xs.flatMap fun x => endLine (f x)).count '\n' = xs.length := by
  induction xs with
  | nil => rfl
  | cons x xs ih =>
      rw [List.forall_mem_cons] at h
      rw [List.flatMap_cons, List.count_append, ih h.2, endLine, List.count_append,
        List.count_eq_zero.mpr h.1, List.count_singleton_self, List.length_cons]
      omega

theorem count_feed_endLine (line : Text) : (endLine line).count '\n' = line.count '\n' + 1 := by
  rw [endLine, List.count_append, List.count_singleton_self]

theorem feed_not_mem_setOff {s : Text} (h : '\n' ∉ s) : '\n' ∉ setOff s := by
  rw [setOff]
  split
  · exact List.not_mem_nil
  · exact List.not_mem_cons_of_ne_of_not_mem (by decide) h

theorem count_feed_itemLines {mark : Text} (hmark : '\n' ∉ mark) (text : Text) :
    (itemLines mark text).count '\n' = text.count '\n' + 1 := by
  have hlength := Text.length_splitOn '\n' text
  have hpieces : ∀ piece ∈ Text.splitOn '\n' text, '\n' ∉ piece :=
    fun piece hpiece => Text.not_mem_of_mem_splitOn hpiece
  rw [itemLines]
  split
  · next hnil => exact absurd hnil (Text.splitOn_ne_nil _ _)
  · next first rest hcons =>
      rw [hcons, List.forall_mem_cons] at hpieces
      rw [hcons, List.length_cons] at hlength
      have hrest : ∀ line ∈ rest, '\n' ∉ List.replicate (mark.length + 1) ' ' ++ line :=
        fun line hline => List.not_mem_append (Text.not_mem_replicate (by decide) _)
          (hpieces.2 line hline)
      rw [List.count_append, count_feed_endLine, count_feed_flatMap_endLine hrest,
        List.count_eq_zero.mpr (List.not_mem_append hmark (feed_not_mem_setOff hpieces.1))]
      omega

theorem count_feed_quoteLines (depth : Nat) (text : Text) :
    (quoteLines depth text).count '\n' = text.count '\n' + 1 := by
  rw [quoteLines, count_feed_flatMap_endLine, Text.length_splitOn]
  exact fun line hline => List.not_mem_append (Text.not_mem_replicate (by decide) _)
    (feed_not_mem_setOff (Text.not_mem_of_mem_splitOn hline))

/-- The texts of the configuration stand on one line each. -/
structure Config.OneLine (config : Config) : Prop where
  bullet : '\n' ∉ config.lists.bullet
  checkboxChecked : '\n' ∉ config.lists.checkboxChecked
  checkboxUnchecked : '\n' ∉ config.lists.checkboxUnchecked
  headingMarker : '\n' ∉ config.headings.marker
  ruleChar : '\n' ∉ config.rules.char

theorem feed_not_mem_times {s : Text} (h : '\n' ∉ s) (n : Nat) : '\n' ∉ Text.times n s := by
  intro hmem
  rcases List.mem_flatten.mp hmem with ⟨copy, hcopy, hfeed⟩
  exact h (List.eq_of_mem_replicate hcopy ▸ hfeed)

section OneLine

variable {config : Config} (h : config.OneLine)
include h

theorem feed_not_mem_headingLine (level : Nat) {spans : List Span}
    (hlook : '\n' ∉ Span.renderAll config.look spans)
    (hplain : '\n' ∉ Span.renderAll config.plainLook spans) :
    '\n' ∉ headingLine config level spans := by
  have hbold : '\n' ∉ boldText (Span.renderAll config.plainLook spans) := by
    rw [boldText]
    split
    · exact List.not_mem_nil
    · exact List.not_mem_append (List.not_mem_cons_of_ne_of_not_mem (by decide) hplain) (by decide)
  have hsigned : '\n' ∉ List.replicate level '#' ++ setOff (Span.renderAll config.look spans) :=
    List.not_mem_append (Text.not_mem_replicate (by decide) _) (feed_not_mem_setOff hlook)
  simp only [headingLine]
  split
  · split
    · exact hsigned
    · exact hbold
    · exact List.not_mem_append (feed_not_mem_times h.headingMarker _) (feed_not_mem_setOff hbold)
    · exact hplain
  · exact hsigned

theorem feed_not_mem_itemMark (numbering : Numbering) (level : Nat) {marker : ItemMarker}
    (hmarker : '\n' ∉ marker.write) (indent : Nat) :
    '\n' ∉ itemMark config numbering level marker indent := by
  rw [itemMark.eq_def]
  split
  · refine List.not_mem_append (Text.not_mem_replicate (by decide) _) ?_
    cases marker with
    | bullet c => exact h.bullet
    | ordered number delimiter =>
        exact List.not_mem_append (Text.not_mem_decimal (by decide)) (by decide)
  · refine List.not_mem_append (Text.not_mem_replicate (by decide) _) ?_
    cases marker with
    | bullet c => exact hmarker
    | ordered number delimiter => exact hmarker

theorem feed_not_mem_checkbox (task : Option Bool) : '\n' ∉ checkbox config task := by
  rw [checkbox.eq_def]
  split
  · exact List.not_mem_nil
  · next done =>
      split
      · refine List.not_mem_cons_of_ne_of_not_mem (by decide) ?_
        split
        · exact h.checkboxChecked
        · exact h.checkboxUnchecked
      · split
        · exact List.not_mem_nil
        · cases done <;> decide

end OneLine

theorem feed_not_mem_of_itemMarker? {body rest : Text} {marker : ItemMarker}
    (h : itemMarker? body = some (marker, rest)) : '\n' ∉ marker.write := by
  rcases itemMarker?_cases h with ⟨c, hc, rfl, _⟩ | ⟨digits, d, hd, rfl, _⟩
  · rcases hc with rfl | rfl | rfl <;> decide
  · refine List.not_mem_append (Text.not_mem_decimal (by decide)) ?_
    rcases hd with rfl | rfl <;> decide

/-! ### The lines of a block -/

namespace Block.Cut

variable {block : Block} {line : Text} {next : Option Text} {more : List Text}

/-- Rules and headings have one line. -/
theorem more_eq_nil (h : block.Cut line next more)
    (hkind : block.kind = .rule ∨ ∃ level, block.kind = .heading level) : more = [] := by
  rcases h.extent with ⟨rest, _, hmore⟩
  rw [h.kind] at hkind
  cases hopening : Opening.ofLine line next with
  | rule => rw [hmore, hopening]; rfl
  | heading level content => rw [hmore, hopening]; rfl
  | _ =>
      rw [hopening] at hkind
      rcases hkind with hkind | ⟨level, hkind⟩ <;> exact Block.Kind.noConfusion hkind

/-- A block that holds text says a line for each of its lines. -/
theorem exists_lines (h : block.Cut line next more) (hholds : block.kind.holdsText = true) :
    ∃ texts, texts ≠ [] ∧ texts.length = Block.lineCount block.source ∧
      block.content = Text.joinWith '\n' texts ∧
      (∀ text ∈ texts, '\n' ∉ text) ∧ ∀ text ∈ texts, text ⊆ block.source := by
  rcases h.exists_texts hholds with ⟨texts, hsays, hcontent⟩
  have hsource : ∀ line ∈ Text.lines block.source, line ⊆ block.source := by
    intro line hline c hc
    by_contra hmem
    exact Text.not_mem_of_mem_lines hmem hline hc
  refine ⟨texts, ?_, hsays.length_eq, hcontent, ?_, ?_⟩
  · rintro rfl
    rw [h.lines] at hsays
    cases hsays
  · exact forall_mem_of_forall₂ hsays
      (fun _ _ hsublist hline hmem => hline (hsublist.subset hmem))
      (Text.areLines_lines block.source).not_mem_stripEnd
  · exact forall_mem_of_forall₂ hsays
      (fun _ line hsublist hline => List.Subset.trans
        (hsublist.trans (Text.stripEnd_sublist line)).subset hline) hsource

/-- The marker of an item is on its line. -/
theorem feed_not_mem_marker (h : block.Cut line next more) {marker : ItemMarker} {indent : Nat}
    {task : Option Bool} (hkind : block.kind = .listItem marker indent task) :
    '\n' ∉ marker.write := by
  have hreads := Opening.reads_ofLine line next
  rw [h.kind] at hkind
  cases hopening : Opening.ofLine line next with
  | item i =>
      rw [hopening] at hkind hreads
      obtain rfl : i.marker = marker := (Block.Kind.listItem.inj hkind).1
      rcases exists_itemMarker? hreads with ⟨rest, hmarker, _⟩
      exact feed_not_mem_of_itemMarker? hmarker
  | _ => exact absurd hkind (by rw [hopening]; exact Block.Kind.noConfusion)

variable {config : Config}

/-- What is shown of a block that holds text has as many lines as the block. -/
theorem count_feed_shown (h : block.Cut line next more) (hholds : block.kind.holdsText = true)
    (hbracket : '[' ∉ block.source) (look : Look) :
    (Span.renderAll look (block.spans config)).count '\n' + 1 = Block.lineCount block.source := by
  rcases h.exists_lines hholds with ⟨texts, hne, hlength, hcontent, hfeed, hsource⟩
  have hrows : Text.splitOn '\n' block.content = texts := by
    rw [hcontent, Text.splitOn_joinWith hne hfeed]
  have hinline : (Span.renderAll look (parseInline config block.content)).count '\n' + 1 =
      Block.lineCount block.source := by
    have hnone : '[' ∉ block.content := by
      rw [hcontent]
      intro hmem
      rcases Text.mem_joinWith hmem with heq | ⟨text, htext, hmem⟩
      · exact absurd heq (by decide)
      · exact hbracket (hsource text htext hmem)
    rw [parseInline, Inline.count_feed_parse look _ hnone, ← Text.length_splitOn, hrows, hlength]
  rw [Block.spans]
  split
  · next hkind => exact absurd hholds (by rw [hkind]; exact Bool.false_ne_true)
  · next hkind => exact absurd hholds (by rw [hkind]; exact Bool.false_ne_true)
  · next hkind => exact absurd hholds (by rw [hkind]; exact Bool.false_ne_true)
  · -- The rows of a table are read one by one, and none becomes more than one line.
    have hshown : ∀ row ∈ texts.map fun row =>
        Span.renderAll look (Inline.parse config.cellSwitches row), '\n' ∉ row := by
      refine List.forall_mem_map.mpr fun row hrow => List.count_eq_zero.mp ?_
      rw [Inline.count_feed_parse look _ fun hmem => hbracket (hsource row hrow hmem)]
      exact List.count_eq_zero.mpr (hfeed row hrow)
    rw [tableSpans, hrows, renderAll_rowSpans, ← Text.length_splitOn,
      Text.splitOn_joinWith (mt List.map_eq_nil_iff.mp hne) hshown, List.length_map, hlength]
  · exact hinline
  · exact hinline
  · exact hinline
  · exact hinline

end Block.Cut

/-- The lines that fences around the block add to its own: two for a table that is
    shown as code. -/
def Config.fenceLines (config : Config) (block : Block) : Nat :=
  match block.kind with
  | .table => if config.tablesAsCode then 2 else 0
  | _ => 0

/-- A block is written on as many lines as it was read from, and between the lines
    of its fences. -/
theorem Block.Cut.count_feed_render {config : Config} (hconfig : config.OneLine) {block : Block}
    {line : Text} {next : Option Text} {more : List Text} (h : block.Cut line next more)
    (hbracket : '[' ∉ block.source) (numbering : Numbering) :
    ((block.read config).render config numbering).count '\n' =
      Block.lineCount block.source + config.fenceLines block := by
  have hshown (hholds : block.kind.holdsText = true) (look : Look) :
      (Span.renderAll look (block.spans config)).count '\n' + 1 = Block.lineCount block.source :=
    h.count_feed_shown hholds hbracket look
  -- A block of one line is its source.
  have hone (hkind : block.kind = .rule ∨ ∃ level, block.kind = .heading level) :
      Text.lines block.source = [block.source] := by
    have hlines := h.lines
    have hflatten := Text.flatten_lines block.source
    rw [hlines, h.more_eq_nil hkind, List.flatten_singleton] at hflatten
    rw [hlines, h.more_eq_nil hkind, hflatten]
  cases hkind : block.kind with
  | blank =>
      simp only [RichBlock.render, Block.read, Config.fenceLines, hkind]
      exact List.count_replicate_self
  | paragraph =>
      simp only [RichBlock.render, Block.read, Config.fenceLines, hkind]
      rw [count_feed_endLine, hshown (by rw [hkind]; rfl), Nat.add_zero]
  | heading level =>
      -- There is one line to the block, so its text has no line feed in any style.
      have hfeed (look : Look) : '\n' ∉ Span.renderAll look (block.spans config) := by
        have hcount := hshown (by rw [hkind]; rfl) look
        rw [Block.lineCount, hone (.inr ⟨level, hkind⟩), List.length_singleton] at hcount
        exact List.count_eq_zero.mp (by omega)
      have hheading := feed_not_mem_headingLine hconfig level (hfeed _) (hfeed _)
      simp only [RichBlock.render, Block.read, Config.fenceLines, hkind]
      rw [count_feed_endLine, List.count_eq_zero.mpr hheading, Block.lineCount,
        hone (.inr ⟨level, hkind⟩), List.length_singleton]
  | listItem marker indent task =>
      have hmark := List.not_mem_append
        (feed_not_mem_itemMark hconfig numbering block.level (h.feed_not_mem_marker hkind) indent)
        (feed_not_mem_checkbox hconfig task)
      simp only [RichBlock.render, Block.read, Config.fenceLines, hkind]
      rw [count_feed_itemLines hmark, hshown (by rw [hkind]; rfl), Nat.add_zero]
  | fence info closed =>
      simp only [RichBlock.render, Block.read, Config.fenceLines, hkind]
      rw [count_feed_flatMap_endLine (Text.areLines_lines block.source).not_mem_codeLine,
        Block.lineCount, Nat.add_zero]
  | quote =>
      simp only [RichBlock.render, Block.read, Config.fenceLines, hkind]
      rw [count_feed_quoteLines, hshown (by rw [hkind]; rfl), Nat.add_zero]
  | table =>
      have hrows := hshown (by rw [hkind]; rfl)
      simp only [RichBlock.render, Block.read, Config.fenceLines, hkind]
      split
      · have hfence : (endLine codeFence).count '\n' = 1 := by decide
        rw [List.count_append, List.count_append, hfence, count_feed_endLine, hrows]
        omega
      · rw [count_feed_endLine, hrows, Nat.add_zero]
  | rule =>
      -- Where rules stay as they are, the end of the line is trimmed off first.
      have hfeed : '\n' ∉ Text.trimEnd block.source := by
        have hstrip := (Text.areLines_lines block.source).not_mem_stripEnd block.source
          (by rw [hone (.inl hkind)]; exact List.mem_cons_self)
        rw [← Text.trimEnd_stripEnd]
        exact fun hmem => hstrip ((Text.dropEndWhile_sublist _ _).subset hmem)
      simp only [RichBlock.render, Block.read, Config.fenceLines, hkind]
      rw [Block.lineCount, hone (.inl hkind), List.length_singleton]
      split
      · rw [count_feed_endLine, List.count_eq_zero.mpr (feed_not_mem_times hconfig.ruleChar _)]
      · rw [count_feed_endLine, List.count_eq_zero.mpr hfeed]

/-! ### The lines of a message -/

/-- The blocks as lines, each by itself. -/
def renderEach (config : Config) (numbering : Numbering) : List RichBlock → List Text
  | [] => []
  | block :: rest =>
    block.render config numbering :: renderEach config (block.after config numbering) rest

theorem flatten_renderEach (config : Config) (numbering : Numbering) (blocks : List RichBlock) :
    (renderEach config numbering blocks).flatten = renderLines config numbering blocks := by
  induction blocks generalizing numbering with
  | nil => rfl
  | cons block rest ih => rw [renderEach, List.flatten_cons, ih, renderLines]

/-- What holds of every block however it is numbered holds of all of them. -/
theorem forall₂_renderEach {config : Config} {R : Text → Block → Prop} {blocks : List Block}
    (h : ∀ block ∈ blocks, ∀ numbering, R ((block.read config).render config numbering) block)
    (numbering : Numbering) :
    List.Forall₂ R (renderEach config numbering (blocks.map (Block.read config))) blocks := by
  induction blocks generalizing numbering with
  | nil => exact .nil
  | cons block rest ih =>
      rw [List.forall_mem_cons] at h
      exact .cons (h.1 numbering) (ih h.2 _)

/-- The blocks from the first to the last that is not blank are shown, and those
    above and below are not. -/
structure Document.Shows (document : Document) (above shown below : List Block) : Prop where
  blocks : document.blocks = above ++ shown ++ below
  above : ∀ block ∈ above, block.isBlank = true
  below : ∀ block ∈ below, block.isBlank = true
  first : ∃ first, shown.head? = some first ∧ first.isBlank = false
  last : ∃ last, shown.getLast? = some last ∧ last.isBlank = false

/-- The blocks up to the first that is not blank. -/
theorem exists_first_text {blocks : List Block} (h : ∃ block ∈ blocks, block.isBlank = false) :
    ∃ above first rest, blocks = above ++ first :: rest ∧ first.isBlank = false ∧
      ∀ block ∈ above, block.isBlank = true := by
  rcases h with ⟨block, hmem, hblank⟩
  have hsome : (blocks.find? fun block => !block.isBlank).isSome = true :=
    List.find?_isSome.mpr ⟨block, hmem, by rw [hblank]; rfl⟩
  rcases Option.isSome_iff_exists.mp hsome with ⟨first, hfirst⟩
  rcases List.find?_eq_some_iff_append.mp hfirst with ⟨htext, above, rest, hblocks, habove⟩
  refine ⟨above, first, rest, hblocks, by simpa using htext, fun block hblock => ?_⟩
  simpa using habove block hblock

/-- A document with a block that is not blank shows some of its blocks. -/
theorem Document.exists_shows {document : Document}
    (h : ∃ block ∈ document.blocks, block.isBlank = false) :
    ∃ above shown below, document.Shows above shown below := by
  rcases exists_first_text h with ⟨above, first, rest, hblocks, hfirst, habove⟩
  -- The last block that is not blank is the first one from behind.
  have hback : ∃ block ∈ (first :: rest).reverse, block.isBlank = false :=
    ⟨first, List.mem_reverse.mpr List.mem_cons_self, hfirst⟩
  rcases exists_first_text hback with ⟨below, last, shown, hreverse, hlast, hbelow⟩
  have hsplit : first :: rest = (shown.reverse ++ [last]) ++ below.reverse := by
    have h := congrArg List.reverse hreverse
    rwa [List.reverse_reverse, List.reverse_append, List.reverse_cons] at h
  have hhead : (shown.reverse ++ [last]).head? = some first := by
    have h := congrArg List.head? hsplit
    rw [List.head?_cons, List.head?_append_of_ne_nil _ (by simp)] at h
    exact h.symm
  exact ⟨above, shown.reverse ++ [last], below.reverse,
    { blocks := by
        rw [hblocks, hsplit]
        simp only [List.append_assoc]
      above := habove
      below := fun block hblock => hbelow block (List.mem_reverse.mp hblock)
      first := ⟨first, hhead, hfirst⟩
      last := ⟨last, List.getLast?_concat, hlast⟩ }⟩

namespace Document.Shows

variable {document : Document} {above shown below : List Block}

theorem ne_nil (h : document.Shows above shown below) : shown ≠ [] := by
  rcases h.first with ⟨first, hfirst, _⟩
  exact List.ne_nil_of_mem (List.mem_of_head? hfirst)

theorem mem (h : document.Shows above shown below) : ∀ block ∈ shown, block ∈ document.blocks := by
  intro block hblock
  rw [h.blocks]
  exact List.mem_append_left _ (List.mem_append_right _ hblock)

theorem trimBlanks_read (h : document.Shows above shown below) (config : Config) :
    trimBlanks (document.read config) = shown.map (Block.read config) := by
  have hblank {blocks : List Block} (hall : ∀ block ∈ blocks, block.isBlank = true) :
      ∀ block ∈ blocks.map (Block.read config), block.isBlank = true :=
    List.forall_mem_map.mpr hall
  rcases h.first with ⟨first, hfirst, hfirstText⟩
  rcases h.last with ⟨last, hlast, hlastText⟩
  have hbegins : BeginsInText ((shown ++ below).map (Block.read config)) :=
    ⟨first.read config, by rw [List.head?_map, List.head?_append, hfirst]; rfl, hfirstText⟩
  have hends : EndsInText (shown.map (Block.read config)) :=
    ⟨last.read config, by rw [List.getLast?_map, hlast]; rfl, hlastText⟩
  rw [trimBlanks, read, h.blocks, List.append_assoc, List.map_append,
    List.dropWhile_append_of_pos (hblank h.above), dropBlanks_of_begins hbegins, List.map_append,
    List.reverse_append, List.dropWhile_append_of_pos fun block hblock =>
      hblank h.below block (List.mem_reverse.mp hblock),
    dropBlanks_of_begins hends.reverse, List.reverse_reverse]

end Document.Shows

/-- The lines of the blocks are the lines of the text. -/
theorem flatMap_lines_ofText (markdown : Text) :
    (Document.ofText markdown).blocks.flatMap (fun block => Text.lines block.source) =
      Text.lines markdown := by
  have hsources := congrArg (fun sources => sources.flatMap Text.lines)
    (map_source_assignLevels [] (blocksOfLines (Text.lines markdown)))
  simp only [List.flatMap_map] at hsources
  exact hsources.trans (flatMap_lines_blocksOfLines (Text.areLines_lines markdown))

theorem count_feed_flatten {config : Config} {written : List Text} {shown : List Block}
    (h : List.Forall₂ (fun text block => text.count '\n' =
      Block.lineCount block.source + config.fenceLines block) written shown) :
    written.flatten.count '\n' = (shown.flatMap fun block => Text.lines block.source).length +
      (shown.map config.fenceLines).sum := by
  induction h with
  | nil => rfl
  | cons hcount _ ih =>
      rw [List.flatten_cons, List.count_append, hcount, ih, List.flatMap_cons, List.length_append,
        List.map_cons, List.sum_cons, Block.lineCount]
      omega

/-- Lines are kept. If the texts of the configuration have no line feeds and the
    text has no opening bracket, what is written for the blocks from the first to
    the last that is not blank has, block by block, as many lines as the block,
    and two more for a table that is shown as code. The message is what is
    written for them, but for the end of its last line. So it has as many lines
    as these blocks have in the text, and the fences. -/
theorem convert_keeps_lines {config : Config} (hconfig : config.OneLine) {markdown : Text}
    (hbracket : '[' ∉ markdown)
    (htext : ∃ block ∈ (Document.ofText markdown).blocks, block.isBlank = false) :
    ∃ above shown below, (Document.ofText markdown).Shows above shown below ∧
      convert config markdown ++ ['\n'] =
        (renderEach config .start (shown.map (Block.read config))).flatten ∧
      List.Forall₂ (fun text block => text.getLast? = some '\n' ∧ (Text.lines text).length =
          Block.lineCount block.source + config.fenceLines block)
        (renderEach config .start (shown.map (Block.read config))) shown ∧
      Text.lines markdown = above.flatMap (fun block => Text.lines block.source) ++
        shown.flatMap (fun block => Text.lines block.source) ++
        below.flatMap (fun block => Text.lines block.source) ∧
      (Text.splitOn '\n' (convert config markdown)).length =
        (shown.flatMap fun block => Text.lines block.source).length +
          (shown.map config.fenceLines).sum := by
  rcases Document.exists_shows htext with ⟨above, shown, below, hshows⟩
  have hblock : ∀ block ∈ shown, ∀ numbering,
      ((block.read config).render config numbering).getLast? = some '\n' ∧
        ((block.read config).render config numbering).count '\n' =
          Block.lineCount block.source + config.fenceLines block := by
    intro block hmem numbering
    rcases exists_cut (hshows.mem block hmem) with ⟨line, next, more, hcut⟩
    exact ⟨getLast?_render config numbering hcut.source_ne_nil, hcut.count_feed_render hconfig
      (fun hb => hbracket (source_subset (hshows.mem block hmem) hb)) numbering⟩
  have heach : List.Forall₂ (fun text block => text.getLast? = some '\n' ∧ text.count '\n' =
        Block.lineCount block.source + config.fenceLines block)
      (renderEach config .start (shown.map (Block.read config))) shown :=
    forall₂_renderEach hblock .start
  have hwritten : convert config markdown ++ ['\n'] =
      (renderEach config .start (shown.map (Block.read config))).flatten := by
    have htrim := hshows.trimBlanks_read config
    rw [flatten_renderEach, ← htrim, convert, Document.convert, renderLines_eq_renderBlocks]
    · rw [htrim]
      exact mt List.map_eq_nil_iff.mp hshows.ne_nil
    · refine List.forall_mem_map.mpr fun block hmem => ?_
      rcases exists_cut hmem with ⟨line, next, more, hcut⟩
      exact hcut.source_ne_nil
  refine ⟨above, shown, below, hshows, hwritten, ?_, ?_, ?_⟩
  · refine heach.imp fun text block h => ⟨h.1, ?_⟩
    rw [Text.length_lines (Text.whole_of_getLast? h.1), h.2]
  · rw [← flatMap_lines_ofText, hshows.blocks, List.flatMap_append, List.flatMap_append]
  · -- The end of the last line, which the message lacks, makes up for the piece
    -- behind the last line feed.
    have hcount := congrArg (List.count '\n') hwritten
    rw [count_feed_flatten (heach.imp fun _ _ h => h.2), List.count_append,
      List.count_singleton_self] at hcount
    rw [Text.length_splitOn, hcount]

/-- A message with a block of each kind, and with emphasis and code that go on over
    the end of a line. -/
theorem convert_keeps_lines_each_kind :
    let markdown := ("\n# \n*a\nb* `c\nd`\n\n- e\n  f\n2. g\n\n> h\n>\n---\n| i | *j* |\n|---|---|\n" ++
      "|  | k |\n\n```\nl\n```\n\n").toList
    (Text.splitOn '\n' (convert {} markdown)).length = 21 ∧
      ∃ above shown below, (Document.ofText markdown).Shows above shown below ∧
        List.Forall₂ (fun text block => text.getLast? = some '\n' ∧ (Text.lines text).length =
            Block.lineCount block.source + Config.fenceLines {} block)
          (renderEach {} .start (shown.map (Block.read {}))) shown ∧
        21 = (shown.flatMap fun block => Text.lines block.source).length +
          (shown.map (Config.fenceLines {})).sum := by
  intro markdown
  have hlength : (Text.splitOn '\n' (convert {} markdown)).length = 21 := by decide +kernel
  rcases convert_keeps_lines (show Config.OneLine {} by constructor <;> decide)
    (show '[' ∉ markdown by decide) (by decide +kernel) with
    ⟨above, shown, below, hshows, _, heach, _, htotal⟩
  exact ⟨hlength, above, shown, below, hshows, heach, hlength ▸ htotal⟩

end ChatMarkup
