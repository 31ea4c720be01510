import ChatMarkup.Proofs.Composition
import ChatMarkup.Proofs.Drafts
import Mathlib.Data.List.Chain

/-!
# Canonical Documents

Drafts written one after the other are read as the blocks they are to be.

Between two drafts there may be blank lines. Without any, a draft ends where the
next begins, unless the two would merge: a paragraph goes on with a paragraph, a
table with rows, and a quote with lines of its depth. What the first line of a
draft opens settles all of this, so the drafts are cut off one at a time.

The depth of a list item is written as its indentation, two spaces a level. As
long as no item lies more than one level deeper than the item before it, the
levels that are open behind an item are those of the item itself and of all
levels above it, which is what `openLevels` lists. An item can thus be placed by
looking no further back than the item before it.

## Main definitions

* `Placed`: A draft behind blank lines.
* `Placed.writeAll`: Drafts as they are written.
* `Draft.touches`: The drafts can stand next to each other.
* `Draft.Nested`: The items lie at depths that a list can have.
* `Canonical`: The drafts can be written one after the other.

## Theorems

* `endsBefore_of_touches`: A draft is over where the next begins.
* `blocksOfLines_bodies`: The lines of drafts are cut into their blocks.
* `enterLevel_openLevels`: An item opens the level that it was written for.
* `ofText_writeAll`: A canonical document is read as what was written.
-/

namespace ChatMarkup

/-! ### Where drafts meet -/

namespace Draft

/-- Whether the second draft does not go on with the first if there are no blank
    lines in between. -/
def touches : Draft → Draft → Bool
  | paragraph _ _, paragraph _ _ => false
  | quote depth _ _, quote depth' _ _ => depth' != depth
  | table _ _ _, table _ _ _ => false
  | _, _ => true

/-- A draft is over where nothing is left. -/
theorem endsBefore_nil (draft : Draft) : draft.EndsBefore [] := by
  have hnone {p : Text → Prop} : ∀ line ∈ ([] : List Text).head?, p line :=
    fun line hline => absurd hline (Option.not_mem_none line)
  cases draft with
  | paragraph => exact hnone
  | quote => exact hnone
  | item => exact hnone
  | table => exact hnone
  | heading => exact trivial
  | fence => exact trivial
  | rule => exact trivial

/-- A draft is over in front of a line that interrupts it. -/
theorem endsBefore_of_interrupts (draft : Draft) {line : Text} {rest : List Text}
    (h : Interrupts line rest.head?) : draft.EndsBefore (line :: rest) := by
  have hline {p : Text → Prop} (hp : p line) : ∀ other ∈ (line :: rest).head?, p other :=
    fun _ hother => Option.some.inj hother ▸ hp
  cases draft with
  | paragraph => exact hline h.notParagraph
  | quote depth => exact hline (isQuotedAt_of_interrupts h depth)
  | item => exact hline fun _ => h.notParagraph
  | table => exact hline h.notRow
  | heading => exact trivial
  | fence => exact trivial
  | rule => exact trivial

theorem opening_eq_paragraph {draft : Draft} (h : draft.opening = .paragraph) :
    ∃ first more, draft = paragraph first more := by
  cases draft with
  | paragraph first more => exact ⟨first, more, rfl⟩
  | heading => exact Opening.noConfusion h
  | fence => exact Opening.noConfusion h
  | quote => exact Opening.noConfusion h
  | item => exact Opening.noConfusion h
  | rule => exact Opening.noConfusion h
  | table => exact Opening.noConfusion h

theorem isTable_of_kind {draft : Draft} (h : draft.kind = .table) :
    ∃ header separator rows, draft = table header separator rows := by
  cases draft with
  | table header separator rows => exact ⟨header, separator, rows, rfl⟩
  | heading => exact Block.Kind.noConfusion h
  | paragraph => exact Block.Kind.noConfusion h
  | fence => exact Block.Kind.noConfusion h
  | quote => exact Block.Kind.noConfusion h
  | item => exact Block.Kind.noConfusion h
  | rule => exact Block.Kind.noConfusion h

/-- A draft is quoted at its own depth if it is a quote, and otherwise not at
    all. -/
theorem isQuotedAt_first {draft : Draft} (h : draft.Sound) (depth : Nat) :
    isQuotedAt depth (endLine draft.first) = (draft.kind == .quote && draft.level == depth) := by
  rcases exists_leads h with ⟨c, hleads, _, hangle⟩
  have hother (hkind : draft.kind ≠ .quote) : isQuotedAt depth (endLine draft.first) =
      (draft.kind == .quote && draft.level == depth) := by
    rw [isQuotedAt, hleads.quote (hangle hkind), beq_eq_false_iff_ne.mpr hkind]
    rfl
  cases draft with
  | quote depth' first more =>
      have hline := h.2 first List.mem_cons_self
      rw [isQuotedAt, Draft.first, quote?_line h.1 hline.1 hline.2]
      rfl
  | heading => exact hother Block.Kind.noConfusion
  | paragraph => exact hother Block.Kind.noConfusion
  | fence => exact hother Block.Kind.noConfusion
  | item => exact hother Block.Kind.noConfusion
  | rule => exact hother Block.Kind.noConfusion
  | table => exact hother Block.Kind.noConfusion

theorem indentation_of_beginsWithLetter {line : Text} (h : line.BeginsWithLetter) :
    Text.indentation (endLine line) = 0 := by
  rcases h.exists_cons with ⟨c, rest, rfl, hc⟩
  have hspace := Text.not_isSpaceOrTab_of_not_isBlank (Text.not_isBlank_of_isLetter hc)
  exact indentationFrom_replicate 0 0 hspace (rest ++ ['\n'])

/-- A draft is over where a draft begins that it can touch. -/
theorem endsBefore_of_touches {draft second : Draft} (hsecond : second.Sound)
    (htouches : draft.touches second = true) (rest : List Text) :
    draft.EndsBefore (second.lines.map endLine ++ rest) := by
  have hfirst {p : Text → Prop} (hp : p (endLine second.first)) :
      ∀ line ∈ (second.lines.map endLine ++ rest).head?, p line :=
    fun _ hline => Option.some.inj hline ▸ hp
  have hopening := ofLine_first hsecond rest
  cases draft with
  | paragraph =>
      refine hfirst fun hparagraph => ?_
      rcases opening_eq_paragraph (hopening.symm.trans hparagraph) with ⟨first, more, rfl⟩
      exact absurd htouches Bool.false_ne_true
  | quote depth =>
      -- Another kind of draft is not quoted, and a quote is at its own depth only.
      refine hfirst ?_
      rw [isQuotedAt_first hsecond]
      cases second with
      | quote depth' => exact beq_eq_false_iff_ne.mpr (bne_iff_ne.mp htouches)
      | heading => rfl
      | paragraph => rfl
      | fence => rfl
      | item => rfl
      | rule => rfl
      | table => rfl
  | item level =>
      -- Only a paragraph could go on with an item, and it is not indented.
      refine hfirst fun hdeep hparagraph => ?_
      rcases opening_eq_paragraph (hopening.symm.trans hparagraph) with ⟨first, more, rfl⟩
      rw [Draft.first,
        indentation_of_beginsWithLetter (hsecond first List.mem_cons_self).2] at hdeep
      exact absurd hdeep (Nat.not_lt_zero _)
  | table =>
      rcases exists_leads hsecond with ⟨c, hleads, hbar, _⟩
      -- No draft but a table leads with a bar.
      refine hfirst (hleads.isRow (hbar fun hkind => ?_))
      rcases isTable_of_kind hkind with ⟨header, separator, rows, rfl⟩
      exact absurd htouches Bool.false_ne_true
  | heading => exact trivial
  | fence => exact trivial
  | rule => exact trivial

end Draft

/-! ### Drafts behind blank lines -/

/-- A draft behind blank lines. -/
structure Placed where
  /-- The number of blank lines in front. -/
  gap : Nat
  /-- The draft. -/
  draft : Draft
  deriving DecidableEq, Repr

/-- Blank lines as blocks: one, or none if there are no lines. -/
def gapBlocks (gap : Nat) : List Block :=
  if gap = 0 then [] else [blankLines gap]

namespace Placed

/-- The lines, without their ends. -/
def bodies (placed : Placed) : List Text :=
  List.replicate placed.gap [] ++ placed.draft.lines

/-- The blocks that are to be read. -/
def blocks (placed : Placed) : List Block :=
  gapBlocks placed.gap ++ [placed.draft.block]

/-- The second draft does not go on with the first. -/
def Meets (first second : Placed) : Prop :=
  second.gap = 0 → first.draft.touches second.draft = true

instance (first second : Placed) : Decidable (first.Meets second) :=
  inferInstanceAs (Decidable (_ → _))

end Placed

/-- The lines of the drafts and of the blank lines behind them, without their
    ends. -/
def Placed.bodiesAll (document : List Placed) (gap : Nat) : List Text :=
  document.flatMap Placed.bodies ++ List.replicate gap []

/-- The drafts as they are written, with blank lines behind them. -/
def Placed.writeAll (document : List Placed) (gap : Nat) : Text :=
  (Placed.bodiesAll document gap).flatMap endLine

/-- The blocks that are to be read. -/
def Placed.blocksAll (document : List Placed) (gap : Nat) : List Block :=
  document.flatMap Placed.blocks ++ gapBlocks gap

/-- The level of the draft in its list, if it is an item. -/
def Draft.itemLevel : Draft → Option Nat
  | item level _ _ _ => some level
  | _ => none

/-- The items lie at depths that a list can have, behind an item of the given
    level if a list is open: the first item of a list lies at level zero, and
    the next at most one level deeper than the one before it. -/
def Draft.Nested : Option Nat → List Draft → Prop
  | _, [] => True
  | above, draft :: drafts =>
    (∀ level ∈ draft.itemLevel, level ≤ above.elim 0 (· + 1)) ∧ Nested draft.itemLevel drafts

instance Draft.decidableNested :
    (above : Option Nat) → (drafts : List Draft) → Decidable (Draft.Nested above drafts)
  | _, [] => inferInstanceAs (Decidable True)
  | _, draft :: drafts =>
    have : Decidable (Draft.Nested draft.itemLevel drafts) :=
      decidableNested draft.itemLevel drafts
    inferInstanceAs (Decidable (_ ∧ _))

/-- The drafts can be written one after the other. -/
structure Canonical (document : List Placed) : Prop where
  /-- Each can be written on its own. -/
  sound : ∀ placed ∈ document, placed.draft.Sound
  /-- None goes on with the one before it. -/
  meets : document.IsChain Placed.Meets
  /-- Items lie no more than one level deeper than the item before them. -/
  nested : Draft.Nested none (document.map Placed.draft)

instance (document : List Placed) : Decidable (Canonical document) :=
  decidable_of_iff ((∀ placed ∈ document, placed.draft.Sound) ∧ document.IsChain Placed.Meets ∧
      Draft.Nested none (document.map Placed.draft))
    ⟨fun h => ⟨h.1, h.2.1, h.2.2⟩, fun h => ⟨h.sound, h.meets, h.nested⟩⟩

/-- A line that is not blank, or no line, stands behind blank lines that are
    one block. -/
theorem blocksOfLines_gapBlocks (gap : Nat) (rest : List Text)
    (h : ∀ line ∈ rest.head?, Text.allBlank line = false) :
    blocksOfLines (List.replicate gap ['\n'] ++ rest) = gapBlocks gap ++ blocksOfLines rest := by
  cases gap with
  | zero => rfl
  | succ gap => exact blocksOfLines_gap gap h

theorem map_endLine_replicate (gap : Nat) :
    (List.replicate gap ([] : Text)).map endLine = List.replicate gap ['\n'] :=
  List.map_replicate

theorem bodiesAll_cons (placed : Placed) (document : List Placed) (gap : Nat) :
    (Placed.bodiesAll (placed :: document) gap).map endLine = List.replicate placed.gap ['\n'] ++
      (placed.draft.lines.map endLine ++ (Placed.bodiesAll document gap).map endLine) := by
  rw [Placed.bodiesAll, List.flatMap_cons, Placed.bodies, List.append_assoc, List.append_assoc,
    List.map_append, List.map_append, map_endLine_replicate, Placed.bodiesAll]

/-- A draft is over in front of blank lines. -/
theorem Draft.endsBefore_gap {draft : Draft} {gap : Nat} {rest : List Text}
    (h : gap = 0 → draft.EndsBefore rest) :
    draft.EndsBefore (List.replicate gap ['\n'] ++ rest) := by
  cases gap with
  | zero => exact h rfl
  | succ gap => exact draft.endsBefore_of_interrupts (interrupts_of_blank _ rfl)

/-- A draft is over in front of the drafts that follow it. -/
theorem endsBefore_bodiesAll {placed : Placed} {document : List Placed}
    (hsound : ∀ other ∈ document, other.draft.Sound)
    (hmeets : (placed :: document).IsChain Placed.Meets) (gap : Nat) :
    placed.draft.EndsBefore ((Placed.bodiesAll document gap).map endLine) := by
  cases document with
  | nil =>
      rw [Placed.bodiesAll, List.flatMap_nil, List.nil_append, map_endLine_replicate,
        ← List.append_nil (List.replicate gap _)]
      exact Draft.endsBefore_gap fun _ => placed.draft.endsBefore_nil
  | cons next document =>
      rw [bodiesAll_cons]
      exact Draft.endsBefore_gap fun hgap => Draft.endsBefore_of_touches
        (hsound next List.mem_cons_self) ((List.isChain_cons_cons.mp hmeets).1 hgap) _

/-- The lines of drafts are cut into their blocks. -/
theorem blocksOfLines_bodies {document : List Placed}
    (hsound : ∀ placed ∈ document, placed.draft.Sound) (hmeets : document.IsChain Placed.Meets)
    (gap : Nat) :
    blocksOfLines ((Placed.bodiesAll document gap).map endLine) =
      document.flatMap (fun placed => gapBlocks placed.gap ++ [placed.draft.cut]) ++
        gapBlocks gap := by
  induction document with
  | nil =>
      have hgap := blocksOfLines_gapBlocks gap [] fun line hline =>
        absurd hline (Option.not_mem_none line)
      rw [List.append_nil, blocksOfLines, List.append_nil] at hgap
      rw [Placed.bodiesAll, List.flatMap_nil, List.nil_append, map_endLine_replicate, hgap]
      rfl
  | cons placed document ih =>
      have hplaced := hsound placed List.mem_cons_self
      have hrest : ∀ other ∈ document, other.draft.Sound :=
        fun other hother => hsound other (List.mem_cons_of_mem _ hother)
      rcases Draft.exists_leads hplaced with ⟨c, hleads, _⟩
      -- The gap is one block, for the draft does not begin with a blank line.
      rw [bodiesAll_cons, blocksOfLines_gapBlocks, Draft.blocksOfLines_draft hplaced
        (endsBefore_bodiesAll hrest hmeets gap), ih hrest hmeets.tail, List.flatMap_cons,
        List.append_assoc, List.append_assoc]
      · rfl
      · exact fun line hline => Option.some.inj hline ▸ hleads.allBlank

/-! ### Levels -/

/-- The indentations of the level and of the levels above it, innermost
    first. -/
def indentations : Nat → List Nat
  | 0 => [0]
  | level + 1 => 2 * (level + 1) :: indentations level

/-- The indentations of the levels that are open behind an item, or behind
    anything else. -/
def openLevels (above : Option Nat) : List Nat :=
  above.elim [] indentations

theorem length_indentations (level : Nat) : (indentations level).length = level + 1 := by
  induction level with
  | zero => rfl
  | succ level ih => rw [indentations, List.length_cons, ih]

theorem head?_indentations (level : Nat) : (indentations level).head? = some (2 * level) := by
  cases level <;> rfl

/-- An item closes the levels below its own. -/
theorem dropWhile_indentations (level above : Nat) :
    (indentations above).dropWhile (fun indent => decide (2 * level < indent)) =
      indentations (min level above) := by
  induction above with
  | zero => rw [Nat.min_zero, indentations, List.dropWhile_cons, decide_eq_false (by omega),
      if_neg Bool.false_ne_true]
  | succ above ih =>
      rw [indentations, List.dropWhile_cons]
      by_cases hle : level ≤ above
      · rw [decide_eq_true (by omega), if_pos rfl, ih, Nat.min_eq_left hle,
          Nat.min_eq_left (Nat.le_succ_of_le hle)]
      · rw [decide_eq_false (by omega), if_neg Bool.false_ne_true, Nat.min_eq_right (by omega),
          indentations]

/-- An item opens the level that it was written for. -/
theorem enterLevel_openLevels {above : Option Nat} {level : Nat}
    (h : level ≤ above.elim 0 (· + 1)) :
    enterLevel (2 * level) (openLevels above) = indentations level := by
  cases above with
  | none =>
      rw [Nat.le_zero.mp h]
      rfl
  | some above =>
      simp only [enterLevel, openLevels, Option.elim_some, dropWhile_indentations,
        head?_indentations]
      by_cases hle : level ≤ above
      · rw [Nat.min_eq_left hle, if_pos rfl]
      · -- One level deeper than the item before it, nothing is closed.
        have heq : level = above + 1 := Nat.le_antisymm h (Nat.lt_of_not_le hle)
        rw [heq, Nat.min_eq_right (Nat.le_succ above), if_neg, indentations]
        rw [Option.some.injEq]
        omega

theorem assignLevels_gapBlocks (levels : List Nat) (gap : Nat) (rest : List Block) :
    assignLevels levels (gapBlocks gap ++ rest) = gapBlocks gap ++ assignLevels levels rest := by
  cases gap <;> rfl

/-- A draft gets the level that it was written for, and leaves that level
    open. -/
theorem place_cut {draft : Draft} {above : Option Nat}
    (h : ∀ level ∈ draft.itemLevel, level ≤ above.elim 0 (· + 1)) :
    draft.cut.place (openLevels above) = (draft.block, openLevels draft.itemLevel) := by
  cases draft with
  | item level marker task text =>
      have hplace : (Draft.item level marker task text).cut.place (openLevels above) =
          ({ (Draft.item level marker task text).cut with
              level := (enterLevel (2 * level) (openLevels above)).length - 1 },
            enterLevel (2 * level) (openLevels above)) := rfl
      rw [hplace, enterLevel_openLevels (h level rfl), length_indentations]
      rfl
  | heading => rfl
  | paragraph => rfl
  | fence => rfl
  | quote => rfl
  | rule => rfl
  | table => rfl

/-- The items of drafts get the levels that they were written for. -/
theorem assignLevels_openLevels {document : List Placed} {above : Option Nat}
    (h : Draft.Nested above (document.map Placed.draft)) (gap : Nat) :
    assignLevels (openLevels above)
        (document.flatMap (fun placed => gapBlocks placed.gap ++ [placed.draft.cut]) ++
          gapBlocks gap) =
      Placed.blocksAll document gap := by
  induction document generalizing above with
  | nil =>
      have hgap := assignLevels_gapBlocks (openLevels above) gap []
      rw [List.append_nil] at hgap
      exact hgap.trans (List.append_nil _)
  | cons placed document ih =>
      rw [List.flatMap_cons, List.append_assoc, List.append_assoc, assignLevels_gapBlocks,
        List.singleton_append, assignLevels_cons, place_cut h.1, ih h.2, Placed.blocksAll,
        Placed.blocksAll, List.flatMap_cons, Placed.blocks, List.append_assoc, List.append_assoc,
        List.singleton_append]

/-! ### The whole -/

/-- The lines of a document are those that were written. -/
theorem lines_writeAll {document : List Placed} (hsound : ∀ placed ∈ document, placed.draft.Sound)
    (gap : Nat) :
    Text.lines (Placed.writeAll document gap) = (Placed.bodiesAll document gap).map endLine := by
  have hfeed : ∀ body ∈ Placed.bodiesAll document gap, '\n' ∉ body := by
    intro body hbody
    have hblank {count : Nat} (h : body ∈ List.replicate count ([] : Text)) : '\n' ∉ body := by
      rw [List.eq_of_mem_replicate h]
      exact List.not_mem_nil
    rcases List.mem_append.mp hbody with hplaced | hgap
    · rcases List.mem_flatMap.mp hplaced with ⟨placed, hmem, hbody⟩
      rcases List.mem_append.mp hbody with hgap | hline
      · exact hblank hgap
      · exact (Draft.isBody_of_mem_lines (hsound placed hmem) body hline).1
    · exact hblank hgap
  rw [Placed.writeAll, lines_flatMap_endLine hfeed]

theorem Draft.first_ne_nil {draft : Draft} (h : draft.Sound) : draft.first ≠ [] := by
  rcases exists_leads h with ⟨c, hleads, _⟩
  intro hnil
  have hblank := hleads.allBlank
  rw [hnil] at hblank
  exact absurd hblank (by decide)

/-- The last line of a draft is not empty. -/
theorem Draft.exists_lines_concat {draft : Draft} (h : draft.Sound) :
    ∃ front line, draft.lines = front ++ [line] ∧ line ≠ [] := by
  -- Lines of code can be empty, but the line behind them closes the fence.
  have hlast {line : Text} (hmem : line ∈ draft.more) (hend : draft.more.getLast? = some line) :
      line ≠ [] := by
    cases draft with
    | heading => exact absurd hmem List.not_mem_nil
    | paragraph first more =>
        rcases (h line (List.mem_cons_of_mem _ hmem)).2.exists_cons with ⟨c, rest, rfl, _⟩
        exact List.cons_ne_nil c rest
    | fence info body =>
        rw [Draft.more, List.getLast?_concat] at hend
        rw [← Option.some.inj hend]
        exact List.cons_ne_nil _ _
    | quote depth first more =>
        rcases List.mem_map.mp hmem with ⟨body, _, rfl⟩
        exact List.append_ne_nil_of_right_ne_nil _ (List.cons_ne_nil _ _)
    | item => exact absurd hmem List.not_mem_nil
    | rule => exact absurd hmem List.not_mem_nil
    | table header separator rows =>
        rcases List.mem_map.mp hmem with ⟨cells, _, rfl⟩
        exact List.cons_ne_nil _ _
  rcases List.eq_nil_or_concat draft.more with hnil | ⟨front, line, hmore⟩
  · exact ⟨[], draft.first, by rw [lines, hnil]; rfl, first_ne_nil h⟩
  · rw [List.concat_eq_append] at hmore
    refine ⟨draft.first :: front, line, by rw [lines, hmore]; rfl, hlast ?_ ?_⟩
    · rw [hmore]
      exact List.mem_append_right _ List.mem_cons_self
    · rw [hmore, List.getLast?_concat]

/-- A document ends with a line that is neither empty nor ends like one that is
    ended. -/
theorem getLast?_of_writeAll {document : List Placed}
    (hsound : ∀ placed ∈ document, placed.draft.Sound) {text : Text}
    (h : Placed.writeAll document 0 = text ++ ['\n']) :
    ∃ c, text.getLast? = some c ∧ c ≠ '\n' ∧ c ≠ '\r' := by
  rcases List.eq_nil_or_concat document with rfl | ⟨before, placed, rfl⟩
  · exact absurd h.symm (List.append_ne_nil_of_right_ne_nil _ (List.cons_ne_nil _ _))
  · -- With no blank line behind it, the last line is that of the last draft.
    rw [List.concat_eq_append] at h hsound
    have hplaced := hsound placed (List.mem_append_right _ List.mem_cons_self)
    rcases Draft.exists_lines_concat hplaced with ⟨front, line, hlines, hne⟩
    have hbody := Draft.isBody_of_mem_lines hplaced line (by rw [hlines]; simp)
    have hwrite : Placed.writeAll (before ++ [placed]) 0 =
        (before.flatMap Placed.bodies ++ List.replicate placed.gap [] ++ front).flatMap endLine ++
          line ++ ['\n'] := by
      simp [Placed.writeAll, Placed.bodiesAll, Placed.bodies, hlines, endLine]
    have htext := List.append_cancel_right (h.symm.trans hwrite)
    rcases hc : line.getLast? with _ | c
    · exact absurd (List.getLast?_eq_none_iff.mp hc) hne
    · refine ⟨c, by rw [htext, List.getLast?_append, hc]; rfl, ?_, ?_⟩
      · rintro rfl
        exact hbody.1 (List.mem_of_getLast? hc)
      · rintro rfl
        exact hbody.2 hc

/-- A canonical document is read as what was written: every draft is a block with
    its kind, its source, its content and its level, and there are no other
    blocks than the blank lines in between. Nothing that is shown changes if the
    last line lacks its end. -/
theorem ofText_writeAll {document : List Placed} (h : Canonical document) (gap : Nat) :
    (Document.ofText (Placed.writeAll document gap)).blocks = Placed.blocksAll document gap ∧
      ∀ text, Placed.writeAll document 0 = text ++ ['\n'] →
        List.Forall₂ Block.Alike (Placed.blocksAll document 0) (Document.ofText text).blocks := by
  have hread (gap : Nat) :
      (Document.ofText (Placed.writeAll document gap)).blocks = Placed.blocksAll document gap := by
    rw [Document.ofText, lines_writeAll h.sound, blocksOfLines_bodies h.sound h.meets]
    exact assignLevels_openLevels h.nested gap
  refine ⟨hread gap, fun text htext => ?_⟩
  rcases getLast?_of_writeAll h.sound htext with ⟨c, hc, hfeed, hreturn⟩
  have halike := ofText_congr (sameLines_append_feed hc hfeed hreturn)
  rw [← htext, hread 0] at halike
  exact halike

/-- One draft of each kind, with no blank line but the one behind the list. -/
theorem ofText_writeAll_each_kind :
    let document : List Placed :=
      [⟨0, .heading 2 "Head".toList⟩, ⟨0, .item 0 (.bullet '-') none "one".toList⟩,
        ⟨0, .item 1 (.ordered 10 ')') (some true) "two".toList⟩, ⟨1, .paragraph "said".toList []⟩,
        ⟨0, .quote 2 "so".toList []⟩,
        ⟨0, .table ["a".toList, "b".toList] ["---".toList, " --- ".toList] []⟩, ⟨0, .rule⟩,
        ⟨0, .fence "rs".toList ["x".toList]⟩]
    let text :=
      "## Head\n- one\n  10) [x] two\n\nsaid\n>> so\n|a|b|\n|---| --- |\n---\n```rs\nx\n```".toList
    Canonical document ∧ Placed.writeAll document 0 = text ++ ['\n'] ∧
      (Document.ofText (text ++ ['\n'])).blocks = Placed.blocksAll document 0 ∧
      List.Forall₂ Block.Alike (Placed.blocksAll document 0) (Document.ofText text).blocks := by
  intro document text
  have hcanonical : Canonical document := by decide +kernel
  have hwrite : Placed.writeAll document 0 = text ++ ['\n'] := by decide +kernel
  have hread := ofText_writeAll hcanonical 0
  exact ⟨hcanonical, hwrite, hwrite ▸ hread.1, hread.2 text hwrite⟩

end ChatMarkup
