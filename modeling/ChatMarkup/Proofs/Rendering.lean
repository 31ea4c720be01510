import ChatMarkup.Document.Convert
import ChatMarkup.Proofs.LineEnds
import ChatMarkup.Proofs.Lines
import ChatMarkup.Proofs.Nesting

/-!
# Writing Blocks in a Row

What the message of a sequence of blocks owes to its parts.

Blocks are written one after the other, and the only thing that passes from one
to the next is the numbering of lists. So the lines of two sequences in a row
are the lines of the first and then those of the second, written with the
numbering that the first leaves behind. A block that is neither blank nor a
list item leaves none, and does not use any.

Dropping blank blocks at the ends and the last line feed spoils this rule only
where the sequences meet. If they meet at text, with one block of blank lines
between them, nothing is dropped there, and the message is put together from
the messages of the parts. Around a single block that is not blank, nothing
beyond the block is dropped from either side.

## Main definitions

* `RichBlock.SameRendering`: Two blocks are written the same way.
* `numberingAfter`: The numbering that blocks leave behind.
* `dropBlanksAtEnd`: Blocks without blank ones at their end.

## Theorems

* `renderAll_append`, `renderAll_rowSpans`: Spans and rows are shown one after the
  other.
* `renderBlocks_congr`: Blocks that are written the same way make the same
  message.
* `renderLines_append`: The lines of blocks after others.
* `getLast?_render`, `whole_renderLines`: Blocks are written as whole lines.
* `renderBlocks_append`: The message of two sequences with blank lines between
  them.
* `renderBlocks_around`: The message around a block that is not blank.
* `renderLines_of_lists_off`: Without list conversion there is no numbering.
-/

namespace ChatMarkup

/-! ### Spans in a row -/

namespace Span

theorem renderAll_append (look : Look) (xs ys : List Span) :
    renderAll look (xs ++ ys) = renderAll look xs ++ renderAll look ys := by
  induction xs with
  | nil => rfl
  | cons x xs ih => rw [List.cons_append, renderAll, renderAll, ih, List.append_assoc]

theorem renderAll_singleton (look : Look) (span : Span) :
    renderAll look [span] = span.render look := by
  rw [renderAll, renderAll, List.append_nil]

end Span

/-- Rows are shown one under the other. -/
theorem renderAll_rowSpans (look : Look) (switches : Inline.Switches) (rows : List Text) :
    Span.renderAll look (rowSpans switches rows) =
      Text.joinWith '\n'
        (rows.map fun row => Span.renderAll look (Inline.parse switches row)) := by
  fun_induction rowSpans switches rows with
  | case1 => rfl
  | case2 row => rfl
  | case3 row next rows ih =>
      rw [Span.renderAll_append, Span.renderAll, ih]
      rfl

/-! ### Blocks in a row -/

/-- The two blocks are written the same way and leave the same numbering
    behind. -/
structure RichBlock.SameRendering (config : Config) (block block' : RichBlock) : Prop where
  isBlank : block.isBlank = block'.isBlank
  render : ∀ numbering, block.render config numbering = block'.render config numbering
  after : ∀ numbering, block.after config numbering = block'.after config numbering

section Rendering

variable {config : Config} {xs ys : List RichBlock}

theorem renderLines_congr (h : List.Forall₂ (RichBlock.SameRendering config) xs ys)
    (numbering : Numbering) :
    renderLines config numbering xs = renderLines config numbering ys := by
  induction h generalizing numbering with
  | nil => rfl
  | cons hblock _ ih =>
      rw [renderLines, renderLines, hblock.render, hblock.after, ih]

theorem dropBlanks_congr (h : List.Forall₂ (RichBlock.SameRendering config) xs ys) :
    List.Forall₂ (RichBlock.SameRendering config) (xs.dropWhile RichBlock.isBlank)
      (ys.dropWhile RichBlock.isBlank) := by
  induction h with
  | nil => exact .nil
  | cons hblock hrest ih =>
      rw [List.dropWhile_cons, List.dropWhile_cons, hblock.isBlank]
      split
      · exact ih
      · exact .cons hblock hrest

theorem trimBlanks_congr (h : List.Forall₂ (RichBlock.SameRendering config) xs ys) :
    List.Forall₂ (RichBlock.SameRendering config) (trimBlanks xs) (trimBlanks ys) :=
  List.forall₂_reverse_iff.mpr
    (dropBlanks_congr (List.forall₂_reverse_iff.mpr (dropBlanks_congr h)))

/-- Blocks that are written the same way make the same message. -/
theorem renderBlocks_congr (h : List.Forall₂ (RichBlock.SameRendering config) xs ys) :
    renderBlocks config xs = renderBlocks config ys := by
  rw [renderBlocks, renderBlocks, renderLines_congr (trimBlanks_congr h)]

end Rendering

/-- The numbering that the blocks leave behind. -/
def numberingAfter (config : Config) (numbering : Numbering) (blocks : List RichBlock) :
    Numbering :=
  blocks.foldl (fun numbering block => block.after config numbering) numbering

/-- Blocks after others are written with the numbering that those leave
    behind. -/
theorem renderLines_append (config : Config) (numbering : Numbering) (xs ys : List RichBlock) :
    renderLines config numbering (xs ++ ys)
      = renderLines config numbering xs ++
          renderLines config (numberingAfter config numbering xs) ys := by
  induction xs generalizing numbering with
  | nil => rfl
  | cons block xs ih =>
      rw [List.cons_append, renderLines, renderLines, ih, List.append_assoc]
      rfl

/-! ### Whole lines -/

theorem getLast?_endLine (line : Text) : (endLine line).getLast? = some '\n' := by
  rw [endLine, List.getLast?_concat]

theorem getLast?_append_endLine (s line : Text) : (s ++ endLine line).getLast? = some '\n' := by
  rw [List.getLast?_append, getLast?_endLine]
  rfl

theorem getLast?_flatMap_endLine {α : Type} (f : α → Text) {xs : List α} (h : xs ≠ []) :
    (xs.flatMap fun x => endLine (f x)).getLast? = some '\n' := by
  rcases List.eq_nil_or_concat xs with rfl | ⟨front, x, rfl⟩
  · exact absurd rfl h
  · rw [List.concat_eq_append, List.flatMap_append, List.flatMap_singleton,
      getLast?_append_endLine]

theorem areLines_map_endLine {bodies : List Text} (h : ∀ body ∈ bodies, '\n' ∉ body) :
    Text.AreLines (bodies.map endLine) := by
  induction bodies with
  | nil => exact .nil
  | cons body bodies ih =>
      exact .cons body _ (h body List.mem_cons_self)
        (ih fun other hother => h other (List.mem_cons_of_mem _ hother))

/-- Lines that are written with their ends are read with them. -/
theorem lines_flatMap_endLine {bodies : List Text} (h : ∀ body ∈ bodies, '\n' ∉ body) :
    Text.lines (bodies.flatMap endLine) = bodies.map endLine := by
  rw [List.flatMap_def, Text.lines_flatten (areLines_map_endLine h)]

theorem flatMap_endLine_eq {bodies : List Text} (h : bodies ≠ []) :
    bodies.flatMap endLine = endLine (Text.joinWith '\n' bodies) := by
  induction bodies with
  | nil => exact absurd rfl h
  | cons body bodies ih =>
      cases bodies with
      | nil => exact List.append_nil _
      | cons next bodies =>
          rw [List.flatMap_cons, ih (List.cons_ne_nil _ _), Text.joinWith, endLine, endLine,
            endLine, List.append_assoc, List.append_assoc]
          rfl

/-- The first line of an item carries the mark, so there is one even if there is
    no text. -/
theorem getLast?_itemLines (mark text : Text) : (itemLines mark text).getLast? = some '\n' := by
  rw [itemLines]
  split
  · exact getLast?_endLine _
  · next first rest _ =>
      cases rest with
      | nil =>
          rw [List.flatMap_nil, List.append_nil]
          exact getLast?_endLine _
      | cons line rest =>
          rw [List.getLast?_append, getLast?_flatMap_endLine _ (List.cons_ne_nil _ _)]
          rfl

/-- A block is written as whole lines, or not at all if it is shown from a source
    without lines. -/
theorem source_nil_or_getLast?_render (config : Config) (numbering : Numbering)
    (block : RichBlock) :
    (block.source = [] ∧ block.render config numbering = []) ∨
      (block.render config numbering).getLast? = some '\n' := by
  obtain ⟨kind, source, level, spans⟩ := block
  cases kind with
  | blank =>
      by_cases h : source = []
      · exact .inl ⟨h, by rw [h]; rfl⟩
      · have hpos : Block.lineCount source ≠ 0 := by
          rw [Block.lineCount, Ne, List.length_eq_zero_iff]
          exact Text.lines_ne_nil h
        refine .inr ?_
        simp [RichBlock.render, List.getLast?_replicate, hpos]
  | fence info closed =>
      by_cases h : source = []
      · exact .inl ⟨h, by rw [h]; rfl⟩
      · exact .inr (getLast?_flatMap_endLine _ (Text.lines_ne_nil h))
  | paragraph => exact .inr (getLast?_endLine _)
  | heading level => exact .inr (getLast?_endLine _)
  | listItem marker indent task => exact .inr (getLast?_itemLines _ _)
  | quote => exact .inr (getLast?_flatMap_endLine _ (Text.splitOn_ne_nil _ _))
  | table =>
      refine .inr ?_
      simp only [RichBlock.render]
      split
      · exact getLast?_append_endLine _ _
      · exact getLast?_endLine _
  | rule =>
      refine .inr ?_
      simp only [RichBlock.render]
      split
      · exact getLast?_endLine _
      · exact getLast?_endLine _

theorem getLast?_render (config : Config) (numbering : Numbering) {block : RichBlock}
    (h : block.source ≠ []) : (block.render config numbering).getLast? = some '\n' :=
  (source_nil_or_getLast?_render config numbering block).resolve_left fun hnil => h hnil.1

theorem whole_render (config : Config) (numbering : Numbering) (block : RichBlock) :
    Text.Whole (block.render config numbering) := by
  rcases source_nil_or_getLast?_render config numbering block with ⟨_, hnil⟩ | hfeed
  · exact hnil ▸ Text.whole_nil
  · exact Text.whole_of_getLast? hfeed

theorem whole_renderLines (config : Config) (numbering : Numbering) (xs : List RichBlock) :
    Text.Whole (renderLines config numbering xs) := by
  induction xs generalizing numbering with
  | nil => exact Text.whole_nil
  | cons block xs ih => exact (whole_render config numbering block).append (ih _)

/-- Blocks are written as whole lines. -/
theorem getLast?_renderLines (config : Config) (numbering : Numbering) {xs : List RichBlock}
    (hne : xs ≠ []) (hsource : ∀ block ∈ xs, block.source ≠ []) :
    (renderLines config numbering xs).getLast? = some '\n' := by
  rcases List.eq_nil_or_concat xs with rfl | ⟨front, last, rfl⟩
  · exact absurd rfl hne
  · rw [List.concat_eq_append] at hsource ⊢
    have hlast : last.source ≠ [] := hsource last (by simp)
    rw [renderLines_append, renderLines, renderLines, List.append_nil, List.getLast?_append,
      getLast?_render config _ hlast]
    rfl

/-! ### Sequences that meet at text -/

/-- The first block is not blank. -/
def BeginsInText (blocks : List RichBlock) : Prop :=
  ∃ first, blocks.head? = some first ∧ first.isBlank = false

/-- The last block is not blank. -/
def EndsInText (blocks : List RichBlock) : Prop :=
  ∃ last, blocks.getLast? = some last ∧ last.isBlank = false

theorem dropBlanks_append {xs : List RichBlock} (ys : List RichBlock)
    (h : ∃ block ∈ xs, block.isBlank = false) :
    (xs ++ ys).dropWhile RichBlock.isBlank = xs.dropWhile RichBlock.isBlank ++ ys := by
  rcases h with ⟨block, hmem, hblank⟩
  have hne : (xs.dropWhile RichBlock.isBlank).isEmpty = false := by
    rw [List.isEmpty_eq_false_iff]
    intro hnil
    have hall := List.takeWhile_append_dropWhile (p := RichBlock.isBlank) (l := xs)
    rw [hnil, List.append_nil] at hall
    rw [← hall] at hmem
    have htext := List.all_eq_true.mp List.all_takeWhile block hmem
    exact absurd (htext.symm.trans hblank) (by decide)
  rw [List.dropWhile_append, hne, if_neg Bool.false_ne_true]

theorem dropBlanks_of_begins {xs : List RichBlock} (h : BeginsInText xs) :
    xs.dropWhile RichBlock.isBlank = xs := by
  rcases h with ⟨first, hfirst, hblank⟩
  rcases List.head?_eq_some_iff.mp hfirst with ⟨rest, rfl⟩
  rw [List.dropWhile_cons, hblank, if_neg Bool.false_ne_true]

theorem EndsInText.reverse {xs : List RichBlock} (h : EndsInText xs) : BeginsInText xs.reverse := by
  rcases h with ⟨last, hlast, hblank⟩
  exact ⟨last, by rw [List.head?_reverse]; exact hlast, hblank⟩

theorem EndsInText.exists_mem {xs : List RichBlock} (h : EndsInText xs) :
    ∃ block ∈ xs, block.isBlank = false := by
  rcases h with ⟨last, hlast, hblank⟩
  exact ⟨last, List.mem_of_getLast? hlast, hblank⟩

theorem BeginsInText.exists_mem {xs : List RichBlock} (h : BeginsInText xs) :
    ∃ block ∈ xs, block.isBlank = false := by
  rcases h with ⟨first, hfirst, hblank⟩
  exact ⟨first, List.mem_of_head? hfirst, hblank⟩

theorem trimBlanks_of_begins {xs : List RichBlock} (h : BeginsInText xs) :
    trimBlanks xs = (xs.reverse.dropWhile RichBlock.isBlank).reverse := by
  rw [trimBlanks, dropBlanks_of_begins h]

/-- A last block that is not blank is not dropped with blank blocks before
    it. -/
theorem getLast?_dropBlanks {xs : List RichBlock} {last : RichBlock}
    (hlast : xs.getLast? = some last) (hblank : last.isBlank = false) :
    (xs.dropWhile RichBlock.isBlank).getLast? = some last := by
  rcases List.getLast?_eq_some_iff.mp hlast with ⟨front, rfl⟩
  rw [List.dropWhile_append]
  split
  · rw [List.dropWhile_cons, hblank, if_neg Bool.false_ne_true]
    rfl
  · rw [List.getLast?_concat]

theorem EndsInText.dropBlanks {xs : List RichBlock} (h : EndsInText xs) :
    EndsInText (xs.dropWhile RichBlock.isBlank) := by
  rcases h with ⟨last, hlast, hblank⟩
  exact ⟨last, getLast?_dropBlanks hlast hblank, hblank⟩

theorem trimBlanks_of_ends {xs : List RichBlock} (h : EndsInText xs) :
    trimBlanks xs = xs.dropWhile RichBlock.isBlank := by
  rw [trimBlanks, dropBlanks_of_begins h.dropBlanks.reverse, List.reverse_reverse]

/-- Blank blocks are dropped up to a block that is not blank and no further. -/
theorem dropBlanks_around (front back : List RichBlock) {block : RichBlock}
    (h : block.isBlank = false) :
    (front ++ block :: back).dropWhile RichBlock.isBlank =
      front.dropWhile RichBlock.isBlank ++ block :: back := by
  induction front with
  | nil => rw [List.nil_append, List.dropWhile_cons, h, if_neg Bool.false_ne_true]; rfl
  | cons first front ih =>
      rw [List.cons_append, List.dropWhile_cons, List.dropWhile_cons, ih]
      split <;> rfl

/-- The blocks without blank ones at their end. -/
def dropBlanksAtEnd (blocks : List RichBlock) : List RichBlock :=
  (blocks.reverse.dropWhile RichBlock.isBlank).reverse

theorem trimBlanks_around (front back : List RichBlock) {block : RichBlock}
    (h : block.isBlank = false) :
    trimBlanks (front ++ block :: back) =
      front.dropWhile RichBlock.isBlank ++ block :: dropBlanksAtEnd back := by
  rw [trimBlanks, dropBlanks_around front back h, List.reverse_append, List.reverse_cons,
    List.append_assoc, List.singleton_append, dropBlanks_around _ _ h, List.reverse_append,
    List.reverse_cons, List.reverse_reverse, List.append_assoc, List.singleton_append,
    dropBlanksAtEnd]

/-- Blocks that meet at text keep what stands between them. -/
theorem trimBlanks_append {xs ys : List RichBlock} (gap : RichBlock) (hxs : EndsInText xs)
    (hys : BeginsInText ys) :
    trimBlanks (xs ++ gap :: ys) = trimBlanks xs ++ gap :: trimBlanks ys := by
  have hback : ∃ block ∈ ys.reverse, block.isBlank = false := by
    rcases hys.exists_mem with ⟨block, hmem, hblank⟩
    exact ⟨block, List.mem_reverse.mpr hmem, hblank⟩
  -- From either side, dropping stops before it comes to the gap.
  rw [trimBlanks, dropBlanks_append _ hxs.exists_mem, List.reverse_append, List.reverse_cons,
    List.append_assoc, dropBlanks_append _ hback, trimBlanks_of_ends hxs, trimBlanks_of_begins hys]
  simp

theorem getLast?_trimBlanks {xs : List RichBlock} {last : RichBlock}
    (hlast : xs.getLast? = some last) (hblank : last.isBlank = false) :
    (trimBlanks xs).getLast? = some last := by
  rw [trimBlanks_of_ends ⟨last, hlast, hblank⟩, getLast?_dropBlanks hlast hblank]

theorem head?_trimBlanks {xs : List RichBlock} {first : RichBlock}
    (hfirst : xs.head? = some first) (hblank : first.isBlank = false) :
    (trimBlanks xs).head? = some first := by
  rw [← List.getLast?_reverse] at hfirst
  rw [trimBlanks_of_begins ⟨first, by rw [← List.getLast?_reverse]; exact hfirst, hblank⟩,
    List.head?_reverse, getLast?_dropBlanks hfirst hblank]

theorem mem_of_mem_trimBlanks {xs : List RichBlock} {block : RichBlock}
    (h : block ∈ trimBlanks xs) : block ∈ xs := by
  rw [trimBlanks, List.mem_reverse] at h
  have hmem := (List.dropWhile_sublist _).subset h
  rw [List.mem_reverse] at hmem
  exact (List.dropWhile_sublist _).subset hmem

theorem dropLastIf_of_getLast? {c : Char} {s : Text} (h : s.getLast? = some c) :
    s = Text.dropLastIf c s ++ [c] := by
  rcases List.getLast?_eq_some_iff.mp h with ⟨front, rfl⟩
  rw [Text.dropLastIf_concat, if_pos rfl]

theorem dropLastIf_append {c : Char} (s : Text) {t : Text} (h : t.getLast? = some c) :
    Text.dropLastIf c (s ++ t) = s ++ Text.dropLastIf c t := by
  rcases List.getLast?_eq_some_iff.mp h with ⟨front, rfl⟩
  rw [← List.append_assoc, Text.dropLastIf_concat, Text.dropLastIf_concat, if_pos rfl, if_pos rfl]

section Meeting

variable {config : Config} {xs ys : List RichBlock}

/-- The lines of blocks of which one is not blank are their message with the
    end of its last line. -/
theorem renderLines_eq_renderBlocks (hne : trimBlanks xs ≠ [])
    (hsource : ∀ block ∈ xs, block.source ≠ []) :
    renderLines config .start (trimBlanks xs) = renderBlocks config xs ++ ['\n'] := by
  rw [renderBlocks]
  exact dropLastIf_of_getLast? (getLast?_renderLines config _ hne fun block hmem =>
    hsource block (mem_of_mem_trimBlanks hmem))

theorem EndsInText.trimBlanks_ne_nil (h : EndsInText xs) : trimBlanks xs ≠ [] := by
  rcases h with ⟨last, hlast, hblank⟩
  intro hnil
  have htrim := getLast?_trimBlanks hlast hblank
  rw [hnil] at htrim
  exact absurd htrim (by simp)

theorem BeginsInText.trimBlanks_ne_nil (h : BeginsInText xs) : trimBlanks xs ≠ [] := by
  rcases h with ⟨first, hfirst, hblank⟩
  intro hnil
  have htrim := head?_trimBlanks hfirst hblank
  rw [hnil] at htrim
  exact absurd htrim (by simp)

/-- The message of two sequences that meet at text, with blank lines between
    them, is the messages of the parts and the blank lines, as long as the
    numbering of the first does not show in the second. -/
theorem renderBlocks_append {gap : RichBlock} (hgap : gap.kind = .blank) (hxs : EndsInText xs)
    (hys : BeginsInText ys) (hxsource : ∀ block ∈ xs, block.source ≠ [])
    (hysource : ∀ block ∈ ys, block.source ≠ [])
    (hcut : renderLines config (numberingAfter config .start (trimBlanks xs)) (trimBlanks ys)
      = renderLines config .start (trimBlanks ys)) :
    renderBlocks config (xs ++ gap :: ys)
      = renderBlocks config xs ++
          '\n' :: (gap.render config .start ++ renderBlocks config ys) := by
  have hrender : ∀ numbering, gap.render config numbering = gap.render config .start := by
    intro numbering
    simp only [RichBlock.render, hgap]
  have hafter : ∀ numbering, gap.after config numbering = numbering := by
    intro numbering
    simp only [RichBlock.after, hgap]
  have hend : (renderLines config .start (trimBlanks ys)).getLast? = some '\n' := by
    rw [renderLines_eq_renderBlocks hys.trimBlanks_ne_nil hysource, List.getLast?_concat]
  calc renderBlocks config (xs ++ gap :: ys)
      = Text.dropLastIf '\n' (renderLines config .start (trimBlanks xs) ++
          (gap.render config .start ++ renderLines config .start (trimBlanks ys))) := by
        rw [renderBlocks, trimBlanks_append gap hxs hys, renderLines_append, renderLines, hrender,
          hafter, hcut]
    _ = renderLines config .start (trimBlanks xs) ++
          (gap.render config .start ++ renderBlocks config ys) := by
        rw [← List.append_assoc, dropLastIf_append _ hend, List.append_assoc, renderBlocks]
    _ = renderBlocks config xs ++ '\n' :: (gap.render config .start ++ renderBlocks config ys) := by
        rw [renderLines_eq_renderBlocks hxs.trimBlanks_ne_nil hxsource, List.append_assoc,
          List.singleton_append]

end Meeting

theorem after_of_isBlank {block : RichBlock} (h : block.isBlank = true) (config : Config)
    (numbering : Numbering) : block.after config numbering = numbering := by
  have hkind : block.kind = .blank := eq_of_beq h
  simp only [RichBlock.after, hkind]

/-- Blank blocks do not change the numbering. -/
theorem numberingAfter_dropBlanks (config : Config) (numbering : Numbering)
    (xs : List RichBlock) :
    numberingAfter config numbering (xs.dropWhile RichBlock.isBlank) =
      numberingAfter config numbering xs := by
  induction xs with
  | nil => rfl
  | cons block xs ih =>
      rw [List.dropWhile_cons]
      split
      · next hblank =>
          rw [ih, numberingAfter, numberingAfter, List.foldl_cons, after_of_isBlank hblank]
      · rfl

/-- The message around a block that shows some text. Blocks before it are written
    as at the start of any message, it is written with the numbering that they
    leave behind, and the blocks after it go on from there. -/
theorem renderBlocks_around (config : Config) (front back : List RichBlock) {block : RichBlock}
    (hblank : block.isBlank = false)
    (hends : (block.render config (numberingAfter config .start front)).getLast? = some '\n') :
    renderBlocks config (front ++ block :: back) ++ ['\n'] =
      renderLines config .start (front.dropWhile RichBlock.isBlank) ++
        block.render config (numberingAfter config .start front) ++
        renderLines config (block.after config (numberingAfter config .start front))
          (dropBlanksAtEnd back) := by
  have hlines : renderLines config .start (trimBlanks (front ++ block :: back)) =
      renderLines config .start (front.dropWhile RichBlock.isBlank) ++
        block.render config (numberingAfter config .start front) ++
        renderLines config (block.after config (numberingAfter config .start front))
          (dropBlanksAtEnd back) := by
    rw [trimBlanks_around front back hblank, renderLines_append, numberingAfter_dropBlanks,
      renderLines, List.append_assoc]
  rw [renderBlocks, hlines]
  -- There is a last line, if only that of the block.
  refine (dropLastIf_of_getLast? ?_).symm
  rw [List.getLast?_append]
  rcases hlast : (renderLines config _ (dropBlanksAtEnd back)).getLast? with _ | c
  · rw [List.getLast?_append, hends]
    rfl
  · rw [whole_renderLines _ _ _ c hlast]
    rfl

/-! ### Numbering at the meeting -/

/-- Without list conversion no block is numbered. -/
theorem renderLines_of_lists_off {config : Config} (h : config.convert.lists = false)
    (numbering numbering' : Numbering) (xs : List RichBlock) :
    renderLines config numbering xs = renderLines config numbering' xs := by
  induction xs generalizing numbering numbering' with
  | nil => rfl
  | cons block xs ih =>
      have hrender : block.render config numbering = block.render config numbering' := by
        simp only [RichBlock.render, itemMark, h]
        rfl
      rw [renderLines, renderLines, hrender, ih]

/-- A block that is neither blank nor a list item starts the numbering anew and
    does not show it. -/
theorem outside_lists {block : RichBlock} (hblank : block.isBlank = false)
    (hitem : block.kind.isItem = false) (config : Config) (numbering numbering' : Numbering) :
    block.after config numbering = .start ∧
      block.render config numbering = block.render config numbering' := by
  obtain ⟨kind, source, level, spans⟩ := block
  cases kind with
  | blank => exact absurd hblank (by simp [RichBlock.isBlank, Block.Kind.isBlank])
  | listItem => exact absurd hitem (by simp [Block.Kind.isItem])
  | paragraph => exact ⟨rfl, rfl⟩
  | heading => exact ⟨rfl, rfl⟩
  | fence => exact ⟨rfl, rfl⟩
  | quote => exact ⟨rfl, rfl⟩
  | table => exact ⟨rfl, rfl⟩
  | rule => exact ⟨rfl, rfl⟩

theorem numberingAfter_of_ends {xs : List RichBlock} {last : RichBlock}
    (hlast : xs.getLast? = some last) (hblank : last.isBlank = false)
    (hitem : last.kind.isItem = false) (config : Config) (numbering : Numbering) :
    numberingAfter config numbering xs = .start := by
  rcases List.getLast?_eq_some_iff.mp hlast with ⟨front, rfl⟩
  rw [numberingAfter, List.foldl_append, List.foldl_cons, List.foldl_nil,
    (outside_lists hblank hitem config _ .start).1]

theorem renderLines_of_begins {xs : List RichBlock} {first : RichBlock}
    (hfirst : xs.head? = some first) (hblank : first.isBlank = false)
    (hitem : first.kind.isItem = false) (config : Config) (numbering numbering' : Numbering) :
    renderLines config numbering xs = renderLines config numbering' xs := by
  rcases List.head?_eq_some_iff.mp hfirst with ⟨rest, rfl⟩
  rw [renderLines, renderLines, (outside_lists hblank hitem config numbering numbering').1,
    (outside_lists hblank hitem config numbering numbering').2,
    (outside_lists hblank hitem config numbering' numbering').1]

end ChatMarkup
