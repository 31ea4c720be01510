import ChatMarkup.Proofs.LineCounts

/-!
# Maximal Blocks

Every block takes all the lines that it can.

Each kind of block has a rule of its own for how far it goes. A paragraph and a
list item go on with lines that start no block, so what ends them is by itself
something that the next line opens. Blank lines, rows, quoted lines and code go
by other tests, and that these agree with what the next line opens is not written
down anywhere: it has to be shown that the line at which a block stops does not
open something that the block should have gone on with. What makes it work is
that both are tests of the same line. `Opening.StopsAt` says for each kind what is
known of the line behind a block, and `Block.EndsAt` what follows for the block
that begins there.

The levels of list items are assigned after cutting. They play no part in where
blocks end, so what holds between neighbours when they are cut holds in the
document.

## Main definitions

* `Opening.StopsAt`: What a block knows of the line behind it.
* `Block.EndsAt`: The block could not have taken the lines of the next one.
* `Block.Measured`: The level of a block and the number of its lines are in
  order.

## Theorems

* `Opening.stopsAt`: The line behind a block is one that it refuses.
* `isChain_blocksOfLines`: Every block ends at the next.
* `ofText_maximal`: The blocks of a document are maximal, and measured.
-/

namespace ChatMarkup

/-! ### Where blocks stop -/

/-- What is known of the line behind a block, given the line after that. -/
def Opening.StopsAt (line : Text) (next : Option Text) : Opening → Prop
  | .blank => Text.allBlank line = false
  | .table => Table.isRow line = false
  | .item i => Opening.ofLine line next = .paragraph → Text.indentation line ≤ i.indent
  | .quote depth _ => isQuotedAt depth line = false
  | .paragraph => Opening.ofLine line next ≠ .paragraph
  | .fence _ | .rule | .heading _ _ => True

theorem countLines_stops {p : Text → Bool} {rest more : List Text} {line : Text}
    (h : rest.drop (countLines p rest) = line :: more) : p line = false := by
  induction rest with
  | nil => exact absurd h (by simp)
  | cons first rest ih =>
      rw [countLines, List.takeWhile_cons] at h
      by_cases hfirst : p first = true
      · rw [if_pos hfirst, List.length_cons, List.drop_succ_cons] at h
        exact ih h
      · rw [if_neg hfirst, List.length_nil, List.drop_zero, List.cons.injEq] at h
        rw [← h.1]
        exact Bool.eq_false_iff.mpr hfirst

/-- Lines are no longer taken at one that is not admitted or opens something
    else. -/
theorem continuation_stops {admits : Text → Bool} {rest more : List Text} {line : Text}
    (h : rest.drop (continuation admits rest) = line :: more) :
    Opening.ofLine line more.head? = .paragraph → admits line = false := by
  induction rest with
  | nil => exact absurd h (by simp)
  | cons first rest ih =>
      rw [continuation_cons] at h
      by_cases hfirst : (admits first && Opening.ofLine first rest.head? == .paragraph) = true
      · rw [if_pos hfirst, List.drop_succ_cons] at h
        exact ih h
      · rw [if_neg hfirst, List.drop_zero, List.cons.injEq] at h
        obtain ⟨rfl, rfl⟩ := h
        intro hopens
        rw [hopens, beq_self_eq_true, Bool.and_true] at hfirst
        exact Bool.eq_false_iff.mpr hfirst

/-- The line behind a block is one that it refuses. -/
theorem Opening.stopsAt (opening : Opening) {rest more : List Text} {line : Text}
    (h : rest.drop (opening.extent rest) = line :: more) : opening.StopsAt line more.head? := by
  cases opening with
  | blank => exact countLines_stops h
  | fence f => trivial
  | table => exact countLines_stops h
  | rule => trivial
  | heading level content => trivial
  | item i =>
      intro hopens
      have hrefused := continuation_stops h hopens
      rw [decide_eq_false_iff_not] at hrefused
      omega
  | quote depth content => exact countLines_stops h
  | paragraph =>
      intro hopens
      -- A paragraph admits every line, so it stops at what opens something else.
      exact absurd (continuation_stops h hopens) (by simp)

/-- Fenced code with a line behind it has been closed. -/
theorem closed_of_drop {f : Fence} {rest more : List Text} {line : Text}
    (h : rest.drop ((Opening.fence f).extent rest) = line :: more) :
    (rest.take ((Opening.fence f).extent rest)).getLast?.any f.closedBy = true := by
  rw [Opening.extent] at h ⊢
  cases hfind : rest.findIdx? f.closedBy with
  | none =>
      -- Without a closing fence nothing is left behind the code.
      rw [hfind] at h
      exact absurd h (by simp)
  | some index =>
      rw [List.findIdx?_eq_some_iff_getElem] at hfind
      rcases hfind with ⟨hlt, hclosed, _⟩
      rw [List.getLast?_take]
      simp [hlt, hclosed]

/-! ### Neighbours -/

/-- The block could not have taken the lines of the next one. -/
structure Block.EndsAt (block next : Block) : Prop where
  /-- Blank lines are taken together. -/
  blank : block.kind = .blank → next.kind ≠ .blank
  /-- So are lines of text. -/
  paragraph : block.kind = .paragraph → next.kind ≠ .paragraph
  /-- So are the rows of a table. -/
  table : block.kind = .table → next.kind ≠ .table
  /-- So are lines that are quoted at one depth. -/
  quote : block.kind = .quote → next.kind = .quote → block.level ≠ next.level
  /-- Code that is not closed takes everything. -/
  fence : ∀ info, block.kind ≠ .fence info false
  /-- Lines of text are taken by an item if they are indented deeper. -/
  item : ∀ marker indent task, block.kind = .listItem marker indent task →
    next.kind = .paragraph →
      ∃ line more, Text.lines next.source = line :: more ∧ Text.indentation line ≤ indent

/-- What opens a block of the kind. -/
def Opening.Makes (more : List Text) (opening : Opening) : Block.Kind → Prop
  | .blank => opening = .blank
  | .paragraph => opening = .paragraph
  | .heading level => ∃ content, opening = .heading level content
  | .listItem marker indent task => ∃ content, opening = .item ⟨marker, indent, task, content⟩
  | .fence info closed => ∃ f, opening = .fence f ∧ f.info = info ∧
    more.getLast?.any f.closedBy = closed
  | .quote => ∃ depth content, opening = .quote depth content
  | .table => opening = .table
  | .rule => opening = .rule

/-- What opens a block can be told from its kind. -/
theorem Opening.makes_of_kind {opening : Opening} {line : Text} {more : List Text}
    {kind : Block.Kind} (h : (opening.block line more).kind = kind) : opening.Makes more kind := by
  rw [← h]
  cases opening with
  | blank => rfl
  | fence f => exact ⟨f, rfl, rfl, rfl⟩
  | table => rfl
  | rule => rfl
  | heading level content => exact ⟨content, rfl⟩
  | item i => exact ⟨i.content, rfl⟩
  | quote depth content => exact ⟨depth, content, rfl⟩
  | paragraph => rfl

/-- A block ends at the line that it refuses, whatever begins there. -/
theorem Opening.endsAt_block {opening : Opening} {line : Text} {more : List Text} {first : Text}
    {next : Option Text} {others : List Text} (hlines : Text.AreLines (first :: others))
    (hstops : opening.StopsAt first next)
    (hclosed : ∀ f, opening = .fence f → more.getLast?.any f.closedBy = true) :
    (opening.block line more).EndsAt ((Opening.ofLine first next).block first others) := by
  have hreads := Opening.reads_ofLine first next
  refine ⟨?_, ?_, ?_, ?_, ?_, ?_⟩
  · intro hkind hnext
    have hopening : opening = .blank := makes_of_kind hkind
    rw [hopening] at hstops
    exact absurd (allBlank_of_ofLine (makes_of_kind hnext)) (Bool.eq_false_iff.mp hstops)
  · intro hkind hnext
    have hopening : opening = .paragraph := makes_of_kind hkind
    rw [hopening] at hstops
    exact hstops (makes_of_kind hnext)
  · intro hkind hnext
    have hopening : opening = .table := makes_of_kind hkind
    have hbegins : Opening.ofLine first next = .table := makes_of_kind hnext
    rw [hopening] at hstops
    rw [hbegins] at hreads
    exact absurd hreads (Bool.eq_false_iff.mp hstops)
  · intro hkind hnext
    rcases makes_of_kind hkind with ⟨depth, content, rfl⟩
    rcases makes_of_kind hnext with ⟨depth', content', hquote⟩
    rw [hquote] at hreads ⊢
    intro hlevel
    -- The line is quoted at the depth of the block, which would have taken it.
    have hdepth : depth = depth' := hlevel
    have hrefused : isQuotedAt depth first = false := hstops
    rw [isQuotedAt, show quote? first = some (depth', content') from hreads, hdepth] at hrefused
    exact absurd hrefused (by simp)
  · intro info hkind
    rcases makes_of_kind hkind with ⟨f, hfence, _, hopen⟩
    exact absurd (hclosed f hfence) (Bool.eq_false_iff.mp hopen)
  · intro marker indent task hkind hnext
    rcases makes_of_kind hkind with ⟨content, rfl⟩
    refine ⟨first, others, ?_, hstops (makes_of_kind hnext)⟩
    rw [source_block, Text.lines_flatten hlines]

/-- Every block of a list of lines ends at the next. -/
theorem isChain_blocksOfLines {lines : List Text} (h : Text.AreLines lines) :
    (blocksOfLines lines).IsChain Block.EndsAt := by
  fun_induction blocksOfLines lines with
  | case1 => exact .nil
  | case2 line rest opening extent ih =>
      have hdropped : Text.AreLines (rest.drop extent) := by
        rw [← List.take_append_drop extent rest] at h
        exact h.tail.of_append_right
      have hmore := ih hdropped
      cases hdrop : rest.drop extent with
      | nil =>
          rw [blocksOfLines]
          exact .singleton _
      | cons first more =>
          rw [hdrop] at hdropped hmore
          rw [blocksOfLines] at hmore ⊢
          refine .cons_cons (Opening.endsAt_block ?_ (opening.stopsAt hdrop) ?_) hmore
          · rw [← List.take_append_drop ((Opening.ofLine first more.head?).extent more) more,
              ← List.cons_append] at hdropped
            exact hdropped.of_append_left
          · intro f hfence
            rw [show extent = (Opening.fence f).extent rest from congrArg (·.extent rest) hfence]
              at hdrop ⊢
            exact closed_of_drop hdrop

/-! ### Levels and lines -/

/-- The level of the block and the number of its lines are in order. -/
structure Block.Measured (block : Block) : Prop where
  /-- Quoted lines are quoted at least once. -/
  quote : block.kind = .quote → 1 ≤ block.level
  /-- Only quotes and list items have a level. -/
  level : block.kind ≠ .quote → block.kind.isItem = false → block.level = 0
  /-- What is said has a line for each line of the source. -/
  content : block.kind.holdsText = true →
    (Text.splitOn '\n' block.content).length = Block.lineCount block.source

theorem quote?_pos {line content : Text} {depth : Nat} (h : quote? line = some (depth, content)) :
    1 ≤ depth := by
  unfold quote? at h
  simp only at h
  split at h
  · split at h
    · exact absurd h (by simp)
    · next depth' rest hzero _ =>
        rw [Option.some.injEq, Prod.mk.injEq] at h
        have hne : depth' ≠ 0 := hzero
        omega
  · exact absurd h (by simp)

/-- Before list items are placed, a quote has its depth as level and every other
    block has none. -/
theorem level_block (line : Text) (next : Option Text) (more : List Text) :
    let block := (Opening.ofLine line next).block line more
    (block.kind = .quote → 1 ≤ block.level) ∧ (block.kind ≠ .quote → block.level = 0) := by
  have hreads := Opening.reads_ofLine line next
  cases hopening : Opening.ofLine line next with
  | quote depth content =>
      rw [hopening] at hreads
      exact ⟨fun _ => quote?_pos hreads, fun hne => absurd rfl hne⟩
  | _ => exact ⟨fun hquote => Block.Kind.noConfusion hquote, fun _ => rfl⟩

theorem exists_opening_of_mem (lines : List Text) :
    ∀ block ∈ blocksOfLines lines, ∃ line next more,
      block = (Opening.ofLine line next).block line more := by
  fun_induction blocksOfLines lines with
  | case1 => exact fun block hmem => absurd hmem List.not_mem_nil
  | case2 line rest opening extent ih =>
      exact List.forall_mem_cons.mpr ⟨⟨line, rest.head?, rest.take extent, rfl⟩, ih⟩

/-- Only list items get another level. -/
theorem level_place {block : Block} (h : block.kind.isItem = false) (levels : List Nat) :
    (block.place levels).1.level = block.level := by
  obtain ⟨kind, source, content, level⟩ := block
  cases kind with
  | listItem => exact absurd h Bool.noConfusion
  | _ => rfl

/-- Where a block ends does not depend on the levels of list items. -/
theorem Block.EndsAt.place {block next : Block} (h : block.EndsAt next) (levels inner : List Nat) :
    (block.place levels).1.EndsAt (next.place inner).1 := by
  have hquote : block.kind = .quote → next.kind = .quote →
      (block.place levels).1.level ≠ (next.place inner).1.level := by
    intro hkind hnext
    rw [level_place (by rw [hkind]; rfl), level_place (by rw [hnext]; rfl)]
    exact h.quote hkind hnext
  constructor <;> simp only [kind_place, source_place]
  · exact h.blank
  · exact h.paragraph
  · exact h.table
  · exact hquote
  · exact h.fence
  · exact h.item

theorem isChain_assignLevels {blocks : List Block} (h : blocks.IsChain Block.EndsAt)
    (levels : List Nat) : (assignLevels levels blocks).IsChain Block.EndsAt := by
  induction h generalizing levels with
  | nil => exact .nil
  | singleton block =>
      rw [assignLevels_cons]
      exact .singleton _
  | cons_cons hends _ ih =>
      rw [assignLevels_cons, assignLevels_cons]
      refine .cons_cons (hends.place _ _) ?_
      rw [← assignLevels_cons]
      exact ih _

/-- The blocks of a document are maximal: no block could have gone on with the
    lines of the next, and code that is not closed has no next. Quotes are the only
    blocks besides list items that have a level, and whatever a block says has a
    line for each of its own lines. -/
theorem ofText_maximal (markdown : Text) :
    (Document.ofText markdown).blocks.IsChain Block.EndsAt ∧
      ∀ block ∈ (Document.ofText markdown).blocks, block.Measured := by
  refine ⟨isChain_assignLevels (isChain_blocksOfLines (Text.areLines_lines markdown)) [], ?_⟩
  intro block hmem
  rcases exists_place_of_mem hmem with ⟨cut, hcut, levels, rfl⟩
  rcases exists_opening_of_mem _ cut hcut with ⟨line, next, more, rfl⟩
  have hlevel := level_block line next more
  refine ⟨fun hkind => ?_, fun hkind hitem => ?_, fun hholds => ?_⟩
  · rw [kind_place] at hkind
    rw [level_place (by rw [hkind]; rfl)]
    exact hlevel.1 hkind
  · rw [kind_place] at hkind hitem
    rw [level_place hitem]
    exact hlevel.2 hkind
  · rcases exists_cut hmem with ⟨first, second, others, hcut⟩
    rcases hcut.exists_lines hholds with ⟨texts, hne, hlength, hcontent, hfeed, _⟩
    rw [hcontent, Text.splitOn_joinWith hne hfeed, hlength]

/-- A line of text behind a list item is indented no deeper than its marker, or it
    would belong to the item. -/
example :
    (Document.ofText "  - a\n   b\n  c\n".toList).blocks.map (fun block => block.content) =
      ["a\nb".toList, "  c".toList] := by
  decide +kernel

end ChatMarkup
