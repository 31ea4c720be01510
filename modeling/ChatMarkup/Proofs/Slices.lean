import ChatMarkup.Proofs.Boundary
import ChatMarkup.Proofs.Cutting
import Mathlib.Data.List.Induction

/-!
# Slices of a Document

Neighbouring blocks taken out of a document and cut again.

A block is recognised by looking past its end: a paragraph ends where something
else begins, and only the second line of a table shows that there is one. So it
is not plain that a block is read the same way when the lines behind it are
gone. It is, because all that a block asks of the next one is what the first
line of that opens. If the next block is kept, so is what decides this, and if it
is not, then no line is left and the block ends anyway. Lines in front of a
block are not looked at in the first place.

The level of a list item is the one thing that depends on blocks in front of it.
It stays what it was if a block that ends all lists stands in between, or if no
list was open where the slice begins.

## Main definitions

* `OpensAlike`: The first line opens the same block whatever comes behind.
* `Block.SameCut`: Two blocks are the same but for the level of list items.
* `Block.Kind.inList`: The nearest kind that is not blank is a list item.

## Theorems

* `Opening.extent_cut`: A block ends where it did without the lines behind the
  next blocks.
* `blocksOfLines_eq_append`: The first blocks are the blocks of the first lines.
* `blocksOfLines_slice`: A slice of the blocks is cut from its own lines.
* `levelsAfter_of_not_inList`: No level is open where no list is.
* `ofText_slice`: A slice of a document is a document with the same blocks.
-/

namespace ChatMarkup

/-! ### Lines behind a block -/

/-- The first of the lines opens the same block whether the others stand behind
    them or not. -/
def OpensAlike (lines others : List Text) : Prop :=
  ∀ line rest, lines = line :: rest →
    Opening.ofLine line rest.head? = Opening.ofLine line (rest ++ others).head?

/-- Without the line behind it, a line opens the same block, unless it is the
    first of a table. -/
theorem Opening.ofLine_none {line : Text} {next : Option Text}
    (h : Opening.ofLine line next ≠ .table) :
    Opening.ofLine line none = Opening.ofLine line next := by
  cases hbegins : Table.begins line next with
  | false =>
      unfold Opening.ofLine
      rw [hbegins, show Table.begins line none = false from rfl]
  | true =>
      -- A line that could begin a table opens something only tried before.
      unfold Opening.ofLine at h ⊢
      rw [hbegins] at h ⊢
      split
      · rfl
      · split
        · rfl
        · next hblank _ hfence =>
            rw [if_neg hblank, hfence] at h
            exact absurd rfl h

/-- A line whose block is not a table, or whose next line is kept, opens the
    same block. -/
theorem Opening.ofLine_head? (line : Text) (xs ys : List Text)
    (h : Opening.ofLine line (xs ++ ys).head? = .table → xs ≠ []) :
    Opening.ofLine line xs.head? = Opening.ofLine line (xs ++ ys).head? := by
  cases xs with
  | nil => exact Opening.ofLine_none fun htable => h htable rfl
  | cons => rfl

theorem countLines_cut {p : Text → Bool} {xs ys : List Text} {count : Nat}
    (hcount : countLines p (xs ++ ys) = count) (hle : count ≤ xs.length) :
    countLines p xs = count := by
  unfold countLines at hcount ⊢
  rw [List.takeWhile_append] at hcount
  split at hcount
  · next hall =>
      -- All of `xs` counts, so nothing of `ys` does.
      rw [List.length_append] at hcount
      omega
  · exact hcount

theorem continuation_cut {admits : Text → Bool} {xs ys zs : List Text}
    (hcount : continuation admits (xs ++ ys ++ zs) = xs.length) (hnext : OpensAlike ys zs) :
    continuation admits (xs ++ ys) = xs.length := by
  induction xs with
  | nil =>
      cases ys with
      | nil => rfl
      | cons line rest =>
          -- The line that ended the block still opens the same one.
          rw [List.nil_append, List.cons_append, continuation_cons] at hcount
          rw [List.nil_append, continuation_cons, hnext line rest rfl]
          split at hcount
          · exact absurd hcount (Nat.succ_ne_zero _)
          · next hends => rw [if_neg hends, List.length_nil]
  | cons line xs ih =>
      rw [List.cons_append, List.cons_append, continuation_cons, List.length_cons] at hcount
      rw [List.cons_append, continuation_cons, List.length_cons]
      split at hcount
      · next hgoes =>
          have hopens : Opening.ofLine line (xs ++ ys ++ zs).head? = .paragraph := by
            rw [Bool.and_eq_true, beq_iff_eq] at hgoes
            exact hgoes.2
          have hsame : Opening.ofLine line (xs ++ ys).head? = .paragraph := by
            rw [← hopens]
            refine Opening.ofLine_head? _ _ _ fun htable => ?_
            rw [hopens] at htable
            exact Opening.noConfusion htable
          rw [hopens] at hgoes
          rw [hsame, if_pos hgoes, ih (Nat.succ.inj hcount)]
      · exact absurd hcount (Nat.succ_ne_zero _).symm

/-- A block ends where it did when the lines behind the next blocks are gone. -/
theorem Opening.extent_cut (opening : Opening) (xs : List Text) {ys zs : List Text}
    (hextent : opening.extent (xs ++ ys ++ zs) = xs.length) (hnext : OpensAlike ys zs) :
    opening.extent (xs ++ ys) = xs.length := by
  have hle : xs.length ≤ (xs ++ ys).length := by
    rw [List.length_append]
    exact Nat.le_add_right _ _
  cases opening with
  | blank => exact countLines_cut hextent hle
  | fence f =>
      simp only [extent] at hextent ⊢
      rw [List.findIdx?_append] at hextent
      cases hfind : (xs ++ ys).findIdx? f.closedBy with
      | some index =>
          rw [hfind] at hextent
          exact hextent
      | none =>
          -- Fenced code goes on to the end, or is closed behind the lines kept.
          rw [hfind, Option.none_or] at hextent
          cases hrest : zs.findIdx? f.closedBy with
          | some index =>
              rw [hrest, Option.map_some] at hextent
              simp only at hextent
              omega
          | none =>
              rw [hrest, Option.map_none] at hextent
              simp only [List.length_append] at hextent ⊢
              omega
  | table => exact countLines_cut hextent hle
  | rule => exact hextent
  | heading => exact hextent
  | item i => exact continuation_cut hextent hnext
  | quote depth => exact countLines_cut hextent hle
  | paragraph => exact continuation_cut hextent hnext

/-- A line that opens a table has a row behind it. -/
theorem Opening.exists_row_of_table {line : Text} {next : Option Text}
    (h : Opening.ofLine line next = .table) : ∃ row, next = some row ∧ Table.isRow row = true := by
  have hbegins : Table.begins line next = true := by
    by_contra hnot
    rw [Opening.ofLine, if_neg hnot] at h
    repeat' split at h
    all_goals exact Opening.noConfusion h
  cases next with
  | none => exact absurd hbegins Bool.false_ne_true
  | some row =>
      simp only [Table.begins, Bool.and_eq_true] at hbegins
      exact ⟨row, rfl, hbegins.1.2⟩

/-- A table has more than one line. -/
theorem Opening.extent_pos_of_table {line : Text} {rest : List Text}
    (h : Opening.ofLine line rest.head? = .table) :
    0 < (Opening.ofLine line rest.head?).extent rest := by
  rcases Opening.exists_row_of_table h with ⟨row, hrow, hisRow⟩
  rcases List.head?_eq_some_iff.mp hrow with ⟨more, rfl⟩
  rw [h]
  simp only [extent, countLines, List.takeWhile_cons, hisRow, if_true, List.length_cons]
  exact Nat.succ_pos _

/-! ### Slices -/

/-- The first of the blocks are the blocks of the first of the lines. Cutting
    the lines there changes nothing of what the next line opens. -/
theorem blocksOfLines_eq_append {lines : List Text} {xs ys : List Block}
    (h : blocksOfLines lines = xs ++ ys) :
    ∃ before after, lines = before ++ after ∧ blocksOfLines before = xs ∧
      blocksOfLines after = ys ∧ OpensAlike before after := by
  fun_induction blocksOfLines lines generalizing xs with
  | case1 =>
      rcases List.append_eq_nil_iff.mp h.symm with ⟨rfl, rfl⟩
      refine ⟨[], [], rfl, by rw [blocksOfLines], by rw [blocksOfLines], ?_⟩
      exact fun line rest hnil => absurd hnil (List.cons_ne_nil _ _).symm
  | case2 line rest opening extent =>
      rename_i ih
      rcases xs with _ | ⟨block, xs⟩
      · refine ⟨[], line :: rest, rfl, by rw [blocksOfLines], ?_, ?_⟩
        · rw [blocksOfLines]
          exact h
        · exact fun line rest hnil => absurd hnil (List.cons_ne_nil _ _).symm
      · rw [List.cons_append] at h
        rcases List.cons.inj h with ⟨hblock, hrest⟩
        rcases ih hrest with ⟨before, after, hsplit, hbefore, hafter, hnext⟩
        have hle : extent ≤ rest.length := opening.extent_le rest
        have hlength : (rest.take extent).length = extent := List.length_take_of_le hle
        have hlines : rest.take extent ++ before ++ after = rest := by
          rw [List.append_assoc, ← hsplit, List.take_append_drop]
        -- The lines of the block are kept, and so is what its first line opens.
        have hopening : Opening.ofLine line (rest.take extent ++ before).head? = opening := by
          have hhead := Opening.ofLine_head? line (rest.take extent ++ before) after
          rw [hlines] at hhead
          refine hhead fun htable hnil => ?_
          have hpos : 0 < extent := Opening.extent_pos_of_table htable
          have hzero := congrArg List.length (List.append_eq_nil_iff.mp hnil).1
          rw [hlength, List.length_nil] at hzero
          omega
        have hextent : opening.extent (rest.take extent ++ before) = extent := by
          have hcut : opening.extent (rest.take extent ++ before ++ after) =
              (rest.take extent).length := by
            rw [hlines, hlength]
          exact (opening.extent_cut _ hcut hnext).trans hlength
        refine ⟨line :: (rest.take extent ++ before), after, ?_, ?_, hafter, ?_⟩
        · rw [List.cons_append, hlines]
        · rw [blocksOfLines, hopening, hextent, List.take_left' hlength, List.drop_left' hlength,
            hblock, hbefore]
        · intro first more heq
          rcases List.cons.inj heq with ⟨rfl, rfl⟩
          rw [hlines]
          exact hopening

/-- Neighbouring blocks are the blocks of their own lines. -/
theorem blocksOfLines_slice {lines : List Text} (hlines : Text.AreLines lines)
    {xs ys zs : List Block} (h : blocksOfLines lines = xs ++ ys ++ zs) :
    blocksOfLines (Text.lines (ys.flatMap Block.source)) = ys := by
  rcases blocksOfLines_eq_append h with ⟨before, after, rfl, hbefore, _, _⟩
  rcases blocksOfLines_eq_append hbefore with ⟨front, slice, rfl, _, hslice, _⟩
  rw [← hslice, flatMap_source_blocksOfLines,
    Text.lines_flatten hlines.of_append_left.of_append_right]

/-! ### Levels -/

/-- The two blocks are the same, except that list items can lie at different
    depths. -/
structure Block.SameCut (block other : Block) : Prop where
  kind : block.kind = other.kind
  source : block.source = other.source
  content : block.content = other.content
  level : block.kind.isItem = false → block.level = other.level

/-- Whether the last of the kinds that is not blank is a list item. -/
def Block.Kind.inList (kinds : List Block.Kind) : Bool :=
  (kinds.filter fun kind => !kind.isBlank).getLast?.any Block.Kind.isItem

theorem sameCut_place (block : Block) (levels levels' : List Nat) :
    (block.place levels).1.SameCut (block.place levels').1 := by
  obtain ⟨kind, source, content, level⟩ := block
  cases kind with
  | listItem => exact ⟨rfl, rfl, rfl, fun h => absurd h Bool.noConfusion⟩
  | blank => exact ⟨rfl, rfl, rfl, fun _ => rfl⟩
  | paragraph => exact ⟨rfl, rfl, rfl, fun _ => rfl⟩
  | heading => exact ⟨rfl, rfl, rfl, fun _ => rfl⟩
  | fence => exact ⟨rfl, rfl, rfl, fun _ => rfl⟩
  | quote => exact ⟨rfl, rfl, rfl, fun _ => rfl⟩
  | table => exact ⟨rfl, rfl, rfl, fun _ => rfl⟩
  | rule => exact ⟨rfl, rfl, rfl, fun _ => rfl⟩

/-- Blocks whose levels are assigned twice differ in nothing but the levels of
    list items. -/
theorem sameCut_assignLevels (blocks : List Block) (levels levels' : List Nat) :
    List.Forall₂ Block.SameCut (assignLevels levels blocks) (assignLevels levels' blocks) := by
  induction blocks generalizing levels levels' with
  | nil => exact .nil
  | cons block rest ih =>
      rw [assignLevels_cons, assignLevels_cons]
      exact .cons (sameCut_place block levels levels') (ih _ _)

theorem length_assignLevels (levels : List Nat) (blocks : List Block) :
    (assignLevels levels blocks).length = blocks.length := by
  have hkinds := congrArg List.length (map_kind_assignLevels levels blocks)
  rwa [List.length_map, List.length_map] at hkinds

/-- Behind a block that ends all lists, the levels open before do not matter. -/
theorem assignLevels_drop (front back : List Block) {block : Block}
    (hblank : block.isBlank = false) (hitem : block.kind.isItem = false)
    (levels levels' : List Nat) :
    (assignLevels levels (front ++ block :: back)).drop front.length =
      (assignLevels levels' (front ++ block :: back)).drop front.length := by
  rw [assignLevels_append, assignLevels_append,
    List.drop_left' (length_assignLevels levels front),
    List.drop_left' (length_assignLevels levels' front), assignLevels_of_begins hblank hitem,
    assignLevels_of_begins hblank hitem (levelsAfter levels' front)]

theorem Block.Kind.inList_concat (kinds : List Block.Kind) (kind : Block.Kind) :
    inList (kinds ++ [kind]) = if kind.isBlank then inList kinds else kind.isItem := by
  unfold inList
  rw [List.filter_append, List.filter_singleton]
  cases kind.isBlank with
  | true => simp
  | false => simp

/-- No level is open where the nearest block that is not blank is no list
    item. -/
theorem levelsAfter_of_not_inList {blocks : List Block}
    (h : Block.Kind.inList (blocks.map Block.kind) = false) : levelsAfter [] blocks = [] := by
  induction blocks using List.reverseRecOn with
  | nil => rfl
  | append_singleton front block ih =>
      rw [List.map_append, List.map_singleton, Block.Kind.inList_concat] at h
      rw [levelsAfter, List.foldl_concat, ← levelsAfter]
      cases hblank : block.isBlank with
      | true =>
          rw [← Block.isBlank, hblank, if_pos rfl] at h
          rw [ih h, place_of_blank hblank]
      | false =>
          rw [← Block.isBlank, hblank, if_neg Bool.false_ne_true] at h
          rw [place_of_outside hblank h]

/-! ### The whole -/

/-- A slice of a document is a document with the same blocks: each is of the
    same kind and has the same source and content. The level of a list item is
    also the same if the slice holds a block in front of it that is neither
    blank nor a list item, and all levels are the same if no list is open in
    front of the slice. -/
theorem ofText_slice (markdown : Text) (first last : Nat) (hfirst : first ≤ last)
    (hlast : last ≤ (Document.ofText markdown).blocks.length) :
    let blocks := (Document.ofText markdown).blocks
    let slice := (blocks.take last).drop first
    let again := (Document.ofText (slice.flatMap Block.source)).blocks
    again.length = last - first ∧
      List.Forall₂ Block.SameCut again slice ∧
      (∀ front block back, slice = front ++ block :: back →
        block.isBlank = false → block.kind.isItem = false →
          again.drop front.length = block :: back) ∧
      (Block.Kind.inList ((blocks.take first).map Block.kind) = false → again = slice) := by
  intro blocks slice again
  -- Before their levels are assigned, the blocks fall into three parts.
  let cut := blocksOfLines (Text.lines markdown)
  let before := cut.take first
  let middle := (cut.take last).drop first
  have hfront : cut.take last = before ++ middle := by
    have htake := List.take_append_drop first (cut.take last)
    rw [List.take_take, Nat.min_eq_left hfirst] at htake
    exact htake.symm
  have hcut : cut = before ++ middle ++ cut.drop last := by
    rw [← hfront, List.take_append_drop]
  have hlength : last ≤ cut.length := by
    rw [← length_assignLevels [] cut]
    exact hlast
  have hbefore : before.length = first := List.length_take_of_le (Nat.le_trans hfirst hlength)
  have hmiddle : middle.length = last - first := by
    rw [List.length_drop, List.length_take_of_le hlength]
  have hblocks : blocks = assignLevels [] before ++
      assignLevels (levelsAfter [] before) middle ++
        assignLevels (levelsAfter [] (before ++ middle)) (cut.drop last) := by
    rw [← assignLevels_append, ← assignLevels_append, ← hcut]
    rfl
  have hslice : slice = assignLevels (levelsAfter [] before) middle := by
    have htaken : (assignLevels [] before ++
        assignLevels (levelsAfter [] before) middle).length = last := by
      rw [List.length_append, length_assignLevels, length_assignLevels, hbefore, hmiddle]
      omega
    rw [show slice = (blocks.take last).drop first from rfl, hblocks, List.take_left' htaken,
      List.drop_left' ((length_assignLevels [] before).trans hbefore)]
  have hagain : again = assignLevels [] middle := by
    have hsources : slice.flatMap Block.source = middle.flatMap Block.source := by
      rw [List.flatMap_def, List.flatMap_def, hslice, map_source_assignLevels]
    rw [show again = (Document.ofText (slice.flatMap Block.source)).blocks from rfl,
      Document.ofText, hsources, blocksOfLines_slice (Text.areLines_lines markdown) hcut]
  refine ⟨?_, ?_, ?_, ?_⟩
  · rw [hagain, length_assignLevels, hmiddle]
  · rw [hagain, hslice]
    exact sameCut_assignLevels middle _ _
  · intro front block back heq hblank hitem
    -- The block that ends all lists has its kind before levels are assigned.
    have hkinds : middle.map Block.kind
        = front.map Block.kind ++ block.kind :: back.map Block.kind := by
      rw [← map_kind_assignLevels (levelsAfter [] before) middle, ← hslice, heq, List.map_append,
        List.map_cons]
    rcases List.map_eq_append_iff.mp hkinds with ⟨front', rest, hrest, hfront', hends⟩
    rcases List.map_eq_cons_iff.mp hends with ⟨block', back', rfl, hkind, _⟩
    have hlengths : front'.length = front.length := by
      rw [← List.length_map Block.kind, hfront', List.length_map]
    have hdrop := assignLevels_drop front' back'
      (by rw [Block.isBlank, hkind]; exact hblank) (by rw [hkind]; exact hitem) []
      (levelsAfter [] before)
    rw [← hrest, ← hslice, ← hagain, hlengths] at hdrop
    rw [hdrop, heq, List.drop_left]
  · intro hlist
    have hkinds : (blocks.take first).map Block.kind = before.map Block.kind := by
      rw [List.map_take, show blocks = assignLevels [] cut from rfl, map_kind_assignLevels,
        ← List.map_take]
    rw [hkinds] at hlist
    rw [hagain, hslice, levelsAfter_of_not_inList hlist]

/-- A slice that begins inside a list. The heading in it ends the list, so that
    the item behind the heading has its old level. -/
theorem ofText_slice_inside_list :
    let markdown := "- a\n  - b\n# c\n  - d\n".toList
    let blocks := (Document.ofText markdown).blocks
    let again := (Document.ofText (((blocks.take 4).drop 1).flatMap Block.source)).blocks
    again.length = 3 ∧ again.drop 1 = blocks.drop 2 := by
  intro markdown blocks again
  have hslice := ofText_slice markdown 1 4 (by decide) (by decide +kernel)
  have hdrop := hslice.2.2.1 (((blocks.take 4).drop 1).take 1)
    ⟨.heading 1, "# c\n".toList, ['c'], 0⟩ (blocks.drop 3) (by decide +kernel) rfl rfl
  have hfront : (((blocks.take 4).drop 1).take 1).length = 1 := by decide +kernel
  rw [hfront] at hdrop
  exact ⟨hslice.1, hdrop.trans (by decide +kernel)⟩

end ChatMarkup
