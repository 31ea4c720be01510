import ChatMarkup.Document.Basic
import ChatMarkup.Proofs.Boundary
import ChatMarkup.Proofs.Nesting
import Mathlib.Data.List.Induction

/-!
# The Law of Levels

The level of a list item, told from the items before it.

While blocks are placed, a stack of indentations passes from block to block. An
item pops those that are deeper than its own and pushes its own unless it is
there already, and whatever ends a list empties the stack. Of all this, an item
reads one number: how many of the indentations on the stack are less than its
own. The stack is strictly nested, so what an item leaves of it are exactly
those, and its own on top.

So the number at a column changes with an item in one of two ways. If the item
is indented less than the column, it is one more than the level of the item.
Otherwise it stays as it was, because what the item popped was not less than the
column either. That is how the nearest item that is indented less than the
column would have it, and by this item the level can be told without any stack.

## Main definitions

* `listBefore`: The blocks in front that belong to the same list.
* `parent?`: The nearest item of a list that is indented less than a column.
* `levelUnder`: The level below that item.
* `Tracks`: A stack of indentations knows these levels.

## Theorems

* `Opening.ofLine_eq_item_iff`: The lines that begin list items.
* `place_ofLine`: What a block leaves open, told from its first line.
* `enterLevel_eq`: What an item leaves of a nested stack.
* `Tracks.place`: A block keeps the stack in step with the list.
* `tracks_levelsAfter`: The stack behind any blocks is in step.
* `ofText_level`: The law of levels.
-/

namespace ChatMarkup

/-! ### What ends a list -/

/-- A line that is no blank line begins a list item if it is read as one and is
    no rule. Nothing else that a line could be leads with the marker of an
    item. -/
theorem Opening.ofLine_eq_item_iff {line : Text} (hblank : Text.allBlank line = false)
    (next : Option Text) (i : Item) :
    Opening.ofLine line next = .item i ↔ item? line = some i ∧ isRule line = false := by
  rcases Leads.exists_of_not_allBlank hblank with ⟨c, hleads⟩
  by_cases hmark : (c == '-' || c == '*' || c == '+') = false ∧ Text.isDigit c = false
  · -- No marker leads the line, so there is no item on either side.
    have hitem := hleads.item hmark.1 hmark.2
    unfold Opening.ofLine
    rw [hitem]
    constructor
    · intro h
      repeat' split at h
      all_goals simp_all
    · exact fun h => absurd h.1 (by simp)
  · have hpasses : ∀ d, (d == '-' || d == '*' || d == '+') = false → Text.isDigit d = false →
        c ≠ d := by
      rintro d hbullet hdigit rfl
      exact hmark ⟨hbullet, hdigit⟩
    have hfence : Fence.isFenceChar c = false := by
      rw [Fence.isFenceChar, beq_eq_false_iff_ne.mpr (hpasses _ (by decide) (by decide)),
        beq_eq_false_iff_ne.mpr (hpasses _ (by decide) (by decide))]
      rfl
    rw [hleads.ofLine hfence (hpasses _ (by decide) (by decide)),
      hleads.heading (hpasses _ (by decide) (by decide))]
    cases hrule : isRule line with
    | true => simp
    | false =>
        cases item? line with
        | some item => simp
        | none =>
            cases quote? line with
            | some quoted => simp
            | none => simp

/-- The levels that a block leaves open, told from its first line. Blank lines
    leave a list as it is, and any other line ends it unless it is read as an
    item and is no rule. -/
theorem place_ofLine (levels : List Nat) (line : Text) (next : Option Text) (more : List Text) :
    (((Opening.ofLine line next).block line more).place levels).2 =
      if Text.allBlank line then levels
      else match item? line with
      | some i => if isRule line then [] else enterLevel i.indent levels
      | none => [] := by
  cases hblank : Text.allBlank line with
  | true => rw [Opening.ofLine, if_pos hblank]; rfl
  | false =>
      rw [if_neg Bool.false_ne_true]
      have hiff := Opening.ofLine_eq_item_iff hblank next
      have hnotBlank : Opening.ofLine line next ≠ .blank := fun h =>
        absurd ((Opening.allBlank_of_ofLine h).symm.trans hblank) Bool.noConfusion
      cases hopening : Opening.ofLine line next with
      | item i =>
          have h := (hiff i).mp hopening
          rw [h.1, h.2]
          rfl
      | blank => exact absurd hopening hnotBlank
      | _ =>
          -- Whatever else the line opens, it is not an item unless it is a rule.
          cases hitem : item? line with
          | none => rfl
          | some i =>
              cases hrule : isRule line with
              | true => rfl
              | false =>
                  have h := (hiff i).mpr ⟨hitem, hrule⟩
                  rw [hopening] at h
                  exact Opening.noConfusion h

/-! ### Lists -/

/-- The column of the marker, if the block is a list item. -/
def Block.Kind.indent? : Block.Kind → Option Nat
  | .listItem _ indent _ => some indent
  | _ => none

/-- Whether a list goes on with the block: it is an item or blank. -/
def Block.Kind.goesOn (kind : Block.Kind) : Bool :=
  kind.isBlank || kind.isItem

/-- The list that the blocks end with, which may be over or not: all of them back
    to the nearest that is neither an item nor blank. The nearest stands
    first. -/
def listBefore (blocks : List Block) : List Block :=
  blocks.reverse.takeWhile fun block => block.kind.goesOn

/-- The nearest item of the list that is indented less than the column. -/
def parent? (column : Nat) (list : List Block) : Option Block :=
  list.find? fun block => block.kind.indent?.any fun indent => decide (indent < column)

/-- The level below the nearest item that is indented less than the column. -/
def levelUnder (column : Nat) (list : List Block) : Nat :=
  match parent? column list with
  | none => 0
  | some parent => parent.level + 1

theorem listBefore_concat (blocks : List Block) (block : Block) :
    listBefore (blocks ++ [block]) =
      if block.kind.goesOn then block :: listBefore blocks else [] := by
  rw [listBefore, List.reverse_concat, List.takeWhile_cons]
  rfl

theorem levelUnder_cons (column : Nat) (block : Block) (list : List Block) :
    levelUnder column (block :: list) =
      if block.kind.indent?.any fun indent => decide (indent < column) then block.level + 1
      else levelUnder column list := by
  rw [levelUnder, parent?, List.find?_cons]
  cases block.kind.indent?.any fun indent => decide (indent < column) with
  | true => rfl
  | false => rfl

/-- Of a nested stack, an item leaves what is less than its indentation, with
    its indentation on top. -/
theorem enterLevel_eq {levels : List Nat} (h : levels.Pairwise (· > ·)) (indent : Nat) :
    enterLevel indent levels = indent :: levels.filter fun level => decide (level < indent) := by
  induction levels with
  | nil => rfl
  | cons level levels ih =>
      rcases List.pairwise_cons.mp h with ⟨hdeeper, hnested⟩
      have hkept (hle : level ≤ indent) :
          levels.filter (fun other => decide (other < indent)) = levels := by
        refine List.filter_eq_self.mpr fun other hother => ?_
        have hless := hdeeper other hother
        exact decide_eq_true (by omega)
      rcases Nat.lt_trichotomy level indent with hless | rfl | hmore
      · -- Nothing is popped, and the indentation is new.
        have hstay : ¬ indent < level := by omega
        have hnew : level ≠ indent := by omega
        simp [enterLevel, hstay, hnew, hless, hkept (by omega)]
      · simp [enterLevel, hkept (Nat.le_refl level)]
      · -- The level is popped, and the rest of the stack decides.
        have hpop : ¬ level < indent := by omega
        have hrest := ih hnested
        simp only [enterLevel] at hrest ⊢
        rw [List.dropWhile_cons_of_pos (by simp [hmore]), hrest,
          List.filter_cons_of_neg (by simp [hpop])]

/-- The stack is in step with the list: it is nested, and at every column it
    tells the level below the nearest item that is indented less. -/
structure Tracks (levels : List Nat) (list : List Block) : Prop where
  nested : levels.Pairwise (· > ·)
  count : ∀ column, levels.countP (fun level => decide (level < column)) = levelUnder column list

namespace Tracks

theorem start : Tracks [] [] where
  nested := .nil
  count := fun _ => rfl

/-- An item on a stack that is in step has the level below its parent. -/
theorem level {levels : List Nat} {list : List Block} (h : Tracks levels list) {block : Block}
    {indent : Nat} (hindent : block.kind.indent? = some indent) :
    (block.place levels).1.level = levelUnder indent list := by
  obtain ⟨kind, source, content, own⟩ := block
  cases kind with
  | listItem marker column task =>
      obtain rfl : column = indent := Option.some.inj hindent
      rw [← h.count, List.countP_eq_length_filter]
      simp only [Block.place, enterLevel_eq h.nested, List.length_cons, Nat.add_sub_cancel]
  | _ => exact absurd hindent (by simp [Block.Kind.indent?])

/-- A block that is placed keeps the stack in step. -/
theorem place {levels : List Nat} {blocks : List Block} (h : Tracks levels (listBefore blocks))
    (block : Block) :
    Tracks (block.place levels).2 (listBefore (blocks ++ [(block.place levels).1])) := by
  have hplaced := kind_place levels block
  rw [listBefore_concat]
  cases hkind : block.kind with
  | listItem marker indent task =>
      have hlevel := h.level (show block.kind.indent? = some indent by rw [hkind]; rfl)
      have hstack : (block.place levels).2 =
          indent :: levels.filter fun level => decide (level < indent) := by
        simp only [Block.place, hkind, enterLevel_eq h.nested]
      rw [if_pos (by rw [hplaced, hkind]; rfl), hstack]
      refine ⟨List.pairwise_cons.mpr ⟨fun other hother => ?_, h.nested.filter _⟩, fun column => ?_⟩
      · exact of_decide_eq_true (List.mem_filter.mp hother).2
      · -- Of what is less than the column, the item popped what is not less than its
        -- own indentation.
        have hboth : ∀ level ∈ levels,
            (decide (level < column) && decide (level < indent)) = true ↔
              decide (level < min column indent) = true := by
          intro level _
          rw [Bool.and_eq_true, decide_eq_true_eq, decide_eq_true_eq, decide_eq_true_eq]
          omega
        rw [levelUnder_cons, hplaced, hkind, hlevel, List.countP_cons, List.countP_filter,
          List.countP_congr hboth, h.count]
        by_cases hless : indent < column
        · rw [Nat.min_eq_right (by omega)]
          simp [Block.Kind.indent?, hless]
        · rw [Nat.min_eq_left (by omega)]
          simp [Block.Kind.indent?, hless]
  | blank =>
      have hblank : block.isBlank = true := by rw [Block.isBlank, hkind]; rfl
      rw [place_of_blank hblank, if_pos (by rw [hkind]; rfl)]
      exact ⟨h.nested, fun column => by rw [levelUnder_cons, hkind]; exact h.count column⟩
  | _ =>
      have hstack : (block.place levels).2 = [] := by simp only [Block.place, hkind]
      rw [hstack, if_neg (by rw [hplaced, hkind]; exact Bool.false_ne_true)]
      exact start

end Tracks

/-- The stack behind any blocks is in step with the list that they end with. -/
theorem tracks_levelsAfter (blocks : List Block) :
    Tracks (levelsAfter [] blocks) (listBefore (assignLevels [] blocks)) := by
  induction blocks using List.reverseRecOn with
  | nil => exact Tracks.start
  | append_singleton front block ih =>
      rw [assignLevels_append, assignLevels_cons, levelsAfter, List.foldl_concat, ← levelsAfter]
      exact ih.place block

/-! ### The whole -/

/-- A block among others has its level from the blocks in front of it. -/
theorem assignLevels_eq_append_cons {levels : List Nat} {blocks before after : List Block}
    {placed : Block} (h : assignLevels levels blocks = before ++ placed :: after) :
    ∃ front block back, blocks = front ++ block :: back ∧ before = assignLevels levels front ∧
      placed = (block.place (levelsAfter levels front)).1 := by
  induction before generalizing levels blocks with
  | nil =>
      cases blocks with
      | nil => exact absurd h (by simp [assignLevels])
      | cons block rest =>
          rw [assignLevels_cons] at h
          exact ⟨[], block, rest, rfl, rfl, (List.cons.inj h).1.symm⟩
  | cons first before ih =>
      cases blocks with
      | nil => exact absurd h (by simp [assignLevels])
      | cons block rest =>
          rw [assignLevels_cons, List.cons_append] at h
          rcases List.cons.inj h with ⟨hfirst, hrest⟩
          rcases ih hrest with ⟨front, next, back, rfl, hbefore, hplaced⟩
          refine ⟨block :: front, next, back, rfl, ?_, hplaced⟩
          rw [assignLevels_cons, hfirst, hbefore]

/-- The nearest item of a list is the parent at every column behind its own. -/
theorem parent?_of_nearest {list : List Block} {previous : Block}
    (h : list.find? (fun block => block.kind.isItem) = some previous) :
    ∃ indent, ∀ column, indent < column → parent? column list = some previous := by
  rcases List.find?_eq_some_iff_append.mp h with ⟨hitem, later, earlier, rfl, hlater⟩
  cases hkind : previous.kind with
  | listItem marker indent task =>
      refine ⟨indent, fun column hless => List.find?_eq_some_iff_append.mpr
        ⟨by simp [hkind, Block.Kind.indent?, hless], later, earlier, rfl, fun block hblock => ?_⟩⟩
      -- What is no item has no indentation.
      have hnone := hlater block hblock
      cases hother : block.kind with
      | listItem => exact absurd hnone (by simp [hother, Block.Kind.isItem])
      | _ => rfl
  | _ => exact absurd hitem (by simp [hkind, Block.Kind.isItem])

/-- The law of levels. The list of an item goes back to the nearest block that is
    neither an item nor blank. If no item of it before the item is indented less,
    the level is zero, and otherwise it is one more than that of the nearest such
    item. So the first item of a list has the level zero, and no item lies more
    than one level below the item before it. -/
theorem ofText_level (markdown : Text) (before after : List Block) (item : Block) (indent : Nat)
    (hblocks : (Document.ofText markdown).blocks = before ++ item :: after)
    (hindent : item.kind.indent? = some indent) :
    (item.level =
      match parent? indent (listBefore before) with
      | none => 0
      | some parent => parent.level + 1) ∧
    ((∀ block ∈ listBefore before, block.kind.isItem = false) → item.level = 0) ∧
    ∀ previous, (listBefore before).find? (fun block => block.kind.isItem) = some previous →
      item.level ≤ previous.level + 1 := by
  rcases assignLevels_eq_append_cons hblocks with ⟨front, block, back, _, rfl, rfl⟩
  rw [kind_place] at hindent
  have htracks := tracks_levelsAfter front
  have hlevel := htracks.level hindent
  refine ⟨hlevel, fun hnone => ?_, fun previous hprevious => ?_⟩
  · have hparent : parent? indent (listBefore (assignLevels [] front)) = none := by
      refine List.find?_eq_none.mpr fun other hother => ?_
      have hkind := hnone other hother
      cases hother : other.kind with
      | listItem => exact absurd hkind (by simp [hother, Block.Kind.isItem])
      | _ => simp [Block.Kind.indent?]
    rw [hlevel, levelUnder, hparent]
  · rcases parent?_of_nearest hprevious with ⟨column, hcolumn⟩
    have hunder := hcolumn (max indent (column + 1)) (by omega)
    -- There is no less on the stack at a column further in.
    calc (block.place (levelsAfter [] front)).1.level
        = (levelsAfter [] front).countP fun level => decide (level < indent) := by
          rw [hlevel, htracks.count]
      _ ≤ (levelsAfter [] front).countP fun level => decide (level < max indent (column + 1)) := by
          refine List.countP_mono_left fun level _ hless => ?_
          have := of_decide_eq_true hless
          exact decide_eq_true (by omega)
      _ = previous.level + 1 := by rw [htracks.count, levelUnder, hunder]

/-- An item that goes back to a column at which none was, behind a blank line. -/
theorem ofText_level_new_column :
    let blocks := (Document.ofText "- a\n      - b\n\n    - c\n".toList).blocks
    blocks = blocks.take 3 ++ [⟨.listItem (.bullet '-') 4 none, "    - c\n".toList, ['c'], 1⟩] ∧
      1 = match parent? 4 (listBefore (blocks.take 3)) with
        | none => 0
        | some parent => parent.level + 1 := by
  intro blocks
  have hblocks : blocks =
      blocks.take 3 ++ [⟨.listItem (.bullet '-') 4 none, "    - c\n".toList, ['c'], 1⟩] := by
    decide +kernel
  exact ⟨hblocks, (ofText_level _ (blocks.take 3) [] _ 4 hblocks rfl).1⟩

end ChatMarkup
