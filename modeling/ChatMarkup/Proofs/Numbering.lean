import ChatMarkup.Proofs.Rendering
import Mathlib.Algebra.GroupWithZero.Nat

/-!
# The Law of Numbering

The number that an ordered item is shown with, told from the blocks before it.

While blocks are written, one list of counts passes from block to block. It is
cut, filled up and emptied by items of every level and by whatever ends a list.
Of this list, an item reads one place only, the count of its own level, so the
list can be looked at one level at a time. At a given level, a block either
leaves the count alone or settles it, whatever it was before. Blank blocks and
items of deeper levels leave it alone. Every other block settles it, and for
that the block need not be near. So the count at an item is what the nearest of
those blocks has made of it.

The number of an ordered item of the same level is counted on from. Behind any
other block the count is gone, and the item has the number that it was written
with.

## Main definitions

* `Numbering.count?`: The count of one level.
* `RichBlock.settles`: The block settles the count of a level.
* `RichBlock.countBehind`: What it settles the count to.
* `shownNumber`: The number that an ordered item is shown with.
* `numberMark`: The mark of an item with that number.

## Theorems

* `count?_enter`: What an item does to the counts.
* `count?_after`: A block leaves a count alone or settles it.
* `count?_numberingAfter`: Blocks that settle nothing leave the count alone.
* `shownNumber_of_nearest`: The number follows from the nearest block that
  settles the count.
* `renderBlocks_shownNumber`: The law, and where the number is shown.
-/

namespace ChatMarkup

/-! ### One level at a time -/

namespace Numbering

/-- The count of the level, if the level is counting. -/
def count? (numbering : Numbering) (level : Nat) : Option Nat :=
  numbering[level]?.join

theorem count?_start (level : Nat) : start.count? level = none := rfl

theorem next_eq (numbering : Numbering) (level given : Nat) :
    numbering.next level given =
      (numbering.count? level).elim given fun last => min (last + 1) largest := by
  rw [next, count?]
  rcases numbering[level]? with _ | _ | last
  · rfl
  · rfl
  · rfl

theorem length_outside (numbering : Numbering) (level : Nat) :
    (numbering.outside level).length = level := by
  rw [outside, List.length_append, List.length_take, List.length_replicate]
  omega

/-- Levels that have been filled in do not count. -/
theorem count?_outside (numbering : Numbering) {level entered : Nat} (h : level < entered) :
    (numbering.outside entered).count? level = numbering.count? level := by
  by_cases hlevel : level < numbering.length
  · have htake : level < (numbering.take entered).length := by
      rw [List.length_take]
      omega
    rw [count?, count?, outside, List.getElem?_append_left htake, List.getElem?_take_of_lt h]
  · have htake : (numbering.take entered).length ≤ level := by
      rw [List.length_take]
      omega
    rw [count?, count?, outside, List.getElem?_append_right htake, List.getElem?_replicate,
      List.getElem?_eq_none (Nat.le_of_not_lt hlevel)]
    split <;> rfl

/-- An item makes its entry at its own level. The counts of deeper levels are
    gone, and those of levels further out stay. -/
theorem count?_enter (numbering : Numbering) (level entered : Nat) (entry : Option Nat) :
    count? (numbering.outside entered ++ [entry]) level =
      if level < entered then numbering.count? level
      else if level = entered then entry else none := by
  have hlength := numbering.length_outside entered
  by_cases hlt : level < entered
  · rw [if_pos hlt, ← count?_outside numbering hlt, count?, count?,
      List.getElem?_append_left (by omega)]
  · rw [if_neg hlt, count?, List.getElem?_append_right (by omega), hlength]
    by_cases heq : level = entered
    · rw [if_pos heq, heq, Nat.sub_self]
      rfl
    · rw [if_neg heq, List.getElem?_eq_none]
      · rfl
      · rw [List.length_singleton]
        omega

end Numbering

namespace RichBlock

/-- The block settles the count of the level: it is not blank, and if it is a
    list item, its level is not deeper. -/
def settles (level : Nat) (block : RichBlock) : Bool :=
  !block.isBlank && (!block.kind.isItem || decide (block.level ≤ level))

/-- The count of the level behind a block that settles it. Only an ordered item of
    the level counts, and `shown` turns the number that it was written with into
    the number that it is shown with. -/
def countBehind (level : Nat) (block : RichBlock) (shown : Nat → Nat) : Option Nat :=
  match block.kind with
  | .listItem (.ordered number _) _ _ => if block.level = level then some (shown number) else none
  | _ => none

/-- A block leaves the count of a level alone or settles it. -/
theorem count?_after {config : Config} (hlists : config.convert.lists = true)
    (numbering : Numbering) (block : RichBlock) (level : Nat) :
    (block.after config numbering).count? level =
      if block.settles level then block.countBehind level (numbering.next level)
      else numbering.count? level := by
  obtain ⟨kind, source, own, spans⟩ := block
  cases kind with
  | blank => rfl
  | listItem marker indent task =>
      have hsettles : settles level ⟨.listItem marker indent task, source, own, spans⟩ =
          decide (own ≤ level) := by
        simp [settles, isBlank, Block.Kind.isBlank, Block.Kind.isItem]
      rw [hsettles]
      cases marker with
      | bullet c =>
          simp only [after, hlists, if_true, decide_eq_true_eq]
          rw [Numbering.passBullet, Numbering.count?_enter]
          by_cases hle : own ≤ level
          · rw [if_neg (Nat.not_lt.mpr hle), if_pos hle, ite_self]
            rfl
          · rw [if_pos (Nat.lt_of_not_le hle), if_neg hle]
      | ordered number delimiter =>
          simp only [after, hlists, if_true, decide_eq_true_eq]
          rw [Numbering.passNumber, Numbering.count?_enter]
          by_cases hle : own ≤ level
          · rw [if_neg (Nat.not_lt.mpr hle), if_pos hle]
            simp only [countBehind]
            by_cases heq : own = level
            · rw [if_pos heq.symm, if_pos heq, heq]
            · rw [if_neg (Ne.symm heq), if_neg heq]
          · rw [if_pos (Nat.lt_of_not_le hle), if_neg hle]
  | paragraph => rfl
  | heading => rfl
  | fence => rfl
  | quote => rfl
  | table => rfl
  | rule => rfl

end RichBlock

/-- Blocks that do not settle the count of a level leave it alone, however many
    there are. -/
theorem count?_numberingAfter {config : Config} (hlists : config.convert.lists = true)
    {level : Nat} {blocks : List RichBlock} (h : ∀ block ∈ blocks, block.settles level = false)
    (numbering : Numbering) :
    (numberingAfter config numbering blocks).count? level = numbering.count? level := by
  induction blocks generalizing numbering with
  | nil => rfl
  | cons block blocks ih =>
      have hblock := h block List.mem_cons_self
      have hrest := ih (fun other hother => h other (List.mem_cons_of_mem _ hother))
        (block.after config numbering)
      rw [numberingAfter, List.foldl_cons, ← numberingAfter, hrest,
        RichBlock.count?_after hlists, hblock, if_neg Bool.false_ne_true]

/-! ### The number of an item -/

/-- The number that an ordered item is shown with behind the blocks `before`, if
    it is of the level and was written with the number `given`. -/
def shownNumber (config : Config) (before : List RichBlock) (level given : Nat) : Nat :=
  if config.convert.lists then (numberingAfter config .start before).next level given else given

/-- The number is given by the count of the level. -/
theorem shownNumber_eq {config : Config} (hlists : config.convert.lists = true)
    (before : List RichBlock) (level given : Nat) :
    shownNumber config before level given =
      ((numberingAfter config .start before).count? level).elim given
        fun last => min (last + 1) Numbering.largest := by
  rw [shownNumber, if_pos hlists, Numbering.next_eq]

/-- An item before which no block settles the count is shown with its own
    number. -/
theorem shownNumber_of_none {config : Config} (hlists : config.convert.lists = true)
    {before : List RichBlock} {level : Nat}
    (h : ∀ block ∈ before, block.settles level = false) (given : Nat) :
    shownNumber config before level given = given := by
  rw [shownNumber_eq hlists, count?_numberingAfter hlists h, Numbering.count?_start]
  rfl

/-- The number of an item follows from the nearest block that settles the count
    and from the number that this block is shown with itself. -/
theorem shownNumber_of_nearest {config : Config} (hlists : config.convert.lists = true)
    (earlier : List RichBlock) {nearest : RichBlock} {later : List RichBlock} {level : Nat}
    (hnearest : nearest.settles level = true)
    (hlater : ∀ block ∈ later, block.settles level = false) (given : Nat) :
    shownNumber config (earlier ++ nearest :: later) level given =
      (nearest.countBehind level (shownNumber config earlier level)).elim given
        fun last => min (last + 1) Numbering.largest := by
  have hown : (numberingAfter config .start earlier).next level =
      shownNumber config earlier level := by
    funext number
    rw [shownNumber, if_pos hlists]
  have hnumbering : numberingAfter config .start (earlier ++ nearest :: later) =
      numberingAfter config (nearest.after config (numberingAfter config .start earlier))
        later := by
    rw [numberingAfter, List.foldl_append, List.foldl_cons]
    rfl
  rw [shownNumber_eq hlists, hnumbering, count?_numberingAfter hlists hlater,
    RichBlock.count?_after hlists, if_pos hnearest, hown]

/-- The mark of an ordered item that is shown with the number. -/
def numberMark (config : Config) (level indent : Nat) (delimiter : Char) (shown : Nat) : Text :=
  if config.convert.lists then List.replicate (2 * level) ' ' ++ (Text.decimal shown ++ ['.'])
  else List.replicate indent ' ' ++ (Text.decimal shown ++ [delimiter])

theorem itemMark_ordered (config : Config) (before : List RichBlock) (level given indent : Nat)
    (delimiter : Char) :
    itemMark config (numberingAfter config .start before) level (.ordered given delimiter) indent =
      numberMark config level indent delimiter (shownNumber config before level given) := by
  rw [itemMark, numberMark, shownNumber]
  split <;> rfl

/-- The law of numbering. In the message of any blocks, an ordered item stands
    behind the lines of the blocks before it with a number that these blocks
    settle. The nearest of them that is neither blank nor an item of a deeper
    level decides. If it is an ordered item of the same level, the number is one
    more than the number it is shown with itself, up to the largest. Otherwise,
    and if there is no such block, it is the number that the item was written
    with. Where lists are not converted, it always is. -/
theorem renderBlocks_shownNumber (config : Config) (before after : List RichBlock)
    (item : RichBlock) (given : Nat) (delimiter : Char) (indent : Nat) (task : Option Bool)
    (hitem : item.kind = .listItem (.ordered given delimiter) indent task) :
    (∃ below, renderBlocks config (before ++ item :: after) ++ ['\n'] =
      renderLines config .start (before.dropWhile RichBlock.isBlank) ++
        itemLines
          (numberMark config item.level indent delimiter
            (shownNumber config before item.level given) ++ checkbox config task)
          (Span.renderAll config.look item.spans) ++
        below) ∧
    (config.convert.lists = false → shownNumber config before item.level given = given) ∧
    (config.convert.lists = true →
      ((∀ block ∈ before, block.settles item.level = false) →
        shownNumber config before item.level given = given) ∧
      ∀ earlier nearest later, before = earlier ++ nearest :: later →
        nearest.settles item.level = true →
        (∀ block ∈ later, block.settles item.level = false) →
        shownNumber config before item.level given =
          match nearest.kind with
          | .listItem (.ordered number _) _ _ =>
            if nearest.level = item.level then
              min (shownNumber config earlier nearest.level number + 1) (2 ^ 64 - 1)
            else given
          | _ => given) := by
  have hrender : item.render config (numberingAfter config .start before) =
      itemLines
        (numberMark config item.level indent delimiter
          (shownNumber config before item.level given) ++ checkbox config task)
        (Span.renderAll config.look item.spans) := by
    simp only [RichBlock.render, hitem]
    rw [itemMark_ordered]
  refine ⟨?_, fun hoff => ?_, fun hlists => ⟨fun hnone => ?_, ?_⟩⟩
  · have hblank : item.isBlank = false := by
      rw [RichBlock.isBlank, hitem]
      rfl
    have haround := renderBlocks_around config before after hblank
      (by rw [hrender, getLast?_itemLines])
    rw [hrender] at haround
    exact ⟨_, haround⟩
  · rw [shownNumber, hoff, if_neg Bool.false_ne_true]
  · exact shownNumber_of_none hlists hnone given
  · rintro earlier nearest later rfl hnearest hlater
    rw [shownNumber_of_nearest hlists earlier hnearest hlater, RichBlock.countBehind]
    -- What is left to see is that both sides tell the same kinds apart.
    split
    · split
      · next hlevel => rw [hlevel]; rfl
      · rfl
    · rfl

/-- A count goes on behind deeper items and blank lines, whatever was counted
    there. -/
theorem renderBlocks_shownNumber_behind_deeper :
    shownNumber {}
      [⟨.listItem (.ordered 5 '.') 0 none, [], 0, []⟩, ⟨.listItem (.bullet '-') 4 none, [], 2, []⟩,
        ⟨.blank, ['\n'], 0, []⟩, ⟨.listItem (.ordered 7 '.') 2 none, [], 1, []⟩] 0 9 = 6 := by
  have hlaw := (renderBlocks_shownNumber {}
    [⟨.listItem (.ordered 5 '.') 0 none, [], 0, []⟩, ⟨.listItem (.bullet '-') 4 none, [], 2, []⟩,
      ⟨.blank, ['\n'], 0, []⟩, ⟨.listItem (.ordered 7 '.') 2 none, [], 1, []⟩] []
    ⟨.listItem (.ordered 9 ')') 0 none, [], 0, []⟩ 9 ')' 0 none rfl).2.2 rfl
  rw [hlaw.2 [] _ _ rfl rfl (by decide)]
  decide

end ChatMarkup
