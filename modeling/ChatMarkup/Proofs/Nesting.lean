import ChatMarkup.Block.Nesting

/-!
# Levels, Block by Block

The levels of list items as the work of a machine that sees one block at a
time.

`assignLevels` walks over a list of blocks with the indentations of the open
levels in hand. `Block.place` is what it does at one block: it settles the
level of the block and says which levels are open behind it. Walking over two
lists in a row is then walking over the second with what the first has left
open.

What is left open matters only to list items, and a block that is neither
blank nor a list item leaves nothing open. So a list of blocks that begins or
follows such a block has the levels it would have on its own.

## Main definitions

* `Block.Kind.isItem`: The block is a list item.
* `Block.place`: A block with its level, and the levels open after it.
* `levelsAfter`: The levels open after blocks.

## Theorems

* `assignLevels_cons`: The levels are assigned block by block.
* `assignLevels_append`: The levels of blocks after others.
* `levelsAfter_of_ends`: A block outside lists closes all levels.
* `assignLevels_of_begins`: A block outside lists does not ask what is open.
-/

namespace ChatMarkup

/-- Whether the block is a list item. -/
def Block.Kind.isItem : Block.Kind → Bool
  | .listItem _ _ _ => true
  | _ => false

/-- The block with its level, and the indentations of the levels that are open
    after it. -/
def Block.place (levels : List Nat) (block : Block) : Block × List Nat :=
  match block.kind with
  | .listItem _ indent _ =>
    ({ block with level := (enterLevel indent levels).length - 1 }, enterLevel indent levels)
  | .blank => (block, levels)
  | _ => (block, [])

/-- The indentations of the levels that are open after the blocks. -/
def levelsAfter (levels : List Nat) (blocks : List Block) : List Nat :=
  blocks.foldl (fun levels block => (block.place levels).2) levels

theorem assignLevels_cons (levels : List Nat) (block : Block) (rest : List Block) :
    assignLevels levels (block :: rest)
      = (block.place levels).1 :: assignLevels (block.place levels).2 rest := by
  obtain ⟨kind, source, content, level⟩ := block
  cases kind <;> rfl

/-- The levels of blocks after others are assigned with what those have left
    open. -/
theorem assignLevels_append (levels : List Nat) (xs ys : List Block) :
    assignLevels levels (xs ++ ys)
      = assignLevels levels xs ++ assignLevels (levelsAfter levels xs) ys := by
  induction xs generalizing levels with
  | nil => rfl
  | cons block xs ih =>
      rw [List.cons_append, assignLevels_cons, assignLevels_cons, ih, List.cons_append]
      rfl

/-- Only the level of a block is settled by its place. -/
theorem kind_place (levels : List Nat) (block : Block) :
    (block.place levels).1.kind = block.kind := by
  obtain ⟨kind, source, content, level⟩ := block
  cases kind <;> rfl

theorem source_place (levels : List Nat) (block : Block) :
    (block.place levels).1.source = block.source := by
  obtain ⟨kind, source, content, level⟩ := block
  cases kind <;> rfl

theorem content_place (levels : List Nat) (block : Block) :
    (block.place levels).1.content = block.content := by
  obtain ⟨kind, source, content, level⟩ := block
  cases kind <;> rfl

/-- Assigning levels changes no kinds. -/
theorem map_kind_assignLevels (levels : List Nat) (blocks : List Block) :
    (assignLevels levels blocks).map Block.kind = blocks.map Block.kind := by
  induction blocks generalizing levels with
  | nil => rfl
  | cons block rest ih =>
      rw [assignLevels_cons, List.map_cons, List.map_cons, kind_place, ih]

/-- A block that is neither blank nor a list item closes all levels. -/
theorem place_of_outside {block : Block} (hblank : block.isBlank = false)
    (hitem : block.kind.isItem = false) (levels : List Nat) : block.place levels = (block, []) := by
  obtain ⟨kind, source, content, level⟩ := block
  cases kind with
  | blank => exact absurd hblank (by simp [Block.isBlank, Block.Kind.isBlank])
  | listItem => exact absurd hitem (by simp [Block.Kind.isItem])
  | paragraph => rfl
  | heading => rfl
  | fence => rfl
  | quote => rfl
  | table => rfl
  | rule => rfl

/-- Blank lines leave a list as it is. -/
theorem place_of_blank {block : Block} (h : block.isBlank = true) (levels : List Nat) :
    block.place levels = (block, levels) := by
  obtain ⟨kind, source, content, level⟩ := block
  have hkind : kind = .blank := by simpa [Block.isBlank, Block.Kind.isBlank] using h
  rw [hkind]
  rfl

/-- No level is open after blocks whose last is neither blank nor a list
    item. -/
theorem levelsAfter_of_ends {xs : List Block} {block : Block} (hlast : xs.getLast? = some block)
    (hblank : block.isBlank = false) (hitem : block.kind.isItem = false) (levels : List Nat) :
    levelsAfter levels xs = [] := by
  obtain ⟨front, rfl⟩ := List.getLast?_eq_some_iff.mp hlast
  rw [levelsAfter, List.foldl_append, List.foldl_cons, List.foldl_nil,
    place_of_outside hblank hitem]

/-- Blocks whose first is neither blank nor a list item have the levels that
    they have on their own. -/
theorem assignLevels_of_begins {block : Block} (hblank : block.isBlank = false)
    (hitem : block.kind.isItem = false) (levels : List Nat) (rest : List Block) :
    assignLevels levels (block :: rest) = assignLevels [] (block :: rest) := by
  rw [assignLevels_cons, assignLevels_cons, place_of_outside hblank hitem,
    place_of_outside hblank hitem]

end ChatMarkup
