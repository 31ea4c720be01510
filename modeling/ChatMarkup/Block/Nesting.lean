import ChatMarkup.Block.Basic

/-!
# Nesting of List Items

How deep a list item lies in its list.

The depth of an item follows from the indentation of the items before it. The
indentations of the levels that are open form a stack. An item closes the levels
that are indented deeper than itself and opens one of its own unless the
innermost level has its indentation. Blank lines leave a list as it is, and
any other block ends it.

## Main definitions

* `enterLevel`: The open levels after an item.
* `assignLevels`: The blocks with the levels of their list items.

## Theorems

* `map_source_assignLevels`: The sources of the blocks stay as they are.
-/

namespace ChatMarkup

/-- The indentations of the open levels after an item, innermost first. -/
def enterLevel (indent : Nat) (levels : List Nat) : List Nat :=
  let outer := levels.dropWhile fun level => decide (indent < level)
  if outer.head? = some indent then outer else indent :: outer

/-- The blocks with the levels of their list items, given the indentations of
    the levels that are open. -/
def assignLevels : (levels : List Nat) → List Block → List Block
  | _, [] => []
  | levels, block :: rest =>
    match block.kind with
    | .listItem _ indent _ =>
      let levels := enterLevel indent levels
      { block with level := levels.length - 1 } :: assignLevels levels rest
    | .blank => block :: assignLevels levels rest
    | _ => block :: assignLevels [] rest

/-- The sources of the blocks stay as they are. -/
theorem map_source_assignLevels (levels : List Nat) (blocks : List Block) :
    (assignLevels levels blocks).map Block.source = blocks.map Block.source := by
  induction blocks generalizing levels with
  | nil => rfl
  | cons block rest ih =>
      rw [assignLevels]
      split <;> simp only [List.map_cons, ih]

end ChatMarkup
