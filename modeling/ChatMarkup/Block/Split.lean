import ChatMarkup.Block.Opening

/-!
# Splitting Lines into Blocks

Where a block ends, and what it is made of.

A block begins with a line that opens it. How many of the lines that follow
belong to it is its *extent*: blank lines and rows go on as long as there are
more, a quote as long as its depth stays the same, fenced code up to the fence
that closes it. A paragraph takes every line that is not blank and starts no
block, and a list item takes those among them that are indented deeper than its
marker. They are the lines that would otherwise begin paragraphs of their own.

Cutting the extent off and going on with the rest splits a document. Since a
block has at least the line that opens it, the rest is always shorter.

## Main definitions

* `continuation`: The lines at the start that go on with a paragraph.
* `Opening.extent`: How many further lines belong to a block.
* `Opening.block`: The block that is made of its lines.
* `blocksOfLines`: The blocks of a list of lines.

## Theorems

* `continuation_cons`: What goes on with a paragraph would otherwise begin one.
* `source_block`: The source of a block is its lines.
* `flatMap_source_blocksOfLines`: No line is lost.
-/

namespace ChatMarkup

/-- The number of lines at the start that pass the test, are not blank and start
    no block. -/
def continuation (admits : Text → Bool) : List Text → Nat
  | [] => 0
  | line :: rest =>
    if !Text.allBlank line && admits line && !startsBlock line rest then
      continuation admits rest + 1
    else 0

/-- What goes on would otherwise begin a paragraph. -/
theorem continuation_cons (admits : Text → Bool) (line : Text) (rest : List Text) :
    continuation admits (line :: rest) =
      if admits line && Opening.ofLine line rest.head? == .paragraph then
        continuation admits rest + 1
      else 0 := by
  have hiff := Opening.ofLine_eq_paragraph_iff line rest
  have htest : (!Text.allBlank line && admits line && !startsBlock line rest) =
      (admits line && Opening.ofLine line rest.head? == .paragraph) := by
    rw [Bool.eq_iff_iff]
    simp only [Bool.and_eq_true, Bool.not_eq_true', beq_iff_eq, hiff]
    rw [and_assoc, and_left_comm]
  rw [continuation, htest]

/-- The number of lines at the start that pass the test. -/
def countLines (p : Text → Bool) (rest : List Text) : Nat :=
  (rest.takeWhile p).length

/-- Whether the line is quoted at the given depth. -/
def isQuotedAt (depth : Nat) (line : Text) : Bool :=
  (quote? line).any fun (d, _) => d == depth

namespace Opening

/-- How many of the lines that follow belong to the block. -/
def extent (rest : List Text) : Opening → Nat
  | blank => countLines Text.allBlank rest
  | fence f =>
    match rest.findIdx? f.closedBy with
    | some index => index + 1
    | none => rest.length
  | table => countLines Table.isRow rest
  | rule => 0
  | heading _ _ => 0
  | item i => continuation (fun line => decide (i.indent < Text.indentation line)) rest
  | quote depth _ => countLines (isQuotedAt depth) rest
  | paragraph => continuation (fun _ => true) rest

/-- The lines without their ends, one under the other. -/
def contentOf (lines : List Text) : Text :=
  Text.joinWith '\n' (lines.map Text.stripEnd)

/-- The text of a line that is quoted. -/
def quotedText (line : Text) : Text :=
  match quote? line with
  | some (_, content) => content
  | none => []

/-- The block that consists of the opening line and the lines that follow. The
    level of a list item depends on the items around it, so here it is
    zero. -/
def block (line : Text) (more : List Text) (opening : Opening) : Block :=
  let source := (line :: more).flatten
  match opening with
  | blank => ⟨.blank, source, [], 0⟩
  | fence f =>
    let closed := more.getLast?.any f.closedBy
    ⟨.fence f.info closed, source, contentOf (if closed then more.dropLast else more), 0⟩
  | table => ⟨.table, source, contentOf (line :: more), 0⟩
  | rule => ⟨.rule, source, [], 0⟩
  | heading level content => ⟨.heading level, source, content, 0⟩
  | item i =>
    ⟨.listItem i.marker i.indent i.task, source,
      Text.joinWith '\n' (i.content :: more.map fun line => Text.trimStart (Text.stripEnd line)),
      0⟩
  | quote depth content =>
    ⟨.quote, source, Text.joinWith '\n' (content :: more.map quotedText), depth⟩
  | paragraph => ⟨.paragraph, source, contentOf (line :: more), 0⟩

/-- The source of a block is its lines, whatever they open. -/
theorem source_block (line : Text) (more : List Text) (opening : Opening) :
    (opening.block line more).source = (line :: more).flatten := by
  cases opening <;> rfl

end Opening

/-- The blocks of a list of lines, in order. -/
def blocksOfLines : List Text → List Block
  | [] => []
  | line :: rest =>
    let opening := Opening.ofLine line rest.head?
    let extent := opening.extent rest
    opening.block line (rest.take extent) :: blocksOfLines (rest.drop extent)
termination_by lines => lines.length
decreasing_by simp only [List.length_drop, List.length_cons]; omega

/-- No line is lost between the blocks. -/
theorem flatMap_source_blocksOfLines (lines : List Text) :
    (blocksOfLines lines).flatMap Block.source = lines.flatten := by
  fun_induction blocksOfLines lines with
  | case1 => rfl
  | case2 line rest opening extent ih =>
      rw [List.flatMap_cons, ih, Opening.source_block, ← List.flatten_append, List.cons_append,
        List.take_append_drop]

end ChatMarkup
