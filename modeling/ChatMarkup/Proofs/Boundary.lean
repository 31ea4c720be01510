import ChatMarkup.Proofs.Leading

/-!
# Where Blocks Meet

When the blocks of lines stay what they are although other lines follow.

Where a block ends is decided by looking ahead, so lines added at the end of a
document could lengthen its last block, or turn its last line into the header
of a table. Neither happens if the first line added *interrupts* what is before
it: it is no row, no quote and no line of a paragraph. Two kinds of blocks are
left that could still go on. Blank lines join blank lines, and fenced code that
has not been closed takes everything.

## Main definitions

* `Interrupts`: The line begins a block of its own.
* `Block.Kind.isOpenFence`: The block is fenced code without a closing fence.

## Theorems

* `extent_append`: A block does not grow into an interrupting line.
* `blocksOfLines_append`: The blocks before an interrupting line and those
  from it on are cut separately.
* `head?_blocksOfLines`, `getLast?_blocksOfLines`: A line that is not blank at
  either end of the lines stands in a block that is not blank.
* `interrupts_of_blank`, `interrupts_of_fence`: Blank lines interrupt, and lines
  that open a fence.
* `blocksOfLines_fence`: Fenced code that is closed is one block.
-/

namespace ChatMarkup

/-- Whether the block is fenced code without a closing fence. -/
def Block.Kind.isOpenFence : Block.Kind → Bool
  | .fence _ closed => !closed
  | _ => false

/-- The line, which stands in front of the line `next`, begins a block of its
    own unless it is blank. -/
structure Interrupts (line : Text) (next : Option Text) : Prop where
  notRow : Table.isRow line = false
  notQuoted : quote? line = none
  notParagraph : Opening.ofLine line next ≠ .paragraph

theorem begins_of_not_row {line next : Text} (h : Table.isRow next = false) :
    Table.begins line (some next) = Table.begins line none := by
  rw [Table.begins, Table.begins, h, Bool.and_false, Bool.false_and]

/-- A line that is no row does not change what the line before it opens. -/
theorem Opening.ofLine_of_not_row {line next : Text} (h : Table.isRow next = false) :
    Opening.ofLine line (some next) = Opening.ofLine line none := by
  unfold Opening.ofLine
  rw [begins_of_not_row h]

theorem Opening.ofLine_append {next : Text} (h : Table.isRow next = false) (line : Text)
    (xs ys : List Text) :
    Opening.ofLine line (xs ++ next :: ys).head? = Opening.ofLine line xs.head? := by
  cases xs with
  | nil => exact Opening.ofLine_of_not_row h
  | cons => rfl

/-- Counting stops at a line that fails the test. -/
theorem countLines_append {p : Text → Bool} {xs : List Text} {line : Text} (ys : List Text)
    (h : countLines p xs = xs.length → p line = false) :
    countLines p (xs ++ line :: ys) = countLines p xs := by
  unfold countLines at h ⊢
  rw [List.takeWhile_append]
  split
  · next hall =>
      rw [List.takeWhile_cons, h hall, hall]
      simp
  · rfl

/-- Lines that pass the test are counted up to one that fails it. -/
theorem countLines_append_of_forall {p : Text → Bool} {xs ys : List Text}
    (hxs : ∀ line ∈ xs, p line = true) (hys : ∀ line ∈ ys.head?, p line = false) :
    countLines p (xs ++ ys) = xs.length := by
  rw [countLines, List.takeWhile_append_of_pos hxs]
  cases ys with
  | nil => rw [List.takeWhile_nil, List.append_nil]
  | cons line ys =>
      rw [List.takeWhile_cons, hys line rfl, if_neg Bool.false_ne_true, List.append_nil]

theorem continuation_append (admits : Text → Bool) (xs : List Text) {line : Text} {ys : List Text}
    (h : Interrupts line ys.head?) :
    continuation admits (xs ++ line :: ys) = continuation admits xs := by
  induction xs with
  | nil =>
      rw [List.nil_append, continuation_cons, continuation, if_neg]
      · rw [Bool.and_eq_true, beq_iff_eq]
        exact fun hc => h.notParagraph hc.2
  | cons first xs ih =>
      rw [List.cons_append, continuation_cons, continuation_cons,
        Opening.ofLine_append h.notRow, ih]

theorem isQuotedAt_of_interrupts {line : Text} {next : Option Text} (h : Interrupts line next)
    (depth : Nat) : isQuotedAt depth line = false := by
  rw [isQuotedAt, h.notQuoted]
  rfl

/-- A block does not grow into an interrupting line, unless it consists of
    blank lines and the line is blank, or it is fenced code that has not been
    closed. -/
theorem Opening.extent_append (opening : Opening) {xs : List Text} {line : Text} {ys : List Text}
    (h : Interrupts line ys.head?)
    (hblank : opening = .blank → opening.extent xs = xs.length → Text.allBlank line = false)
    (hfence : ∀ f, opening = .fence f → opening.extent xs = xs.length →
      xs.getLast?.any f.closedBy = true) :
    opening.extent (xs ++ line :: ys) = opening.extent xs := by
  cases opening with
  | blank => exact countLines_append ys (hblank rfl)
  | fence f =>
      simp only [extent]
      rw [List.findIdx?_append]
      cases hfind : xs.findIdx? f.closedBy with
      | some index => rfl
      | none =>
          -- No line of `xs` closes the fence, not even the last.
          have hclosed := hfence f rfl (by simp only [extent, hfind])
          rw [List.findIdx?_eq_none_iff] at hfind
          rw [Option.any_eq_true] at hclosed
          rcases hclosed with ⟨last, hlast, hcloses⟩
          rw [hfind last (List.mem_of_getLast? hlast)] at hcloses
          exact absurd hcloses Bool.false_ne_true
  | table => exact countLines_append ys fun _ => h.notRow
  | rule => rfl
  | heading => rfl
  | item i => exact continuation_append _ xs h
  | quote depth => exact countLines_append ys fun _ => isQuotedAt_of_interrupts h depth
  | paragraph => exact continuation_append _ xs h

theorem countLines_le (p : Text → Bool) (rest : List Text) : countLines p rest ≤ rest.length :=
  (List.takeWhile_sublist p).length_le

theorem take_countLines (p : Text → Bool) (rest : List Text) :
    rest.take (countLines p rest) = rest.takeWhile p :=
  (List.prefix_iff_eq_take.mp (List.takeWhile_prefix p)).symm

theorem continuation_le (admits : Text → Bool) (rest : List Text) :
    continuation admits rest ≤ rest.length := by
  induction rest with
  | nil => exact Nat.le_refl _
  | cons line rest ih =>
      rw [continuation, List.length_cons]
      split
      · omega
      · omega

/-- A block ends with the document at the latest. -/
theorem Opening.extent_le (opening : Opening) (rest : List Text) :
    opening.extent rest ≤ rest.length := by
  cases opening with
  | blank => exact countLines_le _ rest
  | fence f =>
      simp only [extent]
      split
      · next index hfind =>
          rw [List.findIdx?_eq_some_iff_getElem] at hfind
          rcases hfind with ⟨hlt, _⟩
          omega
      · exact Nat.le_refl _
  | table => exact countLines_le _ rest
  | rule => exact Nat.zero_le _
  | heading => exact Nat.zero_le _
  | item i => exact continuation_le _ rest
  | quote depth => exact countLines_le _ rest
  | paragraph => exact continuation_le _ rest

theorem Opening.allBlank_of_ofLine {line : Text} {next : Option Text}
    (h : Opening.ofLine line next = .blank) : Text.allBlank line = true := by
  by_cases hline : Text.allBlank line = true
  · exact hline
  · unfold Opening.ofLine at h
    rw [if_neg hline] at h
    repeat' split at h
    all_goals exact Opening.noConfusion h

/-- Blank lines that go on to the end leave a blank line there. -/
theorem allBlank_getLast? {line : Text} {rest : List Text} {last : Text}
    (hline : Text.allBlank line = true) (hcount : countLines Text.allBlank rest = rest.length)
    (hlast : (line :: rest).getLast? = some last) : Text.allBlank last = true := by
  have htake : rest.takeWhile Text.allBlank = rest :=
    (List.takeWhile_sublist _).eq_of_length hcount
  rcases List.mem_cons.mp (List.mem_of_getLast? hlast) with rfl | hmem
  · exact hline
  · rw [← htake] at hmem
    exact List.all_eq_true.mp List.all_takeWhile last hmem

/-- The blocks before an interrupting line and those from it on are cut
    separately, unless blank lines meet or the last block is fenced code that
    has not been closed. -/
theorem blocksOfLines_append {xs : List Text} {line : Text} {ys : List Text}
    (h : Interrupts line ys.head?)
    (hblank : ∀ last, xs.getLast? = some last → Text.allBlank last = true →
      Text.allBlank line = false)
    (hopen : ∀ block, (blocksOfLines xs).getLast? = some block →
      block.kind.isOpenFence = false) :
    blocksOfLines (xs ++ line :: ys) = blocksOfLines xs ++ blocksOfLines (line :: ys) := by
  fun_induction blocksOfLines xs with
  | case1 => rfl
  | case2 first rest opening extent ih =>
      have hle : extent ≤ rest.length := opening.extent_le rest
      have hextent : opening.extent (rest ++ line :: ys) = extent := by
        refine opening.extent_append h (fun hopening hall => ?_) (fun f hopening hall => ?_)
        · -- All lines of the block are blank, and so the last of them.
          rcases hlast : (first :: rest).getLast? with _ | last
          · exact absurd (List.getLast?_eq_none_iff.mp hlast) (List.cons_ne_nil _ _)
          · refine hblank last hlast (allBlank_getLast? ?_ ?_ hlast)
            · exact Opening.allBlank_of_ofLine hopening
            · rw [hopening] at hall
              exact hall
        · -- The fenced code is the last block, so it is closed.
          have hdrop : rest.drop extent = [] := List.drop_eq_nil_of_le (Nat.le_of_eq hall.symm)
          have hclosed := hopen _ (by rw [hdrop, blocksOfLines]; rfl)
          rw [hopening, show extent = rest.length from hall, List.take_length] at hclosed
          simpa [Opening.block, Block.Kind.isOpenFence] using hclosed
      have hhead : Opening.ofLine first (rest ++ line :: ys).head? = opening :=
        Opening.ofLine_append h.notRow first rest ys
      rw [List.cons_append, blocksOfLines, hhead, hextent, List.cons_append,
        List.take_append_of_le_length hle, List.drop_append_of_le_length hle, ih]
      · intro last hlast
        refine hblank last ?_
        rw [List.getLast?_drop] at hlast
        split at hlast
        · exact absurd hlast (by simp)
        · rw [List.getLast?_cons, hlast]
          rfl
      · intro block hlast
        refine hopen block ?_
        rw [List.getLast?_cons, hlast]
        rfl

/-- A block is blank exactly if its opening is. -/
theorem Opening.eq_blank_of_isBlank {opening : Opening} {line : Text} {more : List Text}
    (h : (opening.block line more).isBlank = true) : opening = .blank := by
  cases opening with
  | blank => rfl
  | fence => exact absurd h (by simp [block, Block.isBlank, Block.Kind.isBlank])
  | table => exact absurd h (by simp [block, Block.isBlank, Block.Kind.isBlank])
  | rule => exact absurd h (by simp [block, Block.isBlank, Block.Kind.isBlank])
  | heading => exact absurd h (by simp [block, Block.isBlank, Block.Kind.isBlank])
  | item => exact absurd h (by simp [block, Block.isBlank, Block.Kind.isBlank])
  | quote => exact absurd h (by simp [block, Block.isBlank, Block.Kind.isBlank])
  | paragraph => exact absurd h (by simp [block, Block.isBlank, Block.Kind.isBlank])

/-- Lines whose first is not blank do not begin with a blank block. -/
theorem head?_blocksOfLines {line : Text} (rest : List Text) (h : Text.allBlank line = false) :
    ∃ first, (blocksOfLines (line :: rest)).head? = some first ∧ first.isBlank = false := by
  rw [blocksOfLines]
  refine ⟨_, rfl, ?_⟩
  rw [← Bool.not_eq_true]
  intro hblank
  have hline := Opening.allBlank_of_ofLine (Opening.eq_blank_of_isBlank hblank)
  exact absurd (hline.symm.trans h) (by decide)

/-- Lines whose last is not blank do not end with a blank block. -/
theorem getLast?_blocksOfLines {lines : List Text} {last : Text}
    (hlast : lines.getLast? = some last) (h : Text.allBlank last = false) :
    ∃ block, (blocksOfLines lines).getLast? = some block ∧ block.isBlank = false := by
  fun_induction blocksOfLines lines with
  | case1 => exact absurd hlast (by simp)
  | case2 line rest opening extent ih =>
      rw [List.getLast?_cons]
      have hdrop : (rest.drop extent).getLast?
          = if rest.length ≤ extent then none else rest.getLast? := List.getLast?_drop
      by_cases hend : rest.length ≤ extent
      · -- The block goes on to the end, so it is not blank.
        have hnil : rest.drop extent = [] := List.drop_eq_nil_of_le hend
        rw [hnil, blocksOfLines]
        refine ⟨_, rfl, ?_⟩
        rw [← Bool.not_eq_true]
        intro hblank
        have hopening := Opening.eq_blank_of_isBlank hblank
        have hcount : countLines Text.allBlank rest = rest.length := by
          have hle := opening.extent_le rest
          have heq : opening.extent rest = rest.length := Nat.le_antisymm hle hend
          rw [show opening = .blank from hopening] at heq
          exact heq
        have hall := allBlank_getLast? (Opening.allBlank_of_ofLine hopening) hcount hlast
        exact absurd (hall.symm.trans h) (by decide)
      · rw [if_neg hend] at hdrop
        have hrest : rest.getLast? = some last := by
          rw [List.getLast?_cons_of_ne_nil] at hlast
          · exact hlast
          · rintro rfl
            exact hend (Nat.zero_le _)
        rcases ih (hdrop.trans hrest) with ⟨block, hblock, hblank⟩
        exact ⟨block, by rw [hblock]; rfl, hblank⟩

theorem trim_of_allBlank {line : Text} (h : Text.allBlank line = true) : Text.trim line = [] := by
  have hblank : ∀ c ∈ line, Text.isBlank c = true := List.all_eq_true.mp h
  rw [← List.nil_append line, Text.trim_append_of_blank [] hblank]
  rfl

theorem dropQuoteMarks_of_allBlank {s : Text} (h : Text.allBlank s = true) :
    dropQuoteMarks s = (0, s) := by
  refine dropQuoteMarks_of_head? fun hhead => ?_
  -- The marker of a quote is not blank.
  have hmark : Text.isBlank '>' = true := List.all_eq_true.mp h '>' (List.mem_of_mem_head? hhead)
  exact absurd hmark (by decide)

theorem quote?_of_allBlank {line : Text} (h : Text.allBlank line = true) : quote? line = none := by
  have hbody : Text.allBlank ((Text.stripEnd line).dropWhile (· == ' ')) = true := by
    rw [← Text.allBlank_stripEnd] at h
    refine List.all_eq_true.mpr fun c hc => ?_
    exact List.all_eq_true.mp h c ((List.dropWhile_sublist _).subset hc)
  unfold quote?
  simp only [dropQuoteMarks_of_allBlank hbody]
  split <;> rfl

/-- A blank line interrupts what is before it. -/
theorem interrupts_of_blank {line : Text} (next : Option Text) (h : Text.allBlank line = true) :
    Interrupts line next where
  notRow := by rw [Table.isRow, trim_of_allBlank h]; rfl
  notQuoted := quote?_of_allBlank h
  notParagraph := by
    unfold Opening.ofLine
    rw [if_pos h]
    exact fun hc => Opening.noConfusion hc

/-! ### Fenced code that is closed -/

theorem Opening.ofLine_of_fence {line : Text} {f : Fence} (h : Fence.ofLine? line = some f)
    (next : Option Text) : Opening.ofLine line next = .fence f := by
  rcases Leads.of_fence h with ⟨c, hleads, _⟩
  unfold Opening.ofLine
  rw [hleads.allBlank, h]
  rfl

/-- A line that opens a fence interrupts what is before it. -/
theorem interrupts_of_fence {line : Text} {f : Fence} (h : Fence.ofLine? line = some f)
    (next : Option Text) : Interrupts line next := by
  rcases Leads.of_fence h with ⟨c, hleads, hc⟩
  have hbar : c ≠ '|' := Text.ne_of_passes hc (by decide)
  have hangle : c ≠ '>' := Text.ne_of_passes hc (by decide)
  refine ⟨hleads.isRow hbar, hleads.quote hangle, ?_⟩
  rw [Opening.ofLine_of_fence h]
  exact fun heq => Opening.noConfusion heq

/-- Fenced code goes on to the first line that closes it. -/
theorem Opening.extent_fence (f : Fence) {body : List Text} {last : Text}
    (hbody : ∀ line ∈ body, f.closedBy line = false) (hlast : f.closedBy last = true)
    (rest : List Text) : (Opening.fence f).extent (body ++ last :: rest) = body.length + 1 := by
  have hfind : (body ++ last :: rest).findIdx? f.closedBy = some body.length := by
    rw [List.findIdx?_append, List.findIdx?_eq_none_iff.mpr hbody, List.findIdx?_cons, hlast]
    exact congrArg some (Nat.zero_add _)
  rw [extent, hfind]

/-- The line that closes the fence is no part of the content. -/
theorem Opening.block_fence (f : Fence) (line : Text) (body : List Text) {last : Text}
    (hlast : f.closedBy last = true) :
    (Opening.fence f).block line (body ++ [last]) =
      ⟨.fence f.info true, (line :: (body ++ [last])).flatten, contentOf body, 0⟩ := by
  have hclosed : (body ++ [last]).getLast?.any f.closedBy = true := by
    rw [List.getLast?_concat, Option.any_some, hlast]
  simp only [block, hclosed, if_true, List.dropLast_concat]

/-- Closed fenced code is one block, whatever its lines are and whatever comes
    behind it. -/
theorem blocksOfLines_fence {line : Text} {f : Fence} (h : Fence.ofLine? line = some f)
    {body : List Text} {last : Text} (hbody : ∀ line ∈ body, f.closedBy line = false)
    (hlast : f.closedBy last = true) (rest : List Text) :
    blocksOfLines (line :: (body ++ last :: rest)) =
      ⟨.fence f.info true, (line :: (body ++ [last])).flatten, Opening.contentOf body, 0⟩ ::
        blocksOfLines rest := by
  have hsplit : body ++ last :: rest = (body ++ [last]) ++ rest := by
    rw [List.append_assoc, List.singleton_append]
  have hlength : (body ++ [last]).length = body.length + 1 := by
    rw [List.length_append, List.length_singleton]
  rw [blocksOfLines, Opening.ofLine_of_fence h, Opening.extent_fence f hbody hlast, hsplit,
    List.take_left' hlength, List.drop_left' hlength, Opening.block_fence f line body hlast]

end ChatMarkup
