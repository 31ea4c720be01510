import ChatMarkup.Block.Split
import Mathlib.Data.List.Forall2
import Mathlib.Data.List.TakeWhile

/-!
# Line Ends Do Not Open Blocks

What is read from a line does not depend on how the line ends.

The recognisers of blocks see a line in different ways. Some strip its end,
some trim it, some drop its blank characters, and the column of its text is
counted from the front. All of these agree on two lines that are the same
without their ends, because a line feed and a carriage return are blank and
neither indents. So such lines open the same blocks, blocks of such lines go
on for as long, and they say the same.

## Main definitions

* `dropAround`: A text without the runs at its ends that satisfy a test.
* `SameBody`: Two lines are the same without their ends.

## Theorems

* `trim_stripEnd`, `trimEnd_stripEnd`, `allBlank_stripEnd`, `filter_stripEnd`,
  `indentation_stripEnd`: The views of a line do not see its end.
* `ofLine_congr`: Such lines open the same block.
* `extent_congr`: Such blocks have the same extent.
-/

namespace ChatMarkup

namespace Text

theorem dropLastIf_concat (c d : Char) (s : Text) :
    dropLastIf c (s ++ [d]) = if d = c then s else s ++ [d] := by
  rw [dropLastIf, List.reverse_concat, dropFirstIf]
  by_cases h : d = c
  · rw [if_pos h, if_pos h, List.reverse_reverse]
  · rw [if_neg h, if_neg h, List.reverse_cons, List.reverse_reverse]

theorem dropLastIf_of_ne {c : Char} {s : Text} (h : s.getLast? ≠ some c) :
    dropLastIf c s = s := by
  rcases List.eq_nil_or_concat s with rfl | ⟨front, d, rfl⟩
  · rfl
  · rw [List.concat_eq_append, List.getLast?_concat] at h
    rw [List.concat_eq_append, dropLastIf_concat, if_neg fun heq => h (congrArg some heq)]

theorem stripEnd_append_feed {s : Text} (h : s.getLast? ≠ some '\r') :
    stripEnd (s ++ ['\n']) = s := by
  rw [stripEnd, dropLastIf_concat, if_pos rfl, dropLastIf_of_ne h]

theorem dropLastIf_eq_append (c : Char) (s : Text) :
    ∃ dropped, s = dropLastIf c s ++ dropped ∧ ∀ d ∈ dropped, d = c := by
  rcases List.eq_nil_or_concat s with rfl | ⟨front, d, rfl⟩
  · exact ⟨[], rfl, fun d hd => absurd hd List.not_mem_nil⟩
  · rw [List.concat_eq_append, dropLastIf_concat]
    by_cases h : d = c
    · rw [if_pos h]
      exact ⟨[d], rfl, fun e he => (List.mem_singleton.mp he).trans h⟩
    · rw [if_neg h]
      exact ⟨[], (List.append_nil _).symm, fun e he => absurd he List.not_mem_nil⟩

/-- What is stripped from the end of a line is line feeds and carriage
    returns. -/
theorem stripEnd_eq_append (line : Text) :
    ∃ ending, line = stripEnd line ++ ending ∧ ∀ c ∈ ending, c = '\r' ∨ c = '\n' := by
  rcases dropLastIf_eq_append '\n' line with ⟨feed, hfeed, hf⟩
  rcases dropLastIf_eq_append '\r' (dropLastIf '\n' line) with ⟨ret, hret, hr⟩
  refine ⟨ret ++ feed, ?_, fun c hc => ?_⟩
  · rw [stripEnd, ← List.append_assoc, ← hret, ← hfeed]
  · rcases List.mem_append.mp hc with h | h
    · exact Or.inl (hr c h)
    · exact Or.inr (hf c h)

theorem isBlank_of_lineEnd {c : Char} (h : c = '\r' ∨ c = '\n') : isBlank c = true := by
  rcases h with rfl | rfl <;> rfl

theorem dropEndWhile_eq_self {p : Char → Bool} {s : Text} (h : ∀ c ∈ s.getLast?, p c = false) :
    dropEndWhile p s = s := by
  rcases List.eq_nil_or_concat s with rfl | ⟨front, c, rfl⟩
  · rfl
  · have hc : p c = false := h c (by rw [List.concat_eq_append, List.getLast?_concat]; rfl)
    rw [dropEndWhile, List.concat_eq_append, List.reverse_concat, List.dropWhile_cons, hc]
    exact List.reverse_cons.trans (by rw [List.reverse_reverse])

theorem dropWhile_eq_self {p : Char → Bool} {s : Text} (h : ∀ c ∈ s.head?, p c = false) :
    s.dropWhile p = s := by
  cases s with
  | nil => rfl
  | cons c s =>
      rw [List.dropWhile_cons, h c rfl]
      rfl

/-- The text without the runs at either end that satisfy the test. -/
def dropAround (p : Char → Bool) (s : Text) : Text :=
  dropEndWhile p (s.dropWhile p)

section Dropping

variable {p : Char → Bool} (s : Text) {t : Text}

theorem dropEndWhile_append_of_pos (ht : ∀ c ∈ t, p c = true) :
    dropEndWhile p (s ++ t) = dropEndWhile p s := by
  rw [dropEndWhile, dropEndWhile, List.reverse_append,
    List.dropWhile_append_of_pos (by simpa using ht)]

/-- Nothing that would be dropped makes a difference at the end. -/
theorem dropAround_append_of_pos (ht : ∀ c ∈ t, p c = true) :
    dropAround p (s ++ t) = dropAround p s := by
  rw [dropAround, dropAround, List.dropWhile_append]
  split
  · -- If all of `s` is dropped, nothing is left of either.
    next hempty =>
      rw [List.isEmpty_iff.mp hempty, List.dropWhile_eq_nil_iff.mpr ht]
  · exact dropEndWhile_append_of_pos _ ht

end Dropping

theorem trimEnd_append_of_blank (s : Text) {t : Text} (ht : ∀ c ∈ t, isBlank c = true) :
    trimEnd (s ++ t) = trimEnd s :=
  dropEndWhile_append_of_pos s ht

theorem trim_append_of_blank (s : Text) {t : Text} (ht : ∀ c ∈ t, isBlank c = true) :
    trim (s ++ t) = trim s :=
  dropAround_append_of_pos s ht

theorem trimEnd_stripEnd (line : Text) : trimEnd (stripEnd line) = trimEnd line := by
  rcases stripEnd_eq_append line with ⟨ending, hline, hend⟩
  conv => rhs; rw [hline]
  rw [trimEnd_append_of_blank _ fun c hc => isBlank_of_lineEnd (hend c hc)]

theorem trim_stripEnd (line : Text) : trim (stripEnd line) = trim line := by
  rcases stripEnd_eq_append line with ⟨ending, hline, hend⟩
  conv => rhs; rw [hline]
  rw [trim_append_of_blank _ fun c hc => isBlank_of_lineEnd (hend c hc)]

theorem allBlank_stripEnd (line : Text) : allBlank (stripEnd line) = allBlank line := by
  rcases stripEnd_eq_append line with ⟨ending, hline, hend⟩
  have hblank : ending.all isBlank = true :=
    List.all_eq_true.mpr fun c hc => isBlank_of_lineEnd (hend c hc)
  conv => rhs; rw [hline]
  rw [allBlank, allBlank, List.all_append, hblank, Bool.and_true]

theorem filter_stripEnd (line : Text) :
    (stripEnd line).filter (fun c => !isBlank c) = line.filter fun c => !isBlank c := by
  rcases stripEnd_eq_append line with ⟨ending, hline, hend⟩
  have hnone : ending.filter (fun c => !isBlank c) = [] := by
    rw [List.filter_eq_nil_iff]
    intro c hc
    rw [isBlank_of_lineEnd (hend c hc)]
    decide
  conv => rhs; rw [hline]
  rw [List.filter_append, hnone, List.append_nil]

theorem indentationFrom_append (column : Nat) (s : Text) {t : Text}
    (ht : ∀ c ∈ t, c = '\r' ∨ c = '\n') :
    indentationFrom column (s ++ t) = indentationFrom column s := by
  induction s generalizing column with
  | nil =>
      cases t with
      | nil => rfl
      | cons c t =>
          -- Neither character of a line end indents.
          rcases ht c List.mem_cons_self with rfl | rfl <;> rfl
  | cons c s ih => simp only [List.cons_append, indentationFrom, ih]

theorem indentation_stripEnd (line : Text) : indentation (stripEnd line) = indentation line := by
  rcases stripEnd_eq_append line with ⟨ending, hline, hend⟩
  conv => rhs; rw [hline]
  rw [indentation, indentation, indentationFrom_append 0 _ hend]

end Text

/-- The two lines are the same without their ends. -/
def SameBody (line line' : Text) : Prop :=
  Text.stripEnd line = Text.stripEnd line'

namespace SameBody

variable {line line' : Text}

theorem trim (h : SameBody line line') : Text.trim line = Text.trim line' := by
  rw [← Text.trim_stripEnd line, h, Text.trim_stripEnd]

theorem trimEnd (h : SameBody line line') : Text.trimEnd line = Text.trimEnd line' := by
  rw [← Text.trimEnd_stripEnd line, h, Text.trimEnd_stripEnd]

theorem allBlank (h : SameBody line line') : Text.allBlank line = Text.allBlank line' := by
  rw [← Text.allBlank_stripEnd line, h, Text.allBlank_stripEnd]

theorem indentation (h : SameBody line line') :
    Text.indentation line = Text.indentation line' := by
  rw [← Text.indentation_stripEnd line, h, Text.indentation_stripEnd]

theorem fence (h : SameBody line line') : Fence.ofLine? line = Fence.ofLine? line' := by
  rw [Fence.ofLine?, Fence.ofLine?, h.trim]

theorem closedBy (h : SameBody line line') (f : Fence) : f.closedBy line = f.closedBy line' := by
  rw [Fence.closedBy, Fence.closedBy, h.trim]

theorem isRow (h : SameBody line line') : Table.isRow line = Table.isRow line' := by
  rw [Table.isRow, Table.isRow, h.trim]

theorem cells (h : SameBody line line') : Table.cells line = Table.cells line' := by
  rw [Table.cells, Table.cells, h.trim]

theorem begins (h : SameBody line line') {next next' : Option Text}
    (hnext : Option.Rel SameBody next next') :
    Table.begins line next = Table.begins line' next' := by
  cases hnext with
  | none => rfl
  | some hrow =>
      simp only [Table.begins, Table.separates]
      rw [h.isRow, hrow.isRow, h.cells, hrow.cells]

theorem isRule (h : SameBody line line') : isRule line = ChatMarkup.isRule line' := by
  unfold ChatMarkup.isRule
  rw [← Text.filter_stripEnd line, h, Text.filter_stripEnd]

theorem heading (h : SameBody line line') : heading? line = heading? line' := by
  unfold heading?
  rw [show Text.stripEnd line = Text.stripEnd line' from h]

theorem item (h : SameBody line line') : item? line = item? line' := by
  unfold item?
  rw [show Text.stripEnd line = Text.stripEnd line' from h]

theorem quote (h : SameBody line line') : quote? line = quote? line' := by
  unfold quote?
  rw [show Text.stripEnd line = Text.stripEnd line' from h]

theorem isQuotedAt (h : SameBody line line') (depth : Nat) :
    isQuotedAt depth line = ChatMarkup.isQuotedAt depth line' := by
  rw [ChatMarkup.isQuotedAt, ChatMarkup.isQuotedAt, h.quote]

/-- Lines that are the same without their ends open the same block. -/
theorem ofLine_congr (h : SameBody line line') {next next' : Option Text}
    (hnext : Option.Rel SameBody next next') :
    Opening.ofLine line next = Opening.ofLine line' next' := by
  unfold Opening.ofLine
  rw [h.allBlank, h.fence, h.begins hnext, h.isRule, h.heading, h.item, h.quote]

end SameBody

variable {xs ys : List Text}

/-- What holds of the lines holds of the texts that they say. -/
theorem forall_mem_of_forall₂ {R : Text → Text → Prop} {P Q : Text → Prop}
    (h : List.Forall₂ R xs ys) (hR : ∀ x y, R x y → Q y → P x) (hys : ∀ y ∈ ys, Q y) :
    ∀ x ∈ xs, P x := by
  induction h with
  | nil => exact fun x hx => absurd hx List.not_mem_nil
  | cons hline _ ih =>
      rw [List.forall_mem_cons] at hys ⊢
      exact ⟨hR _ _ hline hys.1, ih hys.2⟩

theorem sameBody_head? (h : List.Forall₂ SameBody xs ys) :
    Option.Rel SameBody xs.head? ys.head? := by
  cases h with
  | nil => exact .none
  | cons hline _ => exact .some hline

theorem countLines_congr {p : Text → Bool}
    (hp : ∀ line line', SameBody line line' → p line = p line')
    (h : List.Forall₂ SameBody xs ys) : countLines p xs = countLines p ys := by
  unfold countLines
  induction h with
  | nil => rfl
  | cons hline _ ih =>
      rw [List.takeWhile_cons, List.takeWhile_cons, hp _ _ hline]
      split
      · rw [List.length_cons, List.length_cons, ih]
      · rfl

theorem continuation_congr {admits : Text → Bool}
    (hadmits : ∀ line line', SameBody line line' → admits line = admits line')
    (h : List.Forall₂ SameBody xs ys) : continuation admits xs = continuation admits ys := by
  induction h with
  | nil => rfl
  | cons hline hrest ih =>
      rw [continuation_cons, continuation_cons, hadmits _ _ hline,
        hline.ofLine_congr (sameBody_head? hrest), ih]

theorem findIdx?_closedBy_congr (f : Fence) (h : List.Forall₂ SameBody xs ys) :
    xs.findIdx? f.closedBy = ys.findIdx? f.closedBy := by
  induction h with
  | nil => rfl
  | cons hline _ ih => rw [List.findIdx?_cons, List.findIdx?_cons, hline.closedBy, ih]

/-- Blocks go on for as many lines if those are the same without their
    ends. -/
theorem Opening.extent_congr (opening : Opening) (h : List.Forall₂ SameBody xs ys) :
    opening.extent xs = opening.extent ys := by
  cases opening with
  | blank => exact countLines_congr (fun _ _ hline => hline.allBlank) h
  | fence f => simp only [extent, findIdx?_closedBy_congr f h, h.length_eq]
  | table => exact countLines_congr (fun _ _ hline => hline.isRow) h
  | rule => rfl
  | heading => rfl
  | item i => exact continuation_congr (fun _ _ hline => by rw [hline.indentation]) h
  | quote depth => exact countLines_congr (fun _ _ hline => hline.isQuotedAt depth) h
  | paragraph => exact continuation_congr (fun _ _ _ => rfl) h

end ChatMarkup
