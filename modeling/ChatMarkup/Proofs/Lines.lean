import ChatMarkup.Text.Lines

/-!
# The Lines of a Text

Which lists of texts are the lines of some text, and how they behave when
texts are put one after the other.

`Text.lines` cuts after each line feed. A list is the result of such a cut
exactly if every text in it but the last ends with its only line feed, and the
last is not empty and has no line feed before its end. `AreLines` says so by
recursion on the list, which is the form that a prefix or a suffix of the list
inherits. For such a list, cutting undoes putting together.

A text that ends no line halfway can be followed by any other text without a
line changing. `Whole` names these texts.

## Main definitions

* `AreLines`: The list is the lines of some text.
* `Whole`: The text is empty or ends with a line feed.

## Theorems

* `areLines_lines`: A text is cut into lines.
* `lines_flatten`: Lines put together are cut into the same lines again.
* `AreLines.of_append_left`, `AreLines.of_append_right`: Neighbouring lines of a
  text are the lines of a text themselves.
* `lines_append`: A whole text does not share a line with what follows it.
* `length_lines`: A whole text has as many lines as line feeds.
-/

namespace ChatMarkup

namespace Text

/-- The texts are the lines of some text. Only the last of them can lack its
    line feed. -/
inductive AreLines : List Text → Prop
  /-- The empty text has no lines. -/
  | nil : AreLines []
  /-- A line without a line feed is the last. -/
  | last (line : Text) : line ≠ [] → '\n' ∉ line → AreLines [line]
  /-- A line with its line feed stands before any others. -/
  | cons (body : Text) (more : List Text) : '\n' ∉ body → AreLines more →
      AreLines ((body ++ ['\n']) :: more)

/-- The text is empty or ends with a line feed. -/
def Whole (s : Text) : Prop :=
  ∀ c, s.getLast? = some c → c = '\n'

theorem whole_nil : Whole [] := by
  intro c hc
  exact absurd hc (by simp only [List.getLast?_nil, reduceCtorEq, not_false_eq_true])

theorem whole_of_getLast? {s : Text} (h : s.getLast? = some '\n') : Whole s :=
  fun _ hc => (Option.some.inj (h.symm.trans hc)).symm

theorem Whole.of_cons {c d : Char} {s : Text} (h : Whole (c :: d :: s)) : Whole (d :: s) := by
  intro e he
  exact h e (by rw [List.getLast?_cons_cons]; exact he)

theorem Whole.append {s t : Text} (hs : Whole s) (ht : Whole t) : Whole (s ++ t) := by
  intro c hc
  rw [List.getLast?_append] at hc
  cases hlast : t.getLast? with
  | some d =>
      rw [hlast] at hc
      exact ht c (by rw [hlast]; exact hc)
  | none =>
      rw [hlast] at hc
      exact hs c hc

theorem lines_ne_nil {s : Text} (h : s ≠ []) : lines s ≠ [] := by
  cases s with
  | nil => exact absurd rfl h
  | cons c rest =>
      rw [lines]
      split
      · simp
      · split <;> simp

theorem areLines_lines (s : Text) : AreLines (lines s) := by
  induction s with
  | nil => exact .nil
  | cons c rest ih =>
      rw [lines]
      by_cases hc : c = '\n'
      · rw [if_pos hc, hc]
        exact .cons [] _ (by simp) ih
      · rw [if_neg hc]
        have hne : '\n' ≠ c := fun heq => hc heq.symm
        cases hrest : lines rest with
        | nil => exact .last [c] (by simp) (by simp [hne])
        | cons line more =>
            rw [hrest] at ih
            -- The character joins the first line, which keeps its end.
            cases ih with
            | last _ _ hfeed => exact .last (c :: line) (by simp) (by simp [hne, hfeed])
            | cons body _ hfeed hmore => exact .cons (c :: body) more (by simp [hne, hfeed]) hmore

theorem lines_of_no_feed {s : Text} (hne : s ≠ []) (h : '\n' ∉ s) : lines s = [s] := by
  induction s with
  | nil => exact absurd rfl hne
  | cons c rest ih =>
      have hc : c ≠ '\n' := fun heq => h (by simp [heq])
      have hrest : '\n' ∉ rest := fun hmem => h (List.mem_cons_of_mem c hmem)
      rw [lines, if_neg hc]
      cases rest with
      | nil => rfl
      | cons d rest => rw [ih (by simp) hrest]

theorem not_mem_of_mem_lines {c : Char} {s line : Text} (h : c ∉ s) (hline : line ∈ lines s) :
    c ∉ line := by
  rw [← flatten_lines s] at h
  exact fun hmem => h (List.mem_flatten_of_mem hline hmem)

/-- A whole text does not share a line with what follows it. -/
theorem lines_append {s : Text} (t : Text) (h : Whole s) : lines (s ++ t) = lines s ++ lines t := by
  induction s with
  | nil => rfl
  | cons c rest ih =>
      rw [List.cons_append, lines, lines]
      by_cases hc : c = '\n'
      · rw [if_pos hc, if_pos hc]
        have hrest : Whole rest := by
          cases rest with
          | nil => exact whole_nil
          | cons d rest => exact h.of_cons
        rw [ih hrest, List.cons_append]
      · rw [if_neg hc, if_neg hc]
        cases rest with
        | nil => exact absurd (h c rfl) hc
        | cons d rest =>
            rw [ih h.of_cons]
            cases hline : lines (d :: rest) with
            | nil => exact absurd hline (lines_ne_nil (by simp))
            | cons line more => rfl

theorem whole_append_feed (s : Text) : Whole (s ++ ['\n']) :=
  whole_of_getLast? List.getLast?_concat

theorem lines_feed {body : Text} (h : '\n' ∉ body) : lines (body ++ ['\n']) = [body ++ ['\n']] := by
  induction body with
  | nil => rfl
  | cons c rest ih =>
      have hc : c ≠ '\n' := fun heq => h (by simp [heq])
      rw [List.cons_append, lines, if_neg hc, ih fun hmem => h (List.mem_cons_of_mem c hmem)]

/-- Lines put together are cut into the same lines again. -/
theorem lines_flatten {ls : List Text} (h : AreLines ls) : lines ls.flatten = ls := by
  induction h with
  | nil => rfl
  | last line hne hfeed =>
      rw [List.flatten_singleton]
      exact lines_of_no_feed hne hfeed
  | cons body more hfeed _ ih =>
      rw [List.flatten_cons, lines_append _ (whole_append_feed body), ih, lines_feed hfeed]
      rfl

namespace AreLines

theorem ne_nil {line : Text} {more : List Text} (h : AreLines (line :: more)) : line ≠ [] := by
  cases h with
  | last _ hne _ => exact hne
  | cons body _ _ _ => simp

theorem tail {line : Text} {more : List Text} (h : AreLines (line :: more)) : AreLines more := by
  cases h with
  | last => exact .nil
  | cons _ _ _ hmore => exact hmore

theorem of_append_right {xs ys : List Text} (h : AreLines (xs ++ ys)) : AreLines ys := by
  induction xs with
  | nil => exact h
  | cons line xs ih => exact ih h.tail

theorem of_append_left {xs ys : List Text} (h : AreLines (xs ++ ys)) : AreLines xs := by
  induction xs with
  | nil => exact .nil
  | cons line xs ih =>
      rw [List.cons_append] at h
      have hxs := ih h.tail
      generalize hrest : xs ++ ys = rest at h
      cases h with
      | last _ hne hfeed =>
          have hnil : xs = [] := (List.append_eq_nil_iff.mp hrest).1
          rw [hnil]
          exact .last line hne hfeed
      | cons body _ hfeed _ => exact .cons body xs hfeed hxs

/-- Lines with others after them make a whole text. -/
theorem whole_flatten {xs ys : List Text} (h : AreLines (xs ++ ys)) (hys : ys ≠ []) :
    Whole xs.flatten := by
  induction xs with
  | nil => exact whole_nil
  | cons line xs ih =>
      have hxs := ih h.tail
      rw [List.cons_append] at h
      generalize hrest : xs ++ ys = rest at h
      cases h with
      | last => exact absurd (List.append_eq_nil_iff.mp hrest).2 hys
      | cons body _ _ _ =>
          rw [List.flatten_cons]
          exact (whole_append_feed body).append hxs

/-- There are as many lines as line feeds, if the last line has its own. -/
theorem length_eq {ls : List Text} (h : AreLines ls) (hwhole : Whole ls.flatten) :
    ls.length = ls.flatten.count '\n' := by
  induction h with
  | nil => rfl
  | last line hne hfeed =>
      -- A line that lacks its line feed does not end with one.
      rw [List.flatten_singleton] at hwhole
      rcases Option.ne_none_iff_exists'.mp (mt List.getLast?_eq_none_iff.mp hne) with ⟨c, hc⟩
      exact absurd (hwhole c hc ▸ List.mem_of_getLast? hc) hfeed
  | cons body more hfeed hmore ih =>
      have hrest : Whole more.flatten := by
        intro c hc
        refine hwhole c ?_
        rw [List.flatten_cons, List.getLast?_append, hc]
        rfl
      rw [List.length_cons, ih hrest, List.flatten_cons, List.count_append, List.count_append,
        List.count_eq_zero.mpr hfeed, List.count_singleton_self]
      omega

end AreLines

/-- A text of whole lines has as many lines as line feeds. -/
theorem length_lines {s : Text} (h : Whole s) : (lines s).length = s.count '\n' := by
  have hlength := (areLines_lines s).length_eq (by rwa [flatten_lines])
  rwa [flatten_lines] at hlength

end Text

end ChatMarkup
