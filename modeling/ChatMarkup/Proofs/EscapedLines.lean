import ChatMarkup.Proofs.Escaping
import ChatMarkup.Proofs.Leading
import ChatMarkup.Proofs.Lines

/-!
# Lines of Escaped Text

What a line with backslashes opens, namely a paragraph or nothing.

Backslashes neither end lines nor stand between characters of a line end. So
escaped text has the lines of the text, each with its backslashes. Nor are they
white space, so the lines that are blank are the same ones.

A line that is not blank leads with a character that no block begins with, or
with a backslash. The only exception is a digit, since a number could begin a
list item. The character behind the number would have to be a period or a
parenthesis, and before these stands a backslash.

## Main definitions

* `EscapedLine`: One line is the other with backslashes.

## Theorems

* `Escaped.lines`: Escaped text has the lines of the text.
* `Escaped.exists_lead`: What the first visible character can be.
* `EscapedLine.ofLine`: A line that is not blank begins a paragraph.
-/

namespace ChatMarkup

open Inline

/-- The second line is the first with backslashes, and it ends as the first does.
    Where the lines begin, `front` has been passed. -/
def EscapedLine (front line line' : Text) : Prop :=
  ∃ body body' ending, line = body ++ ending ∧ line' = body' ++ ending ∧
    Escaped front body body' ∧ '\n' ∉ body ∧ (ending = [] ∨ ending = ['\n'])

namespace Text

/-- A character that does not end its line joins the first line behind it. -/
theorem lines_cons_of_ne {c : Char} (hc : c ≠ '\n') (s : Text) :
    lines (c :: s) = (c :: (lines s).headD []) :: (lines s).tail := by
  rw [lines, if_neg hc]
  cases lines s <;> rfl

end Text

theorem forall₂_of_headD {R : Text → Text → Prop} {xs ys : List Text}
    (hnil : xs = [] ↔ ys = []) (hhead : R (xs.headD []) (ys.headD []))
    (htail : List.Forall₂ R xs.tail ys.tail) : List.Forall₂ R xs ys := by
  cases xs with
  | nil => rw [hnil.mp rfl]; exact .nil
  | cons line xs =>
      cases ys with
      | nil => exact absurd (hnil.mpr rfl) (List.cons_ne_nil _ _)
      | cons line' ys => exact .cons hhead htail

namespace Escaped

variable {front s e : Text}

/-- The first lines go on from `front`, and the others begin anew. -/
theorem lines_parts (h : Escaped front s e) :
    (Text.lines s = [] ↔ Text.lines e = []) ∧
      EscapedLine front ((Text.lines s).headD []) ((Text.lines e).headD []) ∧
      List.Forall₂ (EscapedLine []) (Text.lines s).tail (Text.lines e).tail := by
  induction h with
  | nil front => exact ⟨Iff.rfl, ⟨[], [], [], rfl, rfl, .nil front, by simp, .inl rfl⟩, .nil⟩
  | @plain front s e c hc h ih =>
      by_cases hfeed : c = '\n'
      · rw [onLine, if_pos hfeed] at ih
        rw [Text.lines, Text.lines, if_pos hfeed, if_pos hfeed, hfeed]
        refine ⟨by simp, ⟨[], [], ['\n'], rfl, rfl, .nil front, by simp, .inr rfl⟩, ?_⟩
        exact forall₂_of_headD ih.1 ih.2.1 ih.2.2
      · rcases ih with ⟨_, ⟨body, body', ending, hline, hline', hbody, hno, hending⟩, hmore⟩
        rw [Text.lines_cons_of_ne hfeed, Text.lines_cons_of_ne hfeed, hline, hline']
        refine ⟨by simp, ⟨c :: body, c :: body', ending, rfl, rfl, .plain hc hbody, ?_, hending⟩,
          hmore⟩
        exact List.not_mem_cons_of_ne_of_not_mem (Ne.symm hfeed) hno
  | @escaped front s e c hc h ih =>
      have hfeed : c ≠ '\n' := Text.ne_of_passes hc (by decide)
      rcases ih with ⟨_, ⟨body, body', ending, hline, hline', hbody, hno, hending⟩, hmore⟩
      rw [Text.lines_cons_of_ne hfeed, Text.lines_cons_of_ne (by decide),
        Text.lines_cons_of_ne hfeed, hline, List.headD_cons, hline']
      refine ⟨by simp, ⟨c :: body, '\\' :: c :: body', ending, rfl, rfl, .escaped hc hbody, ?_,
        hending⟩, hmore⟩
      exact List.not_mem_cons_of_ne_of_not_mem (Ne.symm hfeed) hno

/-- Escaped text has the lines of the text, with backslashes. -/
theorem lines (h : Escaped [] s e) :
    List.Forall₂ (EscapedLine []) (Text.lines s) (Text.lines e) :=
  forall₂_of_headD h.lines_parts.1 h.lines_parts.2.1 h.lines_parts.2.2

end Escaped

/-! ### What a line leads with -/

/-- A digit goes on with a number behind white space, or begins one. -/
theorem isNumber_concat {front : Text} (hfront : (Text.trimStart front).all Text.isDigit = true)
    {c : Char} (hc : Text.isDigit c = true) : isNumber (front ++ [c]) = true := by
  have hblank : Text.isBlank c = false := by
    rw [← Bool.not_eq_true]
    exact fun hblank => absurd (hc.symm.trans (Text.not_isDigit_of_isBlank hblank)) (by decide)
  have htrim : Text.trimStart (front ++ [c]) = Text.trimStart front ++ [c] := by
    rw [Text.trimStart, Text.trimStart, List.dropWhile_append]
    split
    · next hempty =>
        rw [List.isEmpty_iff.mp hempty, List.dropWhile_cons, hblank]
        rfl
    · rfl
  have hdigits : (Text.trimStart front ++ [c]).all Text.isDigit = true := by
    rw [List.all_append, hfront, List.all_cons, hc]
    rfl
  rw [isNumber, htrim, hdigits, Bool.and_true]
  simp

namespace Escaped

variable {front s e : Text}

/-- Behind a number, neither a period nor a parenthesis stands without a
    backslash. -/
theorem head?_dropWhile_isDigit (h : Escaped front s e) (hfront : isNumber front = true) :
    ∀ d ∈ (e.dropWhile Text.isDigit).head?, d ≠ '.' ∧ d ≠ ')' := by
  induction h with
  | nil => exact fun d hd => absurd hd (by simp)
  | @plain front s e c hc h ih =>
      rw [List.dropWhile_cons]
      split
      · next hdigit =>
          -- The number goes on.
          have hfeed : c ≠ '\n' := Text.ne_of_passes hdigit (by decide)
          rw [isNumber, Bool.and_eq_true] at hfront
          rw [onLine, if_neg hfeed] at ih
          exact ih (isNumber_concat hfront.2 hdigit)
      · intro d hd
        rw [needsEscape, hfront, Bool.and_true, Bool.or_eq_false_iff, Bool.or_eq_false_iff,
          Bool.or_eq_false_iff, beq_eq_false_iff_ne, beq_eq_false_iff_ne] at hc
        rw [← Option.some.inj hd]
        exact hc.2
  | escaped =>
      intro d hd
      rw [← Option.some.inj hd]
      decide

/-- On a line that is not blank, the first visible character is not one that a
    block begins with. If it is a digit, no marker of a list item follows. -/
theorem exists_lead (h : Escaped front s e) (hfront : Text.allBlank front = true)
    (hs : Text.allBlank s = false) :
    ∃ indent c rest, e = indent ++ c :: rest ∧ (∀ d ∈ indent, Text.isBlank d = true) ∧
      Text.isBlank c = false ∧ c ∉ blockMarks ∧
      (Text.isDigit c = true →
        ∀ d ∈ (rest.dropWhile Text.isDigit).head?, d ≠ '.' ∧ d ≠ ')') := by
  induction h with
  | nil => exact absurd hs (by decide)
  | @plain front s e c hc h ih =>
      cases hblank : Text.isBlank c with
      | true =>
          have hline : Text.allBlank (onLine front c) = true := by
            rw [onLine]
            split
            · rfl
            · rw [Text.allBlank, List.all_append, ← Text.allBlank, hfront, List.all_cons, hblank]
              rfl
          rw [Text.allBlank, List.all_cons, hblank, Bool.true_and, ← Text.allBlank] at hs
          rcases ih hline hs with ⟨indent, d, rest, rfl, hindent, hlead⟩
          exact ⟨c :: indent, d, rest, rfl, List.forall_mem_cons.mpr ⟨hblank, hindent⟩, hlead⟩
      | false =>
          refine ⟨[], c, e, rfl, fun d hd => absurd hd List.not_mem_nil, hblank, ?_,
            fun hdigit => ?_⟩
          · -- The marks begin inline markup as well, or they begin blocks here.
            have hmarks : (blockMarks.all fun d => !Phrase.isPlain d || beginsBlock d) = true := rfl
            rw [needsEscape, hfront, Bool.and_true, Bool.or_eq_false_iff] at hc
            intro hmem
            exact absurd ((List.all_eq_true.mp hmarks c hmem).symm.trans hc.1) (by decide)
          · have hfeed : c ≠ '\n' := Text.ne_of_passes hdigit (by decide)
            have htrim : Text.trimStart front = [] := by
              rw [Text.trimStart, List.dropWhile_eq_nil_iff]
              exact List.all_eq_true.mp hfront
            rw [onLine, if_neg hfeed] at h
            exact h.head?_dropWhile_isDigit (isNumber_concat (by rw [htrim]; rfl) hdigit)
  | @escaped front s e c hc h ih =>
      refine ⟨[], '\\', c :: e, rfl, fun d hd => absurd hd List.not_mem_nil, by decide, by decide,
        fun hdigit => absurd hdigit (by decide)⟩

end Escaped

/-- Digits are no marker if neither a period nor a parenthesis follows. -/
theorem itemMarker?_of_digits {c : Char} {rest : Text} (hc : Text.isDigit c = true)
    (hrest : ∀ d ∈ (rest.dropWhile Text.isDigit).head?, d ≠ '.' ∧ d ≠ ')') :
    itemMarker? (c :: rest) = none := by
  have hbullet : (c == '-' || c == '*' || c == '+') = false := by
    rw [beq_eq_false_iff_ne.mpr (Text.ne_of_passes hc (by decide)),
      beq_eq_false_iff_ne.mpr (Text.ne_of_passes hc (by decide)),
      beq_eq_false_iff_ne.mpr (Text.ne_of_passes hc (by decide))]
    rfl
  rw [itemMarker?, hbullet, List.dropWhile_cons, hc]
  simp only [if_true, Bool.false_eq_true, if_false]
  split
  · rfl
  · cases hbehind : rest.dropWhile Text.isDigit with
    | nil => rfl
    | cons d more =>
        rw [hbehind] at hrest
        rcases hrest d rfl with ⟨hperiod, hparen⟩
        simp only [beq_eq_false_iff_ne.mpr hperiod, beq_eq_false_iff_ne.mpr hparen, Bool.or_self,
          Bool.false_eq_true, if_false]

namespace EscapedLine

variable {line line' : Text}

theorem stripEnd_append {body ending : Text} (hfeed : '\n' ∉ body) (hreturn : '\r' ∉ body)
    (hending : ending = [] ∨ ending = ['\n']) : Text.stripEnd (body ++ ending) = body := by
  have hlast {c : Char} (hc : c ∉ body) : body.getLast? ≠ some c :=
    fun heq => hc (List.mem_of_getLast? heq)
  rcases hending with rfl | rfl
  · rw [List.append_nil, Text.stripEnd, Text.dropLastIf_of_ne (hlast hfeed),
      Text.dropLastIf_of_ne (hlast hreturn)]
  · exact Text.stripEnd_append_feed (hlast hreturn)

/-- Without their ends, the lines are a line and the line with backslashes. -/
theorem stripEnd (h : EscapedLine [] line line') (hreturn : '\r' ∉ line) :
    Escaped [] (Text.stripEnd line) (Text.stripEnd line') ∧ '\n' ∉ Text.stripEnd line := by
  rcases h with ⟨body, body', ending, rfl, rfl, hbody, hfeed, hending⟩
  have hplain : '\r' ∉ body := fun hmem => hreturn (List.mem_append_left _ hmem)
  have hfeed' : '\n' ∉ body' := hbody.not_mem (by decide) hfeed
  have hplain' : '\r' ∉ body' := hbody.not_mem (by decide) hplain
  rw [stripEnd_append hfeed hplain hending, stripEnd_append hfeed' hplain' hending]
  exact ⟨hbody, hfeed⟩

/-- The same lines are blank. -/
theorem allBlank (h : EscapedLine [] line line') :
    Text.allBlank line' = Text.allBlank line := by
  rcases h with ⟨body, body', ending, rfl, rfl, hbody, -, -⟩
  have hblank := hbody.allBlank
  rw [Text.allBlank, Text.allBlank] at hblank ⊢
  rw [List.all_append, List.all_append, hblank]

/-- A line that is not blank begins a paragraph, whatever comes behind it. -/
theorem ofLine (h : EscapedLine [] line line') (hreturn : '\r' ∉ line)
    (htext : Text.allBlank line = false) (next : Option Text) :
    Opening.ofLine line' next = .paragraph := by
  have hbody := (h.stripEnd hreturn).1
  rcases hbody.exists_lead rfl ((Text.allBlank_stripEnd line).trans htext) with
    ⟨indent, c, rest, hstrip, hindent, hc, hmarks, hnumber⟩
  rcases Text.stripEnd_eq_append line' with ⟨ending, hline', _⟩
  have hleads : Leads c line' := by
    rw [hline', hstrip]
    exact Leads.append ⟨hc, indent, rest, hindent, rfl⟩ ending
  refine hleads.paragraph hmarks (fun hdigit => ?_) next
  exact item?_of_itemMarker? hstrip hindent hc (itemMarker?_of_digits hdigit (hnumber hdigit))

end EscapedLine

end ChatMarkup
