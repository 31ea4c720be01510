import ChatMarkup.Text.Alphanumeric
import ChatMarkup.Text.Blank
import ChatMarkup.Text.Digits
import Mathlib.Data.List.Basic

/-!
# Characters and Their Runs

What separates the kinds of characters from each other, and what is read off a
run of them.

The recognisers of the markup ask a character whether it is white space, part of
a word, a digit or one of the marks. The first two are tables of Unicode ranges,
which have no range in common. A letter is taken in a wide sense: whatever can
be part of a word and is no digit. So a letter is none of the marks.

Runs are counted from the front of a text until another character stands there.
What a run of marks or of digits says can thus be read off when it is written in
front of something else.

## Main definitions

* `isLetter`: Whether a character is a letter, in any script.

## Theorems

* `not_isAlphanumeric_of_isBlank`: White space is no part of a word.
* `countWhile_replicate`: A run in front of another character is counted.
* `takeWhile_decimal`, `readDigits_decimal`, `length_decimal_le`: A number is
  read as it is written.
* `not_mem_decimal`, `head?_decimal_ne_zero`: What no number is written with.
* `splitOn_joinWith`: Joined pieces are cut into the same pieces again.
-/

namespace ChatMarkup

theorem Ranges.exists_of_coversPoint {ranges : Ranges} {n : Nat}
    (h : ranges.coversPoint n = true) : ∃ range ∈ ranges, range.1 ≤ n ∧ n ≤ range.2 := by
  induction ranges with
  | nil => exact absurd h Bool.false_ne_true
  | cons range ranges ih =>
      rw [Ranges.coversPoint] at h
      split at h
      · exact absurd h Bool.false_ne_true
      · split at h
        · exact ⟨range, List.mem_cons_self, by omega, by omega⟩
        · rcases ih h with ⟨other, hother, hbounds⟩
          exact ⟨other, List.mem_cons_of_mem _ hother, hbounds⟩

/-- Two tables of ranges have no character in common if no point of the one is in
    the other. -/
theorem Ranges.not_covers_of_covers {ranges others : Ranges} {c : Char}
    (hall : ∀ range ∈ ranges, ∀ offset ≤ range.2 - range.1,
      others.coversPoint (range.1 + offset) = false)
    (h : ranges.covers c = true) : others.covers c = false := by
  rcases exists_of_coversPoint h with ⟨range, hrange, hfirst, hlast⟩
  have hpoint := hall range hrange (c.toNat - range.1) (Nat.sub_le_sub_right hlast _)
  rwa [Nat.add_sub_cancel' hfirst] at hpoint

namespace Text

/-! ### Kinds of characters -/

/-- White space is no part of a word. -/
theorem not_isAlphanumeric_of_isBlank {c : Char} (h : isBlank c = true) :
    isAlphanumeric c = false :=
  Ranges.not_covers_of_covers (by decide +kernel) h

/-- A test tells the characters that pass it from those that do not. -/
theorem ne_of_passes {p : Char → Bool} {c d : Char} (hc : p c = true) (hd : p d = false) :
    c ≠ d := by
  rintro rfl
  exact Bool.false_ne_true (hd.symm.trans hc)

theorem not_isSpaceOrTab_of_not_isBlank {c : Char} (h : isBlank c = false) :
    isSpaceOrTab c = false := by
  rw [isSpaceOrTab, Bool.or_eq_false_iff, beq_eq_false_iff_ne, beq_eq_false_iff_ne]
  constructor <;> rintro rfl <;> exact absurd h (by decide)

/-- Whether the character is a letter. Whatever is part of a word and no digit
    counts as one. -/
def isLetter (c : Char) : Bool :=
  isAlphanumeric c && !isDigit c

theorem not_isBlank_of_isLetter {c : Char} (h : isLetter c = true) : isBlank c = false := by
  rw [isLetter, Bool.and_eq_true] at h
  cases hblank : isBlank c with
  | false => rfl
  | true => exact absurd (h.1.symm.trans (not_isAlphanumeric_of_isBlank hblank)) (by decide)

theorem not_isDigit_of_isLetter {c : Char} (h : isLetter c = true) : isDigit c = false := by
  rw [isLetter, Bool.and_eq_true, Bool.not_eq_true'] at h
  exact h.2

theorem digitValue?_of_isDigit {c : Char} (h : c.isDigit = true) :
    digitValue? c = some (c.toNat - '0'.toNat) := by
  rw [Char.isDigit, Bool.and_eq_true, decide_eq_true_eq, decide_eq_true_eq] at h
  exact if_pos h

theorem toNat_of_isDigit {c : Char} (h : c.isDigit = true) : ∃ n < 10, c.toNat = 48 + n := by
  rw [Char.isDigit, Bool.and_eq_true, decide_eq_true_eq, decide_eq_true_eq] at h
  have hfirst : 48 ≤ c.toNat := h.1
  have hlast : c.toNat ≤ 57 := h.2
  exact ⟨c.toNat - 48, by omega, by omega⟩

/-- Digits in the sense of core are digits here too. -/
theorem isDigit_of_isDigit {c : Char} (h : c.isDigit = true) : isDigit c = true := by
  rcases toNat_of_isDigit h with ⟨n, hn, hc⟩
  have hzero : '0'.toNat = 48 := rfl
  rw [isDigit, isDigitOf, digitValue?_of_isDigit h, hc, hzero, Nat.add_sub_cancel_left]
  exact decide_eq_true hn

theorem not_isBlank_of_isDigit {c : Char} (h : c.isDigit = true) : isBlank c = false := by
  have hall : ∀ n < 10, blankRanges.coversPoint (48 + n) = false := by decide
  rcases toNat_of_isDigit h with ⟨n, hn, hc⟩
  rw [isBlank, Ranges.covers, hc, hall n hn]

/-- The letters among the digits write ten and more. -/
theorem core_isDigit_of_isDigit {c : Char} (h : isDigit c = true) : c.isDigit = true := by
  rw [isDigit, isDigitOf, digitValue?] at h
  split at h
  · next hrange => exact Bool.and_eq_true _ _ ▸ ⟨decide_eq_true hrange.1, decide_eq_true hrange.2⟩
  · split at h
    · next hrange =>
        have hfirst : 97 ≤ c.toNat := hrange.1
        rw [Option.any_some, decide_eq_true_eq] at h
        omega
    · split at h
      · next hrange =>
          have hfirst : 65 ≤ c.toNat := hrange.1
          rw [Option.any_some, decide_eq_true_eq] at h
          omega
      · exact absurd h Bool.false_ne_true

theorem not_isDigit_of_isBlank {c : Char} (h : isBlank c = true) : isDigit c = false := by
  rw [← Bool.not_eq_true]
  intro hdigit
  have hblank := not_isBlank_of_isDigit (core_isDigit_of_isDigit hdigit)
  exact absurd (h.symm.trans hblank) (by decide)

theorem isDigit_of_mem_decimal {n : Nat} {c : Char} (h : c ∈ decimal n) : c.isDigit = true :=
  Nat.isDigit_of_mem_toDigits (by decide) (by decide) h

/-- No number is written with anything but digits. -/
theorem not_mem_decimal {n : Nat} {c : Char} (h : isDigit c = false) : c ∉ decimal n :=
  fun hmem => ne_of_passes (isDigit_of_isDigit (isDigit_of_mem_decimal hmem)) h rfl

theorem exists_decimal_eq (n : Nat) : ∃ c rest, decimal n = c :: rest ∧ isDigit c = true := by
  rcases hcons : decimal n with _ | ⟨c, rest⟩
  · exact absurd hcons Nat.toDigits_ne_nil
  · exact ⟨c, rest, rfl, isDigit_of_isDigit
      (isDigit_of_mem_decimal (n := n) (hcons ▸ List.mem_cons_self))⟩

/-- Only zero is written with a zero in front. -/
theorem head?_decimal_ne_zero {n : Nat} (h : n ≠ 0) : (decimal n).head? ≠ some '0' := by
  induction n using Nat.strongRecOn with
  | ind n ih =>
      by_cases hlt : n < 10
      · rw [decimal, Nat.toDigits_of_lt_base hlt, List.head?_cons]
        intro heq
        exact h (Nat.digitChar_eq_zero.mp (Option.some.inj heq))
      · -- The first digit is that of the number without its last digit.
        rw [decimal, Nat.toDigits_of_base_le (by decide) (by omega),
          List.head?_append_of_ne_nil _ Nat.toDigits_ne_nil]
        exact ih (n / 10) (by omega) (by omega)

/-- Digits to the base ten are digits to the base sixteen. -/
theorem isDigitOf_of_isDigit {c : Char} (h : isDigit c = true) : isDigitOf 16 c = true := by
  rcases (Option.any_eq_true _ _).mp h with ⟨value, hvalue, hlt⟩
  refine (Option.any_eq_true _ _).mpr ⟨value, hvalue, ?_⟩
  rw [decide_eq_true_eq] at hlt ⊢
  omega

/-! ### Runs -/

/-- A run in front of another character is counted and dropped. -/
theorem countWhile_replicate (c : Char) (n : Nat) (rest : Text) (hrest : rest.head? ≠ some c) :
    countWhile (· == c) (List.replicate n c ++ rest) = n ∧
      (List.replicate n c ++ rest).dropWhile (· == c) = rest := by
  induction n with
  | zero =>
      cases rest with
      | nil => exact ⟨rfl, rfl⟩
      | cons d rest =>
          have hd : (d == c) = false :=
            beq_eq_false_iff_ne.mpr fun heq => hrest (congrArg some heq)
          rw [List.replicate_zero, List.nil_append, countWhile, List.dropWhile_cons, hd]
          exact ⟨rfl, rfl⟩
  | succ n ih =>
      rw [List.replicate_succ, List.cons_append, countWhile, List.dropWhile_cons, BEq.rfl,
        if_pos rfl, if_pos rfl, ih.1]
      exact ⟨rfl, ih.2⟩

/-- The digits of a number are digits, and nothing behind them is. -/
theorem takeWhile_decimal (n : Nat) {c : Char} (hc : isDigit c = false) (rest : Text) :
    (decimal n ++ c :: rest).takeWhile isDigit = decimal n ∧
      (decimal n ++ c :: rest).dropWhile isDigit = c :: rest := by
  have hdigits : ∀ d ∈ decimal n, isDigit d = true := fun d hd =>
    isDigit_of_isDigit (isDigit_of_mem_decimal hd)
  rw [List.takeWhile_append_of_pos hdigits, List.dropWhile_append_of_pos hdigits,
    List.takeWhile_cons, List.dropWhile_cons, hc]
  exact ⟨List.append_nil _, rfl⟩

/-- A number is read as it is written. -/
theorem readDigits_decimal (n : Nat) : readDigits 10 (decimal n) = n := by
  have hdigits : ∀ c ∈ decimal n, (digitValue? c).getD 0 = c.toNat - '0'.toNat := by
    intro c hc
    rw [digitValue?_of_isDigit (isDigit_of_mem_decimal hc)]
    rfl
  have hread : readDigits 10 (decimal n) = Nat.ofDigitChars 10 (decimal n) 0 := by
    rw [readDigits, Nat.ofDigitChars_eq_foldl]
    exact List.foldl_ext _ _ _ fun total c hc => by rw [hdigits c hc]
  rw [hread]
  exact Nat.ofDigitChars_toDigits (by decide) (by decide)

theorem length_decimal_le {n : Nat} (h : n < 1000000000) : (decimal n).length ≤ 9 :=
  (Nat.length_toDigits_le_iff (by decide) (by decide)).mpr h

theorem joinWith_ne_nil (sep : Char) {pieces : List Text} (hne : pieces ≠ [])
    (hempty : pieces ≠ [[]]) : joinWith sep pieces ≠ [] := by
  rcases pieces with _ | ⟨piece, _ | ⟨next, pieces⟩⟩
  · exact absurd rfl hne
  · rw [joinWith]
    rintro rfl
    exact hempty rfl
  · rw [joinWith]
    exact List.append_ne_nil_of_right_ne_nil _ (List.cons_ne_nil _ _)

theorem mem_joinWith {sep c : Char} {pieces : List Text} (h : c ∈ joinWith sep pieces) :
    c = sep ∨ ∃ piece ∈ pieces, c ∈ piece := by
  induction pieces with
  | nil => exact absurd h List.not_mem_nil
  | cons piece pieces ih =>
      cases pieces with
      | nil => exact .inr ⟨piece, List.mem_cons_self, h⟩
      | cons next pieces =>
          rw [joinWith] at h
          rcases List.mem_append.mp h with hpiece | hrest
          · exact .inr ⟨piece, List.mem_cons_self, hpiece⟩
          · rcases List.mem_cons.mp hrest with hsep | hrest
            · exact .inl hsep
            · rcases ih hrest with hsep | ⟨other, hother, hmem⟩
              · exact .inl hsep
              · exact .inr ⟨other, List.mem_cons_of_mem _ hother, hmem⟩

theorem splitOn_of_not_mem {sep : Char} {s : Text} (h : sep ∉ s) : splitOn sep s = [s] := by
  induction s with
  | nil => rfl
  | cons c s ih =>
      have hc : c ≠ sep := fun heq => h (by rw [heq]; exact List.mem_cons_self)
      rw [splitOn, if_neg hc, ih fun hmem => h (List.mem_cons_of_mem _ hmem)]

theorem splitOn_append {sep : Char} {s : Text} (h : sep ∉ s) (t : Text) :
    splitOn sep (s ++ sep :: t) = s :: splitOn sep t := by
  induction s with
  | nil => rw [List.nil_append, splitOn, if_pos rfl]
  | cons c s ih =>
      have hc : c ≠ sep := fun heq => h (by rw [heq]; exact List.mem_cons_self)
      rw [List.cons_append, splitOn, if_neg hc, ih fun hmem => h (List.mem_cons_of_mem _ hmem)]

/-- There is one piece more than there are separators. -/
theorem length_splitOn (sep : Char) (s : Text) : (splitOn sep s).length = s.count sep + 1 := by
  induction s with
  | nil => rfl
  | cons c s ih =>
      rw [splitOn, List.count_cons]
      split
      · next hc => rw [List.length_cons, ih, if_pos (beq_iff_eq.mpr hc)]
      · next hc =>
          rw [if_neg (mt beq_iff_eq.mp hc), Nat.add_zero, ← ih]
          cases hpieces : splitOn sep s with
          | nil => exact absurd hpieces (splitOn_ne_nil sep s)
          | cons piece pieces => rfl

theorem not_mem_of_mem_splitOn {sep : Char} {s piece : Text} (h : piece ∈ splitOn sep s) :
    sep ∉ piece := by
  induction s generalizing piece with
  | nil =>
      rw [splitOn, List.mem_singleton] at h
      rw [h]
      exact List.not_mem_nil
  | cons c s ih =>
      rw [splitOn] at h
      split at h
      · rcases List.mem_cons.mp h with rfl | hrest
        · exact List.not_mem_nil
        · exact ih hrest
      · next hc =>
          cases hpieces : splitOn sep s with
          | nil => exact absurd hpieces (splitOn_ne_nil sep s)
          | cons first pieces =>
              rw [hpieces] at h ih
              rcases List.mem_cons.mp h with rfl | hrest
              · exact List.not_mem_cons_of_ne_of_not_mem (fun heq => hc heq.symm)
                  (ih List.mem_cons_self)
              · exact ih (List.mem_cons_of_mem _ hrest)

/-- Joined pieces are cut into the same pieces again. -/
theorem splitOn_joinWith {sep : Char} {pieces : List Text} (hne : pieces ≠ [])
    (hsep : ∀ piece ∈ pieces, sep ∉ piece) : splitOn sep (joinWith sep pieces) = pieces := by
  induction pieces with
  | nil => exact absurd rfl hne
  | cons piece pieces ih =>
      have hpiece := hsep piece List.mem_cons_self
      cases pieces with
      | nil =>
          rw [joinWith]
          exact splitOn_of_not_mem hpiece
      | cons next pieces =>
          rw [joinWith, splitOn_append hpiece, ih (List.cons_ne_nil _ _) fun other hother =>
            hsep other (List.mem_cons_of_mem _ hother)]

end Text

end ChatMarkup
