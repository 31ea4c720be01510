import ChatMarkup.Inline.Scan
import ChatMarkup.Proofs.Characters

/-!
# Runs of Backticks

Which run of backticks ends a span of code.

The reader of code counts the backticks in front of it and decides about a run
when it comes to an end. What it finds can be said without counting: the next
run of a given length, where a run is one with no backtick on either side of it.
A run within a longer one is none. So a text has at most one next run of a
length, and the reader finds it if there is any.

## Main definitions

* `HasTicks`: There is a run of so many backticks.
* `NextTicks`: The next such run stands between two texts.

## Theorems

* `hasTicks_ticks_append`: A run in front of another character, and those
  behind it.
* `NextTicks.unique`: There is only one next run.
* `codeBody?_eq_some_iff`, `codeBody?_eq_none_iff`: The reader finds the next
  run.
* `tokens_ticks_code`: Text between runs of one length is code.
-/

namespace ChatMarkup.Inline

/-- There is a run of exactly `count` backticks in the text. No backtick stands
    in front of the run or behind it. -/
def HasTicks (count : Nat) (s : Text) : Prop :=
  ∃ before after, s = before ++ ticks count ++ after ∧
    before.getLast? ≠ some backtick ∧ after.head? ≠ some backtick

/-- The next run of exactly `count` backticks in the text stands between `body`
    and `rest`. -/
structure NextTicks (count : Nat) (s body rest : Text) : Prop where
  /-- The run is in the text. -/
  source : s = body ++ ticks count ++ rest
  /-- No backtick stands in front of the run. -/
  before : body.getLast? ≠ some backtick
  /-- No backtick stands behind it. -/
  after : rest.head? ≠ some backtick
  /-- It is the first of its length. -/
  first : ¬ HasTicks count body

theorem head?_ticks {count : Nat} (h : 0 < count) : (ticks count).head? = some backtick := by
  rw [ticks, List.head?_replicate, if_neg (Nat.pos_iff_ne_zero.mp h)]

/-- A text does not end in a backtick if neither a character in it is one nor
    what follows the character ends in one. -/
theorem getLast?_append_cons_ne {c : Char} (hc : c ≠ backtick) {s : Text}
    (hs : s.getLast? ≠ some backtick) (front : Text) :
    (front ++ c :: s).getLast? ≠ some backtick := by
  rw [List.getLast?_append, List.getLast?_cons, Option.some_or]
  cases hlast : s.getLast? with
  | none => exact fun heq => hc (Option.some.inj heq)
  | some d => exact fun heq => hs (hlast.trans heq)

/-- What stands in front of a run, within backticks, is nothing. -/
theorem eq_nil_of_ticks_eq_append {count : Nat} {s t : Text} (h : ticks count = s ++ t)
    (hs : s.getLast? ≠ some backtick) : s = [] := by
  by_contra hne
  have hmem : s.getLast hne ∈ ticks count := by
    rw [h]
    exact List.mem_append_left _ (List.getLast_mem hne)
  rw [List.getLast?_eq_some_getLast hne, List.eq_of_mem_replicate hmem] at hs
  exact hs rfl

/-- Runs of backticks in front of something else are told apart by their
    length. -/
theorem ticks_append_inj {count other : Nat} {s t : Text} (hs : s.head? ≠ some backtick)
    (ht : t.head? ≠ some backtick) (h : ticks count ++ s = ticks other ++ t) :
    count = other ∧ s = t := by
  have hcount := Text.countWhile_replicate backtick count s hs
  have hother := Text.countWhile_replicate backtick other t ht
  rw [ticks, ticks] at h
  rw [h] at hcount
  exact ⟨hcount.1.symm.trans hother.1, hcount.2.symm.trans hother.2⟩

theorem hasTicks_ticks {count : Nat} (hcount : 0 < count) (pending : Nat) :
    HasTicks count (ticks pending) ↔ pending = count := by
  constructor
  · rintro ⟨before, after, heq, hbefore, hafter⟩
    rw [List.append_assoc] at heq
    obtain rfl := eq_nil_of_ticks_eq_append heq hbefore
    rw [List.nil_append, ← List.append_nil (ticks pending)] at heq
    exact (ticks_append_inj (by simp) hafter heq).1
  · rintro rfl
    exact ⟨[], [], by simp, by simp, by simp⟩

/-- The runs of a text that begins with backticks are those backticks and the
    runs behind them. -/
theorem hasTicks_ticks_append {count : Nat} (hcount : 0 < count) (pending : Nat) {c : Char}
    (hc : c ≠ backtick) (s : Text) :
    HasTicks count (ticks pending ++ c :: s) ↔ pending = count ∨ HasTicks count s := by
  have hhead : (c :: s).head? ≠ some backtick := fun heq => hc (Option.some.inj heq)
  constructor
  · rintro ⟨before, after, heq, hbefore, hafter⟩
    rw [List.append_assoc] at heq
    -- The run begins in the backticks in front, or behind them.
    rcases List.append_eq_append_iff.mp heq with ⟨skipped, rfl, hrest⟩ | ⟨held, hticks, hrest⟩
    · cases skipped with
      | nil =>
          -- It cannot begin at a character that is no backtick.
          have hfirst := congrArg List.head? hrest
          rw [List.nil_append, List.head?_append, head?_ticks hcount] at hfirst
          exact absurd (Option.some.inj hfirst) hc
      | cons d skipped =>
          rw [List.cons_append] at hrest
          refine .inr ⟨skipped, after, ?_, fun hlast => ?_, hafter⟩
          · rw [(List.cons.inj hrest).2, List.append_assoc]
          · rw [List.getLast?_append, List.getLast?_cons, hlast] at hbefore
            exact hbefore rfl
    · obtain rfl := eq_nil_of_ticks_eq_append hticks hbefore
      rw [List.nil_append] at hticks
      rw [← hticks] at hrest
      exact .inl (ticks_append_inj hhead hafter hrest.symm).1
  · rintro (rfl | ⟨before, after, rfl, hbefore, hafter⟩)
    · exact ⟨[], c :: s, rfl, by simp, hhead⟩
    · exact ⟨ticks pending ++ c :: before, after, by simp,
        getLast?_append_cons_ne hc hbefore _, hafter⟩

namespace NextTicks

variable {count : Nat} {s body rest body' rest' : Text}

/-- No run that is next stands in front of another one. -/
theorem not_shorter (h : NextTicks count s body rest)
    (h' : NextTicks count s body' rest') : ¬ body.length < body'.length := by
  intro hlt
  have heq := h.source.symm.trans h'.source
  rw [List.append_assoc, List.append_assoc] at heq
  rcases List.append_eq_append_iff.mp heq with ⟨more, rfl, hrest⟩ | ⟨more, rfl, _⟩
  · -- The longer text goes on into the first run, and so it ends in a backtick or holds the run.
    rcases List.append_eq_append_iff.mp hrest with ⟨further, rfl, hafter⟩ | ⟨further, hticks, _⟩
    · refine h'.first ⟨body, further, (List.append_assoc _ _ _).symm, h.before, fun hhead => ?_⟩
      have hbehind := h.after
      rw [hafter, List.head?_append, hhead] at hbehind
      exact hbehind rfl
    · have hnil : more = [] := by
        refine eq_nil_of_ticks_eq_append hticks fun hlast => h'.before ?_
        rw [List.getLast?_append, hlast]
        rfl
      rw [hnil, List.append_nil] at hlt
      exact Nat.lt_irrefl _ hlt
  · rw [List.length_append] at hlt
    omega

/-- There is only one next run. -/
theorem unique (h : NextTicks count s body rest)
    (h' : NextTicks count s body' rest') : body = body' ∧ rest = rest' := by
  have hlength : body.length = body'.length :=
    Nat.le_antisymm (Nat.le_of_not_lt (h'.not_shorter h)) (Nat.le_of_not_lt (h.not_shorter h'))
  have heq := h.source.symm.trans h'.source
  rw [List.append_assoc, List.append_assoc] at heq
  rcases List.append_inj heq hlength with ⟨hbody, hrest⟩
  exact ⟨hbody, List.append_cancel_left hrest⟩

theorem hasTicks (h : NextTicks count s body rest) : HasTicks count s :=
  ⟨body, rest, h.source, h.before, h.after⟩

end NextTicks

/-- The reader, with backticks pending, finds the next run, or there is none. -/
theorem codeBody?_pending_cases {count : Nat} (hcount : 0 < count) (pending : Nat) (s : Text) :
    (codeBody? count pending s = none ∧ ¬ HasTicks count (ticks pending ++ s)) ∨
      ∃ body rest, codeBody? count pending s = some (body, rest) ∧
        NextTicks count (ticks pending ++ s) body rest := by
  -- A run that is found at once has nothing in front of it.
  have hatOnce (rest : Text) (hrest : rest.head? ≠ some backtick) :
      NextTicks count (ticks count ++ rest) [] rest := by
    refine ⟨rfl, by simp, hrest, fun hnone => ?_⟩
    have hzero := (hasTicks_ticks hcount 0).mp hnone
    omega
  induction s generalizing pending with
  | nil =>
      rw [codeBody?, List.append_nil]
      by_cases hpending : pending = count
      · rw [if_pos hpending, hpending]
        refine .inr ⟨[], [], rfl, ?_⟩
        have hnext := hatOnce [] (by simp)
        rwa [List.append_nil] at hnext
      · rw [if_neg hpending, hasTicks_ticks hcount]
        exact .inl ⟨rfl, hpending⟩
  | cons c s ih =>
      rw [codeBody?]
      by_cases hc : c = backtick
      · have hticks : ticks pending ++ c :: s = ticks (pending + 1) ++ s := by
          rw [hc, ticks, ticks, List.replicate_succ', List.append_assoc]
          rfl
        rw [if_pos hc, hticks]
        exact ih (pending + 1)
      · rw [if_neg hc]
        by_cases hpending : pending = count
        · rw [if_pos hpending, hpending]
          exact .inr ⟨[], c :: s, rfl, hatOnce _ fun heq => hc (Option.some.inj heq)⟩
        · rw [if_neg hpending]
          rcases ih 0 with ⟨hnone, hno⟩ | ⟨body, rest, hsome, hnext⟩
          · rw [hnone, hasTicks_ticks_append hcount pending hc]
            exact .inl ⟨rfl, fun h => h.elim hpending hno⟩
          · rw [hsome]
            refine .inr ⟨ticks pending ++ c :: body, rest, rfl, ?_,
              getLast?_append_cons_ne hc hnext.before _, hnext.after, ?_⟩
            · rw [show s = _ from hnext.source]
              simp
            · rw [hasTicks_ticks_append hcount pending hc]
              exact fun h => h.elim hpending hnext.first

section Reading

variable {count : Nat} {s body rest : Text}

theorem codeBody?_cases (hcount : 0 < count) (s : Text) :
    (codeBody? count 0 s = none ∧ ¬ HasTicks count s) ∨
      ∃ body rest, codeBody? count 0 s = some (body, rest) ∧ NextTicks count s body rest :=
  codeBody?_pending_cases hcount 0 s

/-- The reader stops at the next run. -/
theorem codeBody?_eq_some_iff (hcount : 0 < count) :
    codeBody? count 0 s = some (body, rest) ↔ NextTicks count s body rest := by
  rcases codeBody?_cases hcount s with ⟨hnone, hno⟩ | ⟨found, left, hsome, hnext⟩
  · rw [hnone]
    exact ⟨fun h => absurd h (by simp), fun h => absurd h.hasTicks hno⟩
  · rw [hsome]
    constructor
    · intro heq
      rcases Prod.mk.inj (Option.some.inj heq) with ⟨rfl, rfl⟩
      exact hnext
    · intro h
      rcases hnext.unique h with ⟨rfl, rfl⟩
      rfl

/-- The reader finds nothing only if there is no such run. -/
theorem codeBody?_eq_none_iff (hcount : 0 < count) :
    codeBody? count 0 s = none ↔ ¬ HasTicks count s := by
  rcases codeBody?_cases hcount s with ⟨hnone, hno⟩ | ⟨body, rest, hsome, hnext⟩
  · exact ⟨fun _ => hno, fun _ => hnone⟩
  · rw [hsome]
    exact ⟨fun h => absurd h (by simp), fun h => absurd hnext.hasTicks h⟩

end Reading

/-- The backticks at the start of a text are a run, whatever follows them. -/
theorem spanTicks_ticks (count : Nat) {s : Text} (hs : s.head? ≠ some backtick) :
    spanTicks (ticks count ++ s) = (count, s) := by
  have hcount := Text.countWhile_replicate backtick count s hs
  rw [spanTicks, ticks, hcount.1, hcount.2]

theorem head?_spanTicks (s : Text) : (spanTicks s).2.head? ≠ some backtick := by
  intro hhead
  have hfalse := List.head?_dropWhile_not (· == backtick) s
  rw [show s.dropWhile (· == backtick) = (spanTicks s).2 from rfl, hhead] at hfalse
  simp at hfalse

/-- A text without backticks is code if runs of as many backticks stand on either
    side of it. -/
theorem tokens_ticks_code {count : Nat} (hcount : 1 ≤ count) {body s : Text} (hne : body ≠ [])
    (hbody : backtick ∉ body) (hs : s.head? ≠ some backtick) (escapes : Bool)
    (before after : Option Char) :
    tokens escapes before (ticks count ++ body ++ ticks count ++ s) after =
      .code count body :: tokens escapes (some backtick) s after := by
  obtain ⟨more, rfl⟩ : ∃ more, count = more + 1 := ⟨count - 1, by omega⟩
  have hhead : (body ++ (ticks (more + 1) ++ s)).head? ≠ some backtick := by
    rcases List.exists_cons_of_ne_nil hne with ⟨c, body, rfl⟩
    rintro heq
    exact hbody (by rw [← Option.some.inj heq]; exact List.mem_cons_self)
  have hnext : NextTicks (more + 1) (body ++ (ticks (more + 1) ++ s)) body s := by
    refine ⟨(List.append_assoc _ _ _).symm, fun hlast => ?_, hs, ?_⟩
    · exact hbody (List.mem_of_getLast? hlast)
    · rintro ⟨front, behind, heq, _, _⟩
      refine hbody (heq ▸ List.mem_append_left _ (List.mem_append_right _ ?_))
      exact List.mem_replicate.mpr ⟨Nat.succ_ne_zero more, rfl⟩
  have htoken : nextToken escapes before after backtick
      (ticks more ++ (body ++ (ticks (more + 1) ++ s))) = (.code (more + 1) body, s) := by
    unfold nextToken
    rw [if_neg (by decide), if_pos rfl, spanTicks_ticks more hhead]
    simp only [(codeBody?_eq_some_iff (Nat.succ_pos more)).mpr hnext]
  rw [show ticks (more + 1) ++ body ++ ticks (more + 1) ++ s =
      backtick :: (ticks more ++ (body ++ (ticks (more + 1) ++ s))) by
    simp only [List.append_assoc]
    rfl]
  rw [tokens, htoken]
  simp only [Token.source]
  congr 2
  rw [List.getLast?_append, List.getLast?_replicate, if_neg (Nat.succ_ne_zero more)]
  rfl

end ChatMarkup.Inline
