import ChatMarkup.Proofs.Backticks
import Mathlib.Data.List.TakeWhile

/-!
# The Grammar of Links

Which texts are links, said without a reader.

A label is read in units. A backslash takes its next character along, a run of
backticks goes up to the next run of its length, or stands alone if there is
none, and any other character is a unit of its own. Only what is a unit of its
own counts as a bracket, and the brackets of a label must balance. Whether a run
of backticks has a partner depends on all that follows, not on the label alone:
a partner behind the label would hide the bracket at its end. So a unit is said
to be one in front of the text that follows it.

A target is read in the same way, without code, and must not go past the end of
a line. Its address is the first word in it.

The readers of a label and of a target keep a depth, which is how many brackets
are open. `Balanced` says what that means of the units that are still to come,
and is what the induction is on.

## Main definitions

* `Reads`: Units, each of them one in front of what follows.
* `LabelUnit`, `TargetUnit`: The units of a label and of a target.
* `Balanced`: The units close as many brackets as are open.
* `Address`: The address within a target.
* `Link.Stands`: The link can stand in front of a text.

## Theorems

* `label?_eq_some_iff`, `target?_eq_some_iff`: The readers of the two parts.
* `address_iff`: The address that is read.
* `link?_eq_some_iff`: A link is read if and only if it stands there.
* `link?_accepts`: The law of links.
-/

namespace ChatMarkup.Inline

/-! ### Units -/

/-- The units follow each other and stand in front of the text `after`. Each is a
    unit in front of all that follows it. -/
inductive Reads (IsUnit : Text → Text → Prop) (after : Text) : List Text → Prop
  /-- There may be no units. -/
  | nil : Reads IsUnit after []
  /-- A unit in front of others. -/
  | cons (unit : Text) (units : List Text) : IsUnit unit (units.flatten ++ after) →
    Reads IsUnit after units → Reads IsUnit after (unit :: units)

/-- The first text is a unit of a label in front of the second. -/
inductive LabelUnit : Text → Text → Prop
  /-- A backslash with its next character. -/
  | escaped (c : Char) (after : Text) : LabelUnit ['\\', c] after
  /-- A run of backticks through the next run of its length. -/
  | code (count : Nat) (following body after : Text) : 0 < count →
    following.head? ≠ some backtick → NextTicks count following body after →
    LabelUnit (ticks count ++ body ++ ticks count) after
  /-- A run of backticks without such a partner. -/
  | ticks (count : Nat) (after : Text) : 0 < count → after.head? ≠ some backtick →
    ¬ HasTicks count after → LabelUnit (ticks count) after
  /-- Any other character. -/
  | char (c : Char) (after : Text) : c ≠ '\\' → c ≠ backtick → LabelUnit [c] after

/-- The first text is a unit of a target, whatever follows it. -/
inductive TargetUnit : Text → Text → Prop
  /-- A backslash with its next character. -/
  | escaped (c : Char) (after : Text) : TargetUnit ['\\', c] after
  /-- Any other character. -/
  | char (c : Char) (after : Text) : c ≠ '\\' → TargetUnit [c] after

/-- The units close the brackets that they open and `depth` brackets more, and
    at no place have they closed more than were open. Only a bracket that is a
    unit of its own counts. -/
structure Balanced (opening closing : Char) (depth : Nat) (units : List Text) : Prop where
  /-- Nothing is closed that is not open. -/
  within : ∀ front, front <+: units → front.count [closing] ≤ depth + front.count [opening]
  /-- Nothing is left open. -/
  total : units.count [closing] = depth + units.count [opening]

/-! ### Brackets -/

section Brackets

variable {opening closing : Char} {depth : Nat} {unit : Text} {units : List Text}

theorem balanced_nil : Balanced opening closing depth [] ↔ depth = 0 := by
  constructor
  · intro h
    have htotal := h.total
    simp only [List.count_nil] at htotal
    omega
  · rintro rfl
    refine ⟨fun front hfront => ?_, rfl⟩
    rw [List.prefix_nil.mp hfront]
    exact Nat.le_refl 0

/-- A unit changes the depth by what it opens and closes. -/
theorem balanced_cons {next : Nat}
    (h : depth + [unit].count [opening] = next + [unit].count [closing]) :
    Balanced opening closing depth (unit :: units) ↔ Balanced opening closing next units := by
  have hcount (c : Char) (us : List Text) :
      (unit :: us).count [c] = us.count [c] + [unit].count [c] := by
    rw [List.count_cons, List.count_singleton]
  constructor
  · intro hbalanced
    refine ⟨fun front hfront => ?_, ?_⟩
    · have hwithin := hbalanced.within (unit :: front) ((List.prefix_cons_inj unit).mpr hfront)
      rw [hcount closing front, hcount opening front] at hwithin
      omega
    · have htotal := hbalanced.total
      rw [hcount closing units, hcount opening units] at htotal
      omega
  · intro hbalanced
    refine ⟨fun front hfront => ?_, ?_⟩
    · rcases List.prefix_cons_iff.mp hfront with rfl | ⟨front, rfl, hrest⟩
      · rw [List.count_nil]
        exact Nat.zero_le _
      · have hwithin := hbalanced.within front hrest
        rw [hcount closing front, hcount opening front]
        omega
    · have htotal := hbalanced.total
      rw [hcount closing units, hcount opening units]
      omega

theorem balanced_opening (hne : opening ≠ closing) :
    Balanced opening closing depth ([opening] :: units) ↔
      Balanced opening closing (depth + 1) units :=
  balanced_cons (by simp [hne])

theorem balanced_closing (hne : opening ≠ closing) :
    Balanced opening closing (depth + 1) ([closing] :: units) ↔
      Balanced opening closing depth units :=
  balanced_cons (by simp [hne.symm])

theorem balanced_other (hopening : unit ≠ [opening]) (hclosing : unit ≠ [closing]) :
    Balanced opening closing depth (unit :: units) ↔ Balanced opening closing depth units :=
  balanced_cons (by simp [hopening, hclosing])

/-- Where nothing is open nothing can be closed. -/
theorem not_balanced_closing (hne : opening ≠ closing) :
    ¬ Balanced opening closing 0 ([closing] :: units) := by
  intro h
  have hwithin := h.within [[closing]] ⟨units, rfl⟩
  simp [hne.symm] at hwithin

end Brackets

/-! ### Labels -/

/-- What the reader takes for a unit is one, if anything follows. -/
theorem isUnit_of_labelUnit {c : Char} {rest unit after : Text} (hafter : after ≠ [])
    (h : labelUnit c rest = (unit, after)) : LabelUnit unit after := by
  unfold labelUnit at h
  split at h
  · next hc =>
      split at h
      · exact absurd (Prod.mk.inj h).2.symm hafter
      · rcases Prod.mk.inj h with ⟨rfl, rfl⟩
        rw [hc]
        exact .escaped _ _
  · split at h
    · next hc =>
        have hhead := head?_spanTicks rest
        generalize spanTicks rest = span at h hhead
        obtain ⟨more, following⟩ := span
        simp only at h hhead
        split at h
        · next body rest' hbody =>
            rcases Prod.mk.inj h with ⟨rfl, rfl⟩
            exact .code (more + 1) following body rest' (Nat.succ_pos _) hhead
              ((codeBody?_eq_some_iff (Nat.succ_pos _)).mp hbody)
        · next hbody =>
            rcases Prod.mk.inj h with ⟨rfl, rfl⟩
            exact .ticks (more + 1) following (Nat.succ_pos _) hhead
              ((codeBody?_eq_none_iff (Nat.succ_pos _)).mp hbody)
    · next hslash htick =>
        rcases Prod.mk.inj h with ⟨rfl, rfl⟩
        exact .char c rest hslash htick

/-- The reader takes a unit for what it is. -/
theorem labelUnit_of_isUnit {c : Char} {rest unit after : Text} (heq : c :: rest = unit ++ after)
    (hunit : LabelUnit unit after) : labelUnit c rest = (unit, after) := by
  cases hunit with
  | escaped d =>
      rcases List.cons.inj heq with ⟨rfl, rfl⟩
      rfl
  | code count following body after hcount hhead hnext =>
      obtain ⟨more, rfl⟩ := Nat.exists_eq_succ_of_ne_zero (Nat.pos_iff_ne_zero.mp hcount)
      have hrest : c = backtick ∧ rest = ticks more ++ following := by
        rw [hnext.source]
        simpa [ticks, List.replicate_succ] using heq
      rcases hrest with ⟨rfl, rfl⟩
      have hbody := (codeBody?_eq_some_iff hcount).mpr hnext
      rw [labelUnit.eq_def, if_neg (by decide), if_pos rfl, spanTicks_ticks more hhead]
      simp only [hbody]
  | ticks count after hcount hhead hnone =>
      obtain ⟨more, rfl⟩ := Nat.exists_eq_succ_of_ne_zero (Nat.pos_iff_ne_zero.mp hcount)
      have hrest : c = backtick ∧ rest = ticks more ++ after := by
        simpa [ticks, List.replicate_succ] using heq
      rcases hrest with ⟨rfl, rfl⟩
      have hbody := (codeBody?_eq_none_iff hcount).mpr hnone
      rw [labelUnit.eq_def, if_neg (by decide), if_pos rfl, spanTicks_ticks more hhead]
      simp only [hbody]
  | char d after hslash htick =>
      rcases List.cons.inj heq with ⟨rfl, rfl⟩
      rw [labelUnit.eq_def, if_neg hslash, if_neg htick]

/-- A unit of a label that begins with a bracket is that bracket. -/
theorem LabelUnit.eq_singleton {c : Char} {rest unit after : Text} (h : LabelUnit unit after)
    (heq : c :: rest = unit ++ after) (hslash : c ≠ '\\') (htick : c ≠ backtick) : unit = [c] := by
  cases h with
  | escaped d => exact absurd (List.cons.inj heq).1 hslash
  | code count following body after hcount =>
      have hfirst := congrArg List.head? heq
      rw [List.append_assoc, List.append_assoc, List.head?_append, head?_ticks hcount] at hfirst
      exact absurd (Option.some.inj hfirst) htick
  | ticks count after hcount =>
      have hfirst := congrArg List.head? heq
      rw [List.head?_append, head?_ticks hcount] at hfirst
      exact absurd (Option.some.inj hfirst) htick
  | char d => rw [(List.cons.inj heq).1]

theorem label?_opening (depth : Nat) (s : Text) :
    label? depth ('[' :: s) =
      (label? (depth + 1) s).map fun (label, rest) => ('[' :: label, rest) := by
  rw [label?.eq_def]
  rfl

theorem label?_closing (depth : Nat) (s : Text) :
    label? (depth + 1) (']' :: s) =
      (label? depth s).map fun (label, rest) => (']' :: label, rest) := by
  rw [label?.eq_def]
  rfl

theorem label?_other {c : Char} (hopen : c ≠ '[') (hclose : c ≠ ']') (depth : Nat) (s : Text) :
    label? depth (c :: s) = (label? depth (labelUnit c s).2).map fun (label, after) =>
      ((labelUnit c s).1 ++ label, after) := by
  rw [label?.eq_def]
  simp only
  rw [if_neg hopen, if_neg hclose]

/-- What is read as a label can be read in units whose brackets balance. -/
theorem exists_units_of_label? {depth : Nat} {s label rest : Text}
    (h : label? depth s = some (label, rest)) :
    ∃ units, units.flatten = label ∧ Reads LabelUnit (']' :: rest) units ∧
      Balanced '[' ']' depth units := by
  fun_induction label? depth s generalizing label rest with
  | case1 => exact absurd h (by simp)
  | case2 depth s ih =>
      rcases Option.map_eq_some_iff.mp h with ⟨⟨inner, left⟩, hinner, heq⟩
      rcases Prod.mk.inj heq with ⟨rfl, rfl⟩
      rcases ih hinner with ⟨units, rfl, hreads, hbalanced⟩
      exact ⟨['['] :: units, rfl, .cons _ _ (.char _ _ (by decide) (by decide)) hreads,
        (balanced_opening (by decide)).mpr hbalanced⟩
  | case3 s =>
      rcases Prod.mk.inj (Option.some.inj h) with ⟨rfl, rfl⟩
      exact ⟨[], rfl, .nil, balanced_nil.mpr rfl⟩
  | case4 s _ depth ih =>
      rcases Option.map_eq_some_iff.mp h with ⟨⟨inner, left⟩, hinner, heq⟩
      rcases Prod.mk.inj heq with ⟨rfl, rfl⟩
      rcases ih hinner with ⟨units, rfl, hreads, hbalanced⟩
      exact ⟨[']'] :: units, rfl, .cons _ _ (.char _ _ (by decide) (by decide)) hreads,
        (balanced_closing (by decide)).mpr hbalanced⟩
  | case5 depth c s hopen hclose ih =>
      rcases Option.map_eq_some_iff.mp h with ⟨⟨inner, left⟩, hinner, heq⟩
      rcases Prod.mk.inj heq with ⟨rfl, rfl⟩
      rcases ih hinner with ⟨units, rfl, hreads, hbalanced⟩
      have hleft := label?_source hinner
      have hsource := labelUnit_source c s
      have hread : labelUnit c s = ((labelUnit c s).1, (labelUnit c s).2) := rfl
      have hunit := isUnit_of_labelUnit (by rw [hleft]; simp) hread
      rw [hleft] at hunit
      -- The unit begins with a character that is no bracket.
      have hhead (d : Char) (hd : c ≠ d) : (labelUnit c s).1 ≠ [d] := by
        intro hone
        rw [hone] at hsource
        exact hd (List.cons.inj hsource).1.symm
      exact ⟨(labelUnit c s).1 :: units, rfl, .cons _ _ hunit hreads,
        (balanced_other (hhead '[' hopen) (hhead ']' hclose)).mpr hbalanced⟩

/-- Units whose brackets balance are read as a label. -/
theorem label?_of_units {depth : Nat} {rest : Text} {units : List Text}
    (hreads : Reads LabelUnit (']' :: rest) units) (hbalanced : Balanced '[' ']' depth units) :
    label? depth (units.flatten ++ ']' :: rest) = some (units.flatten, rest) := by
  induction hreads generalizing depth with
  | nil =>
      rw [balanced_nil.mp hbalanced, List.flatten_nil, List.nil_append, label?]
      rfl
  | cons unit units hunit hreads ih =>
      rw [List.flatten_cons, List.append_assoc]
      cases htext : unit ++ (units.flatten ++ ']' :: rest) with
      | nil => exact absurd htext (by simp)
      | cons c s =>
          have hread := labelUnit_of_isUnit htext.symm hunit
          have hbracket : ∀ d : Char, d ≠ '\\' ∧ d ≠ backtick → c = d → unit = [d] ∧
              s = units.flatten ++ ']' :: rest := by
            rintro d ⟨hslash, htick⟩ rfl
            obtain rfl := hunit.eq_singleton htext.symm hslash htick
            exact ⟨rfl, (List.cons.inj htext).2.symm⟩
          by_cases hopen : c = '['
          · rcases hbracket '[' (by decide) hopen with ⟨rfl, rfl⟩
            rw [hopen, label?_opening, ih ((balanced_opening (by decide)).mp hbalanced)]
            rfl
          · by_cases hclose : c = ']'
            · rcases hbracket ']' (by decide) hclose with ⟨rfl, rfl⟩
              cases depth with
              | zero => exact absurd hbalanced (not_balanced_closing (by decide))
              | succ depth =>
                  rw [hclose, label?_closing, ih ((balanced_closing (by decide)).mp hbalanced)]
                  rfl
            · have hhead (d : Char) (hd : c ≠ d) : unit ≠ [d] := by
                rintro rfl
                exact hd (List.cons.inj htext).1.symm
              rw [label?_other hopen hclose, hread,
                ih ((balanced_other (hhead '[' hopen) (hhead ']' hclose)).mp hbalanced)]
              rfl

/-- A label is read up to the bracket that closes it. -/
theorem label?_eq_some_iff {depth : Nat} {s label rest : Text} :
    label? depth s = some (label, rest) ↔
      s = label ++ ']' :: rest ∧ ∃ units, units.flatten = label ∧
        Reads LabelUnit (']' :: rest) units ∧ Balanced '[' ']' depth units := by
  constructor
  · exact fun h => ⟨label?_source h, exists_units_of_label? h⟩
  · rintro ⟨rfl, units, rfl, hreads, hbalanced⟩
    exact label?_of_units hreads hbalanced

/-! ### Targets -/

theorem target?_escaped (depth : Nat) (d : Char) (s : Text) :
    target? depth ('\\' :: d :: s) =
      (target? depth s).map fun (target, rest) => ('\\' :: d :: target, rest) := by
  rw [target?.eq_def]
  rfl

theorem target?_opening (depth : Nat) (s : Text) :
    target? depth ('(' :: s) =
      (target? (depth + 1) s).map fun (target, rest) => ('(' :: target, rest) := by
  rw [target?.eq_def]
  rfl

theorem target?_closing (depth : Nat) (s : Text) :
    target? (depth + 1) (')' :: s) =
      (target? depth s).map fun (target, rest) => (')' :: target, rest) := by
  rw [target?.eq_def]
  rfl

theorem target?_other {c : Char} (hfeed : c ≠ '\n') (hslash : c ≠ '\\') (hopen : c ≠ '(')
    (hclose : c ≠ ')') (depth : Nat) (s : Text) :
    target? depth (c :: s) = (target? depth s).map fun (target, rest) => (c :: target, rest) := by
  rw [target?.eq_def]
  simp only
  rw [if_neg hfeed, if_neg hslash, if_neg hopen, if_neg hclose]

/-- What is read as a target can be read in units whose parentheses balance, and no
    line ends among them. -/
theorem exists_units_of_target? {depth : Nat} {s target rest : Text}
    (h : target? depth s = some (target, rest)) :
    ∃ units, units.flatten = target ∧ Reads TargetUnit (')' :: rest) units ∧
      Balanced '(' ')' depth units ∧ ['\n'] ∉ units := by
  fun_induction target? depth s generalizing target rest with
  | case1 => exact absurd h (by simp)
  | case2 => exact absurd h (by simp)
  | case3 => exact absurd h (by simp)
  | case4 depth d s _ ih =>
      rcases Option.map_eq_some_iff.mp h with ⟨⟨inner, left⟩, hinner, heq⟩
      rcases Prod.mk.inj heq with ⟨rfl, rfl⟩
      rcases ih hinner with ⟨units, rfl, hreads, hbalanced, hfeed⟩
      exact ⟨['\\', d] :: units, rfl, .cons _ _ (.escaped _ _) hreads,
        (balanced_other (by simp) (by simp)).mpr hbalanced, by simpa using hfeed⟩
  | case5 depth s _ _ ih =>
      rcases Option.map_eq_some_iff.mp h with ⟨⟨inner, left⟩, hinner, heq⟩
      rcases Prod.mk.inj heq with ⟨rfl, rfl⟩
      rcases ih hinner with ⟨units, rfl, hreads, hbalanced, hfeed⟩
      exact ⟨['('] :: units, rfl, .cons _ _ (.char _ _ (by decide)) hreads,
        (balanced_opening (by decide)).mpr hbalanced, by simpa using hfeed⟩
  | case6 s =>
      rcases Prod.mk.inj (Option.some.inj h) with ⟨rfl, rfl⟩
      exact ⟨[], rfl, .nil, balanced_nil.mpr rfl, List.not_mem_nil⟩
  | case7 s _ _ _ depth ih =>
      rcases Option.map_eq_some_iff.mp h with ⟨⟨inner, left⟩, hinner, heq⟩
      rcases Prod.mk.inj heq with ⟨rfl, rfl⟩
      rcases ih hinner with ⟨units, rfl, hreads, hbalanced, hfeed⟩
      exact ⟨[')'] :: units, rfl, .cons _ _ (.char _ _ (by decide)) hreads,
        (balanced_closing (by decide)).mpr hbalanced, by simpa using hfeed⟩
  | case8 depth c s hfeed hslash hopen hclose ih =>
      rcases Option.map_eq_some_iff.mp h with ⟨⟨inner, left⟩, hinner, heq⟩
      rcases Prod.mk.inj heq with ⟨rfl, rfl⟩
      rcases ih hinner with ⟨units, rfl, hreads, hbalanced, hfeeds⟩
      exact ⟨[c] :: units, rfl, .cons _ _ (.char _ _ hslash) hreads,
        (balanced_other (by simpa using hopen) (by simpa using hclose)).mpr hbalanced,
        by simpa [Ne.symm hfeed] using hfeeds⟩

/-- Such units are read as a target. -/
theorem target?_of_units {depth : Nat} {rest : Text} {units : List Text}
    (hreads : Reads TargetUnit (')' :: rest) units) (hbalanced : Balanced '(' ')' depth units)
    (hfeed : ['\n'] ∉ units) :
    target? depth (units.flatten ++ ')' :: rest) = some (units.flatten, rest) := by
  induction hreads generalizing depth with
  | nil =>
      rw [balanced_nil.mp hbalanced, List.flatten_nil, List.nil_append, target?.eq_def]
      rfl
  | cons unit units hunit hreads ih =>
      rw [List.mem_cons, not_or] at hfeed
      rw [List.flatten_cons, List.append_assoc]
      cases hunit with
      | escaped d =>
          rw [List.cons_append, List.cons_append, List.nil_append, target?_escaped,
            ih ((balanced_other (by simp) (by simp)).mp hbalanced) hfeed.2]
          rfl
      | char c _ hslash =>
          have hc : c ≠ '\n' := fun heq => hfeed.1 (by rw [heq])
          rw [List.cons_append, List.nil_append]
          by_cases hopen : c = '('
          · subst hopen
            rw [target?_opening, ih ((balanced_opening (by decide)).mp hbalanced) hfeed.2]
            rfl
          · by_cases hclose : c = ')'
            · subst hclose
              cases depth with
              | zero => exact absurd hbalanced (not_balanced_closing (by decide))
              | succ depth =>
                  rw [target?_closing, ih ((balanced_closing (by decide)).mp hbalanced) hfeed.2]
                  rfl
            · rw [target?_other hc hslash hopen hclose, ih ((balanced_other
                (by simpa using hopen) (by simpa using hclose)).mp hbalanced) hfeed.2]
              rfl

/-- A target is read up to the parenthesis that closes it, if no line ends
    before. -/
theorem target?_eq_some_iff {depth : Nat} {s target rest : Text} :
    target? depth s = some (target, rest) ↔
      s = target ++ ')' :: rest ∧ ∃ units, units.flatten = target ∧
        Reads TargetUnit (')' :: rest) units ∧ Balanced '(' ')' depth units ∧ ['\n'] ∉ units := by
  constructor
  · exact fun h => ⟨target?_source h, exists_units_of_target? h⟩
  · rintro ⟨rfl, units, rfl, hreads, hbalanced, hfeed⟩
    exact target?_of_units hreads hbalanced hfeed

/-! ### Addresses -/

/-- The text has a first word, which is this one. -/
def IsFirstWord (s word : Text) : Prop :=
  ∃ lead tail, s = lead ++ word ++ tail ∧ (∀ c ∈ lead, Text.isBlank c = true) ∧ word ≠ [] ∧
    (∀ c ∈ word, Text.isBlank c = false) ∧ ∀ c, tail.head? = some c → Text.isBlank c = true

/-- The second text is the first without the angle brackets around it, if there
    is one at either end. -/
def Unwraps (word url : Text) : Prop :=
  word = '<' :: url ++ ['>'] ∨ (url = word ∧ ∀ inner, word ≠ '<' :: inner ++ ['>'])

/-- The target has this address: a first word, which is not empty without the
    angle brackets around it. -/
def Address (target url : Text) : Prop :=
  ∃ word, IsFirstWord target word ∧ Unwraps word url ∧ url ≠ []

theorem isFirstWord_iff {s word : Text} :
    IsFirstWord s word ↔ Text.firstWord s = word ∧ word ≠ [] := by
  constructor
  · rintro ⟨lead, tail, rfl, hlead, hne, hword, htail⟩
    refine ⟨?_, hne⟩
    have htake : tail.takeWhile (fun c => !Text.isBlank c) = [] := by
      cases tail with
      | nil => rfl
      | cons c tail => rw [List.takeWhile_cons, htail c rfl]; rfl
    have hdrop : (word ++ tail).dropWhile Text.isBlank = word ++ tail := by
      cases word with
      | nil => exact absurd rfl hne
      | cons c word => rw [List.cons_append, List.dropWhile_cons, hword c List.mem_cons_self]; rfl
    rw [Text.firstWord, Text.trimStart, List.append_assoc, List.dropWhile_append_of_pos hlead,
      hdrop, List.takeWhile_append_of_pos fun c hc => by rw [hword c hc]; rfl, htake,
      List.append_nil]
  · rintro ⟨rfl, hne⟩
    refine ⟨s.takeWhile Text.isBlank, (Text.trimStart s).dropWhile (fun c => !Text.isBlank c), ?_,
      fun c hc => List.mem_takeWhile_imp hc, hne, fun c hc => ?_, fun c hc => ?_⟩
    · rw [List.append_assoc, Text.firstWord, List.takeWhile_append_dropWhile, Text.trimStart,
        List.takeWhile_append_dropWhile]
    · have hnot := List.mem_takeWhile_imp hc
      rwa [Bool.not_eq_true'] at hnot
    · have hstop := List.head?_dropWhile_not (fun c => !Text.isBlank c) (Text.trimStart s)
      rw [hc] at hstop
      simpa using hstop

/-- An address without its brackets is the address that is read. -/
theorem unwraps_url (link : Link) : Unwraps (Text.firstWord link.target) link.url := by
  rw [Link.url]
  cases hword : Text.firstWord link.target with
  | nil => exact .inr ⟨rfl, fun inner h => absurd h (by simp)⟩
  | cons c word =>
      by_cases hc : c = '<'
      · subst hc
        simp only
        by_cases hlast : word.getLast? = some '>'
        · rcases List.getLast?_eq_some_iff.mp hlast with ⟨inner, rfl⟩
          rw [if_pos hlast, List.dropLast_concat]
          exact .inl rfl
        · rw [if_neg hlast]
          refine .inr ⟨rfl, fun inner h => hlast ?_⟩
          have hword' : word = inner ++ ['>'] := (List.cons.inj h).2
          rw [hword', List.getLast?_concat]
      · refine .inr ⟨?_, fun inner h => hc (List.cons.inj h).1⟩
        split
        · next heq => exact absurd (List.cons.inj heq).1 hc
        · rfl

theorem Unwraps.unique {word url other : Text} (h : Unwraps word url) (h' : Unwraps word other) :
    url = other := by
  rcases h with hurl | ⟨rfl, hbare⟩
  · rcases h' with hother | ⟨rfl, hbare⟩
    · exact List.append_cancel_right (List.cons.inj (hurl.symm.trans hother)).2
    · exact absurd hurl (hbare url)
  · rcases h' with hother | ⟨rfl, _⟩
    · exact absurd hother (hbare other)
    · rfl

/-- A target has the address that is read, if that is not empty, and no other. -/
theorem address_iff {link : Link} {url : Text} :
    Address link.target url ↔ link.url = url ∧ url ≠ [] := by
  constructor
  · rintro ⟨word, hword, hunwraps, hne⟩
    rcases isFirstWord_iff.mp hword with ⟨rfl, _⟩
    exact ⟨(unwraps_url link).unique hunwraps, hne⟩
  · rintro ⟨rfl, hne⟩
    refine ⟨_, isFirstWord_iff.mpr ⟨rfl, fun hnil => hne ?_⟩, unwraps_url link, hne⟩
    rw [Link.url, hnil]

/-! ### Links -/

/-- The link can stand in front of the text: its label and its target can be read
    in units whose brackets balance, and the target has an address and does not
    go past the end of a line. -/
structure Link.Stands (link : Link) (after : Text) : Prop where
  /-- The brackets of the label balance. -/
  label : ∃ units, units.flatten = link.label ∧
    Reads LabelUnit (']' :: '(' :: link.target ++ ')' :: after) units ∧ Balanced '[' ']' 0 units
  /-- The parentheses of the target balance, and no line ends in it. -/
  target : ∃ units, units.flatten = link.target ∧ Reads TargetUnit (')' :: after) units ∧
    Balanced '(' ')' 0 units ∧ ['\n'] ∉ units
  /-- The target has an address. -/
  address : ∃ url, Address link.target url

/-- A link is read if and only if it stands there. -/
theorem link?_eq_some_iff {s rest : Text} {link : Link} :
    link? s = some (link, rest) ↔ '[' :: s = link.source ++ rest ∧ link.Stands rest := by
  constructor
  · intro h
    refine ⟨link?_source h, ?_⟩
    rw [link?] at h
    split at h
    · next label after hlabel =>
        split at h
        · next target rest' htarget =>
            simp only at h
            split at h
            · exact absurd h (by simp)
            · next hurl =>
                rcases Prod.mk.inj (Option.some.inj h) with ⟨rfl, rfl⟩
                rcases target?_eq_some_iff.mp htarget with ⟨rfl, hunits⟩
                refine ⟨(label?_eq_some_iff.mp hlabel).2, hunits, _, address_iff.mpr ⟨rfl, ?_⟩⟩
                exact fun hnil => hurl (List.isEmpty_iff.mpr hnil)
        · exact absurd h (by simp)
    · exact absurd h (by simp)
  · rintro ⟨hsource, hstands⟩
    have hs : s = link.label ++ ']' :: '(' :: link.target ++ ')' :: rest := by
      simpa [Link.source] using hsource
    have hlabel : label? 0 s = some (link.label, '(' :: link.target ++ ')' :: rest) :=
      label?_eq_some_iff.mpr ⟨by rw [hs]; simp, hstands.label⟩
    have htarget : target? 0 (link.target ++ ')' :: rest) = some (link.target, rest) :=
      target?_eq_some_iff.mpr ⟨rfl, hstands.target⟩
    rcases hstands.address with ⟨url, haddress⟩
    rcases address_iff.mp haddress with ⟨hurl, hne⟩
    have hnotEmpty : ¬ link.url.isEmpty = true := by
      rw [hurl, List.isEmpty_iff]
      exact hne
    rw [link?, hlabel]
    simp only [List.cons_append, htarget]
    rw [if_neg hnotEmpty]

/-- The law of links. Let a bracket stand in a text, with a part of the text
    behind it that is to be read. A link is read from there if and only if what
    is to be read begins with a link that can stand there. It is the only such
    link. Its address is that of its target, and its label, its end and what is
    left lie where they were written, within the part that was read. -/
theorem link?_accepts (front s behind : Text) :
    let text := front ++ '[' :: s ++ behind
    let start := front.length
    let stop := start + 1 + s.length
    let between (first last : Nat) : Text := (text.take last).drop first
    (∀ (link : Link) (rest : Text), link? s = some (link, rest) ↔
        between start stop = link.source ++ rest ∧ link.Stands rest) ∧
      (∀ (link link' : Link) (rest rest' : Text),
        between start stop = link.source ++ rest → link.Stands rest →
          between start stop = link'.source ++ rest' → link'.Stands rest' →
            link = link' ∧ rest = rest') ∧
      ∀ (link : Link) (rest : Text), link? s = some (link, rest) →
        let finish := start + link.source.length
        Address link.target link.url ∧ finish ≤ stop ∧
          between (start + 1) (start + 1 + link.label.length) = link.label ∧
          between start finish = link.source ∧ between finish stop = rest := by
  intro text start stop between
  have htext : text = front ++ ('[' :: s ++ behind) := List.append_assoc _ _ _
  -- Places in the text are counted from the bracket.
  have hbetween (first last : Nat) :
      between (start + first) (start + last) = (('[' :: s ++ behind).take last).drop first := by
    simp only [between, htext, start, List.take_length_add_append, List.drop_length_add_append]
  have hread : between start stop = '[' :: s := by
    have hall := hbetween 0 (1 + s.length)
    rwa [List.take_left' (by rw [List.length_cons, Nat.add_comm]), List.drop_zero,
      ← Nat.add_assoc] at hall
  refine ⟨fun link rest => ?_, fun link link' rest rest' h hstands h' hstands' => ?_,
    fun link rest h => ?_⟩
  · rw [hread]
    exact link?_eq_some_iff
  · rw [hread] at h h'
    have hsome := link?_eq_some_iff.mpr ⟨h, hstands⟩
    have hother := link?_eq_some_iff.mpr ⟨h', hstands'⟩
    exact Prod.mk.inj (Option.some.inj (hsome.symm.trans hother))
  · rcases link?_eq_some_iff.mp h with ⟨hsource, hstands⟩
    rcases hstands.address with ⟨url, haddress⟩
    rcases address_iff.mp haddress with ⟨hurl, hne⟩
    have hlength := congrArg List.length hsource
    rw [List.length_append, List.length_cons] at hlength
    refine ⟨address_iff.mpr ⟨rfl, by rwa [hurl]⟩, by simp only [stop]; omega, ?_, ?_, ?_⟩
    · rw [Nat.add_assoc, hbetween, hsource, Link.source]
      simp [Nat.add_comm 1]
    · have hall := hbetween 0 link.source.length
      rw [Nat.add_zero, List.drop_zero, hsource, List.append_assoc, List.take_left] at hall
      exact hall
    · have hall := hbetween link.source.length (1 + s.length)
      rw [List.take_left' (by rw [List.length_cons, Nat.add_comm]), ← Nat.add_assoc, hsource,
        List.drop_left] at hall
      exact hall

-- The run of backticks in the label has a partner behind the target, and the
-- bracket between them closes nothing.
example : link? "a\x60](b)\x60".toList = none := by cbv

end ChatMarkup.Inline
