import ChatMarkup.Proofs.Characters
import ChatMarkup.Proofs.LineEnds

/-!
# The Character That Leads a Line

What a line cannot open because of the character that it begins with.

Every recogniser of blocks skips the indentation of a line and then asks for a
character of its own: a number sign, an angle bracket, a bar, a backtick or a
tilde, a bullet or a digit. A line that leads with another character is none of
its lines, whatever else stands in it. So of the seven recognisers all but one
or two are settled by the first character that is not white space, which leaves
little to be said of the order in which they are tried.

## Main definitions

* `blockMarks`: The marks that blocks begin with.
* `Leads`: The line begins with the character, behind white space at most.

## Theorems

* `Leads.fence`, `Leads.isRow`, `Leads.isRule`, `Leads.heading`, `Leads.item`,
  `Leads.quote`: What the line is not.
* `Leads.ofLine`, `Leads.paragraph`: What is left for a line to open.
* `Leads.of_fence`: What a line that opens a fence leads with.
-/

namespace ChatMarkup

namespace Text

theorem dropEndWhile_cons {p : Char → Bool} {c : Char} (hc : p c = false) (s : Text) :
    ∃ rest, dropEndWhile p (c :: s) = c :: rest := by
  rw [dropEndWhile, List.reverse_cons, List.dropWhile_append]
  split
  · exact ⟨[], by rw [List.dropWhile_cons, hc]; rfl⟩
  · exact ⟨_, List.reverse_concat⟩

theorem dropLastIf_append_cons {c d : Char} (hne : d ≠ c) (front s : Text) :
    ∃ rest, dropLastIf c (front ++ d :: s) = front ++ d :: rest := by
  rcases List.eq_nil_or_concat s with rfl | ⟨more, e, rfl⟩
  · rw [dropLastIf_concat, if_neg hne]
    exact ⟨[], rfl⟩
  · rw [List.concat_eq_append, ← List.cons_append, ← List.append_assoc, dropLastIf_concat]
    split
    · exact ⟨more, rfl⟩
    · exact ⟨more ++ [e], by rw [List.append_assoc]; rfl⟩

end Text

/-- A text that does not begin with an angle bracket has no quote marks. -/
theorem dropQuoteMarks_of_head? {s : Text} (h : s.head? ≠ some '>') :
    dropQuoteMarks s = (0, s) := by
  unfold dropQuoteMarks
  split
  · exact absurd rfl h
  · exact absurd rfl h
  · rfl

theorem itemMarker?_of_ne {c : Char} (hbullet : (c == '-' || c == '*' || c == '+') = false)
    (hdigit : Text.isDigit c = false) (rest : Text) : itemMarker? (c :: rest) = none := by
  rw [itemMarker?, hbullet]
  simp [hdigit]

/-- White space is no marker. -/
theorem itemMarker?_of_isBlank {c : Char} (h : Text.isBlank c = true) (rest : Text) :
    itemMarker? (c :: rest) = none := by
  refine itemMarker?_of_ne ?_ (Text.not_isDigit_of_isBlank h) rest
  rw [beq_eq_false_iff_ne.mpr (Text.ne_of_passes h (by decide)),
    beq_eq_false_iff_ne.mpr (Text.ne_of_passes h (by decide)),
    beq_eq_false_iff_ne.mpr (Text.ne_of_passes h (by decide))]
  rfl

/-- Dropping from a line either takes the white space in front of a character that
    it does not take, or stops within the white space. -/
theorem dropWhile_indent {p : Char → Bool} {indent : Text}
    (hindent : ∀ d ∈ indent, Text.isBlank d = true) {c : Char} (hc : p c = false) (rest : Text) :
    (indent ++ c :: rest).dropWhile p = c :: rest ∨
      ∃ d more, (indent ++ c :: rest).dropWhile p = d :: more ∧ Text.isBlank d = true := by
  induction indent with
  | nil => exact .inl (by rw [List.nil_append, List.dropWhile_cons, hc]; rfl)
  | cons d indent ih =>
      rw [List.cons_append, List.dropWhile_cons]
      split
      · exact ih fun e he => hindent e (List.mem_cons_of_mem d he)
      · exact .inr ⟨d, _, rfl, hindent d List.mem_cons_self⟩

/-- A line is no list item if there is no marker behind its indentation. -/
theorem item?_of_itemMarker? {line indent : Text} {c : Char} {rest : Text}
    (hstrip : Text.stripEnd line = indent ++ c :: rest)
    (hindent : ∀ d ∈ indent, Text.isBlank d = true) (hc : Text.isBlank c = false)
    (hmarker : itemMarker? (c :: rest) = none) : item? line = none := by
  have hnone : itemMarker? ((Text.stripEnd line).dropWhile Text.isSpaceOrTab) = none := by
    rw [hstrip]
    rcases dropWhile_indent hindent (Text.not_isSpaceOrTab_of_not_isBlank hc) rest with
      hdrop | ⟨d, more, hdrop, hd⟩
    · rw [hdrop, hmarker]
    · rw [hdrop, itemMarker?_of_isBlank hd]
  rw [item?]
  simp only [hnone]

/-- The characters other than digits that a block can begin with. -/
def blockMarks : List Char :=
  ['\x60', '~', '|', '#', '>', '-', '*', '_', '+']

/-- The line begins with the character, which is not white space, behind white
    space at most. -/
structure Leads (c : Char) (line : Text) : Prop where
  notBlank : Text.isBlank c = false
  begins : ∃ indent rest, (∀ d ∈ indent, Text.isBlank d = true) ∧ line = indent ++ c :: rest

namespace Leads

variable {c : Char} {line : Text}

theorem of_cons {rest : Text} (h : Text.isBlank c = false) : Leads c (c :: rest) :=
  ⟨h, [], rest, fun _ hd => absurd hd List.not_mem_nil, rfl⟩

theorem append (h : Leads c line) (more : Text) : Leads c (line ++ more) := by
  rcases h.begins with ⟨indent, rest, hindent, rfl⟩
  exact ⟨h.notBlank, indent, rest ++ more, hindent, by rw [List.append_assoc, List.cons_append]⟩

theorem of_trimStart {rest : Text} (h : Text.trimStart line = c :: rest) : Leads c line := by
  have hc : Text.isBlank c = false := by
    have hhead := List.head?_dropWhile_not Text.isBlank line
    rw [← Text.trimStart, h] at hhead
    exact hhead
  refine ⟨hc, line.takeWhile Text.isBlank, rest, ?_, ?_⟩
  · exact fun d hd => List.all_eq_true.mp List.all_takeWhile d hd
  · rw [← h, Text.trimStart, List.takeWhile_append_dropWhile]

theorem of_trim {rest : Text} (h : Text.trim line = c :: rest) : Leads c line := by
  cases hstart : Text.trimStart line with
  | nil =>
      rw [Text.trim, hstart] at h
      exact absurd h (by simp [Text.trimEnd, Text.dropEndWhile])
  | cons d others =>
      have hleads := of_trimStart hstart
      rcases Text.dropEndWhile_cons hleads.notBlank others with ⟨kept, hkept⟩
      rw [Text.trim, hstart, Text.trimEnd, hkept] at h
      rw [← (List.cons.inj h).1]
      exact hleads

/-- A line that is no blank line begins with some character. -/
theorem exists_of_not_allBlank (h : Text.allBlank line = false) : ∃ c, Leads c line := by
  cases hstart : Text.trimStart line with
  | nil =>
      rw [Text.trimStart, List.dropWhile_eq_nil_iff] at hstart
      exact absurd ((List.all_eq_true.mpr hstart).symm.trans h) Bool.noConfusion
  | cons c rest => exact ⟨c, of_trimStart hstart⟩

/-- Dropping stops at the character at the latest, and before that only at white
    space. -/
theorem dropWhile (h : Leads c line) {p : Char → Bool} (hc : p c = false) :
    ∃ d rest, line.dropWhile p = d :: rest ∧ (d = c ∨ Text.isBlank d = true) := by
  rcases h.begins with ⟨indent, rest, hindent, rfl⟩
  rcases dropWhile_indent hindent hc rest with hdrop | ⟨d, more, hdrop, hd⟩
  · exact ⟨c, rest, hdrop, .inl rfl⟩
  · exact ⟨d, more, hdrop, .inr hd⟩

theorem stripEnd (h : Leads c line) : Leads c (Text.stripEnd line) := by
  rcases h.begins with ⟨indent, rest, hindent, rfl⟩
  have hfeed : c ≠ '\n' := (Text.ne_of_passes (by decide) h.notBlank).symm
  have hreturn : c ≠ '\r' := (Text.ne_of_passes (by decide) h.notBlank).symm
  rcases Text.dropLastIf_append_cons hfeed indent rest with ⟨rest', hrest'⟩
  rcases Text.dropLastIf_append_cons hreturn indent rest' with ⟨rest'', h''⟩
  exact ⟨h.notBlank, indent, rest'', hindent, by rw [Text.stripEnd, hrest', h'']⟩

theorem allBlank (h : Leads c line) : Text.allBlank line = false := by
  rcases h.begins with ⟨indent, rest, _, rfl⟩
  rw [Text.allBlank, List.all_append, List.all_cons, h.notBlank, Bool.false_and, Bool.and_false]

theorem trim (h : Leads c line) : ∃ rest, Text.trim line = c :: rest := by
  rcases h.begins with ⟨indent, rest, hindent, rfl⟩
  have htrim : Text.trimStart (indent ++ c :: rest) = c :: rest := by
    rw [Text.trimStart, List.dropWhile_append_of_pos hindent, List.dropWhile_cons, h.notBlank]
    rfl
  rw [Text.trim, htrim]
  exact Text.dropEndWhile_cons h.notBlank rest

theorem filter (h : Leads c line) :
    ∃ rest, line.filter (fun d => !Text.isBlank d) = c :: rest := by
  rcases h.begins with ⟨indent, rest, hindent, rfl⟩
  have hspaces : indent.filter (fun d => !Text.isBlank d) = [] := by
    refine List.filter_eq_nil_iff.mpr fun d hd => ?_
    rw [hindent d hd]
    decide
  have hc : (!Text.isBlank c) = true := congrArg not h.notBlank
  exact ⟨_, by rw [List.filter_append, hspaces, List.nil_append, List.filter_cons, if_pos hc]⟩

/-! ### What the line is not -/

theorem fence (h : Leads c line) (hc : Fence.isFenceChar c = false) :
    Fence.ofLine? line = none := by
  rcases h.trim with ⟨rest, hrest⟩
  rw [Fence.ofLine?, hrest]
  simp only [hc, Bool.false_and, if_false, Bool.false_eq_true]

theorem isRow (h : Leads c line) (hc : c ≠ '|') : Table.isRow line = false := by
  rcases h.trim with ⟨rest, hrest⟩
  have hhead : ((c :: rest).head? == some '|') = false :=
    beq_eq_false_iff_ne.mpr fun heq => hc (Option.some.inj heq)
  rw [Table.isRow, hrest]
  simp only [hhead, Bool.and_false, Bool.false_and]

theorem isRule (h : Leads c line) (hc : (c == '-' || c == '*' || c == '_') = false) :
    ChatMarkup.isRule line = false := by
  rcases h.filter with ⟨rest, hrest⟩
  rw [ChatMarkup.isRule, hrest]
  simp only [hc, Bool.false_and]

theorem heading (h : Leads c line) (hc : c ≠ '#') : heading? line = none := by
  by_cases hspace : c = ' '
  · exact absurd (hspace ▸ h.notBlank) (by decide)
  rcases h.stripEnd.dropWhile (p := fun d => d == ' ') (beq_eq_false_iff_ne.mpr hspace) with
    ⟨d, rest, hrest, hd⟩
  have hsign : d ≠ '#' := by
    rcases hd with rfl | hd
    · exact hc
    · exact Text.ne_of_passes hd (by decide)
  have hlevel : Text.countWhile (· == '#') (d :: rest) = 0 := by
    rw [Text.countWhile, beq_eq_false_iff_ne.mpr hsign]
    rfl
  rw [heading?]
  simp only [hrest, hlevel]
  rw [if_neg]
  simp

theorem item (h : Leads c line) (hc : (c == '-' || c == '*' || c == '+') = false)
    (hdigit : Text.isDigit c = false) : item? line = none := by
  rcases h.stripEnd.begins with ⟨indent, rest, hindent, hstrip⟩
  exact item?_of_itemMarker? hstrip hindent h.notBlank (itemMarker?_of_ne hc hdigit rest)

theorem quote (h : Leads c line) (hc : c ≠ '>') : quote? line = none := by
  by_cases hspace : c = ' '
  · exact absurd (hspace ▸ h.notBlank) (by decide)
  rcases h.stripEnd.dropWhile (p := fun d => d == ' ') (beq_eq_false_iff_ne.mpr hspace) with
    ⟨d, rest, hrest, hd⟩
  have hangle : d ≠ '>' := by
    rcases hd with rfl | hd
    · exact hc
    · exact Text.ne_of_passes hd (by decide)
  have hmarks := dropQuoteMarks_of_head? (s := d :: rest) fun heq => hangle (Option.some.inj heq)
  rw [quote?]
  simp only [hrest, hmarks]
  split <;> rfl

/-- A line that opens a fence leads with a character of the fence. -/
theorem of_fence {f : Fence} (h : Fence.ofLine? line = some f) :
    ∃ c, Leads c line ∧ Fence.isFenceChar c = true := by
  cases htrim : Text.trim line with
  | nil =>
      rw [Fence.ofLine?, htrim] at h
      exact absurd h (by simp)
  | cons c rest =>
      refine ⟨c, of_trim htrim, ?_⟩
      rw [← Bool.not_eq_false]
      intro hc
      rw [(of_trim htrim).fence hc] at h
      exact absurd h (by simp)

/-- Of a line that leads with neither a fence nor a bar, it remains to ask
    whether it is a rule, a heading, a list item or quoted. -/
theorem ofLine (h : Leads c line) (hfence : Fence.isFenceChar c = false) (hrow : c ≠ '|')
    (next : Option Text) :
    Opening.ofLine line next =
      if ChatMarkup.isRule line then .rule
      else match heading? line with
      | some (level, content) => .heading level content
      | none =>
        match item? line with
        | some i => .item i
        | none =>
          match quote? line with
          | some (depth, content) => .quote depth content
          | none => .paragraph := by
  -- Blank lines, fences and tables are asked for first.
  have hbegins : Table.begins line next = false := by
    cases next with
    | none => rfl
    | some row => rw [Table.begins, h.isRow hrow, Bool.false_and, Bool.false_and]
  unfold Opening.ofLine
  rw [h.allBlank, h.fence hfence, hbegins]
  rfl

/-- A line that leads with none of the marks begins a paragraph, unless it leads
    with a digit and is a list item. -/
theorem paragraph (h : Leads c line) (hc : c ∉ blockMarks)
    (hnumber : Text.isDigit c = true → item? line = none) (next : Option Text) :
    Opening.ofLine line next = .paragraph := by
  have hne {d : Char} (hd : d ∈ blockMarks) : c ≠ d := fun heq => hc (heq ▸ hd)
  have hbeq {d : Char} (hd : d ∈ blockMarks) : (c == d) = false :=
    beq_eq_false_iff_ne.mpr (hne hd)
  have hfence : Fence.isFenceChar c = false := by
    rw [Fence.isFenceChar, hbeq (by decide), hbeq (by decide)]
    rfl
  have hrule : (c == '-' || c == '*' || c == '_') = false := by
    rw [hbeq (by decide), hbeq (by decide), hbeq (by decide)]
    rfl
  have hbullet : (c == '-' || c == '*' || c == '+') = false := by
    rw [hbeq (by decide), hbeq (by decide), hbeq (by decide)]
    rfl
  have hitem : item? line = none := by
    cases hdigit : Text.isDigit c with
    | false => exact h.item hbullet hdigit
    | true => exact hnumber hdigit
  rw [h.ofLine hfence (hne (by decide)), h.isRule hrule, h.heading (hne (by decide)), hitem,
    h.quote (hne (by decide))]
  rfl

end Leads

end ChatMarkup
