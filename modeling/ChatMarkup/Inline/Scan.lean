import ChatMarkup.Inline.Token
import ChatMarkup.Text.Alphanumeric

/-!
# Reading Tokens

How inline text falls into tokens.

The reader takes one token off the front of the text at a time. Which token it
is depends on the characters that follow, on whether backslashes escape, and
for a run of markers on the character before it too. That character may lie
outside the text that is being read: the label of a link has its brackets
around it, and a run at either end of the label must see them. So the
characters next to the text are parameters, and the text itself is the only
thing that shrinks.

Every reader for a part of a token returns what it read and what is left, and
a lemma beside it says that the two together are what it was given. That the
rest is shorter follows, and with it that the reading ends.

## Main definitions

* `codeBody?`: Text up to the next run of a given number of backticks.
* `label?`: The label of a link up to its closing bracket.
* `target?`: The target of a link up to its closing parenthesis.
* `link?`: A link whose opening bracket has been read.
* `nextToken`: The first token of a text that is not empty.
* `tokens`: All tokens of a text.

## Theorems

* `link?_source`: A link and the text after it are the text it was read from.
* `nextToken_source`: The same for a token.
* `flatMap_source_tokens`: The sources of the tokens are the text.
* `forall_mem_tokens`: What holds of every token read holds of all tokens.
-/

namespace ChatMarkup.Inline

/-- The ASCII characters that a backslash can escape. -/
def punctuationRanges : Ranges :=
  [(0x21, 0x2F), (0x3A, 0x40), (0x5B, 0x60), (0x7B, 0x7E)]

/-- Whether a backslash before the character escapes it. -/
def isPunctuation (c : Char) : Bool :=
  punctuationRanges.covers c

/-! ### Code -/

/-- A run of `count` backticks. -/
def ticks (count : Nat) : Text :=
  List.replicate count backtick

/-- The text up to the next maximal run of exactly `count` backticks, and the
    text after that run. Before the text stand `pending` backticks whose run
    may go on in it; they belong to the body unless they are the run that is
    looked for. -/
def codeBody? (count : Nat) (pending : Nat) : Text → Option (Text × Text)
  | [] => if pending = count then some ([], []) else none
  | c :: rest =>
    if c = backtick then codeBody? count (pending + 1) rest
    else if pending = count then some ([], c :: rest)
    else match codeBody? count 0 rest with
      | some (body, rest) => some (ticks pending ++ c :: body, rest)
      | none => none

theorem codeBody?_source {count pending : Nat} {s body rest : Text}
    (h : codeBody? count pending s = some (body, rest)) :
    ticks pending ++ s = body ++ ticks count ++ rest := by
  induction s generalizing pending body rest with
  | nil =>
      rw [codeBody?] at h
      split at h
      · next heq => simp_all
      · exact absurd h (by simp)
  | cons c s ih =>
      rw [codeBody?] at h
      split at h
      · next hc =>
          rw [← ih h, hc, ticks, ticks, List.replicate_succ']
          simp
      · split at h
        · next heq => simp_all
        · split at h
          · next hrest =>
              simp only [Option.some.injEq, Prod.mk.injEq] at h
              have hih := ih hrest
              simp only [ticks, List.replicate_zero, List.nil_append] at hih
              rw [← h.1, ← h.2, hih]
              simp [ticks]
          · exact absurd h (by simp)

/-- The backticks at the start of a text and what follows them. -/
def spanTicks (s : Text) : Nat × Text :=
  (Text.countWhile (· == backtick) s, s.dropWhile (· == backtick))

theorem spanTicks_source (s : Text) : ticks (spanTicks s).1 ++ (spanTicks s).2 = s := by
  induction s with
  | nil => rfl
  | cons c s ih =>
      simp only [spanTicks, ticks] at ih ⊢
      rw [Text.countWhile, List.dropWhile_cons]
      split
      · next hc => rw [List.replicate_succ, List.cons_append, ih, beq_iff_eq.mp hc]
      · rfl

/-! ### Links -/

/-- The unit at the start of a label, as it is written, and the text after it.
    An escaped character, a code span and a run of backticks without a partner
    are units; they hide the brackets in them. Any other character is a unit
    of its own. -/
def labelUnit (c : Char) (rest : Text) : Text × Text :=
  if c = '\\' then
    match rest with
    | [] => ([c], [])
    | d :: rest => ([c, d], rest)
  else if c = backtick then
    let (more, after) := spanTicks rest
    match codeBody? (more + 1) 0 after with
    | some (body, rest) => (ticks (more + 1) ++ body ++ ticks (more + 1), rest)
    | none => (ticks (more + 1), after)
  else ([c], rest)

theorem labelUnit_source (c : Char) (rest : Text) :
    (labelUnit c rest).1 ++ (labelUnit c rest).2 = c :: rest := by
  unfold labelUnit
  split
  · split <;> rfl
  · split
    · next hc =>
        have hspan := spanTicks_source rest
        generalize spanTicks rest = s at hspan ⊢
        obtain ⟨more, after⟩ := s
        simp only at hspan ⊢
        split
        · next hbody =>
            have hb := codeBody?_source hbody
            simp only [ticks, List.replicate_zero, List.nil_append] at hb hspan ⊢
            rw [← hspan, hb, hc, List.replicate_succ]
            simp
        · rw [← hspan, hc]
          simp [ticks, List.replicate_succ]
    · rfl

theorem labelUnit_ne_nil (c : Char) (rest : Text) : (labelUnit c rest).1 ≠ [] := by
  unfold labelUnit
  split
  · split <;> simp
  · split
    · simp only
      split <;> simp [ticks, List.replicate_succ]
    · simp

theorem length_labelUnit_lt (c : Char) (rest : Text) :
    (labelUnit c rest).2.length < (c :: rest).length := by
  have h := congrArg List.length (labelUnit_source c rest)
  rw [List.length_append] at h
  have hpos := List.length_pos_iff.mpr (labelUnit_ne_nil c rest)
  omega

/-- The label of a link and the text after its closing bracket. The opening
    bracket has been read, and `depth` brackets have been opened within the
    label and not closed yet. -/
def label? (depth : Nat) : Text → Option (Text × Text)
  | [] => none
  | c :: rest =>
    if c = '[' then (label? (depth + 1) rest).map fun (label, rest) => (c :: label, rest)
    else if c = ']' then
      match depth with
      | 0 => some ([], rest)
      | depth + 1 => (label? depth rest).map fun (label, rest) => (c :: label, rest)
    else
      (label? depth (labelUnit c rest).2).map fun (label, after) =>
        ((labelUnit c rest).1 ++ label, after)
termination_by s => s.length
decreasing_by
  · simp
  · simp
  · exact length_labelUnit_lt c rest

/-- The target of a link and the text after its closing parenthesis. The
    opening parenthesis has been read, and `depth` parentheses have been
    opened within the target and not closed yet. A target does not go past
    the end of a line unless a backslash stands before it. -/
def target? (depth : Nat) : Text → Option (Text × Text)
  | [] => none
  | c :: rest =>
    if c = '\n' then none
    else if c = '\\' then
      match rest with
      | [] => none
      | d :: rest => (target? depth rest).map fun (target, rest) => (c :: d :: target, rest)
    else if c = '(' then (target? (depth + 1) rest).map fun (target, rest) => (c :: target, rest)
    else if c = ')' then
      match depth with
      | 0 => some ([], rest)
      | depth + 1 => (target? depth rest).map fun (target, rest) => (c :: target, rest)
    else (target? depth rest).map fun (target, rest) => (c :: target, rest)

/-- A link and the text after it. The opening bracket has been read. A target
    without an address makes no link. -/
def link? (s : Text) : Option (Link × Text) :=
  match label? 0 s with
  | some (label, '(' :: rest) =>
    match target? 0 rest with
    | some (target, rest) =>
      let link : Link := ⟨label, target⟩
      if link.url.isEmpty then none else some (link, rest)
    | none => none
  | _ => none

theorem label?_source {depth : Nat} {s label rest : Text}
    (h : label? depth s = some (label, rest)) : s = label ++ ']' :: rest := by
  fun_induction label? depth s generalizing label rest with
  | case1 => exact absurd h (by simp)
  | case2 depth s ih =>
      obtain ⟨⟨l, r⟩, hl, heq⟩ := Option.map_eq_some_iff.mp h
      simp only [Prod.mk.injEq] at heq
      rw [ih hl, ← heq.1, ← heq.2]
      rfl
  | case3 s =>
      simp only [Option.some.injEq, Prod.mk.injEq] at h
      rw [← h.1, ← h.2]
      rfl
  | case4 s _ depth ih =>
      obtain ⟨⟨l, r⟩, hl, heq⟩ := Option.map_eq_some_iff.mp h
      simp only [Prod.mk.injEq] at heq
      rw [ih hl, ← heq.1, ← heq.2]
      rfl
  | case5 depth c s _ _ ih =>
      obtain ⟨⟨l, r⟩, hl, heq⟩ := Option.map_eq_some_iff.mp h
      simp only [Prod.mk.injEq] at heq
      rw [← labelUnit_source c s, ih hl, ← heq.1, ← heq.2, List.append_assoc]

theorem target?_source {depth : Nat} {s target rest : Text}
    (h : target? depth s = some (target, rest)) : s = target ++ ')' :: rest := by
  fun_induction target? depth s generalizing target rest with
  | case1 => exact absurd h (by simp)
  | case2 => exact absurd h (by simp)
  | case3 => exact absurd h (by simp)
  | case4 depth _ d s ih =>
      obtain ⟨⟨t, r⟩, ht, heq⟩ := Option.map_eq_some_iff.mp h
      simp only [Prod.mk.injEq] at heq
      rw [ih ht, ← heq.1, ← heq.2]
      rfl
  | case5 depth s _ _ ih =>
      obtain ⟨⟨t, r⟩, ht, heq⟩ := Option.map_eq_some_iff.mp h
      simp only [Prod.mk.injEq] at heq
      rw [ih ht, ← heq.1, ← heq.2]
      rfl
  | case6 s =>
      simp only [Option.some.injEq, Prod.mk.injEq] at h
      rw [← h.1, ← h.2]
      rfl
  | case7 s _ _ _ depth ih =>
      obtain ⟨⟨t, r⟩, ht, heq⟩ := Option.map_eq_some_iff.mp h
      simp only [Prod.mk.injEq] at heq
      rw [ih ht, ← heq.1, ← heq.2]
      rfl
  | case8 depth c s _ _ _ _ ih =>
      obtain ⟨⟨t, r⟩, ht, heq⟩ := Option.map_eq_some_iff.mp h
      simp only [Prod.mk.injEq] at heq
      rw [ih ht, ← heq.1, ← heq.2]
      rfl

/-- A link that was read, and the text after it, are the text it was read
    from, opening bracket included. -/
theorem link?_source {s rest : Text} {link : Link} (h : link? s = some (link, rest)) :
    '[' :: s = link.source ++ rest := by
  rw [link?] at h
  split at h
  · next label after hlabel =>
      split at h
      · next target rest' htarget =>
          simp only at h
          split at h
          · exact absurd h (by simp)
          · simp only [Option.some.injEq, Prod.mk.injEq] at h
            rw [label?_source hlabel, target?_source htarget, ← h.1, ← h.2]
            simp [Link.source]
      · exact absurd h (by simp)
  · exact absurd h (by simp)

/-! ### Runs of markers -/

/-- Whether there is a character and it is not white space. -/
def touches (c : Option Char) : Bool :=
  c.any fun c => !Text.isBlank c

/-- Whether there is a character and it is part of a word. -/
def joinsWord (c : Option Char) : Bool :=
  c.any Text.isAlphanumeric

/-- Whether a run between the two characters can begin emphasis: something has
    to follow at once, and an underscore must not stand inside a word. -/
def opens (marker : Marker) (before after : Option Char) : Bool :=
  touches after && !(marker == .underscore && joinsWord before)

/-- Whether a run between the two characters can end emphasis. -/
def closes (marker : Marker) (before after : Option Char) : Bool :=
  touches before && !(marker == .underscore && joinsWord after)

/-- A run of `length` markers between the two characters. -/
def Run.between (marker : Marker) (length : Nat) (before after : Option Char) : Run where
  marker := marker
  length := length
  canOpen := opens marker before after
  canClose := closes marker before after

/-! ### Tokens -/

/-- The token at the start of `c :: rest`, and the text after it. The
    character `before` stands in front of the text and `after` behind it. -/
def nextToken (escapes : Bool) (before after : Option Char) (c : Char) (rest : Text) :
    Token × Text :=
  if c = '\\' then
    match rest with
    | [] => (.char c, [])
    | d :: rest' => if escapes && isPunctuation d then (.escaped d, rest') else (.char c, rest)
  else if c = backtick then
    let (more, following) := spanTicks rest
    match codeBody? (more + 1) 0 following with
    | some (body, rest) => (.code (more + 1) body, rest)
    | none => (.ticks (more + 1), following)
  else if c = '!' then
    match rest with
    | '[' :: inner =>
      match link? inner with
      | some (link, rest) => (.image link, rest)
      | none => (.char c, rest)
    | _ => (.char c, rest)
  else if c = '[' then
    match link? rest with
    | some (link, rest') => if link.label.isEmpty then (.char c, rest) else (.link link, rest')
    | none => (.char c, rest)
  else
    match Marker.ofChar? c with
    | some marker =>
      let following := rest.dropWhile (· == c)
      let length := Text.countWhile (· == c) rest + 1
      (.run (.between marker length before (following.head?.or after)), following)
    | none => (.char c, rest)

theorem Marker.char_of_ofChar? {c : Char} {marker : Marker} (h : Marker.ofChar? c = some marker) :
    marker.char = c := by
  rw [Marker.ofChar?] at h
  repeat' split at h
  all_goals simp_all
  all_goals rw [← h]; rfl

theorem countWhile_dropWhile (c : Char) (s : Text) :
    List.replicate (Text.countWhile (· == c) s) c ++ s.dropWhile (· == c) = s := by
  induction s with
  | nil => rfl
  | cons d s ih =>
      rw [Text.countWhile, List.dropWhile_cons]
      split
      · next hd => rw [List.replicate_succ, List.cons_append, ih, beq_iff_eq.mp hd]
      · rfl

/-- A token that was read, and the text after it, are the text it was read
    from. -/
theorem nextToken_source (escapes : Bool) (before after : Option Char) (c : Char) (rest : Text) :
    (nextToken escapes before after c rest).1.source ++ (nextToken escapes before after c rest).2
      = c :: rest := by
  unfold nextToken
  split
  · next hc =>
      split
      · rfl
      · split
        · simp [Token.source, hc]
        · rfl
  · split
    · next hc =>
        have hspan := spanTicks_source rest
        generalize spanTicks rest = s at hspan ⊢
        obtain ⟨more, following⟩ := s
        simp only at hspan ⊢
        split
        · next hbody =>
            have hb := codeBody?_source hbody
            simp only [ticks, List.replicate_zero, List.nil_append] at hb hspan
            rw [← hspan, hb, hc, Token.source, List.replicate_succ]
            simp
        · rw [← hspan, hc]
          simp [ticks, Token.source, List.replicate_succ]
    · split
      · next hc =>
          split
          · next inner =>
              split
              · next hlink => rw [Token.source, hc, List.cons_append, ← link?_source hlink]
              · rfl
          · rfl
      · split
        · next hc =>
            split
            · next hlink =>
                split
                · rfl
                · rw [Token.source, hc, ← link?_source hlink]
            · rfl
        · split
          · next marker hmarker =>
              simp only [Token.source, Run.source, Run.between, Marker.char_of_ofChar? hmarker]
              rw [List.replicate_succ, List.cons_append, countWhile_dropWhile]
          · rfl

theorem nextToken_source_ne_nil (escapes : Bool) (before after : Option Char) (c : Char)
    (rest : Text) : (nextToken escapes before after c rest).1.source ≠ [] := by
  unfold nextToken
  repeat' split
  all_goals simp [Token.source, Link.source, Run.source, Run.between, List.replicate_succ]

theorem length_nextToken_lt (escapes : Bool) (before after : Option Char) (c : Char)
    (rest : Text) :
    (nextToken escapes before after c rest).2.length < (c :: rest).length := by
  have h := congrArg List.length (nextToken_source escapes before after c rest)
  rw [List.length_append] at h
  have hpos := List.length_pos_iff.mpr (nextToken_source_ne_nil escapes before after c rest)
  omega

/-- The tokens of a text between the characters `before` and `after`. -/
def tokens (escapes : Bool) (before : Option Char) (s : Text) (after : Option Char) :
    List Token :=
  match s with
  | [] => []
  | c :: rest =>
    let step := nextToken escapes before after c rest
    step.1 :: tokens escapes step.1.source.getLast? step.2 after
termination_by s.length
decreasing_by exact length_nextToken_lt escapes before after c rest

/-- The tokens were written one after the other, and nothing else was. -/
theorem flatMap_source_tokens (escapes : Bool) (before : Option Char) (s : Text)
    (after : Option Char) : (tokens escapes before s after).flatMap Token.source = s := by
  fun_induction tokens escapes before s after with
  | case1 => rfl
  | case2 before c rest step ih =>
      rw [List.flatMap_cons, ih]
      exact nextToken_source escapes before after c rest

/-- What holds of every token that is read holds of all tokens of a text. -/
theorem forall_mem_tokens {Holds : Token → Prop} {escapes : Bool} {after : Option Char}
    (h : ∀ before c rest, Holds (nextToken escapes before after c rest).1) (before : Option Char)
    (s : Text) : ∀ token ∈ tokens escapes before s after, Holds token := by
  fun_induction tokens escapes before s after with
  | case1 => exact fun token hmem => absurd hmem List.not_mem_nil
  | case2 before c rest step ih => exact List.forall_mem_cons.mpr ⟨h before c rest, ih⟩

end ChatMarkup.Inline
