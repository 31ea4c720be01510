import ChatMarkup.Document.Basic
import ChatMarkup.Proofs.Boundary
import ChatMarkup.Proofs.Leading
import ChatMarkup.Proofs.Nesting
import ChatMarkup.Render.Block

/-!
# Drafts

Blocks that are written before they are read.

A draft says what a block is to be: a heading with its text, a list item with
its marker and its depth, a table with its cells. It is written in the plainest
way that the markup has for it, so that the first character of its first line
already tells the kinds of drafts apart. The text of a heading, a paragraph or
an item begins with a letter, which no recogniser asks for.

How the lines of a draft are read depends on the lines behind it only where the
draft could go on. `Draft.EndsBefore` names what it takes for the draft to be
over, and a draft that is over is read as its block, whatever else follows.

## Main definitions

* `Draft`: A block to be written.
* `Draft.lines`: The lines of a draft, without their ends.
* `Draft.block`: The block that a draft is to be.
* `Draft.Sound`: The draft can be written.
* `Draft.opening`: What the first line of a draft opens.
* `Draft.EndsBefore`: The lines do not go on with the draft.

## Theorems

* `ofLine_first`: The first line opens the draft, whatever comes behind it.
* `extent_more`: A draft is as long as its lines.
* `blocksOfLines_draft`: A draft is read as its block.
-/

namespace ChatMarkup

/-! ### Writing -/

/-- The marker as it is written. -/
def ItemMarker.write : ItemMarker → Text
  | bullet c => [c]
  | ordered number delimiter => Text.decimal number ++ [delimiter]

/-- The marker is one that is read as such. -/
def ItemMarker.Sound : ItemMarker → Prop
  | bullet c => c = '-' ∨ c = '*' ∨ c = '+'
  | ordered number delimiter => number < 1000000000 ∧ (delimiter = '.' ∨ delimiter = ')')

instance : (marker : ItemMarker) → Decidable marker.Sound
  | .bullet _ => inferInstanceAs (Decidable (_ ∨ _ ∨ _))
  | .ordered _ _ => inferInstanceAs (Decidable (_ ∧ (_ ∨ _)))

/-- The box in front of a task, which is ticked if the task is done. -/
def writeTask : Option Bool → Text
  | none => []
  | some done => ['[', if done then 'x' else ' ', ']', ' ']

/-- The cells between bars. -/
def Table.writeRow (cells : List Text) : Text :=
  '|' :: Text.joinWith '|' cells ++ ['|']

/-- The cells make a row. A single empty cell does not, since two bars hold
    nothing. -/
def Table.IsCells (cells : List Text) : Prop :=
  cells ≠ [] ∧ cells ≠ [[]] ∧ ∀ cell ∈ cells, '|' ∉ cell ∧ '\n' ∉ cell

instance (cells : List Text) : Decidable (Table.IsCells cells) :=
  inferInstanceAs (Decidable (_ ∧ _ ∧ _))

namespace Text

/-- The text is a line without its end. -/
def IsBody (s : Text) : Prop :=
  '\n' ∉ s ∧ s.getLast? ≠ some '\r'

instance (s : Text) : Decidable s.IsBody :=
  inferInstanceAs (Decidable (_ ∧ _))

/-- The text begins with a letter. -/
def BeginsWithLetter (s : Text) : Prop :=
  s.head?.any isLetter = true

instance (s : Text) : Decidable s.BeginsWithLetter :=
  inferInstanceAs (Decidable (_ = true))

end Text

/-- A block to be written. Where a block has one line or more, the first stands
    apart. -/
inductive Draft
  /-- A heading. -/
  | heading (level : Nat) (text : Text)
  /-- A paragraph. -/
  | paragraph (first : Text) (more : List Text)
  /-- Code between fences of three backticks. -/
  | fence (info : Text) (body : List Text)
  /-- A quote. -/
  | quote (depth : Nat) (first : Text) (more : List Text)
  /-- A list item. -/
  | item (level : Nat) (marker : ItemMarker) (task : Option Bool) (text : Text)
  /-- A rule. -/
  | rule
  /-- A table, with the cells that separate the header from the rows. -/
  | table (header separator : List Text) (rows : List (List Text))
  deriving DecidableEq, Repr

namespace Draft

/-- The first line, without its end. -/
def first : Draft → Text
  | heading level text => List.replicate level '#' ++ ' ' :: text
  | paragraph first _ => first
  | fence info _ => '\x60' :: '\x60' :: '\x60' :: info
  | quote depth first _ => List.replicate depth '>' ++ ' ' :: first
  | item level marker task text =>
    List.replicate (2 * level) ' ' ++ (marker.write ++ ' ' :: (writeTask task ++ text))
  | rule => ['-', '-', '-']
  | table header _ _ => Table.writeRow header

/-- The lines behind the first, without their ends. -/
def more : Draft → List Text
  | paragraph _ more => more
  | fence _ body => body ++ [['\x60', '\x60', '\x60']]
  | quote depth _ more => more.map fun line => List.replicate depth '>' ++ ' ' :: line
  | table _ separator rows => (separator :: rows).map Table.writeRow
  | _ => []

/-- The lines, without their ends. -/
def lines (draft : Draft) : List Text :=
  draft.first :: draft.more

/-- The draft as it is written. -/
def source (draft : Draft) : Text :=
  draft.lines.flatMap endLine

/-- The words behind the fence, if there are any. -/
def info? (info : Text) : Option Text :=
  if info.isEmpty then none else some info

/-- What the block is to be. -/
def kind : Draft → Block.Kind
  | heading level _ => .heading level
  | paragraph _ _ => .paragraph
  | fence info _ => .fence (info? info) true
  | quote _ _ _ => .quote
  | item level marker task _ => .listItem marker (2 * level) task
  | rule => .rule
  | table _ _ _ => .table

/-- What the lines of the block are to say. -/
def content : Draft → Text
  | heading _ text => text
  | paragraph first more => Text.joinWith '\n' (first :: more)
  | fence _ body => Text.joinWith '\n' body
  | quote _ first more => Text.joinWith '\n' (first :: more)
  | item _ _ _ text => text
  | rule => []
  | table header separator rows =>
    Text.joinWith '\n' ((header :: separator :: rows).map Table.writeRow)

/-- How deep the block is to be. -/
def level : Draft → Nat
  | quote depth _ _ => depth
  | item level _ _ _ => level
  | _ => 0

/-- The block that the draft is to be. -/
def block (draft : Draft) : Block where
  kind := draft.kind
  source := draft.source
  content := draft.content
  level := draft.level

/-- What the first line is to open. -/
def opening : Draft → Opening
  | heading level text => .heading level text
  | paragraph _ _ => .paragraph
  | fence info _ => .fence ⟨'\x60', 3, info? info⟩
  | quote depth first _ => .quote depth first
  | item level marker task text => .item ⟨marker, 2 * level, task, text⟩
  | rule => .rule
  | table _ _ _ => .table

/-- The draft can be written. -/
def Sound : Draft → Prop
  | heading level text =>
    (1 ≤ level ∧ level ≤ 6) ∧ text.BeginsWithLetter ∧ '\n' ∉ text ∧
      ∀ c ∈ text.getLast?, Text.isBlank c = false ∧ c ≠ '#'
  | paragraph first more => ∀ line ∈ first :: more, line.IsBody ∧ line.BeginsWithLetter
  | fence info body =>
    (Text.trim info = info ∧ '\n' ∉ info ∧ '\x60' ∉ info) ∧
      ∀ line ∈ body, line.IsBody ∧ Fence.closedBy ⟨'\x60', 3, info? info⟩ line = false
  | quote depth first more =>
    1 ≤ depth ∧ ∀ line ∈ first :: more, line.IsBody ∧ line.head? ≠ some '>'
  | item _ marker _ text => marker.Sound ∧ text.IsBody ∧ text.BeginsWithLetter
  | rule => True
  | table header separator rows =>
    separator.length = header.length ∧
      (∀ cell ∈ separator, Text.trim cell = ['-', '-', '-']) ∧
      ∀ row ∈ header :: separator :: rows, Table.IsCells row

instance : (draft : Draft) → Decidable draft.Sound
  | heading _ text =>
    -- Only the last character is looked at, not every character that there is.
    have : Decidable (∀ c ∈ text.getLast?, Text.isBlank c = false ∧ c ≠ '#') :=
      text.getLast?.decidableForallMem
    inferInstanceAs (Decidable (_ ∧ _ ∧ _ ∧ _))
  | paragraph _ _ => inferInstanceAs (Decidable (∀ _ ∈ _, _ ∧ _))
  | fence _ _ => inferInstanceAs (Decidable (_ ∧ _))
  | quote _ _ _ => inferInstanceAs (Decidable (_ ∧ _))
  | item _ _ _ _ => inferInstanceAs (Decidable (_ ∧ _))
  | rule => inferInstanceAs (Decidable True)
  | table _ _ _ => inferInstanceAs (Decidable (_ ∧ _ ∧ _))

/-- The lines do not go on with the draft. -/
def EndsBefore (rest : List Text) : Draft → Prop
  | paragraph _ _ => ∀ line ∈ rest.head?, Opening.ofLine line rest.tail.head? ≠ .paragraph
  | quote depth _ _ => ∀ line ∈ rest.head?, isQuotedAt depth line = false
  | item level _ _ _ => ∀ line ∈ rest.head?, 2 * level < Text.indentation line →
      Opening.ofLine line rest.tail.head? ≠ .paragraph
  | table _ _ _ => ∀ line ∈ rest.head?, Table.isRow line = false
  | _ => True

end Draft

/-! ### Lines with their ends -/

namespace Text

theorem stripEnd_endLine {s : Text} (h : s.getLast? ≠ some '\r') : stripEnd (endLine s) = s :=
  stripEnd_append_feed h

theorem trim_endLine (s : Text) : trim (endLine s) = trim s :=
  trim_append_of_blank s fun _ hc => isBlank_of_lineEnd (.inr (List.mem_singleton.mp hc))

theorem trim_eq_self {s : Text} (hhead : ∀ c ∈ s.head?, isBlank c = false)
    (hlast : ∀ c ∈ s.getLast?, isBlank c = false) : trim s = s := by
  rw [trim, trimStart, dropWhile_eq_self hhead, trimEnd, dropEndWhile_eq_self hlast]

/-- The last character of a trimmed text is not white space. -/
theorem not_isBlank_getLast?_trim (s : Text) : ∀ c ∈ (trim s).getLast?, isBlank c = false := by
  intro c hc
  rw [trim, trimEnd, dropEndWhile, List.getLast?_reverse] at hc
  have hdropped := List.head?_dropWhile_not isBlank (trimStart s).reverse
  rw [Option.mem_def.mp hc] at hdropped
  exact hdropped

theorem BeginsWithLetter.exists_cons {s : Text} (h : s.BeginsWithLetter) :
    ∃ c rest, s = c :: rest ∧ isLetter c = true := by
  cases s with
  | nil => exact absurd h Bool.false_ne_true
  | cons c rest => exact ⟨c, rest, rfl, h⟩

theorem BeginsWithLetter.not_isBlank_head? {s : Text} (h : s.BeginsWithLetter) :
    ∀ c ∈ s.head?, isBlank c = false := by
  rcases h.exists_cons with ⟨d, rest, rfl, hd⟩
  exact fun c hc => Option.some.inj hc ▸ not_isBlank_of_isLetter hd

theorem IsBody.stripEnd {s : Text} (h : s.IsBody) : Text.stripEnd (endLine s) = s :=
  stripEnd_endLine h.2

/-- A line stays one behind other characters, of which the last is no end of
    it. -/
theorem IsBody.append {s : Text} (h : s.IsBody) (front : Text) (c : Char)
    (hfront : '\n' ∉ front) (hfeed : c ≠ '\n') (hreturn : c ≠ '\r') :
    (front ++ c :: s).IsBody := by
  refine ⟨fun hmem => ?_, fun hlast => ?_⟩
  · rcases List.mem_append.mp hmem with hmem | hmem
    · exact hfront hmem
    · rcases List.mem_cons.mp hmem with heq | hmem
      · exact hfeed heq.symm
      · exact h.1 hmem
  · rw [List.getLast?_append, List.getLast?_cons] at hlast
    cases hs : s.getLast? with
    | none =>
        rw [hs] at hlast
        exact hreturn (Option.some.inj hlast)
    | some d =>
        rw [hs] at hlast
        exact h.2 (hs.trans hlast)

theorem isBody_of_getLast? {s : Text} (hfeed : '\n' ∉ s)
    (hlast : ∀ c ∈ s.getLast?, isBlank c = false) : s.IsBody :=
  ⟨hfeed, fun heq => absurd (hlast '\r' heq) (by decide)⟩

theorem not_mem_replicate {c d : Char} (h : d ≠ c) (n : Nat) : c ∉ List.replicate n d :=
  fun hmem => h (List.eq_of_mem_replicate hmem).symm

/-- No space stands in front of a run of something else. -/
theorem spaces_replicate {c : Char} (hc : c ≠ ' ') {n : Nat} (hn : 1 ≤ n) (rest : Text) :
    countWhile (· == ' ') (List.replicate n c ++ rest) = 0 ∧
      (List.replicate n c ++ rest).dropWhile (· == ' ') = List.replicate n c ++ rest := by
  rcases Nat.exists_eq_add_of_le' hn with ⟨k, rfl⟩
  exact countWhile_replicate ' ' 0 (List.replicate (k + 1) c ++ rest) fun heq =>
    hc (Option.some.inj heq)

end Text

theorem closedBy_endLine (f : Fence) (line : Text) :
    f.closedBy (endLine line) = f.closedBy line := by
  rw [Fence.closedBy, Fence.closedBy, Text.trim_endLine]

/-- Lines without their ends are what was written. -/
theorem contentOf_map_endLine {lines : List Text} (h : ∀ line ∈ lines, line.IsBody) :
    Opening.contentOf (lines.map endLine) = Text.joinWith '\n' lines := by
  have hlines : (lines.map endLine).map Text.stripEnd = lines := by
    rw [List.map_map]
    exact (List.map_congr_left (g := id) fun line hline => (h line hline).stripEnd).trans
      (List.map_id lines)
  rw [Opening.contentOf, hlines]

/-- A line with a letter in it is no rule. -/
theorem isRule_of_mem {line : Text} {c : Char} (hc : Text.isLetter c = true) (hmem : c ∈ line) :
    isRule line = false := by
  have hvisible : c ∈ line.filter fun d => !Text.isBlank d :=
    List.mem_filter.mpr ⟨hmem, congrArg not (Text.not_isBlank_of_isLetter hc)⟩
  rw [isRule]
  cases hfilter : line.filter fun d => !Text.isBlank d with
  | nil => rfl
  | cons d rest =>
      rw [hfilter] at hvisible
      -- All characters of a rule are the first, which is no letter.
      cases hrule : (d == '-' || d == '*' || d == '_') && rest.all (· == d) with
      | false => simp only [hrule, Bool.false_and]
      | true =>
          rw [Bool.and_eq_true, Bool.or_eq_true, Bool.or_eq_true, beq_iff_eq, beq_iff_eq,
            beq_iff_eq] at hrule
          have hcd : c = d := by
            rcases List.mem_cons.mp hvisible with rfl | hrest
            · rfl
            · exact beq_iff_eq.mp (List.all_eq_true.mp hrule.2 c hrest)
          rw [hcd] at hc
          rcases hrule.1 with (rfl | rfl) | rfl <;> exact absurd hc (by decide)

/-- A run of lines that begin paragraphs goes on until a line does not. -/
theorem continuation_append_of_forall {admits : Text → Bool} (xs : List Text) {ys : List Text}
    (hxs : ∀ line ∈ xs, admits line = true ∧ ∀ next, Opening.ofLine line next = .paragraph)
    (hys : ∀ line ∈ ys.head?, admits line = true →
      Opening.ofLine line ys.tail.head? ≠ .paragraph) :
    continuation admits (xs ++ ys) = xs.length := by
  induction xs with
  | nil =>
      cases ys with
      | nil => rfl
      | cons line ys =>
          rw [List.nil_append, continuation_cons, if_neg]
          · rfl
          · rw [Bool.and_eq_true, beq_iff_eq]
            exact fun hgoes => hys line rfl hgoes.1 hgoes.2
  | cons line xs ih =>
      have hline := hxs line List.mem_cons_self
      rw [List.cons_append, continuation_cons, hline.1, hline.2, if_pos (by rfl),
        List.length_cons, ih fun other hother => hxs other (List.mem_cons_of_mem _ hother)]

namespace Draft

theorem dropClosingSigns_eq_self {text : Text}
    (h : ∀ c ∈ text.getLast?, Text.isBlank c = false ∧ c ≠ '#') : dropClosingSigns text = text := by
  have hsame : Text.dropEndWhile (· == '#') text = text :=
    Text.dropEndWhile_eq_self fun c hc => beq_eq_false_iff_ne.mpr (h c hc).2
  rw [dropClosingSigns]
  simp only [hsame]
  cases hlast : text.getLast? with
  | none => exact (List.getLast?_eq_none_iff.mp hlast).symm
  | some c => exact if_neg (Bool.eq_false_iff.mp
      (Text.not_isSpaceOrTab_of_not_isBlank (h c hlast).1))

theorem heading?_first {level : Nat} {text : Text} (h : (heading level text).Sound) :
    heading? (endLine (heading level text).first) = some (level, text) := by
  rcases h with ⟨⟨hlow, hhigh⟩, hletter, hfeed, hlast⟩
  have hbody := Text.isBody_of_getLast? hfeed fun c hc => (hlast c hc).1
  have hstrip := (hbody.append (List.replicate level '#') ' '
    (Text.not_mem_replicate (by decide) _) (by decide) (by decide)).stripEnd
  have hspaces := Text.spaces_replicate (c := '#') (by decide) hlow (' ' :: text)
  have hsigns := Text.countWhile_replicate '#' level (' ' :: text) (by simp)
  have htrim : Text.trim (' ' :: text) = text :=
    Text.trim_eq_self (s := text) hletter.not_isBlank_head? fun c hc => (hlast c hc).1
  have hapart : standsApart (' ' :: text) = true := rfl
  rw [heading?, first]
  simp only [hstrip, hspaces, hsigns, htrim, dropClosingSigns_eq_self hlast, hapart]
  rw [if_pos]
  simp only [Bool.and_true, Bool.and_eq_true, decide_eq_true_eq]
  exact ⟨⟨Nat.zero_le _, hlow⟩, hhigh⟩

theorem dropQuoteMarks_replicate {line : Text} (h : line.head? ≠ some '>') (depth : Nat) :
    dropQuoteMarks (List.replicate (depth + 1) '>' ++ ' ' :: line) = (depth + 1, line) := by
  induction depth with
  | zero =>
      rw [List.replicate_succ, List.replicate_zero, List.cons_append, List.nil_append,
        dropQuoteMarks, dropQuoteMarks_of_head? h]
  | succ depth ih =>
      rw [List.replicate_succ, List.cons_append, dropQuoteMarks, ih]
      simp [List.replicate_succ]

theorem quote?_line {depth : Nat} (hdepth : 1 ≤ depth) {line : Text} (hbody : line.IsBody)
    (hline : line.head? ≠ some '>') :
    quote? (endLine (List.replicate depth '>' ++ ' ' :: line)) = some (depth, line) := by
  have hstrip := (hbody.append (List.replicate depth '>') ' '
    (Text.not_mem_replicate (by decide) _) (by decide) (by decide)).stripEnd
  have hspaces := Text.spaces_replicate (c := '>') (by decide) hdepth (' ' :: line)
  rcases Nat.exists_eq_add_of_le' hdepth with ⟨k, rfl⟩
  rw [quote?]
  simp only [hstrip, hspaces, dropQuoteMarks_replicate hline k]
  rfl

/-- The marker begins with a character that nothing but items and rules begins
    with. -/
theorem exists_marker_cons {marker : ItemMarker} (h : marker.Sound) :
    ∃ c rest, marker.write = c :: rest ∧ Text.isBlank c = false ∧ Fence.isFenceChar c = false ∧
      c ≠ '|' ∧ c ≠ '#' ∧ c ≠ '>' := by
  cases marker with
  | bullet c =>
      rcases h with rfl | rfl | rfl <;> exact ⟨_, [], rfl, by decide⟩
  | ordered number delimiter =>
      rcases hdigits : Text.decimal number with _ | ⟨c, rest⟩
      · exact absurd hdigits Nat.toDigits_ne_nil
      · -- A number is never without a digit, and a digit is no mark.
        have hc : c.isDigit = true :=
          Text.isDigit_of_mem_decimal (by rw [hdigits]; exact List.mem_cons_self)
        have hne {d : Char} (hd : d.isDigit = false) : c ≠ d := Text.ne_of_passes hc hd
        have hfence : Fence.isFenceChar c = false := by
          rw [Fence.isFenceChar, beq_eq_false_iff_ne.mpr (hne (by decide)),
            beq_eq_false_iff_ne.mpr (hne (by decide))]
          rfl
        refine ⟨c, rest ++ [delimiter], ?_, Text.not_isBlank_of_isDigit hc, hfence,
          hne (by decide), hne (by decide), hne (by decide)⟩
        rw [ItemMarker.write, hdigits, List.cons_append]

theorem feed_not_mem_marker {marker : ItemMarker} (h : marker.Sound) : '\n' ∉ marker.write := by
  cases marker with
  | bullet c =>
      rcases h with rfl | rfl | rfl <;> decide
  | ordered number delimiter =>
      intro hmem
      rcases List.mem_append.mp hmem with hdigit | hdelimiter
      · exact absurd (Text.isDigit_of_mem_decimal hdigit) (by decide)
      · rw [← List.mem_singleton.mp hdelimiter] at h
        exact absurd h.2 (by decide)

/-- The marker in front of a space is read as it is written. -/
theorem itemMarker?_write {marker : ItemMarker} (h : marker.Sound) (rest : Text) :
    itemMarker? (marker.write ++ ' ' :: rest) = some (marker, ' ' :: rest) := by
  cases marker with
  | bullet c =>
      rcases h with rfl | rfl | rfl <;> rfl
  | ordered number delimiter =>
      rcases h with ⟨hnumber, hdelimiter⟩
      -- The delimiter ends the digits, of which there are at most nine.
      have hbounds : (Text.decimal number).length ≤ 9 :=
        Text.length_decimal_le hnumber
      have hdelimiter' : Text.isDigit delimiter = false ∧
          (delimiter == '.' || delimiter == ')') = true := by
        rcases hdelimiter with rfl | rfl <;> decide
      have hdigits := Text.takeWhile_decimal number hdelimiter'.1 (' ' :: rest)
      have hread := Text.readDigits_decimal number
      rw [ItemMarker.write, List.append_assoc, List.singleton_append]
      rcases hcons : Text.decimal number with _ | ⟨c, more⟩
      · exact absurd hcons Nat.toDigits_ne_nil
      · have hc : c.isDigit = true :=
          Text.isDigit_of_mem_decimal (by rw [hcons]; exact List.mem_cons_self)
        have hne {d : Char} (hd : d.isDigit = false) : (c == d) = false :=
          beq_eq_false_iff_ne.mpr (Text.ne_of_passes hc hd)
        have hbullet : (c == '-' || c == '*' || c == '+') = false := by
          rw [hne (by decide), hne (by decide), hne (by decide)]
          rfl
        rw [hcons, List.cons_append] at hdigits
        rw [hcons] at hbounds hread
        have hcount : ((c :: more).isEmpty || decide (9 < (c :: more).length)) = false := by
          rw [decide_eq_false (Nat.not_lt.mpr hbounds)]
          rfl
        rw [List.cons_append, itemMarker?, hbullet]
        simp only [hdigits, hcount, hread, hdelimiter'.2]
        rfl

theorem task_write (task : Option Bool) {text : Text} (h : text.BeginsWithLetter) :
    ChatMarkup.task (writeTask task ++ text) = (task, text) := by
  rcases h.exists_cons with ⟨c, rest, rfl, hc⟩
  cases task with
  | none =>
      -- A letter does not begin a box.
      have hbracket : c ≠ '[' := Text.ne_of_passes hc (by decide)
      rw [writeTask, List.nil_append, ChatMarkup.task.eq_def]
      split
      · next heq => exact absurd (List.cons.inj heq).1 hbracket
      · rfl
  | some done =>
      have htrim : Text.trimStart (' ' :: c :: rest) = c :: rest :=
        Text.dropWhile_eq_self (s := c :: rest) h.not_isBlank_head?
      cases done <;> exact congrArg (Prod.mk _) htrim

theorem indentationFrom_replicate (column n : Nat) {c : Char} (hc : Text.isSpaceOrTab c = false)
    (rest : Text) :
    Text.indentationFrom column (List.replicate n ' ' ++ c :: rest) = column + n := by
  induction n generalizing column with
  | zero =>
      rw [Text.isSpaceOrTab, Bool.or_eq_false_iff, beq_eq_false_iff_ne, beq_eq_false_iff_ne] at hc
      rw [List.replicate_zero, List.nil_append, Text.indentationFrom, if_neg hc.1, if_neg hc.2]
      rfl
  | succ n ih =>
      rw [List.replicate_succ, List.cons_append, Text.indentationFrom, if_pos rfl, ih]
      omega

theorem item_isBody {marker : ItemMarker} (hmarker : marker.Sound) {text : Text}
    (hbody : text.IsBody) (level : Nat) (task : Option Bool) :
    (item level marker task text).first.IsBody := by
  have htask : (writeTask task ++ text).IsBody := by
    cases task with
    | none => exact hbody
    | some done =>
        cases done with
        | false => exact hbody.append ['[', ' ', ']'] ' ' (by decide) (by decide) (by decide)
        | true => exact hbody.append ['[', 'x', ']'] ' ' (by decide) (by decide) (by decide)
  rw [first, ← List.append_assoc]
  refine htask.append _ ' ' (fun hmem => ?_) (by decide) (by decide)
  rcases List.mem_append.mp hmem with hspace | hmem
  · exact Text.not_mem_replicate (by decide) _ hspace
  · exact feed_not_mem_marker hmarker hmem

theorem item?_first {level : Nat} {marker : ItemMarker} {task : Option Bool} {text : Text}
    (h : (item level marker task text).Sound) :
    item? (endLine (item level marker task text).first) =
      some ⟨marker, 2 * level, task, text⟩ := by
  rcases h with ⟨hmarker, hbody, hletter⟩
  rcases exists_marker_cons hmarker with ⟨c, rest, hc, hblank, -⟩
  let said := writeTask task ++ text
  have hstrip := (item_isBody hmarker hbody level task).stripEnd
  have hspace := Text.not_isSpaceOrTab_of_not_isBlank hblank
  have hdrop : (item level marker task text).first.dropWhile Text.isSpaceOrTab =
      marker.write ++ ' ' :: said := by
    rw [first, List.dropWhile_append_of_pos fun d hd => (List.eq_of_mem_replicate hd) ▸ rfl, hc,
      List.cons_append, List.dropWhile_cons, hspace]
    rfl
  have hindent : Text.indentation (item level marker task text).first = 2 * level := by
    rw [first, hc, Text.indentation, List.cons_append, indentationFrom_replicate 0 _ hspace,
      Nat.zero_add]
  -- What stands behind the space begins with the box of a task or with a letter.
  have htrim : Text.trimStart (' ' :: said) = said := by
    refine Text.dropWhile_eq_self (s := said) fun d hd => ?_
    cases task with
    | none => exact hletter.not_isBlank_head? d hd
    | some done =>
        rw [← Option.some.inj hd]
        decide
  have htask : ChatMarkup.task said = (task, text) := task_write task hletter
  have hapart : standsApart (' ' :: said) = true := rfl
  rw [item?]
  simp only [hstrip, hdrop, itemMarker?_write hmarker, hindent, htrim, htask, hapart]
  rfl

theorem fence?_first {info : Text} {body : List Text} (h : (fence info body).Sound) :
    Fence.ofLine? (endLine (fence info body).first) = some ⟨'\x60', 3, info? info⟩ := by
  rcases h.1 with ⟨htrimmed, _, htick⟩
  have hlast : ∀ c ∈ info.getLast?, Text.isBlank c = false :=
    htrimmed ▸ Text.not_isBlank_getLast?_trim info
  have hline : Text.trim (endLine (fence info body).first) =
      '\x60' :: '\x60' :: '\x60' :: info := by
    rw [Text.trim_endLine, first]
    refine Text.trim_eq_self (fun c hc => ?_) (fun c hc => ?_)
    · rw [← Option.some.inj hc]
      decide
    · -- The line ends as the words behind the fence do, or with a backtick.
      rw [List.getLast?_cons_cons, List.getLast?_cons_cons, List.getLast?_cons] at hc
      cases hinfo : info.getLast? with
      | none =>
          rw [hinfo] at hc
          rw [← Option.some.inj hc]
          decide
      | some d =>
          rw [hinfo] at hc
          exact Option.some.inj hc ▸ hlast d hinfo
  have hsigns := Text.countWhile_replicate '\x60' 2 info fun hhead =>
    htick (List.mem_of_mem_head? hhead)
  simp only [List.replicate_succ, List.replicate_zero, List.cons_append, List.nil_append] at hsigns
  have hnone : info.contains '\x60' = false := by
    simpa using htick
  rw [Fence.ofLine?, hline]
  simp only [hsigns, htrimmed, hnone]
  rfl

theorem closedBy_ticks (info : Option Text) :
    Fence.closedBy ⟨'\x60', 3, info⟩ (endLine ['\x60', '\x60', '\x60']) = true := by
  rfl

theorem trim_writeRow (cells : List Text) :
    Text.trim (endLine (Table.writeRow cells)) = Table.writeRow cells := by
  rw [Text.trim_endLine]
  refine Text.trim_eq_self (fun c hc => ?_) (fun c hc => ?_)
  · rw [← Option.some.inj hc]
    decide
  · rw [Table.writeRow, List.getLast?_concat] at hc
    rw [← Option.some.inj hc]
    decide

/-- The cells of a row are read as they are written, without the white space
    around them. -/
theorem cells_writeRow {cells : List Text} (h : Table.IsCells cells) :
    Table.cells (endLine (Table.writeRow cells)) = cells.map Text.trim := by
  have hfirst : Text.dropFirstIf '|' (Table.writeRow cells) = Text.joinWith '|' cells ++ ['|'] := by
    rw [Table.writeRow, List.cons_append, Text.dropFirstIf, if_pos rfl]
  rw [Table.cells, trim_writeRow, hfirst, Text.dropLastIf_concat, if_pos rfl,
    Text.splitOn_joinWith h.1 fun cell hcell => (h.2.2 cell hcell).1]

theorem isRow_writeRow {cells : List Text} (h : Table.IsCells cells) :
    Table.isRow (endLine (Table.writeRow cells)) = true := by
  have hlast : (Table.writeRow cells).getLast? = some '|' := by
    rw [Table.writeRow, List.getLast?_concat]
  have hlength : 3 ≤ (Table.writeRow cells).length := by
    have hne := Text.joinWith_ne_nil '|' h.1 h.2.1
    have hpos := List.length_pos_iff.mpr hne
    rw [Table.writeRow, List.length_append, List.length_cons, List.length_singleton]
    omega
  rw [Table.isRow, trim_writeRow, hlast, decide_eq_true hlength]
  rfl

/-! ### What the first line opens -/

theorem leads_of_beginsWithLetter {line : Text} (h : line.BeginsWithLetter) :
    ∃ c, Leads c (endLine line) ∧ Text.isLetter c = true := by
  rcases h.exists_cons with ⟨c, rest, rfl, hc⟩
  exact ⟨c, (Leads.of_cons (Text.not_isBlank_of_isLetter hc)).append _, hc⟩

theorem leads_item {marker : ItemMarker} {c : Char} {rest : Text} (level : Nat)
    (task : Option Bool) (text : Text) (hc : marker.write = c :: rest)
    (hblank : Text.isBlank c = false) : Leads c (endLine (item level marker task text).first) := by
  refine ⟨hblank, List.replicate (2 * level) ' ',
    rest ++ ' ' :: (writeTask task ++ text) ++ ['\n'], fun d hd => ?_, ?_⟩
  · rw [List.eq_of_mem_replicate hd]
    decide
  · rw [endLine, first, hc, List.append_assoc]
    rfl

/-- A line that begins with a letter begins a paragraph. -/
theorem ofLine_of_beginsWithLetter {line : Text} (h : line.BeginsWithLetter)
    (next : Option Text) : Opening.ofLine (endLine line) next = .paragraph := by
  rcases leads_of_beginsWithLetter h with ⟨c, hleads, hc⟩
  have hmarks : (blockMarks.all fun d => !Text.isLetter d) = true := by decide
  refine hleads.paragraph (fun hmem => ?_) (fun hdigit => ?_) next
  · have hnot := List.all_eq_true.mp hmarks c hmem
    rw [hc] at hnot
    exact absurd hnot (by decide)
  · exact absurd (hdigit.symm.trans (Text.not_isDigit_of_isLetter hc)) (by decide)

/-- The character that the first line leads with tells quotes and tables from
    other drafts. -/
theorem exists_leads {draft : Draft} (h : draft.Sound) :
    ∃ c, Leads c (endLine draft.first) ∧ (draft.kind ≠ .table → c ≠ '|') ∧
      (draft.kind ≠ .quote → c ≠ '>') := by
  cases draft with
  | heading level text =>
      rcases Nat.exists_eq_add_of_le' h.1.1 with ⟨k, rfl⟩
      exact ⟨'#', Leads.of_cons (by decide), fun _ => by decide, fun _ => by decide⟩
  | paragraph first more =>
      rcases leads_of_beginsWithLetter (h first List.mem_cons_self).2 with ⟨c, hleads, hc⟩
      exact ⟨c, hleads, fun _ => Text.ne_of_passes hc (by decide),
        fun _ => Text.ne_of_passes hc (by decide)⟩
  | fence info body =>
      exact ⟨'\x60', Leads.of_cons (by decide), fun _ => by decide, fun _ => by decide⟩
  | quote depth first more =>
      rcases Nat.exists_eq_add_of_le' h.1 with ⟨k, rfl⟩
      exact ⟨'>', Leads.of_cons (by decide), fun _ => by decide, fun hkind => absurd rfl hkind⟩
  | item level marker task text =>
      rcases exists_marker_cons h.1 with ⟨c, rest, hc, hblank, -, hbar, -, hangle⟩
      exact ⟨c, leads_item level task text hc hblank, fun _ => hbar, fun _ => hangle⟩
  | rule =>
      exact ⟨'-', Leads.of_cons (by decide), fun _ => by decide, fun _ => by decide⟩
  | table header separator rows =>
      exact ⟨'|', Leads.of_cons (by decide), fun hkind => absurd rfl hkind, fun _ => by decide⟩

/-- A header in front of a row of dashes begins a table. -/
theorem begins_writeRow {header separator : List Text} (hheader : Table.IsCells header)
    (hseparator : Table.IsCells separator) (hlength : separator.length = header.length)
    (hdashes : ∀ cell ∈ separator, Text.trim cell = ['-', '-', '-']) :
    Table.begins (endLine (Table.writeRow header)) (some (endLine (Table.writeRow separator))) =
      true := by
  have hcells : (separator.map Text.trim).all Table.isSeparatorCell = true := by
    refine List.all_eq_true.mpr fun cell hcell => ?_
    rcases List.mem_map.mp hcell with ⟨written, hwritten, rfl⟩
    rw [hdashes written hwritten]
    rfl
  rw [Table.begins, isRow_writeRow hheader, isRow_writeRow hseparator, Table.separates,
    cells_writeRow hheader, cells_writeRow hseparator, hcells, List.length_map, List.length_map,
    hlength, BEq.rfl]
  rfl

/-- The first line opens the draft, whatever comes behind it. -/
theorem ofLine_first {draft : Draft} (h : draft.Sound) (rest : List Text) :
    Opening.ofLine (endLine draft.first) (draft.more.map endLine ++ rest).head? =
      draft.opening := by
  cases draft with
  | heading level text =>
      have hheading := heading?_first h
      rcases Nat.exists_eq_add_of_le' h.1.1 with ⟨k, rfl⟩
      have hleads : Leads '#' (endLine (heading (k + 1) text).first) := Leads.of_cons (by decide)
      rw [hleads.ofLine (by decide) (by decide), hleads.isRule (by decide), hheading]
      rfl
  | paragraph first more => exact ofLine_of_beginsWithLetter (h first List.mem_cons_self).2 _
  | fence info body =>
      have hleads : Leads '\x60' (endLine (fence info body).first) := Leads.of_cons (by decide)
      unfold Opening.ofLine
      rw [hleads.allBlank, fence?_first h]
      rfl
  | quote depth first more =>
      have hline := h.2 first List.mem_cons_self
      have hquote := quote?_line h.1 hline.1 hline.2
      rcases Nat.exists_eq_add_of_le' h.1 with ⟨k, rfl⟩
      have hleads : Leads '>' (endLine (quote (k + 1) first more).first) :=
        Leads.of_cons (by decide)
      rw [hleads.ofLine (by decide) (by decide), hleads.isRule (by decide),
        hleads.heading (by decide), hleads.item (by decide) (by decide), Draft.first, hquote]
      rfl
  | item level marker task text =>
      rcases exists_marker_cons h.1 with ⟨c, rest, hc, hblank, hfence, hbar, hsign, _⟩
      rcases h.2.2.exists_cons with ⟨d, others, htext, hd⟩
      have hleads := leads_item level task text hc hblank
      -- A bullet could begin a rule as well, but a rule has no letter in it.
      have hrule : isRule (endLine (item level marker task text).first) = false := by
        refine isRule_of_mem hd ?_
        rw [endLine, Draft.first, htext]
        simp
      rw [hleads.ofLine hfence hbar, hrule, hleads.heading hsign, item?_first h]
      rfl
  | rule =>
      have hleads : Leads '-' (endLine rule.first) := Leads.of_cons (by decide)
      rw [hleads.ofLine (by decide) (by decide)]
      rfl
  | table header separator rows =>
      -- The separator is a line of the draft, so what comes behind is not asked.
      rcases h with ⟨hlength, hdashes, hrows⟩
      have hbegins := begins_writeRow (hrows header List.mem_cons_self)
        (hrows separator (List.mem_cons_of_mem _ List.mem_cons_self)) hlength hdashes
      have hleads : Leads '|' (endLine (table header separator rows).first) :=
        Leads.of_cons (by decide)
      unfold Opening.ofLine
      rw [hleads.allBlank, hleads.fence (by decide)]
      exact if_pos hbegins

/-! ### The lines of a draft -/

/-- A draft is as long as its lines. -/
theorem extent_more {draft : Draft} (h : draft.Sound) {rest : List Text}
    (hends : draft.EndsBefore rest) :
    draft.opening.extent (draft.more.map endLine ++ rest) = draft.more.length := by
  rw [← List.length_map endLine]
  cases draft with
  | heading level text => rfl
  | paragraph first more =>
      refine continuation_append_of_forall _ (fun line hline => ⟨rfl, fun next => ?_⟩)
        fun line hline _ => hends line hline
      rcases List.mem_map.mp hline with ⟨body, hbody, rfl⟩
      exact ofLine_of_beginsWithLetter (h body (List.mem_cons_of_mem _ hbody)).2 next
  | fence info body =>
      -- No line of the body closes the fence, and the line behind the body does.
      have hopen : ∀ line ∈ body.map endLine,
          Fence.closedBy ⟨'\x60', 3, info? info⟩ line = false := by
        intro line hline
        rcases List.mem_map.mp hline with ⟨body', hbody', rfl⟩
        rw [closedBy_endLine]
        exact (h.2 body' hbody').2
      have hextent := Opening.extent_fence _ hopen (closedBy_ticks (info? info)) rest
      rw [more, List.map_append, List.append_assoc, List.length_append]
      exact hextent
  | quote depth first more =>
      refine countLines_append_of_forall (fun line hline => ?_) hends
      rcases List.mem_map.mp hline with ⟨written, hwritten, rfl⟩
      rcases List.mem_map.mp hwritten with ⟨body, hbody, rfl⟩
      have hbody' := h.2 body (List.mem_cons_of_mem _ hbody)
      rw [isQuotedAt, quote?_line h.1 hbody'.1 hbody'.2]
      exact BEq.rfl
  | item level marker task text =>
      -- The draft has one line, so only what comes behind could go on with it.
      refine continuation_append_of_forall [] (fun line hline => ?_) fun line hline hdeep => ?_
      · exact absurd hline List.not_mem_nil
      · exact hends line hline (of_decide_eq_true hdeep)
  | rule => rfl
  | table header separator rows =>
      refine countLines_append_of_forall (fun line hline => ?_) hends
      rcases List.mem_map.mp hline with ⟨row, hrow, rfl⟩
      rcases List.mem_map.mp hrow with ⟨cells, hcells, rfl⟩
      exact isRow_writeRow (h.2.2 cells (List.mem_cons_of_mem _ hcells))

theorem isBody_writeRow {cells : List Text} (h : Table.IsCells cells) :
    (Table.writeRow cells).IsBody := by
  refine ⟨fun hmem => ?_, fun hlast => ?_⟩
  · rcases List.mem_append.mp hmem with hmem | hmem
    · rcases List.mem_cons.mp hmem with heq | hmem
      · exact absurd heq (by decide)
      · rcases Text.mem_joinWith hmem with heq | ⟨cell, hcell, hmem⟩
        · exact absurd heq (by decide)
        · exact (h.2.2 cell hcell).2 hmem
    · exact absurd (List.mem_singleton.mp hmem) (by decide)
  · rw [Table.writeRow, List.getLast?_concat] at hlast
    exact absurd (Option.some.inj hlast) (by decide)

-- By cases twice: the first line is written in another way than those behind it.
theorem isBody_of_mem_lines {draft : Draft} (h : draft.Sound) :
    ∀ line ∈ draft.lines, line.IsBody := by
  intro line hline
  rcases List.mem_cons.mp hline with rfl | hmore
  · cases draft with
    | heading level text =>
        have htext := Text.isBody_of_getLast? h.2.2.1 fun c hc => (h.2.2.2 c hc).1
        exact htext.append _ ' ' (Text.not_mem_replicate (by decide) _) (by decide) (by decide)
    | paragraph first more => exact (h first List.mem_cons_self).1
    | fence info body =>
        have hinfo := Text.isBody_of_getLast? h.1.2.1
          (h.1.1 ▸ Text.not_isBlank_getLast?_trim info)
        exact hinfo.append ['\x60', '\x60'] '\x60' (by decide) (by decide) (by decide)
    | quote depth first more =>
        exact (h.2 first List.mem_cons_self).1.append _ ' '
          (Text.not_mem_replicate (by decide) _) (by decide) (by decide)
    | item level marker task text => exact item_isBody h.1 h.2.1 level task
    | rule => exact ⟨by decide, by decide⟩
    | table header separator rows => exact isBody_writeRow (h.2.2 header List.mem_cons_self)
  · cases draft with
    | heading level text => exact absurd hmore List.not_mem_nil
    | paragraph first more => exact (h line (List.mem_cons_of_mem _ hmore)).1
    | fence info body =>
        rcases List.mem_append.mp hmore with hbody | hticks
        · exact (h.2 line hbody).1
        · rw [List.mem_singleton.mp hticks]
          exact ⟨by decide, by decide⟩
    | quote depth first more =>
        rcases List.mem_map.mp hmore with ⟨body, hbody, rfl⟩
        exact (h.2 body (List.mem_cons_of_mem _ hbody)).1.append _ ' '
          (Text.not_mem_replicate (by decide) _) (by decide) (by decide)
    | item level marker task text => exact absurd hmore List.not_mem_nil
    | rule => exact absurd hmore List.not_mem_nil
    | table header separator rows =>
        rcases List.mem_map.mp hmore with ⟨cells, hcells, rfl⟩
        exact isBody_writeRow (h.2.2 cells (List.mem_cons_of_mem _ hcells))

/-- The block without its place among the blocks around it. -/
def cut (draft : Draft) : Block :=
  { draft.block with level := if draft.kind.isItem then 0 else draft.level }

/-- What the lines of the draft open is its block. -/
theorem block_opening {draft : Draft} (h : draft.Sound) :
    draft.opening.block (endLine draft.first) (draft.more.map endLine) = draft.cut := by
  have hlines := isBody_of_mem_lines h
  have hsource : (endLine draft.first :: draft.more.map endLine).flatten = draft.source := by
    rw [source, lines, List.flatMap_def, List.map_cons]
  cases draft with
  | heading level text =>
      exact congrArg (fun source => Block.mk (.heading level) source text 0) hsource
  | paragraph first more =>
      have hcontent := contentOf_map_endLine hlines
      exact congrArg₂ (fun source content => Block.mk .paragraph source content 0) hsource hcontent
  | fence info body =>
      have hcontent : Opening.contentOf (body.map endLine) = Text.joinWith '\n' body :=
        contentOf_map_endLine fun line hline =>
          hlines line (List.mem_cons_of_mem _ (List.mem_append_left _ hline))
      have hblock := Opening.block_fence ⟨'\x60', 3, info? info⟩ (endLine (fence info body).first)
        (body.map endLine) (closedBy_ticks (info? info))
      rw [more, List.map_append] at hsource ⊢
      exact hblock.trans (congrArg₂
        (fun source content => Block.mk (.fence (info? info) true) source content 0)
        hsource hcontent)
  | quote depth first more =>
      have hquoted : ((quote depth first more).more.map endLine).map Opening.quotedText = more := by
        rw [Draft.more, List.map_map, List.map_map]
        refine (List.map_congr_left (g := id) fun line hline => ?_).trans (List.map_id more)
        have hline' := h.2 line (List.mem_cons_of_mem _ hline)
        rw [Function.comp_apply, Function.comp_apply, Opening.quotedText,
          quote?_line h.1 hline'.1 hline'.2]
        rfl
      simp only [opening, Opening.block, hquoted, hsource]
      rfl
  | item level marker task text =>
      exact congrArg (fun source => Block.mk (.listItem marker (2 * level) task) source text 0)
        hsource
  | rule => exact congrArg (fun source => Block.mk .rule source [] 0) hsource
  | table header separator rows =>
      have hcontent := contentOf_map_endLine hlines
      exact congrArg₂ (fun source content => Block.mk .table source content 0) hsource hcontent

/-- A draft is read as its block, if the lines behind it do not go on with it. -/
theorem blocksOfLines_draft {draft : Draft} (h : draft.Sound) {rest : List Text}
    (hends : draft.EndsBefore rest) :
    blocksOfLines (draft.lines.map endLine ++ rest) = draft.cut :: blocksOfLines rest := by
  have hextent := extent_more h hends
  rw [← List.length_map endLine] at hextent
  rw [lines, List.map_cons, List.cons_append, blocksOfLines, ofLine_first h rest, hextent,
    List.take_left, List.drop_left, block_opening h]

end Draft

end ChatMarkup
