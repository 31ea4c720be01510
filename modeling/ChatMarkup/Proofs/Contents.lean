import ChatMarkup.Document.Basic
import ChatMarkup.Proofs.Boundary
import ChatMarkup.Proofs.Lines
import ChatMarkup.Proofs.Nesting

/-!
# What Blocks Say

The content of a block, line by line.

The content of a block is put together from its lines. How much of a line is
left in it differs from block to block: a paragraph keeps the whole line, a
heading loses its signs at both ends, an item its marker, and a quote its
brackets on every line. But nothing is added and nothing changes places. A
block that holds text has one text for each of its lines, and every text is a
sublist of its line, without the end of the line.

This says enough to count lines, and to know which characters a content can
hold. No line feed is in a text, so the content has one between any two lines.

## Main definitions

* `Opening.Reads`: The opening is what was read from the line.
* `Block.Kind.holdsText`: The block has a content that is shown.
* `Block.Cut`: The block was cut off from a line and the lines behind it.
* `SaysLines`: The texts are what the lines say.

## Theorems

* `Opening.reads_ofLine`: What a line opens was read from it.
* `heading?_sublist`, `item?_sublist`, `quote?_sublist`: What is read from a line
  is part of it.
* `exists_cut`: A block of a document was cut off from lines of the text.
* `Block.Cut.exists_texts`: A block that holds text says something for each of
  its lines.
* `Block.Cut.table`: A table consists of rows, and says all of them.
-/

namespace ChatMarkup

namespace Text

/-! ### Parts of a line -/

theorem dropEndWhile_sublist (p : Char → Bool) (s : Text) : (dropEndWhile p s).Sublist s := by
  have h := (List.dropWhile_sublist p (l := s.reverse)).reverse
  rwa [List.reverse_reverse] at h

theorem trim_sublist (s : Text) : (trim s).Sublist s :=
  (dropEndWhile_sublist _ _).trans (List.dropWhile_sublist _)

theorem mem_dropWhile {p : Char → Bool} {c : Char} {s : Text} (hc : p c = false) (h : c ∈ s) :
    c ∈ s.dropWhile p := by
  have hparts : c ∈ s.takeWhile p ++ s.dropWhile p := by rwa [List.takeWhile_append_dropWhile]
  refine (List.mem_append.mp hparts).resolve_left fun hmem => ?_
  rw [List.mem_takeWhile_imp hmem] at hc
  exact Bool.noConfusion hc

/-- Trimming leaves everything that is not blank. -/
theorem mem_trim {c : Char} {s : Text} (hc : isBlank c = false) (h : c ∈ s) : c ∈ trim s :=
  List.mem_reverse.mpr (mem_dropWhile hc (List.mem_reverse.mpr (mem_dropWhile hc h)))

theorem stripEnd_sublist (line : Text) : (stripEnd line).Sublist line := by
  rcases stripEnd_eq_append line with ⟨ending, hline, _⟩
  conv => rhs; rw [hline]
  exact List.sublist_append_left _ _

/-- Without its end, a line has no line feed. -/
theorem AreLines.not_mem_stripEnd {lines : List Text} (h : AreLines lines) :
    ∀ line ∈ lines, '\n' ∉ stripEnd line := by
  induction h with
  | nil => exact fun line hline => absurd hline List.not_mem_nil
  | last line _ hfeed =>
      exact List.forall_mem_singleton.mpr fun hmem => hfeed ((stripEnd_sublist line).subset hmem)
  | cons body more hfeed _ ih =>
      refine List.forall_mem_cons.mpr ⟨fun hmem => ?_, ih⟩
      rw [stripEnd, dropLastIf_concat, if_pos rfl] at hmem
      rcases dropLastIf_eq_append '\r' body with ⟨dropped, hbody, _⟩
      exact hfeed (hbody ▸ List.mem_append_left _ hmem)

end Text

theorem dropClosingSigns_sublist (s : Text) : (dropClosingSigns s).Sublist s := by
  have hshorter := Text.dropEndWhile_sublist (· == '#') s
  rw [dropClosingSigns]
  split
  · exact List.nil_sublist _
  · split
    · exact (Text.dropEndWhile_sublist _ _).trans hshorter
    · exact List.Sublist.refl _

theorem heading?_sublist {line content : Text} {level : Nat}
    (h : heading? line = some (level, content)) : content.Sublist (Text.stripEnd line) := by
  rw [heading?] at h
  split at h
  · rw [Option.some.injEq, Prod.mk.injEq] at h
    rw [← h.2]
    -- Behind the spaces come the signs, and behind those the text.
    exact (dropClosingSigns_sublist _).trans ((Text.trim_sublist _).trans
      ((List.dropWhile_sublist _).trans (List.dropWhile_sublist _)))
  · exact absurd h (by simp)

/-- A marker is a bullet, or digits and the character that ends them. -/
theorem itemMarker?_cases {body rest : Text} {marker : ItemMarker}
    (h : itemMarker? body = some (marker, rest)) :
    (∃ c, (c = '-' ∨ c = '*' ∨ c = '+') ∧ marker = .bullet c ∧ body = c :: rest) ∨
      ∃ digits d, (d = '.' ∨ d = ')') ∧ marker = .ordered (Text.readDigits 10 digits) d ∧
        body = digits ++ d :: rest := by
  unfold itemMarker? at h
  split at h
  · exact absurd h (by simp)
  · next c after =>
      dsimp only at h
      split at h
      · next hbullet =>
          rw [Option.some.injEq, Prod.mk.injEq] at h
          rw [Bool.or_eq_true, Bool.or_eq_true, beq_iff_eq, beq_iff_eq, beq_iff_eq, or_assoc]
            at hbullet
          exact .inl ⟨c, hbullet, h.1.symm, by rw [h.2]⟩
      · split at h
        · exact absurd h (by simp)
        · split at h
          · exact absurd h (by simp)
          · next d following hdrop =>
              split at h
              · next hdelimiter =>
                  rw [Option.some.injEq, Prod.mk.injEq] at h
                  rw [Bool.or_eq_true, beq_iff_eq, beq_iff_eq] at hdelimiter
                  refine .inr ⟨_, d, hdelimiter, h.1.symm, ?_⟩
                  rw [← h.2, ← hdrop, List.takeWhile_append_dropWhile]
              · exact absurd h (by simp)

theorem itemMarker?_sublist {body rest : Text} {marker : ItemMarker}
    (h : itemMarker? body = some (marker, rest)) : rest.Sublist body := by
  rcases itemMarker?_cases h with ⟨c, _, _, rfl⟩ | ⟨digits, d, _, _, rfl⟩
  · exact List.sublist_cons_self _ _
  · exact (List.sublist_cons_self _ _).trans (List.sublist_append_right _ _)

theorem task_sublist (content : Text) : (task content).2.Sublist content := by
  unfold task
  split
  · next c rest =>
      split
      · exact (List.dropWhile_sublist _).trans (List.sublist_append_right ['[', c, ']'] rest)
      · exact List.Sublist.refl _
  · exact List.Sublist.refl _

/-- An item begins with its marker, and its text stands behind it. -/
theorem exists_itemMarker? {line : Text} {i : Item} (h : item? line = some i) :
    ∃ rest, itemMarker? ((Text.stripEnd line).dropWhile Text.isSpaceOrTab) =
        some (i.marker, rest) ∧ i.content = (task (Text.trimStart rest)).2 := by
  unfold item? at h
  simp only at h
  split at h
  · exact absurd h (by simp)
  · next marker rest hmarker =>
      split at h
      · rw [Option.some.injEq] at h
        exact ⟨rest, by rw [hmarker, ← h], by rw [← h]⟩
      · exact absurd h (by simp)

theorem item?_sublist {line : Text} {i : Item} (h : item? line = some i) :
    i.content.Sublist (Text.stripEnd line) := by
  rcases exists_itemMarker? h with ⟨rest, hmarker, hcontent⟩
  rw [hcontent]
  exact (task_sublist _).trans ((List.dropWhile_sublist _).trans
    ((itemMarker?_sublist hmarker).trans (List.dropWhile_sublist _)))

theorem dropQuoteMarks_sublist (s : Text) : (dropQuoteMarks s).2.Sublist s := by
  fun_induction dropQuoteMarks s with
  | case1 rest ih => exact ih.trans (List.sublist_append_right ['>', ' '] rest)
  | case2 rest _ ih => exact ih.trans (List.sublist_cons_self _ _)
  | case3 => exact List.Sublist.refl _

theorem quote?_sublist {line content : Text} {depth : Nat}
    (h : quote? line = some (depth, content)) : content.Sublist (Text.stripEnd line) := by
  unfold quote? at h
  simp only at h
  split at h
  · split at h
    · exact absurd h (by simp)
    · next depth' rest _ hmarks =>
        rw [Option.some.injEq, Prod.mk.injEq] at h
        rw [← h.2]
        have hrest := dropQuoteMarks_sublist ((Text.stripEnd line).dropWhile (· == ' '))
        rw [hmarks] at hrest
        exact hrest.trans (List.dropWhile_sublist _)
  · exact absurd h (by simp)

theorem quotedText_sublist (line : Text) :
    (Opening.quotedText line).Sublist (Text.stripEnd line) := by
  rw [Opening.quotedText]
  split
  · next hquote => exact quote?_sublist hquote
  · exact List.nil_sublist _

/-! ### What a line opens -/

/-- What is known of the opening is what was read from the line. -/
def Opening.Reads (line : Text) : Opening → Prop
  | .heading level content => heading? line = some (level, content)
  | .item i => item? line = some i
  | .quote depth content => quote? line = some (depth, content)
  | .table => Table.isRow line = true
  | .blank | .fence _ | .rule | .paragraph => True

theorem Table.isRow_of_begins {line : Text} {next : Option Text}
    (h : Table.begins line next = true) : Table.isRow line = true := by
  unfold Table.begins at h
  split at h
  · exact absurd h Bool.false_ne_true
  · simp only [Bool.and_eq_true] at h
    exact h.1.1

/-- What a line opens was read from it. -/
theorem Opening.reads_ofLine (line : Text) (next : Option Text) :
    (Opening.ofLine line next).Reads line := by
  unfold Opening.ofLine
  split
  · trivial
  · split
    · trivial
    · split
      · next hbegins => exact Table.isRow_of_begins hbegins
      · split
        · trivial
        · split
          · next hheading => exact hheading
          · split
            · next hitem => exact hitem
            · split
              · next hquote => exact hquote
              · trivial

/-! ### The lines of a block -/

/-- The block was cut off from a line and the lines behind it. Only its level may
    have been settled since. -/
structure Block.Cut (block : Block) (line : Text) (next : Option Text) (more : List Text) :
    Prop where
  /-- The lines of the block. -/
  lines : Text.lines block.source = line :: more
  kind : block.kind = ((Opening.ofLine line next).block line more).kind
  content : block.content = ((Opening.ofLine line next).block line more).content
  /-- A block goes on for as long as its opening says. -/
  extent : ∃ rest : List Text, next = rest.head? ∧
    more = rest.take ((Opening.ofLine line next).extent rest)

/-- Every block was placed with some levels open. -/
theorem exists_place_of_mem {levels : List Nat} {blocks : List Block} {placed : Block}
    (h : placed ∈ assignLevels levels blocks) :
    ∃ block ∈ blocks, ∃ inner, placed = (block.place inner).1 := by
  induction blocks generalizing levels with
  | nil => exact absurd h List.not_mem_nil
  | cons block rest ih =>
      rw [assignLevels_cons] at h
      rcases List.mem_cons.mp h with rfl | hrest
      · exact ⟨block, List.mem_cons_self, levels, rfl⟩
      · rcases ih hrest with ⟨other, hother, inner, heq⟩
        exact ⟨other, List.mem_cons_of_mem _ hother, inner, heq⟩

theorem exists_cut_of_mem_blocksOfLines {lines : List Text} (hlines : Text.AreLines lines) :
    ∀ block ∈ blocksOfLines lines, ∃ line next more, Block.Cut block line next more := by
  fun_induction blocksOfLines lines with
  | case1 => exact fun block hmem => absurd hmem List.not_mem_nil
  | case2 line rest opening extent ih =>
      rw [← List.take_append_drop extent rest, ← List.cons_append] at hlines
      intro block hmem
      rcases List.mem_cons.mp hmem with rfl | hmem
      · refine ⟨line, rest.head?, rest.take extent, ?_, rfl, rfl, rest, rfl, rfl⟩
        rw [Opening.source_block, Text.lines_flatten hlines.of_append_left]
      · exact ih hlines.of_append_right block hmem

/-- A block of a document was cut off from some of its lines. -/
theorem exists_cut {markdown : Text} {block : Block}
    (h : block ∈ (Document.ofText markdown).blocks) :
    ∃ line next more, block.Cut line next more := by
  rcases exists_place_of_mem h with ⟨cut, hcut, levels, rfl⟩
  rcases exists_cut_of_mem_blocksOfLines (Text.areLines_lines markdown) cut hcut with
    ⟨line, next, more, h⟩
  refine ⟨line, next, more, ?_, ?_, ?_, h.extent⟩
  · rw [source_place, h.lines]
  · rw [kind_place, h.kind]
  · rw [content_place, h.content]

theorem source_subset {markdown : Text} {block : Block}
    (h : block ∈ (Document.ofText markdown).blocks) : block.source ⊆ markdown := by
  conv => rhs; rw [← Document.source_ofText markdown]
  exact fun c hc => List.mem_flatMap.mpr ⟨block, h, hc⟩

/-! ### What the lines say -/

/-- Whether the block has a content that is shown. -/
def Block.Kind.holdsText : Block.Kind → Bool
  | .blank | .fence _ _ | .rule => false
  | .paragraph | .heading _ | .listItem _ _ _ | .quote | .table => true

/-- The texts are what the lines say, each part of its line without the end. -/
def SaysLines (texts lines : List Text) : Prop :=
  List.Forall₂ (fun text line => text.Sublist (Text.stripEnd line)) texts lines

theorem saysLines_map {f : Text → Text} (h : ∀ line, (f line).Sublist (Text.stripEnd line))
    (lines : List Text) : SaysLines (lines.map f) lines := by
  rw [SaysLines, List.forall₂_map_left_iff, List.forall₂_same]
  exact fun line _ => h line

namespace Block.Cut

variable {block : Block} {line : Text} {next : Option Text} {more : List Text}

theorem source_ne_nil (h : block.Cut line next more) : block.source ≠ [] := by
  intro hnil
  have hlines := h.lines
  rw [hnil, Text.lines] at hlines
  exact List.cons_ne_nil _ _ hlines.symm

/-- A block that holds text says something for each of its lines. -/
theorem exists_texts (h : block.Cut line next more) (hholds : block.kind.holdsText = true) :
    ∃ texts, SaysLines texts (Text.lines block.source) ∧
      block.content = Text.joinWith '\n' texts := by
  have hreads := Opening.reads_ofLine line next
  rcases h.extent with ⟨rest, hnext, hmore⟩
  rw [h.lines, h.content]
  rw [h.kind] at hholds
  cases hopening : Opening.ofLine line next with
  | blank => exact absurd hholds (by rw [hopening]; exact Bool.false_ne_true)
  | fence f => exact absurd hholds (by rw [hopening]; exact Bool.false_ne_true)
  | rule => exact absurd hholds (by rw [hopening]; exact Bool.false_ne_true)
  | table => exact ⟨_, saysLines_map (fun _ => List.Sublist.refl _) (line :: more), rfl⟩
  | paragraph => exact ⟨_, saysLines_map (fun _ => List.Sublist.refl _) (line :: more), rfl⟩
  | heading level content =>
      -- A heading has no further lines.
      rw [hopening] at hreads hmore
      have hnone : more = [] := hmore
      exact ⟨[content], by rw [hnone]; exact .cons (heading?_sublist hreads) .nil, rfl⟩
  | item i =>
      rw [hopening] at hreads
      exact ⟨_, .cons (item?_sublist hreads)
        (saysLines_map (fun _ => List.dropWhile_sublist _) more), rfl⟩
  | quote depth content =>
      rw [hopening] at hreads
      exact ⟨_, .cons (quote?_sublist hreads) (saysLines_map quotedText_sublist more), rfl⟩

/-- A table consists of rows, and says all of them. -/
theorem table (h : block.Cut line next more) (hkind : block.kind = .table) :
    block.content = Opening.contentOf (Text.lines block.source) ∧
      ∀ row ∈ Text.lines block.source, Table.isRow row = true := by
  have hreads := Opening.reads_ofLine line next
  rcases h.extent with ⟨rest, hnext, hmore⟩
  rw [h.kind] at hkind
  have hopening : Opening.ofLine line next = .table := by
    cases hopening : Opening.ofLine line next with
    | table => rfl
    | _ => exact absurd hkind (by rw [hopening]; exact Block.Kind.noConfusion)
  rw [hopening] at hreads hmore
  refine ⟨by rw [h.content, h.lines, hopening]; rfl, ?_⟩
  rw [h.lines]
  refine List.forall_mem_cons.mpr ⟨hreads, fun row hrow => ?_⟩
  rw [hmore, Opening.extent, take_countLines] at hrow
  exact List.all_eq_true.mp List.all_takeWhile row hrow

end Block.Cut

end ChatMarkup
