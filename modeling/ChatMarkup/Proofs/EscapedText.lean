import ChatMarkup.Proofs.Boundary
import ChatMarkup.Proofs.EscapedLines
import ChatMarkup.Proofs.Rendering

/-!
# Messages of Escaped Text

Escaped text makes a message that is the text.

Every line of the text is empty or shows something. With their backslashes, the
lines that show something begin paragraphs, and paragraphs go on over lines that
begin one. So the lines fall into groups. A group of empty lines is a block of
blank lines, and a group of others is a paragraph with escaped content. Either
block is written as the lines of its group.

What a message does to the blocks at its ends is then seen on the text. A
paragraph neither begins nor ends with a line feed, and blank lines are nothing
else. So dropping blank blocks is dropping line feeds.

## Main definitions

* `LineOf`: What is needed of a line of escaped text.
* `BlockOf`: The block that a group of lines makes.
* `RichBlock.Tight`: A block that is not blank is written without line feeds at
  its ends.
* `trimFeeds`: A text without line feeds at its ends.

## Theorems

* `exists_groups`: The lines fall into groups, one for each block.
* `renderLines_groups`: The blocks are written as the lines of the text.
* `renderBlocks_of_tight`: A message is what is written, without line feeds at
  its ends.
* `convert_escaped`: Escaped text is shown as the text.
-/

namespace ChatMarkup

open Inline

/-- The text without line feeds at its beginning and its end. -/
def trimFeeds (s : Text) : Text :=
  Text.dropAround (· == '\n') s

/-! ### Groups of lines -/

/-- The line says the text `body`, which is empty or shows something, with
    backslashes. -/
structure LineOf (body line : Text) : Prop where
  noFeed : '\n' ∉ body
  text : body = [] ∨ Text.allBlank body = false
  escaped : Escaped [] body (Text.stripEnd line)
  allBlank : Text.allBlank line = Text.allBlank body
  ofLine : Text.allBlank body = false → ∀ next, Opening.ofLine line next = .paragraph

theorem EscapedLine.lineOf {line line' : Text} (h : EscapedLine [] line line')
    (hreturn : '\r' ∉ line)
    (htext : Text.stripEnd line = [] ∨ Text.allBlank line = false) :
    LineOf (Text.stripEnd line) line' := by
  have hblank := Text.allBlank_stripEnd line
  refine ⟨(h.stripEnd hreturn).2, ?_, (h.stripEnd hreturn).1, ?_, fun hbody => ?_⟩
  · rw [hblank]
    exact htext
  · rw [h.allBlank, hblank]
  · rw [hblank] at hbody
    exact h.ofLine hreturn hbody

/-- The block that the texts of a group of lines make. -/
inductive BlockOf : List Text → Block → Prop
  /-- Empty lines are blank lines. -/
  | gap {source : Text} :
      BlockOf (List.replicate (Block.lineCount source) []) ⟨.blank, source, [], 0⟩
  /-- Other lines are a paragraph. -/
  | text {bodies : List Text} {source content : Text} : bodies ≠ [] →
      (∀ body ∈ bodies, body ≠ [] ∧ '\n' ∉ body) →
      Escaped [] (Text.joinWith '\n' bodies) content →
      BlockOf bodies ⟨.paragraph, source, content, 0⟩

/-- The lines with which a paragraph goes on begin paragraphs. -/
theorem mem_take_continuation {admits : Text → Bool} {rest : List Text} {line : Text}
    (h : line ∈ rest.take (continuation admits rest)) :
    ∃ next, Opening.ofLine line next = .paragraph := by
  induction rest with
  | nil => exact absurd h (by simp)
  | cons first rest ih =>
      rw [continuation_cons] at h
      split at h
      · next hgoes =>
          rw [Bool.and_eq_true, beq_iff_eq] at hgoes
          rcases List.mem_cons.mp h with rfl | hmore
          · exact ⟨_, hgoes.2⟩
          · exact ih hmore
      · exact absurd h (by simp)

theorem LineOf.eq_nil {body line : Text} (h : LineOf body line)
    (hblank : Text.allBlank line = true) : body = [] :=
  h.text.resolve_right fun htext => absurd (htext.symm.trans (h.allBlank.symm.trans hblank))
    (by decide)

theorem LineOf.ne_nil {body line : Text} (h : LineOf body line)
    (hopens : ∃ next, Opening.ofLine line next = .paragraph) : body ≠ [] := by
  rintro rfl
  rcases hopens with ⟨next, hnext⟩
  have hblank : Text.allBlank line = true := h.allBlank
  rw [Opening.ofLine, if_pos hblank] at hnext
  exact Opening.noConfusion hnext

/-- Blank lines at the beginning make a block of empty lines. -/
theorem blockOf_gap {line : Text} {rest : List Text} {body : Text} {more : List Text}
    (hline : LineOf body line) (hmore : List.Forall₂ LineOf more rest)
    (hlines : Text.AreLines (line :: rest)) (hblank : Text.allBlank line = true) :
    BlockOf (body :: more.take (countLines Text.allBlank rest))
      (Opening.blank.block line (rest.take (countLines Text.allBlank rest))) := by
  rw [take_countLines]
  have hgroup := List.forall₂_take (countLines Text.allBlank rest) hmore
  rw [take_countLines] at hgroup
  -- All the lines are blank, and so all the texts are empty.
  have hempty : ∀ other ∈ body :: more.take (countLines Text.allBlank rest), other = [] :=
    forall_mem_of_forall₂ (.cons hline hgroup) (fun _ _ h => h.eq_nil)
      (List.forall_mem_cons.mpr ⟨hblank, fun other hother =>
        List.all_eq_true.mp List.all_takeWhile other hother⟩)
  have hprefix : Text.AreLines (line :: rest.takeWhile Text.allBlank) := by
    rw [← List.takeWhile_append_dropWhile (p := Text.allBlank) (l := rest)] at hlines
    exact hlines.of_append_left
  have hcount : Block.lineCount (line :: rest.takeWhile Text.allBlank).flatten =
      (body :: more.take (countLines Text.allBlank rest)).length := by
    rw [Block.lineCount, Text.lines_flatten hprefix, List.length_cons, List.length_cons,
      hgroup.length_eq]
  rw [List.eq_replicate_iff.mpr ⟨hcount.symm, hempty⟩]
  exact .gap

/-- Lines that are not blank make a paragraph. -/
theorem blockOf_text {line : Text} {rest : List Text} {body : Text} {more : List Text}
    (hline : LineOf body line) (hmore : List.Forall₂ LineOf more rest) {next : Option Text}
    (hopens : Opening.ofLine line next = .paragraph) :
    BlockOf (body :: more.take (continuation (fun _ => true) rest))
      (Opening.paragraph.block line (rest.take (continuation (fun _ => true) rest))) := by
  have hgroup := List.Forall₂.cons hline
    (List.forall₂_take (continuation (fun _ => true) rest) hmore)
  have hshow : ∀ other ∈ body :: more.take (continuation (fun _ => true) rest),
      other ≠ [] ∧ '\n' ∉ other :=
    forall_mem_of_forall₂ hgroup (fun _ _ h hnext => ⟨h.ne_nil hnext, h.noFeed⟩)
      (List.forall_mem_cons.mpr ⟨⟨next, hopens⟩, fun _ hother => mem_take_continuation hother⟩)
  refine .text (List.cons_ne_nil _ _) hshow (Escaped.joinWith ?_)
  exact List.forall₂_map_right_iff.mpr (hgroup.imp fun _ _ h => h.escaped)

/-- The texts of the lines fall into groups, one for each block. -/
theorem exists_groups {bodies lines : List Text} (h : List.Forall₂ LineOf bodies lines)
    (hlines : Text.AreLines lines) :
    ∃ groups, groups.flatten = bodies ∧ List.Forall₂ BlockOf groups (blocksOfLines lines) := by
  fun_induction blocksOfLines lines generalizing bodies with
  | case1 =>
      cases h
      exact ⟨[], rfl, .nil⟩
  | case2 line rest opening extent =>
      rename_i ih
      cases h with
      | @cons body _ more _ hline hmore =>
          have hsplit : line :: rest = (line :: rest.take extent) ++ rest.drop extent := by
            rw [List.cons_append, List.take_append_drop]
          have hrest : Text.AreLines (rest.drop extent) := by
            rw [hsplit] at hlines
            exact hlines.of_append_right
          rcases ih (List.forall₂_drop extent hmore) hrest with ⟨groups, hflat, hgroups⟩
          refine ⟨(body :: more.take extent) :: groups, ?_, .cons ?_ hgroups⟩
          · rw [List.flatten_cons, hflat, List.cons_append, List.take_append_drop]
          · -- It remains to see what the first group makes.
            cases hblank : Text.allBlank line with
            | true =>
                have hopening : opening = .blank := by
                  simp only [opening, Opening.ofLine, hblank, if_true]
                have hextent : extent = countLines Text.allBlank rest := by
                  simp only [extent, hopening, Opening.extent]
                rw [hopening, hextent]
                exact blockOf_gap hline hmore hlines hblank
            | false =>
                have hopening : opening = .paragraph :=
                  hline.ofLine (hline.allBlank.symm.trans hblank) rest.head?
                have hextent : extent = continuation (fun _ => true) rest := by
                  simp only [extent, hopening, Opening.extent]
                rw [hopening, hextent]
                exact blockOf_text hline hmore hopening

/-! ### How the groups are written -/

/-- A block is written as the lines of its group. -/
theorem BlockOf.render {bodies : List Text} {block : Block} (h : BlockOf bodies block)
    (config : Config) (numbering : Numbering) :
    (block.read config).render config numbering = bodies.flatMap endLine := by
  cases h with
  | gap =>
      rw [List.flatMap_replicate, show endLine [] = ['\n'] from rfl,
        List.flatten_replicate_singleton]
      rfl
  | text hne _ hcontent =>
      rw [flatMap_endLine_eq hne, ← hcontent.convertInline config]
      rfl

/-- Without list items there are no levels to assign. -/
theorem assignLevels_groups {groups : List (List Text)} {blocks : List Block}
    (h : List.Forall₂ BlockOf groups blocks) (levels : List Nat) :
    assignLevels levels blocks = blocks := by
  induction h generalizing levels with
  | nil => rfl
  | cons hblock _ ih =>
      rw [assignLevels_cons, ih]
      cases hblock <;> rfl

/-- The blocks are written as the lines of the text. -/
theorem renderLines_groups {groups : List (List Text)} {blocks : List Block}
    (h : List.Forall₂ BlockOf groups blocks) (config : Config) (numbering : Numbering) :
    renderLines config numbering (blocks.map (Block.read config)) =
      groups.flatten.flatMap endLine := by
  induction h generalizing numbering with
  | nil => rfl
  | cons hblock _ ih =>
      rw [List.map_cons, renderLines, hblock.render, ih, List.flatten_cons, List.flatMap_append]

/-! ### Line feeds at the ends -/

/-- A blank block is written as line feeds, and any other without line feeds at
    the ends of its text. -/
structure RichBlock.Tight (config : Config) (block : RichBlock) : Prop where
  blank : block.isBlank = true → ∀ numbering, ∀ c ∈ block.render config numbering,
    (c == '\n') = true
  text : block.isBlank = false → ∀ numbering, ∃ text,
    block.render config numbering = endLine text ∧
      (∃ c rest, text = c :: rest ∧ (c == '\n') = false) ∧
      ∃ front c, text = front ++ [c] ∧ (c == '\n') = false

section Tight

variable {config : Config} {xs : List RichBlock}

/-- Dropping blank blocks at the beginning is dropping line feeds. -/
theorem renderLines_dropBlanks (h : ∀ block ∈ xs, block.Tight config) (numbering : Numbering) :
    renderLines config numbering (xs.dropWhile RichBlock.isBlank) =
      (renderLines config numbering xs).dropWhile (· == '\n') := by
  induction xs with
  | nil => rfl
  | cons block xs ih =>
      rw [List.forall_mem_cons] at h
      rw [List.dropWhile_cons]
      split
      · next hblank =>
          rw [ih h.2, renderLines, after_of_isBlank hblank,
            List.dropWhile_append_of_pos (h.1.blank hblank numbering)]
      · next hblank =>
          rcases h.1.text (Bool.eq_false_iff.mpr hblank) numbering with
            ⟨text, hrender, ⟨c, rest, rfl, hc⟩, -⟩
          rw [renderLines, hrender, endLine, List.cons_append, List.cons_append,
            List.dropWhile_cons, hc, if_neg Bool.false_ne_true]

theorem dropBlanksAtEnd_concat (block : RichBlock) :
    dropBlanksAtEnd (xs ++ [block]) =
      if block.isBlank then dropBlanksAtEnd xs else xs ++ [block] := by
  rw [dropBlanksAtEnd, List.reverse_concat, List.dropWhile_cons]
  split
  · rfl
  · rw [List.reverse_cons, List.reverse_reverse]

/-- Dropping blank blocks at the end is dropping line feeds, of which the last
    line has one more. -/
theorem renderLines_dropBlanksAtEnd (h : ∀ block ∈ xs, block.Tight config)
    (numbering : Numbering) :
    Text.dropLastIf '\n' (renderLines config numbering (dropBlanksAtEnd xs)) =
      Text.dropEndWhile (· == '\n') (renderLines config numbering xs) := by
  induction xs using List.reverseRecOn with
  | nil => rfl
  | append_singleton xs block ih =>
      have hxs : ∀ other ∈ xs, other.Tight config :=
        fun other hother => h other (List.mem_append_left _ hother)
      have hblock := h block (List.mem_append_right _ List.mem_cons_self)
      rw [dropBlanksAtEnd_concat]
      split
      · next hblank =>
          rw [ih hxs, renderLines_append, renderLines, renderLines, List.append_nil,
            Text.dropEndWhile_append_of_pos _ (hblock.blank hblank _)]
      · next hblank =>
          rw [renderLines_append, renderLines, renderLines, List.append_nil]
          rcases hblock.text (Bool.eq_false_iff.mpr hblank)
            (numberingAfter config numbering xs) with ⟨text, hrender, -, front, c, rfl, hc⟩
          have hends : ∀ d ∈ (renderLines config numbering xs ++ (front ++ [c])).getLast?,
              (d == '\n') = false := by
            intro d hd
            rw [← List.append_assoc, List.getLast?_concat] at hd
            rw [← Option.some.inj hd]
            exact hc
          have hfeed : ∀ d ∈ ['\n'], (d == '\n') = true := List.forall_mem_singleton.mpr rfl
          rw [hrender, endLine, ← List.append_assoc, Text.dropLastIf_concat, if_pos rfl,
            Text.dropEndWhile_append_of_pos _ hfeed, Text.dropEndWhile_eq_self hends]

/-- A message is what is written, without line feeds at its ends. -/
theorem renderBlocks_of_tight (h : ∀ block ∈ xs, block.Tight config) :
    renderBlocks config xs = trimFeeds (renderLines config .start xs) := by
  have hdropped : ∀ block ∈ xs.dropWhile RichBlock.isBlank, block.Tight config :=
    fun block hblock => h block ((List.dropWhile_sublist _).subset hblock)
  change Text.dropLastIf '\n' (renderLines config .start
    (dropBlanksAtEnd (xs.dropWhile RichBlock.isBlank))) = _
  rw [renderLines_dropBlanksAtEnd hdropped, renderLines_dropBlanks h]
  rfl

end Tight

theorem exists_concat_joinWith {bodies : List Text} (hne : bodies ≠ [])
    (h : ∀ body ∈ bodies, body ≠ [] ∧ '\n' ∉ body) :
    ∃ front c, Text.joinWith '\n' bodies = front ++ [c] ∧ (c == '\n') = false := by
  induction bodies with
  | nil => exact absurd rfl hne
  | cons body bodies ih =>
      rw [List.forall_mem_cons] at h
      cases bodies with
      | nil =>
          rcases List.eq_nil_or_concat body with hnil | ⟨front, c, hbody⟩
          · exact absurd hnil h.1.1
          · refine ⟨front, c, by rw [Text.joinWith, hbody, List.concat_eq_append], ?_⟩
            rw [beq_eq_false_iff_ne]
            rintro rfl
            exact h.1.2 (by rw [hbody]; simp)
      | cons next bodies =>
          rcases ih (List.cons_ne_nil _ _) h.2 with ⟨front, c, hjoin, hc⟩
          exact ⟨body ++ '\n' :: front, c, by rw [Text.joinWith, hjoin, List.append_assoc,
            List.cons_append], hc⟩

theorem exists_cons_joinWith {bodies : List Text} (hne : bodies ≠ [])
    (h : ∀ body ∈ bodies, body ≠ [] ∧ '\n' ∉ body) :
    ∃ c rest, Text.joinWith '\n' bodies = c :: rest ∧ (c == '\n') = false := by
  rcases bodies with _ | ⟨_ | ⟨c, body⟩, bodies⟩
  · exact absurd rfl hne
  · exact absurd rfl (h [] List.mem_cons_self).1
  · have hc : (c == '\n') = false := by
      rw [beq_eq_false_iff_ne]
      rintro rfl
      exact (h _ List.mem_cons_self).2 List.mem_cons_self
    cases bodies with
    | nil => exact ⟨c, body, rfl, hc⟩
    | cons next bodies => exact ⟨c, _, rfl, hc⟩

theorem BlockOf.tight {bodies : List Text} {block : Block} (h : BlockOf bodies block)
    (config : Config) : (block.read config).Tight config := by
  have hrender := h.render config
  cases h with
  | gap =>
      refine ⟨fun _ numbering c hc => ?_, fun hblank => absurd hblank.symm Bool.false_ne_true⟩
      rw [hrender, List.flatMap_replicate, show endLine [] = ['\n'] from rfl,
        List.flatten_replicate_singleton] at hc
      rw [List.eq_of_mem_replicate hc]
      rfl
  | text hne hbodies _ =>
      refine ⟨fun hblank => absurd hblank Bool.false_ne_true, fun _ numbering => ?_⟩
      exact ⟨_, (hrender numbering).trans (flatMap_endLine_eq hne),
        exists_cons_joinWith hne hbodies, exists_concat_joinWith hne hbodies⟩

theorem tight_groups {groups : List (List Text)} {blocks : List Block}
    (h : List.Forall₂ BlockOf groups blocks) (config : Config) :
    ∀ block ∈ blocks.map (Block.read config), block.Tight config := by
  induction h with
  | nil => exact fun block hblock => absurd hblock List.not_mem_nil
  | cons hblock _ ih => exact List.forall_mem_cons.mpr ⟨hblock.tight config, ih⟩

/-! ### The message -/

/-- Lines that are written with ends are the text, with one line feed more if the
    last line had none. -/
theorem exists_flatMap_endLine {lines : List Text} (h : Text.AreLines lines)
    (hreturn : ∀ line ∈ lines, '\r' ∉ line) :
    ∃ feeds : Text, (lines.map Text.stripEnd).flatMap endLine = lines.flatten ++ feeds ∧
      ∀ c ∈ feeds, (c == '\n') = true := by
  induction h with
  | nil => exact ⟨[], rfl, fun c hc => absurd hc List.not_mem_nil⟩
  | last line _ hfeed =>
      have hstrip := EscapedLine.stripEnd_append hfeed (hreturn line List.mem_cons_self) (.inl rfl)
      rw [List.append_nil] at hstrip
      refine ⟨['\n'], ?_, List.forall_mem_singleton.mpr rfl⟩
      rw [List.map_singleton, hstrip, List.flatMap_singleton, List.flatten_singleton, endLine]
  | cons body more hfeed _ ih =>
      rw [List.forall_mem_cons] at hreturn
      rcases ih hreturn.2 with ⟨feeds, hmore, hfeeds⟩
      have hplain : '\r' ∉ body := fun hmem => hreturn.1 (List.mem_append_left _ hmem)
      refine ⟨feeds, ?_, hfeeds⟩
      rw [List.map_cons, EscapedLine.stripEnd_append hfeed hplain (.inr rfl), List.flatMap_cons,
        hmore, List.flatten_cons, List.append_assoc, endLine]

/-- Escaping is complete. A text without carriage returns, whose lines are empty
    or show something, can have a backslash before any punctuation and has one
    wherever something could be read as markup. Then its message is the text
    without line feeds at the ends, and as inline markup it is the text, under
    every configuration. -/
theorem convert_escaped {s e : Text} (hreturn : '\r' ∉ s)
    (hlines : ∀ line ∈ Text.lines s, Text.stripEnd line = [] ∨ Text.allBlank line = false)
    (h : Escaped [] s e) (config : Config) :
    convert config e = trimFeeds s ∧ convertInline config e = s := by
  refine ⟨?_, h.convertInline config⟩
  have hplain : ∀ line ∈ Text.lines s, '\r' ∉ line :=
    fun _ hline => Text.not_mem_of_mem_lines hreturn hline
  have hbodies : List.Forall₂ LineOf ((Text.lines s).map Text.stripEnd) (Text.lines e) := by
    rw [List.forall₂_map_left_iff]
    have hall := (List.forall₂_and_left _ _).mpr
      ⟨fun line hline => And.intro (hplain line hline) (hlines line hline), h.lines⟩
    exact hall.imp fun _ _ hline => hline.2.lineOf hline.1.1 hline.1.2
  rcases exists_groups hbodies (Text.areLines_lines e) with ⟨groups, hflat, hgroups⟩
  rcases exists_flatMap_endLine (Text.areLines_lines s) hplain with ⟨feeds, hwritten, hfeeds⟩
  calc convert config e
      = renderBlocks config ((blocksOfLines (Text.lines e)).map (Block.read config)) := by
        rw [convert, Document.convert, Document.read, Document.ofText,
          assignLevels_groups hgroups]
    _ = trimFeeds (groups.flatten.flatMap endLine) := by
        rw [renderBlocks_of_tight (tight_groups hgroups config), renderLines_groups hgroups]
    _ = trimFeeds (s ++ feeds) := by
        rw [hflat, hwritten, Text.flatten_lines]
    _ = trimFeeds s := Text.dropAround_append_of_pos s hfeeds

/-- Marks of headings, lists, emphasis and links, an exclamation mark that did not
    need its backslash, and blank lines in between and at the ends. -/
theorem convert_escaped_every_mark :
    convert {} "\n\\# a \\*b\\*\n 12\\. \\[c](d\\_e)\n\n\\- f\\!\n\n".toList =
        "# a *b*\n 12. [c](d_e)\n\n- f!".toList ∧
      convertInline {} "\n\\# a \\*b\\*\n 12\\. \\[c](d\\_e)\n\n\\- f\\!\n\n".toList =
        "\n# a *b*\n 12. [c](d_e)\n\n- f!\n\n".toList := by
  have hescaped := escaped_escapeFrom (· == '!') [] "\n# a *b*\n 12. [c](d_e)\n\n- f!\n\n".toList
  have hshown := convert_escaped (by decide) (by decide) hescaped {}
  have hwritten : escapeFrom (· == '!') [] "\n# a *b*\n 12. [c](d_e)\n\n- f!\n\n".toList =
      "\n\\# a \\*b\\*\n 12\\. \\[c](d\\_e)\n\n\\- f\\!\n\n".toList := by
    decide +kernel
  rw [hwritten] at hshown
  exact ⟨hshown.1.trans (by decide), hshown.2⟩

end ChatMarkup
