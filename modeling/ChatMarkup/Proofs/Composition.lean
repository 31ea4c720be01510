import ChatMarkup.Proofs.Alike
import ChatMarkup.Proofs.Boundary
import ChatMarkup.Proofs.Cutting

/-!
# Messages of Texts in a Row

The message of two texts with blank lines between them, put together from the
messages of the two.

Three things are carried from block to block: how a block looks ahead to the
lines after it, which list levels are open, and the numbering of lists. Blank
lines stop every look ahead except that of fenced code which is still open.
They leave levels and numbering alone, so these are cut only if a block on one
side of the blank lines is no list item, or if lists are not converted and
neither shows.

The first text lacks the end of its last line, and gets it from the line feed
that follows. That changes nothing that is shown, unless the text ends with a
line feed or a carriage return of its own, which would become part of the
blank lines or of the line end.

## Main definitions

* `Document.endsOpen`: The last block is fenced code that is not closed.
* `Document.endsInItem`, `Document.beginsWithItem`: The last or the first block
  is a list item.

## Theorems

* `sameLines_append_feed`: Ending the last line changes nothing that is shown.
* `blocksOfLines_gap`: Blank lines in front of text are one block.
* `numbering_cut`: Levels and numbering are not carried across.
* `blocksOfLines_parts`: The blocks of the two texts, with the blank lines.
* `renderBlocks_blankLines`: The message of the blocks, taken apart.
* `convert_append_blankLines`: The message of two texts with blank lines
  between them.
-/

namespace ChatMarkup

namespace Document

/-- Whether the last block is fenced code that is not closed. -/
def endsOpen (document : Document) : Bool :=
  document.blocks.getLast?.any fun block => block.kind.isOpenFence

/-- Whether the last block is a list item. -/
def endsInItem (document : Document) : Bool :=
  document.blocks.getLast?.any fun block => block.kind.isItem

/-- Whether the first block is a list item. -/
def beginsWithItem (document : Document) : Bool :=
  document.blocks.head?.any fun block => block.kind.isItem

end Document

/-! ### The end of the last line -/

/-- A line feed after a text that does not end with one goes to its last
    line. -/
theorem lines_append_feed {s : Text} {c : Char} (h : s.getLast? = some c) (hc : c ≠ '\n') :
    ∃ front line, Text.lines s = front ++ [line] ∧
      Text.lines (s ++ ['\n']) = front ++ [line ++ ['\n']] ∧ line.getLast? = some c := by
  induction s with
  | nil => exact absurd h (by simp)
  | cons d rest ih =>
      cases rest with
      | nil =>
          have hdc : d = c := by simpa using h
          subst hdc
          refine ⟨[], [d], ?_, ?_, rfl⟩
          · rw [Text.lines, if_neg hc]
            rfl
          · rw [List.cons_append, Text.lines, if_neg hc]
            rfl
      | cons e rest =>
          rw [List.getLast?_cons_cons] at h
          rcases ih h with ⟨front, line, hlines, hfeed, hlast⟩
          by_cases hd : d = '\n'
          · refine ⟨[d] :: front, line, ?_, ?_, hlast⟩
            · rw [Text.lines, if_pos hd, hlines, List.cons_append]
            · rw [List.cons_append, Text.lines, if_pos hd, hfeed, List.cons_append]
          · -- The character joins the first line, which may be the last.
            rcases front with _ | ⟨first, front⟩
            · refine ⟨[], d :: line, ?_, ?_, ?_⟩
              · rw [Text.lines, if_neg hd, hlines]
                rfl
              · rw [List.cons_append, Text.lines, if_neg hd, hfeed]
                rfl
              · rw [List.getLast?_cons, hlast]
                rfl
            · refine ⟨(d :: first) :: front, line, ?_, ?_, hlast⟩
              · rw [Text.lines, if_neg hd, hlines]
                rfl
              · rw [List.cons_append, Text.lines, if_neg hd, hfeed]
                rfl

/-- A line that ends in neither of the two characters of a line end is the same
    line with a line feed. -/
theorem sameLine_append_feed {line : Text} {c : Char} (h : line.getLast? = some c)
    (hfeed : c ≠ '\n') (hreturn : c ≠ '\r') : SameLine (line ++ ['\n']) line := by
  have hplain : line.getLast? ≠ some '\n' := h ▸ fun heq => hfeed (Option.some.inj heq)
  have hplain' : line.getLast? ≠ some '\r' := h ▸ fun heq => hreturn (Option.some.inj heq)
  have hbody : Text.stripEnd (line ++ ['\n']) = line := Text.stripEnd_append_feed hplain'
  refine ⟨?_, ?_⟩
  · rw [SameBody, hbody, Text.stripEnd, Text.dropLastIf_of_ne hplain, Text.dropLastIf_of_ne hplain']
  · rw [codeLine, codeLine, List.getLast?_concat, if_pos rfl, if_neg hplain, hbody]

/-- Ending the last line of a text changes nothing that is shown. -/
theorem sameLines_append_feed {s : Text} {c : Char} (h : s.getLast? = some c) (hfeed : c ≠ '\n')
    (hreturn : c ≠ '\r') :
    List.Forall₂ SameLine (Text.lines (s ++ ['\n'])) (Text.lines s) := by
  rcases lines_append_feed h hfeed with ⟨front, line, hlines, hended, hlast⟩
  rw [hlines, hended]
  have hfront : List.Forall₂ SameLine front front :=
    List.forall₂_same.mpr fun line _ => ⟨rfl, rfl⟩
  exact List.rel_append hfront (.cons (sameLine_append_feed hlast hfeed hreturn) .nil)

/-! ### The blank lines -/

theorem lines_replicate_feed (n : Nat) (s : Text) :
    Text.lines (List.replicate n '\n' ++ s) = List.replicate n ['\n'] ++ Text.lines s := by
  induction n with
  | zero => rfl
  | succ n ih =>
      rw [List.replicate_succ, List.replicate_succ, List.cons_append, List.cons_append, Text.lines,
        if_pos rfl, ih]

/-- A block of blank lines. -/
def blankLines (n : Nat) : Block :=
  ⟨.blank, List.replicate n '\n', [], 0⟩

/-- Blank lines in front of text, or in front of nothing, are one block. -/
theorem blocksOfLines_gap (n : Nat) {rest : List Text}
    (h : ∀ line ∈ rest.head?, Text.allBlank line = false) :
    blocksOfLines (List.replicate (n + 1) ['\n'] ++ rest)
      = blankLines (n + 1) :: blocksOfLines rest := by
  have hopening : ∀ next, Opening.ofLine ['\n'] next = .blank := fun next => rfl
  have hcount : countLines Text.allBlank (List.replicate n ['\n'] ++ rest) = n := by
    rw [countLines_append_of_forall (fun line hline => List.eq_of_mem_replicate hline ▸ rfl) h,
      List.length_replicate]
  have hsource : (['\n'] :: List.replicate n ['\n']).flatten = List.replicate (n + 1) '\n' := by
    rw [← List.replicate_succ, List.flatten_replicate_singleton]
  rw [List.replicate_succ, List.cons_append, blocksOfLines, hopening]
  simp only [Opening.extent, hcount, Opening.block]
  rw [List.take_left' List.length_replicate, List.drop_left' List.length_replicate, hsource]
  rfl

/-! ### The parts -/

/-- The kinds of the blocks of a text are settled by the cutting. -/
theorem map_kind_ofText (markdown : Text) :
    (Document.ofText markdown).blocks.map Block.kind =
      (blocksOfLines (Text.lines markdown)).map Block.kind :=
  map_kind_assignLevels [] _

/-- A last line that is ended changes no kind of block. -/
theorem map_kind_append_feed {a : Text} {c : Char} (hc : a.getLast? = some c) (hfeed : c ≠ '\n')
    (hreturn : c ≠ '\r') :
    (Document.ofText a).blocks.map Block.kind =
      (blocksOfLines (Text.lines (a ++ ['\n']))).map Block.kind := by
  rw [← map_kind_ofText]
  have halike := ofText_congr (sameLines_append_feed hc hfeed hreturn)
  exact (map_eq_of_forall₂ (fun _ _ h => h.kind) halike).symm

section Kinds

variable {blocks others : List Block} (h : blocks.map Block.kind = others.map Block.kind)
  (holds : Block.Kind → Bool)
include h

/-- Blocks of the same kinds are told apart by nothing that is asked of the kind
    of the last. -/
theorem any_getLast?_of_map_kind :
    (blocks.getLast?.any fun block => holds block.kind) =
      others.getLast?.any fun block => holds block.kind := by
  have hlast := congrArg (fun kinds => kinds.getLast?.any holds) h
  rw [List.getLast?_map, List.getLast?_map, Option.any_map, Option.any_map] at hlast
  exact hlast

theorem any_head?_of_map_kind :
    (blocks.head?.any fun block => holds block.kind) =
      others.head?.any fun block => holds block.kind := by
  have hfirst := congrArg (fun kinds => kinds.head?.any holds) h
  rw [List.head?_map, List.head?_map, Option.any_map, Option.any_map] at hfirst
  exact hfirst

end Kinds

theorem map_kind_read (config : Config) (blocks : List Block) :
    (blocks.map (Block.read config)).map RichBlock.kind = blocks.map Block.kind := by
  rw [List.map_map]
  rfl

/-- The last block is there once its level is assigned and its markup read. -/
theorem exists_getLast?_read (config : Config) (levels : List Nat) {blocks : List Block}
    {last : Block} (hlast : blocks.getLast? = some last) (hblank : last.isBlank = false) :
    ∃ rich, ((assignLevels levels blocks).map (Block.read config)).getLast? = some rich ∧
      rich.isBlank = false ∧ rich.kind = last.kind := by
  have hkinds : (((assignLevels levels blocks).map (Block.read config)).map
      RichBlock.kind).getLast? = some last.kind := by
    rw [map_kind_read, map_kind_assignLevels, List.getLast?_map, hlast]
    rfl
  rw [List.getLast?_map, Option.map_eq_some_iff] at hkinds
  rcases hkinds with ⟨rich, hrich, hkind⟩
  exact ⟨rich, hrich, by rw [RichBlock.isBlank, hkind]; exact hblank, hkind⟩

/-- The first block is there once its level is assigned and its markup read. -/
theorem exists_head?_read (config : Config) (levels : List Nat) {blocks : List Block}
    {first : Block} (hfirst : blocks.head? = some first) (hblank : first.isBlank = false) :
    ∃ rich, ((assignLevels levels blocks).map (Block.read config)).head? = some rich ∧
      rich.isBlank = false ∧ rich.kind = first.kind := by
  have hkinds : (((assignLevels levels blocks).map (Block.read config)).map
      RichBlock.kind).head? = some first.kind := by
    rw [map_kind_read, map_kind_assignLevels, List.head?_map, hfirst]
    rfl
  rw [List.head?_map, Option.map_eq_some_iff] at hkinds
  rcases hkinds with ⟨rich, hrich, hkind⟩
  exact ⟨rich, hrich, by rw [RichBlock.isBlank, hkind]; exact hblank, hkind⟩

theorem source_ne_nil_of_mem_read {config : Config} {levels : List Nat} {lines : List Text}
    (h : Text.AreLines lines) :
    ∀ block ∈ (assignLevels levels (blocksOfLines lines)).map (Block.read config),
      block.source ≠ [] := by
  intro block hmem
  rcases List.mem_map.mp hmem with ⟨placed, hplaced, rfl⟩
  have hsource : placed.source ∈ (blocksOfLines lines).map Block.source := by
    rw [← map_source_assignLevels levels]
    exact List.mem_map_of_mem hplaced
  rcases List.mem_map.mp hsource with ⟨cut, hcut, heq⟩
  rw [show (Block.read config placed).source = placed.source from rfl, ← heq]
  exact source_ne_nil_of_mem_blocksOfLines h cut hcut

/-- Without list conversion the level of a list item does not show. -/
theorem sameRendering_place {config : Config} (h : config.convert.lists = false)
    (levels levels' : List Nat) (block : Block) :
    ((block.place levels).1.read config).SameRendering config
      ((block.place levels').1.read config) := by
  obtain ⟨kind, source, content, level⟩ := block
  cases kind with
  | listItem marker indent task =>
      refine ⟨rfl, fun numbering => ?_, fun numbering => ?_⟩
      · simp only [RichBlock.render, Block.read, Block.place, itemMark, h]
        rfl
      · simp only [RichBlock.after, Block.read, Block.place, h]
        rfl
  | blank => exact ⟨rfl, fun _ => rfl, fun _ => rfl⟩
  | paragraph => exact ⟨rfl, fun _ => rfl, fun _ => rfl⟩
  | heading => exact ⟨rfl, fun _ => rfl, fun _ => rfl⟩
  | fence => exact ⟨rfl, fun _ => rfl, fun _ => rfl⟩
  | quote => exact ⟨rfl, fun _ => rfl, fun _ => rfl⟩
  | table => exact ⟨rfl, fun _ => rfl, fun _ => rfl⟩
  | rule => exact ⟨rfl, fun _ => rfl, fun _ => rfl⟩

theorem sameRendering_assignLevels {config : Config} (h : config.convert.lists = false)
    (levels levels' : List Nat) (blocks : List Block) :
    List.Forall₂ (RichBlock.SameRendering config)
      ((assignLevels levels blocks).map (Block.read config))
      ((assignLevels levels' blocks).map (Block.read config)) := by
  induction blocks generalizing levels levels' with
  | nil => exact .nil
  | cons block rest ih =>
      rw [assignLevels_cons, assignLevels_cons, List.map_cons, List.map_cons]
      exact .cons (sameRendering_place h levels levels' block) (ih _ _)

/-- Neither the levels nor the numbering that blocks leave behind show in the
    blocks after them, if one of the two that meet is no list item or lists are
    not converted. -/
theorem numbering_cut {config : Config} {before after : List Block} {last first : Block}
    (hlast : before.getLast? = some last) (hlastBlank : last.isBlank = false)
    (hfirst : after.head? = some first) (hfirstBlank : first.isBlank = false)
    (h : config.convert.lists = false ∨ last.kind.isItem = false ∨ first.kind.isItem = false) :
    let xs := (assignLevels [] before).map (Block.read config)
    let ys := (assignLevels (levelsAfter [] before) after).map (Block.read config)
    renderLines config (numberingAfter config .start (trimBlanks xs)) (trimBlanks ys)
        = renderLines config .start (trimBlanks ys) ∧
      renderBlocks config ys = renderBlocks config ((assignLevels [] after).map (Block.read config))
      := by
  intro xs ys
  rcases h with hlists | hitem | hitem
  · exact ⟨renderLines_of_lists_off hlists _ _ _,
      renderBlocks_congr (sameRendering_assignLevels hlists _ _ _)⟩
  · rcases exists_getLast?_read config [] hlast hlastBlank with ⟨rich, hrich, hblank, hkind⟩
    refine ⟨?_, ?_⟩
    · rw [numberingAfter_of_ends (getLast?_trimBlanks hrich hblank) hblank (hkind ▸ hitem)]
    · simp only [ys, levelsAfter_of_ends hlast hlastBlank hitem]
  · rcases exists_head?_read config (levelsAfter [] before) hfirst hfirstBlank with
      ⟨rich, hrich, hblank, hkind⟩
    refine ⟨?_, ?_⟩
    · exact renderLines_of_begins (head?_trimBlanks hrich hblank) hblank (hkind ▸ hitem) config _ _
    · rcases List.head?_eq_some_iff.mp hfirst with ⟨rest, rfl⟩
      simp only [ys, assignLevels_of_begins hfirstBlank hitem]

/-! ### The whole -/

theorem render_blankLines (config : Config) (numbering : Numbering) (n : Nat) :
    ((blankLines n).read config).render config numbering = List.replicate n '\n' := by
  have hlines := lines_replicate_feed n []
  rw [List.append_nil] at hlines
  simp only [RichBlock.render, Block.read, blankLines, Block.lineCount, hlines]
  rw [show Text.lines [] = [] from rfl, List.append_nil, List.length_replicate]

/-- The blocks of two texts with blank lines between them, before their levels
    are assigned. -/
theorem blocksOfLines_parts {a b : Text} {c : Char} (hc : a.getLast? = some c) (hfeed : c ≠ '\n')
    (n : Nat) {lastLine firstLine : Text} (hlastLine : (Text.lines a).getLast? = some lastLine)
    (hlastText : Text.allBlank lastLine = false)
    (hfirstLine : (Text.lines b).head? = some firstLine)
    (hfirstText : Text.allBlank firstLine = false)
    (hopen : ∀ block, (blocksOfLines (Text.lines (a ++ ['\n']))).getLast? = some block →
      block.kind.isOpenFence = false) :
    blocksOfLines (Text.lines (a ++ ['\n'] ++ List.replicate (n + 1) '\n' ++ b))
        = blocksOfLines (Text.lines (a ++ ['\n'])) ++
            blankLines (n + 1) :: blocksOfLines (Text.lines b) ∧
      (∃ last, (blocksOfLines (Text.lines (a ++ ['\n']))).getLast? = some last ∧
        last.isBlank = false) ∧
      ∃ first, (blocksOfLines (Text.lines b)).head? = some first ∧ first.isBlank = false := by
  rcases lines_append_feed hc hfeed with ⟨front, line, hlines, hended, _⟩
  have hline : line = lastLine := by
    rw [hlines, List.getLast?_concat] at hlastLine
    exact Option.some.inj hlastLine
  have htext : Text.allBlank (line ++ ['\n']) = false := by
    rw [Text.allBlank, List.all_append, ← Text.allBlank, hline, hlastText, Bool.false_and]
  have hlast : (Text.lines (a ++ ['\n'])).getLast? = some (line ++ ['\n']) := by
    rw [hended, List.getLast?_concat]
  rcases List.head?_eq_some_iff.mp hfirstLine with ⟨rest, hb⟩
  have hfirst : ∀ other ∈ (firstLine :: rest).head?, Text.allBlank other = false :=
    fun _ hother => Option.some.inj hother ▸ hfirstText
  refine ⟨?_, getLast?_blocksOfLines hlast htext, ?_⟩
  · rw [List.append_assoc, Text.lines_append _ (Text.whole_append_feed a), lines_replicate_feed, hb,
      List.replicate_succ, List.cons_append,
      blocksOfLines_append (interrupts_of_blank _ rfl) (fun last hmem hblank => ?_) hopen,
      ← List.cons_append, ← List.replicate_succ, blocksOfLines_gap n hfirst]
    -- The line before the blank ones is the last line of the first text.
    rw [hlast, Option.some.injEq] at hmem
    rw [hmem, hblank] at htext
    exact absurd htext (by decide)
  · rw [hb]
    exact head?_blocksOfLines rest hfirstText

/-- Reading and levels, taken apart at blank lines. -/
theorem map_read_blankLines (config : Config) (before after : List Block) (n : Nat) :
    (assignLevels [] (before ++ blankLines n :: after)).map (Block.read config)
      = (assignLevels [] before).map (Block.read config) ++ (blankLines n).read config ::
          (assignLevels (levelsAfter [] before) after).map (Block.read config) := by
  rw [assignLevels_append, assignLevels_cons, List.map_append]
  rfl

/-- The message of the blocks of two sequences of lines with blank lines between
    them, if neither levels nor numbering are carried across. -/
theorem renderBlocks_blankLines {config : Config} {linesBefore linesAfter : List Text}
    (hbefore : Text.AreLines linesBefore) (hafter : Text.AreLines linesAfter) {last first : Block}
    (hlast : (blocksOfLines linesBefore).getLast? = some last) (hlastBlank : last.isBlank = false)
    (hfirst : (blocksOfLines linesAfter).head? = some first) (hfirstBlank : first.isBlank = false)
    (h : config.convert.lists = false ∨ last.kind.isItem = false ∨ first.kind.isItem = false)
    (n : Nat) :
    renderBlocks config ((assignLevels []
        (blocksOfLines linesBefore ++ blankLines n :: blocksOfLines linesAfter)).map
          (Block.read config))
      = renderBlocks config ((assignLevels [] (blocksOfLines linesBefore)).map
            (Block.read config)) ++
          '\n' :: (List.replicate n '\n' ++
            renderBlocks config ((assignLevels [] (blocksOfLines linesAfter)).map
              (Block.read config))) := by
  rcases numbering_cut hlast hlastBlank hfirst hfirstBlank h with ⟨hcut, hrest⟩
  rcases exists_getLast?_read config [] hlast hlastBlank with ⟨ends, hends, hendsText, _⟩
  rcases exists_head?_read config (levelsAfter [] (blocksOfLines linesBefore)) hfirst
    hfirstBlank with ⟨begins, hbegins, hbeginsText, _⟩
  rw [map_read_blankLines, renderBlocks_append rfl ⟨ends, hends, hendsText⟩
    ⟨begins, hbegins, hbeginsText⟩ (source_ne_nil_of_mem_read hbefore)
    (source_ne_nil_of_mem_read hafter) hcut, hrest, render_blankLines]

/-- The message of two texts with blank lines between them is the messages of
    the two with as many blank lines between them. The first text must end in
    text and outside open fenced code, the second must begin with text, and if
    lists are converted, no list may go on from one to the other. -/
theorem convert_append_blankLines (config : Config) (a b : Text) (n : Nat) (hn : 1 ≤ n)
    (ha : (Text.lines a).getLast?.any (fun line => !Text.allBlank line) = true)
    (hb : (Text.lines b).head?.any (fun line => !Text.allBlank line) = true)
    (hfeed : a.getLast? ≠ some '\n') (hreturn : a.getLast? ≠ some '\r')
    (hopen : (Document.ofText a).endsOpen = false)
    (hlists : config.convert.lists = false ∨
      ¬ ((Document.ofText a).endsInItem = true ∧ (Document.ofText b).beginsWithItem = true)) :
    convert config (a ++ ['\n'] ++ List.replicate n '\n' ++ b)
      = convert config a ++ ['\n'] ++ List.replicate n '\n' ++ convert config b := by
  rw [Option.any_eq_true] at ha hb
  rcases ha with ⟨lastLine, hlastLine, hlastText⟩
  rcases hb with ⟨firstLine, hfirstLine, hfirstText⟩
  rw [Bool.not_eq_true'] at hlastText hfirstText
  rcases hc : a.getLast? with _ | c
  · rw [List.getLast?_eq_none_iff.mp hc] at hlastLine
    exact absurd hlastLine (by simp [Text.lines])
  rw [hc, Ne, Option.some.injEq] at hfeed hreturn
  rcases Nat.exists_eq_add_of_le' hn with ⟨m, rfl⟩
  -- The end of its last line changes no kind in the first text.
  have hkinds := map_kind_append_feed hc hfeed hreturn
  rw [Document.endsOpen, any_getLast?_of_map_kind hkinds Block.Kind.isOpenFence] at hopen
  have hclosed : ∀ block, (blocksOfLines (Text.lines (a ++ ['\n']))).getLast? = some block →
      block.kind.isOpenFence = false := by
    intro block hblock
    rw [hblock] at hopen
    exact hopen
  rcases blocksOfLines_parts hc hfeed m hlastLine hlastText hfirstLine hfirstText hclosed with
    ⟨hblocks, ⟨last, hlast, hlastBlank⟩, first, hfirst, hfirstBlank⟩
  have hmeet : config.convert.lists = false ∨ last.kind.isItem = false ∨
      first.kind.isItem = false := by
    rw [Document.endsInItem, any_getLast?_of_map_kind hkinds Block.Kind.isItem, hlast,
      Document.beginsWithItem, any_head?_of_map_kind (map_kind_ofText b) Block.Kind.isItem, hfirst,
      Option.any_some, Option.any_some, not_and_or, Bool.not_eq_true, Bool.not_eq_true] at hlists
    exact hlists
  calc convert config (a ++ ['\n'] ++ List.replicate (m + 1) '\n' ++ b)
      = convert config (a ++ ['\n']) ++
          '\n' :: (List.replicate (m + 1) '\n' ++ convert config b) := by
        rw [convert, Document.convert, Document.read, Document.ofText, hblocks]
        exact renderBlocks_blankLines (Text.areLines_lines _) (Text.areLines_lines _) hlast
          hlastBlank hfirst hfirstBlank hmeet (m + 1)
    _ = convert config a ++ ['\n'] ++ List.replicate (m + 1) '\n' ++ convert config b := by
        rw [convert_congr config (sameLines_append_feed hc hfeed hreturn)]
        rw [List.append_assoc, List.append_assoc, List.singleton_append]

/-- A list that ends at the blank lines, with a new list in the second text. -/
theorem convert_append_blankLines_list_text :
    (Document.ofText "# one\n1. two".toList).endsInItem = true ∧
      convert {} ("# one\n1. two".toList ++ ['\n'] ++ List.replicate 2 '\n' ++
          "three\n1. four".toList)
        = convert {} "# one\n1. two".toList ++ ['\n'] ++ List.replicate 2 '\n' ++
            convert {} "three\n1. four".toList :=
  ⟨by decide +kernel,
    convert_append_blankLines {} _ _ 2 (by decide) (by decide +kernel) (by decide +kernel)
      (by decide) (by decide) (by decide +kernel) (Or.inr (by decide +kernel))⟩

end ChatMarkup
