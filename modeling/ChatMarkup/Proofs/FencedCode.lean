import ChatMarkup.Proofs.Composition
import ChatMarkup.Proofs.Drafts

/-!
# Fenced Code Is Sealed

What stands in fenced code stays there, and nothing gets in from around it.

Fenced code that is closed is cut off by itself. The line that opens it
interrupts whatever comes before, and the line that closes it is found without
looking at what comes after. As a block it is neither blank nor a list item. So
it closes all levels and ends all counts, and the blocks on either side are
those that the texts on either side have on their own. It is shown as it was
written. What is written above and below then depends on nothing in between.

Only one thing could spoil this. If the text above leaves a fence open, its
code takes the lines in.

## Main definitions

* `FencedCode`: A line that opens a fence, lines of code, and a line that closes
  the fence.
* `FencedCode.source`, `FencedCode.block`: The text that it is, and the block
  that it makes.
* `linesAbove`, `linesBelow`: What a text comes to above or below of fenced
  code.

## Theorems

* `FencedCode.blocksOfLines_around`: The lines around are cut by themselves.
* `FencedCode.ofText_around`: The texts around have the blocks that they have on
  their own.
* `FencedCode.ofText_source`, `FencedCode.ofText_unended`: By itself, the code is
  one block, with or without the end of its last line.
* `FencedCode.render_block`: The code is shown as it was written.
* `FencedCode.convert_around`: Fenced code and what is around it do not show in
  each other.
-/

namespace ChatMarkup

/-- A line that opens a fence, lines of code that do not close it, and a line
    that does. The lines stand without their ends, which are line feeds. -/
structure FencedCode where
  /-- The line that opens the fence. -/
  first : Text
  /-- The lines of code. -/
  body : List Text
  /-- The line that closes the fence. -/
  last : Text
  /-- The fence. -/
  fence : Fence
  opens : Fence.ofLine? first = some fence
  goesOn : ∀ line ∈ body, fence.closedBy line = false
  closes : fence.closedBy last = true
  noFeed : ∀ line ∈ first :: (body ++ [last]), '\n' ∉ line
  noReturn : ∀ line ∈ first :: (body ++ [last]), '\r' ∉ line

namespace FencedCode

/-- The lines, without their ends. -/
def lines (code : FencedCode) : List Text :=
  code.first :: (code.body ++ [code.last])

/-- The lines with their ends. -/
def source (code : FencedCode) : Text :=
  code.lines.flatMap endLine

/-- The closed block that it makes. -/
def block (code : FencedCode) : Block where
  kind := .fence code.fence.info true
  source := code.source
  content := Text.joinWith '\n' code.body
  level := 0

variable (code : FencedCode)

theorem isBody_of_mem_lines : ∀ line ∈ code.lines, line.IsBody := by
  intro line hline
  refine ⟨code.noFeed line hline, fun hlast => ?_⟩
  exact code.noReturn line hline (List.mem_of_getLast? hlast)

theorem lines_source : Text.lines code.source = code.lines.map endLine :=
  lines_flatMap_endLine code.noFeed

theorem whole_source : Text.Whole code.source :=
  Text.whole_of_getLast? (getLast?_flatMap_endLine id (List.cons_ne_nil _ _))

theorem opens_endLine : Fence.ofLine? (endLine code.first) = some code.fence := by
  have htrim := Text.trim_endLine code.first
  rw [← code.opens, Fence.ofLine?, Fence.ofLine?, htrim]

theorem blocksOfLines_lines (rest : List Text) :
    blocksOfLines (code.lines.map endLine ++ rest) = code.block :: blocksOfLines rest := by
  have hgoesOn : ∀ line ∈ code.body.map endLine, code.fence.closedBy line = false := by
    intro line hline
    rcases List.mem_map.mp hline with ⟨body, hbody, rfl⟩
    rw [closedBy_endLine, code.goesOn body hbody]
  have hcloses : code.fence.closedBy (endLine code.last) = true := by
    rw [closedBy_endLine, code.closes]
  have hcut := blocksOfLines_fence code.opens_endLine hgoesOn hcloses rest
  have hcontent : Opening.contentOf (code.body.map endLine) = Text.joinWith '\n' code.body :=
    contentOf_map_endLine fun line hline => code.isBody_of_mem_lines line
      (List.mem_cons_of_mem _ (List.mem_append_left _ hline))
  have hlines : code.lines.map endLine =
      endLine code.first :: (code.body.map endLine ++ [endLine code.last]) := by
    rw [lines, List.map_cons, List.map_append, List.map_singleton]
  rw [← hlines, ← List.flatMap_def, hcontent] at hcut
  rw [hlines, List.cons_append, List.append_assoc, List.singleton_append, hcut]
  rfl

/-! ### The blocks around -/

/-- The lines before and behind are cut as if they stood alone. -/
theorem blocksOfLines_around {xs : List Text}
    (hopen : ∀ block, (blocksOfLines xs).getLast? = some block → block.kind.isOpenFence = false)
    (ys : List Text) :
    blocksOfLines (xs ++ (code.lines.map endLine ++ ys)) =
      blocksOfLines xs ++ code.block :: blocksOfLines ys := by
  rcases Leads.of_fence code.opens_endLine with ⟨c, hleads, _⟩
  have hcut := code.blocksOfLines_lines ys
  rw [lines, List.map_cons, List.cons_append] at hcut ⊢
  rw [blocksOfLines_append (interrupts_of_fence code.opens_endLine _)
    (fun _ _ _ => hleads.allBlank) hopen, hcut]

/-- Above and below of fenced code stand the blocks that the texts have on their
    own, levels of list items included. -/
theorem ofText_around {above : Text} (habove : Text.Whole above)
    (hopen : (Document.ofText above).endsOpen = false) (below : Text) :
    (Document.ofText (above ++ code.source ++ below)).blocks =
      (Document.ofText above).blocks ++ code.block :: (Document.ofText below).blocks := by
  have hclosed : ∀ block, (blocksOfLines (Text.lines above)).getLast? = some block →
      block.kind.isOpenFence = false := by
    intro block hblock
    rw [Document.endsOpen, any_getLast?_of_map_kind (map_kind_ofText above) Block.Kind.isOpenFence,
      hblock] at hopen
    exact hopen
  have hlines : Text.lines (above ++ code.source ++ below) =
      Text.lines above ++ (code.lines.map endLine ++ Text.lines below) := by
    rw [List.append_assoc, Text.lines_append _ habove, Text.lines_append _ code.whole_source,
      lines_source]
  -- The block of code closes all levels, so those below begin anew.
  have hplace : ∀ levels, code.block.place levels = (code.block, []) :=
    place_of_outside rfl rfl
  simp only [Document.ofText, hlines]
  rw [code.blocksOfLines_around hclosed, assignLevels_append, assignLevels_cons, hplace]

/-- By itself, the code is one block. -/
theorem ofText_source : (Document.ofText code.source).blocks = [code.block] := by
  have hempty : (Document.ofText []).blocks = [] := by
    rw [Document.ofText, Text.lines, blocksOfLines]
    rfl
  have h := code.ofText_around Text.whole_nil (by rw [Document.endsOpen, hempty]; rfl) []
  rwa [List.nil_append, List.append_nil, hempty] at h

/-- So it is without the end of its last line. -/
theorem ofText_unended (hlast : code.last ≠ []) :
    (Document.ofText (Text.dropLastIf '\n' code.source)).blocks =
      [{ code.block with source := Text.dropLastIf '\n' code.source }] := by
  rcases Option.ne_none_iff_exists'.mp (mt List.getLast?_eq_none_iff.mp hlast) with ⟨c, hc⟩
  have hmem : code.last ∈ code.first :: (code.body ++ [code.last]) :=
    List.mem_cons_of_mem _ (List.mem_append_right _ List.mem_cons_self)
  have hfeed : c ≠ '\n' := fun heq => code.noFeed _ hmem (heq ▸ List.mem_of_getLast? hc)
  have hreturn : c ≠ '\r' := fun heq => code.noReturn _ hmem (heq ▸ List.mem_of_getLast? hc)
  have hsource : code.source =
      (code.first :: code.body).flatMap endLine ++ code.last ++ ['\n'] := by
    rw [source, lines, ← List.cons_append, List.flatMap_append, List.flatMap_singleton, endLine,
      List.append_assoc]
  have hunended : Text.dropLastIf '\n' code.source =
      (code.first :: code.body).flatMap endLine ++ code.last := by
    rw [hsource, Text.dropLastIf_concat, if_pos rfl]
  have hends : (Text.dropLastIf '\n' code.source).getLast? = some c := by
    rw [hunended, List.getLast?_append, hc]
    rfl
  have halike := ofText_congr (sameLines_append_feed hends hfeed hreturn)
  rw [hunended, ← hsource, ofText_source] at halike
  rw [hunended]
  -- A block that is like another differs from it in its source only.
  rcases List.forall₂_cons_left_iff.mp halike with ⟨block, rest, hblock, hrest, hblocks⟩
  obtain rfl := List.forall₂_nil_left_iff.mp hrest
  have hlossless := Document.source_ofText ((code.first :: code.body).flatMap endLine ++ code.last)
  rw [Document.source, hblocks, List.flatMap_singleton] at hlossless
  obtain ⟨kind, source, content, level⟩ := block
  obtain rfl : code.block.kind = kind := hblock.kind
  obtain rfl : code.block.content = content := hblock.content
  obtain rfl : code.block.level = level := hblock.level
  rw [hblocks, ← hlossless]

/-! ### The message around -/

theorem codeLine_endLine {line : Text} (h : line.IsBody) : codeLine (endLine line) = line := by
  rw [codeLine, getLast?_endLine, if_pos rfl, h.stripEnd]

/-- The code is shown as it was written, fences included. -/
theorem render_block (config : Config) (numbering : Numbering) :
    (code.block.read config).render config numbering = code.source := by
  have hline : ∀ line ∈ code.lines, endLine (codeLine (endLine line)) = endLine line :=
    fun line hline => by rw [codeLine_endLine (code.isBody_of_mem_lines line hline)]
  calc (code.block.read config).render config numbering
      = (Text.lines code.source).flatMap fun line => endLine (codeLine line) := rfl
    _ = code.lines.flatMap fun line => endLine (codeLine (endLine line)) := by
        rw [lines_source, List.flatMap_map]
    _ = code.source := by
        rw [source, List.flatMap_def, List.flatMap_def, List.map_congr_left hline]

end FencedCode

/-- The text as it is written above of fenced code: without blank lines at its
    beginning. -/
def linesAbove (config : Config) (above : Text) : Text :=
  renderLines config .start
    (((Document.ofText above).read config).dropWhile RichBlock.isBlank)

/-- The text as it is written below of fenced code: without blank lines at its
    end. -/
def linesBelow (config : Config) (below : Text) : Text :=
  renderLines config .start (dropBlanksAtEnd ((Document.ofText below).read config))

/-- Fenced code is sealed. If the text above consists of whole lines and leaves
    no fence open, then the document has the blocks of the text above, the code
    as one closed block, and the blocks of the text below. And the message, with
    the end of its last line, is what the text above comes to, the code as it
    was written, and what the text below comes to, none of which depends on the
    others. -/
theorem FencedCode.convert_around (code : FencedCode) {above : Text} (habove : Text.Whole above)
    (hopen : (Document.ofText above).endsOpen = false) (below : Text) :
    (Document.ofText (above ++ code.source ++ below)).blocks =
        (Document.ofText above).blocks ++ code.block :: (Document.ofText below).blocks ∧
      ∀ config, convert config (above ++ code.source ++ below) ++ ['\n'] =
        linesAbove config above ++ code.source ++ linesBelow config below := by
  have hblocks := code.ofText_around habove hopen below
  refine ⟨hblocks, fun config => ?_⟩
  have hread : (Document.ofText (above ++ code.source ++ below)).read config =
      (Document.ofText above).read config ++
        code.block.read config :: (Document.ofText below).read config := by
    rw [Document.read, hblocks, List.map_append, List.map_cons]
    rfl
  have hends : ∀ numbering,
      ((code.block.read config).render config numbering).getLast? = some '\n' := by
    intro numbering
    rw [code.render_block]
    exact getLast?_flatMap_endLine id (List.cons_ne_nil _ _)
  have hstart : ∀ numbering, (code.block.read config).after config numbering = .start :=
    fun _ => rfl
  rw [convert, Document.convert, hread, renderBlocks_around config _ _ rfl (hends _),
    code.render_block, hstart, linesAbove, linesBelow]

/-- Lines that would end a list, or go on with it, in the middle of a list. -/
theorem FencedCode.convert_around_inside_list :
    (Document.ofText ("1. a\n  - b".toList ++ ['\n'] ++ "~~~~ c\n~~~\n# d\n\n2. e\n~~~~\n".toList ++
        "  - f\n2. g".toList)).blocks =
      (Document.ofText ("1. a\n  - b".toList ++ ['\n'])).blocks ++
        ⟨.fence (some ['c']) true, "~~~~ c\n~~~\n# d\n\n2. e\n~~~~\n".toList,
          "~~~\n# d\n\n2. e".toList, 0⟩ :: (Document.ofText "  - f\n2. g".toList).blocks ∧
      ∀ config, convert config ("1. a\n  - b".toList ++ ['\n'] ++
          "~~~~ c\n~~~\n# d\n\n2. e\n~~~~\n".toList ++ "  - f\n2. g".toList) ++ ['\n'] =
        linesAbove config ("1. a\n  - b".toList ++ ['\n']) ++
          "~~~~ c\n~~~\n# d\n\n2. e\n~~~~\n".toList ++ linesBelow config "  - f\n2. g".toList :=
  FencedCode.convert_around
    { first := "~~~~ c".toList
      body := ["~~~".toList, "# d".toList, [], "2. e".toList]
      last := "~~~~".toList
      fence := ⟨'~', 4, some ['c']⟩
      opens := by decide
      goesOn := by decide
      closes := by decide
      noFeed := by decide
      noReturn := by decide }
    (Text.whole_append_feed _) (by decide +kernel) "  - f\n2. g".toList

end ChatMarkup
