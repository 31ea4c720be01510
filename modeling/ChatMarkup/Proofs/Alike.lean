import ChatMarkup.Proofs.LineEnds
import ChatMarkup.Proofs.Lines
import ChatMarkup.Proofs.Nesting
import ChatMarkup.Proofs.Rendering

/-!
# Blocks That Look Alike

When two texts make the same message although they are not the same.

A message shows little of how the lines of a text end. Most blocks are shown
from their content, which knows nothing of line ends. Fenced code is shown
line by line without the ends, a rule is shown trimmed, and of blank lines
only the number is shown. `Block.Alike` collects what is shown of a block: two
blocks alike are written the same way and leave the same numbering behind.

`SameLine` is what two lines have to share for this. It asks for the same line
without its end, and for the same line of code, which differs from the former
only where a carriage return stands at the end of the text.

## Main definitions

* `SameLine`: Two lines are the same but for their ends.
* `Block.Alike`: Two blocks are shown the same way.

## Theorems

* `blocksOfLines_congr`: The same lines make blocks alike.
* `assignLevels_congr`: Blocks alike have the same levels.
* `Block.Alike.sameRendering`: Blocks alike are written the same way.
* `convert_congr`: The same lines make the same message.
-/

namespace ChatMarkup

/-- The two lines are the same but for their ends, also where they are shown as
    code. -/
structure SameLine (line line' : Text) : Prop where
  body : SameBody line line'
  code : codeLine line = codeLine line'

/-- The two blocks are shown the same way. -/
structure Block.Alike (block block' : Block) : Prop where
  kind : block.kind = block'.kind
  content : block.content = block'.content
  level : block.level = block'.level
  code : (Text.lines block.source).map codeLine = (Text.lines block'.source).map codeLine
  rule : block.kind = .rule → Text.trimEnd block.source = Text.trimEnd block'.source

theorem map_eq_of_forall₂ {α β : Type} {R : α → α → Prop} {f : α → β}
    (hf : ∀ a b, R a b → f a = f b) {xs ys : List α} (h : List.Forall₂ R xs ys) :
    xs.map f = ys.map f := by
  induction h with
  | nil => rfl
  | cons hline _ ih => rw [List.map_cons, List.map_cons, hf _ _ hline, ih]

theorem getLast?_closedBy_congr (f : Fence) {xs ys : List Text} (h : List.Forall₂ SameBody xs ys) :
    xs.getLast?.any f.closedBy = ys.getLast?.any f.closedBy := by
  rw [← List.head?_reverse, ← List.head?_reverse]
  have hlast := sameBody_head? (List.forall₂_reverse_iff.mpr h)
  generalize xs.reverse.head? = last, ys.reverse.head? = last' at hlast
  cases hlast with
  | none => rfl
  | some hline => exact hline.closedBy f

theorem contentOf_congr {xs ys : List Text} (h : List.Forall₂ SameBody xs ys) :
    Opening.contentOf xs = Opening.contentOf ys := by
  rw [Opening.contentOf, Opening.contentOf, map_eq_of_forall₂ (fun _ _ hline => hline) h]

theorem forall₂_dropLast {α : Type} {R : α → α → Prop} {xs ys : List α}
    (h : List.Forall₂ R xs ys) : List.Forall₂ R xs.dropLast ys.dropLast := by
  rw [List.dropLast_eq_take, List.dropLast_eq_take, h.length_eq]
  exact List.forall₂_take _ h

/-- The same opening line and the same further lines say the same. -/
theorem Opening.kind_content_congr (opening : Opening) {line line' : Text}
    (hline : SameBody line line') {more more' : List Text}
    (hmore : List.Forall₂ SameBody more more') :
    (opening.block line more).kind = (opening.block line' more').kind ∧
      (opening.block line more).content = (opening.block line' more').content ∧
      (opening.block line more).level = (opening.block line' more').level := by
  cases opening with
  | blank => exact ⟨rfl, rfl, rfl⟩
  | fence f =>
      have hclosed := getLast?_closedBy_congr f hmore
      refine ⟨by simp only [block, hclosed], ?_, rfl⟩
      simp only [block, hclosed]
      split
      · exact contentOf_congr (forall₂_dropLast hmore)
      · exact contentOf_congr hmore
  | table => exact ⟨rfl, contentOf_congr (.cons hline hmore), rfl⟩
  | rule => exact ⟨rfl, rfl, rfl⟩
  | heading level content => exact ⟨rfl, rfl, rfl⟩
  | item i =>
      have htexts := map_eq_of_forall₂ (f := fun line => Text.trimStart (Text.stripEnd line))
        (fun _ _ hline => congrArg Text.trimStart hline) hmore
      exact ⟨rfl, congrArg (fun texts => Text.joinWith '\n' (i.content :: texts)) htexts, rfl⟩
  | quote depth content =>
      have htexts := map_eq_of_forall₂ (f := quotedText)
        (fun _ _ hline => by rw [quotedText, quotedText, hline.quote]) hmore
      exact ⟨rfl, congrArg (fun texts => Text.joinWith '\n' (content :: texts)) htexts, rfl⟩
  | paragraph => exact ⟨rfl, contentOf_congr (.cons hline hmore), rfl⟩

/-- Only the opening of a rule makes one. -/
theorem Opening.eq_rule_of_kind {opening : Opening} {line : Text} {more : List Text}
    (h : (opening.block line more).kind = .rule) : opening = .rule := by
  cases opening with
  | rule => rfl
  | blank => exact absurd h (by simp [block])
  | fence => exact absurd h (by simp [block])
  | table => exact absurd h (by simp [block])
  | heading => exact absurd h (by simp [block])
  | item => exact absurd h (by simp [block])
  | quote => exact absurd h (by simp [block])
  | paragraph => exact absurd h (by simp [block])

/-- The same lines make blocks alike. -/
theorem blocksOfLines_congr {xs ys : List Text} (h : List.Forall₂ SameLine xs ys)
    (hxs : Text.AreLines xs) (hys : Text.AreLines ys) :
    List.Forall₂ Block.Alike (blocksOfLines xs) (blocksOfLines ys) := by
  fun_induction blocksOfLines xs generalizing ys with
  | case1 =>
      cases h
      rw [blocksOfLines]
      exact .nil
  | case2 line rest opening extent =>
      rename_i ih
      cases h with
      | @cons _ line' _ rest' hline hrest =>
          have hbodies : List.Forall₂ SameBody rest rest' := hrest.imp fun _ _ h => h.body
          have hopening : Opening.ofLine line' rest'.head? = opening :=
            (hline.body.ofLine_congr (sameBody_head? hbodies)).symm
          have hextent : opening.extent rest' = extent := (opening.extent_congr hbodies).symm
          rw [blocksOfLines, hopening, hextent]
          have hx : line :: rest = (line :: rest.take extent) ++ rest.drop extent := by
            rw [List.cons_append, List.take_append_drop]
          have hy : line' :: rest' = (line' :: rest'.take extent) ++ rest'.drop extent := by
            rw [List.cons_append, List.take_append_drop]
          rw [hx] at hxs
          rw [hy] at hys
          -- The rest is cut by induction; what is left is the first block.
          refine .cons ?_ (ih (List.forall₂_drop _ hrest) hxs.of_append_right hys.of_append_right)
          have hmore := List.forall₂_take extent hrest
          rcases opening.kind_content_congr hline.body (List.forall₂_take extent hbodies) with
            ⟨hkind, hcontent, hlevel⟩
          refine ⟨hkind, hcontent, hlevel, ?_, fun hrule => ?_⟩
          · rw [Opening.source_block, Opening.source_block, Text.lines_flatten hxs.of_append_left,
              Text.lines_flatten hys.of_append_left]
            exact map_eq_of_forall₂ (fun _ _ h => h.code) (.cons hline hmore)
          · -- A rule is a single line.
            have hzero : extent = 0 := by
              simp only [extent, Opening.eq_rule_of_kind hrule]
              rfl
            rw [Opening.source_block, Opening.source_block, hzero, List.take_zero, List.take_zero,
              List.flatten_singleton, List.flatten_singleton, hline.body.trimEnd]

/-- Blocks alike open the same levels and get the same level. -/
theorem Block.Alike.place {block block' : Block} (h : block.Alike block') (levels : List Nat) :
    (block.place levels).1.Alike (block'.place levels).1 ∧
      (block.place levels).2 = (block'.place levels).2 := by
  obtain ⟨kind, source, content, level⟩ := block
  obtain ⟨kind', source', content', level'⟩ := block'
  have hkind : kind = kind' := h.kind
  subst hkind
  cases kind with
  | listItem marker indent task => exact ⟨⟨rfl, h.content, rfl, h.code, h.rule⟩, rfl⟩
  | blank => exact ⟨h, rfl⟩
  | paragraph => exact ⟨h, rfl⟩
  | heading => exact ⟨h, rfl⟩
  | fence => exact ⟨h, rfl⟩
  | quote => exact ⟨h, rfl⟩
  | table => exact ⟨h, rfl⟩
  | rule => exact ⟨h, rfl⟩

theorem assignLevels_congr {xs ys : List Block} (h : List.Forall₂ Block.Alike xs ys)
    (levels : List Nat) :
    List.Forall₂ Block.Alike (assignLevels levels xs) (assignLevels levels ys) := by
  induction h generalizing levels with
  | nil => exact .nil
  | cons hblock _ ih =>
      rcases hblock.place levels with ⟨hplaced, hlevels⟩
      rw [assignLevels_cons, assignLevels_cons, hlevels]
      exact .cons hplaced (ih _)

theorem Block.Alike.lineCount {block block' : Block} (h : block.Alike block') :
    Block.lineCount block.source = Block.lineCount block'.source := by
  have hlength := congrArg List.length h.code
  rw [List.length_map, List.length_map] at hlength
  exact hlength

theorem Block.Alike.sameRendering {block block' : Block} (h : block.Alike block')
    (config : Config) : (block.read config).SameRendering config (block'.read config) := by
  obtain ⟨kind, source, content, level⟩ := block
  obtain ⟨kind', source', content', level'⟩ := block'
  have hkind : kind = kind' := h.kind
  have hcontent : content = content' := h.content
  have hlevel : level = level' := h.level
  subst hkind hcontent hlevel
  refine ⟨rfl, fun numbering => ?_, fun numbering => ?_⟩
  · have hcode : (Text.lines source).map codeLine = (Text.lines source').map codeLine := h.code
    cases kind with
    -- Only the number of blank lines is shown.
    | blank => exact congrArg (List.replicate · '\n') h.lineCount
    | fence info closed =>
        have hlines := congrArg (fun lines => lines.flatMap endLine) hcode
        rw [List.flatMap_map, List.flatMap_map] at hlines
        exact hlines
    | rule =>
        have hrule : Text.trimEnd source = Text.trimEnd source' := h.rule rfl
        simp only [RichBlock.render, Block.read, hrule]
    | paragraph => rfl
    | heading => rfl
    | listItem => rfl
    | quote => rfl
    | table => rfl
  · cases kind <;> rfl

/-- Texts whose lines are the same but for their ends have blocks alike. -/
theorem ofText_congr {markdown markdown' : Text}
    (h : List.Forall₂ SameLine (Text.lines markdown) (Text.lines markdown')) :
    List.Forall₂ Block.Alike (Document.ofText markdown).blocks
      (Document.ofText markdown').blocks :=
  assignLevels_congr
    (blocksOfLines_congr h (Text.areLines_lines markdown) (Text.areLines_lines markdown')) []

/-- Texts whose lines are the same but for their ends make the same message. -/
theorem convert_congr (config : Config) {markdown markdown' : Text}
    (h : List.Forall₂ SameLine (Text.lines markdown) (Text.lines markdown')) :
    convert config markdown = convert config markdown' := by
  refine renderBlocks_congr ?_
  rw [Document.read, Document.read, List.forall₂_map_left_iff, List.forall₂_map_right_iff]
  exact (ofText_congr h).imp fun _ _ hblock => hblock.sameRendering config

end ChatMarkup
