import ChatMarkup.Proofs.Growth

/-!
# Trees in Normal Form

Of all trees that would be written the same way, reading makes one.

A tree can say the same thing in several ways. Text can be cut in two, bold can
stand within bold, and emphasis around nothing says nothing. None of this comes
of reading a text. A node of the tree is `Normal` if it is not empty, if its
content is not cut needlessly, and if nothing about it could be left out. This
is asked of every node at any depth, so the label of a link, which is read by
itself, has to be looked at as well.

Code is the one node that keeps how it was written. Its backticks are told from
those within it by their number.

## Main definitions

* `Span.isLink`: Whether the span is a link.
* `Span.Normal`: What a node of the tree of a text is like.

## Theorems

* `row_parseLabel`: The label of a link is in normal form and holds no links.
* `row_parse`: The tree of a text is in normal form, under all switches.
* `parseInline_normal`: The same under every configuration.
-/

namespace ChatMarkup

/-- Whether the span is a link. -/
def Span.isLink : Span → Bool
  | link _ _ => true
  | _ => false

/-- The node cannot be written in a simpler way. -/
def Span.Normal : Span → Prop
  -- There are characters in a text.
  | text s => s ≠ []
  -- Something is styled, and it is not the same style once more.
  | styled emphasis content =>
    content ≠ [] ∧ content.IsChain Separated ∧ ∀ inner, content ≠ [styled emphasis inner]
  -- A link shows something, and there are no links in it at any depth.
  | link _ content =>
    content ≠ [] ∧ content.IsChain Separated ∧ ∀ node ∈ nodesAll content, node.isLink = false
  -- Code stands between backticks, and ends where it could end first.
  | code s => ∃ count body, 0 < count ∧ Inline.CodeBody count body ∧
    s = Inline.ticks count ++ body ++ Inline.ticks count
  | image _ _ => True
  -- Only the rows of a table end within inline content.
  | lineBreak => False

namespace Inline

open ChatMarkup.Span

theorem normal_of_code {count : Nat} {body : Text} (h : (Token.code count body).Formed) :
    (Span.code (Token.code count body).source).Normal :=
  ⟨count, body, h.1, h.2, rfl⟩

/-- The label of a link is in normal form, and there are no links in it. -/
theorem row_parseLabel (switches : Switches) (s : Text) :
    Row (fun node => node.Normal ∧ node.isLink = false) (parseLabel switches s) := by
  refine row_parseBetween (fun emphasis content _ hne hrow hmerges => ?_)
    (fun t ht => ⟨ht, rfl⟩) (fun token span hformed hpiece => ?_) _ _ s
  · exact ⟨⟨hne, hrow.apart, hmerges⟩, rfl⟩
  · rcases span_of_piece hpiece with
      ⟨count, body, rfl, rfl⟩ | ⟨_, _, hon, _⟩ | ⟨l, _, _, rfl⟩
    · exact List.forall_mem_singleton.mpr ⟨normal_of_code hformed, rfl⟩
    · exact absurd hon Bool.false_ne_true
    · exact List.forall_mem_singleton.mpr ⟨trivial, rfl⟩

theorem parseLabel_ne_nil (switches : Switches) {s : Text} (hs : s ≠ []) :
    parseLabel switches s ≠ [] :=
  parseBetween_ne_nil _ _ _ _ hs

/-- The tree of a text is in normal form under all switches. -/
theorem row_parse (switches : Switches) (s : Text) : Row Normal (parse switches s) := by
  refine row_parseBetween (fun emphasis content _ hne hrow hmerges => ⟨hne, hrow.apart, hmerges⟩)
    (fun t ht => ht) (fun token span hformed hpiece => ?_) _ _ s
  rcases span_of_piece hpiece with
    ⟨count, body, rfl, rfl⟩ | ⟨l, rfl, _, rfl⟩ | ⟨l, _, _, rfl⟩
  · exact List.forall_mem_singleton.mpr (normal_of_code hformed)
  · -- A link has a label, and whatever is in the label is normal and no link.
    have hlabel := row_parseLabel switches l.label
    rw [nodes]
    refine List.forall_mem_cons.mpr ⟨⟨parseLabel_ne_nil switches hformed, hlabel.apart, ?_⟩, ?_⟩
    · exact fun node hnode => (hlabel.nodes node hnode).2
    · exact fun node hnode => (hlabel.nodes node hnode).1
  · exact List.forall_mem_singleton.mpr trivial

end Inline

/-- The tree of every text is in normal form under every configuration. At no
    depth are two texts next to each other. No text, no emphasis and no link is
    empty, nothing is styled twice in a row the same way, there is no link within
    a link and no line break, and code stands between two runs of as many
    backticks, neither of which could be longer or end it earlier. -/
theorem parseInline_normal (config : Config) (s : Text) :
    Span.Row Span.Normal (parseInline config s) :=
  Inline.row_parse config.inlineSwitches s

/-- Bold within bold is bold once, and a text is not cut at a backslash. -/
example : parseInline {} "**__a\\*b__**".toList = [.styled .bold [.text "a*b".toList]] := by
  cbv

end ChatMarkup
