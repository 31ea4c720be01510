import ChatMarkup.Proofs.Backticks
import Mathlib.Data.List.Chain

/-!
# The Shapes of Tokens

What a token is like when it has been read, and what can stand next to it.

The constructors of a token allow more than the reader ever makes. No run is
empty, no link has an empty label, and a span of code holds exactly what lies
between a run of backticks and the next run of its length. A run of markers is
read as far as its marker goes. So a run right behind another one has a
different marker, and this is what keeps emphasis from being empty: two runs
with nothing in between never match.

## Main definitions

* `CodeBody`: What can stand between two runs of backticks.
* `Token.Formed`: The token is one that can be read.
* `Token.Apart`: The two tokens are not runs of one marker.

## Theorems

* `formed_of_mem_tokens`: Tokens are formed.
* `isChain_tokens`: Tokens next to each other are apart.
-/

namespace ChatMarkup.Inline

/-- The text can stand as code between two runs of `count` backticks: it is not
    empty, has no backtick at either end, and holds no run of that length. -/
structure CodeBody (count : Nat) (body : Text) : Prop where
  /-- There is something between the backticks. -/
  ne_nil : body ≠ []
  /-- The backticks in front of it are not in it. -/
  head : body.head? ≠ some backtick
  /-- Those behind it are not in it either. -/
  last : body.getLast? ≠ some backtick
  /-- No run in it could be its end. -/
  noTicks : ¬ HasTicks count body

/-- What the reader finds behind a run of backticks is the body of code. -/
theorem codeBody_of_codeBody? {count : Nat} (hcount : 0 < count) {s body rest : Text}
    (hs : s.head? ≠ some backtick) (h : codeBody? count 0 s = some (body, rest)) :
    CodeBody count body := by
  have hnext := (codeBody?_eq_some_iff hcount).mp h
  have hne : body ≠ [] := by
    rintro rfl
    rw [hnext.source, List.nil_append, List.head?_append, head?_ticks hcount] at hs
    exact hs rfl
  refine ⟨hne, fun hhead => ?_, hnext.before, hnext.first⟩
  rw [hnext.source, List.append_assoc, List.head?_append, hhead] at hs
  exact hs rfl

/-- What a token is like when it has been read. -/
def Token.Formed : Token → Prop
  | .ticks count => 0 < count
  | .code count body => 0 < count ∧ CodeBody count body
  | .link l => l.label ≠ []
  | .run r => 0 < r.length
  | _ => True

/-- The tokens are not two runs of one marker. -/
def Token.Apart : Token → Token → Prop
  | .run r, .run r' => r.marker ≠ r'.marker
  | _, _ => True

theorem formed_nextToken (escapes : Bool) (before after : Option Char) (c : Char) (rest : Text) :
    (nextToken escapes before after c rest).1.Formed := by
  unfold nextToken
  split
  · split
    · trivial
    · split <;> trivial
  · split
    · have hhead := head?_spanTicks rest
      generalize spanTicks rest = span at hhead ⊢
      obtain ⟨more, following⟩ := span
      simp only at hhead ⊢
      split
      · next hbody =>
          exact ⟨Nat.succ_pos _, codeBody_of_codeBody? (Nat.succ_pos _) hhead hbody⟩
      · exact Nat.succ_pos _
    · split
      · split
        · split <;> trivial
        · trivial
      · split
        · split
          · split
            · trivial
            · next hlabel => exact fun hnil => hlabel (List.isEmpty_iff.mpr hnil)
          · trivial
        · split
          · exact Nat.succ_pos _
          · trivial

/-- A run begins with its marker and goes on as far as there are more of them. -/
theorem nextToken_run {escapes : Bool} {before after : Option Char} {c : Char} {rest : Text}
    {run : Run} (h : (nextToken escapes before after c rest).1 = .run run) :
    run.marker.char = c ∧ (nextToken escapes before after c rest).2.head? ≠ some c := by
  unfold nextToken at h ⊢
  split at h
  · split at h
    · exact Token.noConfusion h
    · split at h <;> exact Token.noConfusion h
  · next hslash =>
      split at h
      · generalize spanTicks rest = span at h
        obtain ⟨more, following⟩ := span
        simp only at h
        split at h <;> exact Token.noConfusion h
      · next htick =>
          split at h
          · split at h
            · split at h <;> exact Token.noConfusion h
            · exact Token.noConfusion h
          · next hmark =>
              split at h
              · split at h
                · split at h <;> exact Token.noConfusion h
                · exact Token.noConfusion h
              · next hbracket =>
                  rw [if_neg hslash, if_neg htick, if_neg hmark, if_neg hbracket]
                  split at h
                  · next marker hmarker =>
                      rw [← Token.run.inj h]
                      refine ⟨Marker.char_of_ofChar? hmarker, fun hhead => ?_⟩
                      have hstop := List.head?_dropWhile_not (· == c) rest
                      simp only at hhead
                      rw [hhead] at hstop
                      simp at hstop
                  · exact Token.noConfusion h

theorem formed_of_mem_tokens {escapes : Bool} {before after : Option Char} {s : Text} :
    ∀ token ∈ tokens escapes before s after, token.Formed :=
  forall_mem_tokens (fun before c rest => formed_nextToken escapes before after c rest) before s

/-- Two runs of one marker do not stand next to each other. -/
theorem isChain_tokens (escapes : Bool) (before : Option Char) (s : Text) (after : Option Char) :
    (tokens escapes before s after).IsChain Token.Apart := by
  fun_induction tokens escapes before s after with
  | case1 => exact .nil
  | case2 before c rest step ih =>
      refine List.isChain_cons.mpr ⟨fun next hnext => ?_, ih⟩
      rw [tokens.eq_def] at hnext
      cases hrest : step.2 with
      | nil =>
          rw [hrest] at hnext
          exact absurd hnext (by simp)
      | cons d rest' =>
          rw [hrest, List.head?_cons, Option.mem_some_iff] at hnext
          -- Of two runs, the second begins with what ended the first.
          cases hfirst : step.1 with
          | run r =>
              cases hsecond : next with
              | run r' =>
                  have hstop := nextToken_run hfirst
                  have hstart := nextToken_run (hnext.trans hsecond)
                  intro hmarker
                  rw [← hmarker, hstop.1] at hstart
                  refine hstop.2 ?_
                  rw [show (nextToken escapes before after c rest).2 = step.2 from rfl, hrest,
                    hstart.1, List.head?_cons]
              | _ => trivial
          | _ => trivial

end ChatMarkup.Inline
