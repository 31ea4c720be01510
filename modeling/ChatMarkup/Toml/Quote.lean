import ChatMarkup.Text.Digits
import ChatMarkup.Toml.Layout

/-!
# Strings of TOML

The four ways to write a string.

A string in double quotes has escapes, one in single quotes has none. Either
kind can be written with three quotes on both sides; it may then go over
several lines, and quotes may stand in it. A line end right after the opening
quotes is dropped. In the kind with escapes, a backslash at the end of a line
drops that end and all white space up to the next other character.

All readers here begin after the opening quotes and return the string and the
text after the closing quotes.

## Main definitions

* `codePointAt?`: The character that digits name.
* `escape?`: The character that an escape stands for.
* `basic?`: A string in double quotes.
* `literal?`: A string in single quotes.
* `basicLines?`, `literalLines?`: Strings that may go over several lines.
* `string?`: A string of any kind, with its opening quotes.

## Theorems

* `length_escape?_lt`: An escape has at least one character.
-/

namespace ChatMarkup.Toml

/-- The character whose code point the digits write. -/
def codePoint? (digits : Text) : Option Char :=
  let n := Text.readDigits 16 digits
  if digits.all (Text.isDigitOf 16) && decide (n.isValidChar) then some (Char.ofNat n) else none

/-- The character that `count` digits name, and the text after them. -/
def codePointAt? (count : Nat) (s : Text) : Option (Char × Text) :=
  if (s.take count).length < count then none
  else (codePoint? (s.take count)).map fun c => (c, s.drop count)

theorem length_codePointAt?_le {count : Nat} {s rest : Text} {c : Char}
    (h : codePointAt? count s = some (c, rest)) : rest.length ≤ s.length := by
  rw [codePointAt?] at h
  split at h
  · exact absurd h (by simp only [reduceCtorEq, not_false_eq_true])
  · obtain ⟨d, _, hd⟩ := Option.map_eq_some_iff.mp h
    have hrest : s.drop count = rest := congrArg Prod.snd hd
    rw [← hrest, List.length_drop]
    omega

/-- The character that a letter after a backslash stands for. -/
def letterEscape? (c : Char) : Option Char :=
  if c = 'b' then some '\x08'
  else if c = 't' then some '\t'
  else if c = 'n' then some '\n'
  else if c = 'f' then some '\x0c'
  else if c = 'r' then some '\r'
  else if c = 'e' then some '\x1b'
  else if c = '"' then some '"'
  else if c = '\\' then some '\\'
  else none

/-- The character that an escape stands for, and the text after it. The
    backslash has been read. -/
def escape? : Text → Option (Char × Text)
  | [] => none
  | c :: rest =>
    match letterEscape? c with
    | some d => some (d, rest)
    | none =>
      if c = 'x' then codePointAt? 2 rest
      else if c = 'u' then codePointAt? 4 rest
      else if c = 'U' then codePointAt? 8 rest
      else none

theorem length_escape?_lt {s rest : Text} {c : Char} (h : escape? s = some (c, rest)) :
    rest.length < s.length := by
  cases s with
  | nil => exact absurd h (by simp only [escape?, reduceCtorEq, not_false_eq_true])
  | cons d s =>
      rw [escape?] at h
      rw [List.length_cons]
      split at h
      · have hrest : s = rest := congrArg Prod.snd (Option.some.inj h)
        rw [hrest]
        exact Nat.lt_succ_self _
      · split at h
        · exact Nat.lt_succ_of_le (length_codePointAt?_le h)
        · split at h
          · exact Nat.lt_succ_of_le (length_codePointAt?_le h)
          · split at h
            · exact Nat.lt_succ_of_le (length_codePointAt?_le h)
            · exact absurd h (by simp only [reduceCtorEq, not_false_eq_true])

/-- A string in double quotes. -/
def basic? (s : Text) : Option (Text × Text) :=
  match s with
  | [] => none
  | c :: rest =>
    if c = '"' then some ([], rest)
    else if c = '\\' then
      match _h : escape? rest with
      | none => none
      | some (d, rest') => (basic? rest').map fun (body, after) => (d :: body, after)
    else if isPlain c then (basic? rest).map fun (body, after) => (c :: body, after)
    else none
termination_by s.length
decreasing_by
  · have := length_escape?_lt _h; simp only [List.length_cons]; omega
  · simp

/-- A string in single quotes. -/
def literal? : Text → Option (Text × Text)
  | [] => none
  | c :: rest =>
    if c = '\'' then some ([], rest)
    else if isPlain c then (literal? rest).map fun (body, after) => (c :: body, after)
    else none

/-- The quotes at the end of a string and the text after them, if three of them
    close the string. Up to two more belong to the string and stand before
    the three. One quote has been read. -/
def closing? (quote : Char) : Text → Option (Text × Text)
  | a :: b :: rest =>
    if a = quote ∧ b = quote then
      match rest with
      | c :: d :: rest =>
        if c = quote then
          if d = quote then some ([quote, quote], rest) else some ([quote], d :: rest)
        else some ([], c :: d :: rest)
      | [c] => if c = quote then some ([quote], []) else some ([], [c])
      | [] => some ([], [])
    else none
  | _ => none

/-- The text after spaces and ends of lines. -/
def skipBlankLines : Text → Text
  | [] => []
  | c :: rest =>
    if c = '\n' ∨ isSpace c then skipBlankLines rest
    else if c = '\r' then
      match rest with
      | '\n' :: rest => skipBlankLines rest
      | _ => c :: rest
    else c :: rest

theorem length_skipBlankLines_le (s : Text) : (skipBlankLines s).length ≤ s.length := by
  fun_induction skipBlankLines s <;> simp only [List.length_cons, List.length_nil] at * <;> omega

/-- The text after a backslash that ends a line, and after the white space that
    the backslash drops. The backslash has been read. -/
def continued? (s : Text) : Option Text :=
  (newline? (skipSpaces s)).map skipBlankLines

theorem length_newline?_lt {s rest : Text} (h : newline? s = some rest) :
    rest.length < s.length := by
  unfold newline? at h
  split at h <;> simp only [Option.some.injEq, reduceCtorEq] at h
  all_goals rw [← h]; simp only [List.length_cons]; omega

theorem length_continued?_le {s rest : Text} (h : continued? s = some rest) :
    rest.length ≤ s.length := by
  obtain ⟨after, hafter, hrest⟩ := Option.map_eq_some_iff.mp h
  rw [← hrest]
  have h1 := length_skipBlankLines_le after
  have h2 := length_newline?_lt hafter
  have h3 := length_skipSpaces_le s
  omega

/-- A string between triple double quotes. -/
def basicLines? (s : Text) : Option (Text × Text) :=
  match s with
  | [] => none
  | c :: rest =>
    if c = '"' then
      match closing? '"' rest with
      | some found => some found
      | none => (basicLines? rest).map fun (body, after) => (c :: body, after)
    else if c = '\\' then
      match _h : continued? rest with
      | some rest' => basicLines? rest'
      | none =>
        match _h : escape? rest with
        | none => none
        | some (d, rest') => (basicLines? rest').map fun (body, after) => (d :: body, after)
    else if isPlain c || c == '\n' || (c == '\r' && rest.head? == some '\n') then
      (basicLines? rest).map fun (body, after) => (c :: body, after)
    else none
termination_by s.length
decreasing_by
  · simp
  · have := length_continued?_le _h; simp only [List.length_cons]; omega
  · have := length_escape?_lt _h; simp only [List.length_cons]; omega
  · simp

/-- A string between triple single quotes. -/
def literalLines? : Text → Option (Text × Text)
  | [] => none
  | c :: rest =>
    if c = '\'' then
      match closing? '\'' rest with
      | some found => some found
      | none => (literalLines? rest).map fun (body, after) => (c :: body, after)
    else if isPlain c || c == '\n' || (c == '\r' && rest.head? == some '\n') then
      (literalLines? rest).map fun (body, after) => (c :: body, after)
    else none

/-- The text without a line end at its start. -/
def dropNewline (s : Text) : Text :=
  (newline? s).getD s

/-- A string of any kind. -/
def string? : Text → Option (Text × Text)
  | '"' :: '"' :: '"' :: rest => basicLines? (dropNewline rest)
  | '"' :: rest => basic? rest
  | '\'' :: '\'' :: '\'' :: rest => literalLines? (dropNewline rest)
  | '\'' :: rest => literal? rest
  | _ => none

end ChatMarkup.Toml
