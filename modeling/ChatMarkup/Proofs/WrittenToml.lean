import ChatMarkup.Proofs.Characters
import ChatMarkup.Proofs.TomlDocuments
import ChatMarkup.Proofs.TomlTables

/-!
# Reading What was Written

What the reader of TOML makes of lines that were written for it.

A document is read from the front, and what has been read is an amount of
entries and the table of the last header. `readOn?` goes on from there. Each
kind of line is described by what it does to these two, whatever comes behind
it; so nothing has to be known of the rest of a document while its lines are
gone through.

## Main definitions

* `readOn?`: The entries after some more text.

## Theorems

* `basic?_flatMap`: A string is read as it is spelled.
* `value?_written`: A setting is read as it is written.
* `readOn?_note`, `readOn?_header`, `readOn?_setting`: What a line does.
* `exists_of_readOn?_entry`: What is left of a line with a key, whatever is
  written behind the key.
-/

namespace ChatMarkup.Toml

theorem skipSpaces_cons {c : Char} {s : Text} (hspace : c ≠ ' ') (htab : c ≠ '\t') :
    skipSpaces (c :: s) = c :: s := by
  have hc : isSpace c = false := by
    rw [isSpace, Bool.or_eq_false_iff, beq_eq_false_iff_ne, beq_eq_false_iff_ne]
    exact ⟨hspace, htab⟩
  rw [skipSpaces, List.dropWhile_cons, hc]
  rfl

/-! ### Strings -/

theorem codePointAt?_append {c : Char} {digits : Text} (rest : Text)
    (hdigits : digits.all (Text.isDigitOf 16) = true)
    (hpoint : Text.readDigits 16 digits = c.toNat) :
    codePointAt? digits.length (digits ++ rest) = some (c, rest) := by
  have hvalid : c.toNat.isValidChar := c.valid
  rw [codePointAt?, List.take_left, List.drop_left, if_neg (Nat.lt_irrefl _), codePoint?, hpoint,
    hdigits, decide_eq_true hvalid, Char.ofNat_toNat]
  rfl

/-- What stands behind a backslash is read as the character that it spells. -/
theorem escape?_of_spells {c : Char} {escape : Text} (h : Spells c ('\\' :: escape))
    (rest : Text) : escape? (escape ++ rest) = some (c, rest) := by
  cases h with
  | plain hplain hquote hslash => exact absurd rfl hslash
  | letter h =>
      simp only [letterEscapes, List.mem_cons, Prod.mk.injEq, List.not_mem_nil, or_false] at h
      rcases h with ⟨rfl, rfl⟩ | ⟨rfl, rfl⟩ | ⟨rfl, rfl⟩ | ⟨rfl, rfl⟩ | ⟨rfl, rfl⟩ | ⟨rfl, rfl⟩ |
        ⟨rfl, rfl⟩ <;> rfl
  | point h hlength hdigits hpoint =>
      have hread := codePointAt?_append rest hdigits hpoint
      simp only [pointEscapes, List.mem_cons, Prod.mk.injEq, List.not_mem_nil, or_false] at h
      rcases h with ⟨rfl, rfl⟩ | ⟨rfl, rfl⟩ <;> rw [hlength] at hread <;> exact hread

theorem basic?_of_spells {c : Char} {form : Text} (h : Spells c form) (rest : Text) :
    basic? (form ++ rest) = (basic? rest).map fun (body, after) => (c :: body, after) := by
  have hescaped {escape : Text} (h : Spells c ('\\' :: escape)) :
      basic? ('\\' :: escape ++ rest) =
        (basic? rest).map fun (body, after) => (c :: body, after) := by
    rw [List.cons_append, basic?, if_neg (by decide), if_pos rfl, escape?_of_spells h]
  cases h with
  | plain hplain hquote hslash =>
      rw [List.singleton_append, basic?, if_neg hquote, if_neg hslash, if_pos hplain]
  | letter h => exact hescaped (.letter h)
  | point h hlength hdigits hpoint => exact hescaped (.point h hlength hdigits hpoint)

namespace Spelling

variable (spelling : Spelling)

/-- A string is read as it is spelled. -/
theorem basic?_flatMap (s rest : Text) :
    basic? (s.flatMap spelling.form ++ '"' :: rest) = some (s, rest) := by
  induction s with
  | nil => rw [List.flatMap_nil, List.nil_append, basic?, if_pos rfl]
  | cons c s ih =>
      rw [List.flatMap_cons, List.append_assoc, basic?_of_spells (spelling.spells c), ih]
      rfl

theorem quoted_append (s rest : Text) :
    spelling.quoted s ++ rest = '"' :: (s.flatMap spelling.form ++ '"' :: rest) := by
  rw [quoted, List.cons_append, List.append_assoc, List.singleton_append]

/-- No character is spelled with a quote in front. -/
theorem head?_form_ne (c : Char) (rest : Text) : (spelling.form c ++ rest).head? ≠ some '"' := by
  cases hform : spelling.form c with
  | nil => cases hform ▸ spelling.spells c
  | cons first form =>
      have hspells := spelling.spells c
      rw [hform] at hspells
      intro hfirst
      obtain rfl : first = '"' := Option.some.inj hfirst
      cases hspells with
      | plain hplain hquote hslash => exact hquote rfl

/-- The text in double quotes is read back. Only if it is empty do two quotes
    come first, and then there is no third one. -/
theorem string?_quoted (s : Text) {c : Char} (hc : c ≠ '"') (rest : Text) :
    string? (spelling.quoted s ++ c :: rest) = some (s, c :: rest) := by
  have hread := spelling.basic?_flatMap s (c :: rest)
  rw [quoted_append]
  cases s with
  | nil =>
      rw [List.flatMap_nil, List.nil_append] at hread ⊢
      rw [string?]
      · exact hread
      · intro after heq
        exact hc (List.cons.inj (List.cons.inj heq).2).1
  | cons d s =>
      rw [List.flatMap_cons, List.append_assoc] at hread ⊢
      rw [string?]
      · exact hread
      · intro after heq
        exact spelling.head?_form_ne d _ (congrArg List.head? heq)

/-! ### Keys -/

/-- A key begins with a quote or with a character of keys without quotes. -/
theorem exists_key_eq (name : Text) :
    ∃ c tail, spelling.key name = c :: tail ∧ ∀ d, d ≠ '"' → isKeyChar d = false → c ≠ d := by
  rw [key]
  split
  · next h =>
      rcases List.exists_cons_of_ne_nil h.1 with ⟨c, tail, rfl⟩
      rw [List.all_cons, Bool.and_eq_true] at h
      exact ⟨c, tail, rfl, fun d _ hd => Text.ne_of_passes h.2.1 hd⟩
  · exact ⟨'"', _, rfl, fun d hquote _ => hquote.symm⟩

theorem key?_key (name : Text) {c : Char} (hc : isKeyChar c = false) (rest : Text) :
    key? (spelling.key name ++ c :: rest) = some (name, c :: rest) := by
  rw [key]
  split
  · next h =>
      have hall := List.all_eq_true.mp h.2
      rcases List.exists_cons_of_ne_nil h.1 with ⟨d, tail, rfl⟩
      have hd := hall d List.mem_cons_self
      rw [key?]
      · rw [List.takeWhile_append_of_pos hall, List.dropWhile_append_of_pos hall,
          List.takeWhile_cons, List.dropWhile_cons, hc]
        simp
      · intro after heq
        exact Text.ne_of_passes hd (by decide) (List.cons.inj heq).1
      · intro after heq
        exact Text.ne_of_passes hd (by decide) (List.cons.inj heq).1
  · rw [quoted_append, key?, basic?_flatMap]

/-- A key without dots is a path. It ends in front of the next character that is
    no space. -/
theorem path?_key (name : Text) {c d : Char} (hc : isKeyChar c = false) {rest after : Text}
    (hd : d ≠ '.') (hafter : skipSpaces (c :: rest) = d :: after) :
    path? (spelling.key name ++ c :: rest) = some (([], name), d :: after) := by
  have hstart : skipSpaces (spelling.key name ++ c :: rest) = spelling.key name ++ c :: rest := by
    rcases spelling.exists_key_eq name with ⟨first, tail, hkey, hfirst⟩
    rw [hkey]
    exact skipSpaces_cons (hfirst ' ' (by decide) (by decide)) (hfirst '\t' (by decide) (by decide))
  rw [path?, hstart, spelling.key?_key name hc]
  simp only [hafter]
  split
  · next heq => exact absurd (List.cons.inj heq).1 hd
  · rfl

end Spelling

/-! ### Values -/

/-- A word ends with its line. -/
theorem word_append {s : Text} (h : s.all fun c => !endsWord c) (rest : Text) :
    word (s ++ '\n' :: rest) = (s, '\n' :: rest) := by
  have hall : ∀ c ∈ s, (fun c => !endsWord c) c = true := List.all_eq_true.mp h
  have htake : (s ++ '\n' :: rest).takeWhile (fun c => !endsWord c) = s := by
    rw [List.takeWhile_append_of_pos hall, List.takeWhile_cons, if_neg (by decide),
      List.append_nil]
  have hdrop : (s ++ '\n' :: rest).dropWhile (fun c => !endsWord c) = '\n' :: rest := by
    rw [List.dropWhile_append_of_pos hall, List.dropWhile_cons, if_neg (by decide)]
  rw [word]
  split
  · next hnil => exact absurd (hdrop.symm.trans hnil) (List.cons_ne_nil _ _)
  · next c after hcons =>
      obtain ⟨rfl, rfl⟩ := List.cons.inj (hdrop.symm.trans hcons)
      have hspace : isSpace '\n' = false := rfl
      simp only [htake, hspace, Bool.false_and, if_neg Bool.false_ne_true]

theorem hasNeedlessZero_decimal (n : Nat) :
    Unsigned.hasNeedlessZero ⟨false, false, Text.decimal n⟩ (Text.decimal n) = false := by
  by_cases hn : n = 0
  · subst hn
    rfl
  · have hhead : ((Text.decimal n).head? == some '0') = false :=
      beq_eq_false_iff_ne.mpr (Text.head?_decimal_ne_zero hn)
    rw [Unsigned.hasNeedlessZero, hhead]
    rfl

/-- Digits have no sign. -/
theorem ofWord_decimal (n : Nat) :
    Unsigned.ofWord (Text.decimal n) = ⟨false, false, Text.decimal n⟩ := by
  have hplus : ∀ rest, Text.decimal n ≠ '+' :: rest := fun rest heq =>
    Text.not_mem_decimal (n := n) (c := '+') (by decide) (heq ▸ List.mem_cons_self)
  have hminus : ∀ rest, Text.decimal n ≠ '-' :: rest := fun rest heq =>
    Text.not_mem_decimal (n := n) (c := '-') (by decide) (heq ▸ List.mem_cons_self)
  have hsign : sign (Text.decimal n) = (false, Text.decimal n) := by
    rw [sign]
    · exact hminus
    · exact hplus
  rw [Unsigned.ofWord, hsign]
  · exact fun rest heq => hminus _ heq
  · exact fun rest heq => hplus _ heq

/-- A number without a sign and without underscores. -/
theorem integer?_decimal (n : Nat) : integer? (Text.decimal n) = some (.integer n) := by
  have hgroups : Text.splitOn '_' (Text.decimal n) = [Text.decimal n] :=
    Text.splitOn_of_not_mem (Text.not_mem_decimal (by decide))
  have hdigits : ∀ c ∈ Text.decimal n, Text.isDigit c = true := fun c hc =>
    Text.isDigit_of_isDigit (Text.isDigit_of_mem_decimal hc)
  have hedges : hasEdges [Text.decimal n] = true := by
    rcases Text.exists_decimal_eq n with ⟨c, rest, hcons, hc⟩
    rw [hcons]
    exact Text.isDigitOf_of_isDigit hc
  have hforeign : (Text.decimal n).any isForeign = false := by
    rw [List.any_eq_false]
    intro c hc hforeign
    have hdigit := hdigits c hc
    simp only [isForeign, Bool.or_eq_true, beq_iff_eq] at hforeign
    rcases hforeign with ((rfl | rfl) | rfl) | rfl <;> exact absurd hdigit (by decide)
  -- No mark of another base comes second.
  have hmark {mark : Char} (hmark : Text.isDigit mark = false) :
      ∀ rest, Text.decimal n ≠ '0' :: mark :: rest := fun rest heq =>
    Text.not_mem_decimal hmark (heq ▸ List.mem_cons_of_mem _ List.mem_cons_self)
  rw [integer?]
  · simp only [ofWord_decimal, hgroups, List.head?_cons, Option.any_some,
      List.all_eq_true.mpr hdigits, hforeign, hedges, hasNeedlessZero_decimal,
      List.flatten_singleton, Text.readDigits_decimal, Unsigned.sized]
    rfl
  · exact hmark (by decide)
  · exact hmark (by decide)
  · exact hmark (by decide)

theorem scalar?_decimal (n : Nat) : scalar? (Text.decimal n) = some (.integer n) := by
  have htrue : Text.decimal n ≠ ['t', 'r', 'u', 'e'] := fun heq =>
    Text.not_mem_decimal (n := n) (c := 't') (by decide) (heq ▸ List.mem_cons_self)
  have hfalse : Text.decimal n ≠ ['f', 'a', 'l', 's', 'e'] := fun heq =>
    Text.not_mem_decimal (n := n) (c := 'f') (by decide) (heq ▸ List.mem_cons_self)
  rw [scalar?, if_neg htrue, if_neg hfalse, integer?_decimal]

/-- A value without quotes and brackets is the word in front of the end of the
    line. -/
theorem value?_word {s : Text} {scalar : Scalar} (hne : s ≠ [])
    (hs : s.all (fun c => !endsWord c && c != '"' && c != '\'') = true)
    (hscalar : scalar? s = some scalar) (depth : Nat) (rest : Text) :
    value? depth (s ++ '\n' :: rest) = some (.scalar scalar, '\n' :: rest) := by
  rcases List.exists_cons_of_ne_nil hne with ⟨c, tail, rfl⟩
  have hword : ((c :: tail).all fun c => !endsWord c) = true :=
    List.all_eq_true.mpr fun d hd => by
      have := List.all_eq_true.mp hs d hd
      simp only [Bool.and_eq_true] at this
      exact this.1.1
  have hfirst := List.all_eq_true.mp hs c List.mem_cons_self
  have hquote : ¬(c = '"' ∨ c = '\'') := by rintro (rfl | rfl) <;> exact absurd hfirst (by decide)
  have hbracket : c ≠ '[' := by rintro rfl; exact absurd hfirst (by decide)
  have hbrace : c ≠ '\x7b' := by rintro rfl; exact absurd hfirst (by decide)
  -- Neither a quote nor a bracket comes first, so the value is read as a word.
  have hread := word_append hword rest
  rw [List.cons_append] at hread ⊢
  rw [value?.eq_def]
  simp only [if_neg hquote, if_neg hbracket, if_neg hbrace, hread, hscalar]
  rfl

/-- A setting is read as it is written at the end of a line. -/
theorem value?_written (spelling : Spelling) (setting : Setting) (depth : Nat) (rest : Text) :
    value? depth (setting.written spelling ++ '\n' :: rest) =
      some (setting.value, '\n' :: rest) := by
  cases setting with
  | text s =>
      have hread := spelling.string?_quoted s (c := '\n') (by decide) rest
      rw [Spelling.quoted_append] at hread
      rw [Setting.written, Spelling.quoted_append, value?.eq_def]
      simp only [true_or, if_true, hread]
      rfl
  | count n =>
      refine value?_word Nat.toDigits_ne_nil (List.all_eq_true.mpr fun c hc => ?_)
        (scalar?_decimal n) depth rest
      have hdigit := Text.isDigit_of_isDigit (Text.isDigit_of_mem_decimal hc)
      simp only [endsWord, isSpace, Bool.and_eq_true, Bool.not_eq_true', Bool.or_eq_false_iff,
        beq_eq_false_iff_ne, bne_iff_ne]
      and_intros <;> exact Text.ne_of_passes hdigit (by decide)
  | flag b =>
      cases b with
      | false =>
          exact value?_word (s := ['f', 'a', 'l', 's', 'e']) (by decide) (by decide) rfl depth rest
      | true => exact value?_word (s := ['t', 'r', 'u', 'e']) (by decide) (by decide) rfl depth rest

/-- No setting is written with a space in front. -/
theorem skipSpaces_written (spelling : Spelling) (setting : Setting) (rest : Text) :
    skipSpaces (setting.written spelling ++ rest) = setting.written spelling ++ rest := by
  cases setting with
  | text s => exact skipSpaces_cons (c := '"') (by decide) (by decide)
  | count n =>
      rcases Text.exists_decimal_eq n with ⟨c, tail, hcons, hc⟩
      rw [Setting.written, hcons]
      exact skipSpaces_cons (Text.ne_of_passes hc (by decide)) (Text.ne_of_passes hc (by decide))
  | flag b =>
      cases b with
      | false => exact skipSpaces_cons (c := 'f') (by decide) (by decide)
      | true => exact skipSpaces_cons (c := 't') (by decide) (by decide)

/-! ### Lines -/

/-- The entries after some more text. The path leads to the table of the last
    header. -/
def readOn? (table : List Text) (entries : Entries) (s : Text) : Option Entries :=
  (statements? s).bind (build? table entries)

theorem parse?_of_head?_ne {s : Text} (h : s.head? ≠ some '\uFEFF') :
    parse? s = readOn? [] [] s := by
  have hs : Text.dropFirstIf '\uFEFF' s = s := by
    cases s with
    | nil => rfl
    | cons c s => rw [Text.dropFirstIf, if_neg fun heq => h (congrArg some heq)]
  simp only [parse?, hs, readOn?]
  cases statements? s <;> rfl

/-- The end of a text is read as one more statement. -/
theorem statements?_nil : statements? [] = some [.nothing] := by
  rw [statements?]
  rfl

@[simp]
theorem readOn?_nil (table : List Text) (entries : Entries) :
    readOn? table entries [] = some entries := by
  rw [readOn?, statements?_nil]
  rfl

/-- What a statement at the start of a text does is done before the rest is
    read. -/
theorem readOn?_of_statement? {s after rest : Text} {statement : Statement}
    (hstatement : statement? s = some (statement, after)) (hend : lineEnd? after = some rest)
    (hlt : rest.length < s.length) (table : List Text) (entries : Entries) :
    readOn? table entries s =
      (statements? rest).bind fun statements =>
        build? table entries (statement :: statements) := by
  rw [readOn?, statements?, hstatement]
  simp only [hend]
  split
  · next hempty =>
      -- Behind the last line the reader stops, instead of reading an empty line.
      obtain rfl := List.isEmpty_iff.mp hempty
      rw [statements?_nil]
      cases statement <;> simp only [Option.bind_some, build?]
  · cases statements? rest <;> rfl

theorem lineEnd?_newline (rest : Text) : lineEnd? ('\n' :: rest) = some rest := by
  have hskip : skipComment (skipSpaces ('\n' :: rest)) = '\n' :: rest := by
    rw [skipSpaces_cons (by decide) (by decide)]
    rfl
  rw [lineEnd?, hskip]
  rfl

theorem lineEnd?_comment {s : Text} (hs : s.all isPlain = true) (rest : Text) :
    lineEnd? ('#' :: (s ++ '\n' :: rest)) = some rest := by
  have hskip : skipComment (skipSpaces ('#' :: (s ++ '\n' :: rest))) = '\n' :: rest := by
    rw [skipSpaces_cons (by decide) (by decide), skipComment,
      List.dropWhile_append_of_pos (List.all_eq_true.mp hs), List.dropWhile_cons,
      if_neg (by decide)]
  rw [lineEnd?, hskip]
  rfl

theorem readOn?_note (note : Note) (table : List Text) (entries : Entries) (rest : Text) :
    readOn? table entries (note.line ++ rest) = readOn? table entries rest := by
  have hnothing {s : Text} (hstatement : statement? s = some (.nothing, s))
      (hend : lineEnd? s = some rest) (hlt : rest.length < s.length) :
      readOn? table entries s = readOn? table entries rest :=
    readOn?_of_statement? hstatement hend hlt table entries
  cases note with
  | blank =>
      refine hnothing (s := '\n' :: rest) ?_ (lineEnd?_newline rest) (by simp)
      rw [statement?, skipSpaces_cons (by decide) (by decide)]
      rfl
  | comment s plain =>
      have hline : Note.line (.comment s plain) ++ rest = '#' :: (s ++ '\n' :: rest) := by
        rw [Note.line, List.cons_append, List.append_assoc, List.singleton_append]
      rw [hline]
      refine hnothing ?_ (lineEnd?_comment plain rest) (by simp; omega)
      rw [statement?, skipSpaces_cons (by decide) (by decide)]
      rfl

namespace Spelling

variable (spelling : Spelling)

theorem head?_entry_ne (name value : Text) {c : Char} (hquote : c ≠ '"')
    (hc : isKeyChar c = false) : (spelling.entry name value).head? ≠ some c := by
  rcases spelling.exists_key_eq name with ⟨first, tail, hkey, hfirst⟩
  rw [entry, hkey]
  exact fun h => hfirst c hquote hc (Option.some.inj h)

theorem statement?_header (name rest : Text) :
    statement? (spelling.header name ++ rest) = some (.table [] name, '\n' :: rest) := by
  have hpath : path? (spelling.key name ++ ']' :: '\n' :: rest) =
      some (([], name), ']' :: '\n' :: rest) :=
    spelling.path?_key name (by decide) (by decide) rfl
  rcases spelling.exists_key_eq name with ⟨c, tail, hkey, hfirst⟩
  -- A key does not begin with a bracket, so this is no header in double brackets.
  have hbracket := hfirst '[' (by decide) (by decide)
  have hline : spelling.header name ++ rest =
      '[' :: (spelling.key name ++ ']' :: '\n' :: rest) := by
    rw [header, List.cons_append, List.append_assoc]
    rfl
  rw [hline, statement?, skipSpaces_cons (by decide) (by decide)]
  rw [hkey, List.cons_append] at hpath ⊢
  split
  · next heq => exact absurd heq (List.cons_ne_nil _ _)
  · next heq => exact absurd (List.cons.inj (List.cons.inj heq).2).1 hbracket
  · next heq =>
      obtain rfl := (List.cons.inj heq).2
      rw [hpath]
      rfl
  · next hne heq => exact absurd (List.cons.inj heq).1.symm hne

theorem statement?_entry (name value : Text) :
    statement? (spelling.entry name value) =
      (value? maxDepth (skipSpaces value)).map fun (value, rest) =>
        (.value [] name value, rest) := by
  have hpath : path? (spelling.entry name value) = some (([], name), '=' :: ' ' :: value) :=
    spelling.path?_key name (by decide) (by decide) rfl
  rcases spelling.exists_key_eq name with ⟨c, tail, hkey, hfirst⟩
  have hline : spelling.entry name value = c :: (tail ++ ' ' :: '=' :: ' ' :: value) := by
    rw [entry, hkey, List.cons_append]
  have hbracket := hfirst '[' (by decide) (by decide)
  have hstart : ¬(c = '#' ∨ c = '\n' ∨ c = '\r') := by
    rintro (h | h | h) <;> exact hfirst _ (by decide) (by decide) h
  rw [hline] at hpath ⊢
  rw [statement?, skipSpaces_cons (hfirst ' ' (by decide) (by decide))
    (hfirst '\t' (by decide) (by decide))]
  split
  · next heq => exact absurd heq (List.cons_ne_nil _ _)
  · next heq => exact absurd (List.cons.inj heq).1 hbracket
  · next heq => exact absurd (List.cons.inj heq).1 hbracket
  · next heq =>
      obtain ⟨rfl, rfl⟩ := List.cons.inj heq
      have hequals : skipSpaces ('=' :: ' ' :: value) = '=' :: ' ' :: value :=
        skipSpaces_cons (by decide) (by decide)
      have hspace : skipSpaces (' ' :: value) = skipSpaces value := rfl
      rw [if_neg hstart, pair?, hpath]
      simp only [hequals, hspace]
      cases value? maxDepth (skipSpaces value) <;> rfl

end Spelling

/-- A header adds its table, and what comes behind it goes into that table. -/
theorem readOn?_header (spelling : Spelling) (name : Text) (table : List Text)
    (entries : Entries) (rest : Text) :
    readOn? table entries (spelling.header name ++ rest) =
      (addTable? [] name entries).bind fun entries => readOn? [name] entries rest := by
  rw [readOn?_of_statement? (spelling.statement?_header name rest) (lineEnd?_newline rest)
    (by simp [Spelling.header]; omega)]
  simp only [build?, readOn?, List.nil_append]
  cases addTable? [] name entries with
  | none => cases statements? rest <;> rfl
  | some next => rfl

/-- A setting adds its value to the table of the last header. -/
theorem readOn?_setting (spelling : Spelling) (name : Text) (setting : Setting)
    (table : List Text) (entries : Entries) (rest : Text) :
    readOn? table entries (spelling.entry name (setting.written spelling ++ '\n' :: rest)) =
      (addValueAt? table [] name setting.value entries).bind fun entries =>
        readOn? table entries rest := by
  have hstatement := spelling.statement?_entry name (setting.written spelling ++ '\n' :: rest)
  rw [skipSpaces_written, value?_written] at hstatement
  rw [readOn?_of_statement? hstatement (lineEnd?_newline rest)
    (by simp [Spelling.entry]; omega)]
  simp only [build?, readOn?]
  cases addValueAt? table [] name setting.value entries with
  | none => cases statements? rest <;> rfl
  | some next => rfl

theorem Holds.readOn {table place : List Text} {entries result : Entries} {s : Text}
    (h : readOn? table entries s = some result) (hplace : Holds place entries) :
    Holds place result := by
  rcases Option.bind_eq_some_iff.mp h with ⟨statements, -, hbuild⟩
  exact hplace.build hbuild

/-- The first statement is what the text begins with. -/
theorem exists_of_statements? {s : Text} {statements : List Statement}
    (h : statements? s = some statements) :
    ∃ statement after later, statement? s = some (statement, after) ∧
      statements = statement :: later := by
  rw [statements?] at h
  split at h
  · exact absurd h.symm (Option.some_ne_none _)
  · next statement after hstatement =>
      refine ⟨statement, after, ?_⟩
      split at h
      · exact absurd h.symm (Option.some_ne_none _)
      · split at h
        · exact ⟨[], hstatement, (Option.some.inj h).symm⟩
        · split at h
          · rcases Option.map_eq_some_iff.mp h with ⟨later, -, hlater⟩
            exact ⟨later, hstatement, hlater.symm⟩
          · exact absurd h.symm (Option.some_ne_none _)

/-- If a text goes on with a key and is a document at all, there was a value for
    the key, and it stays. -/
theorem exists_of_readOn?_entry {spelling : Spelling} {name value : Text} {table : List Text}
    {entries result : Entries}
    (h : readOn? table entries (spelling.entry name value) = some result) :
    ∃ value next, addValueAt? table [] name value entries = some next ∧
      ∀ place, Holds place next → Holds place result := by
  rcases Option.bind_eq_some_iff.mp h with ⟨statements, hstatements, hbuild⟩
  rcases exists_of_statements? hstatements with ⟨statement, after, later, hstatement, rfl⟩
  -- That the text is a document tells that a value was read.
  rw [spelling.statement?_entry] at hstatement
  rcases Option.map_eq_some_iff.mp hstatement with ⟨⟨value, rest⟩, -, heq⟩
  obtain ⟨rfl, rfl⟩ := Prod.mk.inj heq
  rw [build?] at hbuild
  split at hbuild
  · next next hadd => exact ⟨value, next, hadd, fun place => Holds.build hbuild⟩
  · exact absurd hbuild.symm (Option.some_ne_none _)

/-! ### Documents of lines -/

/-- The entries after some lines. The name is that of the last header above
    them. -/
def entriesAfter? : (table : Option Text) → Entries → List Line → Option Entries
  | _, entries, [] => some entries
  | table, entries, .note _ :: lines => entriesAfter? table entries lines
  | _, entries, .header name :: lines =>
    (addTable? [] name entries).bind fun entries => entriesAfter? (some name) entries lines
  | table, entries, .setting name setting :: lines =>
    (addValueAt? table.toList [] name setting.value entries).bind fun entries =>
      entriesAfter? table entries lines

/-- Lines are read one after the other, whatever comes behind them. -/
theorem readOn?_lines (spelling : Spelling) (lines : List Line) (rest : Text)
    (table : Option Text) (entries : Entries) :
    readOn? table.toList entries (spelling.lines lines ++ rest) =
      (entriesAfter? table entries lines).bind fun entries =>
        readOn? (current table lines).toList entries rest := by
  induction lines generalizing table entries with
  | nil => rfl
  | cons line lines ih =>
      rw [Spelling.lines_cons, List.append_assoc]
      cases line with
      | note note =>
          rw [Spelling.line, readOn?_note]
          exact ih table entries
      | header name =>
          rw [Spelling.line, readOn?_header, entriesAfter?, Option.bind_assoc]
          exact Option.bind_congr fun entries _ => ih (some name) entries
      | setting name setting =>
          have hline : spelling.line (.setting name setting) ++ (spelling.lines lines ++ rest) =
              spelling.entry name (setting.written spelling ++ '\n' ::
                (spelling.lines lines ++ rest)) := by
            simp [Spelling.line, Spelling.entry]
          rw [hline, readOn?_setting, entriesAfter?, Option.bind_assoc]
          exact Option.bind_congr fun entries _ => ih table entries

/-- No line begins with a byte order mark. -/
theorem head?_line_append_ne (spelling : Spelling) (line : Line) (rest : Text) :
    (spelling.line line ++ rest).head? ≠ some '\uFEFF' := by
  intro h
  cases line with
  | note note =>
      cases note with
      | blank => exact absurd (Option.some.inj h) (by decide)
      | comment s plain => exact absurd (Option.some.inj h) (by decide)
  | header name => exact absurd (Option.some.inj h) (by decide)
  | setting name setting =>
      refine spelling.head?_entry_ne name (setting.written spelling ++ ['\n'])
        (c := '\uFEFF') (by decide) (by decide) ?_
      rcases spelling.exists_key_eq name with ⟨first, tail, hkey, -⟩
      simp only [Spelling.line, Spelling.entry, hkey] at h ⊢
      exact h

theorem parse?_lines_append (spelling : Spelling) (lines : List Line) {rest : Text}
    (hrest : rest.head? ≠ some '\uFEFF') :
    parse? (spelling.lines lines ++ rest) =
      (entriesAfter? none [] lines).bind fun entries =>
        readOn? (current none lines).toList entries rest := by
  rw [← readOn?_lines, Option.toList_none]
  refine parse?_of_head?_ne ?_
  cases lines with
  | nil => exact hrest
  | cons line lines =>
      rw [Spelling.lines_cons, List.append_assoc]
      exact head?_line_append_ne spelling line _

/-! ### What the lines describe -/

/-- The entry of a setting. -/
def settingEntry : Text × Setting → Text × Value
  | (name, setting) => (name, setting.value)

/-- The entry of a table that has its settings from the lines below its
    header. -/
def tableEntry : Text × Settings → Text × Value
  | (name, settings) => (name, .table .header (putAll settingEntry settings []))

/-- Lines below a header fill its table up to the next header. -/
theorem entriesAfter?_some {name : Text} {content entries : Entries} {lines : List Line}
    (hsettings : Fresh settingEntry (outline lines).1 content)
    (htables : ∀ value, Fresh tableEntry (outline lines).2 (put name value entries))
    (hnames : ∀ table ∈ (outline lines).2, (table.2.map Prod.fst).Nodup) :
    entriesAfter? (some name) (put name (.table .header content) entries) lines =
      some (putAll tableEntry (outline lines).2
        (put name (.table .header (putAll settingEntry (outline lines).1 content)) entries)) := by
  induction lines generalizing name content entries with
  | nil => rfl
  | cons line lines ih =>
      cases line with
      | note note => exact ih hsettings htables hnames
      | setting key setting =>
          have hnone : content.lookup key = none :=
            hsettings.lookup_eq_none (key, setting) List.mem_cons_self
          have hadd : addValueAt? [name] [] key setting.value
                (put name (.table .header content) entries) =
              some (put name (.table .header (put key setting.value content)) entries) := by
            rw [addValueAt?_of_lookup (lookup_put_self _ _ _), hnone, put_put]
            rfl
          rw [entriesAfter?, Option.toList_some, hadd]
          exact ih (hsettings.tail _) htables hnames
      | header next =>
          -- The table is complete, and the next one begins without entries.
          have hfresh := htables (.table .header content)
          have hnone : (put name (.table .header content) entries).lookup next = none :=
            hfresh.lookup_eq_none (next, (outline lines).1) List.mem_cons_self
          rw [entriesAfter?, addTable?_of_lookup hnone]
          refine ih (fresh_nil ?_) hfresh.tail fun table htable =>
            hnames table (List.mem_cons_of_mem _ htable)
          exact hnames (next, (outline lines).1) List.mem_cons_self

/-- Lines in front of all headers are entries of the document itself. -/
theorem entriesAfter?_none {entries : Entries} {lines : List Line}
    (hsettings : Fresh settingEntry (outline lines).1 entries)
    (htables : Fresh tableEntry (outline lines).2
      (putAll settingEntry (outline lines).1 entries))
    (hnames : ∀ table ∈ (outline lines).2, (table.2.map Prod.fst).Nodup) :
    entriesAfter? none entries lines =
      some (putAll tableEntry (outline lines).2
        (putAll settingEntry (outline lines).1 entries)) := by
  induction lines generalizing entries with
  | nil => rfl
  | cons line lines ih =>
      cases line with
      | note note => exact ih hsettings htables hnames
      | setting key setting =>
          have hnone : entries.lookup key = none :=
            hsettings.lookup_eq_none (key, setting) List.mem_cons_self
          rw [entriesAfter?, Option.toList_none, addValueAt?_nil_of_lookup hnone]
          exact ih (hsettings.tail _) htables hnames
      | header next =>
          have hnone : entries.lookup next = none :=
            htables.lookup_eq_none (next, (outline lines).1) List.mem_cons_self
          rw [entriesAfter?, addTable?_of_lookup hnone]
          refine entriesAfter?_some (fresh_nil ?_) htables.tail fun table htable =>
            hnames table (List.mem_cons_of_mem _ htable)
          exact hnames (next, (outline lines).1) List.mem_cons_self

/-- A table with some settings holds these. -/
theorem reflects_putAll {settings : Settings} (h : (settings.map Prod.fst).Nodup) :
    Reflects settings (putAll settingEntry settings []) := by
  have hfresh : Fresh settingEntry settings [] := fresh_nil h
  have hnames : ((putAll settingEntry settings []).map Prod.fst).Perm (settings.map Prod.fst) :=
    List.append_nil (settings.map Prod.fst) ▸ names_putAll_perm hfresh
  have hnodup := hnames.nodup_iff.mpr h
  refine ⟨hnodup, fun name setting hmem => lookup_of_mem hnodup ?_, fun name =>
    hnames.mem_iff.mp⟩
  exact (putAll_perm hfresh).mem_iff.mpr
    (List.mem_append_left _ (List.mem_map_of_mem hmem))

/-- Orderly lines are a document that describes what they do. -/
theorem exists_parse?_lines (spelling : Spelling) {lines : List Line} (h : Orderly lines) :
    ∃ entries, parse? (spelling.lines lines) = some entries ∧ Describes lines entries := by
  rcases List.nodup_append.mp h.names with ⟨hfirst, htables, hapart⟩
  have hreflects := reflects_putAll hfirst
  have hfresh : Fresh tableEntry (outline lines).2 (putAll settingEntry (outline lines).1 []) := by
    refine ⟨htables, fun table htable => lookup_eq_none fun hmem => ?_⟩
    exact hapart _ (hreflects.known _ hmem) _ (List.mem_map_of_mem htable) rfl
  have hperm := putAll_perm hfresh
  have hnames := names_putAll_perm hfresh
  have hnodup := hnames.nodup_iff.mpr (List.nodup_append.mpr ⟨htables, hreflects.nodup,
    fun name htable other hother heq =>
      hapart other (hreflects.known other hother) name htable heq.symm⟩)
  refine ⟨_, ?_, hnodup, fun name setting hmem => ?_, fun name settings hmem => ?_,
    fun name hname => ?_⟩
  · have hmark : ([] : Text).head? ≠ some '\uFEFF' := by decide
    have hread := parse?_lines_append spelling lines hmark
    rw [List.append_nil, entriesAfter?_none (fresh_nil hfirst) hfresh h.tables] at hread
    exact hread.trans (readOn?_nil _ _)
  · have hlookup := mem_of_lookup (hreflects.lookup name setting hmem)
    exact lookup_of_mem hnodup (hperm.mem_iff.mpr (List.mem_append_right _ hlookup))
  · refine ⟨.header, putAll settingEntry settings [], lookup_of_mem hnodup ?_,
      reflects_putAll (h.tables _ hmem)⟩
    exact hperm.mem_iff.mpr (List.mem_append_left _ (List.mem_map_of_mem hmem))
  · -- A name is that of a table, or of one of the settings in front of the headers.
    rcases List.mem_append.mp (hnames.mem_iff.mp hname) with htable | hsetting
    · exact List.mem_append_right _ htable
    · exact List.mem_append_left _ (hreflects.known name hsetting)

end ChatMarkup.Toml
