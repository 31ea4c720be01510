import ChatMarkup.Text.Digits
import ChatMarkup.Toml.Parse
import Mathlib.Algebra.GroupWithZero.Nat
import Mathlib.Data.List.Nodup

/-!
# Documents Made of Lines

What documents look like that have one thing to say on each line, and what they
describe.

There is more than one way to write a string. A character can stand for itself,
a few have a letter of their own, and all can be given by their code point. A
`Spelling` fixes one of the ways for each character, so a law about all of
them covers every writer that escapes what must be escaped.

A line is a note, the header of a table, or a key with a value. What the lines
describe is told without reading them as text: a key belongs to the table of the
last header above it, and no order matters among the keys of a table or among
tables. Of a table that comes from a document only look-ups are told, because
the order of its entries is nobody's business.

## Main definitions

* `Spells`, `Spelling`: The ways to write a character in double quotes.
* `Setting`: A value that is written on one line.
* `Note`, `Line`: A line that says nothing, and any line.
* `Spelling.lines`: The text of some lines.
* `outline`: The tables that lines describe.
* `Orderly`: Lines that describe any.
* `Describes`: What a table holds that some lines describe.
* `current`: The table that the next line belongs to.
-/

namespace ChatMarkup.Toml

/-! ### Strings and keys -/

/-- The letters that stand for a character behind a backslash. -/
def letterEscapes : List (Char × Char) :=
  [('b', '\x08'), ('t', '\t'), ('n', '\n'), ('f', '\x0c'), ('r', '\r'), ('"', '"'), ('\\', '\\')]

/-- The letters in front of digits that write a code point, and how many digits
    there are. -/
def pointEscapes : List (Char × Nat) :=
  [('u', 4), ('U', 8)]

/-- The ways to write a character in double quotes. -/
inductive Spells : Char → Text → Prop
  /-- The character itself, unless it ends the string or begins an escape. -/
  | plain {c : Char} (hplain : isPlain c = true) (hquote : c ≠ '"') (hslash : c ≠ '\\') :
      Spells c [c]
  /-- A letter behind a backslash. -/
  | letter {c letter : Char} (h : (letter, c) ∈ letterEscapes) : Spells c ['\\', letter]
  /-- The code point in hexadecimal digits. -/
  | point {c mark : Char} {count : Nat} {digits : Text} (h : (mark, count) ∈ pointEscapes)
      (hlength : digits.length = count) (hdigits : digits.all (Text.isDigitOf 16) = true)
      (hpoint : Text.readDigits 16 digits = c.toNat) : Spells c ('\\' :: mark :: digits)

/-- How strings are written: a form for each character. -/
structure Spelling where
  form : Char → Text
  spells (c : Char) : Spells c (form c)

/-- The four digits of a code point that is at most two digits long. -/
def shortDigits (point : Nat) : Text :=
  ['0', '0', Nat.digitChar (point / 16), Nat.digitChar (point % 16)]

theorem toNat_lt_of_not_isPlain {c : Char} (h : isPlain c = false) : c.toNat < 128 := by
  rw [isPlain, Bool.or_eq_false_iff, Bool.and_eq_false_iff] at h
  rcases h.2 with hcontrol | hdelete
  · have hlt : c.toNat < ' '.toNat := Char.not_le.mp (of_decide_eq_false hcontrol)
    exact Nat.lt_trans hlt (by decide)
  · rw [bne_eq_false_iff_eq] at hdelete
    rw [hdelete]
    decide

/-- The spelling that escapes what must be escaped and nothing else. -/
def Spelling.short : Spelling where
  form c :=
    if c = '"' ∨ c = '\\' then ['\\', c]
    else if isPlain c then [c]
    else '\\' :: 'u' :: shortDigits c.toNat
  spells c := by
    split_ifs with hmark hplain
    · rcases hmark with rfl | rfl <;> exact .letter (by decide)
    · rw [not_or] at hmark
      exact .plain hplain hmark.1 hmark.2
    · have hall : ∀ point < 128, (shortDigits point).all (Text.isDigitOf 16) = true ∧
          Text.readDigits 16 (shortDigits point) = point := by decide
      have hdigits := hall c.toNat (toNat_lt_of_not_isPlain (Bool.not_eq_true _ ▸ hplain))
      have hmark : ('u', 4) ∈ pointEscapes := List.mem_cons_self
      exact .point hmark rfl hdigits.1 hdigits.2

namespace Spelling

variable (spelling : Spelling)

/-- The text in double quotes. -/
def quoted (s : Text) : Text :=
  '"' :: (s.flatMap spelling.form ++ ['"'])

/-- A name as a key: in quotes, unless it can do without. -/
def key (name : Text) : Text :=
  if name ≠ [] ∧ name.all isKeyChar = true then name else spelling.quoted name

end Spelling

/-! ### Lines -/

/-- A value that is written on one line. -/
inductive Setting
  | text (s : Text)
  | count (n : Nat)
  | flag (b : Bool)
  deriving DecidableEq

/-- The value that the setting is. -/
def Setting.value : Setting → Value
  | text s => .scalar (.string s)
  | count n => .scalar (.integer n)
  | flag b => .scalar (.boolean b)

/-- The setting as it is written. -/
def Setting.written (spelling : Spelling) : Setting → Text
  | text s => spelling.quoted s
  | count n => Text.decimal n
  | flag true => ['t', 'r', 'u', 'e']
  | flag false => ['f', 'a', 'l', 's', 'e']

/-- Settings by name. -/
abbrev Settings := List (Text × Setting)

/-- A line that says nothing. -/
inductive Note
  | blank
  | comment (s : Text) (plain : s.all isPlain = true)

/-- The line with its end. -/
def Note.line : Note → Text
  | blank => ['\n']
  | comment s _ => '#' :: (s ++ ['\n'])

/-- A line of a document. -/
inductive Line
  /-- It says nothing. -/
  | note (note : Note)
  /-- The header of a table. -/
  | header (name : Text)
  /-- A key with a value. -/
  | setting (name : Text) (setting : Setting)

namespace Spelling

variable (spelling : Spelling)

/-- The header of a table. -/
def header (name : Text) : Text :=
  '[' :: (spelling.key name ++ [']', '\n'])

/-- A key, an equals sign and what is written behind it. -/
def entry (name value : Text) : Text :=
  spelling.key name ++ ' ' :: '=' :: ' ' :: value

/-- The line with its end. -/
def line : Line → Text
  | .note note => note.line
  | .header name => spelling.header name
  | .setting name setting => spelling.entry name (setting.written spelling ++ ['\n'])

/-- The lines, one below the other. -/
def lines (lines : List Line) : Text :=
  lines.flatMap spelling.line

@[simp]
theorem lines_nil : spelling.lines [] = [] :=
  rfl

@[simp]
theorem lines_cons (line : Line) (more : List Line) :
    spelling.lines (line :: more) = spelling.line line ++ spelling.lines more :=
  rfl

@[simp]
theorem lines_append (lines more : List Line) :
    spelling.lines (lines ++ more) = spelling.lines lines ++ spelling.lines more :=
  List.flatMap_append

end Spelling

/-! ### What lines describe -/

/-- The settings in front of the first header, and the tables with their
    settings. -/
def outline : List Line → Settings × List (Text × Settings)
  | [] => ([], [])
  | .note _ :: lines => outline lines
  | .setting name setting :: lines => ((name, setting) :: (outline lines).1, (outline lines).2)
  | .header name :: lines => ([], (name, (outline lines).1) :: (outline lines).2)

/-- Lines that describe something: no name is given twice in one place, and no
    count is beyond the numbers that documents have. -/
structure Orderly (lines : List Line) : Prop where
  names : ((outline lines).1.map Prod.fst ++ (outline lines).2.map Prod.fst).Nodup
  tables : ∀ table ∈ (outline lines).2, (table.2.map Prod.fst).Nodup
  counts : ∀ name n, Line.setting name (.count n) ∈ lines → n < 2 ^ 63

/-- The entries are the settings, in whatever order. -/
structure Reflects (settings : Settings) (entries : Entries) : Prop where
  nodup : (entries.map Prod.fst).Nodup
  lookup : ∀ name setting, (name, setting) ∈ settings →
    entries.lookup name = some setting.value
  known : ∀ name ∈ entries.map Prod.fst, name ∈ settings.map Prod.fst

/-- The entries are what the lines describe, in whatever order. -/
structure Describes (lines : List Line) (entries : Entries) : Prop where
  nodup : (entries.map Prod.fst).Nodup
  setting : ∀ name setting, (name, setting) ∈ (outline lines).1 →
    entries.lookup name = some setting.value
  table : ∀ name settings, (name, settings) ∈ (outline lines).2 →
    ∃ origin content, entries.lookup name = some (.table origin content) ∧
      Reflects settings content
  known : ∀ name ∈ entries.map Prod.fst,
    name ∈ (outline lines).1.map Prod.fst ++ (outline lines).2.map Prod.fst

theorem lookup_eq_none {name : Text} {entries : Entries} (h : name ∉ entries.map Prod.fst) :
    entries.lookup name = none := by
  rw [List.lookup_eq_none_iff]
  intro entry hentry
  refine bne_iff_ne.mpr fun heq => h ?_
  rw [heq]
  exact List.mem_map_of_mem hentry

/-- The table that the next key belongs to: that of the last header. -/
def current (table : Option Text) : List Line → Option Text
  | [] => table
  | .header name :: lines => current (some name) lines
  | .setting _ _ :: lines => current table lines
  | .note _ :: lines => current table lines

theorem current_append (table : Option Text) (lines more : List Line) :
    current table (lines ++ more) = current (current table lines) more := by
  induction lines generalizing table with
  | nil => rfl
  | cons line lines ih => cases line <;> exact ih _

/-- There is an entry of the name, in the table if one is named. -/
def Has (entries : Entries) : (table : Option Text) → (name : Text) → Prop
  | none, name => name ∈ entries.map Prod.fst
  | some table, name =>
    ∃ origin content, (table, .table origin content) ∈ entries ∧ name ∈ content.map Prod.fst

end ChatMarkup.Toml
