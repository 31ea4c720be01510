import ChatMarkup.Config.Basic
import ChatMarkup.Toml.Value

/-!
# Decoders

How a configuration is taken from a document.

What table a document describes, and what is meant by a value where a text, a
number or a record with named fields is expected, is left to a *decoder*. It
knows nothing of configurations. They are described to it: a section is a
record, with a key for each of its fields and with a default for whatever is
missing, and the configuration is a record of its sections. A decoder refuses
what a record has no field for.

How a decoder does its work is not said here. There is one in this library, and
whatever is proved of configurations in documents is proved of every decoder
that obeys the laws of decoding.

A record carries the proofs that make it one: no two fields share a key, to set
one field does not touch the others, and there is nothing to it but its fields.

## Main definitions

* `Field`, `Record`: A structure as a decoder sees it.
* `Decoder`: What is meant by texts and values.
* `Config.record`: The configuration as a record of records.
* `Config.fromToml`: The configuration that a text describes.
-/

namespace ChatMarkup

variable {ε : Type}

/-- A part of a structure, with its key in documents and with what is made of
    the value that stands there. -/
structure Field (ε α : Type) where
  key : String
  Content : Type
  read : Toml.Value → Except ε Content
  get : α → Content
  set : α → Content → α

/-- A structure with named parts and with defaults. -/
structure Record (ε α : Type) where
  fields : List (Field ε α)
  default : α
  keys_nodup : (fields.map Field.key).Nodup
  ext : ∀ settings other : α,
    (∀ field ∈ fields, field.get settings = field.get other) → settings = other
  get_set : ∀ field ∈ fields, ∀ settings content,
    field.get (field.set settings content) = content
  get_set_of_ne : ∀ field ∈ fields, ∀ other ∈ fields, field.key ≠ other.key →
    ∀ settings content, other.get (field.set settings content) = other.get settings

/-- What is meant by texts and values, or why nothing is meant. -/
structure Decoder (ε : Type) where
  /-- What is said about a cause. -/
  describe : ε → String
  /-- The table that a document describes. -/
  table : Text → Except ε Toml.Entries
  /-- The value as a text. -/
  text : Toml.Value → Except ε Text
  /-- The value as a flag. -/
  flag : Toml.Value → Except ε Bool
  /-- The value as a count. -/
  count : Toml.Value → Except ε Nat
  /-- The value as one of those that are given by name. -/
  choice : {α : Type} → [Choice α] → Toml.Value → Except ε α
  /-- The value as a record. -/
  record : {α : Type} → Record ε α → Toml.Value → Except ε α

namespace Config

/-- The settings of headings. -/
def headingRecord (decoder : Decoder ε) : Record ε Headings where
  fields :=
    [⟨"style", HeadingStyle, decoder.choice, Headings.style, fun s v => { s with style := v }⟩,
      ⟨"marker", Text, decoder.text, Headings.marker, fun s v => { s with marker := v }⟩]
  default := {}
  keys_nodup := (by decide : ["style", "marker"].Nodup)
  ext := by
    rintro ⟨_, _⟩ ⟨_, _⟩ h
    simpa using h
  get_set := by simp
  get_set_of_ne := by simp

/-- The settings of list items. -/
def listRecord (decoder : Decoder ε) : Record ε Lists where
  fields :=
    [⟨"bullet", Text, decoder.text, Lists.bullet, fun s v => { s with bullet := v }⟩,
      ⟨"checkbox-checked", Text, decoder.text, Lists.checkboxChecked,
        fun s v => { s with checkboxChecked := v }⟩,
      ⟨"checkbox-unchecked", Text, decoder.text, Lists.checkboxUnchecked,
        fun s v => { s with checkboxUnchecked := v }⟩]
  default := {}
  keys_nodup := (by decide : ["bullet", "checkbox-checked", "checkbox-unchecked"].Nodup)
  ext := by
    rintro ⟨_, _, _⟩ ⟨_, _, _⟩ h
    simpa using h
  get_set := by simp
  get_set_of_ne := by simp

/-- The settings of rules. -/
def ruleRecord (decoder : Decoder ε) : Record ε Rules where
  fields :=
    [⟨"char", Text, decoder.text, Rules.char, fun s v => { s with char := v }⟩,
      ⟨"length", Nat, decoder.count, Rules.length, fun s v => { s with length := v }⟩]
  default := {}
  keys_nodup := (by decide : ["char", "length"].Nodup)
  ext := by
    rintro ⟨_, _⟩ ⟨_, _⟩ h
    simpa using h
  get_set := by simp
  get_set_of_ne := by simp

/-- The settings of links. -/
def linkRecord (decoder : Decoder ε) : Record ε Links where
  fields :=
    [⟨"format", LinkFormat, decoder.choice, Links.format, fun s v => { s with format := v }⟩]
  default := {}
  keys_nodup := (by decide : ["format"].Nodup)
  ext := by
    rintro ⟨_⟩ ⟨_⟩ h
    simpa using h
  get_set := by simp
  get_set_of_ne := by simp

/-- The settings of tables. -/
def tableRecord (decoder : Decoder ε) : Record ε Tables where
  fields := [⟨"mode", TableMode, decoder.choice, Tables.mode, fun s v => { s with mode := v }⟩]
  default := {}
  keys_nodup := (by decide : ["mode"].Nodup)
  ext := by
    rintro ⟨_⟩ ⟨_⟩ h
    simpa using h
  get_set := by simp
  get_set_of_ne := by simp

/-- The switches for conversions. -/
def conversionRecord (decoder : Decoder ε) : Record ε Conversions where
  fields :=
    [⟨"bold", Bool, decoder.flag, Conversions.bold, fun s v => { s with bold := v }⟩,
      ⟨"italic", Bool, decoder.flag, Conversions.italic, fun s v => { s with italic := v }⟩,
      ⟨"strikethrough", Bool, decoder.flag, Conversions.strikethrough,
        fun s v => { s with strikethrough := v }⟩,
      ⟨"links", Bool, decoder.flag, Conversions.links, fun s v => { s with links := v }⟩,
      ⟨"images", Bool, decoder.flag, Conversions.images, fun s v => { s with images := v }⟩,
      ⟨"lists", Bool, decoder.flag, Conversions.lists, fun s v => { s with lists := v }⟩,
      ⟨"task-lists", Bool, decoder.flag, Conversions.taskLists,
        fun s v => { s with taskLists := v }⟩,
      ⟨"headings", Bool, decoder.flag, Conversions.headings, fun s v => { s with headings := v }⟩,
      ⟨"rules", Bool, decoder.flag, Conversions.rules, fun s v => { s with rules := v }⟩,
      ⟨"tables", Bool, decoder.flag, Conversions.tables, fun s v => { s with tables := v }⟩]
  default := {}
  keys_nodup := (by decide :
    ["bold", "italic", "strikethrough", "links", "images", "lists", "task-lists", "headings",
      "rules", "tables"].Nodup)
  ext := by
    rintro ⟨_, _, _, _, _, _, _, _, _, _⟩ ⟨_, _, _, _, _, _, _, _, _, _⟩ h
    simpa using h
  get_set := by simp
  get_set_of_ne := by simp

/-- The sections of a configuration. -/
def record (decoder : Decoder ε) : Record ε Config where
  fields :=
    [⟨"headings", Headings, decoder.record (headingRecord decoder), Config.headings,
        fun s v => { s with headings := v }⟩,
      ⟨"lists", Lists, decoder.record (listRecord decoder), Config.lists,
        fun s v => { s with lists := v }⟩,
      ⟨"rules", Rules, decoder.record (ruleRecord decoder), Config.rules,
        fun s v => { s with rules := v }⟩,
      ⟨"links", Links, decoder.record (linkRecord decoder), Config.links,
        fun s v => { s with links := v }⟩,
      ⟨"tables", Tables, decoder.record (tableRecord decoder), Config.tables,
        fun s v => { s with tables := v }⟩,
      ⟨"convert", Conversions, decoder.record (conversionRecord decoder), Config.convert,
        fun s v => { s with convert := v }⟩]
  default := {}
  keys_nodup := (by decide :
    ["headings", "lists", "rules", "links", "tables", "convert"].Nodup)
  ext := by
    rintro ⟨_, _, _, _, _, _⟩ ⟨_, _, _, _, _, _⟩ h
    simpa using h
  get_set := by simp
  get_set_of_ne := by simp

/-- The configuration that the text describes. -/
def fromToml (decoder : Decoder ε) (s : Text) : Except ε Config :=
  match decoder.table s with
  | .error cause => .error cause
  | .ok entries => decoder.record (record decoder) (.table .header entries)

end Config

end ChatMarkup
