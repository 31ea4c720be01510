import ChatMarkup.Config.Decoder
import ChatMarkup.Proofs.TomlDocuments

/-!
# Laws of Decoding

What is asked of a decoder, and of every decoder alike.

There are two parts to it. The first is about documents. Lines with notes,
headers, and keys with values make a document, and it describes what the lines
do. Besides, whatever is written behind them, if the whole is a document, then a
header has made a table and a key has made an entry in the table of the last
header, because nothing that a document says is ever taken back.

The second is about values. A string is a text, a boolean a flag, a whole number
that is not negative a count, and the name of a choice that choice. A table is a
record if each of its entries is one of a field: the fields that have an entry
are what the entry is read as, and the others have their defaults. It is none if
an entry belongs to no field or is not read as what the field holds.

Nothing is asked of documents and values beyond that, and nothing is said about
the causes for which they are refused.

## Main definitions

* `Decoder.ReadsToml`: The laws of documents.
* `Field.Takes`: What a field holds, given the entry that there is for it.
* `Decoder.FillsRecords`: The laws of values.
-/

namespace ChatMarkup

open Toml (Entries Line Spelling)

variable {ε : Type}

/-- The laws of documents. -/
structure Decoder.ReadsToml (decoder : Decoder ε) : Prop where
  /-- Lines that describe something are a document that describes it. -/
  document : ∀ (spelling : Spelling) (lines : List Line), Toml.Orderly lines →
    ∃ entries, decoder.table (spelling.lines lines) = .ok entries ∧ Toml.Describes lines entries
  /-- A header makes a table, whatever comes behind it. -/
  header : ∀ (spelling : Spelling) (lines : List Line) (name rest : Text) (entries : Entries),
    decoder.table (spelling.lines lines ++ (spelling.header name ++ rest)) = .ok entries →
      name ∈ entries.map Prod.fst
  /-- A key makes an entry in the table of the last header, whatever comes behind
      its equals sign. -/
  key : ∀ (spelling : Spelling) (lines : List Line) (name rest : Text) (entries : Entries),
    decoder.table (spelling.lines lines ++ spelling.entry name rest) = .ok entries →
      Toml.Has entries (Toml.current none lines) name

/-- What the field holds in the settings, given the entry that there is for it:
    without one, it holds its default. -/
inductive Field.Takes {α : Type} (field : Field ε α) (default settings : α) :
    Option Toml.Value → Prop
  | missing : field.get settings = field.get default → Takes field default settings none
  | given (value : Toml.Value) : field.read value = .ok (field.get settings) →
    Takes field default settings (some value)

/-- The laws of values. -/
structure Decoder.FillsRecords (decoder : Decoder ε) : Prop where
  /-- A string is a text. -/
  text : ∀ s : Text, decoder.text (.scalar (.string s)) = .ok s
  /-- A boolean is a flag. -/
  flag : ∀ b : Bool, decoder.flag (.scalar (.boolean b)) = .ok b
  /-- A whole number is a count, if it is among the numbers that documents have. -/
  count : ∀ n : Nat, n < 2 ^ 63 → decoder.count (.scalar (.integer n)) = .ok n
  /-- A choice is given by its name. -/
  choice : ∀ {α : Type} [Choice α] (name : Text) (value : α), Choice.ofName? name = some value →
    decoder.choice (.scalar (.string name)) = .ok value
  /-- A table of entries for fields is the record in which the fields hold these. -/
  record : ∀ {α : Type} (record : Record ε α) (origin : Toml.Origin) (entries : Entries)
    (settings : α), (entries.map Prod.fst).Nodup →
    (∀ name ∈ entries.map Prod.fst, ∃ field ∈ record.fields, field.key.toList = name) →
    (∀ field ∈ record.fields,
      field.Takes record.default settings (entries.lookup field.key.toList)) →
    decoder.record record (.table origin entries) = .ok settings
  /-- An entry for which there is no field is refused. -/
  unknown : ∀ {α : Type} (record : Record ε α) (origin : Toml.Origin) (entries : Entries)
    (name : Text), name ∈ entries.map Prod.fst →
    (∀ field ∈ record.fields, field.key.toList ≠ name) →
    ∃ cause, decoder.record record (.table origin entries) = .error cause
  /-- So is a value that the field cannot hold. -/
  refused : ∀ {α : Type} (record : Record ε α) (origin : Toml.Origin) (entries : Entries)
    (field : Field ε α) (value : Toml.Value) (problem : ε), field ∈ record.fields →
    (field.key.toList, value) ∈ entries → field.read value = .error problem →
    ∃ cause, decoder.record record (.table origin entries) = .error cause

end ChatMarkup
