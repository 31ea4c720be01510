import ChatMarkup.Config.Decoder
import ChatMarkup.Config.ReadError
import ChatMarkup.Toml.Parse

/-!
# Configurations in TOML

The decoder of this library.

It reads the text with the reader of TOML. To read a record is to go through
what a document says about it: each entry sets the field whose key it has, and
an entry whose key no field has is refused. A field without an entry keeps its
default.

A record may also be given as an array, whose items belong to its fields in
their order. An option with named values may be given by its name or as a table
with that name and nothing in it.

## Main definitions

* `readText`, `readFlag`, `readCount`, `readChoice`: The value of a field.
* `readTable`, `readArray`, `readRecord`: Fields read by key or by position.
* `Config.decoder`: The decoder.
* `Config.ofToml`: The configuration that it takes from a text.
-/

namespace ChatMarkup

/-- The key under which the parts of a date are found. -/
def momentKey : String := "$__toml_private_datetime"

/-- The largest count, and one more than it. -/
def countLimit : Int := Nat.pow 2 64

/-- The smallest number that fits the signed type, negated. -/
def signedLimit : Int := Nat.pow 2 63

/-- The value as a message shows it, if it fits any type. -/
def Toml.Value.shown? : Toml.Value → Option Shown
  | .scalar (.string s) => some (.string s)
  | .scalar (.integer n) =>
    if -signedLimit ≤ n ∧ n < countLimit then some (.integer n) else none
  | .scalar .illegible => none
  | .scalar (.real x) => (realText? x).map .real
  | .scalar (.boolean b) => some (.boolean b)
  | .scalar .moment => some .map
  | .table _ _ => some .map
  | .array _ => some .sequence
  | .tables _ => some .sequence

/-- The error for a value of the wrong type. -/
def wrongType (value : Toml.Value) (expected : Expected) : ReadError :=
  match value.shown? with
  | some shown => .wrongType shown expected
  | none => .unfit

/-- The text that a setting is given. -/
def readText : Toml.Value → Except ReadError Text
  | .scalar (.string s) => .ok s
  | value => .error (wrongType value .text)

/-- The flag that a setting is given. -/
def readFlag : Toml.Value → Except ReadError Bool
  | .scalar (.boolean b) => .ok b
  | value => .error (wrongType value .flag)

/-- The count that a setting is given. -/
def readCount : Toml.Value → Except ReadError Nat
  | .scalar (.integer n) =>
    if n < -signedLimit ∨ countLimit ≤ n then .error .unfit
    else if n < 0 then .error (.negativeCount n)
    else .ok n.toNat
  | value => .error (wrongType value .count)

/-- The value of the given name. -/
def readName {α : Type} [Choice α] (name : Text) : Except ReadError α :=
  match Choice.ofName? name with
  | some value => .ok value
  | none => .error (.unknownName name (Choice.names α))

/-- The named value that a setting is given. -/
def readChoice {α : Type} [Choice α] : Toml.Value → Except ReadError α
  | .scalar (.string name) => readName name
  | .table _ [(name, content)] =>
    match readName name, content with
    | .ok value, .table _ [] => .ok value
    | .ok value, .array [] => .ok value
    | .ok _, _ => .error .unfit
    | .error problem, _ => .error problem
  | _ => .error .unfit

/-- The settings after a value has been read for the field. -/
def Field.put {α : Type} (field : Field ReadError α) (settings : α) (value : Toml.Value) :
    Except ReadError α :=
  (field.read value).map (field.set settings)

/-- The settings after the entries of a table. Of several errors the one under
    the first name counts. -/
def readTable {α : Type} (fields : List (Field ReadError α)) (settings : α) :
    Toml.Entries → Except ReadError α
  | [] => .ok settings
  | (key, value) :: rest =>
    match fields.find? fun field => field.key.toList == key with
    | none => .error (.unknownKey key (fields.map Field.key))
    | some field =>
      match field.put settings value with
      | .ok settings => readTable fields settings rest
      | .error problem => .error problem

/-- The settings after the items of an array, which belong to the fields in
    order. Items beyond the last field are passed over. -/
def readArray {α : Type} (settings : α) :
    List (Field ReadError α) → List Toml.Value → Except ReadError α
  | field :: fields, value :: rest =>
    match field.put settings value with
    | .ok settings => readArray settings fields rest
    | .error problem => .error problem
  | _, _ => .ok settings

/-- The settings of a record. -/
def readRecord {α : Type} (record : Record ReadError α) : Toml.Value → Except ReadError α
  | .table _ entries => readTable record.fields record.default entries
  | .array items => readArray record.default record.fields items
  | .tables elements =>
    readArray record.default record.fields (elements.map (.table .header))
  | .scalar .moment => .error (.unknownKey momentKey.toList (record.fields.map Field.key))
  | .scalar _ => .error .unfit

namespace Config

/-- The decoder that goes with the reader of TOML. -/
def decoder : Decoder ReadError where
  describe cause := cause.message?.getD "TOML parse error"
  table s := (Toml.parse? s).elim (.error .malformed) .ok
  text := readText
  flag := readFlag
  count := readCount
  choice := readChoice
  record := readRecord

/-- The configuration that the text describes to this decoder. -/
def ofToml (s : Text) : Except ReadError Config :=
  fromToml decoder s

end Config

end ChatMarkup
