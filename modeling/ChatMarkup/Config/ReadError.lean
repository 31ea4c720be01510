import ChatMarkup.Config.Choice
import ChatMarkup.Decimal.Shortest
import ChatMarkup.Toml.Value

/-!
# Errors in Configurations

Why a text is not read as a configuration.

Either it is no TOML at all, or it describes something that no configuration
holds: a key that does not exist, a name that no value has, a value of the
wrong type. The wording is fixed here, once for each cause. Where a value has
the wrong type, the message shows the value too, if it is a scalar.

## Main definitions

* `Expected`: What a setting takes.
* `Shown`: A value as a message shows it.
* `ReadError`: A cause.
* `ReadError.message?`: What is said about it, if anything is.
-/

namespace ChatMarkup

/-- What a setting takes. -/
inductive Expected
  | text
  | flag
  | count
  deriving DecidableEq, Repr

/-- What is said about the type. -/
def Expected.name : Expected → String
  | text => "a string"
  | flag => "a boolean"
  | count => "usize"

/-- A value as a message shows it. -/
inductive Shown
  | string (s : Text)
  | integer (n : Int)
  | real (text : Text)
  | boolean (b : Bool)
  | map
  | sequence
  deriving DecidableEq, Repr

/-- The number with its sign. -/
def signed (negative : Bool) (s : Text) : Text :=
  if negative then '-' :: s else s

/-- The whole number in decimal. -/
def integerText (n : Int) : Text :=
  signed (decide (n < 0)) (Text.decimal n.natAbs)

/-- The number as it is shown after it has been rounded to a double, unless it
    is beyond all doubles. -/
def realText? : Toml.Real → Option Text
  | .nan => some ['N', 'a', 'N']
  | .infinite negative => some (signed negative ['i', 'n', 'f'])
  | .finite negative digits exponent =>
    (Decimal.Binary64.nearest? digits exponent).map fun x =>
      signed negative (Decimal.positional x.shortest.1 x.shortest.2)

/-- What is said about the value. -/
def Shown.text : Shown → Text
  | string s => "string ".toList ++ Text.quoted s
  | integer n => "integer `".toList ++ integerText n ++ "`".toList
  | real text => "floating point `".toList ++ text ++ "`".toList
  | boolean b => (if b then "boolean `true`" else "boolean `false`").toList
  | map => "map".toList
  | sequence => "sequence".toList

/-- Why a text is not read as a configuration. -/
inductive ReadError
  /-- The text is not TOML. -/
  | malformed
  /-- A table has a key that is not known there. -/
  | unknownKey (key : Text) (known : List String)
  /-- No value of an option has this name. -/
  | unknownName (name : Text) (known : List String)
  /-- A value has another type than the setting. -/
  | wrongType (shown : Shown) (expected : Expected)
  /-- A count is negative. -/
  | negativeCount (n : Int)
  /-- A section or an option has a value that no setting can be taken from, or
      a number is too large for any type or is none. -/
  | unfit
  deriving DecidableEq, Repr

/-- The names that would have been known. -/
def knownNames (known : List String) : String :=
  let quote (name : String) : String := "`" ++ name ++ "`"
  match known with
  | [one] => "expected " ++ quote one
  | [one, other] => "expected " ++ quote one ++ " or " ++ quote other
  | _ => "expected one of " ++ ", ".intercalate (known.map quote)

namespace ReadError

/-- What is said about the cause. Nothing is said about a text that is not
    TOML or a value that does not fit at all. -/
def message? : ReadError → Option String
  | malformed => none
  | unknownKey key known =>
    some ("unknown field `" ++ String.ofList key ++ "`, " ++ knownNames known)
  | unknownName name known =>
    some ("unknown variant `" ++ String.ofList name ++ "`, " ++ knownNames known)
  | wrongType shown expected =>
    some ("invalid type: " ++ String.ofList shown.text ++ ", expected " ++ expected.name)
  | negativeCount n =>
    some ("invalid value: " ++ String.ofList (Shown.integer n).text ++ ", expected " ++
      Expected.count.name)
  | unfit => none

end ReadError

end ChatMarkup
