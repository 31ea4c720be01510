import ChatMarkup.Text.Quoted

/-!
# Options with Named Values

The options whose value is one of a few names, and what is said about a value
that an option cannot take.

Each such option is a type of its own. What all of them share is that every
value has a name and that a name is looked up among the values; so the names
exist once, in `Choice.name`, and reading is searching.

## Main definitions

* `HeadingStyle`, `LinkFormat`, `TableMode`: The options with named values.
* `Choice`: A type whose values have names.
* `Unsupported`: Why an option cannot take a value.
* `Unsupported.message`: What is said about it.
* `Choice.ofName`: The value with a given name.

## Theorems

* `ofName_name`: A value is found by its own name.
-/

namespace ChatMarkup

/-- How a heading is shown. The chat markup has no headings. -/
inductive HeadingStyle
  /-- In bold. -/
  | boldOnly
  /-- In bold, after one marker for each level. -/
  | boldWithMarker
  /-- As text. -/
  | plain
  /-- After one number sign for each level, as in Markdown. -/
  | signed
  deriving DecidableEq, Repr

/-- How a link is shown. -/
inductive LinkFormat
  /-- Address and label. -/
  | slack
  /-- The address alone. -/
  | urlOnly
  /-- The label alone. -/
  | textOnly
  deriving DecidableEq, Repr

/-- How a table is shown. -/
inductive TableMode
  /-- In a code block, so that its columns line up. -/
  | codeBlock
  /-- Row by row, with the markup in the cells converted. -/
  | preserve
  deriving DecidableEq, Repr

/-- A type whose values are given by name. -/
class Choice (α : Type) where
  /-- What the option is called in messages. -/
  option : String
  /-- The values, in the order in which messages list them. -/
  all : List α
  /-- The name of a value. -/
  name : α → String

instance : Choice HeadingStyle where
  option := "heading-style"
  all := [.boldOnly, .boldWithMarker, .plain, .signed]
  name
    | .boldOnly => "bold-only"
    | .boldWithMarker => "bold-with-marker"
    | .plain => "plain"
    | .signed => "prefix"

instance : Choice LinkFormat where
  option := "link-format"
  all := [.slack, .urlOnly, .textOnly]
  name
    | .slack => "slack"
    | .urlOnly => "url-only"
    | .textOnly => "text-only"

instance : Choice TableMode where
  option := "table-mode"
  all := [.codeBlock, .preserve]
  name
    | .codeBlock => "code-block"
    | .preserve => "preserve"

/-- The options that hold a text that must not be empty. -/
inductive TextOption
  | listBullet
  | headingMarker
  | ruleChar
  deriving DecidableEq, Repr

/-- What the option is called in messages. -/
def TextOption.name : TextOption → String
  | listBullet => "list-bullet"
  | headingMarker => "heading-marker"
  | ruleChar => "rule-char"

/-- Why an option cannot take a value. -/
inductive Unsupported
  /-- No value of the option has this name. -/
  | unknownName (option : String) (names : List String) (value : Text)
  /-- The option holds no text. -/
  | emptyText (option : TextOption)
  /-- A rule would have no characters. -/
  | zeroLength
  deriving DecidableEq, Repr

namespace Unsupported

/-- What the option is called in messages. -/
def option : Unsupported → String
  | unknownName option _ _ => option
  | emptyText option => option.name
  | zeroLength => "rule-length"

/-- The value that was refused, as text. -/
def value : Unsupported → Text
  | unknownName _ _ value => value
  | emptyText _ => []
  | zeroLength => ['0']

/-- What the option would take. -/
def expected : Unsupported → String
  | unknownName _ names _ => "one of " ++ ", ".intercalate names
  | emptyText _ => "a non-empty string"
  | zeroLength => "a length of at least 1"

/-- What is said about the value. -/
def message (problem : Unsupported) : String :=
  "unsupported value " ++ String.ofList (Text.quoted problem.value) ++ " for option `" ++
    problem.option ++ "` (expected " ++ problem.expected ++ ")"

end Unsupported

namespace Choice

/-- The names of all values. -/
def names (α : Type) [Choice α] : List String :=
  (all : List α).map name

/-- The value with the given name. -/
def ofName? {α : Type} [Choice α] (s : Text) : Option α :=
  all.find? fun value => (name value).toList == s

/-- The value with the given name, or what is wrong with the name. -/
def ofName {α : Type} [Choice α] (s : Text) : Except Unsupported α :=
  match ofName? s with
  | some value => .ok value
  | none => .error (.unknownName (option α) (names α) s)

end Choice

theorem HeadingStyle.ofName_name (style : HeadingStyle) :
    Choice.ofName (Choice.name style).toList = .ok style := by
  cases style <;> rfl

theorem LinkFormat.ofName_name (format : LinkFormat) :
    Choice.ofName (Choice.name format).toList = .ok format := by
  cases format <;> rfl

theorem TableMode.ofName_name (mode : TableMode) :
    Choice.ofName (Choice.name mode).toList = .ok mode := by
  cases mode <;> rfl

end ChatMarkup
