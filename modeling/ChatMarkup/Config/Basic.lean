import ChatMarkup.Config.Choice

/-!
# Configuration

The settings of a conversion.

The settings come in sections, one for each kind of markup that leaves a
choice, and one that switches conversions on and off. Every setting has a
default, and a configuration that says nothing is the default configuration.

A configuration can hold values that make no sense, such as a bullet without
characters. The conversion does not mind. Such values are refused where a
configuration is taken from a user, and `validate` is the test.

## Main definitions

* `Config`: The settings, by section.
* `Config.validate`: Refuses values that cannot be shown.

## Theorems

* `validate_default`: The default configuration is valid.
-/

namespace ChatMarkup

namespace Config

/-- How headings are shown. -/
structure Headings where
  /-- The style of all headings. -/
  style : HeadingStyle := .boldOnly
  /-- What is repeated for each level in the style that has a marker. -/
  marker : Text := ['=']
  deriving DecidableEq, Repr, Inhabited

/-- How list items are shown. -/
structure Lists where
  /-- What stands before an item of a list without numbers. -/
  bullet : Text := ['•']
  /-- What stands before a task that is done. -/
  checkboxChecked : Text := ['☑']
  /-- What stands before a task that is not done. -/
  checkboxUnchecked : Text := ['☐']
  deriving DecidableEq, Repr, Inhabited

/-- How horizontal rules are shown. -/
structure Rules where
  /-- What is repeated. -/
  char : Text := ['─']
  /-- How often. There is no largest number here. A machine has one, but a rule
      that comes near to it would not fit into its memory. -/
  length : Nat := 10
  deriving DecidableEq, Repr, Inhabited

/-- How links are shown. -/
structure Links where
  /-- The parts of a link that are kept. -/
  format : LinkFormat := .slack
  deriving DecidableEq, Repr, Inhabited

/-- How tables are shown. -/
structure Tables where
  /-- As code or row by row. -/
  mode : TableMode := .codeBlock
  deriving DecidableEq, Repr, Inhabited

/-- What is converted. Whatever is switched off stays as it is written in
    Markdown. -/
structure Conversions where
  /-- Bold text. -/
  bold : Bool := true
  /-- Italic text. -/
  italic : Bool := true
  /-- Struck text. -/
  strikethrough : Bool := true
  /-- Links. -/
  links : Bool := true
  /-- Images. -/
  images : Bool := true
  /-- The bullets and numbers of list items. -/
  lists : Bool := true
  /-- The checkboxes of tasks. -/
  taskLists : Bool := true
  /-- Headings. -/
  headings : Bool := true
  /-- Horizontal rules. -/
  rules : Bool := true
  /-- Tables. -/
  tables : Bool := true
  deriving DecidableEq, Repr, Inhabited

end Config

/-- The settings of a conversion. -/
structure Config where
  headings : Config.Headings := {}
  lists : Config.Lists := {}
  rules : Config.Rules := {}
  links : Config.Links := {}
  tables : Config.Tables := {}
  convert : Config.Conversions := {}
  deriving DecidableEq, Repr

namespace Config

instance : Inhabited Config := ⟨{}⟩

/-- Refuses a configuration with a value that cannot be shown. If there are
    several, the bullet is named first, then the marker of headings, then the
    character of rules and last their length. -/
def validate (config : Config) : Except Unsupported Unit :=
  if config.lists.bullet.isEmpty then .error (.emptyText .listBullet)
  else if config.headings.marker.isEmpty then .error (.emptyText .headingMarker)
  else if config.rules.char.isEmpty then .error (.emptyText .ruleChar)
  else if config.rules.length = 0 then .error .zeroLength
  else .ok ()

/-- The default configuration is valid. -/
theorem validate_default : validate {} = .ok () := rfl

end Config

end ChatMarkup
