import ChatMarkup.Toml.Quote
import ChatMarkup.Toml.Tree
import ChatMarkup.Toml.Word

/-!
# Reading TOML

From the text of a TOML document to the table it describes.

Values nest, and how deep they may nest is limited. The limit is what the
recursion runs on: the reader of values of some depth reads the parts of an
array or of an inline table with the reader of the next smaller depth. The
parts themselves are read one after the other, and every part takes at least
the comma in front of the next, so what is left becomes shorter.

A document is a sequence of statements, one to a line. A key with a value goes
into the table of the last header, and in front of all headers into the
document itself.

## Main definitions

* `path?`: A dotted key.
* `value?`: A value of limited depth.
* `statement?`: What stands on a line.
* `parse?`: The table that a document describes.
-/

namespace ChatMarkup.Toml

/-! ### Keys -/

/-- Whether the character may stand in a key without quotes. -/
def isKeyChar (c : Char) : Bool :=
  c.isAlphanum || c == '_' || c == '-'

/-- A key without dots and the text after it. -/
def key? (s : Text) : Option (Text × Text) :=
  match s with
  | '"' :: rest => basic? rest
  | '\'' :: rest => literal? rest
  | _ =>
    let name := s.takeWhile isKeyChar
    if name.isEmpty then none else some (name, s.dropWhile isKeyChar)

/-- A key whose parts are set apart by dots, and the text after it and after
    the spaces behind it. The result is the parts in front of the last one,
    and the last one. -/
def path? (s : Text) : Option ((List Text × Text) × Text) :=
  match key? (skipSpaces s) with
  | none => none
  | some (name, rest) =>
    match skipSpaces rest with
    | '.' :: rest =>
      -- A key and a dot have been read.
      if rest.length < s.length then
        (path? rest).map fun ((path, last), rest) => ((name :: path, last), rest)
      else none
    | rest => some (([], name), rest)
termination_by s.length

/-! ### Values -/

/-- The items of an array and the text after its closing bracket. The opening
    bracket or a comma has been read. A comma may stand behind the last
    item. -/
def items? (element? : Text → Option (Value × Text)) (s : Text) :
    Option (List Value × Text) :=
  match skipLines s with
  | ']' :: rest => some ([], rest)
  | start =>
    match element? start with
    | none => none
    | some (item, rest) =>
      match skipLines rest with
      | ']' :: rest => some ([item], rest)
      | ',' :: rest =>
        -- An item and a comma have been read.
        if rest.length < s.length then
          (items? element? rest).map fun (items, rest) => (item :: items, rest)
        else none
      | _ => none
termination_by s.length

/-- A dotted key, an equals sign and a value, and the text after them. What may
    stand around the equals sign is skipped by `skip`; a dotted key is never
    broken over lines. -/
def pair? (skip : Text → Text) (element? : Text → Option (Value × Text)) (s : Text) :
    Option ((List Text × Text) × Value × Text) :=
  match path? s with
  | none => none
  | some (path, rest) =>
    match skip rest with
    | '=' :: rest => (element? (skip rest)).map fun (value, rest) => (path, value, rest)
    | _ => none

/-- The entries of an inline table, added to those before them, and the text
    after the closing brace. The opening brace or a comma has been read. As in
    an array, a comma may stand behind the last entry, and lines may end
    between any two parts. -/
def pairs? (element? : Text → Option (Value × Text)) (entries : Entries) (s : Text) :
    Option (Entries × Text) :=
  match skipLines s with
  | '\x7d' :: rest => some (entries, rest)
  | start =>
    match pair? skipLines element? start with
    | none => none
    | some ((path, name), value, rest) =>
      match addValue? path name value entries with
      | none => none
      | some entries =>
        match skipLines rest with
        | '\x7d' :: rest => some (entries, rest)
        | ',' :: rest =>
          -- A key, a value and a comma have been read.
          if rest.length < s.length then pairs? element? entries rest else none
        | _ => none
termination_by s.length

/-- A value and the text after it. Brackets and braces may enclose each other
    `depth` times. -/
def value? : (depth : Nat) → Text → Option (Value × Text)
  | depth, s =>
    match s with
    | [] => none
    | c :: rest =>
      if c = '"' ∨ c = '\'' then
        (string? s).map fun (body, rest) => (.scalar (.string body), rest)
      else if c = '[' then
        match depth with
        | 0 => none
        | depth + 1 => (items? (value? depth) rest).map fun (items, rest) => (.array items, rest)
      else if c = '\x7b' then
        match depth with
        | 0 => none
        | depth + 1 =>
          (pairs? (value? depth) [] rest).map fun (entries, rest) =>
            (.table .inline entries, rest)
      else
        (scalar? (word s).1).map fun value => (.scalar value, (word s).2)

/-- How often brackets and braces may enclose each other. -/
def maxDepth : Nat := 80

/-! ### Documents -/

/-- What stands on a line. -/
inductive Statement
  /-- Nothing. -/
  | nothing
  /-- The header of a table. -/
  | table (path : List Text) (name : Text)
  /-- The header of one of several tables. -/
  | element (path : List Text) (name : Text)
  /-- A key with a value. -/
  | value (path : List Text) (name : Text) (value : Value)

/-- What stands on the line, and the text after it. -/
def statement? (s : Text) : Option (Statement × Text) :=
  match skipSpaces s with
  | [] => some (.nothing, [])
  | '[' :: '[' :: rest =>
    match path? rest with
    | some ((path, name), ']' :: ']' :: rest) => some (.element path name, rest)
    | _ => none
  | '[' :: rest =>
    match path? rest with
    | some ((path, name), ']' :: rest) => some (.table path name, rest)
    | _ => none
  | c :: rest =>
    if c = '#' ∨ c = '\n' ∨ c = '\r' then some (.nothing, c :: rest)
    else (pair? skipSpaces (value? maxDepth) (c :: rest)).map fun ((path, name), value, rest) =>
      (.value path name value, rest)

/-- The statements of a document, in order. -/
def statements? (s : Text) : Option (List Statement) :=
  match statement? s with
  | none => none
  | some (statement, rest) =>
    match lineEnd? rest with
    | none => none
    | some rest =>
      if rest.isEmpty then some [statement]
      -- The end of a line has been read.
      else if rest.length < s.length then
        (statements? rest).map fun statements => statement :: statements
      else none
termination_by s.length

/-- The entries after the statements. The path leads to the table of the last
    header. -/
def build? : (table : List Text) → Entries → List Statement → Option Entries
  | _, entries, [] => some entries
  | table, entries, .nothing :: rest => build? table entries rest
  | _, entries, .table path name :: rest =>
    match addTable? path name entries with
    | some entries => build? (path ++ [name]) entries rest
    | none => none
  | _, entries, .element path name :: rest =>
    match addElement? path name entries with
    | some entries => build? (path ++ [name]) entries rest
    | none => none
  | table, entries, .value path name value :: rest =>
    match addValueAt? table path name value entries with
    | some entries => build? table entries rest
    | none => none

/-- The table that the document describes, if the text is a document. A byte
    order mark in front of it is passed over. -/
def parse? (s : Text) : Option Entries :=
  let s := Text.dropFirstIf '\uFEFF' s
  match statements? s with
  | some statements => build? [] [] statements
  | none => none

end ChatMarkup.Toml
