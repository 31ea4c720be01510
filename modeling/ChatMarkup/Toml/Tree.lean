import ChatMarkup.Toml.Value

/-!
# Growing a Table

How headers and keys put values into a tree of tables.

A header or a dotted key names a path. The tables on the way are made if they
are not there, and whether a table that is there may be entered depends on how
it came about. Where a name on the way belongs to tables in double brackets,
the path goes on in the last of them. What happens at the end of the path is
the only thing in which headers and keys differ otherwise.

Nothing is ever replaced. A name that is taken makes the document an error,
with one exception: a table that was merely passed on the way of a header may
get a header of its own.

## Main definitions

* `put`: An entry added in its place, or replaced.
* `enter?`: The table that a path may enter under a name.
* `descend`: A change at the end of a path.
* `addTable?`, `addElement?`, `addValue?`: The effects of headers and keys.
-/

namespace ChatMarkup.Toml

/-- The entries with a value under the name, instead of the one that may be
    there. Entries in the order of their names stay in that order. -/
def put (name : Text) (value : Value) : Entries → Entries
  | [] => [(name, value)]
  | (key, old) :: rest =>
    if key = name then (name, value) :: rest
    else if name < key then (name, value) :: (key, old) :: rest
    else (key, old) :: put name value rest

/-- The table that a path enters: how it came about, what it holds, and the
    value that takes its place when the content has changed. -/
structure Entered where
  origin : Origin
  content : Entries
  close : Entries → Value

/-- The table that the value is, if a path may enter it. The path enters the
    last of several tables. Where there is no value, there will be a table of
    the given origin. -/
def enter? (missing : Origin) (allowed : Origin → Bool) : Option Value → Option Entered
  | none => some ⟨missing, [], .table missing⟩
  | some (.table origin entries) =>
    if allowed origin then some ⟨origin, entries, .table origin⟩ else none
  | some (.tables elements) =>
    match elements.getLast? with
    | some last => some ⟨.header, last, fun entries => .tables (elements.dropLast ++ [entries])⟩
    | none => none
  | some (.array _) => none
  | some (.scalar _) => none

/-- The entries after a change to the table at the end of the path. The change
    is told how that table came about. -/
def descend (missing : Origin) (allowed : Origin → Bool)
    (change : Origin → Entries → Option Entries) :
    (path : List Text) → Origin → Entries → Option Entries
  | [], origin, entries => change origin entries
  | name :: path, _, entries =>
    match enter? missing allowed (entries.lookup name) with
    | none => none
    | some entered =>
      (descend missing allowed change path entered.origin entered.content).map fun content =>
        put name (entered.close content) entries

/-- Whether the path of a header may enter a table. -/
def allowsHeader (origin : Origin) : Bool :=
  origin != .inline

/-- Whether a dotted key may enter a table. -/
def allowsKey (origin : Origin) : Bool :=
  origin == .passed || origin == .dotted

/-- The entries with a table that has a header. -/
def addTable? (path : List Text) (name : Text) (entries : Entries) : Option Entries :=
  let change (_ : Origin) (entries : Entries) : Option Entries :=
    match entries.lookup name with
    | none => some (put name (.table .header []) entries)
    | some (.table .passed content) => some (put name (.table .header content) entries)
    | some _ => none
  descend .passed allowsHeader change path .header entries

/-- The entries with one more table of several. -/
def addElement? (path : List Text) (name : Text) (entries : Entries) : Option Entries :=
  let change (_ : Origin) (entries : Entries) : Option Entries :=
    match entries.lookup name with
    | none => some (put name (.tables [[]]) entries)
    | some (.tables elements) => some (put name (.tables (elements ++ [[]])) entries)
    | some _ => none
  descend .passed allowsHeader change path .header entries

/-- The entries with a value under a dotted key. The table that the value goes
    into must have been made by a dotted key too. -/
def addValue? (path : List Text) (name : Text) (value : Value) (entries : Entries) :
    Option Entries :=
  let change (origin : Origin) (entries : Entries) : Option Entries :=
    -- Without a path the value goes into the table that was there before.
    if (origin == .dotted) == !path.isEmpty && (entries.lookup name).isNone then
      some (put name value entries)
    else none
  descend .dotted allowsKey change path .header entries

/-- The entries with a value under a dotted key within the table that the last
    header made. -/
def addValueAt? (table : List Text) (path : List Text) (name : Text) (value : Value)
    (entries : Entries) : Option Entries :=
  descend .passed allowsHeader (fun _ => addValue? path name value) table .header entries

end ChatMarkup.Toml
