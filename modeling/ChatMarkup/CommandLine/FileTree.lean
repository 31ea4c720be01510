import ChatMarkup.Text.Basic

/-!
# File Trees

The files that a run of the program can see, as a value.

A tree holds files and directories by their place, which is the names on the
way from its root. A path is a text with slashes and is walked name by name,
from the root if a slash comes first and from the working directory otherwise.
Every name but the last must be that of a directory, a dot stays where it is,
and two dots go back, which at the root is going nowhere.

A name may also be that of a link. A link can be a path, and the walk goes on
with it; there is a limit on how many of those a walk follows. A file that has
several names is kept at one place, and its other names are links to that
place.

Reading and writing fail for the reasons that a file system has. A slash at
the end of a path asks for a directory, and a directory can neither be read
nor written. Besides, the system may refuse any access for causes of its own,
be it that something is not permitted or that a disk is broken or full. What
it refuses is part of the tree.

## Main definitions

* `SystemError`: Why a file cannot be read or written.
* `FileTree`: Files and directories by place.
* `FileTree.resolve`: The place that a path leads to.
* `FileTree.read`: The content of the file that a path names.
* `FileTree.isFile`: Whether a path names a file.
* `FileTree.write`: The tree after a file has been written.
* `FileTree.add`: The tree with a file or a directory and those around it.
-/

namespace ChatMarkup.CommandLine

/-- Why a file cannot be read or written. -/
inductive SystemError
  /-- There is no such file. -/
  | notFound
  /-- A name on the way is that of a file. -/
  | notDirectory
  /-- The path names a directory. -/
  | isDirectory
  /-- There are too many links on the way. -/
  | tooManyLinks
  /-- The content is not text. -/
  | notText
  /-- Another cause that the system has described. -/
  | other (description : String) (code : Nat)
  deriving DecidableEq, Repr

/-- What is said about the cause. -/
def SystemError.message : SystemError → String
  | notFound => "No such file or directory (os error 2)"
  | notDirectory => "Not a directory (os error 20)"
  | isDirectory => "Is a directory (os error 21)"
  | tooManyLinks => "Too many levels of symbolic links (os error 40)"
  | notText => "stream did not contain valid UTF-8"
  | other description code => description ++ " (os error " ++ toString code ++ ")"

/-- The names on the way from the root of a tree. -/
abbrev Place := List Text

/-- What can be found at a place. -/
inductive Node
  | file (content : ByteArray)
  | directory

/-- Where a name leads that is a link. -/
inductive Link
  /-- The path that stands for the name, from the directory of the link. -/
  | path (target : Text)
  /-- The place of a file that has this name too. -/
  | place (target : Place)
  deriving DecidableEq, Repr

/-- What may be done at a place. -/
inductive Access
  /-- To look up a name in the directory. -/
  | enter
  /-- To read the file. -/
  | read
  /-- To write the file, whether it is there or not. -/
  | write
  deriving DecidableEq, Repr

/-- Files and directories by place. The root is always a directory and is not
    listed. -/
structure FileTree where
  entries : List (Place × Node)
  links : List (Place × Link) := []
  /-- The working directory. -/
  here : Place := []
  /-- Why an access is refused by the system, if it is. -/
  refuses : Access → Place → Option SystemError := fun _ _ => none

namespace FileTree

/-! ### Entries -/

/-- What is found at the place. -/
def find? (tree : FileTree) (place : Place) : Option Node :=
  if place.isEmpty then some .directory else tree.entries.lookup place

/-- The entries with a node at the place, in front of the others if it is
    new. -/
def setEntry (place : Place) (node : Node) : List (Place × Node) → List (Place × Node)
  | [] => [(place, node)]
  | (other, old) :: rest =>
    if other = place then (place, node) :: rest else (other, old) :: setEntry place node rest

/-- The tree with a node at the place. -/
def set (tree : FileTree) (place : Place) (node : Node) : FileTree :=
  { tree with entries := setEntry place node tree.entries }

/-- The tree with the node at the place, and with directories on the way to
    it. -/
def add (tree : FileTree) (place : Place) (node : Node) : FileTree :=
  let parents := (List.range place.length).map fun n => place.take n
  let tree := parents.foldl
    (fun tree parent => if (tree.find? parent).isSome then tree else tree.set parent .directory)
    tree
  if place.isEmpty then tree else tree.set place node

/-- The tree without any files, with the working directory at the place. -/
def emptyAt (place : Place) : FileTree :=
  { ({ entries := [] } : FileTree).add place .directory with here := place }

/-! ### Paths -/

/-- The directory at the place, or why there is none. -/
def requireDirectory (tree : FileTree) (place : Place) : Except SystemError Unit :=
  match tree.find? place with
  | some .directory => .ok ()
  | some (.file _) => .error .notDirectory
  | none => .error .notFound

/-- The place from which the path is walked, if paths without a slash in front
    are walked from the given place. -/
def start (place : Place) (path : Text) : Place :=
  if path.head? = some '/' then [] else place

/-- The place that is reached from a place by names, if no more than the given
    number of paths is followed on the way. -/
def walk (tree : FileTree) (limit : Nat) (place : Place) : List Text → Except SystemError Place
  | [] => .ok place
  | name :: rest =>
    match tree.requireDirectory place with
    | .error cause => .error cause
    | .ok () =>
      -- Between two slashes nothing is looked up.
      if name.isEmpty then walk tree limit place rest
      else match tree.refuses .enter place with
      | some cause => .error cause
      | none =>
        if name == ['.'] then walk tree limit place rest
        else if name == ['.', '.'] then walk tree limit place.dropLast rest
        else match tree.links.lookup (place ++ [name]) with
        | none => walk tree limit (place ++ [name]) rest
        | some (.place target) => walk tree limit target rest
        | some (.path target) =>
          match limit with
          | 0 => .error .tooManyLinks
          | limit + 1 => walk tree limit (start place target) (Text.splitOn '/' target ++ rest)
termination_by names => (limit, names.length)

/-- How many links a walk follows. -/
def maxLinks : Nat := 40

/-- The place that the path leads to. The last name may be one that is not
    there. -/
def resolve (tree : FileTree) (path : Text) : Except SystemError Place :=
  if path.isEmpty then .error .notFound
  else tree.walk maxLinks (start tree.here path) (Text.splitOn '/' path)

/-! ### Files -/

/-- Whether the path names a file. Where it cannot be told, it does not. -/
def isFile (tree : FileTree) (path : Text) : Bool :=
  match tree.resolve path with
  | .error _ => false
  | .ok place =>
    match tree.find? place with
    | some (.file _) => true
    | some .directory => false
    | none => false

/-- The content of the file that the path names. -/
def read (tree : FileTree) (path : Text) : Except SystemError ByteArray :=
  match tree.resolve path with
  | .error cause => .error cause
  | .ok place =>
    match tree.refuses .read place with
    | some cause => .error cause
    | none =>
      match tree.find? place with
      | some (.file content) => .ok content
      | some .directory => .error .isDirectory
      | none => .error .notFound

/-- The place at which a file is written whose path is not empty. A slash at its
    end makes it the path of a directory, whatever the name before the slash is
    that of, so that name is not looked up. -/
def target (tree : FileTree) (path : Text) : Except SystemError Place :=
  let names := Text.splitOn '/' path
  let origin := start tree.here path
  if names.getLast?.any List.isEmpty then
    match names.reverse.dropWhile List.isEmpty with
    | [] => .error .isDirectory
    | last :: before =>
      let last := if last == ['.', '.'] then last else ['.']
      match tree.walk maxLinks origin (last :: before).reverse with
      | .error cause => .error cause
      | .ok _ => .error .isDirectory
  else
    match tree.walk maxLinks origin names with
    | .error cause => .error cause
    | .ok place =>
      match tree.find? place with
      | some .directory => .error .isDirectory
      | some (.file _) => .ok place
      | none => .ok place

/-- The tree after the file that the path names has been written. -/
def write (tree : FileTree) (path : Text) (content : ByteArray) : Except SystemError FileTree :=
  if path.isEmpty then .error .notFound
  else
    match tree.target path with
    | .error cause => .error cause
    | .ok place =>
      match tree.refuses .write place with
      | some cause => .error cause
      | none => .ok (tree.set place (.file content))

end FileTree

end ChatMarkup.CommandLine
