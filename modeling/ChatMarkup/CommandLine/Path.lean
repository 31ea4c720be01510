import ChatMarkup.Text.Basic

/-!
# Parts of Paths

What of a path counts when two paths are compared.

Paths are compared part by part. Neither slashes in a row nor a slash at the
end matter, and a dot is no part unless it comes first. Two dots are a part like
any other, because what they lead to depends on the files.

## Main definitions

* `pathParts`: The parts of a path.
-/

namespace ChatMarkup.CommandLine

/-- The parts of the path. A path that begins with a slash has that slash as its
    first part. -/
def pathParts (path : Text) : List Text :=
  match Text.splitOn '/' path with
  | [] => []
  | first :: rest =>
    let start := if path.head? = some '/' then ['/'] else first
    (if start.isEmpty then [] else [start]) ++
      rest.filter fun name => !name.isEmpty && name != ['.']

end ChatMarkup.CommandLine
