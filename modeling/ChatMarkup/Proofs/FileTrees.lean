import ChatMarkup.CommandLine.FileTree

/-!
# Reading and Writing Files

When a file can be read or written, and what writing it changes.

Both are told by the place that a path leads to. The file at a place can be
read unless the system refuses that. A file can be written at every place that
is not a directory's, again unless the system refuses it; whether there was a
file before does not matter. Paths that end with a slash lead to directories
only, so nothing has to be said of them.

A walk goes through directories and follows links, and the file at its end is
neither. So the walk does not notice that the file has been written: it leads
to the same place before and after. At every other place there is what was
there before. Several paths may lead to one place, which is why changes are told
by places and not by paths.

## Main definitions

* `FileTree.Leads`: The path leads to the place.
* `FileTree.HasFile`: There is a file at the end of the path.
* `FileTree.Holds`: There is a file that can be read, with the given content.
* `FileTree.Writable`: There can be a file at the end of the path, at the place.
* `FileTree.SameBut`: Nothing differs between two trees but the node at a place.

## Theorems

* `isFile_iff`, `read_eq_ok_iff`, `write_eq_ok_iff`: When a file can be found,
  read and written.
* `find?_set`: What is found after a node has been set.
* `walk_set`: A walk does not notice a file that is set.
* `Writable.set`: What writing a file does to the tree.
-/

namespace ChatMarkup.CommandLine.FileTree

variable {tree : FileTree} {path : Text} {place : Place}

/-- The path leads to the place. -/
def Leads (tree : FileTree) (path : Text) (place : Place) : Prop :=
  tree.resolve path = .ok place

/-- There is a file at the end of the path, whether it can be read or not. -/
def HasFile (tree : FileTree) (path : Text) : Prop :=
  ∃ place content, tree.Leads path place ∧ tree.find? place = some (.file content)

/-- There is a file at the end of the path that has the content and can be
    read. -/
def Holds (tree : FileTree) (path : Text) (content : ByteArray) : Prop :=
  ∃ place, tree.Leads path place ∧ tree.refuses .read place = none ∧
    tree.find? place = some (.file content)

/-- There can be a file at the end of the path, which is the place. -/
structure Writable (tree : FileTree) (path : Text) (place : Place) : Prop where
  leads : tree.Leads path place
  allowed : tree.refuses .write place = none
  not_directory : tree.find? place ≠ some .directory

/-- Nothing differs between the trees but the node at the place. -/
structure SameBut (place : Place) (tree after : FileTree) : Prop where
  find? : ∀ other, other ≠ place → after.find? other = tree.find? other
  links : after.links = tree.links
  here : after.here = tree.here
  refuses : after.refuses = tree.refuses

/-! ### Reading -/

theorem isFile_iff : tree.isFile path = true ↔ tree.HasFile path := by
  rw [isFile]
  constructor
  · intro h
    split at h
    · exact absurd h Bool.false_ne_true
    · next place hplace =>
        split at h
        · next content hfind => exact ⟨place, content, hplace, hfind⟩
        · exact absurd h Bool.false_ne_true
        · exact absurd h Bool.false_ne_true
  · rintro ⟨place, content, hplace, hfind⟩
    rw [Leads] at hplace
    simp only [hplace, hfind]

theorem read_eq_ok_iff {content : ByteArray} :
    tree.read path = .ok content ↔ tree.Holds path content := by
  rw [read]
  constructor
  · intro h
    split at h
    · exact absurd h (by simp)
    · next place hplace =>
        split at h
        · exact absurd h (by simp)
        · next hallowed =>
            split at h
            · next found hfind => exact ⟨place, hplace, hallowed, Except.ok.inj h ▸ hfind⟩
            · exact absurd h (by simp)
            · exact absurd h (by simp)
  · rintro ⟨place, hplace, hallowed, hfind⟩
    rw [Leads] at hplace
    simp only [hplace, hallowed, hfind]

/-! ### Writing -/

theorem find?_eq_of_requireDirectory (h : tree.requireDirectory place = .ok ()) :
    tree.find? place = some .directory := by
  rw [requireDirectory] at h
  split at h
  · assumption
  · exact absurd h (by simp)
  · exact absurd h (by simp)

/-- A walk that ends with a slash ends at a directory. -/
theorem find?_of_walk_slash {limit : Nat} {names : List Text} {reached : Place}
    (hslash : names.getLast?.any List.isEmpty = true)
    (h : tree.walk limit place names = .ok reached) : tree.find? reached = some .directory := by
  have hmore {name : Text} {rest : List Text} (hname : ¬ name.isEmpty = true)
      (hslash : (name :: rest).getLast?.any List.isEmpty = true) :
      rest ≠ [] ∧ rest.getLast?.any List.isEmpty = true := by
    cases rest with
    | nil => exact absurd hslash hname
    | cons next rest => exact ⟨List.cons_ne_nil _ _, hslash⟩
  fun_induction walk tree limit place names with
  | case1 => exact absurd hslash Bool.false_ne_true
  | case2 | case4 | case9 => exact absurd h (by simp)
  | case3 limit place name rest hdirectory hempty ih =>
      cases rest with
      | nil =>
          rw [walk] at h
          exact Except.ok.inj h ▸ find?_eq_of_requireDirectory hdirectory
      | cons next rest => exact ih hslash h
  | case5 limit place name rest _ hname _ _ ih => exact ih (hmore hname hslash).2 h
  | case6 limit place name rest _ hname _ _ _ ih => exact ih (hmore hname hslash).2 h
  | case7 limit place name rest _ hname _ _ _ _ ih => exact ih (hmore hname hslash).2 h
  | case8 limit place name rest _ hname _ _ _ target _ ih => exact ih (hmore hname hslash).2 h
  | case10 place name rest _ hname _ _ _ target _ limit ih =>
      -- What stands at the end of the link is followed by the rest of the names.
      rcases hmore hname hslash with ⟨hrest, hlast⟩
      refine ih ?_ h
      rwa [List.getLast?_append, Option.or_of_isSome (List.getLast?_isSome.mpr hrest)]

theorem target_eq_ok_iff (hpath : path ≠ []) :
    tree.target path = .ok place ↔
      tree.Leads path place ∧ tree.find? place ≠ some .directory := by
  have hresolve : tree.resolve path =
      tree.walk maxLinks (start tree.here path) (Text.splitOn '/' path) := by
    rw [resolve, if_neg (mt List.isEmpty_iff.mp hpath)]
  rw [target, Leads, hresolve]
  dsimp only
  split
  · next hslash =>
      constructor
      · intro h
        split at h
        · exact absurd h (by simp)
        · split at h <;> exact absurd h (by simp)
      · rintro ⟨hwalk, hfind⟩
        exact absurd (find?_of_walk_slash hslash hwalk) hfind
  · constructor
    · intro h
      split at h
      · exact absurd h (by simp)
      · next reached hwalk =>
          split at h
          · exact absurd h (by simp)
          · next found hfind =>
              obtain rfl := Except.ok.inj h
              exact ⟨hwalk, by simp [hfind]⟩
          · next hfind =>
              obtain rfl := Except.ok.inj h
              exact ⟨hwalk, by simp [hfind]⟩
    · rintro ⟨hwalk, hfind⟩
      rw [hwalk]
      dsimp only
      split
      · next hdirectory => exact absurd hdirectory hfind
      · rfl
      · rfl

/-- A file is written where it can be, and that is all that is done. -/
theorem write_eq_ok_iff {after : FileTree} {content : ByteArray} :
    tree.write path content = .ok after ↔
      ∃ place, tree.Writable path place ∧ after = tree.set place (.file content) := by
  rw [write]
  by_cases hpath : path = []
  · subst hpath
    constructor
    · intro h
      exact absurd h (by simp)
    · rintro ⟨place, hwritable, -⟩
      exact absurd hwritable.leads (by simp [Leads, resolve])
  · rw [if_neg (mt List.isEmpty_iff.mp hpath)]
    constructor
    · intro h
      split at h
      · exact absurd h (by simp)
      · next place htarget =>
          rcases (target_eq_ok_iff hpath).mp htarget with ⟨hleads, hfind⟩
          split at h
          · exact absurd h (by simp)
          · next hallowed => exact ⟨place, ⟨hleads, hallowed, hfind⟩, (Except.ok.inj h).symm⟩
    · rintro ⟨place, hwritable, rfl⟩
      have htarget := (target_eq_ok_iff hpath).mpr ⟨hwritable.leads, hwritable.not_directory⟩
      simp only [htarget, hwritable.allowed]

/-! ### What writing changes -/

theorem lookup_setEntry (place other : Place) (node : Node) (entries : List (Place × Node)) :
    (setEntry place node entries).lookup other =
      if other = place then some node else entries.lookup other := by
  induction entries with
  | nil =>
      rw [setEntry, List.lookup_cons]
      grind
  | cons entry entries ih =>
      rcases entry with ⟨key, old⟩
      rw [setEntry]
      -- The entry takes the place of the first one, or goes further back.
      split
      · rw [List.lookup_cons, List.lookup_cons]
        grind
      · rw [List.lookup_cons, List.lookup_cons, ih]
        grind

/-- The node is found at its place, and elsewhere everything is as before. -/
theorem find?_set (tree : FileTree) (hplace : place ≠ []) (node : Node) (other : Place) :
    (tree.set place node).find? other = if other = place then some node else tree.find? other := by
  unfold find? set
  rw [lookup_setEntry]
  by_cases hother : other = place
  · rw [hother, if_neg (mt List.isEmpty_iff.mp hplace), if_pos rfl, if_pos rfl]
  · rw [if_neg hother, if_neg hother]

/-- A walk through directories does not notice what is set where there is none. -/
theorem walk_set (hplace : tree.find? place ≠ some .directory) (node : Node) {limit : Nat}
    {origin reached : Place} {names : List Text}
    (h : tree.walk limit origin names = .ok reached) :
    (tree.set place node).walk limit origin names = .ok reached := by
  have hroot : place ≠ [] := by
    rintro rfl
    exact hplace rfl
  have hdirectory (on : Place) (h : tree.requireDirectory on = .ok ()) :
      (tree.set place node).requireDirectory on = .ok () := by
    have hfound := find?_eq_of_requireDirectory h
    -- There is no directory at the place, so it is not on the way.
    have hother : on ≠ place := by
      rintro rfl
      exact hplace hfound
    rw [requireDirectory, find?_set tree hroot, if_neg hother, hfound]
  have hrefuses : (tree.set place node).refuses = tree.refuses := rfl
  have hlinks : (tree.set place node).links = tree.links := rfl
  fun_induction walk tree limit origin names with
  | case1 => rwa [walk]
  | case2 | case4 | case9 => exact absurd h (by simp)
  | case3 limit on name rest hon hempty ih =>
      rw [walk, hdirectory on hon]
      simp only [hempty, if_true]
      exact ih h
  | case5 limit on name rest hon hname hallowed hdot ih =>
      rw [walk, hdirectory on hon]
      simp only [hname, hrefuses, hallowed, hdot, if_true]
      exact ih h
  | case6 limit on name rest hon hname hallowed hdot hdots ih =>
      rw [walk, hdirectory on hon]
      simp only [hname, hrefuses, hallowed, hdot, hdots, if_true]
      exact ih h
  | case7 limit on name rest hon hname hallowed hdot hdots hlink ih =>
      rw [walk, hdirectory on hon]
      simp only [hname, hrefuses, hallowed, hdot, hdots, hlinks, hlink]
      exact ih h
  | case8 limit on name rest hon hname hallowed hdot hdots target hlink ih =>
      rw [walk, hdirectory on hon]
      simp only [hname, hrefuses, hallowed, hdot, hdots, hlinks, hlink]
      exact ih h
  | case10 on name rest hon hname hallowed hdot hdots target hlink limit ih =>
      rw [walk, hdirectory on hon]
      simp only [hname, hrefuses, hallowed, hdot, hdots, hlinks, hlink]
      exact ih h

/-- What writing a file does to the tree. The path still leads to the place, the
    content is there, and everything else is as it was. -/
theorem Writable.set (h : tree.Writable path place) (content : ByteArray) :
    (tree.set place (.file content)).Leads path place ∧
      (tree.set place (.file content)).find? place = some (.file content) ∧
      SameBut place tree (tree.set place (.file content)) := by
  have hroot : place ≠ [] := by
    rintro rfl
    exact h.not_directory rfl
  refine ⟨?_, by rw [find?_set tree hroot, if_pos rfl], ?_, rfl, rfl, rfl⟩
  · have hleads := h.leads
    rw [Leads, resolve] at hleads ⊢
    split at hleads
    · exact absurd hleads (by simp)
    · next hpath =>
        rw [if_neg hpath]
        exact walk_set h.not_directory _ hleads
  · intro other hother
    rw [find?_set tree hroot, if_neg hother]

end ChatMarkup.CommandLine.FileTree
