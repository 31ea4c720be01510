import ChatMarkup.Toml.Parse
import Mathlib.Data.List.Perm.Basic

/-!
# Tables that Grow

What a TOML document has put into its tables stays there.

Two questions are asked about the entries of a table. What a fixed sequence of
headers and keys makes of them is the first. All that matters then is what is
found under a name, so `put` is described by `lookup`, and by the entries that
there are in some order.

The second is what can be said when the rest of the document is not known. A
later header may enter the tables that are there and add to them, and it may
give a header to one that has none. But nothing takes a name away again, and a
table that has a header keeps it. `Holds` is stated for places, sequences of
names that lead through tables with headers, because a change at the end of
a path can be followed down the same sequence.

## Main definitions

* `putAll`: Entries added one after the other.
* `Fresh`: Items that can be added one after the other.
* `Holds`: Whether there is an entry at a place.

## Theorems

* `lookup_put`, `put_put`, `put_perm`: What an added entry changes.
* `putAll_perm`: What is added one after the other is there in some order.
* `addTable?_of_lookup`, `addValueAt?_of_lookup`: The effect of a header and of
  a key behind it.
* `Holds.build`: What the statements of a document leave in place.
-/

namespace ChatMarkup.Toml

variable {name other : Text} {value : Value} {entries result content : Entries}

/-! ### Added entries -/

theorem lookup_cons (other key : Text) (value : Value) (entries : Entries) :
    List.lookup other ((key, value) :: entries) =
      if other = key then some value else entries.lookup other := by
  rw [List.lookup_cons]
  by_cases h : other = key
  · rw [if_pos h, beq_iff_eq.mpr h]
  · rw [if_neg h, beq_eq_false_iff_ne.mpr h]

theorem lookup_put (name other : Text) (value : Value) (entries : Entries) :
    (put name value entries).lookup other =
      if other = name then some value else entries.lookup other := by
  induction entries with
  | nil => rw [put, lookup_cons]
  | cons entry rest ih =>
      rcases entry with ⟨key, old⟩
      rw [put]
      -- The entry goes in place of the first one, in front of it, or further back.
      split_ifs <;> simp only [lookup_cons, ih] <;> grind

@[simp]
theorem lookup_put_self (name : Text) (value : Value) (entries : Entries) :
    (put name value entries).lookup name = some value := by
  rw [lookup_put, if_pos rfl]

/-- Of two values put under one name, the second stays. -/
theorem put_put (name : Text) (old value : Value) (entries : Entries) :
    put name value (put name old entries) = put name value entries := by
  induction entries with
  | nil => simp only [put, if_true]
  | cons entry rest ih =>
      rcases entry with ⟨key, first⟩
      by_cases hkey : key = name
      · rw [put, if_pos hkey, put, if_pos rfl, put, if_pos hkey]
      · by_cases hlt : name < key
        · rw [put, if_neg hkey, if_pos hlt, put, if_pos rfl, put, if_neg hkey, if_pos hlt]
        · rw [put, if_neg hkey, if_neg hlt, put, if_neg hkey, if_neg hlt, ih, put, if_neg hkey,
            if_neg hlt]

/-- A new entry goes somewhere between the others. -/
theorem put_perm (h : entries.lookup name = none) :
    (put name value entries).Perm ((name, value) :: entries) := by
  induction entries with
  | nil => exact .refl _
  | cons entry rest ih =>
      rcases entry with ⟨key, old⟩
      rw [lookup_cons] at h
      split at h
      · exact absurd h (Option.some_ne_none _)
      · next hkey =>
          rw [put, if_neg fun heq => hkey heq.symm]
          split
          · exact .refl _
          · exact ((ih h).cons _).trans (.swap _ _ _)

/-- The entries of the items, added one after the other. -/
def putAll {α : Type} (entry : α → Text × Value) (items : List α) (entries : Entries) : Entries :=
  items.foldl (fun entries item => put (entry item).1 (entry item).2 entries) entries

/-- The items have different names, and none of them is that of an entry. -/
structure Fresh {α : Type} (entry : α → Text × Value) (items : List α) (entries : Entries) :
    Prop where
  nodup : (items.map fun item => (entry item).1).Nodup
  lookup_eq_none : ∀ item ∈ items, entries.lookup (entry item).1 = none

theorem fresh_nil {α : Type} {entry : α → Text × Value} {items : List α}
    (h : (items.map fun item => (entry item).1).Nodup) : Fresh entry items [] :=
  ⟨h, fun _ _ => List.lookup_nil⟩

/-- When the first item has been added, the others are still fresh. -/
theorem Fresh.tail {α : Type} {entry : α → Text × Value} {item : α} {items : List α}
    (h : Fresh entry (item :: items) entries) (value : Value) :
    Fresh entry items (put (entry item).1 value entries) := by
  have hnodup := h.nodup
  rw [List.map_cons, List.nodup_cons] at hnodup
  refine ⟨hnodup.2, fun other hother => ?_⟩
  have hne : (entry other).1 ≠ (entry item).1 := fun heq =>
    hnodup.1 (heq ▸ List.mem_map_of_mem hother)
  rw [lookup_put, if_neg hne, h.lookup_eq_none other (List.mem_cons_of_mem _ hother)]

theorem putAll_perm {α : Type} {entry : α → Text × Value} {items : List α}
    (h : Fresh entry items entries) :
    (putAll entry items entries).Perm (items.map entry ++ entries) := by
  induction items generalizing entries with
  | nil => exact .refl _
  | cons item items ih =>
      have hput : (put (entry item).1 (entry item).2 entries).Perm (entry item :: entries) :=
        put_perm (h.lookup_eq_none item List.mem_cons_self)
      exact (ih (h.tail _)).trans ((hput.append_left _).trans List.perm_middle)

theorem names_putAll_perm {α : Type} {entry : α → Text × Value} {items : List α}
    (h : Fresh entry items entries) :
    ((putAll entry items entries).map Prod.fst).Perm
      ((items.map fun item => (entry item).1) ++ entries.map Prod.fst) := by
  have hnames := (putAll_perm h).map Prod.fst
  rwa [List.map_append, List.map_map] at hnames

/-- An entry is found by its name if no other one has it. -/
theorem lookup_of_mem (hnodup : (entries.map Prod.fst).Nodup) (h : (name, value) ∈ entries) :
    entries.lookup name = some value := by
  rcases List.append_of_mem h with ⟨before, after, rfl⟩
  rw [List.map_append, List.nodup_append] at hnodup
  refine List.lookup_eq_some_iff.mpr ⟨before, after, rfl, fun entry hentry => ?_⟩
  exact bne_iff_ne.mpr
    (hnodup.2.2 entry.1 (List.mem_map_of_mem hentry) name List.mem_cons_self).symm

theorem mem_of_lookup {entries : Entries} {name : Text} {value : Value}
    (h : entries.lookup name = some value) : (name, value) ∈ entries := by
  rcases List.lookup_eq_some_iff.mp h with ⟨before, after, rfl, -⟩
  exact List.mem_append_right _ List.mem_cons_self

/-! ### Places -/

/-- Whether there is an entry at the place. All names but the last one lead to
    tables with headers. -/
def Holds : (place : List Text) → Entries → Prop
  | [], _ => True
  | name :: place, entries =>
    ∃ value, entries.lookup name = some value ∧
      (place = [] ∨ ∃ content, value = .table .header content ∧ Holds place content)

theorem holds_put (name : Text) (value : Value) (entries : Entries) :
    Holds [name] (put name value entries) :=
  ⟨value, lookup_put_self name value entries, .inl rfl⟩

/-- An entry is still there after another one, or the same, was put, if a table
    with a header was at most replaced by one that holds as much. -/
theorem Holds.put {place : List Text} (h : Holds place entries)
    (hvalue : ∀ content, entries.lookup name = some (.table .header content) →
      ∃ content', value = .table .header content' ∧
        ∀ place, Holds place content → Holds place content') :
    Holds place (put name value entries) := by
  cases place with
  | nil => trivial
  | cons first place =>
      rcases h with ⟨old, hold, hplace⟩
      by_cases hfirst : first = name
      · subst hfirst
        refine ⟨value, lookup_put_self first value entries, ?_⟩
        rcases hplace with rfl | ⟨content, rfl, hcontent⟩
        · exact .inl rfl
        · rcases hvalue content hold with ⟨content', rfl, hkeep⟩
          exact .inr ⟨content', rfl, hkeep place hcontent⟩
      · exact ⟨old, by rw [lookup_put, if_neg hfirst, hold], hplace⟩

theorem Holds.put_of_lookup_ne {place : List Text} (h : Holds place entries)
    (hname : ∀ content, entries.lookup name ≠ some (.table .header content)) :
    Holds place (Toml.put name value entries) :=
  h.put fun content hlookup => absurd hlookup (hname content)

theorem enter?_header {missing : Origin} {allowed : Origin → Bool} {entered : Entered}
    (h : enter? missing allowed (some (.table .header content)) = some entered) :
    entered = ⟨.header, content, .table .header⟩ := by
  rw [enter?] at h
  split at h
  · exact (Option.some.inj h).symm
  · exact absurd h.symm (Option.some_ne_none _)

/-- A change that keeps what a table holds keeps it at the end of a path too. -/
theorem Holds.descend {missing : Origin} {allowed : Origin → Bool}
    {change : Origin → Entries → Option Entries}
    (hchange : ∀ origin entries result place, change origin entries = some result →
      Holds place entries → Holds place result)
    {path : List Text} {origin : Origin} {place : List Text}
    (h : Toml.descend missing allowed change path origin entries = some result)
    (hplace : Holds place entries) : Holds place result := by
  induction path generalizing origin entries result place with
  | nil => exact hchange origin entries result place h hplace
  | cons name path ih =>
      rw [Toml.descend] at h
      split at h
      · exact absurd h.symm (Option.some_ne_none _)
      · next entered hentered =>
          rcases Option.map_eq_some_iff.mp h with ⟨content, hcontent, rfl⟩
          refine hplace.put fun old hold => ?_
          -- The table was entered, and the induction hypothesis is about what it held.
          rw [hold] at hentered
          obtain rfl := enter?_header hentered
          exact ⟨content, rfl, fun place => ih hcontent⟩

theorem Holds.addTable {path place : List Text} (h : addTable? path name entries = some result)
    (hplace : Holds place entries) : Holds place result := by
  refine hplace.descend ?_ h
  intro origin entries result place h hplace
  split at h
  · next hnone =>
      obtain rfl := Option.some.inj h
      exact hplace.put_of_lookup_ne (by simp [hnone])
  · next hpassed =>
      -- No place leads through a table that was only passed.
      obtain rfl := Option.some.inj h
      exact hplace.put_of_lookup_ne (by simp [hpassed])
  · exact absurd h.symm (Option.some_ne_none _)

theorem Holds.addElement {path place : List Text}
    (h : addElement? path name entries = some result) (hplace : Holds place entries) :
    Holds place result := by
  refine hplace.descend ?_ h
  intro origin entries result place h hplace
  split at h
  · next hnone =>
      obtain rfl := Option.some.inj h
      exact hplace.put_of_lookup_ne (by simp [hnone])
  · next htables =>
      obtain rfl := Option.some.inj h
      exact hplace.put_of_lookup_ne (by simp [htables])
  · exact absurd h.symm (Option.some_ne_none _)

theorem Holds.addValue {path place : List Text}
    (h : addValue? path name value entries = some result) (hplace : Holds place entries) :
    Holds place result := by
  refine hplace.descend ?_ h
  intro origin entries result place h hplace
  split at h
  · next hfresh =>
      obtain rfl := Option.some.inj h
      rw [Bool.and_eq_true, Option.isNone_iff_eq_none] at hfresh
      exact hplace.put_of_lookup_ne (by simp [hfresh.2])
  · exact absurd h.symm (Option.some_ne_none _)

theorem Holds.addValueAt {table path place : List Text}
    (h : addValueAt? table path name value entries = some result)
    (hplace : Holds place entries) : Holds place result :=
  hplace.descend (fun _ _ _ _ h hplace => hplace.addValue h) h

/-- What a table holds at some point of a document, it holds at the end. -/
theorem Holds.build {table place : List Text} {statements : List Statement}
    (h : build? table entries statements = some result) (hplace : Holds place entries) :
    Holds place result := by
  fun_induction build? table entries statements with
  | case1 => exact Option.some.inj h ▸ hplace
  | case2 table entries statements ih => exact ih h hplace
  | case3 table entries path name statements next hadd ih => exact ih h (hplace.addTable hadd)
  | case5 table entries path name statements next hadd ih => exact ih h (hplace.addElement hadd)
  | case7 table entries path name value statements next hadd ih =>
      exact ih h (hplace.addValueAt hadd)
  | case4 | case6 | case8 => exact absurd h.symm (Option.some_ne_none _)

/-! ### Headers and keys -/

/-- A header of its own makes a table under a name that was free. -/
theorem addTable?_of_lookup (h : entries.lookup name = none) :
    addTable? [] name entries = some (put name (.table .header []) entries) := by
  rw [addTable?, descend, h]

/-- A header of its own gives a table a header. -/
theorem exists_lookup_of_addTable? (h : addTable? [] name entries = some result) :
    ∃ content, result.lookup name = some (.table .header content) := by
  rw [addTable?, descend] at h
  split at h
  · exact ⟨[], Option.some.inj h ▸ lookup_put_self name _ _⟩
  · next content _ => exact ⟨content, Option.some.inj h ▸ lookup_put_self name _ _⟩
  · exact absurd h.symm (Option.some_ne_none _)

/-- A key behind a header goes into the table of that header, if it is not there
    yet. -/
theorem addValueAt?_of_lookup (h : entries.lookup other = some (.table .header content)) :
    addValueAt? [other] [] name value entries =
      if (content.lookup name).isNone then
        some (put other (.table .header (put name value content)) entries)
      else none := by
  have hallowed : allowsHeader .header = true := rfl
  simp only [addValueAt?, descend, h, enter?, hallowed, addValue?, if_true]
  cases hname : (content.lookup name).isNone <;> simp

theorem holds_of_addValueAt? (hlookup : entries.lookup other = some (.table .header content))
    (h : addValueAt? [other] [] name value entries = some result) :
    Holds [other, name] result := by
  rw [addValueAt?_of_lookup hlookup] at h
  split at h
  · obtain rfl := Option.some.inj h
    exact ⟨_, lookup_put_self other _ _, .inr ⟨_, rfl, holds_put name value content⟩⟩
  · exact absurd h.symm (Option.some_ne_none _)

/-- A key in front of all headers goes into the document itself. -/
theorem addValueAt?_nil_of_lookup (h : entries.lookup name = none) :
    addValueAt? [] [] name value entries = some (put name value entries) := by
  rw [addValueAt?, descend, addValue?, descend, h]
  rfl

theorem holds_of_addValueAt?_nil (h : addValueAt? [] [] name value entries = some result) :
    Holds [name] result := by
  rw [addValueAt?, descend, addValue?, descend] at h
  split at h
  · exact Option.some.inj h ▸ holds_put name value entries
  · exact absurd h.symm (Option.some_ne_none _)

end ChatMarkup.Toml
