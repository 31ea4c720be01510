import ChatMarkup.Config.OfToml
import ChatMarkup.Proofs.Decoders
import ChatMarkup.Proofs.WrittenToml

/-!
# The Decoder Obeys the Laws

What is asked of decoders, the one of this library does.

A record is read entry by entry. What carries the induction is that a field that
still has an entry will be set to what the entry is read as, and that a field
without one has its final content already. In the end no field has an entry, and
a record is nothing but its fields.

For documents, the lines are followed to where the unknown part begins. There
the table of the last header is known to be a table with a header, and what is
put into it stays.

## Theorems

* `readTable_eq_ok`: The record that the entries of a table make.
* `exists_error_of_mem`: One entry that is refused is enough.
* `decoder_fillsRecords`: The laws of values.
* `decoder_readsToml`: The laws of documents.
-/

namespace ChatMarkup

open Toml (Entries Holds Line Spelling)

variable {α : Type}

/-! ### Records -/

theorem Record.eq_of_key_eq {ε : Type} (record : Record ε α) {field other : Field ε α}
    (hfield : field ∈ record.fields) (hother : other ∈ record.fields)
    (h : field.key.toList = other.key.toList) : field = other :=
  List.inj_on_of_nodup_map record.keys_nodup hfield hother (String.toList_injective h)

/-- The field that an entry is for. -/
theorem find?_key_eq_some (record : Record ReadError α) {field : Field ReadError α}
    (hfield : field ∈ record.fields) :
    record.fields.find? (fun other => other.key.toList == field.key.toList) = some field := by
  rcases List.append_of_mem hfield with ⟨before, after, hfields⟩
  refine List.find?_eq_some_iff_append.mpr ⟨beq_self_eq_true _, before, after, hfields, ?_⟩
  intro other hother
  have hnodup := record.keys_nodup
  rw [hfields, List.map_append, List.nodup_append] at hnodup
  have hne := hnodup.2.2 other.key (List.mem_map_of_mem hother) field.key List.mem_cons_self
  rw [beq_eq_false_iff_ne.mpr fun heq => hne (String.toList_injective heq)]
  rfl

/-- The entries of a table make the settings that they say, if the fields
    without an entry have these settings already. -/
theorem readTable_eq_ok (record : Record ReadError α) {settings current : α} {entries : Entries}
    (hnodup : (entries.map Prod.fst).Nodup)
    (hknown : ∀ name ∈ entries.map Prod.fst, ∃ field ∈ record.fields, field.key.toList = name)
    (htakes : ∀ field ∈ record.fields,
      field.Takes current settings (entries.lookup field.key.toList)) :
    readTable record.fields current entries = .ok settings := by
  induction entries generalizing current with
  | nil =>
      refine congrArg Except.ok (record.ext _ _ fun field hfield => ?_)
      cases htakes field hfield with
      | missing h => exact h.symm
  | cons entry entries ih =>
      rcases entry with ⟨name, value⟩
      rw [List.map_cons, List.nodup_cons] at hnodup
      rcases hknown name List.mem_cons_self with ⟨field, hfield, rfl⟩
      have hvalue : field.read value = .ok (field.get settings) := by
        have htake := htakes field hfield
        rw [Toml.lookup_cons, if_pos rfl] at htake
        cases htake with
        | given _ h => exact h
      have hput : field.put current value = .ok (field.set current (field.get settings)) := by
        rw [Field.put, hvalue]
        rfl
      rw [readTable, find?_key_eq_some record hfield]
      simp only [hput]
      refine ih hnodup.2 (fun name hname => hknown name (List.mem_cons_of_mem _ hname))
        fun other hother => ?_
      by_cases hkey : other.key.toList = field.key.toList
      · -- The field has got its content, and there is no second entry for it.
        obtain rfl := record.eq_of_key_eq hother hfield hkey
        rw [Toml.lookup_eq_none hnodup.1]
        exact .missing (record.get_set _ hother _ _).symm
      · have htake := htakes other hother
        rw [Toml.lookup_cons, if_neg hkey] at htake
        have hother : other.get (field.set current (field.get settings)) = other.get current :=
          record.get_set_of_ne field hfield other hother
            (fun heq => hkey (congrArg String.toList heq.symm)) _ _
        cases hlookup : entries.lookup other.key.toList with
        | none =>
            rw [hlookup] at htake
            cases htake with
            | missing h => exact .missing (h.trans hother.symm)
        | some value =>
            rw [hlookup] at htake
            cases htake with
            | given _ h => exact .given _ h

/-- One entry that is refused is enough, wherever it stands. -/
theorem exists_error_of_mem {fields : List (Field ReadError α)} {entries : Entries}
    {entry : Text × Toml.Value} (hmem : entry ∈ entries)
    (hentry : ∀ settings rest, ∃ cause, readTable fields settings (entry :: rest) = .error cause)
    (settings : α) : ∃ cause, readTable fields settings entries = .error cause := by
  induction entries generalizing settings with
  | nil => exact absurd hmem List.not_mem_nil
  | cons first entries ih =>
      rcases List.mem_cons.mp hmem with rfl | hmem
      · exact hentry settings entries
      · rw [readTable]
        split
        · exact ⟨_, rfl⟩
        · split
          · exact ih hmem _
          · exact ⟨_, rfl⟩

theorem Config.decoder_fillsRecords : Config.decoder.FillsRecords where
  text _ := rfl
  flag _ := rfl
  count n hn := by
    have hsigned : 0 ≤ signedLimit := by decide
    have hlimit : ((2 ^ 63 : Nat) : Int) ≤ countLimit := by decide
    have hfits : ¬((n : Int) < -signedLimit ∨ countLimit ≤ (n : Int)) := by omega
    have hsign : ¬(n : Int) < 0 := by omega
    exact (if_neg hfits).trans ((if_neg hsign).trans (congrArg Except.ok (Int.toNat_natCast n)))
  choice name value h := by
    have hread : readName name = .ok value := by rw [readName, h]
    exact hread
  record record origin entries settings hnodup hknown htakes :=
    readTable_eq_ok record hnodup hknown htakes
  unknown record origin entries name hname hfields := by
    rcases List.mem_map.mp hname with ⟨⟨name, value⟩, hmem, rfl⟩
    refine exists_error_of_mem hmem (fun settings rest => ?_) _
    have hnone : record.fields.find? (fun field => field.key.toList == name) = none :=
      List.find?_eq_none.mpr fun field hfield => by simpa using hfields field hfield
    rw [readTable, hnone]
    exact ⟨_, rfl⟩
  refused record origin entries field value problem hfield hmem hproblem := by
    refine exists_error_of_mem hmem (fun settings rest => ?_) _
    have hput : field.put settings value = .error problem := by
      rw [Field.put, hproblem]
      rfl
    rw [readTable, find?_key_eq_some record hfield]
    simp only [hput]
    exact ⟨_, rfl⟩

/-! ### Documents -/

namespace Toml

/-- The table of the last header is a table with a header. -/
theorem exists_lookup_current {lines : List Line} {table : Option Text}
    {entries result : Entries} (h : entriesAfter? table entries lines = some result)
    (htable : ∀ name ∈ table, ∃ content, entries.lookup name = some (.table .header content)) :
    ∀ name ∈ current table lines,
      ∃ content, result.lookup name = some (.table .header content) := by
  fun_induction entriesAfter? table entries lines with
  | case1 table entries => exact Option.some.inj h ▸ htable
  | case2 table entries note lines ih => exact ih h htable
  | case3 table entries name lines ih =>
      rcases Option.bind_eq_some_iff.mp h with ⟨next, hadd, hmore⟩
      refine ih next hmore fun other hother => ?_
      obtain rfl := Option.some.inj hother
      exact exists_lookup_of_addTable? hadd
  | case4 table entries name setting lines ih =>
      rcases Option.bind_eq_some_iff.mp h with ⟨next, hadd, hmore⟩
      refine ih next hmore fun other hother => ?_
      rcases htable other hother with ⟨content, hlookup⟩
      obtain rfl := Option.mem_def.mp hother
      -- The setting goes into the table of the header, which keeps the header.
      rw [Option.toList_some, addValueAt?_of_lookup hlookup] at hadd
      split at hadd
      · exact ⟨_, Option.some.inj hadd ▸ lookup_put_self other _ _⟩
      · exact absurd hadd.symm (Option.some_ne_none _)

/-- A place below the table with a header is an entry of that table. -/
theorem Holds.has {table : Option Text} {name : Text} {entries : Entries}
    (h : Holds (table.toList ++ [name]) entries) : Has entries table name := by
  cases table with
  | none =>
      rcases h with ⟨value, hlookup, -⟩
      exact List.mem_map_of_mem (mem_of_lookup hlookup)
  | some table =>
      rcases h with ⟨value, hlookup, hnil | ⟨content, rfl, hholds⟩⟩
      · exact absurd hnil (List.cons_ne_nil _ _)
      · rcases hholds with ⟨inner, hinner, -⟩
        exact ⟨.header, content, mem_of_lookup hlookup,
          List.mem_map_of_mem (mem_of_lookup hinner)⟩

end Toml

theorem Config.table_eq_ok {s : Text} {entries : Entries} :
    decoder.table s = .ok entries ↔ Toml.parse? s = some entries := by
  cases h : Toml.parse? s <;> simp [decoder, h]

theorem Config.decoder_readsToml : Config.decoder.ReadsToml where
  document spelling lines h := by
    rcases Toml.exists_parse?_lines spelling h with ⟨entries, hread, hdescribes⟩
    exact ⟨entries, table_eq_ok.mpr hread, hdescribes⟩
  header spelling lines name rest entries h := by
    have hread := table_eq_ok.mp h
    rw [Toml.parse?_lines_append spelling lines (by simp [Spelling.header])] at hread
    rcases Option.bind_eq_some_iff.mp hread with ⟨above, -, hread⟩
    rw [Toml.readOn?_header] at hread
    rcases Option.bind_eq_some_iff.mp hread with ⟨next, hadd, hmore⟩
    rcases Toml.exists_lookup_of_addTable? hadd with ⟨content, hlookup⟩
    have hholds : Holds [name] next := ⟨_, hlookup, .inl rfl⟩
    have hplace : Holds ((none : Option Text).toList ++ [name]) entries := hholds.readOn hmore
    exact hplace.has
  key spelling lines name rest entries h := by
    have hread := table_eq_ok.mp h
    rw [Toml.parse?_lines_append spelling lines
      (spelling.head?_entry_ne name rest (by decide) (by decide))] at hread
    rcases Option.bind_eq_some_iff.mp hread with ⟨above, habove, hread⟩
    rcases Toml.exists_of_readOn?_entry hread with ⟨value, next, hadd, hkeep⟩
    refine Holds.has (hkeep _ ?_)
    cases hcurrent : Toml.current none lines with
    | none =>
        rw [hcurrent] at hadd
        exact Toml.holds_of_addValueAt?_nil hadd
    | some table =>
        rw [hcurrent] at hadd
        rcases Toml.exists_lookup_current habove (fun _ h => absurd h (by simp)) table hcurrent with
          ⟨content, hlookup⟩
        exact Toml.holds_of_addValueAt? hlookup hadd

end ChatMarkup
