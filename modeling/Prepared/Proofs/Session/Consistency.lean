import Prepared.Proofs.Analysis.Width
import Prepared.Proofs.Session.Executable

/-!
# The consistency of a session

A session keeps its tables and its prepared statements under names and counts its tables, and a table
keeps the positions of its columns. `Session.Consistent` says how these belong together.

A new session is consistent, and each change keeps it so: a name map is only ever added to under the
name of what is added, the positions of columns are those that `Table.index` has found (`index_eq_ok`),
and what is kept of a prepared statement comes from an analysis that has succeeded. A call that fails
changes nothing, so every session is consistent that calls lead to (`Session.afterAll_consistent`).
-/

namespace Prepared

open Sql

/-! ## Maps that grow -/

namespace NameMap

variable {α : Type} {name : String} {value : α}

theorem length_insertEntry {es : List (String × α)} (h : lookup? name es = none) :
    (insertEntry name value es).length = es.length + 1 := by
  induction es with
  | nil => rfl
  | cons e es ih =>
    unfold lookup? at h
    unfold insertEntry
    split at h
    · cases h
    · split
      · rfl
      · rw [List.length_cons, ih h, List.length_cons]

/-- What is put under a free name is one entry more. -/
theorem length_insert {m : NameMap α} (h : m.find? name = none) :
    (m.insert name value).entries.length = m.entries.length + 1 :=
  length_insertEntry h

end NameMap

/-! ## Tables -/

namespace Table

/-- Each column is found at its position, and nothing else is found. -/
structure Indexed (t : Table) : Prop where
  distinct : (t.columns.map Column.name).Nodup
  positions : ∀ name i, t.positions.find? name = some i
    ↔ (t.columns.map Column.name)[i]? = some name

/-- Names that are counted from `count` on. -/
theorem counted_cons {a name : String} {names : List String} {count i : Nat} :
    (∃ j, (a :: names)[j]? = some name ∧ i = count + j)
      ↔ a = name ∧ i = count ∨ ∃ j, names[j]? = some name ∧ i = count + 1 + j := by
  constructor
  · rintro ⟨j, hj, rfl⟩
    cases j with
    | zero => exact Or.inl ⟨Option.some.inj hj, rfl⟩
    | succ j => exact Or.inr ⟨j, hj, by omega⟩
  · rintro (⟨rfl, rfl⟩ | ⟨j, hj, rfl⟩)
    · exact ⟨0, rfl, rfl⟩
    · exact ⟨j + 1, hj, by omega⟩

/-- **The positions of columns.** If none is refused, the columns have distinct names, none of them
is the name of a column before them, and each is found at its place. -/
theorem index_eq_ok {table : String} {before after : NameMap Nat} {count : Nat} {cs : List Column}
    (h : index table before count cs = .ok after) :
    (cs.map Column.name).Nodup ∧ (∀ name ∈ cs.map Column.name, before.find? name = none)
      ∧ ∀ name i, after.find? name = some i ↔ before.find? name = some i
        ∨ ∃ j, (cs.map Column.name)[j]? = some name ∧ i = count + j := by
  induction cs generalizing before count with
  | nil =>
    cases h
    exact ⟨.nil, nofun, fun name i => by simp⟩
  | cons c cs ih =>
    unfold index at h
    split at h
    · cases h
    · rename_i hfree
      have hnone : before.find? c.name = none := by simpa [NameMap.contains] using hfree
      obtain ⟨hnodup, hothers, hafter⟩ := ih h
      -- the other columns have come past this one, so they have other names
      have hother : ∀ name ∈ cs.map Column.name, c.name ≠ name ∧ before.find? name = none := by
        intro name hname
        have hfree' := hothers name hname
        rw [NameMap.find?_insert] at hfree'
        split at hfree'
        · cases hfree'
        · rename_i hne
          exact ⟨hne, hfree'⟩
      rw [List.map_cons]
      refine ⟨List.nodup_cons.2 ⟨fun hmem => (hother _ hmem).1 rfl, hnodup⟩, ?_, fun name i => ?_⟩
      · exact List.forall_mem_cons.2 ⟨hnone, fun name hname => (hother name hname).2⟩
      · rw [hafter, counted_cons, NameMap.find?_insert]
        by_cases hname : c.name = name
        · subst hname
          simp [hnone, eq_comm]
        · simp [hname]

theorem indexed_of_ofColumns {name : String} {columns : List Column} {table : Table}
    (h : ofColumns name columns = .ok table) : table.Indexed := by
  obtain ⟨positions, hindex, h⟩ := bind_eq_ok.1 h
  cases h
  obtain ⟨hnodup, -, hpositions⟩ := index_eq_ok hindex
  refine ⟨hnodup, fun name i => (hpositions name i).trans ?_⟩
  simp

end Table

/-! ## Sessions -/

/-- What is kept of a statement is complete. -/
structure PreparedStatement.Complete (p : PreparedStatement) : Prop where
  resolved : ∀ t ∈ p.paramTypes, t.isResolved = true
  named : p.description.names.length = p.description.types.length

/-- What an analysis gives and leaves is complete. -/
theorem PreparedStatement.complete_of_analyze {catalog : Catalog} {before after : ParamTypes}
    {name : String} {S : Statement} {d : Description}
    (h : analyze catalog before S = (.ok d, after)) :
    Complete ⟨name, S, after.types?.getD [], d⟩ where
  resolved := Session.resolved_of_analyze h
  named := by
    obtain ⟨s', hbind, -⟩ := analyze_eq_ok.1 h
    exact bindStatement_named catalog S _ d s' hbind

namespace Session

/-- What is kept under a name has that name, and the version is the number of tables. -/
structure Consistent (s : Session) : Prop where
  statements : ∀ entry ∈ s.statements.entries, entry.2.name = entry.1 ∧ entry.2.Complete
  tables : ∀ entry ∈ s.catalog.tables.entries, entry.2.name = entry.1 ∧ entry.2.Indexed
  version : s.catalog.version = s.catalog.tables.entries.length

theorem consistent_new (config : Config) : (new config).Consistent :=
  ⟨nofun, nofun, rfl⟩

/-- **Each change keeps a session consistent.** -/
theorem Consistent.change {s s' : Session} {forgotten : String → Prop} (h : s.Consistent)
    (hchange : Change forgotten s s') : s'.Consistent := by
  obtain ⟨hstatements, htables, hversion⟩ := h
  cases hchange with
  | create htable hcreate =>
    rcases Catalog.createTable_eq_ok hcreate with rfl | ⟨hfree, rfl⟩
    · exact ⟨hstatements, htables, hversion⟩
    · refine ⟨hstatements, fun entry hentry => ?_, ?_⟩
      · rcases NameMap.mem_insertEntry hentry with rfl | hentry
        · exact ⟨rfl, Table.indexed_of_ofColumns htable⟩
        · exact htables entry hentry
      · -- the table is one more because its name was free
        rw [NameMap.length_insert hfree, ← hversion]
  | prepare hprepare =>
    obtain ⟨-, d, params, hanalyze, rfl, rfl⟩ := prepare_eq_ok hprepare
    refine ⟨fun entry hentry => ?_, htables, hversion⟩
    rcases NameMap.mem_insertEntry hentry with rfl | hentry
    · exact ⟨rfl, PreparedStatement.complete_of_analyze hanalyze⟩
    · exact hstatements entry hentry
  | forget _ =>
    exact ⟨fun entry hentry => hstatements entry (List.mem_filter.1 hentry).1, htables, hversion⟩
  | forgetAll _ => exact ⟨nofun, htables, hversion⟩

/-- **Every session is consistent.** After any calls of a new session, in any order, successful or
failed: every prepared statement is kept under its own name, its parameters have types that values
have, and its columns have names; every table is kept under its own name, its columns have distinct
names and are found at their positions; and the version of the catalog is the number of its tables. -/
theorem afterAll_consistent (config : Config) (ops : List Operation) :
    ((new config).afterAll ops).Consistent := by
  have hreachable : ((new config).afterAll ops).Reachable := ⟨config, ops, rfl⟩
  exact hreachable.induction consistent_new fun _ _ hchange h => h.change hchange

end Session

end Prepared
