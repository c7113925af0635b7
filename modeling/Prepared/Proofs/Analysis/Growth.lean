import Prepared.Proofs.Analysis.StepRelation

/-!
# Analysis in a catalog that has grown

A successful analysis never counts on a table being absent: it looks tables up, and each look-up
that it makes has succeeded. So it succeeds in every catalog with the same tables and more, and it
goes through the same states there, those of the hook included. A failed analysis does not carry
over: the table that it misses may be one that was created since.

* `Catalog.Within` — the order of catalogs, in which creating a table goes up
  (`within_createTable`).
* `StepRelation.repeating` — what a step does in a small catalog it does in a large one, as long as
  it succeeds.
* `analyze_of_within` — the same for the analysis of a whole statement.
-/

namespace Prepared

open Sql BindM

/-! ## Catalogs with more tables -/

namespace Catalog

variable {c c' c'' : Catalog}

/-- Every table of `c` is in `c'` under its name, with the same columns. -/
def Within (c c' : Catalog) : Prop :=
  ∀ name table, c.table name = .ok table → c'.table name = .ok table

theorem Within.refl (c : Catalog) : c.Within c :=
  fun _ _ h => h

theorem Within.trans (h : c.Within c') (h' : c'.Within c'') : c.Within c'' :=
  fun name table ht => h' name table (h name table ht)

/-- A lookup fails for one reason only. -/
theorem table_eq_ok {name : String} {table : Table} :
    c.table name = .ok table ↔ c.tables.find? name = some table := by
  unfold Catalog.table
  cases c.tables.find? name with
  | none =>
    constructor
    · intro h
      cases h
    · intro h
      cases h
  | some found =>
    constructor
    · intro h
      cases h
      rfl
    · intro h
      cases h
      rfl

/-- A catalog takes a table in only under a name that is free. -/
theorem createTable_eq_ok {table : Table} {ifNotExists : Bool}
    (h : c.createTable table ifNotExists = .ok c') :
    c' = c ∨ c.tables.find? table.name = none
      ∧ c' = ⟨c.tables.insert table.name table, c.version + 1⟩ := by
  unfold createTable at h
  split at h
  · split at h
    · cases h
      exact Or.inl rfl
    · cases h
  · rename_i hfree
    cases h
    right
    constructor
    · simpa [NameMap.contains] using hfree
    · rfl

/-- **Creating a table leaves the others.** Also when the name is taken and that is let pass. -/
theorem within_createTable {table : Table} {ifNotExists : Bool}
    (h : c.createTable table ifNotExists = .ok c') : c.Within c' := by
  rcases createTable_eq_ok h with rfl | ⟨hfree, rfl⟩
  · exact Within.refl _
  · intro name found hfound
    rw [table_eq_ok] at hfound ⊢
    -- the new name was free, so it is not the one that was looked up
    have hne : table.name ≠ name := by
      intro heq
      rw [heq, hfound] at hfree
      cases hfree
    rw [NameMap.find?_insert, if_neg hne]
    exact hfound

end Catalog

/-! ## Repeating a step -/

variable {σ : Type} {α β : Type}

/-- Whenever `x` succeeds, `y` gives the same and leaves the same state. -/
def Walk.Repeats (x y : Walk σ α) : Prop :=
  ∀ s a s', x s = (.ok a, s') → y s = (.ok a, s')

theorem Walk.Repeats.refl (x : Walk σ α) : Walk.Repeats x x :=
  fun _ _ _ h => h

/-- Both steps have to succeed, and then both are repeated. -/
theorem Walk.Repeats.bind {x y : Walk σ α} {f g : α → Walk σ β} (h : Walk.Repeats x y)
    (hf : ∀ a, Walk.Repeats (f a) (g a)) : Walk.Repeats (x >>= f) (y >>= g) := by
  intro s b s'' hs
  obtain ⟨a, s', hx, hfa⟩ := Walk.run_bind_ok hs
  have hy : y s = (.ok a, s') := h s a s' hx
  rw [Walk.run_bind, hy]
  exact hf a s' b s'' hfa

theorem Walk.Repeats.withScope {x y : Walk σ α} (h : Walk.Repeats x y) :
    Walk.Repeats (withScope x) (withScope y) := by
  intro s a s' hs
  obtain ⟨t, hx, rfl⟩ := Walk.run_withScope_ok hs
  unfold BindM.withScope
  rw [h _ a t hx]

/-- Here the larger catalog comes in: a table that is found is found there too. -/
theorem Walk.Repeats.ofCatalog {c c' : Catalog} (h : c.Within c') (name : String) :
    Walk.Repeats (ofCatalog (c.table name) : Walk σ Table) (ofCatalog (c'.table name)) := by
  intro s a s' hs
  cases hfound : c.table name with
  | error e =>
    rw [hfound] at hs
    cases hs
  | ok table =>
    rw [hfound] at hs
    rw [h name table hfound]
    exact hs

variable [ParamHook σ]

/-- What a step does in a catalog, it does in every larger one, as long as it succeeds. Only the
look-up of a table has anything to show. -/
def StepRelation.repeating {c c' : Catalog} (h : c.Within c') : StepRelation σ c c' where
  Keeping := Walk.Repeats
  Adding := Walk.Repeats
  adding_of_keeping h := h
  keeping_ofResult _ _ := .refl _
  keeping_bind := .bind
  adding_bind := .bind
  keeping_withScope := .withScope
  keeping_currentScope := .refl _
  keeping_newTable := .refl _
  keeping_resolveColumn _ _ := .refl _
  keeping_referParam _ := .refl _
  keeping_settleParam _ _ := .refl _
  adding_addBinding _ := .refl _
  keeping_table name := .ofCatalog h name

/-- **A successful analysis never counts on a table being absent.** In a larger catalog it finds the
same names and types and leaves the hook in the same state. -/
theorem analyze_of_within {c c' : Catalog} (h : c.Within c') {p p' : σ} {S : Statement}
    {d : Description} (hok : analyze c p S = (.ok d, p')) : analyze c' p S = (.ok d, p') := by
  obtain ⟨s', hbind, hparams, hcheck⟩ := analyze_eq_ok.1 hok
  have hbind' : bindStatement c' S (.initial p) = (.ok d, s') :=
    (StepRelation.repeating h).bindStatement_related S _ d s' hbind
  exact analyze_eq_ok.2 ⟨s', hbind', hparams, hcheck⟩

end Prepared
