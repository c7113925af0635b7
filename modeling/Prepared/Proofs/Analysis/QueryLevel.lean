import Mathlib.Data.List.Forall2
import Prepared.Proofs.Analysis.Frame
import Prepared.Proofs.Analysis.Width

/-!
# What a FROM puts in sight

The tables of a `FROM` may be joined, but in the end they are tables of the catalog and queries, its
factors, and each factor becomes one table of the query level (`Binding.From`). They come behind one
another in the order in which they are written, and nothing else that is bound on the way stays:
conditions of joins and the queries themselves leave the open query levels as they are
(`Frame.levels`).

* `bindTables_adds`: what the tables of a `FROM` add to a query level that has tables already.
* `level_of_bindTables`: the tables of a query level are those of its `FROM`.
-/

namespace Prepared

open Sql BindM Walk

/-- The tables and queries that joined tables are made of, from left to right. -/
def Sql.TableRef.factors : TableRef → List TableRef
  | .join left _ right _ _ => left.factors ++ right.factors
  | t => [t]

theorem Sql.TableRef.factors_ne_nil (t : TableRef) : t.factors ≠ [] := by
  fun_induction factors t with
  | case1 left kind right rule condition ihl ihr => exact List.append_ne_nil_of_left_ne_nil ihl _
  | case2 t hjoin => exact List.cons_ne_nil _ _

variable {σ : Type} [ParamHook σ]

/-! ## The table of a factor -/

/-- What a factor of a `FROM` is in its query level: a table of the catalog under its own name or
another, or the output of a query with some of its columns renamed. -/
inductive Binding.From (σ : Type) [ParamHook σ] (catalog : Catalog) : TableRef → Binding → Prop
  | table {name hasArgs args label hints plain table} (index : Nat) :
    tableName name = .ok plain → catalog.table plain = .ok table →
    From σ catalog (.table name hasArgs args label hints)
      ⟨(label.map (·.name.folded)).getD plain, index, table.columns⟩
  | derived {lateral query q} {label : TableAlias} {s s' : WalkState σ} (index : Nat) :
    bindQuery catalog none query s = (.ok q, s') →
    From σ catalog (.derived lateral query (some label))
      ⟨label.name.folded, index, renamed q.names q.types label.columns⟩

/-- Factors become tables at the end of the innermost query level. -/
def Adds (catalog : Catalog) (factors : List TableRef) (s s' : WalkState σ) : Prop :=
  ∀ scope outer, s.scopes = scope :: outer → ∃ larger added,
    s'.scopes = larger :: outer ∧ larger.bindings = scope.bindings ++ added
      ∧ List.Forall₂ (Binding.From σ catalog) factors added

namespace Adds

variable {catalog : Catalog} {s s' s'' : WalkState σ}

theorem of_scopes_eq (h : s'.scopes = s.scopes) : Adds catalog [] s s' := by
  intro scope outer hscopes
  exact ⟨scope, [], h.trans hscopes, (List.append_nil _).symm, .nil⟩

theorem trans {factors factors' : List TableRef} (h : Adds catalog factors s s')
    (h' : Adds catalog factors' s' s'') : Adds catalog (factors ++ factors') s s'' := by
  intro scope outer hscopes
  obtain ⟨larger, added, hscopes', hbindings, hfrom⟩ := h scope outer hscopes
  obtain ⟨larger', added', hscopes'', hbindings', hfrom'⟩ := h' larger outer hscopes'
  refine ⟨larger', added ++ added', hscopes'', ?_, List.rel_append hfrom hfrom'⟩
  rw [hbindings', hbindings, List.append_assoc]

/-- A step that keeps the query levels, after those that add tables. -/
theorem after {factors : List TableRef} (h : Adds catalog factors s s')
    (hkept : s''.scopes = s'.scopes) : Adds catalog factors s s'' := by
  have hboth := h.trans (of_scopes_eq hkept)
  rwa [List.append_nil] at hboth

end Adds

/-- A factor becomes a table as soon as it has a number. -/
theorem addBinding_newTable {b : Nat → Binding} {catalog : Catalog} {t : TableRef}
    {s s' : WalkState σ} (hfrom : ∀ n, Binding.From σ catalog t (b n))
    (h : (do addBinding (b (← newTable)) : Walk σ Unit) s = (.ok (), s')) :
    Adds catalog [t] s s' := by
  intro scope outer hscopes
  obtain ⟨n, s₁, hnumber, hadd⟩ := Walk.run_bind_ok h
  obtain ⟨-, rfl⟩ := Prod.mk.inj hnumber
  unfold addBinding at hadd
  simp only [hscopes] at hadd
  unfold Scope.add at hadd
  split at hadd
  · rename_i larger hlarger
    split at hlarger
    · cases hlarger
    · cases hlarger
      cases hadd
      exact ⟨_, [b n], rfl, rfl, .cons (hfrom n) .nil⟩
  · cases hadd

/-! ## The tables of a FROM -/

section

variable {catalog : Catalog} {s s' : WalkState σ}

/-- A step that adds no table leaves the query levels as they are. -/
theorem scopes_of_keeping {α : Type} {x : Walk σ α} {r : Except BindError α}
    (h : ((Frame.levels σ).stepRelation catalog).Keeping x x) (hrun : x s = (r, s')) :
    s'.scopes = s.scopes := by
  have hkept : (x s).2.scopes = s.scopes := h s
  rwa [hrun] at hkept

theorem bindTable_adds {name : ObjectName} {hasArgs : Bool} {args hints : List Expr}
    {label : Option TableAlias} (h : bindTable catalog name label s = (.ok (), s')) :
    Adds catalog [.table name hasArgs args label hints] s s' := by
  unfold bindTable at h
  obtain ⟨plain, s₁, hname, h⟩ := Walk.run_bind_ok h
  obtain ⟨hplain, rfl⟩ := ok_of_ofResult hname
  obtain ⟨table, s₂, htable, h⟩ := Walk.run_bind_ok h
  obtain ⟨hfound, rfl⟩ := ok_of_ofCatalog htable
  exact addBinding_newTable (fun n => .table n hplain hfound) h

theorem bindDerived_adds {lateral : Bool} {query : Query} {q : BoundQuery} {label : TableAlias}
    {t t' : WalkState σ} (hquery : bindQuery catalog none query t = (.ok q, t'))
    (h : bindDerived q label s = (.ok (), s')) :
    Adds catalog [.derived lateral query (some label)] s s' := by
  unfold bindDerived at h
  exact addBinding_newTable (fun n => .derived n hquery) h

/-- **A table with its joins** adds its factors. -/
theorem bindTableRef_adds : (t : TableRef) → {s s' : WalkState σ} →
    bindTableRef catalog t s = (.ok (), s') → Adds catalog t.factors s s'
  | .table name hasArgs args label hints, s, s', h => by
    unfold bindTableRef at h
    exact bindTable_adds h
  | .derived lateral query none, s, s', h => by
    unfold bindTableRef at h
    cases h
  | .derived lateral query (some label), s, s', h => by
    unfold bindTableRef at h
    obtain ⟨q, s₁, hquery, h⟩ := Walk.run_bind_ok h
    -- the query has levels of its own, which are closed again
    have hkept : s₁.scopes = s.scopes := scopes_of_keeping
      (((Frame.levels σ).stepRelation catalog).bindQuery_related none query) hquery
    exact (Adds.of_scopes_eq hkept).trans (bindDerived_adds hquery h)
  | .function value label, s, s', h => by
    unfold bindTableRef at h
    cases h
  | .nested tables label, s, s', h => by
    unfold bindTableRef at h
    cases h
  | .join left kind right rule condition, s, s', h => by
    unfold bindTableRef at h
    obtain ⟨_, s₁, hleft, h⟩ := Walk.run_bind_ok h
    obtain ⟨_, s₂, hright, h⟩ := Walk.run_bind_ok h
    have hadds : Adds catalog (left.factors ++ right.factors) s s₂ :=
      (bindTableRef_adds left hleft).trans (bindTableRef_adds right hright)
    unfold TableRef.factors
    split at h
    · exact hadds.after (scopes_of_keeping
        (((Frame.levels σ).stepRelation catalog).bindCondition_related condition) h)
    · cases h

/-- **The tables of a `FROM`** add their factors, from the first to the last. -/
theorem bindTables_adds {ts : List TableRef} (h : bindTables catalog ts s = (.ok (), s')) :
    Adds catalog (ts.flatMap TableRef.factors) s s' := by
  induction ts generalizing s with
  | nil =>
    unfold bindTables at h
    cases h
    exact Adds.of_scopes_eq rfl
  | cons t ts ih =>
    unfold bindTables at h
    obtain ⟨_, s₁, ht, h⟩ := Walk.run_bind_ok h
    exact (bindTableRef_adds t ht).trans (ih h)

/-- The tables of a query level are those of its `FROM`, and the levels around it are as before. -/
theorem level_of_bindTables {ts : List TableRef} {outer : List Scope}
    (hscopes : s.scopes = Scope.empty :: outer) (h : bindTables catalog ts s = (.ok (), s')) :
    ∃ scope, s'.scopes = scope :: outer
      ∧ List.Forall₂ (Binding.From σ catalog) (ts.flatMap TableRef.factors) scope.bindings := by
  obtain ⟨scope, added, hscopes', hbindings, hfrom⟩ := bindTables_adds h _ outer hscopes
  have hadded : scope.bindings = added := hbindings
  exact ⟨scope, hscopes', hadded ▸ hfrom⟩

end

end Prepared
