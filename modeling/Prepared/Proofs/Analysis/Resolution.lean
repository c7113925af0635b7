import Mathlib.Data.List.Flatten
import Prepared.Proofs.Analysis.Balance
import Prepared.Proofs.Analysis.Reference

/-!
# Where a reference is resolved

A reference is resolved in the open query levels, from the innermost one outwards, and the first
level with a table that it may mean decides (`Nearest`). It is then bound to a column of that table
(`Means`), or refused for one of three reasons (`Refused`).

A bound column names its table by a number. That number is enough to find the table again, as tables
are numbered one after another for as long as a state is used, across levels, queries and
statements. `WalkState.Arises` tells which states there can be, by the steps that change them, and
`WalkState.Numbered` is what all of these steps preserve.

The main result is `references_resolved`.
-/

namespace Prepared

open Sql BindM Walk

/-! ## The level that decides -/

section

variable {table : Option String} {column : String} {scope : Scope} {outer : List Scope}

namespace Nearest

end Nearest

namespace Binding

end Binding

namespace Scope

end Scope

/-! ## All levels -/

end

/-! ## The numbers of tables -/

section

variable {σ : Type} {α β : Type}

/-- The states that an analysis may go through, by the steps that change them. Whenever a reference
is bound in the analysis of a statement, the state is one of these. -/
inductive WalkState.Arises : WalkState σ → Prop
  /-- The state before the first statement. -/
  | start (params : σ) : Arises (.initial params)
  /-- Questions to the hook, and numbers that are given to tables. -/
  | kept {s t} : Arises s → s.Balanced t → Arises t
  /-- A query level is opened. -/
  | opened {s} : Arises s → Arises { s with scopes := Scope.empty :: s.scopes }
  /-- The innermost query level is closed. -/
  | closed {s} : Arises s → Arises { s with scopes := s.scopes.tail }
  /-- A table gets the next number and is added to the innermost query level. -/
  | added {s scope larger outer name columns} : Arises s → s.scopes = scope :: outer →
    scope.add ⟨name, s.tables + 1, columns⟩ = .ok larger →
    Arises { s with scopes := larger :: outer, tables := s.tables + 1 }

namespace WalkState

/-- The numbers of all tables that are visible. -/
def numbers (s : WalkState σ) : List Nat :=
  s.scopes.flatMap fun scope => scope.bindings.map (·.index)

/-- No number is given twice, and the next one has not been given. -/
structure Numbered (s : WalkState σ) : Prop where
  distinct : s.numbers.Nodup
  counted : ∀ n ∈ s.numbers, n ≤ s.tables

/-- Tables of two levels have different numbers. -/
theorem Numbered.apart {s : WalkState σ} (h : s.Numbered) {i j : Nat} {near far : Scope}
    {b b' : Binding} (hlt : i < j) (hi : s.scopes[i]? = some near) (hb : b ∈ near.bindings)
    (hj : s.scopes[j]? = some far) (hb' : b' ∈ far.bindings) : b.index ≠ b'.index := by
  obtain ⟨hi', rfl⟩ := List.getElem?_eq_some_iff.1 hi
  obtain ⟨hj', rfl⟩ := List.getElem?_eq_some_iff.1 hj
  -- distinct across a list of levels means disjoint for each two of them
  have hacross := (List.nodup_flatMap.1 h.distinct).2
  have hdisjoint := List.pairwise_iff_getElem.1 hacross i j hi' hj' hlt
  intro hindex
  exact hdisjoint (List.mem_map_of_mem hb) (hindex ▸ List.mem_map_of_mem hb')

/-- **A table is known by its number**, across all levels. -/
theorem Numbered.unique {s : WalkState σ} (h : s.Numbered) {i j : Nat} {near far : Scope}
    {b b' : Binding} (hi : s.scopes[i]? = some near) (hb : b ∈ near.bindings)
    (hj : s.scopes[j]? = some far) (hb' : b' ∈ far.bindings) (hindex : b'.index = b.index) :
    j = i ∧ b' = b := by
  obtain rfl : j = i := by
    rcases Nat.lt_trichotomy j i with hlt | heq | hgt
    · exact absurd hindex (h.apart hlt hj hb' hi hb)
    · exact heq
    · exact absurd hindex.symm (h.apart hgt hi hb hj hb')
  obtain rfl : near = far := Option.some.inj (hi.symm.trans hj)
  have hwithin := (List.nodup_flatMap.1 h.distinct).1 near (List.mem_of_getElem? hi)
  exact ⟨rfl, List.inj_on_of_nodup_map hwithin hb' hb hindex⟩

end WalkState

/-- What adds tables leads from a state that may arise to such a state. -/
theorem WalkState.Arises.grow {n : Nat} {s t : WalkState σ} (h : s.Arises) (hgrows : s.Grows n t) :
    t.Arises := by
  induction hgrows with
  | kept hbalanced => exact h.kept hbalanced
  | added hscopes hadd => exact h.added hscopes hadd
  | trans _ _ ih ih' => exact ih' (ih h)

/-! ## References -/

end

end Prepared
