import Prepared.Analysis.Error

/-!
# The tables of a query level

While a query is analyzed, the tables of its `FROM` are visible under their names. A `Binding` is
one such table, a `Scope` those of one query level, in the order in which they were added.
-/

namespace Prepared

/-- A table or a query under its name in a query level. -/
structure Binding where
  name : String
  /-- The number of the table among all those bound so far. -/
  index : Nat
  columns : List Column
  deriving Repr, DecidableEq

/-- A column of one of the tables that are visible. -/
structure BoundColumn where
  name : String
  type : SqlType
  /-- The number of its table. -/
  table : Nat
  /-- Its position in the table. -/
  position : Nat
  /-- How many query levels further out the table is. -/
  depth : Nat
  deriving Repr, DecidableEq

/-- The last column called `name` with its position. -/
def lastColumn? (name : String) : List Column → Option (Nat × Column)
  | [] => none
  | c :: cs =>
    match lastColumn? name cs with
    | some (i, d) => some (i + 1, d)
    | none => if c.name = name then some (0, c) else none

theorem lastColumn?_eq_some {name : String} {cs : List Column} {i : Nat} {c : Column}
    (h : lastColumn? name cs = some (i, c)) : cs[i]? = some c ∧ c.name = name := by
  induction cs generalizing i with
  | nil => simp [lastColumn?] at h
  | cons d ds ih =>
    unfold lastColumn? at h
    split at h
    · rename_i j e hj
      simp only [Option.some.injEq, Prod.mk.injEq] at h
      obtain ⟨rfl, rfl⟩ := h
      simpa using ih hj
    · split at h
      · rename_i hd
        simp only [Option.some.injEq, Prod.mk.injEq] at h
        obtain ⟨rfl, rfl⟩ := h
        exact ⟨rfl, hd⟩
      · simp at h

theorem lastColumn?_eq_none_iff {name : String} {cs : List Column} :
    lastColumn? name cs = none ↔ ∀ c ∈ cs, c.name ≠ name := by
  induction cs with
  | nil => simp [lastColumn?]
  | cons d ds ih =>
    unfold lastColumn?
    split
    · rename_i j e hj
      have : ¬∀ c ∈ ds, c.name ≠ name := fun hn => by rw [ih.2 hn] at hj; cases hj
      simp [this]
    · rename_i hn
      have hall := ih.1 hn
      by_cases hd : d.name = name
      · simp [hd]
      · simp [hd]; exact hall

namespace Binding

/-- The position of the column called `name`; of several the last. -/
def position? (b : Binding) (name : String) : Option Nat :=
  (lastColumn? name b.columns).map (·.1)

/-- Whether there is a column called `name`. -/
def hasColumn (b : Binding) (name : String) : Bool :=
  (b.position? name).isSome

/-- The column called `name`, seen from `depth` levels further in. -/
def bind (b : Binding) (name : String) (depth : Nat) : Except BindError BoundColumn :=
  match lastColumn? name b.columns with
  | some (position, column) => .ok ⟨name, column.type, b.index, position, depth⟩
  | none => .error (.columnNotInBinding name b.name)

end Binding

/-! ### Query levels -/

/-- The tables of a query level, with distinct names. -/
structure Scope where
  bindings : List Binding
  distinct : (bindings.map (·.name)).Nodup

namespace Scope

/-- The level without tables. -/
def empty : Scope := ⟨[], .nil⟩

instance : Inhabited Scope := ⟨empty⟩

/-- Whether there are no tables. -/
def isEmpty (s : Scope) : Bool :=
  s.bindings.isEmpty

/-- The table called `name`. -/
def find? (s : Scope) (name : String) : Option Binding :=
  s.bindings.find? (·.name = name)

theorem nodup_append {l : List String} {a : String} (h : l.Nodup) (ha : a ∉ l) :
    (l ++ [a]).Nodup :=
  List.nodup_append.2 ⟨h, List.nodup_cons.2 ⟨List.not_mem_nil, .nil⟩,
    fun _ hx _ hy e => ha (List.mem_singleton.1 hy ▸ e ▸ hx)⟩

/-- Adds a table behind the others, refused if its name is taken. -/
def add (s : Scope) (b : Binding) : Except BindError Scope :=
  if h : b.name ∈ s.bindings.map (·.name) then .error (.duplicateTable b.name)
  else .ok ⟨s.bindings ++ [b], by simpa using nodup_append s.distinct h⟩

/-- The only table with a column called `name`; it is an error if there are several. -/
def matching? (s : Scope) (name : String) : Except BindError (Option Binding) :=
  match s.bindings.filter (·.hasColumn name) with
  | [] => .ok none
  | [b] => .ok (some b)
  | _ => .error (.ambiguousColumn name)

end Scope

/-! ### Looking up columns -/

/-- The table at one query level that a reference means: the one that is named, or the one that has
the column. -/
def Scope.referent? (s : Scope) (table : Option String) (column : String) :
    Except BindError (Option Binding) :=
  match table with
  | some table => .ok (s.find? table)
  | none => s.matching? column

/-- The column that a reference means, with the innermost query level first, which is `depth` levels
out from where the reference stands. -/
def findColumn (table : Option String) (column : String) (depth : Nat) :
    List Scope → Except BindError BoundColumn
  | [] => .error (match table with
    | some table => .missingTable table
    | none => .columnNotFound column)
  | s :: outer => do
    match ← s.referent? table column with
    | some b => b.bind column depth
    | none => findColumn table column (depth + 1) outer

end Prepared
