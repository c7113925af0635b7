import Prepared.Analysis.Scope
import Prepared.Param.Inference

/-!
# The state of the analysis

The analysis of an expression can fail, but what it has found about parameters until then stays. The
state holds the query levels that are open, the state of the hook that answers for the parameters,
and the number of tables so far. Every hook can be asked; `BindM` is the analysis with the one that
keeps the types of the parameters.
-/

namespace Prepared

/-- What the analysis knows at one point. -/
structure WalkState (σ : Type) where
  /-- The open query levels, the innermost first. -/
  scopes : List Scope
  /-- What the hook knows about the parameters. -/
  params : σ
  /-- The number of tables bound so far. -/
  tables : Nat

/-- The state before a statement. -/
def WalkState.initial {σ : Type} (params : σ) : WalkState σ :=
  ⟨[], params, 0⟩

/-- A step of the analysis: it may fail, and changes the state in any case. -/
abbrev Walk (σ : Type) := ExceptT BindError (StateM (WalkState σ))

/-- The state of an analysis that keeps the types of the parameters. -/
abbrev BindState := WalkState ParamTypes

/-- A step of an analysis that keeps the types of the parameters. -/
abbrev BindM := Walk ParamTypes

namespace BindM

variable {σ : Type}

/-- A step that does nothing but succeed or fail. -/
def ofResult {α : Type} (x : Except BindError α) : Walk σ α :=
  fun s => (x, s)

/-- A step about types and values alone. -/
def ofType {α : Type} (x : Except TypeError α) : Walk σ α :=
  ofResult (x.mapError .type)

/-- A look into the catalog. -/
def ofCatalog {α : Type} (x : Except CatalogError α) : Walk σ α :=
  ofResult (x.mapError .catalog)

/-- A step inside a new query level, which is closed again whatever comes of it. -/
def withScope {α : Type} (x : Walk σ α) : Walk σ α :=
  fun s =>
    let (a, s) := x { s with scopes := Scope.empty :: s.scopes }
    (a, { s with scopes := s.scopes.tail })

/-- The innermost query level. -/
def currentScope : Walk σ Scope :=
  fun s => match s.scopes with
    | scope :: _ => (.ok scope, s)
    | [] => (.error .noQueryLevel, s)

/-- Adds a table to the innermost query level. -/
def addBinding (b : Binding) : Walk σ Unit :=
  fun s => match s.scopes with
    | scope :: outer =>
      match scope.add b with
      | .ok scope => (.ok (), { s with scopes := scope :: outer })
      | .error e => (.error e, s)
    | [] => (.error .noQueryLevel, s)

/-- A number for one more table. -/
def newTable : Walk σ Nat :=
  fun s => (.ok (s.tables + 1), { s with tables := s.tables + 1 })

/-- The column that a reference means. -/
def resolveColumn (table : Option String) (column : String) : Walk σ BoundColumn :=
  fun s => (findColumn table column 0 s.scopes, s)

/-- A question to the hook. -/
def ask {α : Type} (f : σ → Except BindError α × σ) : Walk σ α :=
  fun s =>
    let (a, params) := f s.params
    (a, { s with params })

/-- The type of a parameter that is referred to. -/
def referParam [ParamHook σ] (number : Nat) : Walk σ SqlType :=
  ask (ParamHook.refer number)

/-- The type of a parameter that is wanted to be `target`. -/
def settleParam [ParamHook σ] (number : Nat) (target : SqlType) : Walk σ SqlType :=
  ask (ParamHook.settle number target)

end BindM

end Prepared
