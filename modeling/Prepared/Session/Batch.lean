import Prepared.Session.Basic

/-!
# Batches

Rows are handed out as a batch, which is put together from columns of data under fields. Not all
columns make up a batch, so putting one together can fail. What does it is not said here: a function
`build` is taken that gives the rows exactly if the columns fit (`Builds`).
-/

namespace Prepared

/-- The data of a column, all stored in one way. -/
structure ColumnData where
  storage : Storage
  data : List (Option Datum)
  deriving DecidableEq

/-- Columns that make up a batch: there is one for each field, stored as the field says and without
nulls unless the field may have them, and all of them are of one length. -/
structure Fitting (fields : List Field) (columns : List ColumnData) : Prop where
  nonempty : columns ≠ []
  count : fields.length = columns.length
  storage : ∀ p ∈ fields.zip columns, p.2.storage = p.1.storage
  nulls : ∀ p ∈ fields.zip columns, p.1.nullable = false → none ∉ p.2.data
  length : ∀ c ∈ columns, ∀ d ∈ columns, c.data.length = d.data.length

instance (fields : List Field) (columns : List ColumnData) : Decidable (Fitting fields columns) :=
  decidable_of_iff
    (columns ≠ [] ∧ fields.length = columns.length
      ∧ (∀ p ∈ fields.zip columns, p.2.storage = p.1.storage)
      ∧ (∀ p ∈ fields.zip columns, p.1.nullable = false → none ∉ p.2.data)
      ∧ ∀ c ∈ columns, ∀ d ∈ columns, c.data.length = d.data.length)
    ⟨fun ⟨h₁, h₂, h₃, h₄, h₅⟩ => ⟨h₁, h₂, h₃, h₄, h₅⟩,
      fun ⟨h₁, h₂, h₃, h₄, h₅⟩ => ⟨h₁, h₂, h₃, h₄, h₅⟩⟩

/-- The rows of columns of one length. -/
def RowSet.ofColumns (fields : List Field) (columns : List ColumnData) : RowSet where
  fields := fields
  rows := (List.range ((columns.head?.map (·.data.length)).getD 0)).map fun i =>
    columns.map fun c => (c.data[i]?).getD none

/-- How a datum is stored. -/
def Datum.storage : Datum → Storage
  | boolean _ => .boolean
  | integer t _ _ => .integer t
  | float _ => .float32
  | double _ => .float64
  | text _ => .utf8

/-- The column of a parameter: its datum, stored as data of that kind are, or a null, stored as one of
its type. -/
def Param.column (p : Param) : ColumnData :=
  match p.value with
  | some d => ⟨d.storage, [some d]⟩
  | none => ⟨p.type.storage, [none]⟩

section

variable {ε : Type} (build : List Field → List ColumnData → Except ε RowSet)

/-- Columns are put together if they fit, and refused if they do not. -/
structure Builds : Prop where
  fitting : ∀ fields columns, Fitting fields columns →
    build fields columns = .ok (.ofColumns fields columns)
  other : ∀ fields columns, ¬Fitting fields columns → ∃ e, build fields columns = .error e

/-- Names and types as a batch, under the word for what is named. -/
def describeBatch (label : String) (names : List String) (types : List SqlType) : Except ε RowSet :=
  build [⟨label, .utf8, false⟩, ⟨"type", .utf8, false⟩]
    [⟨.utf8, names.map fun name => some (.text name)⟩,
      ⟨.utf8, types.map fun type => some (.text type.name)⟩]

/-- The values of parameters as a batch of one row, with a column for each of them. Without parameters
there is nothing to put together. -/
def paramBatch (params : List Param) : Except ε RowSet :=
  let fields :=
    List.zipWith (fun name p => ⟨name, p.type.storage, true⟩) (paramNames params.length) params
  if params.isEmpty then .ok ⟨fields, []⟩ else build fields (params.map Param.column)

/-- The prepared statement called `name` with values for its parameters, where the values have to make
up a batch. That is the last step, and what it refuses has gone through all the others. -/
def Session.executeBatch (s : Session) (name : String) (args : List Value) :
    Except (SessionError ⊕ ε) Execution := do
  let p ← (s.prepared name).mapError .inl
  if args.length ≠ p.paramTypes.length then
    throw (.inl (.parameterCount name p.paramTypes.length args.length))
  let params ← (p.bind args).mapError .inl
  let sql ← (substitute params p.statement.render).mapError fun e => .inl (.param e)
  let batch ← (paramBatch build params).mapError .inr
  return ⟨name, sql, batch⟩

/-- The batch that shows an outcome, if there is anything to show. -/
def Outcome.toBatch : Outcome → Except ε (Option RowSet)
  | command _ => .ok none
  | prepared p =>
    (describeBatch build "parameter" (paramNames p.paramTypes.length) p.paramTypes).map some
  | executed e => .ok (some e.params)
  | described d => (describeBatch build "column" d.names d.types).map some

end

end Prepared
