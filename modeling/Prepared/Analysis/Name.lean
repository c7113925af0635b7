import Prepared.Analysis.Error
import Prepared.Sql.Printer.Atom

/-!
# What names refer to

An unquoted name is the same in any case: it stands for its small letters. A quoted name stands for
itself.
-/

namespace Prepared

open Sql

/-- The text that a name stands for. -/
def Sql.Ident.folded (i : Ident) : String :=
  if i.quote.isSome then i.value else Text.lower i.value

@[simp]
theorem Sql.Ident.folded_quoted (value : String) (q : Char) :
    Ident.folded ⟨value, some q⟩ = value :=
  rfl

/-- The schema that every table is in. -/
def defaultSchema : String := "public"

/-- The table that a name refers to: a plain name, or one behind the name of the default schema. -/
def tableName (name : ObjectName) : Except BindError String :=
  let unsupported : Except BindError String := .error (.unsupportedName (ObjectName.render name))
  match name with
  | [table] => .ok table.folded
  | [schema, table] => if schema.folded = defaultSchema then .ok table.folded else unsupported
  | _ => unsupported

end Prepared
