import Prepared.Proofs.Session.Execution
import Prepared.Proofs.Session.IntegerArgument
import Prepared.Proofs.Session.Executable
import Prepared.Proofs.Session.Consistency
import Prepared.Proofs.Session.Atomicity
import Prepared.Proofs.Analysis.Declared
import Prepared.Proofs.Analysis.Described
import Prepared.Proofs.Analysis.Soundness
import Prepared.Proofs.Analysis.Trace
import Prepared.Proofs.Analysis.ParameterFree
import Prepared.Proofs.Analysis.SetOperation
import Prepared.Proofs.Analysis.Mentioned
import Prepared.Proofs.Analysis.Inferred
import Prepared.Proofs.Analysis.Positional
import Prepared.Proofs.Analysis.Wildcard
import Prepared.Proofs.Analysis.Reference
import Prepared.Proofs.Analysis.Balance
import Prepared.Proofs.Analysis.Resolution
import Prepared.Proofs.Analysis.Unification
import Prepared.Proofs.Analysis.OperandOrder
import Prepared.Proofs.Analysis.CastComparison
import Prepared.Proofs.Analysis.ColumnAliases
import Prepared.Proofs.Analysis.InsertSource
import Prepared.Proofs.SqlType.LeastType
import Prepared.Proofs.Value.IntegerCast
import Prepared.Proofs.Session.Rendering
import Prepared.Proofs.Console.Delivery
import Prepared.Proofs.Param.Substitution
import Prepared.Proofs.Param.Quoting
import Prepared.Proofs.Session.Arguments
import Prepared.Analysis.Parameters
import Prepared.Analysis.Statement
import Prepared.Catalog
import Prepared.Console.Loop
import Prepared.Main
import Prepared.Param.Substitute
import Prepared.Session.Basic
import Prepared.Sql.Parser.Grammar
import Prepared.Sql.Printer.Statement
