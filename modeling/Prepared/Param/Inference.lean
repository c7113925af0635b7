import Prepared.Analysis.Error
import Prepared.Text.Numeral

/-!
# The types of parameters

The parameters of a statement are numbered from 1. Their types are given, or they are found while
the statement is analyzed: the first reference makes a parameter known, and the first place that
wants a type gives it that type for good.
-/

namespace Prepared

-- the power of the core library, whatever else is imported
attribute [local instance (high)] instPowNat

/-- What is known about the parameters of a statement. -/
inductive ParamTypes where
  /-- There are no parameters. -/
  | absent
  /-- The types are given. -/
  | declared (types : List SqlType)
  /-- The types are found on the way; no number is larger than `limit`. -/
  | inferred (types : List SqlType) (limit : Nat)
  deriving Repr, DecidableEq

namespace ParamTypes

/-- The largest number of a parameter unless another is chosen. -/
def defaultLimit : Nat := 65535

/-- The types so far, unless there are no parameters. -/
def types? : ParamTypes → Option (List SqlType)
  | absent => none
  | declared types => some types
  | inferred types _ => some types

/-- The list with at least `n` entries: the new ones belong to parameters that were not referred to.
-/
def grow (types : List SqlType) (n : Nat) : List SqlType :=
  types ++ List.replicate (n - types.length) .invalid

/-- The type of a parameter once it has been referred to. -/
def seen (t : SqlType) : SqlType :=
  if t = .invalid then .unknown else t

/-- The type of a parameter that a statement refers to, and what is known then. -/
def refer (p : ParamTypes) (number : Nat) : Except BindError (SqlType × ParamTypes) :=
  match p with
  | absent => .error (.noSuchParameter number)
  | declared types =>
    match if number = 0 then none else types[number - 1]? with
    | some t => .ok (t, p)
    | none => .error (.noSuchParameter number)
  | inferred types limit =>
    if number = 0 ∨ limit < number then .error (.noSuchParameter number)
    else
      let types := grow types number
      let t := seen ((types[number - 1]?).getD .invalid)
      .ok (t, inferred (types.set (number - 1) t) limit)

/-- The type of a parameter that is wanted to be `target`, and what is known then. -/
def settle (p : ParamTypes) (number : Nat) (target : SqlType) :
    Except BindError (SqlType × ParamTypes) :=
  let known (t : SqlType) : Except BindError (SqlType × ParamTypes) :=
    if t = target then .ok (t, p) else .error (.inconsistentParameterTypes number t target)
  match p with
  | absent => .error (.noSuchParameter number)
  | declared types =>
    match if number = 0 then none else types[number - 1]? with
    | some t => known t
    | none => .error (.noSuchParameter number)
  | inferred types limit =>
    match if number = 0 then none else types[number - 1]? with
    | some t =>
      if t.isResolved then known t else .ok (target, inferred (types.set (number - 1) target) limit)
    | none => .error (.noSuchParameter number)

/-- The number of the first parameter without a type. -/
def firstUnresolved? (types : List SqlType) : Option Nat :=
  (types.findIdx? fun t => !t.isResolved).map (· + 1)

/-- Every parameter has a type once a statement has been analyzed. -/
def check (p : ParamTypes) : Except BindError Unit :=
  match p.types?.bind firstUnresolved? with
  | some number => .error (.undeterminedParameterType number)
  | none => .ok ()

/-- The number of a placeholder of the form `$n`. -/
def number? (placeholder : String) : Option Nat :=
  match placeholder.toList with
  | '$' :: digits => (Text.readNat? digits).filter (· < 2 ^ (64 : Nat))
  | _ => none

/-- The answer to a question and what is known then. A question that is refused changes nothing. -/
def answer (p : ParamTypes) :
    Except BindError (SqlType × ParamTypes) → Except BindError SqlType × ParamTypes
  | .ok (t, p') => (.ok t, p')
  | .error e => (.error e, p)

end ParamTypes

/-! ### Hooks -/

/-- What the analysis asks about parameters. Whoever answers keeps a state, which may change with
every question. -/
class ParamHook (σ : Type) where
  /-- The type of a parameter that the statement refers to. -/
  refer : Nat → σ → Except BindError SqlType × σ
  /-- The type of a parameter that is wanted to be of a certain type. -/
  settle : Nat → SqlType → σ → Except BindError SqlType × σ
  /-- Whether every parameter has a type. -/
  check : σ → Except BindError Unit

instance : ParamHook ParamTypes where
  refer number p := p.answer (p.refer number)
  settle number target p := p.answer (p.settle number target)
  check := ParamTypes.check

end Prepared
