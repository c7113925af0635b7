import Mathlib.Data.List.Perm.Basic
import Prepared.Proofs.Analysis.Soundness
import Prepared.Proofs.Analysis.Unification
import Prepared.Proofs.SqlType.LeastType

/-!
# The order of operands

Expressions with types of their own are brought to the common type of these, and nothing but the
types can keep them from it (`unifiedAs_of_firm`). So whether it matters in which order they stand
is a question about lists of types: it does not, unless the types are such that their least common
type may be missed (`SqlType.OrderMatters`). Then it always does, and what the expressions are
brought to is `FLOAT` or `DOUBLE`, depending on which of them come first (`unified_perm`).
-/

namespace Prepared

open Sql BindM SqlType

variable {σ : Type} [ParamHook σ]

namespace BoundExpr

/-- The expression has a type of its own and does not adapt to others: it is neither undecided nor a
literal that takes the type of whatever it meets. -/
structure IsFirm (e : BoundExpr) : Prop where
  resolved : e.type.isResolved = true
  notLiteral : e.isUntypedLiteral = false

instance (e : BoundExpr) : Decidable e.IsFirm :=
  decidable_of_iff (_ ∧ _) ⟨fun h => ⟨h.1, h.2⟩, fun h => ⟨h.resolved, h.notLiteral⟩⟩

/-- The type that expressions are brought to, if that succeeds. -/
def unifiedAs (es : List BoundExpr) (default : Option SqlType) (s : WalkState σ) : Option SqlType :=
  (unify es default s).1.toOption.map (·.2)

/-! ## Firm expressions -/

section

variable {e : BoundExpr} {es : List BoundExpr} {c : SqlType} {default : Option SqlType}

/-- Nothing is asked about a firm expression. -/
theorem coerce_firm (h : e.IsFirm) (hcasts : e.type.implicitlyCasts c = true) :
    ∃ e', ∀ s : WalkState σ, e.coerce c s = (.ok e', s) := by
  have hcast : ∃ e', ∀ s : WalkState σ, e.castImplicitly c s = (.ok e', s) := by
    refine ⟨.computed e.name c, fun s => ?_⟩
    unfold castImplicitly
    rw [if_pos hcasts]
    rfl
  unfold coerce
  split
  · exact ⟨e, fun _ => rfl⟩
  · split
    · exact absurd h.resolved Bool.noConfusion
    · rw [if_neg (by simp [h.notLiteral])]
      exact hcast
    · exact hcast

theorem coerceAll_firm (h : ∀ e ∈ es, e.IsFirm ∧ e.type.implicitlyCasts c = true) :
    ∃ es', ∀ s : WalkState σ, coerceAll c es s = (.ok es', s) := by
  induction es with
  | nil => exact ⟨[], fun _ => rfl⟩
  | cons e es ih =>
    obtain ⟨⟨hfirm, hcasts⟩, hes⟩ := List.forall_mem_cons.1 h
    obtain ⟨e', he⟩ := coerce_firm (σ := σ) hfirm hcasts
    obtain ⟨es', hes'⟩ := ih hes
    refine ⟨e' :: es', fun s => ?_⟩
    unfold coerceAll
    rw [Walk.run_bind, he]
    dsimp only
    rw [Walk.run_bind, hes']
    rfl

/-- An expression whose type does not count is an untyped null. -/
theorem casts_of_firm (h : e.IsFirm) (hc : e.type.Counts → e.type.implicitlyCasts c = true) :
    e.type.implicitlyCasts c = true := by
  by_cases hcounts : e.type.Counts
  · exact hc hcounts
  · have hnull : e.type = .null := by
      by_contra hne
      exact hcounts ⟨h.resolved, hne⟩
    rw [hnull]
    simp [implicitlyCasts]

theorem unifiedAs_of_some (h : ∀ e ∈ es, e.IsFirm) (hes : c.Bounds (es.map type))
    (hcommon : unifiedType es default = .ok (some c)) (s : WalkState σ) :
    unifiedAs es default s = some c := by
  have hcasts : ∀ e ∈ es, e.IsFirm ∧ e.type.implicitlyCasts c = true := fun e he =>
    ⟨h e he, casts_of_firm (h e he) (hes e.type (List.mem_map_of_mem he))⟩
  obtain ⟨es', hes'⟩ := coerceAll_firm (σ := σ) hcasts
  unfold unifiedAs unify
  rw [hcommon]
  show ((do return (← coerceAll c es, c) : Walk σ _) s).1.toOption.map (·.2) = some c
  rw [Walk.run_bind, hes']
  rfl

/-- **What firm expressions are brought to** is the common type of their types. If none of these
counts it is the type to fall back on, and if there is no common type they are not unified. -/
theorem unifiedAs_of_firm (h : ∀ e ∈ es, e.IsFirm) (default : Option SqlType) (s : WalkState σ) :
    unifiedAs es default s = (commonTypeFrom .unknown (es.map type)).toOption.map
      fun c => if c = .unknown then default.getD .unknown else c := by
  have htyped : commonType (es.filter fun e => !e.isUntypedLiteral) = commonType es := by
    rw [List.filter_eq_self.2 fun e he => by rw [(h e he).notLiteral]; rfl]
  cases hcommon : commonTypeFrom .unknown (es.map type) with
  | error e =>
    have hall : commonType es = .error e := hcommon
    unfold unifiedAs unify unifiedType
    rw [htyped, hall]
    rfl
  | ok c =>
    have hall : commonType es = .ok c := hcommon
    by_cases hc : c = .unknown
    · subst hc
      have hunified : unifiedType es default = .ok default :=
        unifiedType_of_untyped default (htyped.trans hall) hall
      cases default with
      | none =>
        unfold unifiedAs
        rw [run_unify_of_none hunified]
        rfl
      | some d =>
        -- all of them are untyped nulls, which cast to the type to fall back on
        refine unifiedAs_of_some h (fun t ht hcounts => ?_) hunified s
        rcases counts_commonTypeFrom hcommon with ⟨-, hnone⟩ | hunknown
        · exact absurd hcounts (hnone t ht)
        · exact absurd hunknown.1 (by decide)
    · have hunified := unifiedType_of_typed default hc (htyped.trans hall)
      rw [unifiedAs_of_some h (bounds_of_commonTypeFrom hcommon) hunified]
      simp [Except.toOption, hc]

end

end BoundExpr

open BoundExpr

/-! ## Permutations -/

section

variable {es fs : List BoundExpr}

theorem mem_types_of_perm (h : es.Perm fs) (t : SqlType) :
    t ∈ es.map BoundExpr.type ↔ t ∈ fs.map BoundExpr.type :=
  (h.map BoundExpr.type).mem_iff

/-- An expression can be put in front of the others. -/
theorem exists_perm_front {t : SqlType} (h : t ∈ es.map BoundExpr.type) :
    ∃ e fs, e.type = t ∧ es.Perm (e :: fs) := by
  obtain ⟨e, he, htype⟩ := List.mem_map.1 h
  exact ⟨e, es.erase e, htype, List.perm_cons_erase he⟩

/-- What firm expressions are brought to once they stand in an order whose types are known. -/
theorem unifiedAs_of_perm (hes : ∀ e ∈ es, e.IsFirm) (hperm : es.Perm fs) {c : SqlType}
    (hc : c ≠ .unknown) (h : commonTypeFrom .unknown (fs.map BoundExpr.type) = .ok c)
    (default : Option SqlType) (s : WalkState σ) : unifiedAs fs default s = some c := by
  rw [unifiedAs_of_firm (fun e he => hes e (hperm.mem_iff.2 he)), h]
  simp [Except.toOption, hc]

theorem exists_perm_float (hes : ∀ e ∈ es, e.IsFirm)
    (horder : OrderMatters (es.map BoundExpr.type)) :
    ∃ fs, es.Perm fs ∧ ∀ default (s : WalkState σ), unifiedAs fs default s = some .float := by
  obtain ⟨e, rest, htype, hperm⟩ := exists_perm_front horder.single
  have hfront := horder.congr (mem_types_of_perm hperm)
  rw [List.map_cons, htype] at hfront
  refine ⟨e :: rest, hperm, unifiedAs_of_perm hes hperm (by decide) ?_⟩
  rw [List.map_cons, htype]
  exact commonTypeFrom_float hfront

theorem exists_perm_double (hes : ∀ e ∈ es, e.IsFirm)
    (horder : OrderMatters (es.map BoundExpr.type)) :
    ∃ fs, es.Perm fs ∧ ∀ default (s : WalkState σ), unifiedAs fs default s = some .double := by
  obtain ⟨t, ht, hsigned⟩ := horder.signed
  obtain ⟨e, rest, htype, hperm⟩ := exists_perm_front horder.unsigned
  -- the signed type is not that of the first expression
  have hrest : t ∈ rest.map BoundExpr.type := by
    have hmem := (mem_types_of_perm hperm t).1 ht
    rw [List.map_cons, htype] at hmem
    refine (List.mem_cons.1 hmem).resolve_left ?_
    rintro rfl
    exact absurd hsigned (by decide)
  obtain ⟨e', rest', htype', hperm'⟩ := exists_perm_front hrest
  have hboth : es.Perm (e :: e' :: rest') := hperm.trans (hperm'.cons e)
  have hfront := horder.congr (mem_types_of_perm hboth)
  rw [List.map_cons, List.map_cons, htype, htype'] at hfront
  refine ⟨e :: e' :: rest', hboth, unifiedAs_of_perm hes hboth (by decide) ?_⟩
  rw [List.map_cons, List.map_cons, htype, htype']
  exact commonTypeFrom_ubigint_signed hsigned hfront

/-- **When the order of operands matters.** Expressions with types of their own are brought to the
same type in every order, or in no order to any, unless `FLOAT`, an unsigned integer type of 64 bits
and a signed one are among their types, all of them are numeric and none is `DOUBLE`. In that case
some orders lead to `FLOAT` and others to `DOUBLE`. -/
theorem unified_perm (σ : Type) [ParamHook σ] {es : List BoundExpr} (hes : ∀ e ∈ es, e.IsFirm) :
    (¬OrderMatters (es.map BoundExpr.type) → ∀ fs, es.Perm fs →
        ∀ (default : Option SqlType) (s s' : WalkState σ),
          unifiedAs fs default s' = unifiedAs es default s)
      ∧ (OrderMatters (es.map BoundExpr.type) →
        (∃ fs, es.Perm fs ∧ ∀ default (s : WalkState σ), unifiedAs fs default s = some .float)
          ∧ ∃ fs, es.Perm fs ∧ ∀ default (s : WalkState σ),
            unifiedAs fs default s = some .double) := by
  refine ⟨fun horder fs hperm default s s' => ?_, fun horder => ?_⟩
  · have hfs : ∀ e ∈ fs, e.IsFirm := fun e he => hes e (hperm.mem_iff.2 he)
    rw [unifiedAs_of_firm hfs, unifiedAs_of_firm hes,
      commonTypeFrom_congr (mem_types_of_perm hperm) horder]
  · exact ⟨exists_perm_float hes horder, exists_perm_double hes horder⟩

end

/-- The columns of the table `t (u UBIGINT, i TINYINT, f FLOAT)`. -/
def mixedColumns : List BoundExpr :=
  [.column ⟨"u", .ubigint, 1, 0, 0⟩, .column ⟨"i", .tinyint, 1, 1, 0⟩,
    .column ⟨"f", .float, 1, 2, 0⟩]

/-- The same columns, the last one first. -/
def mixedColumnsRotated : List BoundExpr :=
  [.column ⟨"f", .float, 1, 2, 0⟩, .column ⟨"u", .ubigint, 1, 0, 0⟩,
    .column ⟨"i", .tinyint, 1, 1, 0⟩]

/-- Three columns whose order matters. -/
theorem unified_perm_mixedColumns :
    (∀ e ∈ mixedColumns, e.IsFirm)
      ∧ (∃ fs, mixedColumns.Perm fs
        ∧ unifiedAs fs (some .varchar) (WalkState.initial ParamTypes.absent) = some .float)
      ∧ ∃ fs, mixedColumns.Perm fs
        ∧ unifiedAs fs (some .varchar) (WalkState.initial ParamTypes.absent) = some .double := by
  have hfirm : ∀ e ∈ mixedColumns, e.IsFirm := by decide
  have horder : OrderMatters (mixedColumns.map BoundExpr.type) :=
    ⟨by decide, by decide, by decide, by decide, by decide⟩
  obtain ⟨⟨fs, hperm, hfloat⟩, fs', hperm', hdouble⟩ :=
    (unified_perm ParamTypes hfirm).2 horder
  exact ⟨hfirm, ⟨fs, hperm, hfloat _ _⟩, fs', hperm', hdouble _ _⟩

/-- The catalog with the table `t (u UBIGINT, i TINYINT, f FLOAT)`. -/
def Catalog.withMixed : Catalog :=
  ⟨NameMap.empty.insert "t" ⟨"t", [⟨"u", .ubigint⟩, ⟨"i", .tinyint⟩, ⟨"f", .float⟩],
    ((NameMap.empty.insert "u" 0).insert "i" 1).insert "f" 2⟩, 1⟩

/-- `SELECT $1 IN (u, i, f), $2 IN (f, u, i) FROM t` -/
def Sql.Statement.selectMixed : Statement :=
  .query (.selecting
    [.inList (.literal (.placeholder "$1")) [column "u", column "i", column "f"] false,
      .inList (.literal (.placeholder "$2")) [column "f", column "u", column "i"] false]
    [.table [⟨"t", none⟩] false [] none []])
where
  column (name : String) : Expr := .column ⟨name, none⟩

/-- The order of three columns decides what they are brought to, and so the type of a parameter that
is compared with them. -/
theorem unifiedAs_mixedColumnsRotated :
    mixedColumns.Perm mixedColumnsRotated
      ∧ unifiedAs mixedColumns none (WalkState.initial ParamTypes.absent) = some .double
      ∧ unifiedAs mixedColumnsRotated none (WalkState.initial ParamTypes.absent) = some .float
      ∧ analyze .withMixed (ParamTypes.inferred [] 9) .selectMixed
        = (.ok ⟨["$1 IN (u, i, f)", "$2 IN (f, u, i)"], [.boolean, .boolean]⟩,
          .inferred [.double, .float] 9)
      ∧ ¬∀ es fs : List BoundExpr, (∀ e ∈ es, e.IsFirm) → es.Perm fs →
        unifiedAs fs none (WalkState.initial ParamTypes.absent)
          = unifiedAs es none (WalkState.initial ParamTypes.absent) := by
  have hperm : mixedColumns.Perm mixedColumnsRotated := by decide
  refine ⟨hperm, rfl, rfl, rfl, fun h => ?_⟩
  have hsame := h mixedColumns mixedColumnsRotated (by decide) hperm
  cases hsame

end Prepared
