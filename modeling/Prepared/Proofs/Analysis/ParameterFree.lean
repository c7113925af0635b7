import Prepared.Proofs.Analysis.Declared
import Prepared.Proofs.Analysis.Frame
import Prepared.Proofs.Param.Values

/-!
# Statements without parameters

A hook is asked where a placeholder stands, and for nothing else that has no type: a sum of nulls, or
a column of a derived table, is coerced without it. So a statement that is analyzed where there are
no parameters at all is analyzed in the same way under every hook, which is left as it was
(`analyze_of_absent`).

The way back holds for the hook that finds types. If it has found none in the end, it was never
asked successfully, since a list of types that is not empty stays so. `StepRelation.unasked` carries
this through the syntax, and `analyze_parameterFree` puts both directions together.
-/

namespace Prepared

open Sql BindM

/-! ## No parameters, and any hook -/

/-- Where there are no parameters every question is refused, and the statement with it. Until then
any other hook has not been asked, so it is in the state in which it was. -/
def HookAgreement.ofAbsent {σ : Type} [ParamHook σ] {p : σ} (hcheck : ParamHook.check p = .ok ()) :
    HookAgreement ParamTypes σ where
  rel q p' := q = .absent ∧ p' = p
  known _ _ _ := False
  excused e := ∃ n, e = .noSuchParameter n
  refer := by
    rintro q p' n ⟨rfl, -⟩
    exact Or.inl ⟨.noSuchParameter n, rfl, n, rfl⟩
  settle := by
    -- no parameter stands in an expression, so none is brought to a type
    rintro q p' n target - hnone -
    exact hnone.elim
  check := by
    rintro q p' ⟨rfl, rfl⟩
    right
    rw [hcheck]
    rfl

section

variable (catalog : Catalog) {S : Statement} {d : Description}

/-- **Every hook.** What is analyzed without parameters is analyzed in the same way whatever is
known about parameters, as long as that is complete. -/
theorem analyze_of_absent {σ : Type} [ParamHook σ] {p : σ} (hcheck : ParamHook.check p = .ok ())
    (h : (analyze catalog ParamTypes.absent S).1 = .ok d) : analyze catalog p S = (.ok d, p) := by
  have hinitial : (HookAgreement.ofAbsent hcheck).RelState (.initial ParamTypes.absent)
      (.initial p) := ⟨rfl, rfl, rfl, rfl⟩
  rcases (HookAgreement.ofAbsent hcheck).analyzeStatement_agrees catalog _ S _ _
      (HookAgreement.Below.refl _ _) hinitial with ⟨e, he, -⟩ | ⟨hresult, hstate, -, -⟩
  · -- the statement is not refused, for whatever reason
    have herror : (analyze catalog ParamTypes.absent S).1 = .error e := he
    rw [h] at herror
    cases herror
  · have hsame : (analyze catalog p S).1 = .ok d := hresult.symm.trans h
    exact Prod.ext hsame hstate.params.2

end

/-! ## No types that are found -/

namespace ParamTypes

variable {p : ParamTypes} {limit : Nat}

/-- A reference that is answered makes the list of types longer than empty. -/
theorem eq_of_refer_eq_nil (n : Nat) (h : (p.answer (p.refer n)).2 = .inferred [] limit) :
    p = .inferred [] limit := by
  cases p with
  | absent => exact h
  | declared types => exact absurd ((refer_eq_declared n).2 rfl) (by rw [h]; exact nofun)
  | inferred types limit' =>
    rcases refer_inferred types limit' n with hrefused | ⟨types', t, hanswer, -, -, hslot, -⟩
    · rw [hrefused] at h
      exact h
    · rw [hanswer] at h
      obtain ⟨rfl, -⟩ := inferred.inj h
      have hmem : t ∈ [] := mem_of_slot? hslot
      cases hmem

/-- There is no parameter that a type could be granted to. -/
theorem settle_nil (limit n : Nat) (target : SqlType) :
    (inferred [] limit).settle n target = .error (.noSuchParameter n) := by
  simp [settle]

/-- A type that is granted is granted to a parameter in the list. -/
theorem eq_of_settle_eq_nil (n : Nat) (target : SqlType)
    (h : (p.answer (p.settle n target)).2 = .inferred [] limit) : p = .inferred [] limit := by
  cases p with
  | absent => exact h
  | declared types => exact absurd ((settle_eq_declared n target).2 rfl) (by rw [h]; exact nofun)
  | inferred types limit' =>
    cases types with
    | nil =>
      rw [settle_nil] at h
      exact h
    | cons t ts =>
      -- a list with a parameter in it is as long afterwards
      unfold settle at h
      dsimp only at h
      split at h
      · split at h
        · split at h
          · cases h
          · cases h
        · have hlength := congrArg List.length (inferred.inj h).1
          rw [List.length_set] at hlength
          cases hlength
      · cases h

end ParamTypes

/-- If no type has been found after a step, none had been found before it. -/
def Frame.untouched (limit : Nat) : Frame ParamTypes where
  Keep s t := t.params = .inferred [] limit → s.params = .inferred [] limit
  Add s t := t.params = .inferred [] limit → s.params = .inferred [] limit
  add_of_keep h := h
  keep_refl _ h := h
  keep_trans _ _ _ h h' hempty := h (h' hempty)
  add_trans _ _ _ h h' hempty := h (h' hempty)
  keep_closed h := h
  keep_newTable _ h := h
  keep_refer _ n := ParamTypes.eq_of_refer_eq_nil n
  keep_settle _ n target := ParamTypes.eq_of_settle_eq_nil n target
  add_scope _ _ _ h := h

/-- The same state where there are no parameters. -/
def WalkState.withoutParams (s : BindState) : BindState :=
  { s with params := .absent }

variable {α β : Type}

/-- If the first step succeeds and no type has been found then, the second one does the same where
there are no parameters. -/
structure Walk.Unasked (limit : Nat) (x y : BindM α) : Prop where
  untouched : Frame.Within (Frame.untouched limit).Keep x
  same : ∀ s a s', x s = (.ok a, s') → s'.params = .inferred [] limit →
    y s.withoutParams = (.ok a, s'.withoutParams)

namespace Walk.Unasked

variable {limit : Nat} {c : Catalog}

/-- A step that does the same whatever is known of parameters, and leaves that alone. -/
theorem of_silent {x : BindM α} (h : ∀ s p, x { s with params := p }
    = ((x s).1, { (x s).2 with params := p })) : Unasked limit x x where
  untouched s hempty := by
    have hsame : (x s).2.params = s.params := congrArg (·.2.params) (h s s.params)
    rw [← hsame]
    exact hempty
  same s a s' hrun _ := by
    show x { s with params := .absent } = _
    rw [h s .absent, hrun]
    rfl

theorem bind {x y : BindM α} {f g : α → BindM β} (h : Unasked limit x y)
    (hf : ∀ a, Unasked limit (f a) (g a)) : Unasked limit (x >>= f) (y >>= g) where
  untouched := Frame.Within.bind (Frame.untouched limit).keep_trans h.untouched
    fun a => (hf a).untouched
  same s b s'' hrun hempty := by
    obtain ⟨a, s', hx, hfa⟩ := Walk.run_bind_ok hrun
    -- nothing has been found after both steps, so nothing had been after the first
    have hempty' : s'.params = .inferred [] limit := by
      have hkept := (hf a).untouched s'
      rw [hfa] at hkept
      exact hkept hempty
    rw [Walk.run_bind, h.same s a s' hx hempty']
    exact (hf a).same s' b s'' hfa hempty

theorem withScope {x y : BindM α} (h : Unasked limit x y) :
    Unasked limit (withScope x) (withScope y) where
  untouched s := h.untouched { s with scopes := Scope.empty :: s.scopes }
  same s a s' hrun hempty := by
    obtain ⟨t, hx, rfl⟩ := Walk.run_withScope_ok hrun
    have hy : y { s.withoutParams with scopes := Scope.empty :: s.withoutParams.scopes }
        = (.ok a, t.withoutParams) := h.same _ a t hx hempty
    unfold BindM.withScope
    rw [hy]
    rfl

/-- A question that is answered leaves the hook with types. -/
theorem ask {f : ParamTypes → Except BindError α × ParamTypes}
    (huntouched : ∀ p, (f p).2 = .inferred [] limit → p = .inferred [] limit)
    (hanswered : ∀ a, f (.inferred [] limit) ≠ (.ok a, .inferred [] limit)) :
    Unasked limit (ask f) (ask f) where
  untouched s := huntouched s.params
  same s a s' hrun hempty := by
    obtain ⟨hanswer, rfl⟩ := Prod.mk.inj hrun
    have hbefore : s.params = .inferred [] limit := huntouched s.params hempty
    have hsame : f s.params = (.ok a, .inferred [] limit) := Prod.ext hanswer hempty
    rw [hbefore] at hsame
    exact absurd hsame (hanswered a)

theorem referParam (n : Nat) : Unasked limit (referParam n) (referParam n) := by
  refine ask (fun _ => ParamTypes.eq_of_refer_eq_nil n) fun t hanswered => ?_
  rcases ParamTypes.refer_inferred [] limit n with hrefused | ⟨types, u, hanswer, -, -, hslot, -⟩
  · simp only [ParamHook.refer, hrefused] at hanswered
    cases hanswered
  · simp only [ParamHook.refer, hanswer] at hanswered
    cases hanswered
    exact absurd (ParamTypes.mem_of_slot? hslot) List.not_mem_nil

theorem settleParam (n : Nat) (target : SqlType) :
    Unasked limit (settleParam n target) (settleParam n target) := by
  refine ask (fun _ => ParamTypes.eq_of_settle_eq_nil n target) fun t hanswered => ?_
  simp only [ParamHook.settle, ParamTypes.settle_nil] at hanswered
  cases hanswered

theorem currentScope : Unasked limit currentScope currentScope := by
  refine of_silent ?_
  rintro ⟨scopes, q, tables⟩ p
  cases scopes <;> rfl

theorem addBinding (b : Binding) : Unasked limit (addBinding b) (addBinding b) := by
  refine of_silent ?_
  rintro ⟨scopes, q, tables⟩ p
  cases scopes with
  | nil => rfl
  | cons scope outer =>
    simp only [BindM.addBinding]
    cases scope.add b <;> rfl

end Walk.Unasked

/-- What finds no types does not need a hook. -/
def StepRelation.unasked (limit : Nat) (c : Catalog) : StepRelation ParamTypes c c where
  Keeping := Walk.Unasked limit
  Adding := Walk.Unasked limit
  adding_of_keeping h := h
  keeping_ofResult _ _ := .of_silent fun _ _ => rfl
  keeping_bind := .bind
  adding_bind := .bind
  keeping_withScope := .withScope
  keeping_currentScope := .currentScope
  keeping_newTable := .of_silent fun _ _ => rfl
  keeping_resolveColumn _ _ := .of_silent fun _ _ => rfl
  keeping_referParam := .referParam
  keeping_settleParam := .settleParam
  adding_addBinding := .addBinding
  keeping_table _ := .of_silent fun _ _ => rfl

/-! ## Both directions -/

section

variable (catalog : Catalog) {S : Statement} {d : Description} {limit : Nat}

/-- A statement for which no types have been found in the end is analyzed without parameters. -/
theorem absent_of_analyze
    (h : analyze catalog (ParamTypes.inferred [] limit) S = (.ok d, .inferred [] limit)) :
    (analyze catalog ParamTypes.absent S).1 = .ok d := by
  obtain ⟨s', hbind, hempty, -⟩ := analyze_eq_ok.1 h
  have hsame : bindStatement catalog S (.initial ParamTypes.absent) = (.ok d, s'.withoutParams) :=
    ((StepRelation.unasked limit catalog).bindStatement_related S).same _ d s' hbind hempty
  have hok : analyze catalog ParamTypes.absent S = (.ok d, .absent) :=
    analyze_eq_ok.2 ⟨s'.withoutParams, hsame, rfl, rfl⟩
  rw [hok]

/-- **Statements without parameters.** For every catalog and every statement, an analysis without
parameters succeeds exactly if one that finds types succeeds with the same result and finds none;
and then every hook that has types for all its parameters gives this result as well, and keeps its
types as they are. -/
theorem analyze_parameterFree (S : Statement) (d : Description) :
    (∀ limit, (analyze catalog ParamTypes.absent S).1 = .ok d
        ↔ analyze catalog (ParamTypes.inferred [] limit) S = (.ok d, .inferred [] limit))
      ∧ ((analyze catalog ParamTypes.absent S).1 = .ok d →
        ∀ types, (∀ t ∈ types, t.isResolved = true) →
          analyze catalog (ParamTypes.declared types) S = (.ok d, .declared types)
            ∧ ∀ limit, analyze catalog (ParamTypes.inferred types limit) S
              = (.ok d, .inferred types limit)) := by
  have hcheck (p : ParamTypes) (types : List SqlType) (hp : p.types? = some types)
      (hresolved : ∀ t ∈ types, t.isResolved = true) : ParamHook.check p = .ok () := by
    refine ParamTypes.check_eq_ok_iff.2 fun types' htypes => ?_
    rw [hp] at htypes
    cases htypes
    exact hresolved
  constructor
  · intro limit
    constructor
    · exact analyze_of_absent catalog (hcheck _ [] rfl nofun)
    · exact absent_of_analyze catalog
  · intro h types hresolved
    constructor
    · exact analyze_of_absent catalog (hcheck _ types rfl hresolved) h
    · exact fun limit => analyze_of_absent catalog (hcheck _ types rfl hresolved) h

end

/-- `SELECT (SELECT x = 1) FROM (SELECT NULL + NULL) AS t (x)` -/
def Sql.Statement.selectCorrelated : Statement :=
  .query (.selecting
    [.subquery (.selecting [.binary .eq (.column ⟨"x", none⟩) (.literal (.number "1" false))] [])]
    [.derived false (.selecting [.binary .plus (.literal .null) (.literal .null)] [])
      (some ⟨⟨"t", none⟩, [⟨"x", none⟩]⟩)])

/-- A column without a type is compared with a number two query levels further in, and no hook is
asked for it. -/
theorem analyze_parameterFree_selectCorrelated :
    (analyze .empty ParamTypes.absent .selectCorrelated).1 = .ok ⟨["(SELECT x = 1)"], [.boolean]⟩
      ∧ analyze .empty (ParamTypes.inferred [] 0) .selectCorrelated
        = (.ok ⟨["(SELECT x = 1)"], [.boolean]⟩, .inferred [] 0)
      ∧ analyze .empty (ParamTypes.declared [.varchar]) .selectCorrelated
        = (.ok ⟨["(SELECT x = 1)"], [.boolean]⟩, .declared [.varchar]) := by
  have hrun : (analyze .empty ParamTypes.absent .selectCorrelated).1
      = .ok ⟨["(SELECT x = 1)"], [.boolean]⟩ := rfl
  obtain ⟨hfinding, hgiven⟩ := analyze_parameterFree .empty .selectCorrelated
    ⟨["(SELECT x = 1)"], [.boolean]⟩
  exact ⟨hrun, (hfinding 0).1 hrun, (hgiven hrun [.varchar] (by decide)).1⟩

end Prepared
