import Prepared.Proofs.Analysis.Soundness

/-!
# Types that are given and may be found all the same

Where every type is given beforehand there is nothing left to find: an analysis that may find types
then goes the way of one that only takes them as given. A reference is answered with the given type
and moves no slot. A type is wanted for undecided parameters only, and there are none, so the hook
is not asked a second time.

The two differ in one point. A number beyond the given types is refused where they are fixed; where
types are found it makes the list longer. So nothing is said after a failure with
`BindError.noSuchParameter`.
-/

namespace Prepared

open Sql

namespace ParamTypes

/-! ## A parameter whose type is given -/

theorem seen_of_isResolved {t : SqlType} (ht : t.isResolved = true) : seen t = t := by
  have hne : t ≠ .invalid := by
    rintro rfl
    cases ht
  exact if_neg hne

theorem grow_of_le {types : List SqlType} {n : Nat} (h : n ≤ types.length) :
    grow types n = types := by
  have hnone : n - types.length = 0 := by omega
  unfold grow
  rw [hnone]
  exact List.append_nil types

/-- A reference to a parameter that has a type changes nothing. -/
theorem refer_inferred_of_slot? {types : List SqlType} {limit n : Nat} {t : SqlType}
    (hslot : slot? types n = some t) (ht : t.isResolved = true) (hlimit : types.length ≤ limit) :
    (inferred types limit).refer n = .ok (t, inferred types limit) := by
  obtain ⟨hpos, hlen⟩ := bounds_of_slot? hslot
  have hallowed : ¬(n = 0 ∨ limit < n) := by omega
  have hget : types[n - 1]? = some t := by
    unfold slot? at hslot
    rwa [if_neg (by omega)] at hslot
  have hset : types.set (n - 1) t = types := by
    obtain ⟨hlt, rfl⟩ := List.getElem?_eq_some_iff.1 hget
    exact List.set_getElem_self hlt
  simp only [refer, if_neg hallowed, grow_of_le hlen, hget, Option.getD_some,
    seen_of_isResolved ht, hset]

end ParamTypes

/-! ## Both hooks agree -/

/-- Given types that stay as they are, and the same types where more could be found. A number that
is too large for the list is excused. -/
def HookAgreement.ofGiven {types : List SqlType} {limit : Nat}
    (hresolved : ∀ t ∈ types, t.isResolved = true) (hlimit : types.length ≤ limit) :
    HookAgreement ParamTypes ParamTypes where
  rel p q := p = .declared types ∧ q = .inferred types limit
  known _ n t := ParamTypes.slot? types n = some t
  excused e := ∃ n, e = .noSuchParameter n
  refer := by
    rintro p q n ⟨rfl, rfl⟩
    cases hslot : ParamTypes.slot? types n with
    | none =>
      left
      have hrefused : (ParamTypes.declared types).refer n = .error (.noSuchParameter n) := by
        unfold ParamTypes.slot? at hslot
        simp only [ParamTypes.refer, hslot]
      refine ⟨.noSuchParameter n, ?_, n, rfl⟩
      simp only [ParamHook.refer, hrefused, ParamTypes.answer]
    | some t =>
      right
      have ht : t.isResolved = true := hresolved t (ParamTypes.mem_of_slot? hslot)
      have hdeclared := ParamTypes.refer_declared hslot
      have hinferred := ParamTypes.refer_inferred_of_slot? hslot ht hlimit
      simp only [ParamHook.refer, hdeclared, hinferred, ParamTypes.answer]
      refine ⟨⟨rfl, rfl, rfl⟩, fun _ _ h => h, fun u hu => ?_⟩
      cases hu
      rfl
  settle := by
    -- a type is wanted for undecided parameters only
    rintro p q n target - hunknown -
    have hunresolved := hresolved .unknown (ParamTypes.mem_of_slot? hunknown)
    cases hunresolved
  check := by
    rintro p q ⟨rfl, rfl⟩
    exact Or.inr rfl

section

variable (catalog : Catalog) {types : List SqlType} {limit : Nat}

/-- Either a statement refers to a parameter beyond the given types, or both analyses come to the
same result, and the second has found no more types than were given. -/
theorem analyze_agrees_of_given (hresolved : ∀ t ∈ types, t.isResolved = true)
    (hlimit : types.length ≤ limit) (S : Statement) :
    (∃ n, (analyze catalog (ParamTypes.declared types) S).1 = .error (.noSuchParameter n))
      ∨ analyze catalog (ParamTypes.inferred types limit) S
        = ((analyze catalog (ParamTypes.declared types) S).1, .inferred types limit) := by
  have hinitial : (HookAgreement.ofGiven hresolved hlimit).RelState
      (.initial (ParamTypes.declared types)) (.initial (ParamTypes.inferred types limit)) :=
    ⟨rfl, rfl, rfl, rfl⟩
  rcases (HookAgreement.ofGiven hresolved hlimit).analyzeStatement_agrees catalog _ S _ _
      (HookAgreement.Below.refl _ _) hinitial with ⟨e, he, n, rfl⟩ | ⟨hresult, hstate, -, -⟩
  · exact Or.inl ⟨n, he⟩
  · right
    have hlast := hstate.params.2
    unfold analyze
    exact Prod.ext hresult.symm hlast

/-- **Given types need not be found.** Over the same catalog, a statement that is analyzed
successfully with fixed types has the same names and types where types may be found, and no type
more is found. It fails there with the same error if it fails with the fixed types, unless that is
for a number that is too large. -/
theorem analyze_inferred_of_declared (hresolved : ∀ t ∈ types, t.isResolved = true)
    (hlimit : types.length ≤ limit) (S : Statement) :
    (∀ d p, analyze catalog (ParamTypes.declared types) S = (.ok d, p) →
        analyze catalog (ParamTypes.inferred types limit) S = (.ok d, .inferred types limit))
      ∧ ∀ e p, analyze catalog (ParamTypes.declared types) S = (.error e, p) →
        (∀ n, e ≠ .noSuchParameter n) →
        analyze catalog (ParamTypes.inferred types limit) S = (.error e, .inferred types limit) := by
  rcases analyze_agrees_of_given catalog hresolved hlimit S with ⟨n, hrefused⟩ | hsame
  · constructor
    · intro d p hok
      rw [hok] at hrefused
      cases hrefused
    · intro e p herror hother
      rw [herror] at hrefused
      cases hrefused
      exact absurd rfl (hother n)
  · constructor
    · intro d p hok
      rw [hsame, hok]
    · intro e p herror _
      rw [hsame, herror]

end

/-- `SELECT $1, $1 + 1` has the type that is given, an integer, wherever it may be found; a text is
refused both times. -/
theorem analyze_inferred_selectNext :
    analyze .empty (ParamTypes.inferred [.int] 65535) .selectNext
        = (.ok ⟨["$1", "$1 + 1"], [.int, .int]⟩, .inferred [.int] 65535)
      ∧ analyze .empty (ParamTypes.inferred [.varchar] 65535) .selectNext
        = (.error (.type (.incomparable .varchar .int)), .inferred [.varchar] 65535) := by
  constructor
  · have hok : analyze .empty (ParamTypes.declared [.int]) .selectNext
        = (.ok ⟨["$1", "$1 + 1"], [.int, .int]⟩, .declared [.int]) := rfl
    exact (analyze_inferred_of_declared .empty (by decide) (by decide) .selectNext).1 _ _ hok
  · have herror : analyze .empty (ParamTypes.declared [.varchar]) .selectNext
        = (.error (.type (.incomparable .varchar .int)), .declared [.varchar]) := rfl
    have hother (n : Nat) :
        BindError.type (.incomparable .varchar .int) ≠ .noSuchParameter n := nofun
    exact (analyze_inferred_of_declared .empty (by decide) (by decide) .selectNext).2 _ _ herror
      hother

end Prepared
