import Prepared.Proofs.Analysis.Mentioned
import Prepared.Proofs.Analysis.Soundness
import Prepared.Proofs.Param.Forward
import Prepared.Proofs.Param.Values

/-!
# Lists of types that are found

The list of types grows when a parameter beyond its end is referred to, and the parameters that are
skipped then are in it without having been seen. Only a reference to them takes this back, and only
what has been referred to is ever brought to a type. So if every parameter has a type in the end,
then every parameter that was not declared stands in the statement (`analyze_inferred_complete`).

The invariant is `Filled`: a parameter beyond the declared ones that is more than skipped is one of
those that the statement mentions. A reference keeps it as long as the reference itself is to such a
parameter, which is why it is shown of a hook that refuses all others, and carried over to the
analysis by `bindStatement_restrict`.
-/

namespace Prepared

open Sql

/-! ## The other parameters -/

namespace ParamTypes

variable {types types' : List SqlType} {limit n m : Nat} {t u : SqlType}

/-- Of the parameters that a longer list has in addition nothing is known. -/
theorem slot?_grow (h : slot? (grow types n) m = some u) : slot? types m = some u ∨ u = .invalid := by
  unfold slot? at h ⊢
  by_cases hm : m = 0
  · rw [if_pos hm] at h
    cases h
  · rw [if_neg hm] at h ⊢
    unfold grow at h
    by_cases hlen : m - 1 < types.length
    · left
      rwa [List.getElem?_append_left hlen] at h
    · right
      rw [List.getElem?_append_right (by omega)] at h
      exact List.eq_of_mem_replicate (List.mem_of_getElem? h)

theorem slot?_set_ne (hn : n ≠ 0) (hne : m ≠ n) : slot? (types.set (n - 1) t) m = slot? types m := by
  unfold slot?
  split
  · rfl
  · exact List.getElem?_set_ne (by omega)

/-- A reference moves the parameter that it is to, and nothing is known of those that it skips. -/
theorem slot?_of_refer (h : (inferred types limit).refer n = .ok (t, inferred types' limit))
    (hm : slot? types' m = some u) : m = n ∨ slot? types m = some u ∨ u = .invalid := by
  by_cases hne : m = n
  · exact Or.inl hne
  · right
    unfold refer at h
    dsimp only at h
    split at h
    · cases h
    · rename_i hallowed
      have hn : n ≠ 0 := fun hzero => hallowed (Or.inl hzero)
      cases h
      rw [slot?_set_ne hn hne] at hm
      exact slot?_grow hm

/-- A type that is granted belongs to the parameter that it is wanted for. -/
theorem slot?_of_settle (h : (inferred types limit).settle n t = .ok (u, inferred types' limit))
    (hne : m ≠ n) : slot? types' m = slot? types m := by
  unfold settle at h
  dsimp only at h
  split at h
  · rename_i v hslot
    have hn : n ≠ 0 := by
      intro hzero
      rw [if_pos hzero] at hslot
      cases hslot
    split at h
    · split at h
      · cases h
        rfl
      · cases h
    · cases h
      exact slot?_set_ne hn hne
  · cases h

/-- The first parameter without a type has none, and all before it have one. -/
theorem firstUnresolved?_eq_some (h : firstUnresolved? types = some n) :
    (∃ t, slot? types n = some t ∧ t.isResolved = false)
      ∧ ∀ m u, m < n → slot? types m = some u → u.isResolved = true := by
  unfold firstUnresolved? at h
  obtain ⟨i, hi, rfl⟩ := Option.map_eq_some_iff.1 h
  obtain ⟨hlen, hopen, hbefore⟩ := List.findIdx?_eq_some_iff_getElem.1 hi
  constructor
  · refine ⟨types[i], ?_, by simpa using hopen⟩
    unfold slot?
    rw [if_neg (Nat.succ_ne_zero i), Nat.add_sub_cancel]
    exact List.getElem?_eq_getElem hlen
  · intro m u hm hslot
    unfold slot? at hslot
    split at hslot
    · cases hslot
    · obtain ⟨hm', rfl⟩ := List.getElem?_eq_some_iff.1 hslot
      simpa using hbefore (m - 1) (by omega)

end ParamTypes

/-- A parameter that has been seen stays so. -/
theorem SqlType.Forward.ne_invalid {t u : SqlType} (h : t.Forward u) (ht : t ≠ .invalid) :
    u ≠ .invalid := by
  rcases h with rfl | ⟨rfl, rfl⟩ | ⟨-, hu⟩
  · exact ht
  · exact nofun
  · rintro rfl
    cases hu

/-! ## The invariant -/

/-- What becomes of the declared types while a statement is analyzed that mentions certain
parameters. -/
structure Filled (declared : List SqlType) (mentioned : List Nat) (types : List SqlType) : Prop where
  forward : SlotsForward declared types
  /-- Whatever is known of a parameter that was not declared comes from the statement. -/
  mentioned : ∀ n t, ParamTypes.slot? types n = some t → declared.length < n → t ≠ .invalid →
    n ∈ mentioned

namespace Filled

variable {declared types types' : List SqlType} {mentioned : List Nat} {limit n : Nat} {t u : SqlType}

theorem declared_filled (declared : List SqlType) (mentioned : List Nat) :
    Filled declared mentioned declared where
  forward := .refl declared
  mentioned n t hslot hn _ := by
    have hbounds := ParamTypes.bounds_of_slot? hslot
    omega

/-- **A reference** to a parameter that the statement mentions. -/
theorem refer (h : Filled declared mentioned types) (hn : n ∈ mentioned)
    (hforward : SlotsForward types types')
    (hanswer : (ParamTypes.inferred types limit).refer n = .ok (t, .inferred types' limit)) :
    Filled declared mentioned types' where
  forward := h.forward.trans hforward
  mentioned m u hslot hm hu := by
    rcases ParamTypes.slot?_of_refer hanswer hslot with rfl | hslot | rfl
    · exact hn
    · exact h.mentioned m u hslot hm hu
    · exact absurd rfl hu

/-- **A wanted type** for a parameter that has been seen. -/
theorem settle (h : Filled declared mentioned types) (hslot : ParamTypes.slot? types n = some u)
    (hu : u ≠ .invalid) (hforward : SlotsForward types types') {target : SqlType}
    (hanswer : (ParamTypes.inferred types limit).settle n target = .ok (t, .inferred types' limit)) :
    Filled declared mentioned types' where
  forward := h.forward.trans hforward
  mentioned m v hslot' hm hv := by
    by_cases hne : m = n
    · -- the parameter has been seen, so it was one of those that are mentioned
      rw [hne] at hm ⊢
      exact h.mentioned n u hslot hm hu
    · rw [ParamTypes.slot?_of_settle hanswer hne] at hslot'
      exact h.mentioned m v hslot' hm hv

end Filled

/-- A parameter that has been seen, whatever else is known of it. -/
def ParamTypes.Seen (p : ParamTypes) (limit n : Nat) : Prop :=
  ∃ types t, p = .inferred types limit ∧ slot? types n = some t ∧ t ≠ .invalid

theorem ParamTypes.Seen.mono {types types' : List SqlType} {limit n : Nat}
    (h : (inferred types limit).Seen limit n) (hforward : SlotsForward types types') :
    (inferred types' limit).Seen limit n := by
  obtain ⟨_, t, hsame, hslot, ht⟩ := h
  cases hsame
  obtain ⟨u, hu, htu⟩ := exists_slot?_of_forward hforward hslot
  exact ⟨types', u, rfl, hu, htu.ne_invalid ht⟩

/-- The hook that finds types and takes references to the mentioned parameters only keeps the
invariant. The agreement is one of the hook with itself. -/
def HookAgreement.filling (declared : List SqlType) (mentioned : List Nat) (limit : Nat) :
    @HookAgreement ParamTypes ParamTypes (ParamHook.restrict inferInstance (· ∈ mentioned))
      (ParamHook.restrict inferInstance (· ∈ mentioned)) :=
  let _ : ParamHook ParamTypes := ParamHook.restrict inferInstance (· ∈ mentioned)
  { rel := fun p q => p = q ∧ ∃ types, p = .inferred types limit ∧ Filled declared mentioned types
    known := fun p n _ => p.Seen limit n
    excused := fun _ => False
    refer := by
      rintro p q n ⟨rfl, types, rfl, h⟩
      right
      -- a parameter that is not mentioned is refused by the restricted hook, on both sides
      by_cases hn : n ∈ mentioned
      · simp only [ParamHook.refer, if_pos hn]
        rcases ParamTypes.refer_inferred types limit n with
          hrefused | ⟨types', t, hanswer, hforward, -, hslot, ht⟩
        · rw [hrefused]
          exact ⟨⟨rfl, rfl, types, rfl, h⟩, fun _ _ hm => hm, nofun⟩
        · rw [hanswer]
          refine ⟨⟨rfl, rfl, types', rfl, h.refer hn hforward hanswer⟩,
            fun _ _ hm => hm.mono hforward, fun u _ => ⟨types', t, rfl, hslot, ?_⟩⟩
          rintro rfl
          rcases ht with ht | ht <;> cases ht
      · simp only [ParamHook.refer, if_neg hn]
        exact ⟨⟨rfl, rfl, types, rfl, h⟩, fun _ _ hm => hm, nofun⟩
    settle := by
      rintro p q n target ⟨rfl, types, rfl, h⟩ ⟨_, u, hsame, hslot, hu⟩ htarget
      cases hsame
      right
      simp only [ParamHook.settle]
      rcases ParamTypes.settle_inferred limit hslot htarget with
        ⟨e, hrefused, -⟩ | ⟨types', hanswer, hforward, -, hslot'⟩
      · rw [hrefused]
        exact ⟨⟨rfl, rfl, types, rfl, h⟩, fun _ _ hm => hm, nofun⟩
      · rw [hanswer]
        refine ⟨⟨rfl, rfl, types', rfl, h.settle hslot hu hforward hanswer⟩,
          fun _ _ hm => hm.mono hforward, fun v _ => ⟨types', target, rfl, hslot', ?_⟩⟩
        rintro rfl
        cases htarget
    check := by
      rintro p q ⟨rfl, -⟩
      exact Or.inr rfl }

/-! ## Statements -/

variable (catalog : Catalog) (declared : List SqlType) (limit : Nat) (S : Statement)

/-- What a walk through a statement makes of the declared types, whether or not it succeeds. -/
theorem filled_of_bindStatement :
    ∃ types, (bindStatement catalog S (.initial (ParamTypes.inferred declared limit))).2.params
        = .inferred types limit ∧ Filled declared S.parameters types := by
  -- no question is refused that the hook itself would answer
  have hallowed : ∀ n ∈ S.parameters, (· ∈ S.parameters) n := fun _ h => h
  rw [← bindStatement_restrict catalog hallowed]
  let _ : ParamHook ParamTypes := ParamHook.restrict inferInstance (· ∈ S.parameters)
  let A := HookAgreement.filling declared S.parameters limit
  have hinitial : A.RelState (.initial (.inferred declared limit))
      (.initial (.inferred declared limit)) :=
    ⟨rfl, rfl, rfl, declared, rfl, Filled.declared_filled declared S.parameters⟩
  rcases A.bindStatement_agrees catalog _ S _ _ (HookAgreement.Below.refl _ _) hinitial with
    ⟨_, -, hexcused⟩ | ⟨-, hstate, -, -⟩
  · exact hexcused.elim
  · obtain ⟨-, types, hparams, hfilled⟩ := hstate.params
    exact ⟨types, hparams, hfilled⟩

variable {catalog declared limit S} in
/-- An analysis is a walk through the statement and then a look at the types that are there. -/
theorem analyze_of_bindStatement {types : List SqlType}
    (h : (bindStatement catalog S (.initial (ParamTypes.inferred declared limit))).2.params
      = .inferred types limit) :
    analyze catalog (ParamTypes.inferred declared limit) S
      = ((bindStatement catalog S (.initial (ParamTypes.inferred declared limit))).1.bind
          fun d => (ParamTypes.inferred types limit).check.map fun _ => d, .inferred types limit) := by
  unfold analyze analyzeStatement
  rw [Walk.run_bind]
  generalize bindStatement catalog S (.initial (ParamTypes.inferred declared limit)) = walked
    at h ⊢
  obtain ⟨e | d, s⟩ := walked
  · exact Prod.ext rfl h
  · dsimp only at h ⊢
    rw [Walk.run_bind, checkParams, h]
    show _ = ((ParamTypes.inferred types limit).check.map fun _ => d, _)
    cases hcheck : (ParamTypes.inferred types limit).check with
    | error e => simp only [ParamHook.check, hcheck]; exact Prod.ext rfl h
    | ok u => simp only [ParamHook.check, hcheck]; exact Prod.ext rfl h

/-- **Nothing is left open, and no parameter is made up.** For every catalog, statement, list of
declared types and limit, the list is kept whatever happens, and

* if the statement is analyzed successfully, every parameter has a type, those that were declared
  with one have that one, and all others stand in the statement;
* if the walk through the statement succeeds but leaves a parameter without a type, the analysis
  fails for the first such parameter. -/
theorem analyze_inferred_complete :
    ∃ types, (analyze catalog (ParamTypes.inferred declared limit) S).2 = .inferred types limit
      ∧ ((∃ d, (analyze catalog (ParamTypes.inferred declared limit) S).1 = .ok d) →
        declared.length ≤ types.length ∧ (∀ t ∈ types, t.isResolved = true)
          ∧ (∀ n t, ParamTypes.slot? declared n = some t → t.isResolved = true →
            ParamTypes.slot? types n = some t)
          ∧ ∀ n, declared.length < n → n ≤ types.length → n ∈ S.parameters)
      ∧ ((∃ d, (bindStatement catalog S (.initial (ParamTypes.inferred declared limit))).1 = .ok d) →
        (∃ t ∈ types, t.isResolved = false) →
        ∃ n, (analyze catalog (ParamTypes.inferred declared limit) S).1
            = .error (.undeterminedParameterType n)
          ∧ (∃ t, ParamTypes.slot? types n = some t ∧ t.isResolved = false)
          ∧ ∀ m t, m < n → ParamTypes.slot? types m = some t → t.isResolved = true) := by
  obtain ⟨types, hparams, hfilled⟩ := filled_of_bindStatement catalog declared limit S
  rw [analyze_of_bindStatement hparams]
  refine ⟨types, rfl, ?_, ?_⟩
  · rintro ⟨d, hok⟩
    -- the walk has succeeded, and the check after it
    have hcheck : (ParamTypes.inferred types limit).check = .ok () := by
      cases hcheck : (ParamTypes.inferred types limit).check with
      | ok u => rfl
      | error e =>
        rw [hcheck] at hok
        generalize (bindStatement catalog S (.initial (ParamTypes.inferred declared limit))).1
          = walked at hok
        cases walked <;> cases hok
    have hresolved : ∀ t ∈ types, t.isResolved = true := ParamTypes.check_eq_ok_iff.1 hcheck types rfl
    refine ⟨hfilled.forward.length, hresolved,
      fun n t ht hresolved => ParamTypes.slot?_of_forward hfilled.forward ht hresolved, ?_⟩
    intro n hn hlen
    obtain ⟨t, ht⟩ := ParamTypes.slot?_of_pos (by omega) hlen
    have hne : t ≠ .invalid := by
      rintro rfl
      cases hresolved _ (ParamTypes.mem_of_slot? ht)
    exact hfilled.mentioned n t ht hn hne
  · rintro ⟨d, hwalk⟩ ⟨t, ht, hopen⟩
    rw [hwalk]
    cases hfirst : ParamTypes.firstUnresolved? types with
    | none =>
      -- not so: `t` is open
      have hresolved : t.isResolved = true := ParamTypes.firstUnresolved?_eq_none_iff.1 hfirst t ht
      rw [hopen] at hresolved
      cases hresolved
    | some n =>
      have hcheck : (ParamTypes.inferred types limit).check
          = .error (.undeterminedParameterType n) := by
        unfold ParamTypes.check
        rw [show (ParamTypes.inferred types limit).types?.bind ParamTypes.firstUnresolved? = some n
          from hfirst]
      refine ⟨n, ?_, ParamTypes.firstUnresolved?_eq_some hfirst⟩
      show ((ParamTypes.inferred types limit).check.map fun _ => d) = _
      rw [hcheck]
      rfl

/-- `SELECT $1, $3 = 1, $2 || 'x'` -/
def Sql.Statement.selectSkipping : Statement :=
  .query (.selecting [.first, .binary .eq (.literal (.placeholder "$3")) (.literal (.number "1" false)),
    .binary .concat (.literal (.placeholder "$2")) (.literal (.singleQuoted "x"))] [])

/-- `SELECT $2::TEXT` -/
def Sql.Statement.selectSecond : Statement :=
  .query (.selecting [.cast (.literal (.placeholder "$2")) .text] [])

/-- The third parameter comes before the second, which is found all the same. If it stays out, the
analysis fails for it. -/
theorem analyze_inferred_selectSkipping :
    (analyze .empty (ParamTypes.inferred [.integer ⟨true, .w64⟩] 65535) .selectSkipping).2
        = .inferred [.integer ⟨true, .w64⟩, .varchar, .integer ⟨true, .w32⟩] 65535
      ∧ 2 ∈ Statement.selectSkipping.parameters ∧ 3 ∈ Statement.selectSkipping.parameters
      ∧ (analyze .empty (ParamTypes.inferred [] 65535) .selectSecond).1
        = .error (.undeterminedParameterType 1) := by
  have hrun : analyze .empty (ParamTypes.inferred [.integer ⟨true, .w64⟩] 65535) .selectSkipping
      = (.ok _, .inferred [.integer ⟨true, .w64⟩, .varchar, .integer ⟨true, .w32⟩] 65535) := rfl
  obtain ⟨types, htypes, hcomplete, -⟩ :=
    analyze_inferred_complete .empty [.integer ⟨true, .w64⟩] 65535 .selectSkipping
  have hsame : types = [.integer ⟨true, .w64⟩, .varchar, .integer ⟨true, .w32⟩] := by
    rw [hrun] at htypes
    cases htypes
    rfl
  subst hsame
  obtain ⟨-, -, -, hmentioned⟩ := hcomplete ⟨_, congrArg Prod.fst hrun⟩
  refine ⟨htypes, hmentioned 2 (by decide) (by decide), hmentioned 3 (by decide) (by decide), ?_⟩
  -- the second statement is bound, and fails for the slot that nothing has filled
  have hwalk : bindStatement .empty .selectSecond (.initial (ParamTypes.inferred [] 65535))
      = (.ok _, ⟨_, .inferred [.invalid, .varchar] 65535, _⟩) := rfl
  obtain ⟨types, htypes, -, hopen⟩ := analyze_inferred_complete .empty [] 65535 .selectSecond
  have hsame : types = [.invalid, .varchar] := by
    have hanalyze : (analyze .empty (ParamTypes.inferred [] 65535) .selectSecond).2
        = .inferred [.invalid, .varchar] 65535 := rfl
    rw [hanalyze] at htypes
    cases htypes
    rfl
  subst hsame
  obtain ⟨n, herror, ⟨t, ht, hn⟩, -⟩ := hopen ⟨_, congrArg Prod.fst hwalk⟩ ⟨.invalid, by decide, rfl⟩
  have hfirst : n = 1 := by
    obtain ⟨hpos, hlen⟩ := ParamTypes.bounds_of_slot? ht
    have hlen : n ≤ 2 := hlen
    have hcases : n = 1 ∨ n = 2 := by omega
    rcases hcases with rfl | rfl
    · rfl
    · cases ht
      cases hn
  rw [herror, hfirst]

end Prepared
