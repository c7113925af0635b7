import Prepared.Proofs.Session.Rendering
import Prepared.Proofs.Value.Cast

/-!
# Values for parameters

`bindValues` is asked for parameters of some types, with a value and a mark for each. It casts every
value that is not marked to the type of its parameter, so what becomes of a position is decided at that
position (`exists_paramsOf_iff`, `getElem?_of_paramsOf`), and what a mark hides is not even looked at
(`paramsOf_congr`).

That the row of values can be put together as a batch rests on one fact: a cast that succeeds gives a
value of the type that was asked for (`Value.type_of_castTo`), so the datum of a parameter is stored as
its type says (`Param.Typed.column_eq`).

The main result is `bindValues_spec`.
-/

namespace Prepared

/-! ## Position by position -/

/-- The type of parameter `i`, counted from 0, and the value and the mark that are given for it. -/
structure ParameterAt {α : Type} (types : List SqlType) (values : List Value) (nulls : List α)
    (i : Nat) (type : SqlType) (value : Value) (null : α) : Prop where
  type : types[i]? = some type
  value : values[i]? = some value
  null : nulls[i]? = some null

/-- Where there are enough of both, every parameter has a value and a mark. -/
theorem exists_parameterAt {α : Type} {types : List SqlType} {values : List Value} {nulls : List α}
    (hvalues : types.length ≤ values.length) (hnulls : types.length ≤ nulls.length) {i : Nat}
    {t : SqlType} (ht : types[i]? = some t) : ∃ v null, ParameterAt types values nulls i t v null := by
  have hi : i < types.length := (List.getElem?_eq_some_iff.1 ht).1
  exact ⟨_, _, ht, List.getElem?_eq_getElem (by omega), List.getElem?_eq_getElem (by omega)⟩

theorem paramsOf_cons_eq_ok {t : SqlType} {types : List SqlType} {v : Value} {values : List Value}
    {m : Bool} {marks : List Bool} {ps : List Param} :
    paramsOf (t :: types) (v :: values) (m :: marks) = .ok ps
      ↔ ∃ p rest, Param.ofValue t v m = .ok p ∧ paramsOf types values marks = .ok rest
        ∧ ps = p :: rest := by
  rw [paramsOf, bind_eq_ok]
  refine exists_congr fun p => ?_
  rw [bind_eq_ok, ← exists_and_left]
  refine exists_congr fun rest => and_congr_right fun _ => and_congr_right fun _ => ?_
  constructor
  · rintro ⟨⟩
    rfl
  · rintro rfl
    rfl

section

variable {types : List SqlType} {values : List Value} {marks : List Bool}

/-- The parameters can be bound exactly if each of them can. -/
theorem exists_paramsOf_iff (hvalues : types.length ≤ values.length)
    (hmarks : types.length ≤ marks.length) :
    (∃ ps, paramsOf types values marks = .ok ps)
      ↔ ∀ i t v m, ParameterAt types values marks i t v m → ∃ p, Param.ofValue t v m = .ok p := by
  induction types generalizing values marks with
  | nil =>
    constructor
    · exact fun _ i t v m hat => nomatch hat.type
    · exact fun _ => ⟨[], by simp only [paramsOf]⟩
  | cons t types ih =>
    obtain ⟨v, values, rfl⟩ := List.exists_cons_of_length_pos (Nat.zero_lt_of_lt hvalues)
    obtain ⟨m, marks, rfl⟩ := List.exists_cons_of_length_pos (Nat.zero_lt_of_lt hmarks)
    have ih := ih (Nat.le_of_succ_le_succ hvalues) (Nat.le_of_succ_le_succ hmarks)
    constructor
    · rintro ⟨ps, hps⟩ i t' v' m' hat
      obtain ⟨p, rest, hp, hrest, rfl⟩ := paramsOf_cons_eq_ok.1 hps
      cases i with
      | zero =>
        obtain ⟨⟨⟩, ⟨⟩, ⟨⟩⟩ := hat
        exact ⟨p, hp⟩
      | succ i => exact ih.1 ⟨rest, hrest⟩ i t' v' m' ⟨hat.type, hat.value, hat.null⟩
    · intro h
      obtain ⟨p, hp⟩ := h 0 t v m ⟨rfl, rfl, rfl⟩
      obtain ⟨rest, hrest⟩ := ih.2 fun i t' v' m' hat =>
        h (i + 1) t' v' m' ⟨hat.type, hat.value, hat.null⟩
      exact ⟨p :: rest, paramsOf_cons_eq_ok.2 ⟨p, rest, hp, hrest, rfl⟩⟩

/-- What is bound at a position is what is made of the value there. -/
theorem getElem?_of_paramsOf {ps : List Param} {i : Nat} {t : SqlType} {v : Value} {m : Bool}
    (h : paramsOf types values marks = .ok ps) (hat : ParameterAt types values marks i t v m) :
    ∃ p, ps[i]? = some p ∧ Param.ofValue t v m = .ok p := by
  induction types generalizing values marks ps i with
  | nil => exact nomatch hat.type
  | cons t' types ih =>
    obtain ⟨htype, hvalue, hnull⟩ := hat
    cases values with
    | nil => cases hvalue
    | cons v' values =>
      cases marks with
      | nil => cases hnull
      | cons m' marks =>
        obtain ⟨p, rest, hp, hrest, rfl⟩ := paramsOf_cons_eq_ok.1 h
        cases i with
        | zero =>
          cases htype
          cases hvalue
          cases hnull
          exact ⟨p, rfl, hp⟩
        | succ i =>
          have hat : ParameterAt types values marks i t v m := ⟨htype, hvalue, hnull⟩
          exact @ih values marks rest i hrest hat

theorem length_of_paramsOf {ps : List Param} (hvalues : types.length ≤ values.length)
    (hmarks : types.length ≤ marks.length) (h : paramsOf types values marks = .ok ps) :
    ps.length = types.length := by
  induction types generalizing values marks ps with
  | nil =>
    simp only [paramsOf] at h
    cases h
    rfl
  | cons t types ih =>
    obtain ⟨v, values, rfl⟩ := List.exists_cons_of_length_pos (Nat.zero_lt_of_lt hvalues)
    obtain ⟨m, marks, rfl⟩ := List.exists_cons_of_length_pos (Nat.zero_lt_of_lt hmarks)
    obtain ⟨p, rest, -, hrest, rfl⟩ := paramsOf_cons_eq_ok.1 h
    rw [List.length_cons, ih (Nat.le_of_succ_le_succ hvalues) (Nat.le_of_succ_le_succ hmarks) hrest,
      List.length_cons]

end

/-! ## What is given for the parameters -/

section

variable {α : Type} [NullMark α]

/-- What is given for `n` parameters: a value, or nothing where it is marked as null. -/
def given (n : Nat) (values : List Value) (nulls : List α) : List (Option Value) :=
  (List.zipWith (fun v null => if NullMark.isNull null then none else some v) values nulls).take n

theorem length_given (n : Nat) (values : List Value) (nulls : List α) :
    (given n values nulls).length = min n (min values.length nulls.length) := by
  rw [given, List.length_take, List.length_zipWith]

theorem given_map_isNull (n : Nat) (values : List Value) (nulls : List α) :
    given n values (nulls.map NullMark.isNull) = given n values nulls := by
  unfold given
  rw [List.zipWith_map_right]
  rfl

/-- A parameter hangs on what is given for it alone. -/
theorem Param.ofValue_congr {t : SqlType} {v v' : Value} {m m' : Bool}
    (h : (if m then none else some v) = if m' then none else some v') :
    ofValue t v m = ofValue t v' m' := by
  unfold ofValue
  cases m <;> cases m' <;> simp_all

/-- **What is given decides.** -/
theorem paramsOf_congr {types : List SqlType} {values values' : List Value} {marks marks' : List Bool}
    (h : given types.length values marks = given types.length values' marks') :
    paramsOf types values marks = paramsOf types values' marks' := by
  induction types generalizing values values' marks marks' with
  | nil => simp only [paramsOf]
  | cons t types ih =>
    have hnil (values : List Value) (marks : List Bool)
        (h : given (types.length + 1) values marks = []) :
        paramsOf (t :: types) values marks = .ok [] := by
      cases values with
      | nil => simp only [paramsOf]
      | cons v values =>
        cases marks with
        | nil => simp only [paramsOf]
        | cons m marks => cases h
    cases hgiven : given (types.length + 1) values marks with
    | nil => rw [hnil values marks hgiven, hnil values' marks' (h.symm.trans hgiven)]
    | cons g rest =>
      -- neither list is at its end on either side
      have hcons (values : List Value) (marks : List Bool)
          (h : given (types.length + 1) values marks = g :: rest) :
          ∃ v vs m ms, values = v :: vs ∧ marks = m :: ms ∧ g = (if m then none else some v)
            ∧ rest = given types.length vs ms := by
        cases values with
        | nil => cases h
        | cons v vs =>
          cases marks with
          | nil => cases h
          | cons m ms =>
            obtain ⟨hg, hrest⟩ := List.cons.inj h
            exact ⟨v, vs, m, ms, rfl, rfl, hg.symm, hrest.symm⟩
      obtain ⟨v, vs, m, ms, rfl, rfl, hg, hrest⟩ := hcons values marks hgiven
      obtain ⟨v', vs', m', ms', rfl, rfl, hg', hrest'⟩ := hcons values' marks' (h.symm.trans hgiven)
      rw [paramsOf, paramsOf, Param.ofValue_congr (hg.symm.trans hg'), ih (hrest.symm.trans hrest')]

end

/-! ## What a parameter holds -/

/-- A parameter that is bound to a value of its type, or to a null. -/
structure Param.Holds (p : Param) (t : SqlType) (v : Value) (marked : Bool) : Prop where
  type : p.type = t
  constant : p.isConstant = true
  /-- It is null exactly if the mark or the value says so. -/
  null : p.isNull = true ↔ marked = true ∨ v.isNull = true
  /-- Otherwise it has a datum of the type, which is what the value is cast to. -/
  datum : p.isNull = false → ∃ d, p.value = some d ∧ d.type = t ∧ v.castTo t = .ok (.datum d)

/-- A value is bound if it is marked or can be cast. -/
theorem Param.exists_ofValue_iff {t : SqlType} {v : Value} {marked : Bool} :
    (∃ p, ofValue t v marked = .ok p) ↔ (marked = false → ∃ w, v.castTo t = .ok w) := by
  unfold ofValue
  cases marked with
  | true => exact iff_of_true ⟨_, rfl⟩ nofun
  | false =>
    cases v.castTo t with
    | error e =>
      refine iff_of_false ?_ fun h => ?_
      · rintro ⟨p, ⟨⟩⟩
      · obtain ⟨w, ⟨⟩⟩ := h rfl
    | ok w => exact iff_of_true ⟨_, rfl⟩ fun _ => ⟨w, rfl⟩

theorem Param.holds_of_ofValue {t : SqlType} {v : Value} {marked : Bool} {p : Param}
    (ht : t.isResolved = true) (h : ofValue t v marked = .ok p) : p.Holds t v marked := by
  unfold ofValue at h
  cases marked with
  | true =>
    cases h
    exact ⟨rfl, rfl, iff_of_true rfl (Or.inl rfl), nofun⟩
  | false =>
    cases hcast : v.castTo t with
    | error e =>
      rw [hcast] at h
      cases h
    | ok w =>
      rw [hcast] at h
      cases h
      have hnull : w.isNull = v.isNull := Value.isNull_of_castTo hcast
      have htype : w.type = t := Value.type_of_castTo ht hcast
      cases w with
      | null t' h' => exact ⟨rfl, rfl, iff_of_true rfl (Or.inr hnull.symm), nofun⟩
      | datum d =>
        refine ⟨rfl, rfl, ?_, fun _ => ⟨d, rfl, htype, hcast⟩⟩
        rw [← hnull]
        exact iff_of_false nofun nofun

/-! ## The batch of the values -/

/-- A datum is stored as its type says. -/
theorem Datum.storage_eq (d : Datum) : d.storage = d.type.storage := by
  cases d <;> rfl

/-- A parameter whose datum, if it has one, is of its type. -/
def Param.Typed (p : Param) : Prop :=
  ∀ d, p.value = some d → d.type = p.type

theorem Param.Holds.typed {p : Param} {t : SqlType} {v : Value} {marked : Bool}
    (h : p.Holds t v marked) : p.Typed := by
  intro d hd
  have hnull : p.isNull = false := by
    rw [isNull, hd]
    rfl
  obtain ⟨d', hd', htype, -⟩ := h.datum hnull
  obtain rfl : d' = d := Option.some.inj (hd'.symm.trans hd)
  rw [htype, h.type]

theorem Param.Typed.column_eq {p : Param} (h : p.Typed) :
    p.column = ⟨p.type.storage, [p.value]⟩ := by
  unfold column
  cases hvalue : p.value with
  | none => rfl
  | some d =>
    show (⟨d.storage, [some d]⟩ : ColumnData) = _
    rw [d.storage_eq, h d hvalue]

section

variable {ε : Type} {build : List Field → List ColumnData → Except ε RowSet}

theorem fitting_params {ps : List Param} (hne : ps ≠ []) (htyped : ∀ p ∈ ps, p.Typed) :
    Fitting (paramRow ps).fields (ps.map Param.column) where
  nonempty := by simpa using hne
  count := by simp [paramRow, paramNames]
  storage := by
    intro pair hpair
    obtain ⟨i, hi, rfl⟩ := List.mem_iff_getElem.1 hpair
    have hin : i < ps.length := by
      rw [List.length_zip, List.length_map] at hi
      omega
    have hcolumn : ps[i].column = ⟨ps[i].type.storage, [ps[i].value]⟩ :=
      (htyped _ (List.getElem_mem hin)).column_eq
    simp [paramRow, hcolumn]
  nulls := by
    intro pair hpair hrequired
    obtain ⟨i, hi, rfl⟩ := List.mem_iff_getElem.1 hpair
    -- every field may have nulls
    simp [paramRow] at hrequired
  length := by
    have hone : ∀ c ∈ ps.map Param.column, c.data.length = 1 := by
      intro c hc
      obtain ⟨p, hp, rfl⟩ := List.mem_map.1 hc
      rw [(htyped p hp).column_eq]
      rfl
    intro c hc d hd
    rw [hone c hc, hone d hd]

theorem ofColumns_params {ps : List Param} (hne : ps ≠ []) (htyped : ∀ p ∈ ps, p.Typed) :
    RowSet.ofColumns (paramRow ps).fields (ps.map Param.column) = paramRow ps := by
  have hcolumns : ps.map Param.column = ps.map fun p => ⟨p.type.storage, [p.value]⟩ :=
    List.map_congr_left fun p hp => (htyped p hp).column_eq
  obtain ⟨p, rest, rfl⟩ := List.exists_cons_of_ne_nil hne
  rw [hcolumns]
  simp [RowSet.ofColumns, paramRow, List.range_succ]

/-- **The values make up a batch.** -/
theorem paramBatch_eq (hbuild : Builds build) {ps : List Param} (htyped : ∀ p ∈ ps, p.Typed) :
    paramBatch build ps = .ok (paramRow ps) := by
  unfold paramBatch
  dsimp only
  by_cases hne : ps = []
  · subst hne
    rfl
  · rw [if_neg (by simpa using hne)]
    exact (hbuild.fitting _ _ (fitting_params hne htyped)).trans
      (congrArg Except.ok (ofColumns_params hne htyped))

end

/-! ## The list of parameters -/

section

variable {α : Type} [NullMark α]

/-- Values and marks from which parameters of the types can be bound. -/
structure Bindable (types : List SqlType) (values : List Value) (nulls : List α) : Prop where
  enoughValues : types.length ≤ values.length
  enoughMarks : types.length ≤ nulls.length
  resolved : ∀ t ∈ types, t.isResolved = true
  /-- What is not marked can be cast. -/
  cast : ∀ i t v null, ParameterAt types values nulls i t v null → NullMark.isNull null = false →
    ∃ w, v.castTo t = .ok w

/-- Parameters that are bound to the values, in order. -/
structure BoundTo (types : List SqlType) (values : List Value) (nulls : List α)
    (ps : List Param) : Prop where
  length : ps.length = types.length
  holds : ∀ i t v null, ParameterAt types values nulls i t v null →
    ∃ p, ps[i]? = some p ∧ p.Holds t v (NullMark.isNull null)

variable {types : List SqlType} {values : List Value} {nulls : List α}

theorem parameterAt_map_isNull {i : Nat} {t : SqlType} {v : Value} {m : Bool} :
    ParameterAt types values (nulls.map NullMark.isNull) i t v m
      ↔ ∃ null, ParameterAt types values nulls i t v null ∧ NullMark.isNull null = m := by
  constructor
  · rintro ⟨htype, hvalue, hnull⟩
    obtain ⟨null, hat, rfl⟩ := Option.map_eq_some_iff.1 (List.getElem?_map ▸ hnull)
    exact ⟨null, ⟨htype, hvalue, hat⟩, rfl⟩
  · rintro ⟨null, ⟨htype, hvalue, hnull⟩, rfl⟩
    exact ⟨htype, hvalue, by rw [List.getElem?_map, hnull, Option.map_some]⟩

theorem count_of_bindValues {ps : List Param} (h : bindValues types values nulls = .ok ps) :
    types.length ≤ values.length ∧ types.length ≤ nulls.length := by
  unfold bindValues at h
  by_cases hcount : values.length < types.length ∨ nulls.length < types.length
  · rw [if_pos hcount] at h
    cases h
  · omega

/-- **When parameters can be bound.** -/
theorem exists_bindValues_iff :
    (∃ ps, bindValues types values nulls = .ok ps) ↔ Bindable types values nulls := by
  -- each position decides about itself
  have hcast (hvalues : types.length ≤ values.length) (hnulls : types.length ≤ nulls.length) :
      (∃ ps, paramsOf types values (nulls.map NullMark.isNull) = .ok ps)
        ↔ ∀ i t v null, ParameterAt types values nulls i t v null →
          NullMark.isNull null = false → ∃ w, v.castTo t = .ok w := by
    rw [exists_paramsOf_iff hvalues (by rwa [List.length_map])]
    constructor
    · intro h i t v null hat hnull
      exact Param.exists_ofValue_iff.1
        (h i t v _ (parameterAt_map_isNull.2 ⟨null, hat, rfl⟩)) hnull
    · intro h i t v m hmarked
      obtain ⟨null, hat, rfl⟩ := parameterAt_map_isNull.1 hmarked
      exact Param.exists_ofValue_iff.2 (h i t v null hat)
  constructor
  · rintro ⟨ps, hps⟩
    obtain ⟨hvalues, hnulls⟩ := count_of_bindValues hps
    obtain ⟨hresolved, hparams⟩ := bindValues_ok hps
    exact ⟨hvalues, hnulls, hresolved, (hcast hvalues hnulls).1 ⟨ps, hparams⟩⟩
  · rintro ⟨hvalues, hnulls, hresolved, h⟩
    obtain ⟨ps, hps⟩ := (hcast hvalues hnulls).2 h
    rw [bindValues_eq_paramsOf hvalues hnulls hresolved, hps]
    exact ⟨ps, rfl⟩

/-- **What is bound.** -/
theorem boundTo_of_bindValues {ps : List Param} (h : bindValues types values nulls = .ok ps) :
    BoundTo types values nulls ps := by
  obtain ⟨hvalues, hnulls⟩ := count_of_bindValues h
  obtain ⟨hresolved, hparams⟩ := bindValues_ok h
  refine ⟨length_of_paramsOf hvalues (by rwa [List.length_map]) hparams, ?_⟩
  intro i t v null hat
  obtain ⟨p, hp, hof⟩ := getElem?_of_paramsOf hparams (parameterAt_map_isNull.2 ⟨null, hat, rfl⟩)
  exact ⟨p, hp, Param.holds_of_ofValue (hresolved t (List.mem_of_getElem? hat.type)) hof⟩

/-- Every parameter is bound to something, and of its type. -/
theorem BoundTo.holds_at {ps : List Param} (h : BoundTo types values nulls ps)
    (hvalues : types.length ≤ values.length) (hnulls : types.length ≤ nulls.length) {i : Nat}
    {p : Param} (hp : ps[i]? = some p) :
    ∃ t v marked, types[i]? = some t ∧ p.Holds t v marked := by
  have hi : i < types.length := h.length ▸ (List.getElem?_eq_some_iff.1 hp).1
  obtain ⟨v, null, hat⟩ :=
    exists_parameterAt hvalues hnulls (List.getElem?_eq_getElem hi)
  obtain ⟨p', hp', hholds⟩ := h.holds i _ v null hat
  obtain rfl : p = p' := Option.some.inj (hp.symm.trans hp')
  exact ⟨_, v, _, hat.type, hholds⟩

theorem BoundTo.map_type {ps : List Param} (h : BoundTo types values nulls ps)
    (hvalues : types.length ≤ values.length) (hnulls : types.length ≤ nulls.length) :
    ps.map (·.type) = types := by
  refine List.ext_getElem (by rw [List.length_map, h.length]) fun i hi hi' => ?_
  rw [List.length_map] at hi
  obtain ⟨t, v, marked, ht, hholds⟩ :=
    h.holds_at hvalues hnulls (List.getElem?_eq_getElem hi)
  rw [List.getElem_map, hholds.type]
  exact Option.some.inj (ht.symm.trans (List.getElem?_eq_getElem hi'))

/-- Every parameter has a datum of its type, or none. -/
theorem BoundTo.typed {ps : List Param} (h : BoundTo types values nulls ps)
    (hvalues : types.length ≤ values.length) (hnulls : types.length ≤ nulls.length) :
    ∀ p ∈ ps, p.Typed := by
  intro p hp
  obtain ⟨i, hi⟩ := List.mem_iff_getElem?.1 hp
  obtain ⟨t, v, marked, -, hholds⟩ := h.holds_at hvalues hnulls hi
  exact hholds.typed

variable {ε : Type} {build : List Field → List ColumnData → Except ε RowSet}

/-- The parameters in a batch: a column for each, named by its number and stored as its type says. -/
theorem BoundTo.paramBatch_eq {ps : List Param} (h : BoundTo types values nulls ps)
    (hbuild : Builds build) (hvalues : types.length ≤ values.length)
    (hnulls : types.length ≤ nulls.length) :
    paramBatch build ps = .ok {
      fields := List.zipWith (fun name t => ⟨name, t.storage, true⟩) (paramNames types.length) types
      rows := if types.isEmpty then [] else [ps.map (·.value)] } := by
  have hempty : ps.isEmpty = types.isEmpty := by
    rw [← h.map_type hvalues hnulls, List.isEmpty_map]
  rw [Prepared.paramBatch_eq hbuild (h.typed hvalues hnulls), paramRow, hempty, h.length]
  congr 2
  conv_rhs => rw [← h.map_type hvalues hnulls]
  rw [List.length_map, h.length, List.zipWith_map_right]

/-- **Values for parameters.** They can be bound exactly if there are values and marks enough, every
type is decided and what is not marked can be cast. Then there is one parameter for each type, bound to
its value, and together they make up a batch. Nothing hangs on what a mark hides or on what is left
over. -/
theorem bindValues_spec (hbuild : Builds build) (types : List SqlType) (values : List Value)
    (nulls : List α) :
    ((∃ ps, bindValues types values nulls = .ok ps) ↔ Bindable types values nulls)
      ∧ (∀ ps, bindValues types values nulls = .ok ps →
        BoundTo types values nulls ps
          ∧ paramBatch build ps = .ok {
            fields :=
              List.zipWith (fun name t => ⟨name, t.storage, true⟩) (paramNames types.length) types
            rows := if types.isEmpty then [] else [ps.map (·.value)] })
      ∧ ∀ (β : Type) [NullMark β] (values' : List Value) (nulls' : List β),
        types.length ≤ values.length → types.length ≤ nulls.length →
        given types.length values' nulls' = given types.length values nulls →
        bindValues types values' nulls' = bindValues types values nulls := by
  refine ⟨exists_bindValues_iff, fun ps hps => ?_, ?_⟩
  · obtain ⟨hvalues, hnulls⟩ := count_of_bindValues hps
    have hbound : BoundTo types values nulls ps := boundTo_of_bindValues hps
    exact ⟨hbound, hbound.paramBatch_eq hbuild hvalues hnulls⟩
  · intro β mark values' nulls' hvalues hnulls hgiven
    -- as much is given on the other side
    have hlen := congrArg List.length hgiven
    rw [length_given, length_given] at hlen
    have hparams : paramsOf types values' (nulls'.map NullMark.isNull)
        = paramsOf types values (nulls.map NullMark.isNull) :=
      paramsOf_congr (by rw [given_map_isNull, given_map_isNull, hgiven])
    have hcount' : ¬(values'.length < types.length ∨ nulls'.length < types.length) := by omega
    have hcount : ¬(values.length < types.length ∨ nulls.length < types.length) := by omega
    rw [bindValues, bindValues, if_neg hcount', if_neg hcount, hparams]

/-- An integer, a second one and a text. -/
def threeTypes : List SqlType := [.int, .bigint, .varchar]

/-- Values for three parameters, of which the second one is no integer, and one value more. -/
def fourValues : List Value :=
  [.datum (.text "12"), .datum (.text "twelve"), .datum (.boolean true), .datum (.text "more")]

/-- The same three parameters with a null for the second one, and nothing more. -/
def threeValues : List Value :=
  [.datum (.text "12"), .untypedNull, .datum (.boolean true)]

/-- The second value cannot be cast, and need not be as it is marked. -/
theorem bindValues_spec_marked :
    Builds RowSet.ofFitting
      ∧ ∃ ps, bindValues threeTypes fourValues ['f', 'n', 'f', 'f'] = .ok ps
        ∧ BoundTo threeTypes fourValues ['f', 'n', 'f', 'f'] ps
        ∧ (paramBatch RowSet.ofFitting ps).map (·.rows)
          = .ok [[some (.integer ⟨true, .w32⟩ 12 (by decide)), none, some (.text "true")]]
        ∧ bindValues threeTypes threeValues [false, true, false] = .ok ps
        ∧ ∀ ps, bindValues threeTypes fourValues ['f', 'f', 'f', 'f'] ≠ .ok ps := by
  refine ⟨RowSet.builds_ofFitting, ?_⟩
  have h := bindValues_spec RowSet.builds_ofFitting threeTypes fourValues ['f', 'n', 'f', 'f']
  obtain ⟨ps, hps⟩ : ∃ ps, bindValues threeTypes fourValues ['f', 'n', 'f', 'f'] = .ok ps := ⟨_, rfl⟩
  obtain ⟨hbound, hbatch⟩ := h.2.1 ps hps
  have hsame := h.2.2 Bool threeValues [false, true, false] (by decide) (by decide) (by decide)
  have h' := bindValues_spec RowSet.builds_ofFitting threeTypes fourValues ['f', 'f', 'f', 'f']
  refine ⟨ps, hps, hbound, ?_, hsame.trans hps, ?_⟩
  · rw [hbatch]
    cases hps
    rfl
  · intro ps' hps'
    have hcast := (h'.1.1 ⟨ps', hps'⟩).cast 1 .bigint (.datum (.text "twelve")) 'f' ⟨rfl, rfl, rfl⟩ rfl
    obtain ⟨w, hw⟩ := hcast
    cases hw

end

end Prepared
