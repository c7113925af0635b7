import Mathlib.Logic.Relation
import Prepared.Proofs.Analysis.Growth
import Prepared.Session.Basic

/-!
# What a session keeps

A session goes from call to call, and calls may fail. However many there are, little can have
happened: tables were created, statements were prepared under free names, and prepared statements
were forgotten by those calls that say so. `Session.Change` lists these changes, and
`Session.afterAll_changes` takes any sequence of calls apart into them, so that a property of
sessions is kept by every call if it is kept by each change.

**Nothing goes stale** (`Session.afterAll_keeps`): tables stay as they are, what could be analyzed
can still be analyzed and means the same, and a prepared statement that no call forgets is executed
as before.
-/

namespace Prepared

open Sql Relation

/-! ## Results of several steps -/

section Results

variable {ε ε' α β : Type}

theorem bind_eq_ok {x : Except ε α} {f : α → Except ε β} {b : β} :
    x >>= f = .ok b ↔ ∃ a, x = .ok a ∧ f a = .ok b := by
  constructor
  · intro h
    cases x with
    | error e => cases h
    | ok a => exact ⟨a, rfl, h⟩
  · rintro ⟨a, rfl, h⟩
    exact h

theorem mapError_eq_ok {f : ε → ε'} {x : Except ε α} {a : α} :
    x.mapError f = .ok a ↔ x = .ok a := by
  constructor
  · intro h
    cases x with
    | error e => cases h
    | ok a' =>
      cases h
      rfl
  · rintro rfl
    rfl

end Results

/-! ## Calls -/

/-- A call of a session. -/
inductive Session.Operation where
  /-- Carries out the statements of a text. -/
  | run (sql : String)
  /-- Carries out a statement that has been read already. -/
  | runStatement (statement : Statement)
  | prepare (name : String) (statement : Statement) (declared : List SqlType)
  | execute (name : String) (args : List Value)
  | deallocate (name : String)
  | deallocateAll

/-- The statement, if it is carried out, forgets what is prepared under `name`. -/
def Sql.Statement.Forgets (statement : Statement) (name : String) : Prop :=
  match statement with
  | .deallocate called _ => Session.isAll called = true ∨ called.folded = name
  | _ => False

instance (statement : Statement) (name : String) : Decidable (statement.Forgets name) := by
  unfold Statement.Forgets
  split <;> infer_instance

namespace Session

/-- The call is a `DEALLOCATE` of `name` or of all names, or has one in its text. -/
def Operation.Forgets (op : Operation) (name : String) : Prop :=
  match op with
  | run sql => ∃ statement ∈ (Statement.parse? sql).getD [], statement.Forgets name
  | runStatement statement => statement.Forgets name
  | deallocate called => called = name
  | deallocateAll => True
  | prepare _ _ _ | execute _ _ => False

instance (op : Operation) (name : String) : Decidable (op.Forgets name) := by
  unfold Operation.Forgets
  split <;> infer_instance

/-- The session that the caller goes on with: the new one, or the old one after a failure. -/
def goOn (s : Session) : Except SessionError Session → Session
  | .ok s' => s'
  | .error _ => s

/-- The session after a call, successful or failed. -/
def after (s : Session) : Operation → Session
  | .run sql => (s.run sql).2
  | .runStatement statement => s.goOn ((s.runStatement statement).map (·.2))
  | .prepare name statement declared => s.goOn ((s.prepare name statement declared).map (·.2))
  | .execute _ _ => s
  | .deallocate name => s.goOn (s.deallocate name)
  | .deallocateAll => s.deallocateAll

def afterAll (s : Session) : List Operation → Session
  | [] => s
  | op :: ops => (s.after op).afterAll ops

/-- The sessions that calls can lead to. -/
def Reachable (s : Session) : Prop :=
  ∃ config ops, s = (new config).afterAll ops

/-! ## What a call changes -/

/-- What can happen to a session, one thing at a time. Nothing is forgotten but what is prepared
under the names in `forgotten`. -/
inductive Change (forgotten : String → Prop) : Session → Session → Prop
  /-- A table is created, or is there already and that is let pass. -/
  | create {s : Session} {name : String} {columns : List Column} {table : Table}
      {ifNotExists : Bool} {catalog : Catalog} (htable : Table.ofColumns name columns = .ok table)
      (h : s.catalog.createTable table ifNotExists = .ok catalog) :
      Change forgotten s { s with catalog }
  | prepare {s s' : Session} {name : String} {statement : Statement} {declared : List SqlType}
      {p : PreparedStatement} (h : s.prepare name statement declared = .ok (p, s')) :
      Change forgotten s s'
  | forget {s : Session} {name : String} (h : forgotten name) :
      Change forgotten s { s with statements := s.statements.erase name }
  | forgetAll {s : Session} (h : ∀ name, forgotten name) : Change forgotten s s.deallocateAll

abbrev Changes (forgotten : String → Prop) : Session → Session → Prop :=
  ReflTransGen (Change forgotten)

variable {s s' : Session} {forgotten forgotten' : String → Prop}

theorem Change.mono (h : Change forgotten s s') (hsub : ∀ name, forgotten name → forgotten' name) :
    Change forgotten' s s' := by
  cases h with
  | create htable h => exact .create htable h
  | prepare h => exact .prepare h
  | forget h => exact .forget (hsub _ h)
  | forgetAll h => exact .forgetAll fun name => hsub name (h name)

theorem Changes.mono (h : Changes forgotten s s')
    (hsub : ∀ name, forgotten name → forgotten' name) : Changes forgotten' s s' := by
  induction h with
  | refl => exact .refl
  | tail _ hstep ih => exact ih.tail (hstep.mono hsub)

/-- A call that fails changes nothing. -/
theorem goOn_changes {r : Except SessionError Session}
    (h : ∀ s', r = .ok s' → Changes forgotten s s') : Changes forgotten s (s.goOn r) := by
  cases r with
  | error e => exact .refl
  | ok s' => exact h s' rfl

theorem createTable_change {t : CreateTable} (h : s.createTable t = .ok s') :
    Change forgotten s s' := by
  unfold createTable at h
  -- name, columns and table are checked first; only the last step goes to the catalog
  obtain ⟨name, -, h⟩ := bind_eq_ok.1 h
  obtain ⟨columns, -, h⟩ := bind_eq_ok.1 h
  obtain ⟨table, htable, h⟩ := bind_eq_ok.1 h
  obtain ⟨catalog, hcatalog, h⟩ := bind_eq_ok.1 h
  cases h
  exact .create (mapError_eq_ok.1 htable) (mapError_eq_ok.1 hcatalog)

theorem deallocate_change {name : String} (hname : forgotten name)
    (h : s.deallocate name = .ok s') : Change forgotten s s' := by
  unfold deallocate at h
  split at h
  · cases h
    exact .forget hname
  · cases h

/-- **What a statement changes.** -/
theorem runStatement_changes {statement : Statement} {o : Outcome}
    (h : s.runStatement statement = .ok (o, s')) : Changes statement.Forgets s s' := by
  unfold runStatement at h
  split at h
  · obtain ⟨s₁, hcreate, h⟩ := bind_eq_ok.1 h
    cases h
    exact .single (createTable_change hcreate)
  · obtain ⟨declared, -, h⟩ := bind_eq_ok.1 h
    obtain ⟨⟨p, s₁⟩, hprepare, h⟩ := bind_eq_ok.1 h
    cases h
    exact .single (.prepare hprepare)
  · -- an execution leaves the session as it is
    obtain ⟨values, -, h⟩ := bind_eq_ok.1 h
    obtain ⟨e, -, h⟩ := bind_eq_ok.1 h
    cases h
    exact .refl
  · rename_i called prepared
    split at h
    · rename_i hall
      cases h
      exact .single (.forgetAll fun name => Or.inl hall)
    · obtain ⟨s₁, hdeallocate, h⟩ := bind_eq_ok.1 h
      cases h
      have hcalled : (Statement.deallocate called prepared).Forgets called.folded := Or.inr rfl
      exact .single (deallocate_change hcalled hdeallocate)
  · split at h
    · cases h
      exact .refl
    · cases h

/-- **What several statements change.** What comes before the first that fails stays. -/
theorem runStatements_changes (statements : List Statement)
    (hsub : ∀ statement ∈ statements, ∀ name, statement.Forgets name → forgotten name)
    (s : Session) : Changes forgotten s (s.runStatements statements).2 := by
  induction statements generalizing s with
  | nil => exact .refl
  | cons statement statements ih =>
    unfold runStatements
    cases hrun : s.runStatement statement with
    | error e => exact .refl
    | ok result =>
      obtain ⟨o, s₁⟩ := result
      have hfirst : Changes forgotten s s₁ :=
        (runStatement_changes hrun).mono (hsub statement List.mem_cons_self)
      have hrest : Changes forgotten s₁ (s₁.runStatements statements).2 :=
        ih (fun statement' hmem => hsub statement' (List.mem_cons_of_mem _ hmem)) s₁
      exact hfirst.trans hrest

theorem run_changes (s : Session) (sql : String) :
    Changes (Operation.run sql).Forgets s (s.run sql).2 := by
  unfold run
  split
  · exact .refl
  · exact .refl
  · rename_i statements _ hparse
    refine runStatements_changes statements (fun statement hmem name hname => ?_) s
    have hmem' : statement ∈ (Statement.parse? sql).getD [] := by
      rw [hparse]
      exact hmem
    exact ⟨statement, hmem', hname⟩

/-- **What a call changes**, whether it succeeds or fails. -/
theorem after_changes (s : Session) (op : Operation) : Changes op.Forgets s (s.after op) := by
  cases op with
  | run sql => exact run_changes s sql
  | runStatement statement =>
    refine goOn_changes fun s' h => ?_
    cases hrun : s.runStatement statement with
    | error e =>
      rw [hrun] at h
      cases h
    | ok result =>
      rw [hrun] at h
      cases h
      exact runStatement_changes hrun
  | prepare name statement declared =>
    refine goOn_changes fun s' h => ?_
    cases hprepare : s.prepare name statement declared with
    | error e =>
      rw [hprepare] at h
      cases h
    | ok result =>
      rw [hprepare] at h
      cases h
      exact .single (.prepare hprepare)
  | execute name args => exact .refl
  | deallocate name => exact goOn_changes fun s' h => .single (deallocate_change rfl h)
  | deallocateAll => exact .single (.forgetAll fun _ => trivial)

/-- **What a sequence of calls changes.** Only its `DEALLOCATE`s forget a prepared statement. -/
theorem afterAll_changes (s : Session) (ops : List Operation) :
    Changes (fun name => ∃ op ∈ ops, op.Forgets name) s (s.afterAll ops) := by
  induction ops generalizing s with
  | nil => exact .refl
  | cons op ops ih =>
    have hfirst : Changes (fun name => ∃ op' ∈ op :: ops, op'.Forgets name) s (s.after op) :=
      (after_changes s op).mono fun name h => ⟨op, List.mem_cons_self, h⟩
    have hrest : Changes (fun name => ∃ op' ∈ op :: ops, op'.Forgets name) (s.after op)
        ((s.after op).afterAll ops) :=
      (ih (s.after op)).mono fun name ⟨op', hmem, h⟩ => ⟨op', List.mem_cons_of_mem _ hmem, h⟩
    exact hfirst.trans hrest

/-! ## What is kept -/

theorem prepare_eq_ok {name : String} {statement : Statement} {declared : List SqlType}
    {p : PreparedStatement} (h : s.prepare name statement declared = .ok (p, s')) :
    s.statements.find? name = none ∧
      ∃ d params, analyze s.catalog (initialParams s.config declared) statement = (.ok d, params)
        ∧ p = ⟨name, statement, params.types?.getD [], d⟩
        ∧ s' = { s with statements := s.statements.insert name p } := by
  unfold prepare at h
  split at h
  · cases h
  · rename_i hfree
    split at h
    · rename_i d params hanalyze
      cases h
      have hnone : s.statements.find? name = none := by
        simpa [NameMap.contains] using hfree
      exact ⟨hnone, d, params, hanalyze, rfl, rfl⟩
    · cases h

/-- No change takes a table away, and the session treats parameters as before. -/
theorem Change.within (h : Change forgotten s s') :
    s.catalog.Within s'.catalog ∧ s'.config = s.config := by
  cases h with
  | create _ h => exact ⟨Catalog.within_createTable h, rfl⟩
  | prepare h =>
    obtain ⟨-, d, params, -, -, rfl⟩ := prepare_eq_ok h
    exact ⟨.refl _, rfl⟩
  | forget h => exact ⟨.refl _, rfl⟩
  | forgetAll h => exact ⟨.refl _, rfl⟩

/-- A prepared statement stays under its name until it is forgotten. -/
theorem Change.find?_eq_some {name : String} {p : PreparedStatement} (h : Change forgotten s s')
    (hname : ¬forgotten name) (hp : s.statements.find? name = some p) :
    s'.statements.find? name = some p := by
  cases h with
  | create _ _ => exact hp
  | @prepare _ called _ _ _ h =>
    -- a statement is prepared under a free name only, so not under this one
    obtain ⟨hfree, d, params, -, -, rfl⟩ := prepare_eq_ok h
    have hne : called ≠ name := by
      rintro rfl
      rw [hfree] at hp
      cases hp
    rw [NameMap.find?_insert, if_neg hne]
    exact hp
  | @forget called h =>
    have hne : called ≠ name := by
      rintro rfl
      exact hname h
    rw [NameMap.find?_erase, if_neg hne]
    exact hp
  | forgetAll h => exact absurd (h name) hname

theorem Changes.within (h : Changes forgotten s s') :
    s.catalog.Within s'.catalog ∧ s'.config = s.config := by
  induction h with
  | refl => exact ⟨.refl _, rfl⟩
  | tail _ hstep ih =>
    obtain ⟨hwithin, hconfig⟩ := ih
    obtain ⟨hwithin', hconfig'⟩ := hstep.within
    exact ⟨hwithin.trans hwithin', hconfig'.trans hconfig⟩

theorem Changes.find?_eq_some {name : String} {p : PreparedStatement}
    (h : Changes forgotten s s') (hname : ¬forgotten name)
    (hp : s.statements.find? name = some p) : s'.statements.find? name = some p := by
  induction h with
  | refl => exact hp
  | tail _ hstep ih => exact hstep.find?_eq_some hname ih

theorem prepared_eq_ok {name : String} {p : PreparedStatement} :
    s.prepared name = .ok p ↔ s.statements.find? name = some p := by
  unfold prepared
  cases s.statements.find? name with
  | none => simp
  | some q => simp

/-- An execution asks the session for nothing but the prepared statement. -/
theorem execute_congr {name : String} (h : s'.prepared name = s.prepared name)
    (args : List Value) : s'.execute name args = s.execute name args := by
  unfold execute
  rw [h]

/-- **Nothing goes stale.** After any calls, successful or failed, every table is there with the
columns that it had; a statement that could be analyzed, with whatever is known of its parameters
beforehand, is found to have the same columns and parameters; and as long as no call forgets it, a
prepared statement gives for all arguments what it gave before. -/
theorem afterAll_keeps (s : Session) (ops : List Operation) :
    (∀ name table, s.catalog.table name = .ok table →
        (s.afterAll ops).catalog.table name = .ok table)
      ∧ (∀ statement declared d params,
        analyze s.catalog (initialParams s.config declared) statement = (.ok d, params) →
        analyze (s.afterAll ops).catalog (initialParams (s.afterAll ops).config declared) statement
          = (.ok d, params))
      ∧ ∀ name p, s.prepared name = .ok p → (∀ op ∈ ops, ¬op.Forgets name) →
        ∀ args, (s.afterAll ops).execute name args = s.execute name args := by
  have hchanges := afterAll_changes s ops
  obtain ⟨hwithin, hconfig⟩ := hchanges.within
  refine ⟨hwithin, fun statement declared d params hok => ?_, fun name p hp hkept args => ?_⟩
  · -- the analysis starts from the same knowledge of parameters, in a larger catalog
    rw [hconfig]
    exact analyze_of_within hwithin hok
  · have hforgotten : ¬∃ op ∈ ops, op.Forgets name := fun ⟨op, hmem, h⟩ => hkept op hmem h
    have hp' : (s.afterAll ops).prepared name = .ok p :=
      prepared_eq_ok.2 (hchanges.find?_eq_some hforgotten (prepared_eq_ok.1 hp))
    exact execute_congr (hp'.trans hp.symm) args

/-- A session with a table and a prepared statement about it. -/
def withPrepared : Session :=
  (new .default).afterAll [.run "CREATE TABLE t (a INT); PREPARE q AS SELECT a + $1 FROM t"]

/-- A call that fails, and calls about other tables and statements. -/
def aboutOthers : List Operation :=
  [.run "CREATE TABLE t (b TEXT)", .run "CREATE TABLE u (b TEXT); PREPARE r AS SELECT b FROM u",
    .deallocate "r"]

/-- The table is still there, the statement can still be analyzed, and under its name it is executed
as before. -/
theorem afterAll_keeps_withPrepared :
    ∃ table p d params, withPrepared.catalog.table "t" = .ok table
      ∧ withPrepared.prepared "q" = .ok p
      ∧ analyze withPrepared.catalog (initialParams withPrepared.config []) p.statement
        = (.ok d, params)
      ∧ (∀ op ∈ aboutOthers, ¬op.Forgets "q")
      ∧ (withPrepared.afterAll aboutOthers).catalog.table "t" = .ok table
      ∧ analyze (withPrepared.afterAll aboutOthers).catalog
          (initialParams (withPrepared.afterAll aboutOthers).config []) p.statement
        = (.ok d, params)
      ∧ (withPrepared.afterAll aboutOthers).execute "q" [.untypedNull]
        = withPrepared.execute "q" [.untypedNull] := by
  have htable : ∃ table, withPrepared.catalog.tables.find? "t" = some table :=
    Option.isSome_iff_exists.1 (by decide +kernel)
  have hp : ∃ p, withPrepared.statements.find? "q" = some p
      ∧ (analyze withPrepared.catalog (initialParams withPrepared.config []) p.statement).1.isOk :=
    (Option.any_eq_true _ _).1 (by decide +kernel)
  -- nothing of what is computed here is about the session after the operations: that is the
  -- theorem's part
  have hkept : ∀ op ∈ aboutOthers, ¬op.Forgets "q" := by decide +kernel
  obtain ⟨table, htable⟩ := htable
  obtain ⟨p, hp, hok⟩ := hp
  obtain ⟨d, params, hanalyze⟩ : ∃ d params,
      analyze withPrepared.catalog (initialParams withPrepared.config []) p.statement
        = (.ok d, params) := by
    rcases hresult : analyze withPrepared.catalog (initialParams withPrepared.config [])
      p.statement with ⟨_ | d, params⟩
    · rw [hresult] at hok
      cases hok
    · exact ⟨d, params, rfl⟩
  obtain ⟨htables, hanalyses, hexecutions⟩ := afterAll_keeps withPrepared aboutOthers
  have htable' := Catalog.table_eq_ok.2 htable
  have hp' := prepared_eq_ok.2 hp
  exact ⟨table, p, d, params, htable', hp', hanalyze, hkept, htables _ _ htable',
    hanalyses _ _ _ _ hanalyze, hexecutions _ _ hp' hkept _⟩

end Session

end Prepared
