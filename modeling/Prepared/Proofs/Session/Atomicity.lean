import Prepared.Proofs.Session.Executable
import Prepared.Session.InPlace

/-!
# What a failure leaves behind

A session that is changed in place keeps what a failed call has written to it. `Session.keep` is what
it should keep: the new session after a success, and the old one after a failure. Each operation does
keep that, since whatever can fail comes before the first write (`prepare_eq`, `createTable_eq`), or
since what is written before the failure is no change: where nothing is prepared under a name,
nothing is taken away (`deallocate_eq`).

So a statement that fails has no effect. Of several statements those before the first that fails have
theirs, and those behind it are not carried out (`runStatements_eq_error_iff`). `failure_atomic` puts
this together, and `left_eq_after` carries it over to histories of calls.
-/

namespace Prepared

open Sql

/-! ## Taking nothing away -/

namespace NameMap

variable {α : Type} {name : String}

theorem ne_of_lookup?_eq_none {es : List (String × α)} (h : lookup? name es = none) :
    ∀ e ∈ es, e.1 ≠ name := by
  induction es with
  | nil => exact nofun
  | cons a es ih =>
    unfold lookup? at h
    split at h
    · cases h
    · rename_i hne
      exact List.forall_mem_cons.2 ⟨hne, ih h⟩

theorem erase_of_find?_eq_none {m : NameMap α} (h : m.find? name = none) : m.erase name = m := by
  obtain ⟨entries, ordered⟩ := m
  have hall : ∀ e ∈ entries, decide (e.1 ≠ name) = true := fun e he =>
    decide_eq_true (ne_of_lookup?_eq_none h e he)
  simp only [erase, List.filter_eq_self.2 hall]

end NameMap

namespace Session

variable {α : Type} {s s' : Session} {e : SessionError}

/-- What comes of a call, and the session that it should leave. -/
def keep (s : Session) : Except SessionError (α × Session) → Except SessionError α × Session
  | .ok (a, s') => (.ok a, s')
  | .error e => (.error e, s)

theorem eq_of_keep_eq_error {r : Except SessionError (α × Session)}
    (h : s.keep r = (.error e, s')) : s' = s := by
  cases r with
  | error e' =>
    cases h
    rfl
  | ok result => cases h

namespace InPlace

/-! ## Single operations -/

variable {β : Type}

/-- A step goes on with what the one before it gave, on the session that it left. -/
theorem run_bind (x : Call α) (f : α → Call β) (s : Session) :
    (x >>= f) s
      = match x s with
        | (.ok a, s') => f a s'
        | (.error e, s') => (.error e, s') := by
  show (ExceptT.bind x f) s = _
  unfold ExceptT.bind ExceptT.mk
  show (ExceptT.bindCont f (x s).1) (x s).2 = _
  rcases x s with ⟨r, s'⟩
  cases r <;> rfl

theorem run_current_bind (f : Session → Call β) (s : Session) : (current >>= f) s = f s s :=
  rfl

theorem run_write_bind (g : Session → Session) (f : Unit → Call β) (s : Session) :
    (write g >>= f) s = f () (g s) :=
  rfl

theorem run_ofResult_ok_bind (f : α → Call β) (a : α) (s : Session) :
    (ofResult (.ok a) >>= f) s = f a s :=
  rfl

/-- What comes of a call is put into another form. -/
theorem run_bind_pure {x : Call α} {r : Except SessionError (α × Session)} (f : α → β)
    (h : x s = s.keep r) :
    (x >>= fun a => pure (f a)) s = s.keep (r.map fun result => (f result.1, result.2)) := by
  rw [run_bind, h]
  cases r <;> rfl

theorem addTable_eq (table : Table) (ifNotExists : Bool) (s : Session) :
    addTable table ifNotExists s = s.keep (((s.catalog.createTable table ifNotExists).mapError
      .catalog).map fun catalog => ((), { s with catalog })) := by
  unfold addTable Catalog.createTable
  rw [run_current_bind]
  split
  · cases ifNotExists <;> rfl
  · rfl

theorem createTable_eq (t : CreateTable) (s : Session) :
    createTable t s = s.keep ((s.createTable t).map fun s' => ((), s')) := by
  unfold createTable Session.createTable
  -- a wrong name, a wrong column or a repeated one is found before anything is written
  rcases (tableName t.name).mapError SessionError.bind with e | name
  · rfl
  rw [run_ofResult_ok_bind]
  rcases (columnsOfDefs t.columns).mapError SessionError.bind with e | columns
  · rfl
  rw [run_ofResult_ok_bind]
  show (ofResult ((Table.ofColumns name columns).mapError .catalog) >>= _) s
    = s.keep (Except.map _ ((Table.ofColumns name columns).mapError .catalog >>= _))
  rcases (Table.ofColumns name columns).mapError SessionError.catalog with e | table
  · rfl
  rw [run_ofResult_ok_bind, addTable_eq]
  show _ = s.keep (Except.map _ ((s.catalog.createTable table t.ifNotExists).mapError .catalog >>= _))
  cases (s.catalog.createTable table t.ifNotExists).mapError SessionError.catalog <;> rfl

theorem prepare_eq (name : String) (statement : Statement) (declared : List SqlType)
    (s : Session) :
    prepare name statement declared s = s.keep (s.prepare name statement declared) := by
  unfold prepare Session.prepare
  rw [run_current_bind]
  split
  · rfl
  · rcases analyze s.catalog (initialParams s.config declared) statement with ⟨e | d, params⟩ <;> rfl

theorem execute_eq (name : String) (args : List Value) (s : Session) :
    execute name args s = s.keep ((s.execute name args).map fun e => (e, s)) := by
  unfold execute
  rw [run_current_bind]
  unfold ofResult
  cases s.execute name args <;> rfl

theorem deallocate_eq (name : String) (s : Session) :
    deallocate name s = s.keep ((s.deallocate name).map fun s' => ((), s')) := by
  unfold deallocate Session.deallocate
  rw [run_current_bind, run_write_bind]
  by_cases hfound : s.statements.contains name = true
  · rw [if_pos hfound, if_pos hfound]
    rfl
  · -- the session has been written to by now, but to no effect
    have hnone : s.statements.find? name = none := by
      simpa [NameMap.contains] using hfound
    rw [if_neg hfound, if_neg hfound, NameMap.erase_of_find?_eq_none hnone]
    rfl

/-! ## Statements -/

/-- A statement that is only described. -/
theorem describe_eq {statement : Statement} (hplace : runStatement statement = describe statement)
    (h : s.runStatement statement
      = match (analyze s.catalog ParamTypes.absent statement).1 with
        | .ok description => .ok (.described description, s)
        | .error e => .error (.bind e)) :
    runStatement statement s = s.keep (s.runStatement statement) := by
  rw [hplace, h]
  unfold describe
  rw [run_current_bind]
  cases (analyze s.catalog ParamTypes.absent statement).1 <;> rfl

/-- **A statement in place.** It gives what it gives to a caller who keeps the old session, and it
leaves the old session if it fails. -/
theorem runStatement_eq (statement : Statement) (s : Session) :
    runStatement statement s = s.keep (s.runStatement statement) := by
  cases statement with
  | createTable t =>
    show (createTable t >>= _) s = s.keep (s.createTable t >>= _)
    rw [run_bind_pure (fun _ => Outcome.command "CREATE TABLE") (createTable_eq t s)]
    cases s.createTable t <;> rfl
  | prepare name types statement =>
    -- the declared types are looked at before the statement is
    show (ofResult ((typesOf types).mapError .type) >>= _) s
      = s.keep ((typesOf types).mapError .type >>= _)
    rcases (typesOf types).mapError SessionError.type with e | declared
    · rfl
    rw [run_ofResult_ok_bind, run_bind_pure Outcome.prepared (prepare_eq _ _ _ s)]
    show _ = s.keep (s.prepare name.folded statement declared >>= _)
    cases s.prepare name.folded statement declared <;> rfl
  | execute name args =>
    -- the arguments are evaluated before the statement is looked up
    show (ofResult (evalConstants args) >>= _) s = s.keep (evalConstants args >>= _)
    rcases evalConstants args with e | values
    · rfl
    rw [run_ofResult_ok_bind, run_bind_pure Outcome.executed (execute_eq _ _ s)]
    show _ = s.keep (s.execute name.folded values >>= _)
    cases s.execute name.folded values <;> rfl
  | deallocate name prepareWord =>
    unfold runStatement Session.runStatement
    dsimp only
    by_cases hall : isAll name = true
    · rw [if_pos hall, if_pos hall]
      rfl
    · rw [if_neg hall, if_neg hall]
      rw [run_bind_pure (fun _ => Outcome.command "DEALLOCATE") (deallocate_eq name.folded s)]
      cases s.deallocate name.folded <;> rfl
  | _ => exact describe_eq rfl rfl

/-- A statement that fails has no effect. -/
theorem eq_of_runStatement_error {statement : Statement}
    (h : runStatement statement s = (.error e, s')) : s' = s := by
  rw [runStatement_eq] at h
  exact eq_of_keep_eq_error h

/-! ## Several statements -/

/-- **Statements in place** do what a caller does who goes on with the new session each time. -/
theorem runStatements_eq (statements : List Statement) (s : Session) :
    runStatements statements s = s.runStatements statements := by
  induction statements generalizing s with
  | nil => rfl
  | cons statement rest ih =>
    unfold runStatements Session.runStatements
    rw [run_bind, runStatement_eq]
    rcases s.runStatement statement with e | ⟨o, s₁⟩
    · rfl
    · show (runStatements rest >>= fun os => pure (o :: os)) s₁ = _
      rw [run_bind, ih]
      dsimp only
      rcases s₁.runStatements rest with ⟨e | os, s₂⟩ <;> rfl

theorem run_eq (sql : String) (s : Session) : run sql s = s.run sql := by
  unfold run Session.run
  rcases Statement.parse? sql with _ | _ | ⟨statement, rest⟩
  · rfl
  · rfl
  · exact runStatements_eq (statement :: rest) s

/-- All of the statements are carried out, one after the other, and lead from one session to another. -/
inductive Ran : Session → List Statement → List Outcome → Session → Prop
  | nil (s : Session) : Ran s [] [] s
  | cons {s s₁ s' : Session} {statement : Statement} {rest : List Statement} {o : Outcome}
      {os : List Outcome} (h : runStatement statement s = (.ok o, s₁)) (hrest : Ran s₁ rest os s') :
      Ran s (statement :: rest) (o :: os) s'

/-- After statements that are carried out come the others, from where these have led. -/
theorem Ran.runStatements_append {before : List Statement} {os : List Outcome}
    (h : Ran s before os s') (rest : List Statement) :
    runStatements (before ++ rest) s
      = ((runStatements rest s').1.map (os ++ ·), (runStatements rest s').2) := by
  -- along the statements that are carried out, each of which hands its session on
  induction h with
  | nil s =>
    rw [List.nil_append]
    rcases runStatements rest s with ⟨e | os, s'⟩ <;> rfl
  | cons hfirst _ ih =>
    rw [List.cons_append, runStatements, run_bind, hfirst]
    dsimp only
    rw [run_bind, ih]
    rcases runStatements rest _ with ⟨e | os, s'⟩ <;> rfl

/-- **Success** is the success of every statement. -/
theorem runStatements_eq_ok_iff {statements : List Statement} {os : List Outcome} :
    runStatements statements s = (.ok os, s') ↔ Ran s statements os s' := by
  constructor
  · intro h
    induction statements generalizing s os with
    | nil =>
      cases h
      exact .nil _
    | cons statement rest ih =>
      rw [runStatements, run_bind] at h
      rcases hfirst : runStatement statement s with ⟨e | o, s₁⟩
      · rw [hfirst] at h
        cases h
      · rw [hfirst] at h
        dsimp only at h
        rw [run_bind] at h
        rcases hrest : runStatements rest s₁ with ⟨e | os', s₂⟩
        · rw [hrest] at h
          cases h
        · rw [hrest] at h
          cases h
          exact .cons hfirst (ih hrest)
  · intro h
    have hall := h.runStatements_append []
    rw [List.append_nil] at hall
    rw [hall]
    show (Except.ok (os ++ []), s') = _
    rw [List.append_nil]

/-- **Failure** is that of the first statement that fails. Those before it have been carried out, it
has no effect itself, and those behind it are not reached. -/
theorem runStatements_eq_error_iff {statements : List Statement} :
    runStatements statements s = (.error e, s') ↔
      ∃ before statement rest os, statements = before ++ statement :: rest ∧ Ran s before os s'
        ∧ runStatement statement s' = (.error e, s') := by
  constructor
  · intro h
    induction statements generalizing s with
    | nil => cases h
    | cons statement rest ih =>
      rw [runStatements, run_bind] at h
      rcases hfirst : runStatement statement s with ⟨e' | o, s₁⟩
      · rw [hfirst] at h
        cases h
        -- this one fails, and leaves the session as it was
        obtain rfl := eq_of_runStatement_error hfirst
        exact ⟨[], statement, rest, [], rfl, .nil _, hfirst⟩
      · rw [hfirst] at h
        dsimp only at h
        rw [run_bind] at h
        rcases hrest : runStatements rest s₁ with ⟨e' | os, s₂⟩
        · rw [hrest] at h
          cases h
          obtain ⟨before, failing, behind, os, rfl, hran, hfails⟩ := ih hrest
          exact ⟨statement :: before, failing, behind, o :: os, rfl, .cons hfirst hran, hfails⟩
        · rw [hrest] at h
          cases h
  · rintro ⟨before, failing, behind, os, rfl, hran, hfails⟩
    have hstop : runStatements (failing :: behind) s' = (.error e, s') := by
      rw [runStatements, run_bind, hfails]
    rw [hran.runStatements_append, hstop]
    rfl

/-- A statement that fails in place fails for a caller who keeps the old session. -/
theorem runStatement_eq_error {statement : Statement}
    (h : runStatement statement s = (.error e, s')) : s.runStatement statement = .error e := by
  rw [runStatement_eq] at h
  cases hresult : s.runStatement statement with
  | error e' =>
    rw [hresult] at h
    cases h
    rfl
  | ok result =>
    rw [hresult] at h
    cases h

/-! ## Calls -/

/-- The session that a call in place leaves, successful or failed. -/
def left (s : Session) : Operation → Session
  | .run sql => (run sql s).2
  | .runStatement statement => (runStatement statement s).2
  | .prepare name statement declared => (prepare name statement declared s).2
  | .execute name args => (execute name args s).2
  | .deallocate name => (deallocate name s).2
  | .deallocateAll => (deallocateAll s).2

/-- **Histories.** It is the session that a caller goes on with who keeps the old one after a failure,
so what holds after any such calls holds of sessions that are changed in place. -/
theorem left_eq_after (s : Session) (op : Operation) : left s op = s.after op := by
  have hkeep {β : Type} (r : Except SessionError (β × Session)) :
      (s.keep r).2 = s.goOn (r.map (·.2)) := by
    cases r <;> rfl
  cases op with
  | run sql => exact congrArg Prod.snd (run_eq sql s)
  | runStatement statement =>
    show (runStatement statement s).2 = _
    rw [runStatement_eq, hkeep]
    rfl
  | prepare name statement declared =>
    show (prepare name statement declared s).2 = _
    rw [prepare_eq, hkeep]
    rfl
  | execute name args =>
    show (execute name args s).2 = s
    rw [execute_eq]
    cases s.execute name args <;> rfl
  | deallocate name =>
    show (deallocate name s).2 = s.goOn (s.deallocate name)
    rw [deallocate_eq]
    cases s.deallocate name <;> rfl
  | deallocateAll => rfl

/-- **Failure is atomic.** A statement, or a call that prepares, executes or forgets one, leaves the
session as it is if it fails. A text that is not SQL changes nothing; the statements of any other text
are carried out in their order, and if one fails the session is that after the statements before
it. -/
theorem failure_atomic (s : Session) :
    (∀ statement e s', runStatement statement s = (.error e, s') → s' = s)
      ∧ (∀ name statement declared e s',
        prepare name statement declared s = (.error e, s') → s' = s)
      ∧ (∀ name args e s', execute name args s = (.error e, s') → s' = s)
      ∧ (∀ name e s', deallocate name s = (.error e, s') → s' = s)
      ∧ ∀ sql, run sql s = s.run sql
        ∧ (Statement.parse? sql = none → run sql s = (.error .notSql, s))
        ∧ ∀ statements, Statement.parse? sql = some statements →
          (∀ os s', run sql s = (.ok os, s') ↔ statements ≠ [] ∧ Ran s statements os s')
          ∧ ∀ e s', run sql s = (.error e, s') ↔
            statements = [] ∧ e = .noStatement ∧ s' = s
              ∨ ∃ before statement rest os, statements = before ++ statement :: rest
                ∧ Ran s before os s' ∧ runStatement statement s' = (.error e, s') := by
  refine ⟨fun _ _ _ => eq_of_runStatement_error, ?_, ?_, ?_, fun sql => ⟨run_eq sql s, ?_, ?_⟩⟩
  · intro name statement declared e s' h
    rw [prepare_eq] at h
    exact eq_of_keep_eq_error h
  · intro name args e s' h
    rw [execute_eq] at h
    exact eq_of_keep_eq_error h
  · intro name e s' h
    rw [deallocate_eq] at h
    exact eq_of_keep_eq_error h
  · intro hparse
    unfold run
    rw [hparse]
    rfl
  -- a text without statements fails by itself, before any is carried out
  · intro statements hparse
    cases statements with
    | nil =>
      have hrun : run sql s = (.error .noStatement, s) := by
        unfold run
        rw [hparse]
        rfl
      rw [hrun]
      refine ⟨fun os s' => ⟨nofun, fun ⟨hne, _⟩ => absurd rfl hne⟩, fun e s' => ⟨?_, ?_⟩⟩
      · intro h
        cases h
        exact Or.inl ⟨rfl, rfl, rfl⟩
      · rintro (⟨-, rfl, rfl⟩ | ⟨before, statement, rest, os, hsplit, -⟩)
        · rfl
        · exact absurd hsplit.symm (List.append_ne_nil_of_right_ne_nil _ (List.cons_ne_nil _ _))
    | cons statement rest =>
      have hrun : run sql s = runStatements (statement :: rest) s := by
        unfold run
        rw [hparse]
      rw [hrun]
      constructor
      · intro os s'
        rw [runStatements_eq_ok_iff]
        exact (and_iff_right (List.cons_ne_nil statement rest)).symm
      · intro e s'
        rw [runStatements_eq_error_iff]
        refine (or_iff_right ?_).symm
        rintro ⟨hempty, -⟩
        cases hempty

/-- The third statement creates a table that is there. -/
def createTwice : String :=
  "CREATE TABLE t (a INT); PREPARE q AS SELECT a FROM t; CREATE TABLE t (b INT); DEALLOCATE q"

/-- The first two statements have their effect, the last one has none. -/
theorem failure_atomic_createTwice :
    ∃ statements s', Statement.parse? createTwice = some statements
      ∧ (new .default).run createTwice = (.error (.catalog (.tableExists "t")), s')
      ∧ s'.catalog.version = 1 ∧ s'.statements.contains "q" = true
      ∧ ∃ before statement rest os, statements = before ++ statement :: rest
        ∧ Ran (new .default) before os s'
        ∧ runStatement statement s' = (.error (.catalog (.tableExists "t")), s') := by
  obtain ⟨statements, hparse⟩ : ∃ statements, Statement.parse? createTwice = some statements :=
    Option.isSome_iff_exists.1 (by decide +kernel)
  have hcomputed : error? ((new .default).run createTwice).1 = some (.catalog (.tableExists "t"))
      ∧ ((new .default).run createTwice).2.catalog.version = 1
      ∧ ((new .default).run createTwice).2.statements.contains "q" = true := by
    decide +kernel
  rcases hrun : (new .default).run createTwice with ⟨r, s'⟩
  rw [hrun] at hcomputed
  obtain ⟨herror, hversion, hkept⟩ := hcomputed
  obtain rfl := eq_error_of_error? herror
  obtain ⟨-, -, -, -, hcalls⟩ := failure_atomic (new .default)
  obtain ⟨hsame, -, hparsed⟩ := hcalls createTwice
  rcases ((hparsed statements hparse).2 _ s').1 (hsame.trans hrun) with ⟨-, hother, -⟩ | hfails
  · cases hother
  · exact ⟨statements, s', hparse, rfl, hversion, hkept, hfails⟩

end InPlace

end Session

end Prepared
