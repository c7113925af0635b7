import Prepared.Proofs.Analysis.Positional
import Prepared.Proofs.Session.Atomicity
import Prepared.Session.Batch

/-!
# Every outcome can be shown

A description is shown as two columns, one of names and one of types, which make up a batch exactly
if there are as many names as types (`describeBatch_eq_ok_iff`). The analysis sees to that for
statements that are described, and the names of parameters are counted from their types. So no
outcome of a session is ever left without its batch (`Session.toBatch_of_run`).
-/

namespace Prepared

open Sql

variable {ε : Type} {build : List Field → List ColumnData → Except ε RowSet}

/-! ## Two columns -/

theorem fitting_describe_iff {label : String} {names : List String} {types : List SqlType} :
    Fitting [⟨label, .utf8, false⟩, ⟨"type", .utf8, false⟩]
        [⟨.utf8, names.map fun name => some (.text name)⟩,
          ⟨.utf8, types.map fun type => some (.text type.name)⟩]
      ↔ names.length = types.length := by
  constructor
  · intro h
    have hlen := h.length _ (List.mem_cons_self) _ (List.mem_cons_of_mem _ (List.mem_cons_self))
    rwa [List.length_map, List.length_map] at hlen
  · intro h
    refine ⟨List.cons_ne_nil _ _, rfl, ?_, ?_, ?_⟩
    · intro p hp
      rcases List.mem_pair.1 hp with rfl | rfl
      · rfl
      · rfl
    · intro p hp _
      rcases List.mem_pair.1 hp with rfl | rfl
      · simp
      · simp
    · intro c hc d hd
      rcases List.mem_pair.1 hc with rfl | rfl <;> rcases List.mem_pair.1 hd with rfl | rfl <;>
        simp [h]

/-- Two columns side by side, row by row. -/
theorem ofColumns_describe (label : String) {names : List String} {types : List SqlType}
    (h : names.length = types.length) :
    RowSet.ofColumns [⟨label, .utf8, false⟩, ⟨"type", .utf8, false⟩]
        [⟨.utf8, names.map fun name => some (.text name)⟩,
          ⟨.utf8, types.map fun type => some (.text type.name)⟩]
      = describeRows label names types := by
  unfold RowSet.ofColumns describeRows
  congr 1
  apply List.ext_getElem
  · simp [h]
  · intro i hi hi'
    have hnames : i < names.length := by simpa using hi
    have htypes : i < types.length := h ▸ hnames
    simp [hnames, htypes]

/-- **A description is shown exactly if it has as many names as types.** -/
theorem describeBatch_eq_ok_iff (hbuild : Builds build) {label : String} {names : List String}
    {types : List SqlType} {r : RowSet} :
    describeBatch build label names types = .ok r
      ↔ names.length = types.length ∧ r = describeRows label names types := by
  unfold describeBatch
  by_cases h : names.length = types.length
  · rw [hbuild.fitting _ _ (fitting_describe_iff.2 h), ofColumns_describe label h, Except.ok.injEq]
    exact ⟨fun hr => ⟨h, hr.symm⟩, fun hr => hr.2.symm⟩
  · obtain ⟨e, he⟩ := hbuild.other _ _ fun hfit => h (fitting_describe_iff.1 hfit)
    rw [he]
    exact ⟨nofun, fun hr => absurd hr.1 h⟩

/-! ## Outcomes -/

/-- An outcome whose description, if it is one, has as many names as types. -/
def Outcome.Named : Outcome → Prop
  | .described d => d.names.length = d.types.length
  | _ => True

theorem Outcome.toBatch_of_named (hbuild : Builds build) {o : Outcome} (h : o.Named) :
    o.toBatch build = .ok o.rows? := by
  have hdescribe {label : String} {names : List String} {types : List SqlType}
      (hlen : names.length = types.length) :
      (describeBatch build label names types).map some = .ok (some (describeRows label names types)) := by
    rw [(describeBatch_eq_ok_iff hbuild).2 ⟨hlen, rfl⟩]
    rfl
  cases o with
  | command tag => rfl
  | executed e => rfl
  | prepared p => exact hdescribe (by simp [paramNames])
  | described d => exact hdescribe h

namespace Session

/-- What a statement is described by has a name for each type. -/
theorem named_of_runStatement {s s' : Session} {statement : Statement} {o : Outcome}
    (h : s.runStatement statement = .ok (o, s')) : o.Named := by
  unfold runStatement at h
  split at h
  · obtain ⟨s₁, -, h⟩ := bind_eq_ok.1 h
    cases h
    trivial
  · obtain ⟨declared, -, h⟩ := bind_eq_ok.1 h
    obtain ⟨⟨p, s₁⟩, -, h⟩ := bind_eq_ok.1 h
    cases h
    trivial
  · obtain ⟨values, -, h⟩ := bind_eq_ok.1 h
    obtain ⟨e, -, h⟩ := bind_eq_ok.1 h
    cases h
    trivial
  · split at h
    · cases h
      trivial
    · obtain ⟨s₁, -, h⟩ := bind_eq_ok.1 h
      cases h
      trivial
  · split at h
    · rename_i d hanalyze
      cases h
      obtain ⟨t, hbind, -⟩ := analyze_eq_ok.1 (Prod.ext hanalyze rfl)
      exact bindStatement_named s.catalog _ _ d t hbind
    · cases h

theorem named_of_runStatements {s s' : Session} {statements : List Statement}
    {outcomes : List Outcome} (h : s.runStatements statements = (.ok outcomes, s')) :
    ∀ o ∈ outcomes, o.Named := by
  induction statements generalizing s outcomes with
  | nil =>
    cases h
    exact nofun
  | cons statement rest ih =>
    unfold runStatements at h
    cases hfirst : s.runStatement statement with
    | error e =>
      rw [hfirst] at h
      cases h
    | ok result =>
      obtain ⟨o, s₁⟩ := result
      rw [hfirst] at h
      rcases hrest : s₁.runStatements rest with ⟨e | os, s₂⟩
      · simp only [hrest] at h
        cases h
      · simp only [hrest] at h
        cases h
        exact List.forall_mem_cons.2 ⟨named_of_runStatement hfirst, ih hrest⟩

/-- **Every outcome can be shown**, and as the rows that it is shown by. -/
theorem toBatch_of_run (hbuild : Builds build) {s s' : Session} {sql : String}
    {outcomes : List Outcome} (h : s.run sql = (.ok outcomes, s')) :
    ∀ o ∈ outcomes, o.toBatch build = .ok o.rows? := by
  unfold run at h
  split at h
  · cases h
  · cases h
  · exact fun o ho => Outcome.toBatch_of_named hbuild (named_of_runStatements h o ho)

end Session

/-! ## Catalogs -/

theorem NameMap.mem_of_lookup? {α : Type} {name : String} {value : α} {es : List (String × α)}
    (h : lookup? name es = some value) : (name, value) ∈ es := by
  induction es with
  | nil => cases h
  | cons e es ih =>
    unfold lookup? at h
    split at h
    · rename_i hname
      cases h
      rw [← hname]
      exact List.mem_cons_self
    · exact List.mem_cons_of_mem _ (ih h)

/-- A catalog whose tables are made of their columns. -/
def Catalog.Built (c : Catalog) : Prop :=
  ∀ entry ∈ c.tables.entries, Table.ofColumns entry.2.name entry.2.columns = .ok entry.2

theorem Catalog.Built.indexed {c : Catalog} (h : c.Built) : Positional.IndexedCatalog c := by
  intro name table htable
  have hmem : (name, table) ∈ c.tables.entries :=
    NameMap.mem_of_lookup? (Catalog.table_eq_ok.1 htable)
  exact Table.indexed_of_ofColumns (h _ hmem)

/-- **No position lies outside of its list, and every outcome is shown.** For a catalog whose tables
are made of their columns, every hook and every statement, the analysis by position comes to an end
and gives what the analysis gives: every column of a table, column of a `VALUES` list and expected
type is there, every table in sight has as many types as names, and every output has a name for each
of its columns. The questions to the list of types find their positions, whatever the list and the
number. And every outcome of a session is put together as the rows that show it. -/
theorem analyze_inRange_run_shown (hbuild : Builds build) :
    (∀ (σ : Type) [ParamHook σ] (catalog : Catalog), catalog.Built → ∀ (params : σ) (S : Statement),
        Positional.analyze catalog params S = some (analyze catalog params S))
      ∧ (∀ (σ : Type) [ParamHook σ] catalog expected q (s : WalkState σ) output s',
        bindQuery catalog expected q s = (.ok output, s') →
          output.names.length = output.columns.length)
      ∧ (∀ (p : ParamTypes) n, Positional.refer p n = some (p.refer n)
        ∧ ∀ target, Positional.settle p n target = some (p.settle n target))
      ∧ ∀ (s : Session) sql outcomes s', s.run sql = (.ok outcomes, s') →
        ∀ o ∈ outcomes, o.toBatch build = .ok o.rows? := by
  refine ⟨fun σ hook catalog hbuilt params S => ?_, fun σ hook catalog expected q => ?_,
    fun p n => ⟨Positional.refer_eq p n, Positional.settle_eq p n⟩, fun s sql outcomes s' hrun => ?_⟩
  · exact Positional.analyze_eq hbuilt.indexed params S
  · exact bindQuery_named catalog expected q
  · exact Session.toBatch_of_run hbuild hrun

/-- Columns are put together if they fit. -/
def RowSet.ofFitting (fields : List Field) (columns : List ColumnData) : Except String RowSet :=
  if Fitting fields columns then .ok (.ofColumns fields columns)
  else .error "columns do not make up a batch"

theorem RowSet.builds_ofFitting : Builds RowSet.ofFitting where
  fitting _ _ h := if_pos h
  other _ _ h := ⟨_, if_neg h⟩

/-- The table `t (a INT, b TEXT)` in a catalog. -/
def Catalog.withPair : Catalog :=
  ⟨NameMap.empty.insert "t" ⟨"t", [⟨"a", .integer ⟨true, .w32⟩⟩, ⟨"b", .varchar⟩],
    (NameMap.empty.insert "a" 0).insert "b" 1⟩, 1⟩

/-- `INSERT INTO t (b, a) VALUES ('x', 1), ('y', $1)` -/
def Sql.Statement.insertSwapped : Statement :=
  .insert ⟨false, true, false, [⟨"t", none⟩], [⟨"b", none⟩, ⟨"a", none⟩], [], [],
    .mk false [] (.values false [[.literal (.singleQuoted "x"), .literal (.number "1" false)],
      [.literal (.singleQuoted "y"), .literal (.placeholder "$1")]]) [] none none .none none none,
    none, []⟩

/-- A table, a query that renames its columns, and a statement that is prepared. -/
def showThree : String :=
  "CREATE TABLE t (a INT, b TEXT);
  SELECT x.*, d FROM (SELECT b, a FROM t) AS x (c), (VALUES (1), (2)) AS y (d);
  PREPARE q AS SELECT a FROM t WHERE b = $1"

/-- The columns are filled crosswise, and each value meets the type at the position of its column.
All three outcomes are shown. -/
theorem analyze_inRange_run_shown_three :
    Positional.analyze .withPair (ParamTypes.inferred [] 65535) .insertSwapped
        = some (.ok .empty, .inferred [.integer ⟨true, .w32⟩] 65535)
      ∧ ∃ outcomes s', (Session.new .default).run showThree = (.ok outcomes, s')
        ∧ outcomes.length = 3 ∧ ∀ o ∈ outcomes, o.toBatch RowSet.ofFitting = .ok o.rows? := by
  obtain ⟨hpositions, -, -, hshown⟩ := analyze_inRange_run_shown RowSet.builds_ofFitting
  have hbuilt : Catalog.withPair.Built := by
    intro entry hentry
    rw [List.mem_singleton.1 hentry]
    rfl
  have hanalyze : analyze .withPair (ParamTypes.inferred [] 65535) .insertSwapped
      = (.ok .empty, .inferred [.integer ⟨true, .w32⟩] 65535) := rfl
  have hcount : ((Session.new .default).run showThree).1.toOption.map List.length = some 3 := by
    decide +kernel
  refine ⟨(hpositions _ .withPair hbuilt _ _).trans (congrArg some hanalyze), ?_⟩
  rcases hrun : (Session.new .default).run showThree with ⟨e | outcomes, s'⟩
  · rw [hrun] at hcount
    cases hcount
  · rw [hrun] at hcount
    exact ⟨outcomes, s', rfl, Option.some.inj hcount, hshown _ _ _ _ hrun⟩

end Prepared
