import Prepared.Proofs.Param.Values
import Prepared.Proofs.Session.History

/-!
# Which prepared statements can be executed

An execution builds the list of parameters and puts them into the text of the statement. The first
half cannot fail for arguments that fit: every type of a prepared statement is decided, in every
session that calls can lead to (`Session.Reachable.resolved`).

The second half can. The analysis decides by the tree of the statement how many parameters there
are, but the values go into the text that the tree is printed as, and the two need not agree. The
text may fail to fall into tokens again, and it may have a parameter in a clause that the analysis
passes over (`Session.execute_passedOver`). `Session.execute_outcome` says that nothing else can go
wrong.
-/

namespace Prepared

open Sql

/-! ## The parameters in a text -/

/-- The number of the parameter whose value takes the place of the token. -/
def Sql.Token.paramNumber? : Token → Option Nat
  | .placeholder text => ParamTypes.number? text
  | _ => none

/-- The numbers of the parameters in a text, if it falls into tokens. -/
def paramNumbers? (sql : String) : Option (List Nat) :=
  (Token.scan sql).map (List.filterMap Token.paramNumber?)

/-- The first of some numbers that none of `count` parameters has. -/
def firstBeyond? (count : Nat) (numbers : List Nat) : Option Nat :=
  numbers.find? fun n => n = 0 || count < n

theorem paramAt?_eq_none_iff {params : List Param} {n : Nat} :
    paramAt? params n = none ↔ n = 0 ∨ params.length < n := by
  unfold paramAt?
  split
  · simp [*]
  · rw [List.getElem?_eq_none_iff]
    omega

/-- A parameter that is missing has no value to put in its place. -/
theorem substituteToken_of_beyond {params : List Param} {t : Token} {n : Nat}
    (last : Option Char) (hn : t.paramNumber? = some n) (hbeyond : n = 0 ∨ params.length < n) :
    substituteToken params last t = .error (.noSuchParameter n) := by
  have hmissing : paramAt? params n = none := paramAt?_eq_none_iff.2 hbeyond
  cases t with
  | placeholder text =>
    have hnumber : ParamTypes.number? text = some n := hn
    simp only [substituteToken, hnumber, hmissing]
  | _ => cases hn

theorem substituteToken_of_within {params : List Param} {t : Token} (last : Option Char)
    (hwithin : ∀ n, t.paramNumber? = some n → ¬(n = 0 ∨ params.length < n)) :
    ∃ text, substituteToken params last t = .ok text := by
  cases t with
  | placeholder text =>
    cases hnumber : ParamTypes.number? text with
    | none => exact ⟨text, by simp only [substituteToken, hnumber]⟩
    | some n =>
      cases hp : paramAt? params n with
      | none => exact absurd (paramAt?_eq_none_iff.1 hp) (hwithin n hnumber)
      | some p =>
        simp only [substituteToken, hnumber, hp]
        exact ⟨_, rfl⟩
  | _ => exact ⟨_, rfl⟩

/-- **Tokens with values in place.** They are refused for the first parameter that is missing, and
for nothing else. -/
theorem substituteTokens_outcome (params : List Param) (last : Option Char) (ts : List Token) :
    (∀ n, firstBeyond? params.length (ts.filterMap Token.paramNumber?) = some n →
        substituteTokens params last ts = .error (.noSuchParameter n))
      ∧ (firstBeyond? params.length (ts.filterMap Token.paramNumber?) = none →
        ∃ text, substituteTokens params last ts = .ok text) := by
  induction ts generalizing last with
  | nil => exact ⟨nofun, fun _ => ⟨"", rfl⟩⟩
  | cons t ts ih =>
    -- the token itself is refused, or what becomes of the others decides
    by_cases hbeyond : ∃ n, t.paramNumber? = some n ∧ (n = 0 ∨ params.length < n)
    · obtain ⟨n, hn, hbeyond⟩ := hbeyond
      have hrefused : substituteTokens params last (t :: ts) = .error (.noSuchParameter n) := by
        unfold substituteTokens
        rw [substituteToken_of_beyond last hn hbeyond]
        rfl
      have hfirst : firstBeyond? params.length ((t :: ts).filterMap Token.paramNumber?)
          = some n := by
        rw [List.filterMap_cons_some hn]
        exact List.find?_cons_of_pos (by simpa using hbeyond)
      rw [hfirst, hrefused]
      exact ⟨fun _ h => by rw [Option.some.inj h], nofun⟩
    · have hwithin : ∀ n, t.paramNumber? = some n → ¬(n = 0 ∨ params.length < n) :=
        fun n hn h => hbeyond ⟨n, hn, h⟩
      obtain ⟨text, htext⟩ := substituteToken_of_within last hwithin
      have hfirst : firstBeyond? params.length ((t :: ts).filterMap Token.paramNumber?)
          = firstBeyond? params.length (ts.filterMap Token.paramNumber?) := by
        cases hn : t.paramNumber? with
        | none => rw [List.filterMap_cons_none hn]
        | some n =>
          rw [List.filterMap_cons_some hn]
          exact List.find?_cons_of_neg (by simpa using hwithin n hn)
      obtain ⟨hrefused, hok⟩ := ih (text.toList.getLast?.or last)
      rw [hfirst]
      constructor
      · intro n hn
        unfold substituteTokens
        rw [htext]
        simp only [bind, Except.bind, hrefused n hn]
      · intro hnone
        obtain ⟨rest, hrest⟩ := hok hnone
        unfold substituteTokens
        rw [htext]
        simp only [bind, Except.bind, hrest]
        exact ⟨_, rfl⟩

/-- **A text with values in place.** It is refused if it does not fall into tokens, or for the first
parameter that is missing. -/
theorem substitute_outcome (params : List Param) (sql : String) :
    (paramNumbers? sql = none → substitute params sql = .error .unterminated)
      ∧ ∀ numbers, paramNumbers? sql = some numbers →
        (∀ n, firstBeyond? params.length numbers = some n →
            substitute params sql = .error (.noSuchParameter n))
          ∧ (firstBeyond? params.length numbers = none →
            ∃ text, substitute params sql = .ok text) := by
  unfold paramNumbers? substitute
  cases Token.scan sql with
  | none => exact ⟨fun _ => rfl, nofun⟩
  | some tokens =>
    refine ⟨nofun, ?_⟩
    rintro numbers ⟨⟩
    exact substituteTokens_outcome params none tokens

/-! ## Arguments that fit -/

/-- A value that can be given to a parameter of the type: a null, or one that casts to it. -/
def Value.Fits (type : SqlType) (v : Value) : Prop :=
  v.isNull = true ∨ ∃ w, v.castTo type = .ok w

theorem Param.ofValue_of_fits {type : SqlType} {v : Value} (h : v.Fits type) :
    ∃ p, Param.ofValue type v v.isNull = .ok p := by
  unfold Param.ofValue
  split
  · exact ⟨_, rfl⟩
  · rename_i hnull
    rcases h with h | ⟨w, hw⟩
    · exact absurd h hnull
    · rw [hw]
      exact ⟨_, rfl⟩

theorem paramsOf_of_fits {types : List SqlType} {args : List Value}
    (hlength : args.length = types.length)
    (hfits : ∀ typed ∈ types.zip args, typed.2.Fits typed.1) :
    ∃ params, paramsOf types args (args.map Value.isNull) = .ok params
      ∧ params.length = types.length := by
  induction types generalizing args with
  | nil => exact ⟨[], by simp only [paramsOf], rfl⟩
  | cons type types ih =>
    obtain ⟨arg, args, rfl⟩ := List.exists_cons_of_length_eq_add_one hlength
    rw [List.zip_cons_cons] at hfits
    obtain ⟨hfit, hothers⟩ := List.forall_mem_cons.1 hfits
    obtain ⟨p, hp⟩ := Param.ofValue_of_fits hfit
    obtain ⟨params, hparams, hcount⟩ := ih (Nat.succ.inj hlength) hothers
    refine ⟨p :: params, ?_, congrArg Nat.succ hcount⟩
    simp only [List.map_cons, paramsOf, hp, hparams, bind, Except.bind, pure, Except.pure]

theorem PreparedStatement.bind_of_fits {p : PreparedStatement} {args : List Value}
    (hresolved : ∀ t ∈ p.paramTypes, t.isResolved = true)
    (hlength : args.length = p.paramTypes.length)
    (hfits : ∀ typed ∈ p.paramTypes.zip args, typed.2.Fits typed.1) :
    ∃ params, p.bind args = .ok params ∧ params.length = p.paramTypes.length := by
  obtain ⟨params, hparams, hcount⟩ := paramsOf_of_fits hlength hfits
  have hmarks : (args.map Value.isNull).map NullMark.isNull = args.map Value.isNull :=
    List.map_id _
  have hvalues : p.paramTypes.length ≤ args.length := Nat.le_of_eq hlength.symm
  have hnulls : p.paramTypes.length ≤ (args.map Value.isNull).length := by
    rw [List.length_map]
    exact hvalues
  unfold PreparedStatement.bind
  rw [bindValues_eq_paramsOf hvalues hnulls hresolved, hmarks, hparams]
  exact ⟨params, rfl, hcount⟩

/-! ## Prepared statements of reachable sessions -/

namespace Session

/-- What holds of a new session and is kept by every change holds of every session that calls can
lead to. -/
theorem Reachable.induction {P : Session → Prop} (hnew : ∀ config, P (new config))
    (hchange : ∀ s s', Change (fun _ => True) s s' → P s → P s') {s : Session} (h : s.Reachable) :
    P s := by
  obtain ⟨config, ops, rfl⟩ := h
  have hchanges : Changes (fun _ => True) (new config) ((new config).afterAll ops) :=
    (afterAll_changes (new config) ops).mono fun _ _ => trivial
  generalize (new config).afterAll ops = s at hchanges ⊢
  induction hchanges with
  | refl => exact hnew config
  | tail _ hstep ih => exact hchange _ _ hstep ih

/-- Every type of a parameter of a prepared statement is one that values have. -/
def IsResolved (s : Session) : Prop :=
  ∀ name p, s.statements.find? name = some p → ∀ t ∈ p.paramTypes, t.isResolved = true

/-- An analysis that succeeds leaves no type of a parameter open. -/
theorem resolved_of_analyze {catalog : Catalog} {before after : ParamTypes} {S : Statement}
    {d : Description} (h : analyze catalog before S = (.ok d, after)) :
    ∀ t ∈ after.types?.getD [], t.isResolved = true := by
  obtain ⟨s', -, -, hcheck⟩ := analyze_eq_ok.1 h
  have hopen := ParamTypes.check_eq_ok_iff.1 hcheck
  cases htypes : after.types? with
  | none => exact fun t ht => absurd ht List.not_mem_nil
  | some types => exact hopen types htypes

theorem IsResolved.change {s s' : Session} (h : s.IsResolved)
    (hchange : Change (fun _ => True) s s') : s'.IsResolved := by
  cases hchange with
  | create _ _ => exact h
  | prepare hprepare =>
    obtain ⟨-, d, params, hanalyze, rfl, rfl⟩ := prepare_eq_ok hprepare
    intro name p hp
    rw [NameMap.find?_insert] at hp
    split at hp
    · -- the new statement: its analysis ended with a check of the types
      cases hp
      exact resolved_of_analyze hanalyze
    · exact h name p hp
  | forget _ =>
    intro name p hp
    rw [NameMap.find?_erase] at hp
    split at hp
    · cases hp
    · exact h name p hp
  | forgetAll _ => exact fun name p hp => by cases hp

theorem Reachable.resolved {s : Session} (h : s.Reachable) : s.IsResolved :=
  h.induction (fun _ _ _ hp => by cases hp) fun _ _ hchange h => h.change hchange

/-- **What becomes of an execution.** With arguments that fit, a prepared statement is executed
unless its printed text does not fall into tokens or has a parameter that the analysis did not
count; then the error says so, with the first such number. -/
theorem execute_outcome {s : Session} (hs : s.Reachable) {name : String} {p : PreparedStatement}
    (hp : s.prepared name = .ok p) {args : List Value} (hlength : args.length = p.paramTypes.length)
    (hfits : ∀ typed ∈ p.paramTypes.zip args, typed.2.Fits typed.1) :
    (paramNumbers? p.statement.render = none →
        s.execute name args = .error (.param .unterminated))
      ∧ ∀ numbers, paramNumbers? p.statement.render = some numbers →
        (∀ n, firstBeyond? p.paramTypes.length numbers = some n →
            s.execute name args = .error (.param (.noSuchParameter n)))
          ∧ (firstBeyond? p.paramTypes.length numbers = none →
            ∃ e, s.execute name args = .ok e) := by
  have hresolved := hs.resolved name p (prepared_eq_ok.1 hp)
  obtain ⟨params, hbind, hcount⟩ := PreparedStatement.bind_of_fits hresolved hlength hfits
  -- the parameters are bound, so what is left is to put them into the text
  have hexecute : s.execute name args
      = ((substitute params p.statement.render).mapError .param).map
        fun sql => ⟨name, sql, paramRow params⟩ := by
    unfold execute
    simp only [hp, hlength, hbind, bind, Except.bind, ne_eq, not_true_eq_false, if_false]
    cases substitute params p.statement.render with
    | error e => rfl
    | ok sql => rfl
  obtain ⟨hunterminated, hscanned⟩ := substitute_outcome params p.statement.render
  rw [hexecute, ← hcount]
  constructor
  · intro hnone
    rw [hunterminated hnone]
    rfl
  · intro numbers hnumbers
    obtain ⟨hbeyond, hwithin⟩ := hscanned numbers hnumbers
    constructor
    · intro n hn
      rw [hbeyond n hn]
      rfl
    · intro hnone
      obtain ⟨sql, hsql⟩ := hwithin hnone
      rw [hsql]
      exact ⟨_, rfl⟩

/-- A session with a statement whose parameter stands in its output. -/
def withOutput : Session :=
  (new .default).afterAll [.run "PREPARE q AS SELECT $1::INT"]

/-- The parameter has the number 1, and there is one, so the statement is executed. -/
theorem execute_withOutput :
    withOutput.Reachable
      ∧ ∃ p, withOutput.prepared "q" = .ok p ∧ p.paramTypes = [.int]
        ∧ (∀ typed ∈ p.paramTypes.zip [Value.untypedNull], typed.2.Fits typed.1)
        ∧ paramNumbers? p.statement.render = some [1]
        ∧ ∃ e, withOutput.execute "q" [.untypedNull] = .ok e := by
  have hreachable : withOutput.Reachable := ⟨.default, _, rfl⟩
  have hfound : ∃ p, withOutput.statements.find? "q" = some p
      ∧ decide (p.paramTypes = [.int] ∧ paramNumbers? p.statement.render = some [1]) = true :=
    (Option.any_eq_true _ _).1 (by decide +kernel)
  obtain ⟨p, hp, hfacts⟩ := hfound
  obtain ⟨htypes, hnumbers⟩ := of_decide_eq_true hfacts
  have hprepared : withOutput.prepared "q" = .ok p := prepared_eq_ok.2 hp
  have hlength : [Value.untypedNull].length = p.paramTypes.length := by rw [htypes]; rfl
  have hfits : ∀ typed ∈ p.paramTypes.zip [Value.untypedNull], typed.2.Fits typed.1 := by
    rw [htypes]
    rintro typed hmem
    rw [List.mem_singleton.1 hmem]
    exact Or.inl rfl
  have hwithin : firstBeyond? p.paramTypes.length [1] = none := by rw [htypes]; rfl
  have hexecuted := ((execute_outcome hreachable hprepared hlength hfits).2 [1] hnumbers).2 hwithin
  exact ⟨hreachable, p, hprepared, htypes, hfits, hnumbers, hexecuted⟩

/-- The error of a call that fails. -/
def error? {α : Type} : Except SessionError α → Option SessionError
  | .ok _ => none
  | .error e => some e

theorem eq_error_of_error? {α : Type} {r : Except SessionError α} {e : SessionError}
    (h : error? r = some e) : r = .error e := by
  cases r with
  | ok a => cases h
  | error e' => rw [Option.some.inj h]

/-- A session with a parameter in a table that a `DELETE` uses, and with a quote in a text of
national characters. -/
def withPassedOver : Session :=
  (new .default).afterAll
    [.run "CREATE TABLE t (a INT); PREPARE q AS DELETE FROM t USING (SELECT $1::INT AS b) AS x",
      .run "PREPARE r AS SELECT N'it''s'"]

/-- Both statements are found to have no parameters, but they cannot be executed without arguments:
the first still has one, and the second is printed with a quote that has no end. -/
theorem execute_passedOver :
    withPassedOver.Reachable
      ∧ (∃ p, withPassedOver.prepared "q" = .ok p ∧ p.paramTypes = [])
      ∧ withPassedOver.execute "q" [] = .error (.param (.noSuchParameter 1))
      ∧ (∃ p, withPassedOver.prepared "r" = .ok p ∧ p.paramTypes = [])
      ∧ withPassedOver.execute "r" [] = .error (.param .unterminated) := by
  have hprepared (name : String)
      (h : (withPassedOver.statements.find? name).any (fun p => decide (p.paramTypes = []))) :
      ∃ p, withPassedOver.prepared name = .ok p ∧ p.paramTypes = [] := by
    obtain ⟨p, hp, htypes⟩ := (Option.any_eq_true _ _).1 h
    exact ⟨p, prepared_eq_ok.2 hp, of_decide_eq_true htypes⟩
  -- the facts that are computed are computed together, so the session is run only once
  have hcomputed :
      ((withPassedOver.statements.find? "q").any (fun p => decide (p.paramTypes = []))
        ∧ error? (withPassedOver.execute "q" []) = some (.param (.noSuchParameter 1)))
      ∧ (withPassedOver.statements.find? "r").any (fun p => decide (p.paramTypes = []))
        ∧ error? (withPassedOver.execute "r" []) = some (.param .unterminated) := by
    decide +kernel
  obtain ⟨⟨hq, hqRefused⟩, hr, hrRefused⟩ := hcomputed
  refine ⟨⟨.default, _, rfl⟩, ?_, ?_, ?_, ?_⟩
  · exact hprepared "q" hq
  · exact eq_error_of_error? hqRefused
  · exact hprepared "r" hr
  · exact eq_error_of_error? hrRefused

end Session

end Prepared
