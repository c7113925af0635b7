import Mathlib.Data.List.Forall2
import Mathlib.Data.Option.Basic
import Prepared.Proofs.Analysis.Agreement

/-!
# The numbers of tables do not matter

Every table gets a number when it is bound, and the columns that are found in it carry the number.
Nothing is decided by it: two states that are the same but for the numbers of their tables, and for
how many there have been, lead to the same names and types (`bindExpr_alike`). So whether an
expression can be typed does not depend on what has been bound before, as long as the same tables
are visible and the same is known of the parameters.

`Walk.Alike` relates two steps, the values of which may differ in these numbers; it holds of the
steps that look at tables, of the rules for single forms, and of everything that is put together
from them.
-/

namespace Prepared

open Sql BindM

/-! ## The same but for the numbers -/

/-- The same table under the same name. -/
structure Binding.Alike (b c : Binding) : Prop where
  name : b.name = c.name
  columns : b.columns = c.columns

/-- The same tables in the same order. -/
def Scope.Alike (s t : Scope) : Prop :=
  List.Forall₂ Binding.Alike s.bindings t.bindings

/-- The same tables are visible, and the same is known of the parameters. -/
structure WalkState.Alike {σ : Type} (s t : WalkState σ) : Prop where
  scopes : List.Forall₂ Scope.Alike s.scopes t.scopes
  params : s.params = t.params

/-- The same column of the same table. -/
def BoundColumn.Alike (c d : BoundColumn) : Prop :=
  { c with table := d.table } = d

/-- The same expression. -/
inductive BoundExpr.Alike : BoundExpr → BoundExpr → Prop
  | column {c d : BoundColumn} (h : c.Alike d) : Alike (.column c) (.column d)
  | same (e : BoundExpr) : Alike e e

/-- The same expressions. -/
abbrev BoundExpr.AllAlike : List BoundExpr → List BoundExpr → Prop :=
  List.Forall₂ Alike

/-- The same output. -/
structure BoundQuery.Alike (q r : BoundQuery) : Prop where
  names : q.names = r.names
  columns : BoundExpr.AllAlike q.columns r.columns

/-- A new level is the same for both, since it has no tables. -/
theorem Scope.Alike.refl (s : Scope) : s.Alike s :=
  List.forall₂_same.2 fun _ _ => ⟨rfl, rfl⟩

namespace BoundExpr.Alike

variable {e f : BoundExpr}

/-- A column is named after itself, without its table's number. -/
theorem name_eq (h : e.Alike f) : e.name = f.name := by
  cases h with
  | column h => rw [← h]; rfl
  | same => rfl

/-- The type belongs to the column, and not to the place where it was found. -/
theorem type_eq (h : e.Alike f) : e.type = f.type := by
  cases h with
  | column h => rw [← h]; rfl
  | same => rfl

/-- A column is no literal, with or without a number. -/
theorem isUntypedLiteral_eq (h : e.Alike f) : e.isUntypedLiteral = f.isUntypedLiteral := by
  cases h with
  | column h => rfl
  | same => rfl

end BoundExpr.Alike

/-- What unification sees of expressions is the same for both. -/
theorem BoundExpr.AllAlike.map_type_eq {es fs : List BoundExpr} (h : AllAlike es fs) :
    es.map BoundExpr.type = fs.map BoundExpr.type := by
  induction h with
  | nil => rfl
  | cons he _ ih => rw [List.map_cons, List.map_cons, he.type_eq, ih]

theorem BoundExpr.AllAlike.map_name_eq {es fs : List BoundExpr} (h : AllAlike es fs) :
    es.map BoundExpr.name = fs.map BoundExpr.name := by
  induction h with
  | nil => rfl
  | cons he _ ih => rw [List.map_cons, List.map_cons, he.name_eq, ih]

/-- **The common type is the same.** It is computed from types, once with and once without the
untyped literals. -/
theorem BoundExpr.AllAlike.unifiedType_eq {es fs : List BoundExpr} (h : AllAlike es fs)
    (default : Option SqlType) : unifiedType es default = unifiedType fs default := by
  have hfilter : AllAlike (es.filter fun e => !e.isUntypedLiteral)
      (fs.filter fun e => !e.isUntypedLiteral) :=
    List.rel_filter (fun e f hef => by simp only [hef.isUntypedLiteral_eq]) h
  unfold unifiedType commonType
  rw [h.map_type_eq, hfilter.map_type_eq]

/-- What a subquery shows of itself to the query around it. -/
theorem BoundQuery.Alike.types_eq {q r : BoundQuery} (h : q.Alike r) : q.types = r.types :=
  BoundExpr.AllAlike.map_type_eq h.columns

/-! ## Lookups -/

namespace Binding.Alike

variable {b c : Binding}

/-- Whether a table has a column is a matter of its columns. -/
theorem hasColumn_eq (h : b.Alike c) (name : String) : b.hasColumn name = c.hasColumn name := by
  unfold hasColumn position?
  rw [h.columns]

/-- The column is found at the same position with the same type; only the table's number is
another. -/
theorem bind_ok (h : b.Alike c) {name : String} {depth : Nat} {found : BoundColumn}
    (hfound : b.bind name depth = .ok found) :
    ∃ found', c.bind name depth = .ok found' ∧ found.Alike found' := by
  unfold Binding.bind at hfound ⊢
  rw [← h.columns]
  cases hlast : lastColumn? name b.columns with
  | none =>
    rw [hlast] at hfound
    cases hfound
  | some p =>
    rw [hlast] at hfound
    cases hfound
    exact ⟨_, rfl, rfl⟩

end Binding.Alike

namespace Scope.Alike

variable {s t : Scope}

theorem names_eq (h : s.Alike t) :
    s.bindings.map Binding.name = t.bindings.map Binding.name := by
  have hnames : List.Forall₂ (fun b c => b = c) (s.bindings.map Binding.name)
      (t.bindings.map Binding.name) := List.rel_map (fun b c hbc => hbc.name) h
  exact List.forall₂_eq_eq_eq ▸ hnames

theorem isEmpty_eq (h : s.Alike t) : s.isEmpty = t.isEmpty := by
  have hmap (bs : List Binding) : bs.isEmpty = (bs.map Binding.name).isEmpty := List.isEmpty_map.symm
  unfold isEmpty
  rw [hmap, hmap, h.names_eq]

theorem find? (h : s.Alike t) (name : String) :
    Option.Rel Binding.Alike (s.find? name) (t.find? name) := by
  have hfind {bs cs : List Binding} (hbs : List.Forall₂ Binding.Alike bs cs) :
      Option.Rel Binding.Alike (bs.find? (·.name = name)) (cs.find? (·.name = name)) := by
    induction hbs with
    | nil => exact .none
    | cons hb _ ih =>
      rw [List.find?_cons, List.find?_cons, hb.name]
      split
      · exact .some hb
      · exact ih
  exact hfind h

/-- The table that a column is looked up in. With the table's name it is the one of that name, and
without it the only one that has such a column. -/
theorem referent?_ok (h : s.Alike t) {table : Option String} {column : String}
    {found : Option Binding} (hfound : s.referent? table column = .ok found) :
    ∃ found', t.referent? table column = .ok found' ∧ Option.Rel Binding.Alike found found' := by
  unfold referent? at hfound ⊢
  cases table with
  | some table =>
    cases hfound
    exact ⟨_, rfl, h.find? table⟩
  | none =>
    unfold matching? at hfound ⊢
    have hfilter : List.Forall₂ Binding.Alike (s.bindings.filter (·.hasColumn column))
        (t.bindings.filter (·.hasColumn column)) :=
      List.rel_filter (fun b c hbc => by simp only [hbc.hasColumn_eq]) h
    generalize s.bindings.filter (·.hasColumn column) = bs at hfilter hfound
    generalize t.bindings.filter (·.hasColumn column) = cs at hfilter
    -- one table has the column, or none
    rcases hfilter with _ | ⟨hb, _ | ⟨hb', hrest⟩⟩
    · cases hfound
      exact ⟨_, rfl, .none⟩
    · cases hfound
      exact ⟨_, rfl, .some hb⟩
    · cases hfound

/-- A name that is free in one level is free in the other, so a table can be added to both. -/
theorem add_ok (h : s.Alike t) {b c : Binding} (hb : b.Alike c) {larger : Scope}
    (hadd : s.add b = .ok larger) : ∃ larger', t.add c = .ok larger' ∧ larger.Alike larger' := by
  unfold add at hadd ⊢
  split at hadd
  · cases hadd
  · rename_i hfresh
    cases hadd
    rw [dif_neg (by rw [← h.names_eq, ← hb.name]; exact hfresh)]
    exact ⟨_, rfl, List.rel_append h (.cons hb .nil)⟩

end Scope.Alike

/-- By induction on the query levels, from the innermost outwards: the two lookups leave each level
in the same way. -/
theorem findColumn_ok_of_alike {scopes scopes' : List Scope}
    (h : List.Forall₂ Scope.Alike scopes scopes') {table : Option String} {column : String}
    {depth : Nat} {found : BoundColumn} (hfound : findColumn table column depth scopes = .ok found) :
    ∃ found', findColumn table column depth scopes' = .ok found' ∧ found.Alike found' := by
  induction h generalizing depth with
  | nil => cases hfound
  | @cons s t outer outer' hs _ ih =>
    unfold findColumn at hfound ⊢
    cases hreferent : s.referent? table column with
    | error e =>
      rw [hreferent] at hfound
      cases hfound
    | ok referent =>
      obtain ⟨referent', hreferent', halike⟩ := hs.referent?_ok hreferent
      rw [hreferent] at hfound
      rw [hreferent']
      -- No table of this level is meant, and the search goes on; or one is, and its column is
      -- found.
      cases halike with
      | none => exact ih hfound
      | some hb => exact hb.bind_ok hfound

/-! ## Steps -/

variable {σ α β : Type}

/-- What the first step gives, the second gives as well, from every state that is the same but for
the numbers of tables; and so are the states that the two lead to. -/
def Walk.Alike (R : α → α → Prop) (x y : Walk σ α) : Prop :=
  ∀ s t, s.Alike t → ∀ a s', x s = (.ok a, s') →
    ∃ b t', y t = (.ok b, t') ∧ R a b ∧ s'.Alike t'

namespace Walk.Alike

variable {R : α → α → Prop} {S : β → β → Prop}

theorem pure {a b : α} (h : R a b) : Alike R (pure a : Walk σ α) (pure b) := by
  intro s t hst a' s' hrun
  cases hrun
  exact ⟨b, t, rfl, h, hst⟩

/-- Of a step that fails nothing is promised, so it is related to every other. -/
theorem throw (e : BindError) (y : Walk σ α) : Alike R (throw e : Walk σ α) y := by
  intro s t _ a s' hrun
  cases hrun

/-- What is known beforehand has no numbers in it. -/
theorem ofResult (r : Except BindError α) :
    Alike Eq (ofResult r : Walk σ α) (BindM.ofResult r) := by
  intro s t hst a s' hrun
  cases hrun
  exact ⟨a, t, rfl, rfl, hst⟩

theorem ofType (r : Except TypeError α) : Alike Eq (ofType r : Walk σ α) (BindM.ofType r) :=
  ofResult _

/-- Related values lead to related steps, which go on from the states that the first two left. -/
theorem bind {x y : Walk σ α} {f g : α → Walk σ β} (h : Alike R x y)
    (hf : ∀ a b, R a b → Alike S (f a) (g b)) : Alike S (x >>= f) (y >>= g) := by
  -- the first run is taken apart, and the second put together from what belongs to its halves
  intro s t hst c s'' hrun
  obtain ⟨a, s', hx, hfa⟩ := Walk.run_bind_ok hrun
  obtain ⟨b, t', hy, hab, hst'⟩ := h s t hst a s' hx
  rw [Walk.run_bind, hy]
  exact hf a b hab s' t' hst' c s'' hfa

/-- A value without numbers is the same for both. -/
theorem next {x y : Walk σ α} {f g : α → Walk σ β} (h : Alike Eq x y)
    (hf : ∀ a, Alike S (f a) (g a)) : Alike S (x >>= f) (y >>= g) :=
  h.bind fun a _ hab => hab ▸ hf a

/-- The levels are the same inside and, with one level less, outside. -/
theorem withScope {x y : Walk σ α} (h : Alike R x y) :
    Alike R (withScope x) (BindM.withScope y) := by
  intro s t hst a s' hrun
  obtain ⟨s₁, hx, rfl⟩ := Walk.run_withScope_ok hrun
  -- the two states with a new, empty level on top
  have hopen : WalkState.Alike { s with scopes := Scope.empty :: s.scopes }
      { t with scopes := Scope.empty :: t.scopes } :=
    ⟨.cons (.refl _) hst.scopes, hst.params⟩
  obtain ⟨b, t₁, hy, hab, hst₁⟩ := h _ _ hopen a s₁ hx
  unfold BindM.withScope
  rw [hy]
  exact ⟨b, _, rfl, hab, by simpa using List.forall₂_drop 1 hst₁.scopes, hst₁.params⟩

/-- The innermost levels are related as all the others are. -/
theorem currentScope : Alike Scope.Alike (currentScope : Walk σ Scope) BindM.currentScope := by
  intro s t hst scope s' hrun
  have hscopes := hst.scopes
  unfold BindM.currentScope at hrun ⊢
  generalize hs : s.scopes = scopes at hrun hscopes
  generalize t.scopes = scopes' at hscopes
  cases hscopes with
  | nil => cases hrun
  | cons hscope _ =>
    cases hrun
    exact ⟨_, t, rfl, hscope, hst⟩

/-- Two tables with the same name and columns are added, whatever their numbers. -/
theorem addBinding {b c : Binding} (hb : b.Alike c) :
    Alike Eq (addBinding b : Walk σ Unit) (BindM.addBinding c) := by
  intro s t hst u s' hrun
  have hscopes := hst.scopes
  unfold BindM.addBinding at hrun ⊢
  generalize hs : s.scopes = scopes at hrun hscopes
  generalize ht : t.scopes = scopes' at hscopes
  cases hscopes with
  | nil => cases hrun
  | @cons scope scope' outer outer' hscope houter =>
    cases hadd : scope.add b with
    | error e =>
      simp only [hadd] at hrun
      cases hrun
    | ok larger =>
      obtain ⟨larger', hadd', hlarger⟩ := hscope.add_ok hb hadd
      simp only [hadd] at hrun
      cases hrun
      refine ⟨(), { t with scopes := larger' :: outer' }, ?_, rfl, .cons hlarger houter, hst.params⟩
      simp only [hadd']

/-- The two numbers need not be the same; this is why the values of steps may differ. -/
theorem newTable : Alike (fun _ _ => True) (newTable : Walk σ Nat) BindM.newTable := by
  intro s t hst n s' hrun
  cases hrun
  exact ⟨t.tables + 1, { t with tables := t.tables + 1 }, rfl, trivial, hst.scopes, hst.params⟩

/-- Found columns differ in the number of their table and in nothing else. -/
theorem resolveColumn (table : Option String) (column : String) :
    Alike BoundColumn.Alike (resolveColumn table column : Walk σ BoundColumn)
      (BindM.resolveColumn table column) := by
  intro s t hst c s' hrun
  unfold BindM.resolveColumn at hrun ⊢
  obtain ⟨hfound, rfl⟩ := Prod.mk.inj hrun
  obtain ⟨d, hfound', hcd⟩ := findColumn_ok_of_alike hst.scopes hfound
  exact ⟨d, t, by rw [hfound'], hcd, hst⟩

/-- The hook's states are equal, so its answers are. -/
theorem ask (f : σ → Except BindError α × σ) :
    Alike Eq (ask f : Walk σ α) (BindM.ask f) := by
  intro s t hst a s' hrun
  unfold BindM.ask at hrun ⊢
  rw [← hst.params]
  rcases hf : f s.params with ⟨r, p⟩
  rw [hf] at hrun
  cases hrun
  exact ⟨a, _, rfl, rfl, hst.scopes, rfl⟩

end Walk.Alike

open Walk BoundExpr

variable [ParamHook σ]

/-! ## Coercion -/

omit [ParamHook σ] in
theorem castImplicitly_alike {e f : BoundExpr} (h : e.Alike f) (target : SqlType) :
    Walk.Alike BoundExpr.Alike (e.castImplicitly target : Walk σ _) (f.castImplicitly target) := by
  unfold castImplicitly
  rw [h.type_eq, h.name_eq]
  split
  · exact .pure (.same _)
  · exact .throw _ _

/-- A column is left alone or cast; everything else is the same expression on both sides. -/
theorem coerce_alike {e f : BoundExpr} (h : e.Alike f) (target : SqlType) :
    Walk.Alike BoundExpr.Alike (e.coerce target : Walk σ _) (f.coerce target) := by
  cases h with
  | @column c d hcd =>
    have htype : c.type = d.type := (BoundExpr.Alike.column hcd).type_eq
    unfold coerce
    rw [show (BoundExpr.column c).type = (BoundExpr.column d).type from htype]
    split
    · exact .pure (.column hcd)
    · exact castImplicitly_alike (.column hcd) target
  | same =>
    unfold coerce
    split
    · exact .pure (.same _)
    · split
      · exact (Walk.Alike.ask _).next fun _ => .pure (.same _)
      · split
        · exact (Walk.Alike.ofType _).next fun _ => .pure (.same _)
        · exact castImplicitly_alike (.same _) target
      · exact castImplicitly_alike (.same _) target

theorem coerceUnknown_alike {e f : BoundExpr} (h : e.Alike f) (target : SqlType) :
    Walk.Alike BoundExpr.Alike (e.coerceUnknown target : Walk σ _) (f.coerceUnknown target) := by
  unfold coerceUnknown
  rw [h.type_eq]
  split
  · exact coerce_alike h target
  · exact .pure h

/-- By induction on the two lists of expressions. -/
theorem coerceAll_alike {es fs : List BoundExpr} (h : AllAlike es fs) (target : SqlType) :
    Walk.Alike AllAlike (coerceAll target es : Walk σ _) (coerceAll target fs) := by
  induction h with
  | nil => exact .pure .nil
  | cons he _ ih =>
    unfold coerceAll
    exact (coerce_alike he target).bind fun _ _ he => ih.bind fun _ _ hes => .pure (.cons he hes)

theorem coerceEach_alike {es fs : List BoundExpr} (h : AllAlike es fs) (ts : List SqlType) :
    Walk.Alike AllAlike (coerceEach es ts : Walk σ _) (coerceEach fs ts) := by
  induction h generalizing ts with
  | nil => exact .pure .nil
  | cons he _ ih =>
    cases ts with
    | nil => exact .pure .nil
    | cons t ts =>
      unfold coerceEach
      exact (coerce_alike he t).bind fun _ _ he => (ih ts).bind fun _ _ hes =>
        .pure (.cons he hes)

/-- The common type is the same on both sides, and both coerce to it. -/
theorem unify_alike {es fs : List BoundExpr} (h : AllAlike es fs) (default : Option SqlType) :
    Walk.Alike (fun r r' => AllAlike r.1 r'.1 ∧ r.2 = r'.2) (unify es default : Walk σ _)
      (unify fs default) := by
  unfold unify
  rw [h.unifiedType_eq default]
  refine (Walk.Alike.ofType _).next fun common => ?_
  cases common with
  | none => exact .pure ⟨h, rfl⟩
  | some c => exact (coerceAll_alike h c).bind fun _ _ hes => .pure ⟨hes, rfl⟩

/-! ## Rules for single forms -/

omit [ParamHook σ] in
/-- Where a number gets into an expression. -/
theorem bindColumnRef_alike (parts : List Ident) :
    Walk.Alike BoundExpr.Alike (bindColumnRef parts : Walk σ _) (bindColumnRef parts) := by
  unfold bindColumnRef
  split
  · exact (Walk.Alike.resolveColumn _ _).bind fun _ _ hcd => .pure (.column hcd)
  · exact (Walk.Alike.resolveColumn _ _).bind fun _ _ hcd => .pure (.column hcd)
  · exact .throw _ _

/-- Literals and parameters have no numbers. -/
theorem bindLiteral_alike (l : Literal) :
    Walk.Alike BoundExpr.Alike (bindLiteral l : Walk σ _) (bindLiteral l) := by
  unfold bindLiteral
  split
  · split
    · exact (Walk.Alike.ask _).next fun _ => .pure (.same _)
    · exact .throw _ _
  · exact (Walk.Alike.ofType _).next fun _ => .pure (.same _)

/-- A column is cast when it is run, so it is no longer a column afterwards. -/
theorem bindCast_alike (name : String) (target : SqlType) {e f : BoundExpr} (h : e.Alike f) :
    Walk.Alike BoundExpr.Alike (bindCast name target e : Walk σ _) (bindCast name target f) := by
  unfold bindCast
  rw [h.type_eq]
  split
  · exact coerce_alike h target
  · split
    · exact .pure h
    · cases h with
      | column => exact .pure (.same _)
      | same =>
        split
        · exact (Walk.Alike.ofType _).next fun _ => .pure (.same _)
        · exact .pure (.same _)

/-- The result is the same predicate, whatever the operands were. -/
theorem bindComparison_alike (name : String) {es fs : List BoundExpr} (h : AllAlike es fs) :
    Walk.Alike BoundExpr.Alike (bindComparison name es : Walk σ _) (bindComparison name fs) :=
  (unify_alike h _).bind fun _ _ _ => .pure (.same _)

/-- The result has the common type, which is the same for both. -/
theorem bindBranches_alike (name : String) {es fs : List BoundExpr} (h : AllAlike es fs) :
    Walk.Alike BoundExpr.Alike (bindBranches name es : Walk σ _) (bindBranches name fs) := by
  refine (unify_alike h _).bind fun _ _ hunified => ?_
  dsimp only
  rw [hunified.2]
  exact .pure (.same _)

theorem bindArithmetic_alike (name : String) (op : BinaryOp) {l l' r r' : BoundExpr}
    (hl : l.Alike l') (hr : r.Alike r') :
    Walk.Alike BoundExpr.Alike (bindArithmetic name op l r : Walk σ _)
      (bindArithmetic name op l' r') := by
  refine (unify_alike (.cons hl (.cons hr .nil)) none).bind fun _ _ hunified => ?_
  dsimp only
  rw [hunified.2]
  split
  · exact .throw _ _
  · exact .pure (.same _)

theorem bindConnective_alike (name : String) {l l' r r' : BoundExpr} (hl : l.Alike l')
    (hr : r.Alike r') :
    Walk.Alike BoundExpr.Alike (bindConnective name l r : Walk σ _) (bindConnective name l' r') :=
  (coerce_alike hl _).bind fun _ _ _ => (coerce_alike hr _).bind fun _ _ _ => .pure (.same _)

theorem bindConcat_alike (name : String) {l l' r r' : BoundExpr} (hl : l.Alike l')
    (hr : r.Alike r') :
    Walk.Alike BoundExpr.Alike (bindConcat name l r : Walk σ _) (bindConcat name l' r') :=
  (coerceUnknown_alike hl _).bind fun _ _ _ =>
    (coerceUnknown_alike hr _).bind fun _ _ _ => .pure (.same _)

/-- One case for each family of operators. -/
theorem bindBinary_alike (name : String) (op : BinaryOp) {l l' r r' : BoundExpr} (hl : l.Alike l')
    (hr : r.Alike r') :
    Walk.Alike BoundExpr.Alike (bindBinary name op l r : Walk σ _) (bindBinary name op l' r') := by
  cases op with
  | eq | notEq | lt | ltEq | gt | gtEq => exact bindComparison_alike name (.cons hl (.cons hr .nil))
  | plus | minus | multiply | divide | modulo => exact bindArithmetic_alike name _ hl hr
  | and | or => exact bindConnective_alike name hl hr
  | concat => exact bindConcat_alike name hl hr
  | other | custom => exact .throw _ _

/-- `NOT` coerces its operand, and a sign reads its type. -/
theorem bindUnary_alike (name : String) (op : UnaryOp) {e f : BoundExpr} (h : e.Alike f) :
    Walk.Alike BoundExpr.Alike (bindUnary name op e : Walk σ _) (bindUnary name op f) := by
  have hsign (op : UnaryOp) :
      Walk.Alike BoundExpr.Alike (bindSign name op e : Walk σ _) (bindSign name op f) := by
    unfold bindSign
    rw [h.type_eq]
    split
    · exact .throw _ _
    · exact .pure (.same _)
  cases op with
  | not => exact (coerce_alike h _).bind fun _ _ _ => .pure (.same _)
  | plus | minus => exact hsign _
  | factorial | other => exact .throw _ _

/-! ## Outputs of queries -/

omit [ParamHook σ] in
/-- Two outputs that are alike have the same number of columns. -/
theorem singleColumn_alike {q r : BoundQuery} (h : q.Alike r) :
    Walk.Alike BoundExpr.Alike (singleColumn q : Walk σ _) (singleColumn r) := by
  have hcolumns := h.columns
  unfold singleColumn
  generalize q.columns = es at hcolumns
  generalize r.columns = fs at hcolumns
  cases hcolumns with
  | nil => exact .throw _ _
  | cons he hrest =>
    cases hrest with
    | nil => exact .pure he
    | cons => exact .throw _ _

theorem firstUnified_alike {es fs : List BoundExpr} (h : AllAlike es fs) :
    Walk.Alike AllAlike (firstUnified es : Walk σ _) (firstUnified fs) :=
  (unify_alike h _).bind fun _ _ hunified => .pure (List.forall₂_take 1 hunified.1)

/-- By induction on the left columns, pair by pair. -/
theorem combineColumns_alike {ls ls' rs rs' : List BoundExpr} (hl : AllAlike ls ls')
    (hr : AllAlike rs rs') :
    Walk.Alike AllAlike (combineColumns ls rs : Walk σ _) (combineColumns ls' rs') := by
  induction hl generalizing rs rs' with
  | nil => exact .pure .nil
  | cons hl _ ih =>
    cases hr with
    | nil => exact .pure .nil
    | cons hr hrs =>
      unfold combineColumns
      refine (firstUnified_alike (.cons hl (.cons hr .nil))).bind fun _ _ hfirst => ?_
      exact (ih hrs).bind fun _ _ hrest => .pure (List.rel_append hfirst hrest)

/-- The names come from the left side, and so do the refusals. -/
theorem combineQueries_alike {l l' r r' : BoundQuery} (hl : l.Alike l') (hr : r.Alike r') :
    Walk.Alike BoundQuery.Alike (combineQueries l r : Walk σ _) (combineQueries l' r') := by
  unfold combineQueries
  rw [hl.columns.length_eq, hr.columns.length_eq, hl.names]
  split
  · exact .throw _ _
  · exact (combineColumns_alike hl.columns hr.columns).bind fun _ _ h => .pure ⟨rfl, h⟩

/-- Rows that are alike have columns that are alike: the cell of each row at one position. -/
theorem columnsOf_alike {rows rows' : List (List BoundExpr)} (h : List.Forall₂ AllAlike rows rows')
    (width : Nat) : List.Forall₂ AllAlike (columnsOf width rows) (columnsOf width rows') := by
  -- by induction on the two rows at once: they have a cell at the same positions
  have hcell (i : Nat) : AllAlike (rows.filterMap (·[i]?)) (rows'.filterMap (·[i]?)) := by
    refine List.rel_filterMap (fun row row' hrow => ?_) h
    induction hrow generalizing i with
    | nil => exact .none
    | cons he _ ih =>
      cases i with
      | zero => exact .some he
      | succ i => exact ih i
  exact List.forall₂_map_left_iff.2 (List.forall₂_map_right_iff.2
    (List.forall₂_same.2 fun i _ => hcell i))

theorem unifyColumns_alike {columns columns' : List (List BoundExpr)}
    (h : List.Forall₂ AllAlike columns columns') (expected : Option (List SqlType)) :
    Walk.Alike AllAlike (unifyColumns columns expected : Walk σ _)
      (unifyColumns columns' expected) := by
  induction h generalizing expected with
  | nil =>
    unfold unifyColumns
    exact .pure .nil
  | @cons column column' columns columns' hcolumn _ ih =>
    have hunify (expected : Option (List SqlType)) :
        Walk.Alike AllAlike
          (do return (← firstUnified column) ++ (← unifyColumns columns expected) : Walk σ _)
          (do return (← firstUnified column') ++ (← unifyColumns columns' expected)) :=
      (firstUnified_alike hcolumn).bind fun _ _ hfirst =>
        (ih expected).bind fun _ _ hrest => .pure (List.rel_append hfirst hrest)
    rcases expected with _ | _ | ⟨t, ts⟩
    · exact hunify none
    · exact hunify (some [])
    · unfold unifyColumns
      refine (coerceAll_alike hcolumn t).bind fun _ _ hes => ?_
      exact (ih (some ts)).bind fun _ _ hrest =>
        .pure (List.rel_append (List.forall₂_take 1 hes) hrest)

omit [ParamHook σ] in
theorem checkWidth_alike (expected : Option (List SqlType)) (width : Nat) :
    Walk.Alike Eq (checkWidth expected width : Walk σ Unit) (checkWidth expected width) := by
  unfold checkWidth
  split
  · split
    · exact .pure rfl
    · exact .throw _ _
  · exact .pure rfl

/-- The wanted types are compared with a number of columns that both share. -/
theorem fitOutput_alike (expected : Option (List SqlType)) {es fs : List BoundExpr}
    (h : AllAlike es fs) :
    Walk.Alike AllAlike (fitOutput expected es : Walk σ _) (fitOutput expected fs) := by
  unfold fitOutput
  rw [h.length_eq]
  refine (checkWidth_alike expected _).next fun _ => ?_
  cases expected with
  | none => exact .pure h
  | some types => exact coerceEach_alike h types

omit [ParamHook σ] in
theorem starColumns_alike (table : String) (columns : List Column) :
    Walk.Alike AllAlike (starColumns table columns : Walk σ _) (starColumns table columns) := by
  induction columns with
  | nil => exact .pure .nil
  | cons c cs ih =>
    unfold starColumns
    exact (Walk.Alike.resolveColumn _ _).bind fun _ _ hcd => ih.bind fun _ _ hrest =>
      .pure (.cons (.column hcd) hrest)

omit [ParamHook σ] in
/-- By induction on the tables of the level, by whose names the columns are looked up again. -/
theorem starBindings_alike {bs cs : List Binding} (h : List.Forall₂ Binding.Alike bs cs) :
    Walk.Alike AllAlike (starBindings bs : Walk σ _) (starBindings cs) := by
  induction h with
  | nil => exact .pure .nil
  | cons hb _ ih =>
    unfold starBindings
    rw [hb.name, hb.columns]
    exact (starColumns_alike _ _).bind fun _ _ hfirst => ih.bind fun _ _ hrest =>
      .pure (List.rel_append hfirst hrest)

omit [ParamHook σ] in
/-- A wildcard is expanded over levels with the same names and columns. -/
theorem bindStar_alike (table : Option ObjectName) :
    Walk.Alike AllAlike (bindStar table : Walk σ _) (bindStar table) := by
  unfold bindStar
  cases table with
  | none =>
    refine Walk.Alike.currentScope.bind fun scope scope' hscope => ?_
    rw [hscope.isEmpty_eq]
    split
    · exact .throw _ _
    · exact starBindings_alike hscope
  | some table =>
    refine (Walk.Alike.ofResult _).next fun name => ?_
    refine Walk.Alike.currentScope.bind fun scope scope' hscope => ?_
    have hfound := hscope.find? name
    generalize scope.find? name = found at hfound
    generalize scope'.find? name = found' at hfound
    cases hfound with
    | none => exact .throw _ _
    | some hb => exact starBindings_alike (.cons hb .nil)

/-- The outputs of a list of items, one after the other. -/
theorem append_alike {q q' r r' : BoundQuery} (hq : q.Alike q') (hr : r.Alike r') :
    (q.append r).Alike (q'.append r') :=
  ⟨by rw [BoundQuery.append, BoundQuery.append, hq.names, hr.names],
    List.rel_append hq.columns hr.columns⟩

theorem underOwnNames_alike {es fs : List BoundExpr} (h : AllAlike es fs) :
    (underOwnNames es).Alike (underOwnNames fs) :=
  ⟨h.map_name_eq, h⟩

omit [ParamHook σ] in
/-- The table gets a number on each side, and they may be two different ones. -/
theorem bindTable_alike (catalog : Catalog) (name : ObjectName) (label : Option TableAlias) :
    Walk.Alike Eq (bindTable catalog name label : Walk σ Unit) (bindTable catalog name label) := by
  unfold bindTable
  refine (Walk.Alike.ofResult _).next fun name => ?_
  refine (Walk.Alike.ofResult _).next fun table => ?_
  exact Walk.Alike.newTable.bind fun _ _ _ => .addBinding ⟨rfl, rfl⟩

omit [ParamHook σ] in
/-- A subquery becomes a table with the names and types that both sides gave it. -/
theorem bindDerived_alike {q r : BoundQuery} (h : q.Alike r) (label : TableAlias) :
    Walk.Alike Eq (bindDerived q label : Walk σ Unit) (bindDerived r label) := by
  unfold bindDerived
  rw [h.names, h.types_eq]
  exact Walk.Alike.newTable.bind fun _ _ _ => .addBinding ⟨rfl, rfl⟩

/-! ## Expressions, queries and tables -/

section

variable (catalog : Catalog)

-- On the syntax, all its kinds at once. Both sides bind the same part, so only what was bound
-- before can differ, and that is alike.
mutual

/-- **An expression.** -/
theorem bindExpr_alike : (e : Expr) →
    Walk.Alike BoundExpr.Alike (bindExpr catalog e : Walk σ _) (bindExpr catalog e)
  | .column _ | .qualified _ => by
    unfold bindExpr
    exact bindColumnRef_alike _
  | .literal l => by
    unfold bindExpr
    exact bindLiteral_alike l
  | .typed _ _ => by
    unfold bindExpr
    exact (Walk.Alike.ofType _).next fun _ => (Walk.Alike.ofType _).next fun _ => .pure (.same _)
  | .cast operand _ => by
    unfold bindExpr
    exact (Walk.Alike.ofType _).next fun _ => (bindExpr_alike operand).bind fun _ _ he =>
      bindCast_alike _ _ he
  | .nested operand => by
    unfold bindExpr
    exact bindExpr_alike operand
  | .binary _ left right => by
    unfold bindExpr
    exact (bindExpr_alike left).bind fun _ _ hl => (bindExpr_alike right).bind fun _ _ hr =>
      bindBinary_alike _ _ hl hr
  | .unary _ operand => by
    unfold bindExpr
    exact (bindExpr_alike operand).bind fun _ _ he => bindUnary_alike _ _ he
  | .isNull operand _ => by
    unfold bindExpr
    exact (bindExpr_alike operand).bind fun _ _ _ => .pure (.same _)
  | .inList operand items _ => by
    unfold bindExpr
    exact (bindExpr_alike operand).bind fun _ _ he => (bindExprs_alike items).bind fun _ _ hes =>
      bindComparison_alike _ (.cons he hes)
  | .inQuery operand query _ => by
    unfold bindExpr
    exact (bindExpr_alike operand).bind fun _ _ he => (bindQuery_alike none query).bind fun _ _ hq =>
      (singleColumn_alike hq).bind fun _ _ hc => bindComparison_alike _ (.cons he (.cons hc .nil))
  | .between operand low high _ => by
    unfold bindExpr
    exact (bindExpr_alike operand).bind fun _ _ he => (bindExpr_alike low).bind fun _ _ hl =>
      (bindExpr_alike high).bind fun _ _ hh =>
        bindComparison_alike _ (.cons he (.cons hl (.cons hh .nil)))
  | .like _ operand pattern _ _ => by
    unfold bindExpr
    exact (bindExpr_alike operand).bind fun _ _ he => (coerce_alike he _).bind fun _ _ _ =>
      (bindExpr_alike pattern).bind fun _ _ hp => (coerce_alike hp _).bind fun _ _ _ =>
        .pure (.same _)
  | .case none conditions results otherwise => by
    unfold bindExpr
    exact (bindConditions_alike conditions).next fun _ =>
      (bindExprs_alike results).bind fun _ _ hbranches =>
        (bindOption_alike otherwise).bind fun _ _ hlast =>
          bindBranches_alike _ (List.rel_append hbranches hlast)
  | .case (some operand) conditions results otherwise => by
    unfold bindExpr
    exact (bindExpr_alike operand).bind fun _ _ he => (bindExprs_alike conditions).bind fun _ _ hes =>
      (unify_alike (.cons he hes) _).bind fun _ _ _ =>
        (bindExprs_alike results).bind fun _ _ hbranches =>
          (bindOption_alike otherwise).bind fun _ _ hlast =>
            bindBranches_alike _ (List.rel_append hbranches hlast)
  | .exists query _ => by
    unfold bindExpr
    exact (bindQuery_alike none query).bind fun _ _ _ => .pure (.same _)
  | .subquery query => by
    unfold bindExpr
    refine (bindQuery_alike none query).bind fun _ _ hq => (singleColumn_alike hq).bind fun _ _ hc => ?_
    rw [hc.type_eq]
    exact .pure (.same _)
  | .arrayOf _ | .form _ _ => by
    unfold bindExpr
    exact .throw _ _

theorem bindExprs_alike : (es : List Expr) →
    Walk.Alike AllAlike (bindExprs catalog es : Walk σ _) (bindExprs catalog es)
  | [] => by
    unfold bindExprs
    exact .pure .nil
  | e :: es => by
    unfold bindExprs
    exact (bindExpr_alike e).bind fun _ _ he => (bindExprs_alike es).bind fun _ _ hes =>
      .pure (.cons he hes)

theorem bindOption_alike : (e : Option Expr) →
    Walk.Alike (fun b c => AllAlike b.toList c.toList) (bindOption catalog e : Walk σ _)
      (bindOption catalog e)
  | none => by
    unfold bindOption
    exact .pure .nil
  | some e => by
    unfold bindOption
    exact (bindExpr_alike e).bind fun _ _ he => .pure (.cons he .nil)

/-- Conditions give nothing but their effect on the state. -/
theorem bindConditions_alike : (es : List Expr) →
    Walk.Alike Eq (bindConditions catalog es : Walk σ _) (bindConditions catalog es)
  | [] => by
    unfold bindConditions
    exact .pure rfl
  | e :: es => by
    unfold bindConditions
    exact (bindExpr_alike e).bind fun _ _ he => (coerce_alike he _).bind fun _ _ _ =>
      bindConditions_alike es

theorem bindCondition_alike : (e : Option Expr) →
    Walk.Alike Eq (bindCondition catalog e : Walk σ _) (bindCondition catalog e)
  | none => by
    unfold bindCondition
    exact .pure rfl
  | some e => by
    unfold bindCondition
    exact (bindExpr_alike e).bind fun _ _ he => (coerce_alike he _).bind fun _ _ _ => .pure rfl

theorem bindCount_alike : (e : Option Expr) →
    Walk.Alike Eq (bindCount catalog e : Walk σ _) (bindCount catalog e)
  | none => by
    unfold bindCount
    exact .pure rfl
  | some e => by
    unfold bindCount
    exact (bindExpr_alike e).bind fun _ _ he => (coerce_alike he _).bind fun _ _ _ => .pure rfl

/-- Rows are related cell by cell. -/
theorem bindRows_alike (width : Nat) : (rows : List (List Expr)) →
    Walk.Alike (List.Forall₂ AllAlike) (bindRows catalog width rows : Walk σ _)
      (bindRows catalog width rows)
  | [] => by
    unfold bindRows
    exact .pure .nil
  | row :: rows => by
    unfold bindRows
    split
    · exact .throw _ _
    · exact (bindExprs_alike row).bind fun _ _ hrow => (bindRows_alike width rows).bind
        fun _ _ hrows => .pure (.cons hrow hrows)

/-- The order is bound under the output names, which are the same for both. -/
theorem bindQuery_alike (expected : Option (List SqlType)) : (q : Query) →
    Walk.Alike BoundQuery.Alike (bindQuery catalog expected q : Walk σ _)
      (bindQuery catalog expected q)
  | .mk _ _ body orderBy limit offset _ _ _ => by
    unfold bindQuery
    split
    · exact .throw _ _
    · refine .withScope ((bindBody_alike false expected body).bind fun q r hq => ?_)
      rw [hq.names]
      exact (bindOrder_alike r.names orderBy).next fun _ => (bindCount_alike limit).next fun _ =>
        (bindCount_alike offset).next fun _ => .pure hq

/-- Clause by clause in the order of binding; a combined `SELECT` opens a level around the same
steps. -/
theorem bindBody_alike (combined : Bool) (expected : Option (List SqlType)) : (b : Body) →
    Walk.Alike BoundQuery.Alike (bindBody catalog combined expected b : Walk σ _)
      (bindBody catalog combined expected b)
  | .select _ items tables condition groupBy having _ => by
    have hselect : Walk.Alike BoundQuery.Alike
        (do
          bindTables catalog tables
          bindCondition catalog condition
          let _ ← bindExprs catalog groupBy
          bindCondition catalog having
          let output ← bindItems catalog items
          return ⟨output.names, ← fitOutput expected output.columns⟩ : Walk σ BoundQuery)
        (do
          bindTables catalog tables
          bindCondition catalog condition
          let _ ← bindExprs catalog groupBy
          bindCondition catalog having
          let output ← bindItems catalog items
          return ⟨output.names, ← fitOutput expected output.columns⟩) := by
      refine (bindTables_alike tables).next fun _ => (bindCondition_alike condition).next fun _ => ?_
      refine (bindExprs_alike groupBy).bind fun _ _ _ => (bindCondition_alike having).next fun _ => ?_
      refine (bindItems_alike items).bind fun q r hq => ?_
      rw [hq.names]
      exact (fitOutput_alike expected hq.columns).bind fun _ _ h => .pure ⟨rfl, h⟩
    unfold bindBody
    cases combined with
    | true => exact .withScope hselect
    | false => exact hselect
  | .query query => by
    unfold bindBody
    exact bindQuery_alike expected query
  | .operation _ _ left right => by
    unfold bindBody
    exact (bindBody_alike true expected left).bind fun _ _ hl =>
      (bindBody_alike true expected right).bind fun _ _ hr => combineQueries_alike hl hr
  | .values _ rows => by
    unfold bindBody
    refine (checkWidth_alike expected _).next fun _ => (bindRows_alike _ rows).bind fun _ _ hrows => ?_
    exact (unifyColumns_alike (columnsOf_alike hrows _) expected).bind fun _ _ h => .pure ⟨rfl, h⟩
  | .other _ _ => by
    unfold bindBody
    exact .throw _ _

/-- The outputs of the items are appended, and stay related. -/
theorem bindItems_alike : (items : List SelectItem) →
    Walk.Alike BoundQuery.Alike (bindItems catalog items : Walk σ _) (bindItems catalog items)
  | [] => by
    unfold bindItems
    exact .pure ⟨rfl, .nil⟩
  | .unnamed value :: items => by
    unfold bindItems
    exact (bindExpr_alike value).bind fun _ _ he => (bindItems_alike items).bind fun _ _ hq =>
      .pure (append_alike (underOwnNames_alike (.cons he .nil)) hq)
  | .named value name :: items => by
    unfold bindItems
    exact (bindExpr_alike value).bind fun _ _ he => (bindItems_alike items).bind fun _ _ hq =>
      .pure (append_alike ⟨rfl, .cons he .nil⟩ hq)
  | .wildcard :: items | .qualifiedWildcard _ :: items => by
    unfold bindItems
    exact (bindStar_alike _).bind fun _ _ hes => (bindItems_alike items).bind fun _ _ hq =>
      .pure (append_alike (underOwnNames_alike hes) hq)

theorem bindOrder_alike (names : List String) : (items : List OrderItem) →
    Walk.Alike Eq (bindOrder catalog names items : Walk σ _) (bindOrder catalog names items)
  | [] => by
    unfold bindOrder
    exact .pure rfl
  | .mk value _ :: items => by
    unfold bindOrder
    split
    · exact (bindExpr_alike value).bind fun _ _ _ => bindOrder_alike names items
    · exact bindOrder_alike names items

/-- The tables of a `FROM` are added to both levels. -/
theorem bindTableRef_alike : (t : TableRef) →
    Walk.Alike Eq (bindTableRef catalog t : Walk σ _) (bindTableRef catalog t)
  | .table name _ _ label _ => by
    unfold bindTableRef
    exact bindTable_alike catalog name label
  | .derived _ query none => by
    unfold bindTableRef
    exact .throw _ _
  | .derived _ query (some label) => by
    unfold bindTableRef
    exact (bindQuery_alike none query).bind fun _ _ hq => bindDerived_alike hq label
  | .function _ _ | .nested _ _ => by
    unfold bindTableRef
    exact .throw _ _
  | .join left _ right _ condition => by
    unfold bindTableRef
    refine (bindTableRef_alike left).next fun _ => (bindTableRef_alike right).next fun _ => ?_
    split
    · exact bindCondition_alike condition
    · exact .throw _ _

theorem bindTables_alike : (ts : List TableRef) →
    Walk.Alike Eq (bindTables catalog ts : Walk σ _) (bindTables catalog ts)
  | [] => by
    unfold bindTables
    exact .pure rfl
  | t :: ts => by
    unfold bindTables
    exact (bindTableRef_alike t).next fun _ => bindTables_alike ts

end

end

end Prepared
