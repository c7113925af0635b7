import Prepared.Proofs.Analysis.Agreement
import Prepared.Proofs.Param.Forward

/-!
# What the analysis asks about parameters

`Traced` is a hook together with all the questions that it has been asked. Tracing changes nothing
(`analyzeAll_movesForward`, its first two parts), so the trace of an analysis tells what its hook
goes through: each answer, and what is known of the parameters after it.

For the hook that finds types the trace shows that parameters only move forward, and that no answer
is taken back. The invariant is `Traced.MovesForward`, and one question preserves it
(`MovesForward.record`).
-/

namespace Prepared

open Sql BindM

/-! ## Hooks that remember -/

/-- A question about a parameter with its answer. -/
structure HookCall (σ : Type) where
  number : Nat
  /-- The type that is wanted. A mere reference wants none. -/
  target : Option SqlType
  answer : Except BindError SqlType
  /-- The state of the hook after the answer. -/
  after : σ

/-- A hook and the questions that it has been asked, the last one first. -/
structure Traced (σ : Type) where
  hook : σ
  calls : List (HookCall σ)

namespace Traced

variable {σ : Type}

/-- Puts a question and its answer on record. -/
def record (t : Traced σ) (number : Nat) (target : Option SqlType)
    (answered : Except BindError SqlType × σ) : Except BindError SqlType × Traced σ :=
  (answered.1, ⟨answered.2, ⟨number, target, answered.1, answered.2⟩ :: t.calls⟩)

instance [ParamHook σ] : ParamHook (Traced σ) where
  refer number t := t.record number none (ParamHook.refer number t.hook)
  settle number target t := t.record number (some target) (ParamHook.settle number target t.hook)
  check t := ParamHook.check t.hook

end Traced

/-! ## Moving forward -/

/-- The types of the parameters, if there are any. -/
def ParamTypes.slots (p : ParamTypes) : List SqlType :=
  p.types?.getD []

namespace Traced

/-- The types of the parameters after every question, the last one first, and the types that were
declared at the end. -/
def history (declared : List SqlType) (t : Traced ParamTypes) : List (List SqlType) :=
  t.calls.map (·.after.slots) ++ [declared]

/-- **Parameters move forward.** What holds of a hook that finds types, from the declared ones on
and with the given limit, whatever it has been asked. -/
structure MovesForward (declared : List SqlType) (limit : Nat) (t : Traced ParamTypes) : Prop where
  /-- The hook still finds types, and the last types on record are those that it knows. -/
  current : ∃ types, t.hook = .inferred types limit ∧ (t.history declared).head? = some types
  /-- There are never more parameters than are allowed or declared. -/
  bounded : ∀ types ∈ t.history declared, types.length ≤ max declared.length limit
  /-- Of any two lists of types, the later one is at least as long, and each parameter has stayed,
  has been referred to for the first time, or has got a type. -/
  forward : (t.history declared).Pairwise fun later earlier => SlotsForward earlier later
  /-- Every type that is answered is undecided, or the type of the parameter from then on. -/
  answered : ∀ later call earlier, t.calls = later ++ call :: earlier →
    ∀ type, call.answer = .ok type → type = .unknown ∨ type.isResolved = true
      ∧ ∀ c ∈ later ++ [call], ParamTypes.slot? c.after.slots call.number = some type
  /-- A type is never wanted for a parameter that there is none of. -/
  settled : ∀ call ∈ t.calls, call.target.isSome = true →
    ∀ n, call.answer ≠ .error (.noSuchParameter n)

variable {declared : List SqlType} {limit : Nat} {t : Traced ParamTypes}

/-- Nothing has been asked yet. -/
theorem movesForward_nil (declared : List SqlType) (limit : Nat) :
    MovesForward declared limit ⟨.inferred declared limit, []⟩ where
  current := ⟨declared, rfl, rfl⟩
  bounded := by
    intro types h
    rw [List.mem_singleton.1 h]
    exact Nat.le_max_left _ _
  forward := List.pairwise_singleton _ _
  answered := by
    intro later call earlier h
    cases later <;> cases h
  settled := fun _ h => absurd h List.not_mem_nil

/-- **One question.** If the types after the answer are further than those before, the answer is
refused, undecided or the type of the parameter now, and a wanted type is not refused for lack of the
parameter, then the invariant is kept. -/
theorem MovesForward.record (h : t.MovesForward declared limit) {types types' : List SqlType}
    (hhook : t.hook = .inferred types limit) {n : Nat} {target : Option SqlType}
    {answer : Except BindError SqlType} (hforward : SlotsForward types types')
    (hlen : types'.length ≤ max types.length limit)
    (hanswer : ∀ u, answer = .ok u →
      u = .unknown ∨ u.isResolved = true ∧ ParamTypes.slot? types' n = some u)
    (htarget : target.isSome = true → ∀ m, answer ≠ .error (.noSuchParameter m)) :
    (t.record n target (answer, .inferred types' limit)).2.MovesForward declared limit := by
  obtain ⟨current, hcurrent, hhead⟩ := h.current
  obtain rfl : types = current := ParamTypes.types_unique hhook hcurrent
  obtain ⟨older, hhistory⟩ : ∃ older, t.history declared = types :: older := by
    cases hh : t.history declared with
    | nil => rw [hh] at hhead; cases hhead
    | cons current older =>
      rw [hh, List.head?_cons, Option.some.injEq] at hhead
      exact ⟨older, by rw [hhead]⟩
  have hrecord : (t.record n target (answer, .inferred types' limit)).2.history declared
      = types' :: t.history declared := rfl
  -- what is later than all on record is later than the last
  have hlatest : ∀ ts ∈ t.history declared, SlotsForward ts types' := by
    intro ts hts
    have hpairs := h.forward
    rw [hhistory] at hts hpairs
    rcases List.mem_cons.1 hts with rfl | hts
    · exact hforward
    · exact ((List.pairwise_cons.1 hpairs).1 ts hts).trans hforward
  refine ⟨⟨types', rfl, rfl⟩, ?_, ?_, ?_, ?_⟩
  · rw [hrecord]
    intro ts hts
    rcases List.mem_cons.1 hts with rfl | hts
    · have := h.bounded types (by rw [hhistory]; exact List.mem_cons_self)
      omega
    · exact h.bounded ts hts
  · rw [hrecord]
    exact List.pairwise_cons.2 ⟨hlatest, h.forward⟩
  · intro later call earlier hcalls u hu
    cases later with
    | nil =>
      obtain ⟨rfl, -⟩ := List.cons.inj hcalls
      rcases hanswer u hu with hunknown | ⟨hresolved, hslot⟩
      · exact Or.inl hunknown
      · refine Or.inr ⟨hresolved, fun c hc => ?_⟩
        rw [List.mem_singleton.1 hc]
        exact hslot
    | cons last later =>
      obtain ⟨rfl, hbefore⟩ := List.cons.inj hcalls
      rcases h.answered later call earlier hbefore u hu with hunknown | ⟨hresolved, hslots⟩
      · exact Or.inl hunknown
      · refine Or.inr ⟨hresolved, fun c hc => ?_⟩
        rcases List.mem_cons.1 hc with rfl | hc
        · have hmem : call.after.slots ∈ t.history declared := by
            refine List.mem_append_left _ (List.mem_map.2 ⟨call, ?_, rfl⟩)
            rw [hbefore]
            exact List.mem_append_right _ List.mem_cons_self
          exact ParamTypes.slot?_of_forward (hlatest _ hmem)
            (hslots call (List.mem_append_right _ (List.mem_singleton_self _))) hresolved
        · exact hslots c hc
  · intro call hcall hsome
    rcases List.mem_cons.1 hcall with rfl | hcall
    · exact htarget hsome
    · exact h.settled call hcall hsome

/-- **Tracing changes nothing.** A traced hook that finds types agrees with the same hook without the
trace, and keeps the invariant. -/
def agreement (declared : List SqlType) (limit : Nat) :
    HookAgreement (Traced ParamTypes) ParamTypes where
  rel t p := t.hook = p ∧ t.MovesForward declared limit
  known t n _ := 0 < n ∧ n ≤ t.hook.slots.length
  excused _ := False
  refer := by
    rintro t p n ⟨rfl, h⟩
    right
    obtain ⟨types, hhook, -⟩ := h.current
    simp only [ParamHook.refer, hhook]
    -- a refused reference is recorded too, with no answer and the same types
    rcases ParamTypes.refer_inferred types limit n with
      hrefused | ⟨types', u, hanswer, hforward, hlen, hslot, hu⟩
    · rw [hrefused]
      refine ⟨⟨rfl, rfl, ?_⟩, fun _ _ hm => hm, fun u hu => by cases hu⟩
      exact h.record hhook (.refl types) (Nat.le_max_left _ _) (fun u hu => by cases hu)
        (fun hsome => by cases hsome)
    · rw [hanswer]
      refine ⟨⟨rfl, rfl, ?_⟩, fun m _ hm => ⟨hm.1, Nat.le_trans hm.2 hforward.length⟩, ?_⟩
      · refine h.record hhook hforward hlen (fun v hv => ?_) (fun hsome => by cases hsome)
        cases hv
        exact hu.imp_right fun hu => ⟨hu, hslot⟩
      · exact fun _ _ => ParamTypes.bounds_of_slot? hslot
  settle := by
    rintro t p n target ⟨rfl, h⟩ ⟨hpos, hn⟩ htarget
    right
    obtain ⟨types, hhook, -⟩ := h.current
    rw [hhook] at hn
    change n ≤ types.length at hn
    -- a parameter that can stand in an expression has a slot, so it is not refused as unknown
    obtain ⟨u, hu⟩ := ParamTypes.slot?_of_pos hpos hn
    simp only [ParamHook.settle, hhook]
    rcases ParamTypes.settle_inferred limit hu htarget with
      ⟨e, hrefused, he⟩ | ⟨types', hanswer, hforward, hlen, hslot⟩
    · rw [hrefused]
      refine ⟨⟨rfl, rfl, ?_⟩, fun _ _ hm => hm, fun u hu => by cases hu⟩
      exact h.record hhook (.refl types) (Nat.le_max_left _ _) (fun u hu => by cases hu)
        (fun _ m hm => he m (Except.error.inj hm))
    · rw [hanswer]
      refine ⟨⟨rfl, rfl, ?_⟩, fun m _ hm => ⟨hm.1, Nat.le_trans hm.2 hforward.length⟩, ?_⟩
      · refine h.record hhook hforward (by rw [hlen]; exact Nat.le_max_left _ _) (fun v hv => ?_)
          (fun _ m hm => by cases hm)
        cases hv
        exact Or.inr ⟨htarget, hslot⟩
      · exact fun _ _ => ParamTypes.bounds_of_slot? hslot
  check := by
    rintro t p ⟨rfl, -⟩
    exact Or.inr rfl

/-- **Parameters only move forward.** For every catalog, all declared types, every limit and all
statements that share a state: tracing changes neither the results nor what is known of the
parameters in the end, and the trace satisfies `MovesForward`, whether the statements succeed or
fail. -/
theorem analyzeAll_movesForward (catalog : Catalog) (declared : List SqlType) (limit : Nat)
    (ss : List Statement) :
    let plain := analyzeAll catalog ss (.initial (ParamTypes.inferred declared limit))
    let traced := analyzeAll catalog ss
      (.initial (⟨.inferred declared limit, []⟩ : Traced ParamTypes))
    traced.1 = plain.1 ∧ traced.2.params.hook = plain.2.params
      ∧ traced.2.params.MovesForward declared limit := by
  intro plain traced
  have hstart : (agreement declared limit).RelState
      (.initial (⟨.inferred declared limit, []⟩ : Traced ParamTypes))
      (.initial (ParamTypes.inferred declared limit)) :=
    ⟨rfl, rfl, rfl, movesForward_nil declared limit⟩
  obtain ⟨hresults, hstate⟩ :=
    (agreement declared limit).analyzeAll_agrees catalog (fun _ h => h) ss hstart
  exact ⟨hresults, hstate.params.1, hstate.params.2⟩

end Traced

end Prepared
