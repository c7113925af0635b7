import Prepared.Proofs.SqlType.LeastType
import Prepared.Proofs.Value.Cast
import Prepared.Proofs.Value.Numeral

/-!
# Casts that keep the integer

What stands for an integer is a value of an integer type or the written form of the integer
(`Value.Denotes`). A cast of it to an integer type gives the same integer or is out of range, and a
cast to text writes it down, so in a chain of such casts only the last one matters
(`Value.castAll_integer`).

No cast is out of range from a type to one that holds all its integers. These are the implicit casts
between integer types, and those to the common type of integer types (`IntType.widensTo_common`).
-/

namespace Prepared

open Text

/-! ## Chains of casts -/

/-- A type that what stands for an integer can be cast to and still stand for it: an integer type, or
text. -/
def SqlType.TakesIntegers (t : SqlType) : Prop :=
  t.isIntegral = true ∨ t = .varchar

namespace Value

/-- The value stands for the integer: it is of an integer type, or the written form of the integer. -/
inductive Denotes : Value → Int → Prop where
  | integer {t i} (h : t.Contains i) : Denotes (.datum (.integer t i h)) i
  | text (i) : Denotes (.datum (.text (toString i))) i

/-- Casts to one type after the other. -/
def castAll (v : Value) (ts : List SqlType) : Except TypeError Value :=
  ts.foldlM castTo v

variable {v v' w : Value} {i : Int} {t : IntType} {u : SqlType} {ts : List SqlType}

namespace Denotes

/-- A cast to an integer type gives the integer, if the type holds it. -/
theorem castTo_integer (hv : v.Denotes i) (hwide : widestMin ≤ i ∧ i ≤ widestMax) (t : IntType) :
    v.castTo (.integer t) = ofInt t i := by
  cases hv with
  | integer h => exact Value.castTo_integer h
  | text =>
    have hnumeral : Numeral (toString i).toList i := numeral_toString i
    rw [castTo_text_integer]
    exact parse_of_numeral (trimChars_eq_iff.1 hnumeral.trimChars) hnumeral hwide

/-- A cast to text writes the integer down. -/
theorem castTo_varchar (hv : v.Denotes i) :
    v.castTo .varchar = .ok (.datum (.text (toString i))) := by
  cases hv with
  | integer h => rfl
  | text => exact castTo_self _

/-- What stands for the same integer is cast to the same value. -/
theorem castTo_congr (hv : v.Denotes i) (hv' : v'.Denotes i) (hwide : widestMin ≤ i ∧ i ≤ widestMax)
    (hu : u.TakesIntegers) : v.castTo u = v'.castTo u := by
  rcases hu with hu | rfl
  · cases u with
    | integer t => rw [hv.castTo_integer hwide, hv'.castTo_integer hwide]
    | _ => cases hu
  · rw [hv.castTo_varchar, hv'.castTo_varchar]

/-- **One step.** A cast that succeeds keeps the integer. -/
theorem castTo (hv : v.Denotes i) (hwide : widestMin ≤ i ∧ i ≤ widestMax) (hu : u.TakesIntegers)
    (h : v.castTo u = .ok w) : w.Denotes i := by
  rcases hu with hu | rfl
  · cases u with
    | integer t =>
      rw [hv.castTo_integer hwide] at h
      by_cases hin : t.Contains i
      · rw [ofInt_of_contains hin] at h
        cases h
        exact .integer hin
      · rw [ofInt_of_not_contains hin] at h
        cases h
    | _ => cases hu
  · rw [hv.castTo_varchar] at h
    cases h
    exact .text i

/-- A cast succeeds unless the type holds only other integers. -/
theorem castTo_ok_iff (hv : v.Denotes i) (hwide : widestMin ≤ i ∧ i ≤ widestMax)
    (hu : u.TakesIntegers) :
    (∃ w, v.castTo u = .ok w) ↔ ∀ t, u = .integer t → t.Contains i := by
  rcases hu with hu | rfl
  · cases u with
    | integer t =>
      rw [hv.castTo_integer hwide]
      by_cases hin : t.Contains i
      · rw [ofInt_of_contains hin]
        exact iff_of_true ⟨_, rfl⟩ fun _ h => by cases h; exact hin
      · rw [ofInt_of_not_contains hin]
        constructor
        · rintro ⟨w, hw⟩
          cases hw
        · exact fun h => absurd (h t rfl) hin
    | _ => cases hu
  · rw [hv.castTo_varchar]
    exact iff_of_true ⟨_, rfl⟩ nofun

end Denotes

theorem castAll_cons_ok (h : castAll v (u :: ts) = .ok w) :
    ∃ v', v.castTo u = .ok v' ∧ castAll v' ts = .ok w := by
  unfold castAll at h
  rw [List.foldlM_cons] at h
  cases hv : v.castTo u with
  | error e =>
    rw [hv] at h
    cases h
  | ok v' =>
    rw [hv] at h
    exact ⟨v', rfl, h⟩

theorem castAll_cons (h : v.castTo u = .ok v') : castAll v (u :: ts) = castAll v' ts := by
  unfold castAll
  rw [List.foldlM_cons, h]
  rfl

/-- **A chain.** The integer is kept all along, and the last cast could have been the only one. -/
theorem Denotes.castAll (hv : v.Denotes i) (hwide : widestMin ≤ i ∧ i ≤ widestMax)
    (hts : ∀ u ∈ ts, u.TakesIntegers) (h : castAll v ts = .ok w) :
    w.Denotes i ∧ ∀ u, ts.getLast? = some u → v.castTo u = .ok w := by
  induction ts generalizing v with
  | nil =>
    cases h
    exact ⟨hv, nofun⟩
  | cons u ts ih =>
    obtain ⟨hu, hts⟩ := List.forall_mem_cons.1 hts
    obtain ⟨v', hstep, hrest⟩ := castAll_cons_ok h
    have hv' : v'.Denotes i := hv.castTo hwide hu hstep
    obtain ⟨hw, hlast⟩ := ih hv' hts hrest
    refine ⟨hw, fun last hget => ?_⟩
    cases ts with
    | nil =>
      cases hget
      cases hrest
      exact hstep
    | cons u' ts =>
      rw [List.getLast?_cons_cons] at hget
      have hmem : last ∈ u' :: ts := List.mem_of_getLast? hget
      rw [hv.castTo_congr hv' hwide (hts last hmem)]
      exact hlast last hget

/-- A chain of casts succeeds if every integer type in it holds the integer. -/
theorem Denotes.castAll_ok_iff (hv : v.Denotes i) (hwide : widestMin ≤ i ∧ i ≤ widestMax)
    (hts : ∀ u ∈ ts, u.TakesIntegers) :
    (∃ w, Value.castAll v ts = .ok w) ↔ ∀ t, .integer t ∈ ts → t.Contains i := by
  induction ts generalizing v with
  | nil => exact iff_of_true ⟨v, rfl⟩ nofun
  | cons u ts ih =>
    obtain ⟨hu, hts⟩ := List.forall_mem_cons.1 hts
    constructor
    · rintro ⟨w, h⟩ t hmem
      obtain ⟨v', hstep, hrest⟩ := castAll_cons_ok h
      rcases List.mem_cons.1 hmem with heq | hmem
      · exact (hv.castTo_ok_iff hwide hu).1 ⟨v', hstep⟩ t heq.symm
      · exact (ih (hv.castTo hwide hu hstep) hts).1 ⟨w, hrest⟩ t hmem
    · intro h
      obtain ⟨v', hstep⟩ := (hv.castTo_ok_iff hwide hu).2 fun t heq => h t (heq ▸ List.mem_cons_self)
      rw [castAll_cons hstep]
      exact (ih (hv.castTo hwide hu hstep) hts).2 fun t hmem => h t (List.mem_cons_of_mem _ hmem)

/-- What a cast to the type `u` comes to for a value that stands for the integer `i`. -/
structure CastsAs (v : Value) (u : SqlType) (i : Int) : Prop where
  /-- As text, the integer is written down. -/
  text : u = .varchar → v.castTo u = .ok (.datum (.text (toString i)))
  /-- A type that holds the integer has a value for it. -/
  inside : ∀ t, u = .integer t → ∀ h : t.Contains i, v.castTo u = .ok (.datum (.integer t i h))
  /-- For any other integer type it is out of range. -/
  outside : ∀ t, u = .integer t → ¬t.Contains i →
    v.castTo u = .error (.outOfRange (.integer t) (toString i))

theorem Denotes.castsAs (hv : v.Denotes i) (hwide : widestMin ≤ i ∧ i ≤ widestMax) (u : SqlType) :
    v.CastsAs u i where
  text := by
    rintro rfl
    exact hv.castTo_varchar
  inside := by
    rintro t rfl h
    rw [hv.castTo_integer hwide, ofInt_of_contains h]
  outside := by
    rintro t rfl h
    rw [hv.castTo_integer hwide, ofInt_of_not_contains h]

/-- **Casts of integers compose.** Where an integer is cast to integer types and to text, one after
the other, the result is that of the last cast alone; every step gives the integer as it is, and can
only fail because its type does not hold it; and all of them succeed exactly if each integer type
among them does. -/
theorem castAll_integer {t : IntType} {i : Int} (h : t.Contains i) {ts : List SqlType}
    (hts : ∀ u ∈ ts, u.TakesIntegers) :
    (∀ w, castAll (.datum (.integer t i h)) ts = .ok w → ∀ u, ts.getLast? = some u →
        castTo (.datum (.integer t i h)) u = .ok w)
      ∧ (∀ before u after, ts = before ++ u :: after →
        ∀ w, castAll (.datum (.integer t i h)) before = .ok w → w.CastsAs u i)
      ∧ ((∃ w, castAll (.datum (.integer t i h)) ts = .ok w)
        ↔ ∀ u, .integer u ∈ ts → u.Contains i) := by
  have hv : Denotes (.datum (.integer t i h)) i := .integer h
  have hwide : widestMin ≤ i ∧ i ≤ widestMax := IntType.contains_widest h
  refine ⟨fun w hw => (hv.castAll hwide hts hw).2, ?_, hv.castAll_ok_iff hwide hts⟩
  rintro before u after rfl w hw
  have hbefore : ∀ u ∈ before, u.TakesIntegers := fun u hu => hts u (List.mem_append_left _ hu)
  exact (hv.castAll hwide hbefore hw).1.castsAs hwide u

/-- The least integer of 64 bits. -/
def leastBigint : Value :=
  .datum (.integer ⟨true, .w64⟩ (-9223372036854775808) (by decide))

/-- It is written down, read again and written down again. Then it is out of range for 32 bits. -/
theorem castAll_integer_leastBigint :
    (∀ u ∈ [.varchar, .bigint, .varchar, .int], SqlType.TakesIntegers u)
      ∧ castAll leastBigint [.varchar, .bigint, .varchar]
        = .ok (.datum (.text "-9223372036854775808"))
      ∧ castTo (.datum (.text "-9223372036854775808")) .int
        = .error (.outOfRange .int "-9223372036854775808") := by
  have hts : ∀ u ∈ [.varchar, .bigint, .varchar, .int], SqlType.TakesIntegers u := by
    unfold SqlType.TakesIntegers
    decide
  have hchain : castAll leastBigint [.varchar, .bigint, .varchar]
      = .ok (.datum (.text "-9223372036854775808")) := by
    decide +kernel
  obtain ⟨-, hsteps, -⟩ :=
    castAll_integer (t := ⟨true, .w64⟩) (i := -9223372036854775808) (by decide) hts
  have hlast := hsteps [.varchar, .bigint, .varchar] .int [] rfl _ hchain
  exact ⟨hts, hchain, hlast.outside _ rfl (by decide)⟩

end Value

/-! ## Widening -/

/-- The integer that a value of an integer type is; a null is none. -/
def Value.integer? : Value → Option Int
  | .datum (.integer _ i _) => some i
  | _ => none

namespace IntType

/-- Every value of `s` can be cast to `t` and loses nothing: it is the same integer, or a null. -/
def WidensTo (s t : IntType) : Prop :=
  ∀ v : Value, v.type = .integer s →
    ∃ w, v.castTo (.integer t) = .ok w ∧ w.type = .integer t ∧ w.integer? = v.integer?

variable {s t : IntType}

theorem contains_ends (t : IntType) : t.Contains t.min ∧ t.Contains t.max := by
  obtain ⟨signed, width⟩ := t
  cases signed <;> cases width <;> decide

/-- Values are never lost exactly if the type holds all integers of the other one. -/
theorem widensTo_iff : s.WidensTo t ↔ s.FitsIn t := by
  constructor
  · intro h
    have hend : ∀ i, s.Contains i → t.Contains i := by
      intro i hi
      obtain ⟨w, hw, -⟩ := h (.datum (.integer s i hi)) rfl
      rw [Value.castTo_integer] at hw
      by_contra hout
      rw [Value.ofInt_of_not_contains hout] at hw
      cases hw
    obtain ⟨hmin, hmax⟩ := s.contains_ends
    exact ⟨(hend _ hmin).1, (hend _ hmax).2⟩
  · intro h v hv
    cases v with
    | null u hu =>
      by_cases heq : (Value.null u hu).type = .integer t
      · exact ⟨.null u hu, by rw [Value.castTo, if_pos heq], heq, rfl⟩
      · refine ⟨Value.nullOf (.integer t), ?_, Value.type_nullOf rfl, rfl⟩
        rw [Value.castTo, if_neg heq]
    | datum d =>
      cases d with
      | integer s' i hi =>
        cases hv
        refine ⟨.datum (.integer t i (hi.of_fitsIn h)), ?_, rfl, rfl⟩
        rw [Value.castTo_integer, Value.ofInt_of_contains (hi.of_fitsIn h)]
      | _ => cases hv

/-- Integer types that one integer type holds have an integer type in common. -/
theorem exists_common_of_fitsIn {ts : List IntType} {c : IntType} (hne : ts ≠ [])
    (h : ∀ t ∈ ts, t.FitsIn c) :
    ∃ d, commonTypeFrom .unknown (ts.map .integer) = .ok (.integer d) := by
  have hbounds : (SqlType.integer c).Bounds (ts.map .integer) := by
    intro u hu _
    obtain ⟨t, ht, rfl⟩ := List.mem_map.1 hu
    exact SqlType.integer_implicitlyCasts_iff.2 (h t ht)
  have hdouble : SqlType.double.Bounds (ts.map .integer) := fun u hu hcounts =>
    SqlType.implicitlyCasts_trans (hbounds u hu hcounts) (SqlType.casts_double rfl)
  have hfloat : SqlType.float ∉ ts.map SqlType.integer := by simp
  obtain ⟨d, hd⟩ := exists_commonTypeFrom (Or.inl rfl) (t := .unknown) rfl hdouble
  -- the common type is the least, so it casts to the integer type and can only be one itself
  have hle : d.implicitlyCasts (.integer c) = true :=
    least_commonTypeFrom (fun horder => hfloat horder.single) hd hbounds nofun
  rcases counts_commonTypeFrom hd with ⟨-, hnone⟩ | hcounts
  · obtain ⟨t, ts, rfl⟩ := List.exists_cons_of_ne_nil hne
    exact absurd ⟨rfl, nofun⟩ (hnone (.integer t) (by simp))
  · cases d with
    | integer d => exact ⟨d, hd⟩
    | null | unknown => exact absurd hcounts (by decide)
    | _ => cases hle

/-- **Widening is lossless.** The common type of integer types, where it is one, holds every value of
all of them, and there is one as soon as any integer type does; and the implicit casts between integer
types are those that lose nothing. -/
theorem widensTo_common (ts : List IntType) :
    (∀ c, commonTypeFrom .unknown (ts.map .integer) = .ok (.integer c) → ∀ t ∈ ts, t.WidensTo c)
      ∧ (ts ≠ [] → ((∃ c, commonTypeFrom .unknown (ts.map .integer) = .ok (.integer c))
        ↔ ∃ c, ∀ t ∈ ts, t.WidensTo c))
      ∧ ∀ s t : IntType, (SqlType.integer s).implicitlyCasts (.integer t) = true ↔ s.WidensTo t := by
  have hcasts : ∀ s t : IntType,
      (SqlType.integer s).implicitlyCasts (.integer t) = true ↔ s.WidensTo t := by
    intro s t
    rw [SqlType.integer_implicitlyCasts_iff, widensTo_iff]
  have hcommon : ∀ c, commonTypeFrom .unknown (ts.map .integer) = .ok (.integer c) →
      ∀ t ∈ ts, t.WidensTo c := by
    intro c h t ht
    have hbound := (casts_commonTypeFrom h).2 _ (List.mem_map_of_mem ht)
    exact (hcasts t c).1 (hbound ⟨rfl, nofun⟩)
  refine ⟨hcommon, fun hne => ⟨fun ⟨c, h⟩ => ⟨c, hcommon c h⟩, fun ⟨c, h⟩ => ?_⟩, hcasts⟩
  exact exists_common_of_fitsIn hne fun t ht => widensTo_iff.1 (h t ht)

/-- An unsigned and a signed byte meet in 16 bits, and with unsigned 16 bits in 32: the greatest of
these is the same integer there, and so is that of a byte that is cast to 16 bits. -/
theorem widensTo_common_bytes :
    commonTypeFrom .unknown ([⟨false, .w8⟩, ⟨true, .w8⟩, ⟨false, .w16⟩].map .integer) = .ok .int
      ∧ (∃ w, (Value.datum (.integer ⟨false, .w16⟩ 65535 (by decide))).castTo .int = .ok w
        ∧ w.integer? = some 65535)
      ∧ SqlType.utinyint.implicitlyCasts .smallint = true
      ∧ ∃ w, (Value.datum (.integer ⟨false, .w8⟩ 255 (by decide))).castTo .smallint = .ok w
        ∧ w.integer? = some 255 := by
  have hcommon : commonTypeFrom .unknown
      ([⟨false, .w8⟩, ⟨true, .w8⟩, ⟨false, .w16⟩].map .integer) = .ok .int := by decide +kernel
  obtain ⟨hlist, -, hcasts⟩ := widensTo_common [⟨false, .w8⟩, ⟨true, .w8⟩, ⟨false, .w16⟩]
  obtain ⟨w, hw, -, hsame⟩ := hlist _ hcommon ⟨false, .w16⟩ (by decide)
    (.datum (.integer ⟨false, .w16⟩ 65535 (by decide))) rfl
  obtain ⟨w', hw', -, hsame'⟩ := (hcasts ⟨false, .w8⟩ ⟨true, .w16⟩).1 (by decide)
    (.datum (.integer ⟨false, .w8⟩ 255 (by decide))) rfl
  exact ⟨hcommon, ⟨w, hw, hsame⟩, by decide, w', hw', hsame'⟩

end IntType

end Prepared
