import Prepared.Value.Cast

/-!
# The types of casts

A cast that succeeds gives a value of the type that was asked for, however it got there: a text that
is read, a number that is converted, a datum that is written out, a null. What it gives is a null if
and only if it was given one.
-/

namespace Prepared

namespace Datum

variable {d d' : Datum} {t : SqlType} {s : String}

theorem type_of_ofInt {type : IntType} {i : Int} (h : ofInt type i = .ok d) :
    d.type = .integer type := by
  unfold ofInt at h
  split at h
  · cases h
    rfl
  · cases h

/-- The shape of a reading that may fail and then has one type. -/
theorem type_of_map_elim {α : Type} {f : α → Datum} {x : Option α} {e : TypeError}
    (hf : ∀ a, (f a).type = t) (h : f <$> x.elim (Except.error e) Except.ok = .ok d) :
    d.type = t := by
  cases x with
  | none => cases h
  | some a =>
    cases h
    exact hf a

/-- The shape of a reading that may fail, and may then not fit. -/
theorem type_of_elim_ofInt {type : IntType} {x : Option Int} {e : TypeError}
    (h : x.elim (Except.error e) Except.ok >>= ofInt type = .ok d) : d.type = .integer type := by
  cases x with
  | none => cases h
  | some i => exact type_of_ofInt h

/-- A text is read as the type that is wanted. -/
theorem type_of_parse (h : parse s t = .ok d) : d.type = t := by
  unfold parse at h
  cases t with
  | boolean => exact type_of_map_elim (fun _ => rfl) h
  | float => exact type_of_map_elim (fun _ => rfl) h
  | double => exact type_of_map_elim (fun _ => rfl) h
  | integer type => exact type_of_elim_ofInt h
  | varchar =>
    cases h
    rfl
  | invalid | unknown | null => cases h

/-- A number is converted to a type of numbers, and has it then. -/
theorem type_of_convert (ht : t.isNumeric = true) (h : d.convert t = .ok d') : d'.type = t := by
  unfold convert at h
  cases t with
  | integer type => exact type_of_elim_ofInt h
  | float => exact type_of_map_elim (fun _ => rfl) h
  | double => exact type_of_map_elim (fun _ => rfl) h
  | invalid | unknown | null | boolean | varchar => cases ht

/-- The branches of the cast of a datum: a text is read, everything is written as a text, and
numbers are converted. -/
theorem type_of_castTo (h : d.castTo t = .ok d') : d'.type = t := by
  unfold castTo at h
  split at h
  · exact type_of_parse h
  · exact type_of_parse h
  · exact type_of_parse h
  · exact type_of_parse h
  · cases h
    rfl
  · split at h
    · rename_i hnumeric
      exact type_of_convert (Bool.and_eq_true _ _ ▸ hnumeric).2 h
    · cases h

end Datum

/-- **The type of a cast.** -/
theorem Value.type_of_castTo {v w : Value} {t : SqlType} (ht : t.isResolved = true)
    (h : v.castTo t = .ok w) : w.type = t := by
  unfold castTo at h
  split at h
  · -- a value of the type stays as it is
    rename_i hsame
    cases h
    exact hsame
  · cases v with
    | null _ _ =>
      cases h
      exact type_nullOf ht
    | datum d =>
      rcases hd : d.castTo t with e | d'
      · simp only [hd] at h
        cases h
      · simp only [hd] at h
        cases h
        exact Datum.type_of_castTo hd

/-- A cast gives a null for a null, and for nothing else. -/
theorem Value.isNull_of_castTo {v w : Value} {t : SqlType} (h : v.castTo t = .ok w) :
    w.isNull = v.isNull := by
  unfold castTo at h
  split at h
  · cases h
    rfl
  · cases v with
    | null _ _ =>
      cases h
      exact isNull_nullOf t
    | datum d =>
      rcases hd : d.castTo t with e | d'
      · simp only [hd] at h
        cases h
      · simp only [hd] at h
        cases h
        rfl

end Prepared
