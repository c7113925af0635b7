/-!
# Maps ordered by name

A finite map from names to values, as the list of its entries in the order of their names. Names are
ordered by their code points. `find?_insert` and `find?_erase` say what the two updates do to a
look-up.
-/

namespace Prepared

/-- A finite map from names, with its entries in the order of the names. -/
structure NameMap (α : Type) where
  entries : List (String × α)
  ordered : entries.Pairwise fun a b => a.1 < b.1

namespace NameMap

variable {α : Type}

/-! ### Operations on the list of entries -/

/-- Puts a value under `name`, in place of the one that is there or before the first larger name. -/
def insertEntry (name : String) (value : α) : List (String × α) → List (String × α)
  | [] => [(name, value)]
  | e :: es =>
    if name < e.1 then (name, value) :: e :: es
    else if e.1 = name then (name, value) :: es
    else e :: insertEntry name value es

/-- The value under `name`. -/
def lookup? (name : String) : List (String × α) → Option α
  | [] => none
  | e :: es => if e.1 = name then some e.2 else lookup? name es

theorem mem_insertEntry {name : String} {value : α} {es : List (String × α)} {e : String × α}
    (h : e ∈ insertEntry name value es) : e = (name, value) ∨ e ∈ es := by
  induction es with
  | nil => simpa [insertEntry] using h
  | cons a es ih =>
    unfold insertEntry at h
    split at h
    · simpa using h
    · split at h
      · rcases List.mem_cons.1 h with h | h
        · exact .inl h
        · exact .inr (List.mem_cons_of_mem _ h)
      · rcases List.mem_cons.1 h with h | h
        · exact .inr (h ▸ List.mem_cons_self)
        · exact (ih h).imp id (List.mem_cons_of_mem _)

theorem pairwise_insertEntry {name : String} {value : α} {es : List (String × α)}
    (h : es.Pairwise fun a b => a.1 < b.1) :
    (insertEntry name value es).Pairwise fun a b => a.1 < b.1 := by
  induction es with
  | nil => simp [insertEntry]
  | cons a es ih =>
    have ha := List.pairwise_cons.1 h
    unfold insertEntry
    split
    · rename_i hlt
      refine List.pairwise_cons.2 ⟨fun b hb => ?_, h⟩
      rcases List.mem_cons.1 hb with rfl | hb
      · exact hlt
      · exact String.lt_trans hlt (ha.1 b hb)
    · split
      · rename_i heq
        exact List.pairwise_cons.2 ⟨fun b hb => heq ▸ ha.1 b hb, ha.2⟩
      · rename_i hlt hne
        refine List.pairwise_cons.2 ⟨fun b hb => ?_, ih ha.2⟩
        rcases mem_insertEntry hb with rfl | hb
        · grind
        · exact ha.1 b hb

theorem lookup?_insertEntry (name other : String) (value : α) (es : List (String × α)) :
    lookup? other (insertEntry name value es) =
      if name = other then some value else lookup? other es := by
  induction es with
  | nil => simp [insertEntry, lookup?]
  | cons a es ih =>
    unfold insertEntry
    split
    · simp [lookup?]
    · split
      · rename_i heq
        by_cases h : name = other <;> simp [lookup?, heq, h]
      · rename_i hne
        by_cases h : a.1 = other
        · have : ¬name = other := fun h' => hne (h.trans h'.symm)
          simp [lookup?, h, this]
        · simp [lookup?, h, ih]

theorem lookup?_filter (name other : String) (es : List (String × α)) :
    lookup? other (es.filter fun e => e.1 ≠ name) =
      if name = other then none else lookup? other es := by
  induction es with
  | nil => simp [lookup?]
  | cons a es ih =>
    by_cases ha : a.1 = name
    · rw [List.filter_cons_of_neg (by simpa using ha), ih]
      by_cases h : name = other
      · simp [h]
      · simp [lookup?, ha, h]
    · rw [List.filter_cons_of_pos (by simpa using ha)]
      by_cases h : a.1 = other
      · have : ¬name = other := fun h' => ha (h.trans h'.symm)
        simp [lookup?, h, this]
      · simpa [lookup?, h] using ih

/-! ### The map -/

/-- The map without entries. -/
def empty : NameMap α := ⟨[], .nil⟩

instance : Inhabited (NameMap α) := ⟨empty⟩

/-- The value under `name`. -/
def find? (m : NameMap α) (name : String) : Option α :=
  lookup? name m.entries

/-- Puts `value` under `name`, in place of what is there. -/
def insert (m : NameMap α) (name : String) (value : α) : NameMap α :=
  ⟨insertEntry name value m.entries, pairwise_insertEntry m.ordered⟩

/-- Takes away what is under `name`. -/
def erase (m : NameMap α) (name : String) : NameMap α :=
  ⟨m.entries.filter fun e => e.1 ≠ name, m.ordered.filter _⟩

/-- The values in the order of their names. -/
def values (m : NameMap α) : List α :=
  m.entries.map (·.2)

/-- Whether there is a value under `name`. -/
def contains (m : NameMap α) (name : String) : Bool :=
  (m.find? name).isSome

theorem find?_insert (m : NameMap α) (name other : String) (value : α) :
    (m.insert name value).find? other = if name = other then some value else m.find? other :=
  lookup?_insertEntry name other value m.entries

theorem find?_erase (m : NameMap α) (name other : String) :
    (m.erase name).find? other = if name = other then none else m.find? other :=
  lookup?_filter name other m.entries

@[simp]
theorem find?_empty (name : String) : (empty : NameMap α).find? name = none := rfl

end NameMap

end Prepared
