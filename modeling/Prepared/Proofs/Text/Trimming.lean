import Mathlib.Data.List.TakeWhile
import Prepared.Text.Blank

/-!
# Rows of characters of a class

What `takeWhile` and `dropWhile` make of a text that begins with a row of characters of a class, and
what `trimChars` leaves of one with white space at its ends: `trimChars_eq_iff` says that it is the
word in between.
-/

namespace Prepared.Text

/-! ## Rows at the front -/

theorem span_append {p : Char → Bool} {w rest : List Char} (hw : ∀ d ∈ w, p d = true)
    (hend : rest.head?.any p = false) :
    (w ++ rest).takeWhile p = w ∧ (w ++ rest).dropWhile p = rest := by
  induction w with
  | nil =>
    cases rest with
    | nil => exact ⟨rfl, rfl⟩
    | cons d rest =>
      have hd : p d = false := hend
      simp [hd]
  | cons c w ih =>
    obtain ⟨hc, hw⟩ := List.forall_mem_cons.1 hw
    obtain ⟨htake, hdrop⟩ := ih hw
    simp [hc, htake, hdrop]

theorem head?_dropWhile_any (p : Char → Bool) (s : List Char) :
    (s.dropWhile p).head?.any p = false := by
  have h := List.head?_dropWhile_not p s
  cases hhead : (s.dropWhile p).head? with
  | none => rfl
  | some c =>
    rw [hhead] at h
    exact h

/-- Every text is a row of characters of a class in front of one that does not begin with such. -/
theorem exists_span (p : Char → Bool) (s : List Char) :
    ∃ w rest, s = w ++ rest ∧ (∀ d ∈ w, p d = true) ∧ rest.head?.any p = false :=
  ⟨_, _, List.takeWhile_append_dropWhile.symm,
    fun d hd => List.all_eq_true.1 List.all_takeWhile d hd, head?_dropWhile_any p s⟩

/-! ## White space at the ends -/

/-- A word with white space around it, of which it has none at its own ends. -/
inductive Trimmed : List Char → List Char → Prop where
  | mk {front word back} (hfront : ∀ c ∈ front, isBlank c = true)
      (hback : ∀ c ∈ back, isBlank c = true) (hfirst : word.head?.any isBlank = false)
      (hlast : word.getLast?.any isBlank = false) : Trimmed (front ++ word ++ back) word

theorem trimmed_trimChars (s : List Char) : Trimmed s (trimChars s) := by
  obtain ⟨front, rest, rfl, hfront, hfirst⟩ := exists_span isBlank s
  obtain ⟨back, word, hsplit, hback, hlast⟩ := exists_span isBlank rest.reverse
  have hrest : rest = word.reverse ++ back.reverse := by
    rw [← List.reverse_append, ← hsplit, List.reverse_reverse]
  have htrim : trimChars (front ++ rest) = word.reverse := by
    rw [trimChars, (span_append hfront hfirst).2, hsplit, (span_append hback hlast).2]
  rw [htrim, hrest, ← List.append_assoc]
  refine .mk hfront (fun c hc => hback c (List.mem_reverse.1 hc)) ?_ (by rwa [List.getLast?_reverse])
  cases hword : word.reverse with
  | nil => rfl
  | cons c w =>
    rw [hrest, hword] at hfirst
    exact hfirst

/-- **Trimming.** What is left of a text without the white space at its ends is the word in it. -/
theorem trimChars_eq_iff {s word : List Char} : trimChars s = word ↔ Trimmed s word := by
  constructor
  · rintro rfl
    exact trimmed_trimChars s
  · rintro ⟨hfront, hback, hfirst, hlast⟩
    rename_i front back
    rw [trimChars, List.append_assoc, List.dropWhile_append_of_pos hfront]
    cases word with
    | nil =>
      rw [List.nil_append, List.dropWhile_eq_nil_iff.2 hback]
      rfl
    | cons c word =>
      have hword : ((c :: word) ++ back).dropWhile isBlank = (c :: word) ++ back :=
        (@span_append isBlank [] ((c :: word) ++ back) nofun hfirst).2
      have hlast : (c :: word).reverse.head?.any isBlank = false := by rwa [List.head?_reverse]
      rw [hword, List.reverse_append,
        (span_append (fun d hd => hback d (List.mem_reverse.1 hd)) hlast).2, List.reverse_reverse]

/-- Between characters that are no white space nothing is taken off. -/
theorem trimChars_of_not_blank {s : List Char} (h : ∀ c ∈ s, isBlank c = false) :
    trimChars s = s := by
  have hends : ∀ c : Option Char, (∀ d ∈ c, d ∈ s) → c.any isBlank = false := by
    intro c hc
    cases c with
    | none => rfl
    | some d => exact h d (hc d rfl)
  rw [trimChars_eq_iff]
  have hword := @Trimmed.mk [] s [] nofun nofun (hends _ fun d => List.mem_of_mem_head?)
    (hends _ fun d => List.mem_of_mem_getLast?)
  rwa [List.nil_append, List.append_nil] at hword

/-- Only white space is trimmed to nothing. -/
theorem isBlank_of_trimChars {s : List Char} (h : trimChars s = []) :
    ∀ c ∈ s, isBlank c = true := by
  obtain ⟨hfront, hback, -, -⟩ := trimChars_eq_iff.1 h
  intro c hc
  rw [List.append_nil] at hc
  exact (List.mem_append.1 hc).elim (hfront c) (hback c)

end Prepared.Text
