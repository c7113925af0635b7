import Prepared.Param.Values
import Prepared.Proofs.Sql.WrittenTokens

/-!
# Literals are few tokens

The literal of a value is a word, a number, a number behind a minus sign, or a quoted text
(`Param.writesLiteral`). So it falls into tokens, and wherever it is put it opens no comment.
-/

namespace Prepared

open Sql Token

/-! ## Numbers as they are written -/

theorem isDigit_of_mem_toDigits {n : Nat} {c : Char} (hc : c ∈ Nat.toDigits 10 n) :
    Text.isDigit c = true := by
  have hdigit : c.isDigit = true := Nat.isDigit_of_mem_toDigits (by decide) (by decide) hc
  simp only [Char.isDigit, Bool.and_eq_true, decide_eq_true_eq] at hdigit
  simp only [Text.isDigit, Bool.and_eq_true, decide_eq_true_eq]
  exact hdigit

theorem toList_toString (n : Nat) : (toString n).toList = Nat.toDigits 10 n := by
  change (Nat.repr n).toList = _
  rw [Nat.repr_eq_ofList_toDigits, String.toList_ofList]

theorem isNumber_toString (n : Nat) : IsNumber (toString n).toList := by
  rw [toList_toString]
  exact .whole Nat.toDigits_ne_nil fun _ => isDigit_of_mem_toDigits

/-- Digits with a point among them make one as well; the zeros that are filled in and those that
are dropped are digits too. -/
theorem isNumber_positional (n places : Nat) : IsNumber (Number.positional n places).toList := by
  unfold Number.positional
  dsimp only
  split
  · exact isNumber_toString _
  · have hdigits : ∀ c ∈ List.replicate (places - (Nat.toDigits 10 (n % 10 ^ places)).length) '0'
        ++ Nat.toDigits 10 (n % 10 ^ places), Text.isDigit c = true := by
      intro c hc
      rcases List.mem_append.1 hc with hc | hc
      · rw [List.eq_of_mem_replicate hc]
        rfl
      · exact isDigit_of_mem_toDigits hc
    simp only [String.toList_append, toList_toString, String.toList_ofList, List.append_assoc]
    refine .decimal (List.append_ne_nil_of_left_ne_nil Nat.toDigits_ne_nil _)
      (fun _ => isDigit_of_mem_toDigits) fun c hc => hdigits c ?_
    have hc := (List.dropWhile_sublist _).subset (List.mem_reverse.1 hc)
    exact List.mem_reverse.1 hc

/-! ## The tokens of literals -/

/-- The tokens that a literal can be. -/
inductive IsLiteral : List Token → Prop where
  | word {text} (htext : IsWord text.toList) : IsLiteral [word ⟨text, none⟩]
  | number {text} (htext : IsNumber text.toList) : IsLiteral [number text false]
  | negative {text} (htext : IsNumber text.toList) : IsLiteral [symbol "-", number text false]
  | singleQuoted (text) : IsLiteral [singleQuoted text]

/-- Some text is written as the tokens of a literal. -/
def WritesLiteral (s : String) : Prop :=
  ∃ ts, IsLiteral ts ∧ s.toList = renderAll ts

/-- A number with or without a sign in front. -/
theorem writesLiteral_number {s : String} (negative : Bool) (h : IsNumber s.toList) :
    WritesLiteral ((if negative then "-" else "") ++ s) := by
  cases negative with
  | true => exact ⟨_, .negative h, by simp [renderAll, render]⟩
  | false => exact ⟨_, .number h, by simp [renderAll, render]⟩

/-- Floats that are no numbers are written as quoted texts. -/
theorem writesLiteral_special {f : Number.Format} (x : Number.Binary f) :
    WritesLiteral (Datum.literal.special x) := by
  cases x with
  | nan => exact ⟨_, .singleQuoted "NaN", show "'NaN'".toList = _ by decide⟩
  | infinite negative =>
    cases negative with
    | true => exact ⟨_, .singleQuoted "-Infinity", show "'-Infinity'".toList = _ by decide⟩
    | false => exact ⟨_, .singleQuoted "Infinity", show "'Infinity'".toList = _ by decide⟩
  | finite negative significand exponent =>
    exact writesLiteral_number negative (isNumber_positional _ _)

theorem writesLiteral_int (i : Int) : WritesLiteral (toString i) := by
  cases i with
  | ofNat n =>
    have hwritten : toString (Int.ofNat n) = toString n := rfl
    rw [hwritten]
    exact ⟨_, .number (isNumber_toString n), by simp [renderAll, render]⟩
  | negSucc n =>
    have hwritten : toString (Int.negSucc n) = "-" ++ toString (n + 1) := rfl
    rw [hwritten]
    exact writesLiteral_number true (isNumber_toString (n + 1))

/-- **Every value is written as a literal**, and a missing one as the word `NULL`. -/
theorem Param.writesLiteral (p : Param) : WritesLiteral p.literal := by
  have hword {text : String} {c : Char} {w : List Char} (htext : text.toList = c :: w)
      (hc : isWordStart c = true) (hw : w.all isWordPart = true) : WritesLiteral text := by
    refine ⟨[word ⟨text, none⟩], .word ?_, by simp [renderAll, render]⟩
    rw [htext]
    exact ⟨hc, List.all_eq_true.1 hw⟩
  unfold Param.literal
  split
  · rename_i d _
    cases d with
    | boolean value =>
      cases value with
      | true => exact @hword "TRUE" _ _ rfl rfl rfl
      | false => exact @hword "FALSE" _ _ rfl rfl rfl
    | text value => exact ⟨_, .singleQuoted value, by simp [Datum.literal, renderAll, render]⟩
    | float value => exact writesLiteral_special value
    | double value => exact writesLiteral_special value
    | integer type value h => exact writesLiteral_int value
  · exact @hword "NULL" _ _ rfl rfl rfl

/-! ## Literals in their places -/

namespace IsLiteral

variable {ts us : List Token}

/-- A number begins with a character that goes on with no minus sign, neither to a comment nor to
an arrow. -/
theorem renderAll_number {text : String} (htext : IsNumber text.toList) (us : List Token) :
    ∃ c s, renderAll (Token.number text false :: us) = c :: s ∧ c ≠ '-' ∧ c ≠ '>' := by
  obtain ⟨c, s, hs, hc⟩ := htext.exists_cons
  refine ⟨c, s ++ renderAll us, ?_, ?_, ?_⟩
  · simp [renderAll, render, hs]
  · rintro rfl; cases hc
  · rintro rfl; cases hc

/-- A literal can be put before any tokens that can stand alone: its own minus sign is followed by
a number. -/
theorem writable_append (h : IsLiteral ts) (hus : Writable us) : Writable (ts ++ us) := by
  cases h with
  | word htext => exact .cons (.word htext) rfl hus
  | number htext => exact .cons (.number _ htext) rfl hus
  | singleQuoted text => exact .cons (.singleQuoted text) rfl hus
  | @negative text htext =>
    obtain ⟨c, s, hs, hnext⟩ := renderAll_number htext us
    refine .cons (.symbol (.char (c := '-') (by decide))) ?_ (.cons (.number _ htext) rfl hus)
    -- the only place with two tokens: what follows the sign opens no comment
    rw [List.append_eq, List.singleton_append, hs]
    simp [opensComment, hnext]

/-- No two tokens of a literal are read as one. -/
theorem not_fuse (h : IsLiteral ts) : fuse ts = false := by
  cases h with
  | word htext => rfl
  | number htext => rfl
  | singleQuoted text => rfl
  | @negative text htext =>
    obtain ⟨c, s, hs, hnext⟩ := renderAll_number htext []
    -- a minus sign goes on with another one or with `>`, and the number begins with neither
    have hminus : (symbol "-").goesOn (c :: s) = false := by
      have hgreater : '>' ≠ c := hnext.2.symm
      simp [goesOn, longSymbols, List.isPrefixOf, hgreater]
    rw [fuse, hs, hminus]
    rfl

theorem ne_nil (h : IsLiteral ts) : renderAll ts ≠ [] := by
  cases h with
  | word htext => simpa [renderAll, render] using htext.ne_nil
  | number htext => simpa [renderAll, render] using htext.ne_nil
  | negative htext => simp [renderAll, render]
  | singleQuoted text => simp [renderAll, render, quoted]

/-- No literal begins with a star. -/
theorem head?_ne_star (h : IsLiteral ts) : (renderAll ts).head? ≠ some '*' := by
  cases h with
  | @word text htext =>
    generalize hw : text.toList = w at htext
    obtain ⟨hc, -⟩ := htext
    intro hstar
    simp only [renderAll, render, hw, List.flatMap_cons, List.cons_append, List.head?_cons,
      Option.some.injEq] at hstar
    rw [hstar] at hc
    cases hc
  | number htext =>
    obtain ⟨c, s, hs, hc⟩ := htext.exists_cons
    intro hstar
    simp only [renderAll, render, hs, List.flatMap_cons, List.cons_append, List.head?_cons,
      Option.some.injEq, Bool.false_eq_true, if_false] at hstar
    rw [hstar] at hc
    cases hc
  | negative htext =>
    intro hstar
    cases hstar
  | singleQuoted text =>
    simp [renderAll, render, quoted]

end IsLiteral

/-- **Literals are read back.** -/
theorem Param.scan_literal (p : Param) :
    ∃ ts, IsLiteral ts ∧ Token.scan p.literal = some ts ∧ p.literal.toList = renderAll ts := by
  obtain ⟨ts, hts, hwritten⟩ := p.writesLiteral
  have hwritable : Writable (ts ++ []) := hts.writable_append .nil
  rw [List.append_nil] at hwritable
  refine ⟨ts, hts, scan_eq_some_iff.2 ?_, hwritten⟩
  rw [hwritten]
  exact lexemes_renderAll hwritable hts.not_fuse

end Prepared
