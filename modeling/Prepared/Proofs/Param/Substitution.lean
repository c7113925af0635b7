import Prepared.Proofs.Param.Literal
import Prepared.Proofs.Session.Executable

/-!
# What a text with values in place is

`substitute` writes the tokens of a text one after the other, the literals of parameters in the places
of placeholders. The blank that it puts between two minus signs keeps every comment from being opened
(`writable_written`), but nothing keeps other neighbours apart. `substitute_exact_iff` says what
follows from this: the new text has the tokens of the old one with the values in place if and only if
no two of those that are written fuse.
-/

namespace Prepared

open Sql Token

/-! ## The tokens that are written -/

/-- What takes the place of a token: the tokens of the literal of its parameter, or the token itself. -/
def placed (params : List Param) (t : Token) : List Token :=
  match t.paramNumber?.bind (paramAt? params) with
  | some p => (Token.scan p.literal).getD []
  | none => [t]

/-- The blank in front of what takes the place of a token, behind a text that ends in `last`. -/
def gap (params : List Param) (last : Option Char) (t : Token) : List Token :=
  match t.paramNumber?.bind (paramAt? params) with
  | some p => if last = some '-' ∧ p.literal.toList.head? = some '-' then [.space] else []
  | none => []

/-- The tokens that are written for the tokens of a text, behind a text that ends in `last`. -/
def written (params : List Param) (last : Option Char) : List Token → List Token
  | [] => []
  | t :: ts =>
    let here := gap params last t ++ placed params t
    here ++ written params ((renderAll here).getLast?.or last) ts

theorem renderAll_append (ts us : List Token) :
    renderAll (ts ++ us) = renderAll ts ++ renderAll us :=
  List.flatMap_append ..

theorem substituteToken_eq_ok {params : List Param} {last : Option Char} {t : Token} {text : String}
    (h : substituteToken params last t = .ok text) :
    text.toList = renderAll (gap params last t ++ placed params t) := by
  have hself : renderAll [t] = t.render.toList := List.append_nil _
  unfold substituteToken at h
  split at h
  · rename_i name
    split at h
    · rename_i number hnumber
      split at h
      · rename_i p hp
        obtain ⟨ts, -, hscan, hliteral⟩ := p.scan_literal
        have hfound : (placeholder name).paramNumber?.bind (paramAt? params) = some p := by
          rw [show (placeholder name).paramNumber? = some number from hnumber]
          exact hp
        cases h
        simp only [gap, placed, hfound, hscan, Option.getD_some, renderAll_append, ← hliteral]
        split <;> simp [renderAll, render]
      · cases h
    · rename_i hnumber
      cases h
      have hnone : (placeholder text).paramNumber? = none := hnumber
      simp only [gap, placed, hnone, Option.bind_none, List.nil_append, hself]
      rfl
  · rename_i hother
    cases h
    have hnone : t.paramNumber? = none := by
      cases t <;> first | rfl | exact absurd rfl (hother _)
    simp only [gap, placed, hnone, Option.bind_none, List.nil_append, hself]

/-- The text is what the tokens are written as. -/
theorem toList_of_substituteTokens {params : List Param} {last : Option Char} {ts : List Token}
    {text : String} (h : substituteTokens params last ts = .ok text) :
    text.toList = renderAll (written params last ts) := by
  induction ts generalizing last text with
  | nil => cases h; rfl
  | cons t ts ih =>
    unfold substituteTokens at h
    cases hhere : substituteToken params last t with
    | error e =>
      rw [hhere] at h
      cases h
    | ok here =>
      rw [hhere] at h
      simp only [bind, Except.bind] at h
      cases hrest : substituteTokens params (here.toList.getLast?.or last) ts with
      | error e =>
        rw [hrest] at h
        cases h
      | ok rest =>
        rw [hrest] at h
        cases h
        have hhere := substituteToken_eq_ok hhere
        simp only [String.toList_append, ih hrest, hhere, written, renderAll_append]

/-- The gaps are blanks. -/
theorem significant_written (params : List Param) (last : Option Char) (ts : List Token) :
    significant (written params last ts) = significant (ts.flatMap (placed params)) := by
  induction ts generalizing last with
  | nil => rfl
  | cons t ts ih =>
    have hgap : significant (gap params last t) = [] := by
      unfold gap
      split
      · split <;> rfl
      · rfl
    unfold significant at *
    simp only [written, List.flatMap_cons, List.filter_append, hgap, ih, List.nil_append]

/-- A token stays, or the tokens of a literal take its place. A minus sign at the beginning of the
literal has a blank in front if there is one before. -/
theorem gap_append_placed (params : List Param) (last : Option Char) (t : Token) :
    gap params last t ++ placed params t = [t]
      ∨ ∃ lits, IsLiteral lits ∧ (gap params last t ++ placed params t = .space :: lits
        ∨ gap params last t ++ placed params t = lits
          ∧ ¬(last = some '-' ∧ (renderAll lits).head? = some '-')) := by
  cases hp : t.paramNumber?.bind (paramAt? params) with
  | none =>
    left
    simp only [gap, placed, hp, List.nil_append]
  | some p =>
    right
    obtain ⟨lits, hlits, hscan, hliteral⟩ := p.scan_literal
    refine ⟨lits, hlits, ?_⟩
    simp only [gap, placed, hp, hscan, Option.getD_some, ← hliteral]
    by_cases hminus : last = some '-' ∧ p.literal.toList.head? = some '-'
    · rw [if_pos hminus]
      exact Or.inl rfl
    · rw [if_neg hminus]
      exact Or.inr ⟨rfl, hminus⟩

/-! ## No comment is opened -/

theorem head?_append_of_ne_nil {w : List Char} (h : w ≠ []) (rest : List Char) :
    (w ++ rest).head? = w.head? := by
  obtain ⟨c, w, rfl⟩ := List.exists_cons_of_ne_nil h
  rfl

/-- A token that is written with a minus sign or a star at its beginning has this in the text that it
is read from. -/
theorem head?_of_lexeme {s rest : List Char} {t : Token} {c : Char} (h : Lexeme s t rest)
    (hc : c = '-' ∨ c = '*') (hhead : t.render.toList.head? = some c) : s.head? = some c := by
  have hsame {w : List Char} (hw : w.head? = some c) : (w ++ rest).head? = some c := by
    rw [List.head?_append, hw, Option.some_or]
  cases h with
  | word | placeholder | symbol | number => exact hsame hhead
  | lineComment | lastComment => simpa [render] using hhead
  | _ =>
    have hother : c ≠ '-' ∧ c ≠ '*' := by
      obtain rfl := Option.some.inj (hhead.symm.trans (by simp [render, quoted, escapedString]; rfl))
      decide
    exact absurd hc (not_or.2 hother)

theorem head?_written {params : List Param} {last : Option Char} {s : List Char} {ts : List Token}
    {c : Char} (h : Lexemes s ts) (hc : c = '-' ∧ last = some '-' ∨ c = '*')
    (hhead : (renderAll (written params last ts)).head? = some c) : s.head? = some c := by
  cases h with
  | nil => cases hhead
  | @cons _ t rest ts hfirst hrest =>
    rw [written] at hhead
    rcases gap_append_placed params last t with hhere | ⟨lits, hlits, hhere | ⟨hhere, hminus⟩⟩
    · rw [hhere] at hhead
      have hne := (wellFormed_of_lexeme hfirst).render_ne_nil
      refine head?_of_lexeme hfirst (hc.imp_left And.left) ?_
      rwa [List.singleton_append, renderAll, List.flatMap_cons, head?_append_of_ne_nil hne] at hhead
    · rw [hhere] at hhead
      obtain rfl : ' ' = c := Option.some.inj hhead
      simp at hc
    · rw [hhere, renderAll_append, head?_append_of_ne_nil hlits.ne_nil] at hhead
      rcases hc with ⟨rfl, hlast⟩ | rfl
      · exact absurd ⟨hlast, hhead⟩ hminus
      · exact absurd hhead hlits.head?_ne_star

/-- What is written behind a token opens no comment with it if what it is read in front of does not,
and begins with no minus sign and no star of its own. -/
theorem not_opensComment {s rest next : List Char} {t : Token} (h : Lexeme s t rest)
    (hnil : rest = [] → next = [])
    (hnext : ∀ c, c = '-' ∧ t.render.toList.getLast? = some '-' ∨ c = '*' →
      next.head? = some c → rest.head? = some c) : t.opensComment next = false := by
  cases h with
  | @symbol text _ _ _ hopen =>
    simp only [opensComment, Bool.or_eq_false_iff, Bool.and_eq_false_imp, beq_iff_eq,
      beq_eq_false_iff_ne] at hopen ⊢
    refine ⟨fun htext hhead => hopen.1 htext (hnext '-' (Or.inl ⟨rfl, ?_⟩) hhead),
      fun htext hhead => hopen.2 htext (hnext '*' (Or.inr rfl) hhead)⟩
    rw [htext]
    rfl
  | lineComment => simp [opensComment]
  | lastComment => simp [opensComment, hnil rfl]
  | _ => rfl

/-- **No comment is opened.** Nor is one, by what follows, a longer one. -/
theorem writable_written {s : List Char} {ts : List Token} (h : Lexemes s ts) (params : List Param)
    (last : Option Char) : Writable (written params last ts) := by
  -- on the tokens; `last` is what the text so far ends in, which decides on the next gap
  induction h generalizing last with
  | nil => exact .nil
  | @cons s t rest ts hfirst hrest ih =>
    rw [written]
    rcases gap_append_placed params last t with hhere | ⟨lits, hlits, hhere | ⟨hhere, -⟩⟩
    · -- the token itself: what follows it begins as in the old text, where no comment was opened
      rw [hhere]
      refine .cons (wellFormed_of_lexeme hfirst) ?_ (ih _)
      refine not_opensComment hfirst ?_ ?_
      · rintro rfl
        cases hrest with
        | nil => rfl
        | cons hfirst _ => exact absurd hfirst.length_lt (Nat.not_lt_zero _)
      · intro c hc hhead
        refine head?_written hrest (hc.imp_left fun ⟨hminus, hlast⟩ => ⟨hminus, ?_⟩) hhead
        have hself : renderAll [t] = t.render.toList := List.append_nil _
        rw [hself, hlast]
        rfl
    · rw [hhere]
      exact .cons .space rfl (hlits.writable_append (ih _))
    · rw [hhere]
      exact hlits.writable_append (ih _)

/-! ## The new text -/

/-- **Substitution.** The literals of parameters fall into tokens. A text that falls into tokens is
refused for the first placeholder whose parameter is missing, and for nothing else. Otherwise the new
text has, blanks aside, the tokens of the old one with those of the literals in the places of the
placeholders if and only if no two of the tokens that are written fuse. -/
theorem substitute_exact_iff (params : List Param) {sql : String} {tokens : List Token}
    (hscan : Token.scan sql = some tokens) :
    (∀ p ∈ params, ∃ lits, Token.scan p.literal = some lits)
      ∧ (∀ n, firstBeyond? params.length (tokens.filterMap paramNumber?) = some n →
        substitute params sql = .error (.noSuchParameter n))
      ∧ (firstBeyond? params.length (tokens.filterMap paramNumber?) = none →
        ∃ text, substitute params sql = .ok text
          ∧ ((∃ read, Token.scan text = some read
              ∧ significant read = significant (tokens.flatMap (placed params)))
            ↔ fuse (written params none tokens) = false)) := by
  obtain ⟨hbeyond, hwithin⟩ := substituteTokens_outcome params none tokens
  have hrun : substitute params sql = substituteTokens params none tokens := by
    rw [substitute, hscan]
  rw [hrun]
  refine ⟨fun p _ => ?_, hbeyond, fun hnone => ?_⟩
  · obtain ⟨lits, -, hlits, -⟩ := p.scan_literal
    exact ⟨lits, hlits⟩
  obtain ⟨text, htext⟩ := hwithin hnone
  have hwritable := writable_written (scan_eq_some_iff.1 hscan) params none
  have hchars := toList_of_substituteTokens htext
  refine ⟨text, htext, ?_⟩
  rw [← exists_lexemes_iff hwritable, significant_written, ← hchars]
  exact exists_congr fun read => and_congr_left fun _ => scan_eq_some_iff

/-- The value of a parameter that is negative. -/
def minusSeven : Param :=
  ⟨some (.integer ⟨true, .w32⟩ (-7) (by decide)), .int, true⟩

/-- The second minus sign is kept from the first, so that the tokens are those of the difference. -/
theorem substitute_exact_minusSeven :
    ∃ tokens, Token.scan "select 1-$1" = some tokens
      ∧ firstBeyond? 1 (tokens.filterMap paramNumber?) = none
      ∧ ∃ text read, substitute [minusSeven] "select 1-$1" = .ok text
        ∧ Token.scan text = some read
        ∧ significant read
          = [word ⟨"select", none⟩, number "1" false, symbol "-", symbol "-", number "7" false] := by
  have hscan : Token.scan "select 1-$1"
      = some [word ⟨"select", none⟩, space, number "1" false, symbol "-", placeholder "$1"] := by
    decide +kernel
  obtain ⟨-, -, hexact⟩ := substitute_exact_iff [minusSeven] hscan
  have hwithin : firstBeyond? 1 ([word ⟨"select", none⟩, space, number "1" false, symbol "-",
      placeholder "$1"].filterMap paramNumber?) = none := by
    decide +kernel
  obtain ⟨text, htext, hread⟩ := hexact hwithin
  obtain ⟨read, hread, hsame⟩ := hread.2 (by decide +kernel)
  exact ⟨_, hscan, hwithin, text, read, htext, hread, hsame.trans (by decide +kernel)⟩

/-- The value of a parameter that is a text. -/
def textB : Param :=
  ⟨some (.text "b"), .varchar, true⟩

/-- Two texts side by side fuse: the one that names the output becomes part of the value. -/
theorem substitute_textBeside :
    Token.scan "SELECT $1'a'"
        = some [word ⟨"SELECT", none⟩, space, placeholder "$1", singleQuoted "a"]
      ∧ placed [textB] (placeholder "$1") = [singleQuoted "b"]
      ∧ substitute [textB] "SELECT $1'a'" = .ok "SELECT 'b''a'"
      ∧ Token.scan "SELECT 'b''a'" = some [word ⟨"SELECT", none⟩, space, singleQuoted "b'a"]
      ∧ significant [word ⟨"SELECT", none⟩, space, singleQuoted "b'a"]
        ≠ significant ([word ⟨"SELECT", none⟩, space, placeholder "$1", singleQuoted "a"].flatMap
          (placed [textB])) := by
  refine ⟨?_, ?_, ?_, ?_, ?_⟩ <;> decide +kernel

end Prepared
