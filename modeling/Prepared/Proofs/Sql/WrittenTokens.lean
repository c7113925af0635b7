import Prepared.Proofs.Sql.Scanning

/-!
# Written tokens read back

A token that is written in front of other text is read back from there, unless it goes on with what
follows or begins a comment with it (`Token.lexeme_render`). If it goes on, it is never read back
(`Token.not_goesOn_of_lexeme_render`), and what is read instead is no blank
(`Token.not_isBlank_of_lexeme_render`).

So tokens that are written one after the other, none of which begins a comment with what follows, are
read back, blanks aside, if and only if no two of them fuse (`exists_lexemes_iff`).
-/

namespace Prepared.Sql

/-! ## Escapes -/

theorem escapeChars_cons (c : Char) (s : List Char) :
    escapeChars (c :: s) = escapeChars [c] ++ escapeChars s := by
  conv_lhs => unfold escapeChars
  split
  case h_7 hbackslash hquote hfeed htab hreturn heq =>
    cases heq
    have hplain : escapeChars [c] = [c] := by simp [escapeChars]
    rw [hplain, List.singleton_append]
  all_goals
    rename_i heq
    cases heq
    try rfl

/-- One character that is put into a string with escapes is taken out of it. -/
theorem takeEscaped_escapeChars_singleton {c : Char} {s : List Char} (h : s ≠ []) :
    takeEscaped (escapeChars [c] ++ s) = (takeEscaped s).map fun r => (c :: r.1, r.2) := by
  by_cases hbackslash : c = '\\'
  · subst hbackslash; rfl
  by_cases hquote : c = '\''
  · subst hquote; rfl
  by_cases hfeed : c = '\n'
  · subst hfeed; rfl
  by_cases htab : c = '\t'
  · subst htab; rfl
  by_cases hreturn : c = '\r'
  · subst hreturn; rfl
  have hplain : escapeChars [c] = [c] := by simp [escapeChars]
  obtain ⟨d, s, rfl⟩ := List.exists_cons_of_ne_nil h
  rw [hplain, List.singleton_append, takeEscaped, if_neg hbackslash, if_neg hquote]

/-- What is put into a string with escapes is taken out of it, whatever follows. -/
theorem takeEscaped_escapeChars {text rest : List Char} (h : rest ≠ []) :
    takeEscaped (escapeChars text ++ rest)
      = (takeEscaped rest).map fun r => (text ++ r.1, r.2) := by
  induction text with
  | nil => simp [escapeChars]
  | cons c text ih =>
    have hne : escapeChars text ++ rest ≠ [] := List.append_ne_nil_of_right_ne_nil _ h
    rw [escapeChars_cons, List.append_assoc, takeEscaped_escapeChars_singleton hne, ih,
      Option.map_map]
    rfl

/-! ## Single tokens -/

namespace Token

/-- Tokens that can be read. -/
inductive WellFormed : Token → Prop where
  | word {text} (htext : IsWord text.toList) : WellFormed (word ⟨text, none⟩)
  | quotedWord (text) : WellFormed (word ⟨text, some '"'⟩)
  | number {text} (long) (htext : IsNumber text.toList) : WellFormed (number text long)
  | singleQuoted (text) : WellFormed (singleQuoted text)
  | escaped (text) : WellFormed (escaped text)
  | national (text) : WellFormed (national text)
  | hex (text) : WellFormed (hex text)
  | placeholder {text} (htext : IsPlaceholder text.toList) : WellFormed (placeholder text)
  | symbol {text} (htext : IsSymbol text) : WellFormed (symbol text)
  | space : WellFormed space
  | newline : WellFormed newline
  | tab : WellFormed tab
  | lineComment {text} (htext : '\n' ∉ text) : WellFormed (lineComment (String.ofList (text ++ ['\n'])))
  | lastComment {text} (htext : '\n' ∉ text.toList) : WellFormed (lineComment text)
  | blockComment {text}
      (htext : ∀ rest, takeComment 1 [] (text.toList ++ '*' :: '/' :: rest) = some (text.toList, rest)) :
      WellFormed (blockComment text)

/-- A token that is read is well-formed. -/
theorem wellFormed_of_lexeme {s rest : List Char} {t : Token} (h : Lexeme s t rest) :
    t.WellFormed := by
  cases h with
  | space | tab | lineFeed | carriageReturn | returnAndFeed => constructor
  | singleQuoted | national | hex | escaped | quotedWord | hexNumber => constructor
  | word htext _ => exact .word htext
  | number htext _ => exact .number _ htext
  | placeholder htext _ => exact .placeholder htext
  | symbol htext _ _ => exact .symbol htext
  | inequality => exact .symbol (.long (by decide) (by decide))
  | lineComment htext => exact .lineComment htext
  | lastComment htext => exact .lastComment htext
  | blockComment htext =>
    obtain ⟨w, -, hw, hagain⟩ := takeComment_eq_some htext
    refine .blockComment fun rest => ?_
    rw [List.reverse_nil, List.nil_append] at hw
    simpa [hw] using hagain rest

/-! ### Written and read -/

/-- A well-formed token is read back where it is written, unless it goes on with what follows or
begins a comment with it. -/
theorem lexeme_render {t : Token} {rest : List Char} (h : t.WellFormed) (hend : t.goesOn rest = false)
    (hopen : t.opensComment rest = false) : Lexeme (t.render.toList ++ rest) t rest := by
  have hquote {q : Char} (hend : rest.head?.any (· == q) = false) : rest.head? ≠ some q := by
    rintro he
    simp [he] at hend
  cases h with
  | word htext => exact .word htext hend
  | quotedWord text => simpa [render, quoted] using Lexeme.quotedWord (hquote hend)
  | number long htext => exact .number htext hend
  | singleQuoted text => simpa [render, quoted] using Lexeme.singleQuoted (hquote hend)
  | escaped text =>
    have htext : takeEscaped (escapeChars text.toList ++ '\'' :: rest) = some (text.toList, rest) := by
      have hclose : takeEscaped ('\'' :: rest) = some ([], rest) := by
        cases rest with
        | nil => rfl
        | cons c rest =>
          have hc : c ≠ '\'' := fun he => hquote hend (by rw [he]; rfl)
          simp [takeEscaped, hc]
      rw [takeEscaped_escapeChars (List.cons_ne_nil _ _), hclose, Option.map_some, List.append_nil]
    simpa [render, escapedString] using Lexeme.escaped (Or.inl rfl) htext
  | national text => simpa [render, quoted] using Lexeme.national (Or.inl rfl) (hquote hend)
  | hex text => simpa [render, quoted] using Lexeme.hex (Or.inl rfl) (hquote hend)
  | placeholder htext => exact .placeholder htext hend
  | symbol htext => exact .symbol htext hend hopen
  | space => exact .space (by decide) (by decide) (by decide) (by decide)
  | newline => exact .lineFeed
  | tab => exact .tab
  | lineComment htext => simpa [render] using Lexeme.lineComment htext
  | @lastComment text htext =>
    have hlast : text.toList.getLast? ≠ some '\n' := fun h => htext (List.mem_of_getLast? h)
    -- anything that follows would become part of the comment
    have hrest : rest = [] := by
      simpa [opensComment, hlast] using hopen
    rw [hrest]
    simpa [render] using Lexeme.lastComment htext
  | blockComment htext => simpa [render] using Lexeme.blockComment (htext rest)

/-- A token that is read back where it is written does not go on with what follows. -/
theorem not_goesOn_of_lexeme_render {t : Token} {rest rest' : List Char}
    (h : Lexeme (t.render.toList ++ rest) t rest') : t.goesOn rest = false := by
  have hquote {q : Char} (hend : rest'.head? ≠ some q) : rest'.head?.any (· == q) = false := by
    cases rest' with
    | nil => rfl
    | cons c rest => simpa using hend
  generalize hs : t.render.toList ++ rest = s at h
  cases h with
  | singleQuoted hrest =>
    have hs : rest = rest' := by simpa [render, quoted] using hs
    rw [hs]
    exact hquote hrest
  | quotedWord hrest =>
    have hs : rest = rest' := by simpa [render, quoted] using hs
    rw [hs]
    exact hquote hrest
  | national hc hrest =>
    obtain ⟨-, hs⟩ : 'N' = _ ∧ rest = rest' := by simpa [render, quoted] using hs
    rw [hs]
    exact hquote hrest
  | hex hc hrest =>
    obtain ⟨-, hs⟩ : 'X' = _ ∧ rest = rest' := by simpa [render, quoted] using hs
    rw [hs]
    exact hquote hrest
  | hexNumber => simp [render, quoted] at hs
  | @escaped c text s rest' hc htext =>
    obtain ⟨-, hs⟩ : 'E' = c ∧ escapeChars text.toList ++ '\'' :: rest = s := by
      simpa [render, escapedString] using hs
    rw [← Bool.not_eq_true]
    intro hquote
    -- the quote that follows is doubled, so that more than the text is taken
    obtain ⟨q, hhead, hq⟩ := (Option.any_eq_true _ _).1 hquote
    obtain ⟨rest, rfl⟩ := List.head?_eq_some_iff.1 hhead
    obtain rfl : q = '\'' := beq_iff_eq.1 hq
    rw [← hs, takeEscaped_escapeChars (List.cons_ne_nil _ _)] at htext
    obtain ⟨⟨more, _⟩, hmore, htext⟩ := Option.map_eq_some_iff.1 htext
    obtain ⟨⟨more', _⟩, -, hcons⟩ := Option.map_eq_some_iff.1 hmore
    rw [← hcons] at htext
    simp at htext
  | word htext hend =>
    rwa [List.append_cancel_left hs]
  | number _ hend => rwa [List.append_cancel_left hs]
  | placeholder _ hend => rwa [List.append_cancel_left hs]
  | symbol _ hend _ => rwa [List.append_cancel_left hs]
  | inequality => cases hs
  | space | tab | lineFeed | carriageReturn | returnAndFeed => rfl
  | lineComment | lastComment | blockComment => rfl

theorem WellFormed.render_ne_nil {t : Token} (h : t.WellFormed) : t.render.toList ≠ [] := by
  cases h with
  | word htext => exact htext.ne_nil
  | placeholder htext => exact htext.ne_nil
  | symbol htext => exact htext.ne_nil
  | number long htext =>
    rw [toList_render_number]
    exact List.append_ne_nil_of_left_ne_nil htext.ne_nil _
  | _ => simp [render, quoted, escapedString]

/-! ### Blanks -/

/-- A blank begins with white space or opens a comment. -/
theorem begins_of_isBlank {c : Char} {s rest : List Char} {t : Token} (h : Lexeme (c :: s) t rest)
    (hblank : t.isBlank = true) :
    Text.isBlank c = true ∨ (c = '-' ∧ s.head? = some '-') ∨ (c = '/' ∧ s.head? = some '*') := by
  generalize hs : c :: s = chars at h
  cases h with
  | space hc =>
    cases hs
    exact Or.inl hc
  | tab | lineFeed | carriageReturn | returnAndFeed =>
    cases hs
    exact Or.inl (by decide)
  | lineComment | lastComment =>
    cases hs
    exact Or.inr (Or.inl ⟨rfl, rfl⟩)
  | blockComment =>
    cases hs
    exact Or.inr (Or.inr ⟨rfl, rfl⟩)
  | _ => cases hblank

theorem isBlank_of_isWordStart {c : Char} (hc : isWordStart c = true) : Text.isBlank c = false := by
  rw [← Bool.not_eq_true]
  intro hblank
  rw [(plain_of_isBlank hblank).1] at hc
  cases hc

/-- What is read where a token is written that is no blank and opens no comment is no blank. -/
theorem not_isBlank_of_lexeme_render {t t' : Token} {rest rest' : List Char} (h : t.WellFormed)
    (hblank : t.isBlank = false) (hopen : t.opensComment rest = false)
    (hread : Lexeme (t.render.toList ++ rest) t' rest') : t'.isBlank = false := by
  -- the first character decides, with the second where a comment can begin
  have hother {c : Char} {s : List Char} (hs : t.render.toList ++ rest = c :: s)
      (hc : Text.isBlank c = false) (hline : c = '-' → s.head? ≠ some '-')
      (hblock : c = '/' → s.head? ≠ some '*') : t'.isBlank = false := by
    rw [← Bool.not_eq_true]
    intro hblank
    rw [hs] at hread
    rcases begins_of_isBlank hread hblank with h | ⟨h, hnext⟩ | ⟨h, hnext⟩
    · rw [hc] at h
      cases h
    · exact hline h hnext
    · exact hblock h hnext
  have hplain {c : Char} {s : List Char} (hs : t.render.toList ++ rest = c :: s)
      (hc : Text.isBlank c = false ∧ c ≠ '-' ∧ c ≠ '/') : t'.isBlank = false :=
    hother hs hc.1 (fun h => absurd h hc.2.1) (fun h => absurd h hc.2.2)
  cases h with
  | space | newline | tab | lineComment | lastComment | blockComment => cases hblank
  | @word text htext =>
    generalize hw : text.toList = w at htext
    obtain ⟨hc, -⟩ := htext
    have hs : (word ⟨text, none⟩).render.toList = _ := hw
    refine hplain (by rw [hs]; rfl) ⟨isBlank_of_isWordStart hc, ?_, ?_⟩
    · rintro rfl; cases hc
    · rintro rfl; cases hc
  | number long htext =>
    obtain ⟨c, w, hw, hc⟩ := htext.exists_cons
    refine hplain (by rw [toList_render_number, hw]; rfl) ⟨?_, ?_, ?_⟩
    · rw [← Bool.not_eq_true]
      intro hblank
      rw [(plain_of_isBlank hblank).2] at hc
      cases hc
    · rintro rfl; cases hc
    · rintro rfl; cases hc
  | @placeholder text htext =>
    generalize hw : text.toList = w at htext
    obtain ⟨hc, -⟩ := htext
    have hs : (placeholder text).render.toList = _ := hw
    refine hplain (by rw [hs]; rfl) ?_
    rcases hc with rfl | rfl <;> decide
  | @symbol text htext =>
    obtain ⟨c, s, hs⟩ := List.exists_cons_of_ne_nil htext.ne_nil
    have hwhole : (symbol text).render.toList ++ rest = c :: (s ++ rest) := by
      rw [← List.cons_append, ← hs]
      rfl
    obtain ⟨hline, hblock⟩ := htext.not_comment hwhole.symm hopen
    refine hother hwhole ?_ hline hblock
    by_cases hpoint : text = "."
    · obtain rfl : '.' = c := by
        rw [hpoint] at hs
        exact (List.cons.inj hs).1
      rfl
    · have hc := htext.begins hpoint hwhole.symm
      simp only [isSymbolChar, Bool.and_eq_true, Bool.not_eq_true'] at hc
      exact hc.2
  | singleQuoted text => exact hplain (c := '\'') (by simp [render, quoted]; rfl) (by decide)
  | quotedWord text => exact hplain (c := '"') (by simp [render, quoted]; rfl) (by decide)
  | escaped text => exact hplain (c := 'E') (by simp [render, escapedString]; rfl) (by decide)
  | national text => exact hplain (c := 'N') (by simp [render, quoted]; rfl) (by decide)
  | hex text => exact hplain (c := 'X') (by simp [render, quoted]; rfl) (by decide)

end Token

/-! ## Texts -/

namespace Token

/-- Tokens written one after the other. -/
def renderAll (ts : List Token) : List Char :=
  ts.flatMap fun t => t.render.toList

/-- Whether some of the tokens, written one after the other, go on with what follows them. -/
def fuse : List Token → Bool
  | [] => false
  | t :: ts => t.goesOn (renderAll ts) || fuse ts

/-- Tokens that can be read, none of which opens a comment where they are written one after the
other. -/
inductive Writable : List Token → Prop where
  | nil : Writable []
  | cons {t ts} (ht : t.WellFormed) (hopen : t.opensComment (renderAll ts) = false)
      (hts : Writable ts) : Writable (t :: ts)

/-- The tokens that are no blanks. -/
def significant (ts : List Token) : List Token :=
  ts.filter fun t => !t.isBlank

theorem lexemes_renderAll {ts : List Token} (h : Writable ts) (hfuse : fuse ts = false) :
    Lexemes (renderAll ts) ts := by
  induction h with
  | nil => exact .nil
  | cons ht hopen _ ih =>
    obtain ⟨hend, hfuse⟩ := Bool.or_eq_false_iff.1 hfuse
    exact .cons (lexeme_render ht hend hopen) (ih hfuse)

theorem isBlank_of_goesOn {t : Token} {rest : List Char} (h : t.goesOn rest = true) :
    t.isBlank = false := by
  cases t <;> first | rfl | cases h

/-- Tokens that fuse are not read back. -/
theorem not_fuse_of_lexemes {ts read : List Token} (h : Writable ts)
    (hread : Lexemes (renderAll ts) read) (hsame : significant read = significant ts) :
    fuse ts = false := by
  induction h generalizing read with
  | nil => rfl
  | @cons t ts ht hopen _ ih =>
    have hrender : renderAll (t :: ts) = t.render.toList ++ renderAll ts := List.flatMap_cons ..
    rw [hrender] at hread
    generalize hs : t.render.toList ++ renderAll ts = s at hread
    cases hread with
    | nil => exact absurd (List.append_eq_nil_iff.1 hs).1 ht.render_ne_nil
    | @cons _ t' rest read hfirst hrest =>
      rw [← hs] at hfirst
      have hend : t.goesOn (renderAll ts) = false := by
        rw [← Bool.not_eq_true]
        intro hgoesOn
        have hblank := isBlank_of_goesOn hgoesOn
        have hblank' := not_isBlank_of_lexeme_render ht hblank hopen hfirst
        -- both begin with a token that is no blank, and so with the same
        obtain rfl : t' = t := by
          simp only [significant, List.filter_cons, hblank, hblank'] at hsame
          exact (List.cons.inj hsame).1
        rw [not_goesOn_of_lexeme_render hfirst] at hgoesOn
        cases hgoesOn
      obtain ⟨rfl, rfl⟩ := hfirst.unique (lexeme_render ht hend hopen)
      refine Bool.or_eq_false_iff.2 ⟨hend, ih hrest ?_⟩
      cases hblank : t'.isBlank with
      | true => simpa [significant, hblank] using hsame
      | false => simpa [significant, hblank] using hsame

/-- **Written tokens read back.** Blanks aside, the tokens are those of the text that they are written
as if and only if no two of them fuse. -/
theorem exists_lexemes_iff {ts : List Token} (h : Writable ts) :
    (∃ read, Lexemes (renderAll ts) read ∧ significant read = significant ts) ↔ fuse ts = false :=
  ⟨fun ⟨_, hread, hsame⟩ => not_fuse_of_lexemes h hread hsame,
    fun hfuse => ⟨ts, lexemes_renderAll h hfuse, rfl⟩⟩

end Token

end Prepared.Sql
