import Mathlib.Data.List.Find
import Prepared.Proofs.Sql.Lexeme
import Prepared.Proofs.Text.Trimming

/-!
# Scanning reads the tokens of a text

`Token.next?` takes exactly the token off a text that the text begins with (`next?_eq_some_iff`), and
`Token.scan` gives exactly the tokens that it falls into (`scan_eq_some_iff`); there are no others
(`Lexeme.unique`).
-/

namespace Prepared.Sql

open Text (span_append exists_span)

/-! ## Quoted text and comments -/

/-- Quoted text is taken up to the first quote that is not doubled. -/
theorem takeQuoted_eq_some_iff {quote : Char} {s text rest : List Char} :
    takeQuoted quote s = some (text, rest)
      ↔ s = doubleQuotes quote text ++ quote :: rest ∧ rest.head? ≠ some quote := by
  constructor
  · intro h
    fun_induction takeQuoted quote s generalizing text with
    | case1 => cases h
    | case2 => cases h; simp [doubleQuotes]
    | case3 => cases h
    | case4 s ih =>
      obtain ⟨⟨text', rest'⟩, hs, ⟨⟩⟩ := Option.map_eq_some_iff.1 h
      obtain ⟨rfl, hrest⟩ := ih hs
      simp [doubleQuotes, hrest]
    | case5 d s hd =>
      cases h
      simp [doubleQuotes, hd]
    | case6 c d s hc ih =>
      obtain ⟨⟨text', rest'⟩, hs, ⟨⟩⟩ := Option.map_eq_some_iff.1 h
      obtain ⟨hsplit, hrest⟩ := ih hs
      simp [doubleQuotes, hc, hsplit, hrest]
  · rintro ⟨rfl, hrest⟩
    exact takeQuoted_doubleQuotes quote text rest hrest

/-- The same for the token that is made of the text. -/
theorem scanQuoted_eq_some_iff {quote : Char} {token : String → Token} {s rest : List Char}
    {t : Token} :
    Token.scanQuoted quote token s = some (t, rest)
      ↔ ∃ text : String, t = token text ∧ s = doubleQuotes quote text.toList ++ quote :: rest
        ∧ rest.head? ≠ some quote := by
  constructor
  · intro h
    obtain ⟨⟨text, _⟩, htake, ⟨⟩⟩ := Option.map_eq_some_iff.1 h
    obtain ⟨hsplit, hend⟩ := takeQuoted_eq_some_iff.1 htake
    exact ⟨String.ofList text, rfl, by rwa [String.toList_ofList], hend⟩
  · rintro ⟨text, rfl, hsplit, hend⟩
    rw [Token.scanQuoted, takeQuoted_eq_some_iff.2 ⟨hsplit, hend⟩, Option.map_some,
      String.ofList_toList]

/-- An escaped text ends in a quote, which is read with it. -/
theorem length_lt_of_takeEscaped {s text rest : List Char}
    (h : takeEscaped s = some (text, rest)) : rest.length < s.length := by
  fun_induction takeEscaped s generalizing text with
  | case1 => cases h
  | case2 => cases h; simp
  | case3 => cases h
  | case4 d s ih =>
    obtain ⟨⟨text', rest'⟩, hs, ⟨⟩⟩ := Option.map_eq_some_iff.1 h
    exact Nat.lt_add_right 2 (ih hs)
  | case5 s _ ih =>
    obtain ⟨⟨text', rest'⟩, hs, ⟨⟩⟩ := Option.map_eq_some_iff.1 h
    exact Nat.lt_add_right 2 (ih hs)
  | case6 => cases h; simp
  | case7 c d s _ _ ih =>
    obtain ⟨⟨text', rest'⟩, hs, ⟨⟩⟩ := Option.map_eq_some_iff.1 h
    exact Nat.lt_add_right 1 (ih hs)

/-- A comment is read up to its end, whatever follows. -/
theorem takeComment_eq_some {depth : Nat} {before s text rest : List Char}
    (h : takeComment depth before s = some (text, rest)) :
    ∃ w, s = w ++ rest ∧ before.reverse ++ w = text ++ ['*', '/']
      ∧ ∀ rest', takeComment depth before (w ++ rest') = some (text, rest') := by
  -- on the text: `w` is what has been read of it, and each character is read by looking at it and at
  -- the one before alone
  induction s generalizing depth before with
  | nil => cases h
  | cons c s ih =>
    have hgoesOn {depth' : Nat} (hread : takeComment depth' (c :: before) s = some (text, rest))
        (hstep : ∀ s', takeComment depth before (c :: s') = takeComment depth' (c :: before) s') :
        ∃ w, c :: s = w ++ rest ∧ before.reverse ++ w = text ++ ['*', '/']
          ∧ ∀ rest', takeComment depth before (w ++ rest') = some (text, rest') := by
      obtain ⟨w, rfl, hw, hagain⟩ := ih hread
      refine ⟨c :: w, rfl, ?_, fun rest' => (hstep (w ++ rest')).trans (hagain rest')⟩
      rw [← hw, List.reverse_cons, List.append_assoc, List.singleton_append]
    unfold takeComment at h
    split at h
    · rename_i hopen
      exact hgoesOn h fun s' => by rw [takeComment, if_pos hopen]
    · rename_i hopen
      split at h
      · rename_i hclose
        split at h
        · rename_i hdepth
          cases h
          obtain ⟨b, rfl⟩ : ∃ b, before = '*' :: b := List.head?_eq_some_iff.1 hclose.1
          refine ⟨[c], rfl, by simp [hclose.2], fun rest' => ?_⟩
          rw [List.singleton_append, takeComment, if_neg hopen, if_pos hclose, if_pos hdepth]
        · rename_i hdepth
          exact hgoesOn h fun s' => by
            rw [takeComment, if_neg hopen, if_pos hclose, if_neg hdepth]
      · rename_i hclose
        exact hgoesOn h fun s' => by rw [takeComment, if_neg hopen, if_neg hclose]

/-- A comment ends in two characters, which are read with it. -/
theorem length_lt_of_takeComment {s text rest : List Char}
    (h : takeComment 1 [] s = some (text, rest)) : rest.length < s.length := by
  obtain ⟨w, rfl, hw, -⟩ := takeComment_eq_some h
  have hlength : w.length = text.length + 2 := by simpa using congrArg List.length hw
  rw [List.length_append]
  omega

/-! ## Reading a token -/

theorem not_isReserved_of {p : Char → Bool} {c : Char} (hc : p c = true)
    (hnone : [' ', '\t', '\n', '\r', '\'', '"', '$', '?'].any p = false) : isReserved c = false := by
  rw [isReserved, List.contains_eq_mem, decide_eq_false_iff_not]
  exact fun hmem => List.any_eq_false.1 hnone c hmem hc

/-- White space is no letter, no digit and no point: none of it lies between the point and the last
letter. -/
theorem plain_of_isBlank {c : Char} (h : Text.isBlank c = true) :
    isWordStart c = false ∧ (Text.isDigit c || c == '.') = false := by
  obtain ⟨r, hr, hlow, hhigh⟩ := Text.CharSet.contains_iff.1 h
  have hranges : ∀ r ∈ Text.whiteSpace.ranges, r.2 < '.'.toNat ∨ 'z'.toNat < r.1 := by decide
  have houtside : c.toNat < '.'.toNat ∨ 'z'.toNat < c.toNat :=
    (hranges r hr).imp (Nat.lt_of_le_of_lt hhigh) fun h => Nat.lt_of_lt_of_le h hlow
  have hinside {low high : Char} (hc : low ≤ c ∧ c ≤ high) (hlow : '.'.toNat ≤ low.toNat)
      (hhigh : high.toNat ≤ 'z'.toNat) : False := by
    have hc : low.toNat ≤ c.toNat ∧ c.toNat ≤ high.toNat := hc
    omega
  simp only [← Bool.not_eq_true, isWordStart, Text.isAsciiLetter, Text.isDigit, Bool.or_eq_true,
    Bool.and_eq_true, beq_iff_eq, decide_eq_true_eq]
  constructor
  · rintro ((hc | hc) | rfl)
    · exact hinside hc (by decide) (by decide)
    · exact hinside hc (by decide) (by decide)
    · exact absurd houtside (by decide)
  · rintro (hc | rfl)
    · exact hinside hc (by decide) (by decide)
    · exact absurd houtside (by decide)

/-- What is read where no kind of token but words, numbers and symbols can begin. -/
theorem next?_of_not_reserved {c : Char} {s : List Char} (hc : isReserved c = false)
    (hline : c = '-' → s.head? ≠ some '-') (hblock : c = '/' → s.head? ≠ some '*') :
    Token.next? c s
      = if isWordStart c then Token.scanLetter c s
        else if Text.isDigit c || c == '.' then some (Token.scanNumber (c :: s))
        else if Text.isBlank c then some (.space, s)
        else some (Token.scanSymbol c s) := by
  unfold Token.next?
  split
  case h_12 => rfl
  case h_8 => exact absurd rfl (hline rfl)
  case h_9 => exact absurd rfl (hblock rfl)
  all_goals cases hc

/-- A letter is looked at more closely before it is read as the first of a word. -/
theorem next?_of_isWordStart {c : Char} (hc : isWordStart c = true) (s : List Char) :
    Token.next? c s = Token.scanLetter c s := by
  rw [next?_of_not_reserved (not_isReserved_of hc (by decide)) (by rintro rfl; cases hc)
    (by rintro rfl; cases hc), if_pos hc]

/-! ### Words -/

theorem scanWord_eq {c : Char} {w rest : List Char} (hw : ∀ d ∈ w, isWordPart d = true)
    (hend : rest.head?.any isWordPart = false) :
    Token.scanWord c (w ++ rest) = (.word ⟨String.ofList (c :: w), none⟩, rest) := by
  obtain ⟨htake, hdrop⟩ := span_append hw hend
  rw [Token.scanWord, htake, hdrop]

/-- A word that does not announce the quote behind it is read up to its end. -/
theorem scanLetter_eq {c : Char} {w rest : List Char} (hw : ∀ d ∈ w, isWordPart d = true)
    (hend : (Token.word ⟨String.ofList (c :: w), none⟩).goesOn rest = false) :
    Token.scanLetter c (w ++ rest) = some (.word ⟨String.ofList (c :: w), none⟩, rest) := by
  have hpart : rest.head?.any isWordPart = false := by
    cases rest with
    | nil => rfl
    | cons d rest => exact (Bool.or_eq_false_iff.1 hend).1
  rw [← scanWord_eq hw hpart]
  unfold Token.scanLetter
  split
  · rename_i rest' hquote
    obtain ⟨rfl, rfl⟩ : w = [] ∧ rest = '\'' :: rest' := by
      cases w with
      | nil => exact ⟨rfl, hquote⟩
      | cons d w =>
        obtain ⟨rfl, -⟩ := List.cons.inj hquote
        cases hw '\'' List.mem_cons_self
    have hplain : announcesQuote [c] = false := by
      have hquote : (isWordPart '\'' || ('\'' == '\'' && announcesQuote (String.ofList [c]).toList))
          = false := hend
      rw [String.toList_ofList] at hquote
      exact (Bool.or_eq_false_iff.1 hquote).2
    simp only [announcesQuote, List.contains_eq_mem, List.mem_cons, List.cons.injEq, and_true,
      List.not_mem_nil, or_false, decide_eq_false_iff_not, not_or] at hplain
    obtain ⟨hN, hn, hX, hx, hE, he⟩ := hplain
    rw [if_neg (by simp [hN, hn]), if_neg (by simp [hX, hx]), if_neg (by simp [hE, he])]
  · rfl

/-- A letter begins a word, or announces a quote. -/
theorem lexeme_of_scanLetter {c : Char} {s rest : List Char} {t : Token}
    (hc : isWordStart c = true) (h : Token.scanLetter c s = some (t, rest)) :
    Lexeme (c :: s) t rest := by
  -- a word, which is read as far as it goes
  have hword (hplain : ∀ s', s = '\'' :: s' → announcesQuote [c] = false)
      (h : some (Token.scanWord c s) = some (t, rest)) : Lexeme (c :: s) t rest := by
    obtain ⟨w, r, rfl, hw, hstop⟩ := exists_span isWordPart s
    rw [scanWord_eq hw hstop] at h
    cases h
    have hend : (Token.word ⟨String.ofList (c :: w), none⟩).goesOn rest = false := by
      cases rest with
      | nil => rfl
      | cons d rest =>
        refine Bool.or_eq_false_iff.2 ⟨hstop, Bool.and_eq_false_imp.2 fun hd => ?_⟩
        obtain rfl : d = '\'' := beq_iff_eq.1 hd
        rw [String.toList_ofList]
        cases w with
        | nil => exact hplain rest rfl
        | cons d' w => simp [announcesQuote]
    have hlexeme := Lexeme.word (by rw [String.toList_ofList]; exact ⟨hc, hw⟩) hend
    rwa [String.toList_ofList] at hlexeme
  unfold Token.scanLetter at h
  split at h
  · rename_i s'
    split at h
    · rename_i hN
      obtain ⟨text, rfl, rfl, hend⟩ := scanQuoted_eq_some_iff.1 h
      exact .national hN hend
    · split at h
      · rename_i hX
        obtain ⟨text, rfl, rfl, hend⟩ := scanQuoted_eq_some_iff.1 h
        exact .hex hX hend
      · split at h
        · rename_i hE
          obtain ⟨⟨text, _⟩, htake, ⟨⟩⟩ := Option.map_eq_some_iff.1 h
          exact .escaped hE (by rw [String.toList_ofList]; exact htake)
        · rename_i hN hX hE
          refine hword (fun _ _ => ?_) h
          simp only [not_or] at hN hX hE
          simp [announcesQuote, hN, hX, hE]
  · rename_i hother
    exact hword (fun s' hs => absurd hs (hother s')) h

/-! ### Symbols -/

/-- Long symbols begin with characters that are symbols. -/
theorem isSymbolChar_of_prefix {l : String} {c : Char} {s : List Char} (hl : l ∈ longSymbols)
    (h : l.toList.isPrefixOf (c :: s) = true) : isSymbolChar c = true := by
  have hbegin : ∀ l ∈ longSymbols, l.toList.head?.any isSymbolChar = true := by decide +kernel
  obtain ⟨d, hd, hsymbol⟩ := (Option.any_eq_true _ _).1 (hbegin l hl)
  obtain ⟨tail, htail⟩ := List.head?_eq_some_iff.1 hd
  rw [htail] at h
  obtain rfl : d = c := by simpa using (Bool.and_eq_true_iff.1 h).1
  exact hsymbol

/-- Of the symbols that a text begins with, none is longer than one that does not go on. -/
theorem length_le_of_not_goesOn {text l : String} {rest : List Char}
    (hend : (Token.symbol text).goesOn rest = false) (hl : l ∈ longSymbols)
    (hpre : l.toList <+: text.toList ++ rest) : l.toList.length ≤ text.toList.length := by
  have hlonger := List.any_eq_false.1 (Bool.or_eq_false_iff.1 hend).1 l hl
  simp only [Bool.and_eq_true, decide_eq_true_eq, List.isPrefixOf_iff_prefix, not_and'] at hlonger
  rw [String.length_toList, String.length_toList]
  exact Nat.not_lt.1 (hlonger hpre)

/-- What is behind a symbol that does not go on has no part in how it is read. -/
theorem find?_of_not_goesOn {text : String} {rest : List Char}
    (hend : (Token.symbol text).goesOn rest = false) :
    longSymbols.find? (fun l => l.toList.isPrefixOf (text.toList ++ rest))
      = longSymbols.find? fun l => l.toList.isPrefixOf text.toList := by
  refine List.find?_congr fun l hl => ?_
  rw [Bool.eq_iff_iff, List.isPrefixOf_iff_prefix, List.isPrefixOf_iff_prefix]
  constructor
  · intro hpre
    exact List.prefix_of_prefix_length_le hpre (List.prefix_append _ _)
      (length_le_of_not_goesOn hend hl hpre)
  · exact fun h => h.trans (List.prefix_append _ _)

theorem drop_of_long {text : String} {c : Char} {s rest : List Char} (hmem : text ∈ longSymbols)
    (hs : c :: s = text.toList ++ rest) : s.drop (text.length - 1) = rest := by
  have hne : ∀ text ∈ longSymbols, text.toList ≠ [] := by decide
  obtain ⟨d, tail, htail⟩ := List.exists_cons_of_ne_nil (hne text hmem)
  rw [htail] at hs
  rw [(List.cons.inj hs).2, ← String.length_toList, htail]
  exact List.drop_left

/-- A symbol that does not go on is read as it stands: nothing longer fits, and it is the first of
the long ones that does, or none of them fits. -/
theorem scanSymbol_of_isSymbol {text : String} {c : Char} {s rest : List Char}
    (htext : IsSymbol text) (hne : text ≠ ".") (hs : c :: s = text.toList ++ rest)
    (hend : (Token.symbol text).goesOn rest = false) :
    Token.scanSymbol c s = (.symbol text, rest) := by
  have hfind := find?_of_not_goesOn hend
  unfold Token.scanSymbol
  rw [hs, hfind]
  cases htext with
  | long hmem hne =>
    -- no long symbol comes behind one that it begins with
    have hself : ∀ text ∈ longSymbols,
        longSymbols.find? (fun l => l.toList.isPrefixOf text.toList) = some text := by decide +kernel
    rw [hself text hmem]
    split
    · rename_i heq
      exact absurd (Option.some.inj heq) hne
    · rename_i heq
      rw [← Option.some.inj heq, drop_of_long hmem hs]
    · rename_i heq
      cases heq
  | point => exact absurd rfl hne
  | @char c' hc =>
    have hnone : longSymbols.find? (fun l => l.toList.isPrefixOf (String.singleton c').toList)
        = none := by
      refine List.find?_eq_none.2 fun l hl hpre => ?_
      have hlong : ∀ l ∈ longSymbols, 1 < l.toList.length := by decide
      have hlength := (List.isPrefixOf_iff_prefix.1 hpre).length_le
      rw [String.toList_singleton] at hlength
      exact absurd hlength (Nat.not_le.2 (hlong l hl))
    rw [hnone]
    obtain ⟨rfl, rfl⟩ : c = c' ∧ s = rest := by simpa using hs
    rfl

/-- The symbol that is found first is the longest: a longer one that begins with it comes before it in
the list. -/
theorem not_goesOn_of_find? {text : String} {rest : List Char}
    (h : longSymbols.find? (fun l => l.toList.isPrefixOf (text.toList ++ rest)) = some text) :
    (Token.symbol text).goesOn rest = false := by
  obtain ⟨hpre, before, after, hsplit, hbefore⟩ := List.find?_eq_some_iff_append.1 h
  have hpoint : text ≠ "." := by
    have hlong : ∀ text ∈ longSymbols, text ≠ "." := by decide
    exact hlong text (List.mem_of_find?_eq_some h)
  refine Bool.or_eq_false_iff.2 ⟨List.any_eq_false.2 fun l hl hlonger => ?_, by simp [hpoint]⟩
  obtain ⟨hlength, hpre'⟩ := Bool.and_eq_true_iff.1 hlonger
  have hlength : text.toList.length < l.toList.length := by
    rw [String.length_toList, String.length_toList]
    exact of_decide_eq_true hlength
  have hbegins : text.toList <+: l.toList :=
    List.prefix_of_prefix_length_le (List.isPrefixOf_iff_prefix.1 hpre)
      (List.isPrefixOf_iff_prefix.1 hpre') (Nat.le_of_lt hlength)
  have horder : longSymbols.Pairwise fun a b => ¬a.toList.isPrefixOf b.toList := by decide
  rw [hsplit] at hl horder
  rcases List.mem_append.1 hl with hl | hl
  · simpa [hpre'] using hbefore l hl
  rcases List.mem_cons.1 hl with rfl | hl
  · exact absurd hlength (Nat.lt_irrefl _)
  · have horder := (List.pairwise_cons.1 (List.pairwise_append.1 horder).2.1).1 l hl
    exact horder (List.isPrefixOf_iff_prefix.2 hbegins)

/-- Three ways to read a symbol: the inequality that has two spellings, a long symbol, and a single
character. -/
theorem lexeme_of_scanSymbol {c : Char} {s rest : List Char} {t : Token} (hc : isSymbolChar c = true)
    (hline : c = '-' → s.head? ≠ some '-') (hblock : c = '/' → s.head? ≠ some '*')
    (h : Token.scanSymbol c s = (t, rest)) : Lexeme (c :: s) t rest := by
  unfold Token.scanSymbol at h
  split at h
  · rename_i hfind
    cases h
    have hpre := List.find?_some hfind
    obtain ⟨rest, hrest⟩ := List.isPrefixOf_iff_prefix.1 hpre
    obtain ⟨rfl, rfl⟩ : '!' = c ∧ '=' :: rest = s := by simpa using hrest
    exact .inequality
  · rename_i text hne hfind
    cases h
    have hmem := List.mem_of_find?_eq_some hfind
    have hpre := List.find?_some hfind
    obtain ⟨rest, hrest⟩ := List.isPrefixOf_iff_prefix.1 hpre
    -- comments begin with two short symbols, so a long one opens none
    have hplain : ∀ text ∈ longSymbols, text ≠ "-" ∧ text ≠ "/" := by decide
    obtain ⟨hminus, hslash⟩ := hplain text hmem
    rw [← hrest] at hfind
    have hend := not_goesOn_of_find? hfind
    have hopen : (Token.symbol text).opensComment rest = false := by
      simp [Token.opensComment, hminus, hslash]
    rw [drop_of_long hmem hrest.symm, ← hrest]
    exact .symbol (.long hmem hne) hend hopen
  · rename_i hfind
    cases h
    have hnone := List.find?_eq_none.1 hfind
    have hpoint : c ≠ '.' := by
      rintro rfl
      cases hc
    have hend : (Token.symbol (String.singleton c)).goesOn s = false := by
      refine Bool.or_eq_false_iff.2 ⟨List.any_eq_false.2 fun l hl hlonger => ?_, ?_⟩
      · rw [String.toList_singleton] at hlonger
        exact hnone l hl (Bool.and_eq_true_iff.1 hlonger).2
      · simp [← String.toList_inj, hpoint]
    have hopen : (Token.symbol (String.singleton c)).opensComment s = false := by
      simp only [Token.opensComment, Bool.or_eq_false_iff, Bool.and_eq_false_imp, beq_iff_eq,
        ← String.toList_inj, String.toList_singleton, beq_eq_false_iff_ne]
      exact ⟨fun h => hline (List.singleton_inj.1 h), fun h => hblock (List.singleton_inj.1 h)⟩
    have hlexeme := Lexeme.symbol (.char hc) hend hopen
    rwa [String.toList_singleton] at hlexeme

/-! ### Numbers -/

/-- The point that a text may begin with. -/
def pointOf : List Char → List Char × List Char
  | '.' :: rest => (['.'], rest)
  | rest => ([], rest)

/-- What a text of digits with a point is, and what is behind it. -/
def endNumber (text : String) (rest : List Char) : Token × List Char :=
  match text, rest with
  | ".", rest => (.symbol ".", rest)
  | text, 'L' :: rest => (.number text true, rest)
  | text, rest => (.number text false, rest)

theorem pointOf_of_ne {s : List Char} (h : s.head? ≠ some '.') : pointOf s = ([], s) := by
  unfold pointOf
  split
  · exact absurd rfl h
  · rfl

/-- Digits are read, then a point, then the digits behind it. -/
theorem scanNumber_of_not_hex {w rest : List Char} (hw : ∀ d ∈ w, Text.isDigit d = true)
    (hend : rest.head?.any Text.isDigit = false) (hx : w = ['0'] → rest.head? ≠ some 'x') :
    Token.scanNumber (w ++ rest)
      = endNumber (String.ofList (w ++ (pointOf rest).1 ++ (pointOf rest).2.takeWhile Text.isDigit))
        ((pointOf rest).2.dropWhile Text.isDigit) := by
  obtain ⟨hwhole, hrest⟩ := span_append hw hend
  unfold Token.scanNumber
  rw [hwhole, hrest]
  dsimp only
  split
  · exact absurd rfl (hx rfl)
  · rfl

theorem scanNumber_hex {w rest : List Char} (hw : ∀ d ∈ w, isHexDigit d = true)
    (hend : rest.head?.any isHexDigit = false) :
    Token.scanNumber ('0' :: 'x' :: (w ++ rest)) = (.hex (String.ofList w), rest) := by
  obtain ⟨htake, hdrop⟩ := span_append hw hend
  have hread : Token.scanNumber ('0' :: 'x' :: (w ++ rest))
      = (.hex (String.ofList ((w ++ rest).takeWhile isHexDigit)), (w ++ rest).dropWhile isHexDigit) :=
    rfl
  rw [hread, htake, hdrop]

theorem scanNumber_decimal {w fraction rest : List Char} (hw : ∀ d ∈ w, Text.isDigit d = true)
    (hfraction : ∀ d ∈ fraction, Text.isDigit d = true)
    (hend : rest.head?.any Text.isDigit = false) :
    Token.scanNumber (w ++ '.' :: (fraction ++ rest))
      = endNumber (String.ofList (w ++ '.' :: fraction)) rest := by
  obtain ⟨htake, hdrop⟩ := span_append hfraction hend
  rw [scanNumber_of_not_hex hw rfl (by simp)]
  simp only [pointOf, htake, hdrop, List.append_assoc, List.singleton_append]

/-- A number goes on with a digit, the suffix, its first point, or the `x` behind a single zero. -/
theorem goesOn_number {text : String} {rest : List Char} :
    (Token.number text false).goesOn rest = false
      ↔ rest.head?.any Text.isDigit = false ∧ rest.head? ≠ some 'L'
        ∧ ('.' ∈ text.toList ∨ rest.head? ≠ some '.') ∧ (text = "0" → rest.head? ≠ some 'x') := by
  cases rest with
  | nil => simp [Token.goesOn]
  | cons c rest =>
    by_cases hpoint : c = '.'
    · subst hpoint
      simp [Token.goesOn, show Text.isDigit '.' = false from rfl]
    · simp [Token.goesOn, hpoint, and_assoc, imp_not_comm]

/-- A number has a digit before the point or behind it. -/
theorem IsNumber.ne_point {w : List Char} (h : IsNumber w) : String.ofList w ≠ "." := by
  intro he
  have he : w = ['.'] := by simpa using congrArg String.toList he
  cases h with
  | whole _ hw => cases hw '.' (by rw [he]; exact List.mem_singleton_self _)
  | @decimal w fraction hne _ _ =>
    refine hne (List.eq_nil_of_length_eq_zero ?_)
    have hlength := congrArg List.length he
    simp only [List.length_append, List.length_cons, List.length_nil] at hlength ⊢
    omega

/-- A number ends where it cannot go on. -/
theorem endNumber_eq {text : String} {long : Bool} {rest : List Char} (hne : text ≠ ".")
    (hend : long = false → rest.head? ≠ some 'L') :
    endNumber text ((if long then ['L'] else []) ++ rest) = (.number text long, rest) := by
  unfold endNumber
  cases long with
  | true =>
    split
    · exact absurd rfl hne
    · rename_i heq
      cases heq
      rfl
    · rename_i hother
      exact absurd rfl (hother rest)
  | false =>
    split
    · exact absurd rfl hne
    · rename_i heq
      exact absurd (congrArg List.head? heq) (hend rfl)
    · rfl

/-- What is read as a number is one, with the suffix or without. -/
theorem lexeme_of_endNumber {w s rest : List Char} {t : Token} (hw : IsNumber w)
    (hdigit : s.head?.any Text.isDigit = false) (hpoint : '.' ∈ w ∨ s.head? ≠ some '.')
    (hx : w = ['0'] → s.head? ≠ some 'x')
    (h : endNumber (String.ofList w) s = (t, rest)) : Lexeme (w ++ s) t rest := by
  have hne := hw.ne_point
  have htext : IsNumber (String.ofList w).toList := by rwa [String.toList_ofList]
  unfold endNumber at h
  split at h
  · exact absurd ‹_› hne
  · cases h
    have hlexeme := @Lexeme.number _ true rest htext rfl
    simpa [Token.render] using hlexeme
  · rename_i hother _
    cases h
    have hend : (Token.number (String.ofList w) false).goesOn rest = false := by
      refine goesOn_number.2 ⟨hdigit, ?_, by rwa [String.toList_ofList], fun h => hx ?_⟩
      · intro hL
        obtain ⟨s', rfl⟩ := List.head?_eq_some_iff.1 hL
        exact hother s' rfl
      · simpa using congrArg String.toList h
    have hlexeme := Lexeme.number htext hend
    simpa [Token.render] using hlexeme

/-- A row of digits with or without a point is read as a number, unless there is more of it. -/
theorem scanNumber_append {w rest : List Char} (hw : IsNumber w)
    (hdigit : rest.head?.any Text.isDigit = false) (hpoint : '.' ∈ w ∨ rest.head? ≠ some '.')
    (hx : w = ['0'] → rest.head? ≠ some 'x') :
    Token.scanNumber (w ++ rest) = endNumber (String.ofList w) rest := by
  cases hw with
  | whole hne hw =>
    have hpoint : rest.head? ≠ some '.' := hpoint.resolve_left fun hmem => by cases hw '.' hmem
    obtain ⟨htake, hdrop⟩ := span_append (w := []) (by simp) hdigit
    rw [List.nil_append] at htake hdrop
    rw [scanNumber_of_not_hex hw hdigit hx, pointOf_of_ne hpoint]
    simp only [htake, hdrop, List.append_nil]
  | decimal _ hw hfraction =>
    rw [List.append_assoc, List.cons_append]
    exact scanNumber_decimal hw hfraction hdigit

/-- What begins with a digit or a point is a number in base 16, a number with a point or without,
or a point that stands alone. -/
theorem lexeme_of_scanNumber {c : Char} {s rest : List Char} {t : Token}
    (hc : (Text.isDigit c || c == '.') = true) (h : Token.scanNumber (c :: s) = (t, rest)) :
    Lexeme (c :: s) t rest := by
  obtain ⟨w, r, hsplit, hw, hend⟩ := exists_span Text.isDigit (c :: s)
  rw [hsplit] at h ⊢
  -- digits, with an `x` behind a single zero, a point, or something else behind them
  by_cases hx : w = ['0'] ∧ r.head? = some 'x'
  · obtain ⟨rfl, hhead⟩ := hx
    obtain ⟨r, rfl⟩ := List.head?_eq_some_iff.1 hhead
    obtain ⟨w, r, rfl, hhex, hstop⟩ := exists_span isHexDigit r
    have hread : (.hex (String.ofList w), r) = (t, rest) := (scanNumber_hex hhex hstop).symm.trans h
    cases hread
    have hlexeme := @Lexeme.hexNumber (String.ofList w) rest (by rwa [String.toList_ofList]) hstop
    rwa [String.toList_ofList] at hlexeme
  have hx : w = ['0'] → r.head? ≠ some 'x' := fun hw hr => hx ⟨hw, hr⟩
  by_cases hpoint : r.head? = some '.'
  · obtain ⟨r, rfl⟩ := List.head?_eq_some_iff.1 hpoint
    obtain ⟨fraction, r, rfl, hfraction, hstop⟩ := exists_span Text.isDigit r
    by_cases hne : w ++ fraction = []
    · obtain ⟨rfl, rfl⟩ := List.append_eq_nil_iff.1 hne
      -- the point stands alone
      have hread : (.symbol ".", r) = (t, rest) := (scanNumber_decimal hw hfraction hstop).symm.trans h
      cases hread
      refine @Lexeme.symbol "." _ .point ?_ rfl
      -- no symbol of more than one character begins with a point
      simp only [Token.goesOn, beq_self_eq_true, Bool.true_and, Bool.or_eq_false_iff]
      refine ⟨List.any_eq_false.2 fun l hl hlonger => ?_, hstop⟩
      cases isSymbolChar_of_prefix hl (Bool.and_eq_true_iff.1 hlonger).2
    · have hnumber : IsNumber (w ++ '.' :: fraction) := .decimal hne hw hfraction
      have hmem : '.' ∈ w ++ '.' :: fraction := List.mem_append_right _ List.mem_cons_self
      have hzero : w ++ '.' :: fraction = ['0'] → r.head? ≠ some 'x' := fun he => by simp [he] at hmem
      have hread := (scanNumber_append hnumber hstop (Or.inl hmem) hzero).symm
      rw [List.append_assoc, List.cons_append] at hread
      have hlexeme := lexeme_of_endNumber hnumber hstop (Or.inl hmem) hzero (hread.trans h)
      rwa [List.append_assoc, List.cons_append] at hlexeme
  · have hne : w ≠ [] := by
      rintro rfl
      rw [List.nil_append] at hsplit
      rw [← hsplit] at hend hpoint
      have hdigit : Text.isDigit c = false := hend
      have hother : c ≠ '.' := fun he => hpoint (by rw [he]; rfl)
      simp [hdigit, hother] at hc
    have hnumber : IsNumber w := .whole hne hw
    have hread := (scanNumber_append hnumber hend (Or.inr hpoint) hx).symm
    exact lexeme_of_endNumber hnumber hend (Or.inr hpoint) hx (hread.trans h)

/-- A number that does not go on is read up to its end. -/
theorem scanNumber_of_isNumber {text : String} {long : Bool} {rest : List Char}
    (htext : IsNumber text.toList) (hend : (Token.number text long).goesOn rest = false) :
    Token.scanNumber ((Token.number text long).render.toList ++ rest)
      = (.number text long, rest) := by
  have hne : text ≠ "." := by simpa using htext.ne_point
  cases long with
  | true =>
    have hrender : (Token.number text true).render.toList ++ rest = text.toList ++ 'L' :: rest := by
      simp [Token.render]
    rw [hrender, scanNumber_append htext rfl (Or.inr (by simp)) (fun _ => by simp),
      String.ofList_toList]
    exact @endNumber_eq _ true _ hne nofun
  | false =>
    obtain ⟨hdigit, hL, hpoint, hx⟩ := goesOn_number.1 hend
    have hx : text.toList = ['0'] → rest.head? ≠ some 'x' :=
      fun h => hx (by simpa using congrArg String.ofList h)
    rw [show (Token.number text false).render = text from rfl,
      scanNumber_append htext hdigit hpoint hx, String.ofList_toList]
    exact @endNumber_eq _ false _ hne fun _ => hL

/-! ### All kinds of tokens -/

theorem scanPlaceholder_eq {c : Char} {w rest : List Char}
    (hw : ∀ d ∈ w, placeholderPart c d = true) (hend : rest.head?.any (placeholderPart c) = false) :
    Token.scanPlaceholder c (placeholderPart c) (w ++ rest)
      = (.placeholder (String.ofList (c :: w)), rest) := by
  obtain ⟨htake, hdrop⟩ := span_append hw hend
  rw [Token.scanPlaceholder, htake, hdrop]

theorem lexeme_of_scanPlaceholder {c : Char} {s rest : List Char} {t : Token} (hc : c = '$' ∨ c = '?')
    (h : Token.scanPlaceholder c (placeholderPart c) s = (t, rest)) : Lexeme (c :: s) t rest := by
  obtain ⟨w, r, rfl, hw, hstop⟩ := exists_span (placeholderPart c) s
  rw [scanPlaceholder_eq hw hstop] at h
  cases h
  have hlexeme := @Lexeme.placeholder (String.ofList (c :: w)) rest
    (by rw [String.toList_ofList]; exact ⟨hc, hw⟩)
    (by rw [Token.goesOn, String.toList_ofList]; exact hstop)
  rwa [String.toList_ofList] at hlexeme

theorem IsNumber.exists_cons {w : List Char} (h : IsNumber w) :
    ∃ c s, w = c :: s ∧ (Text.isDigit c || c == '.') = true := by
  cases h with
  | whole hne hw =>
    obtain ⟨c, s, rfl⟩ := List.exists_cons_of_ne_nil hne
    exact ⟨c, s, rfl, by rw [hw c List.mem_cons_self, Bool.true_or]⟩
  | @decimal w fraction _ hw _ =>
    cases w with
    | nil => exact ⟨'.', fraction, rfl, rfl⟩
    | cons c w => exact ⟨c, _, rfl, by rw [hw c List.mem_cons_self, Bool.true_or]⟩

/-- Digits and the point are no letters, so they are looked at after these. -/
theorem next?_of_number {c : Char} (hc : (Text.isDigit c || c == '.') = true) (s : List Char) :
    Token.next? c s = some (Token.scanNumber (c :: s)) := by
  have hword : isWordStart c = false := by
    rcases Bool.or_eq_true_iff.1 hc with hdigit | hpoint
    · rw [← Bool.not_eq_true]
      simp only [isWordStart, Text.isAsciiLetter, Text.isDigit, Bool.or_eq_true, Bool.and_eq_true,
        beq_iff_eq, decide_eq_true_eq] at hdigit ⊢
      have hdigit : '0'.toNat ≤ c.toNat ∧ c.toNat ≤ '9'.toNat := hdigit
      have hsmall : '9'.toNat < 'A'.toNat ∧ '9'.toNat < 'a'.toNat := by decide
      rintro ((⟨hlow, -⟩ | ⟨hlow, -⟩) | rfl)
      · have hlow : 'a'.toNat ≤ c.toNat := hlow
        omega
      · have hlow : 'A'.toNat ≤ c.toNat := hlow
        omega
      · exact absurd hdigit (by decide)
    · rw [beq_iff_eq.1 hpoint]
      rfl
  rw [next?_of_not_reserved (not_isReserved_of (p := fun c => Text.isDigit c || c == '.') hc
    (by decide)) (by rintro rfl; cases hc) (by rintro rfl; cases hc), hword, if_pos hc]
  rfl

theorem Token.toList_render_number (text : String) (long : Bool) :
    (Token.number text long).render.toList = text.toList ++ if long then ['L'] else [] := by
  cases long <;> simp [Token.render]

/-- A symbol other than the point begins with a character that only symbols begin with. -/
theorem IsSymbol.begins {text : String} {c : Char} {s rest : List Char} (htext : IsSymbol text)
    (hne : text ≠ ".") (hs : c :: s = text.toList ++ rest) : isSymbolChar c = true := by
  cases htext with
  | long hmem _ =>
    exact isSymbolChar_of_prefix hmem (List.isPrefixOf_iff_prefix.2 ⟨rest, hs.symm⟩)
  | point => exact absurd rfl hne
  | char hc =>
    rw [String.toList_singleton] at hs
    rwa [(List.cons.inj hs).1]

/-- Where a symbol opens no comment with what follows, none begins. -/
theorem IsSymbol.not_comment {text : String} {c : Char} {s rest : List Char} (htext : IsSymbol text)
    (hs : c :: s = text.toList ++ rest) (hopen : (Token.symbol text).opensComment rest = false) :
    (c = '-' → s.head? ≠ some '-') ∧ (c = '/' → s.head? ≠ some '*') := by
  simp only [Token.opensComment, Bool.or_eq_false_iff, Bool.and_eq_false_imp, beq_iff_eq,
    beq_eq_false_iff_ne] at hopen
  -- a symbol of more than one character would begin with both
  have hstart (a b : Char) (hpoint : a ≠ '.')
      (hlong : ∀ l ∈ longSymbols, [a, b].isPrefixOf l.toList = false ∧ [a, b].length ≤ l.toList.length)
      (hshort : text = String.singleton a → rest.head? ≠ some b) (hc : c = a) :
      s.head? ≠ some b := by
    intro hhead
    obtain ⟨s', rfl⟩ := List.head?_eq_some_iff.1 hhead
    cases htext with
    | long hmem _ =>
      obtain ⟨hnone, hlength⟩ := hlong text hmem
      have hboth : [a, b] <+: c :: b :: s' := ⟨s', by rw [hc]; rfl⟩
      have htext : text.toList <+: c :: b :: s' := ⟨rest, hs.symm⟩
      have hpre := List.prefix_of_prefix_length_le hboth htext hlength
      rw [List.isPrefixOf_iff_prefix.2 hpre] at hnone
      cases hnone
    | point => exact hpoint (hc.symm.trans (List.cons.inj hs).1)
    | @char c' _ =>
      rw [String.toList_singleton] at hs
      obtain ⟨rfl, hrest⟩ := List.cons.inj hs
      exact hshort (by rw [hc]) (by rw [← show b :: s' = rest from hrest]; rfl)
  exact ⟨hstart '-' '-' (by decide) (by decide) hopen.1,
    hstart '/' '*' (by decide) (by decide) hopen.2⟩

theorem next?_of_isSymbolChar {c : Char} {s : List Char} (hc : isSymbolChar c = true)
    (hline : c = '-' → s.head? ≠ some '-') (hblock : c = '/' → s.head? ≠ some '*') :
    Token.next? c s = some (Token.scanSymbol c s) := by
  simp only [isSymbolChar, Bool.and_eq_true, Bool.not_eq_true', bne_iff_ne] at hc
  obtain ⟨⟨⟨⟨hreserved, hword⟩, hdigit⟩, hpoint⟩, hblank⟩ := hc
  rw [next?_of_not_reserved hreserved hline hblock]
  simp [hword, hdigit, hpoint, hblank]

theorem scanLineComment_eq {w rest : List Char} (hw : '\n' ∉ w) :
    Token.scanLineComment (w ++ '\n' :: rest)
      = (.lineComment (String.ofList (w ++ ['\n'])), rest) := by
  have hw : ∀ d ∈ w, decide (d ≠ '\n') = true :=
    fun d hd => decide_eq_true fun he => hw (he ▸ hd)
  obtain ⟨htake, hdrop⟩ := @span_append _ _ ('\n' :: rest) hw rfl
  rw [Token.scanLineComment, hdrop, htake]

theorem scanLineComment_last {w : List Char} (hw : '\n' ∉ w) :
    Token.scanLineComment w = (.lineComment (String.ofList w), []) := by
  have hw : ∀ d ∈ w, decide (d ≠ '\n') = true :=
    fun d hd => decide_eq_true fun he => hw (he ▸ hd)
  obtain ⟨htake, hdrop⟩ := @span_append _ _ [] hw rfl
  rw [List.append_nil] at htake hdrop
  rw [Token.scanLineComment, hdrop, htake]

/-- A line comment ends with its line, or with the text. -/
theorem lexeme_of_scanLineComment {s rest : List Char} {t : Token}
    (h : Token.scanLineComment s = (t, rest)) : Lexeme ('-' :: '-' :: s) t rest := by
  obtain ⟨w, r, rfl, hw, hstop⟩ := exists_span (· ≠ '\n') s
  have hw : '\n' ∉ w := fun hmem => of_decide_eq_true (hw _ hmem) rfl
  cases r with
  | nil =>
    rw [List.append_nil] at h ⊢
    rw [scanLineComment_last hw] at h
    cases h
    have hlexeme := @Lexeme.lastComment (String.ofList w) (by rwa [String.toList_ofList])
    rwa [String.toList_ofList] at hlexeme
  | cons c r =>
    obtain rfl : c = '\n' := by simpa using hstop
    rw [scanLineComment_eq hw] at h
    cases h
    exact .lineComment hw

/-- **What is read is a token.** The cases are those of the scanner, in its order; the last one is
split once more by what the character is. -/
theorem lexeme_of_next? {c : Char} {s rest : List Char} {t : Token}
    (h : Token.next? c s = some (t, rest)) : Lexeme (c :: s) t rest := by
  unfold Token.next? at h
  split at h
  case h_1 => cases h; exact .space (by decide) (by decide) (by decide) (by decide)
  case h_2 => cases h; exact .tab
  case h_3 => cases h; exact .lineFeed
  case h_4 => cases h; exact .returnAndFeed
  case h_5 hother =>
    cases h
    refine .carriageReturn fun hfeed => ?_
    obtain ⟨s', rfl⟩ := List.head?_eq_some_iff.1 hfeed
    exact hother s' rfl
  case h_6 =>
    obtain ⟨text, rfl, rfl, hend⟩ := scanQuoted_eq_some_iff.1 h
    exact .singleQuoted hend
  case h_7 =>
    obtain ⟨text, rfl, rfl, hend⟩ := scanQuoted_eq_some_iff.1 h
    exact .quotedWord hend
  case h_8 => exact lexeme_of_scanLineComment (Option.some.inj h)
  case h_9 =>
    obtain ⟨⟨text, _⟩, htake, ⟨⟩⟩ := Option.map_eq_some_iff.1 h
    exact .blockComment (by rwa [String.toList_ofList])
  case h_10 => exact lexeme_of_scanPlaceholder (Or.inl rfl) (Option.some.inj h)
  case h_11 => exact lexeme_of_scanPlaceholder (Or.inr rfl) (Option.some.inj h)
  case h_12 hspace htab hfeed hreturn hsingle hdouble hdollar hquestion _ hline hblock =>
    -- no character that a token of another kind begins with: a letter, a digit, white space or a
    -- symbol
    have hc : isReserved c = false := by
      simpa [isReserved] using
        ⟨hspace, htab, hfeed, hreturn, hsingle, hdouble, hdollar, hquestion⟩
    split at h
    · exact lexeme_of_scanLetter ‹_› h
    split at h
    · exact lexeme_of_scanNumber ‹_› (Option.some.inj h)
    split at h
    · cases h
      exact .space ‹_› htab hfeed hreturn
    · rename_i hword hnumber hblank
      have hsymbol : isSymbolChar c = true := by
        simp only [Bool.or_eq_true, beq_iff_eq, not_or, Bool.not_eq_true] at hnumber hword hblank
        simp [isSymbolChar, hc, hword, hnumber, hblank]
      refine lexeme_of_scanSymbol hsymbol (fun hminus hhead => ?_) (fun hslash hhead => ?_)
        (Option.some.inj h)
      · obtain ⟨s', rfl⟩ := List.head?_eq_some_iff.1 hhead
        exact hline s' hminus rfl
      · obtain ⟨s', rfl⟩ := List.head?_eq_some_iff.1 hhead
        exact hblock s' hslash rfl

/-- **A token is read.** The cases are those of `Lexeme`. Each says of the first character how the
scanner goes on with it. -/
theorem next?_of_lexeme {c : Char} {s rest : List Char} {t : Token}
    (h : Lexeme (c :: s) t rest) : Token.next? c s = some (t, rest) := by
  generalize hs : c :: s = chars at h
  cases h with
  | space hblank htab hfeed hreturn =>
    obtain ⟨rfl, rfl⟩ := List.cons.inj hs
    by_cases hspace : c = ' '
    · subst hspace
      rfl
    -- white space other than a blank is found after everything else has been ruled out
    obtain ⟨hword, hnumber⟩ := plain_of_isBlank hblank
    have hother : c ≠ '\'' ∧ c ≠ '"' ∧ c ≠ '$' ∧ c ≠ '?' ∧ c ≠ '-' ∧ c ≠ '/' := by
      refine ⟨?_, ?_, ?_, ?_, ?_, ?_⟩ <;> rintro rfl <;> cases hblank
    obtain ⟨hsingle, hdouble, hdollar, hquestion, hminus, hslash⟩ := hother
    have hc : isReserved c = false := by
      simp [isReserved, hspace, htab, hfeed, hreturn, hsingle, hdouble, hdollar, hquestion]
    rw [next?_of_not_reserved hc (fun h => absurd h hminus) (fun h => absurd h hslash), hword,
      hnumber, hblank]
    rfl
  | tab => cases hs; rfl
  | lineFeed => cases hs; rfl
  | carriageReturn hrest =>
    cases hs
    cases s with
    | nil => rfl
    | cons d s =>
      have hd : d ≠ '\n' := fun he => hrest (by rw [he]; rfl)
      simp [Token.next?, hd]
  | returnAndFeed => cases hs; rfl
  | singleQuoted hrest =>
    cases hs
    exact scanQuoted_eq_some_iff.2 ⟨_, rfl, rfl, hrest⟩
  | national hc hrest =>
    cases hs
    rcases hc with rfl | rfl
    · exact scanQuoted_eq_some_iff.2 ⟨_, rfl, rfl, hrest⟩
    · exact scanQuoted_eq_some_iff.2 ⟨_, rfl, rfl, hrest⟩
  | hex hc hrest =>
    cases hs
    rcases hc with rfl | rfl
    · exact scanQuoted_eq_some_iff.2 ⟨_, rfl, rfl, hrest⟩
    · exact scanQuoted_eq_some_iff.2 ⟨_, rfl, rfl, hrest⟩
  | @escaped c text s rest hc htext =>
    cases hs
    have hread (hc : c = 'E' ∨ c = 'e') : Token.next? c ('\'' :: s)
        = (takeEscaped s).map fun r => (.escaped (String.ofList r.1), r.2) := by
      rcases hc with rfl | rfl <;> rfl
    rw [hread hc, htext, Option.map_some, String.ofList_toList]
  | quotedWord hrest =>
    cases hs
    exact (@scanQuoted_eq_some_iff '"' (fun text => .word ⟨text, some '"'⟩) _ _ _).2
      ⟨_, rfl, rfl, hrest⟩
  | @word text rest htext hend =>
    generalize hw : text.toList = w at htext hs
    obtain ⟨hc, hparts⟩ := htext
    obtain ⟨rfl, hrest⟩ := List.cons.inj hs
    obtain rfl : text = String.ofList (c :: _) := by rw [← hw, String.ofList_toList]
    rw [next?_of_isWordStart hc, hrest]
    exact scanLetter_eq hparts hend
  | hexNumber htext hend =>
    cases hs
    rw [next?_of_number rfl, scanNumber_hex htext hend, String.ofList_toList]
  | number htext hend =>
    have hc : (Text.isDigit c || c == '.') = true := by
      obtain ⟨d, w, hw, hd⟩ := htext.exists_cons
      rw [Token.toList_render_number, hw] at hs
      rwa [(List.cons.inj hs).1]
    rw [next?_of_number hc, hs, scanNumber_of_isNumber htext hend]
  | @placeholder text rest htext hend =>
    generalize hw : text.toList = w at htext hs
    obtain ⟨hc, hparts⟩ := htext
    obtain ⟨rfl, rfl⟩ := List.cons.inj hs
    rw [Token.goesOn, hw] at hend
    have hread := scanPlaceholder_eq hparts hend
    rw [← hw, String.ofList_toList] at hread
    rcases hc with rfl | rfl <;> exact congrArg some hread
  | @symbol text rest htext hend hopen =>
    -- a point that stands alone is read as a number without digits
    by_cases hpoint : text = "."
    · subst hpoint
      have hdigit : rest.head?.any Text.isDigit = false := by
        simp only [Token.goesOn, beq_self_eq_true, Bool.true_and, Bool.or_eq_false_iff] at hend
        exact hend.2
      obtain ⟨rfl, rfl⟩ := List.cons.inj hs
      rw [next?_of_number rfl]
      exact congrArg some (@scanNumber_decimal [] [] _ nofun nofun hdigit)
    · obtain ⟨hline, hblock⟩ := htext.not_comment hs hopen
      rw [next?_of_isSymbolChar (htext.begins hpoint hs) hline hblock,
        scanSymbol_of_isSymbol htext hpoint hs hend]
  | inequality =>
    cases hs
    rw [next?_of_isSymbolChar (by decide) (by simp) (by simp)]
    rfl
  | lineComment htext =>
    cases hs
    exact congrArg some (scanLineComment_eq htext)
  | lastComment htext =>
    cases hs
    have hread := scanLineComment_last htext
    rw [String.ofList_toList] at hread
    exact congrArg some hread
  | @blockComment text s rest htext =>
    cases hs
    have hread : Token.next? '/' ('*' :: s)
        = (takeComment 1 [] s).map fun r => (.blockComment (String.ofList r.1), r.2) := rfl
    rw [hread, htext, Option.map_some, String.ofList_toList]

/-- **What a token is.** The next token of a text is the one that it begins with. -/
theorem next?_eq_some_iff {c : Char} {s rest : List Char} {t : Token} :
    Token.next? c s = some (t, rest) ↔ Lexeme (c :: s) t rest :=
  ⟨lexeme_of_next?, next?_of_lexeme⟩

theorem IsWord.ne_nil {w : List Char} (h : IsWord w) : w ≠ [] := by
  cases h
  exact List.cons_ne_nil _ _

theorem IsPlaceholder.ne_nil {w : List Char} (h : IsPlaceholder w) : w ≠ [] := by
  cases h
  exact List.cons_ne_nil _ _

theorem IsNumber.ne_nil {w : List Char} (h : IsNumber w) : w ≠ [] := by
  obtain ⟨c, s, rfl, -⟩ := h.exists_cons
  exact List.cons_ne_nil _ _

theorem IsSymbol.ne_nil {text : String} (h : IsSymbol text) : text.toList ≠ [] := by
  cases h with
  | long hmem _ =>
    have hlong : ∀ l ∈ longSymbols, l.toList ≠ [] := by decide
    exact hlong text hmem
  | point => decide
  | char _ => simp

namespace Lexeme

/-- A token takes at least one character. -/
theorem length_lt {s rest : List Char} {t : Token} (h : Lexeme s t rest) :
    rest.length < s.length := by
  have hshorter {w : List Char} (hw : w ≠ []) : rest.length < (w ++ rest).length := by
    rw [List.length_append]
    exact Nat.lt_add_of_pos_left (List.length_pos_iff.2 hw)
  cases h with
  | word htext _ => exact hshorter htext.ne_nil
  | placeholder htext _ => exact hshorter htext.ne_nil
  | symbol htext _ _ => exact hshorter htext.ne_nil
  | number htext _ =>
    refine hshorter ?_
    rw [Token.toList_render_number]
    exact List.append_ne_nil_of_left_ne_nil htext.ne_nil _
  | escaped _ htext => exact Nat.lt_add_right 2 (length_lt_of_takeEscaped htext)
  | blockComment htext => exact Nat.lt_add_right 2 (length_lt_of_takeComment htext)
  | lastComment _ => exact Nat.succ_pos _
  | _ =>
    simp only [List.length_cons, List.length_append]
    omega

/-- A text begins with one token. -/
theorem unique {s rest rest' : List Char} {t t' : Token} (h : Lexeme s t rest)
    (h' : Lexeme s t' rest') : t = t' ∧ rest = rest' := by
  cases s with
  | nil => exact absurd h.length_lt (Nat.not_lt_zero _)
  | cons c s =>
    have hread := (next?_of_lexeme h).symm.trans (next?_of_lexeme h')
    exact Prod.mk.inj (Option.some.inj hread)

end Lexeme

/-! ## All tokens -/

theorem scanFuel_nil_iff {fuel : Nat} {ts : List Token} :
    Token.scanFuel fuel [] = some ts ↔ Lexemes [] ts := by
  constructor
  · intro hscan
    cases fuel <;> cases hscan <;> exact .nil
  · intro hlexemes
    cases hlexemes with
    | nil => cases fuel <;> rfl
    | cons hfirst _ => exact absurd hfirst.length_lt (Nat.not_lt_zero _)

/-- By induction on the fuel: a token takes a character at least, so the fuel is enough for the
rest. -/
theorem scanFuel_eq_some_iff {fuel : Nat} {s : List Char} {ts : List Token} (h : s.length ≤ fuel) :
    Token.scanFuel fuel s = some ts ↔ Lexemes s ts := by
  induction fuel generalizing s ts with
  | zero =>
    obtain rfl := List.eq_nil_of_length_eq_zero (Nat.le_zero.1 h)
    exact scanFuel_nil_iff
  | succ fuel ih =>
    cases s with
    | nil => exact scanFuel_nil_iff
    | cons c s =>
      have hfuel {t : Token} {rest : List Char} (hfirst : Lexeme (c :: s) t rest) :
          rest.length ≤ fuel :=
        Nat.le_of_lt_succ (Nat.lt_of_lt_of_le hfirst.length_lt h)
      constructor
      · intro hscan
        obtain ⟨⟨t, rest⟩, hnext, hscan⟩ := Option.bind_eq_some_iff.1 hscan
        obtain ⟨ts, hrest, ⟨⟩⟩ := Option.bind_eq_some_iff.1 hscan
        have hfirst := lexeme_of_next? hnext
        exact .cons hfirst ((ih (hfuel hfirst)).1 hrest)
      · rintro (_ | ⟨hfirst, hrest⟩)
        rename_i t rest ts
        have hrest := (ih (hfuel hfirst)).2 hrest
        simp only [Token.scanFuel, next?_of_lexeme hfirst, hrest, bind, Option.bind, pure]

/-- **Scanning.** A text has the tokens that it falls into, and none if it does not. -/
theorem scan_eq_some_iff {s : String} {ts : List Token} :
    Token.scan s = some ts ↔ Lexemes s.toList ts :=
  scanFuel_eq_some_iff (Nat.le_refl _)

end Prepared.Sql
