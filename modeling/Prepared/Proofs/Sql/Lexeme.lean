import Prepared.Sql.Lexer

/-!
# What a token is

`Lexeme s t rest` says, one kind of token after the other, how a text `s` that begins with the token
`t` is spelled, and what must not follow. Most tokens end where a character comes that they cannot
take: `Token.goesOn` is whether they can take what comes. `Lexemes s ts` says that the text `s` falls
into the tokens `ts`.
-/

namespace Prepared.Sql

/-! ## The shapes of tokens -/

/-- Words. -/
inductive IsWord : List Char → Prop where
  | mk {c w} (hc : isWordStart c = true) (hw : ∀ d ∈ w, isWordPart d = true) : IsWord (c :: w)

/-- Numbers, with or without a point. -/
inductive IsNumber : List Char → Prop where
  | whole {w} (hne : w ≠ []) (hw : ∀ d ∈ w, Text.isDigit d = true) : IsNumber w
  | decimal {w fraction} (hne : w ++ fraction ≠ []) (hw : ∀ d ∈ w, Text.isDigit d = true)
      (hfraction : ∀ d ∈ fraction, Text.isDigit d = true) : IsNumber (w ++ '.' :: fraction)

/-- What a placeholder that begins with `c` can go on with. -/
def placeholderPart (c : Char) : Char → Bool :=
  if c = '$' then isPlaceholderPart else Text.isNumeric

/-- Placeholders. -/
inductive IsPlaceholder : List Char → Prop where
  | mk {c w} (hc : c = '$' ∨ c = '?') (hw : ∀ d ∈ w, placeholderPart c d = true) :
      IsPlaceholder (c :: w)

/-- Whether another kind of token always begins with `c`. -/
def isReserved (c : Char) : Bool :=
  [' ', '\t', '\n', '\r', '\'', '"', '$', '?'].contains c

/-- Whether `c` is a symbol, unless a comment begins with it. -/
def isSymbolChar (c : Char) : Bool :=
  !isReserved c && !isWordStart c && !Text.isDigit c && c != '.' && !Text.isBlank c

/-- Symbols. The second spelling of inequality is none: it is read, but never written. -/
inductive IsSymbol : String → Prop where
  | long {text} (hmem : text ∈ longSymbols) (hne : text ≠ "!=") : IsSymbol text
  | point : IsSymbol "."
  | char {c} (hc : isSymbolChar c = true) : IsSymbol (String.singleton c)

/-- Whether a word announces the kind of a quoted text behind it. -/
def announcesQuote (word : List Char) : Bool :=
  [['N'], ['n'], ['X'], ['x'], ['E'], ['e']].contains word

namespace Token

/-- Whether a token that is written in front of `rest` takes some of it. -/
def goesOn (t : Token) (rest : List Char) : Bool :=
  match t with
  | word ⟨text, none⟩ =>
    rest.head?.any fun c => isWordPart c || (c == '\'' && announcesQuote text.toList)
  | word ⟨_, some q⟩ => rest.head?.any (· == q)
  | number _ true => false
  | number text false =>
    rest.head?.any fun c => Text.isDigit c || c == 'L' || (c == '.' && !text.toList.contains '.')
      || (c == 'x' && text == "0")
  | singleQuoted _ | escaped _ | national _ | hex _ => rest.head?.any (· == '\'')
  | placeholder text => rest.head?.any fun c => text.toList.head?.any (placeholderPart · c)
  | symbol text =>
    (longSymbols.any fun l => text.length < l.length && l.toList.isPrefixOf (text.toList ++ rest))
      || (text == "." && rest.head?.any Text.isDigit)
  | space | newline | tab | lineComment _ | blockComment _ => false

/-- Whether a token that is written in front of `rest` begins a comment with it, or is one that does
not end. -/
def opensComment (t : Token) (rest : List Char) : Bool :=
  match t with
  | symbol text => (text == "-" && rest.head? == some '-') || (text == "/" && rest.head? == some '*')
  | lineComment text => text.toList.getLast? != some '\n' && !rest.isEmpty
  | _ => false

end Token

/-! ## Single tokens -/

open Token in
/-- The text `s` begins with the token `t`, and `rest` follows. -/
inductive Lexeme : List Char → Token → List Char → Prop where
  | space {c rest} (hblank : Text.isBlank c = true) (htab : c ≠ '\t') (hfeed : c ≠ '\n')
      (hreturn : c ≠ '\r') : Lexeme (c :: rest) space rest
  | tab {rest} : Lexeme ('\t' :: rest) tab rest
  | lineFeed {rest} : Lexeme ('\n' :: rest) newline rest
  | carriageReturn {rest} (hrest : rest.head? ≠ some '\n') : Lexeme ('\r' :: rest) newline rest
  | returnAndFeed {rest} : Lexeme ('\r' :: '\n' :: rest) newline rest
  | singleQuoted {text : String} {rest} (hrest : rest.head? ≠ some '\'') :
      Lexeme ('\'' :: (doubleQuotes '\'' text.toList ++ '\'' :: rest)) (singleQuoted text) rest
  | national {c} {text : String} {rest} (hc : c = 'N' ∨ c = 'n') (hrest : rest.head? ≠ some '\'') :
      Lexeme (c :: '\'' :: (doubleQuotes '\'' text.toList ++ '\'' :: rest)) (national text) rest
  | hex {c} {text : String} {rest} (hc : c = 'X' ∨ c = 'x') (hrest : rest.head? ≠ some '\'') :
      Lexeme (c :: '\'' :: (doubleQuotes '\'' text.toList ++ '\'' :: rest)) (hex text) rest
  | escaped {c} {text : String} {s rest} (hc : c = 'E' ∨ c = 'e')
      (htext : takeEscaped s = some (text.toList, rest)) : Lexeme (c :: '\'' :: s) (escaped text) rest
  | quotedWord {text : String} {rest} (hrest : rest.head? ≠ some '"') :
      Lexeme ('"' :: (doubleQuotes '"' text.toList ++ '"' :: rest)) (word ⟨text, some '"'⟩) rest
  | word {text : String} {rest} (htext : IsWord text.toList)
      (hend : (Token.word ⟨text, none⟩).goesOn rest = false) :
      Lexeme (text.toList ++ rest) (word ⟨text, none⟩) rest
  | hexNumber {text : String} {rest} (htext : ∀ d ∈ text.toList, isHexDigit d = true)
      (hend : rest.head?.any isHexDigit = false) :
      Lexeme ('0' :: 'x' :: (text.toList ++ rest)) (hex text) rest
  | number {text : String} {long rest} (htext : IsNumber text.toList)
      (hend : (Token.number text long).goesOn rest = false) :
      Lexeme ((Token.number text long).render.toList ++ rest) (number text long) rest
  | placeholder {text : String} {rest} (htext : IsPlaceholder text.toList)
      (hend : (Token.placeholder text).goesOn rest = false) :
      Lexeme (text.toList ++ rest) (placeholder text) rest
  | symbol {text : String} {rest} (htext : IsSymbol text)
      (hend : (Token.symbol text).goesOn rest = false)
      (hopen : (Token.symbol text).opensComment rest = false) :
      Lexeme (text.toList ++ rest) (symbol text) rest
  | inequality {rest} : Lexeme ('!' :: '=' :: rest) (symbol "<>") rest
  | lineComment {text rest} (htext : '\n' ∉ text) :
      Lexeme ('-' :: '-' :: (text ++ '\n' :: rest)) (lineComment (String.ofList (text ++ ['\n']))) rest
  | lastComment {text : String} (htext : '\n' ∉ text.toList) :
      Lexeme ('-' :: '-' :: text.toList) (lineComment text) []
  | blockComment {text : String} {s rest} (htext : takeComment 1 [] s = some (text.toList, rest)) :
      Lexeme ('/' :: '*' :: s) (blockComment text) rest

/-! ## Texts -/

/-- The text falls into the tokens. -/
inductive Lexemes : List Char → List Token → Prop where
  | nil : Lexemes [] []
  | cons {s t rest ts} (hfirst : Lexeme s t rest) (hrest : Lexemes rest ts) : Lexemes s (t :: ts)

end Prepared.Sql
