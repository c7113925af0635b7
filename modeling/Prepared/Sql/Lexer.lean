import Prepared.Sql.Token
import Prepared.Text.Blank
import Prepared.Text.Letter

/-!
# From text to tokens

`Token.scan` cuts a text into tokens. Each step takes one token off the front of the text, the
longest one that begins there; it fails only where a quoted text or a comment has no end.

The rules are those of an outside package, the tokenizer of `sqlparser` 0.28 with its dialect
`PostgreSqlDialect`. That they are written down here as they are there is trusted, not proved, by
every result about texts and their tokens.
-/

namespace Prepared.Sql

/-! ### Quoted text and comments -/

/-- Splits a text behind an opening quote into what is quoted, with doubled quotes undoubled, and
what follows the closing quote. -/
def takeQuoted (quote : Char) : List Char → Option (List Char × List Char)
  | [] => none
  | [c] => if c = quote then some ([], []) else none
  | c :: d :: s =>
    if c = quote then
      if d = quote then (takeQuoted quote s).map fun r => (quote :: r.1, r.2)
      else some ([], d :: s)
    else (takeQuoted quote (d :: s)).map fun r => (c :: r.1, r.2)

/-- Taking quoted text back from its written form. -/
theorem takeQuoted_doubleQuotes (quote : Char) (s rest : List Char) (h : rest.head? ≠ some quote) :
    takeQuoted quote (doubleQuotes quote s ++ quote :: rest) = some (s, rest) := by
  induction s with
  | nil =>
    cases rest with
    | nil => simp [doubleQuotes, takeQuoted]
    | cons d rest =>
      have hd : d ≠ quote := fun e => h (by simp [e])
      simp [doubleQuotes, takeQuoted, hd]
  | cons c s ih =>
    by_cases hc : c = quote
    · subst hc
      simp [doubleQuotes, takeQuoted, ih]
    · obtain ⟨d, t, ht⟩ : ∃ d t, doubleQuotes quote s ++ quote :: rest = d :: t := by
        cases hs : doubleQuotes quote s ++ quote :: rest with
        | nil => simp at hs
        | cons d t => exact ⟨d, t, rfl⟩
      rw [doubleQuotes, if_neg hc, List.cons_append, ht, takeQuoted, if_neg hc, ← ht, ih]
      rfl

/-- The character that a backslash in front of `c` stands for. -/
def unescape (c : Char) : Char :=
  if c = 'n' then '\n' else if c = 't' then '\t' else if c = 'r' then '\r' else c

/-- Splits a text behind the opening quote of a string with escapes into what it stands for and what
follows the closing quote. -/
def takeEscaped : List Char → Option (List Char × List Char)
  | [] => none
  | ['\''] => some ([], [])
  | [_] => none
  | c :: d :: s =>
    if c = '\\' then (takeEscaped s).map fun r => (unescape d :: r.1, r.2)
    else if c = '\'' then
      if d = '\'' then (takeEscaped s).map fun r => ('\'' :: r.1, r.2)
      else some ([], d :: s)
    else (takeEscaped (d :: s)).map fun r => (c :: r.1, r.2)

/-- Splits a text inside a comment, nested `depth` deep, into the rest of the comment and what
follows it. The part of the comment that was read is given backwards. -/
def takeComment (depth : Nat) (before : List Char) : List Char → Option (List Char × List Char)
  | [] => none
  | c :: s =>
    if before.head? = some '/' ∧ c = '*' then takeComment (depth + 1) (c :: before) s
    else if before.head? = some '*' ∧ c = '/' then
      if depth = 1 then some (before.tail.reverse, s) else takeComment (depth - 1) (c :: before) s
    else takeComment depth (c :: before) s

/-! ### Classes of characters -/

/-- Whether a word can begin with `c`. -/
def isWordStart (c : Char) : Bool :=
  Text.isAsciiLetter c || c == '_'

/-- Whether a word can go on with `c`. -/
def isWordPart (c : Char) : Bool :=
  Text.isAsciiLetter c || Text.isDigit c || c == '_' || c == '$'

/-- Whether the name of a placeholder can go on with `c`. -/
def isPlaceholderPart (c : Char) : Bool :=
  Text.isLetter c || Text.isNumeric c || c == '_'

/-- Whether `c` is a digit of a hexadecimal number. -/
def isHexDigit (c : Char) : Bool :=
  Text.isDigit c || ('a' ≤ c && c ≤ 'f') || ('A' ≤ c && c ≤ 'F')

/-- The symbols of more than one character, each before those that it begins with. -/
def longSymbols : List String :=
  ["<=>", "#>>", "->>", "!~*", "||/", "::", "<=", "<>", "<<", ">=", ">>", "=>", "||", "|/", "#>",
    "->", "~*", "!~", "!!", "!="]

/-! ### Single tokens -/

namespace Token

/-- A quoted text behind its opening quote. -/
def scanQuoted (quote : Char) (token : String → Token) (s : List Char) :
    Option (Token × List Char) :=
  (takeQuoted quote s).map fun r => (token (String.ofList r.1), r.2)

/-- A word that begins with `c`. -/
def scanWord (c : Char) (s : List Char) : Token × List Char :=
  (word ⟨String.ofList (c :: s.takeWhile isWordPart), none⟩, s.dropWhile isWordPart)

/-- A word that begins with `c`, or, if a quote follows, a text of the kind that `c` announces. -/
def scanLetter (c : Char) (s : List Char) : Option (Token × List Char) :=
  match s with
  | '\'' :: rest =>
    if c = 'N' ∨ c = 'n' then scanQuoted '\'' national rest
    else if c = 'X' ∨ c = 'x' then scanQuoted '\'' hex rest
    else if c = 'E' ∨ c = 'e' then
      (takeEscaped rest).map fun r => (escaped (String.ofList r.1), r.2)
    else some (scanWord c s)
  | _ => some (scanWord c s)

/-- A number, or a point that no digit follows. -/
def scanNumber (s : List Char) : Token × List Char :=
  let whole := s.takeWhile Text.isDigit
  match whole, s.dropWhile Text.isDigit with
  -- a small `x` behind a single zero begins a hexadecimal number, even one without digits
  | ['0'], 'x' :: rest =>
    (hex (String.ofList (rest.takeWhile isHexDigit)), rest.dropWhile isHexDigit)
  | _, rest =>
    let (point, rest) := match rest with
      | '.' :: rest => (['.'], rest)
      | rest => ([], rest)
    let text := String.ofList (whole ++ point ++ rest.takeWhile Text.isDigit)
    match text, rest.dropWhile Text.isDigit with
    | ".", rest => (symbol ".", rest)
    | text, 'L' :: rest => (number text true, rest)
    | text, rest => (number text false, rest)

/-- A placeholder behind its first character. -/
def scanPlaceholder (c : Char) (part : Char → Bool) (s : List Char) : Token × List Char :=
  (placeholder (String.ofList (c :: s.takeWhile part)), s.dropWhile part)

/-- A comment up to and with the end of its line. -/
def scanLineComment (s : List Char) : Token × List Char :=
  let text := s.takeWhile (· ≠ '\n')
  match s.dropWhile (· ≠ '\n') with
  -- the line feed belongs to the comment
  | c :: rest => (lineComment (String.ofList (text ++ [c])), rest)
  | [] => (lineComment (String.ofList text), [])

/-- The longest symbol that `s` begins with. The two spellings of inequality are one symbol. -/
def scanSymbol (c : Char) (s : List Char) : Token × List Char :=
  match longSymbols.find? fun symbol => symbol.toList.isPrefixOf (c :: s) with
  | some "!=" => (symbol "<>", s.drop 1)
  | some text => (symbol text, s.drop (text.length - 1))
  | none => (symbol (String.singleton c), s)

/-- The token that begins with `c` and goes on in `s`, and what follows it. -/
def next? (c : Char) (s : List Char) : Option (Token × List Char) :=
  match c, s with
  | ' ', s => some (space, s)
  | '\t', s => some (tab, s)
  | '\n', s => some (newline, s)
  | '\r', '\n' :: s => some (newline, s)
  | '\r', s => some (newline, s)
  | '\'', s => scanQuoted '\'' singleQuoted s
  | '"', s => scanQuoted '"' (fun text => word ⟨text, some '"'⟩) s
  | '-', '-' :: s => some (scanLineComment s)
  | '/', '*' :: s => (takeComment 1 [] s).map fun r => (blockComment (String.ofList r.1), r.2)
  -- a placeholder may be without a name
  | '$', s => some (scanPlaceholder '$' isPlaceholderPart s)
  | '?', s => some (scanPlaceholder '?' Text.isNumeric s)
  | c, s =>
    if isWordStart c then scanLetter c s
    else if Text.isDigit c || c == '.' then some (scanNumber (c :: s))
    else if Text.isBlank c then some (space, s)
    else some (scanSymbol c s)

/-! ### All tokens -/

/-- The tokens of `s`, at most `fuel` of them. -/
def scanFuel : Nat → List Char → Option (List Token)
  | 0, _ => some []
  | _, [] => some []
  | fuel + 1, c :: s => do
    let (token, rest) ← next? c s
    let tokens ← scanFuel fuel rest
    return token :: tokens

/-- The tokens of a text. There are none if a quoted text or a comment has no end. Every token takes
at least one character, so that there are at most as many as characters. -/
def scan (s : String) : Option (List Token) :=
  scanFuel s.toList.length s.toList

end Token

end Prepared.Sql
