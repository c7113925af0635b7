import Prepared.Sql.Printer.Atom

/-!
# Tokens

The tokens of SQL text. White space and comments are tokens too, so that a text can be put together
again from its tokens.

They are the tokens of the package `sqlparser` 0.28, and written as it writes them.
-/

namespace Prepared.Sql

/-- A token of SQL text. -/
inductive Token where
  | word (name : Ident)
  | number (text : String) (long : Bool)
  | singleQuoted (text : String)
  | escaped (text : String)
  | national (text : String)
  | hex (text : String)
  | placeholder (text : String)
  | symbol (text : String)
  | space
  | newline
  | tab
  | lineComment (text : String)
  | blockComment (text : String)
  deriving Repr, DecidableEq, Inhabited

namespace Token

/-- Whether the token only separates others. -/
def isBlank : Token → Bool
  | space => true
  | newline => true
  | tab => true
  | lineComment _ => true
  | blockComment _ => true
  | _ => false

/-- A token as it is written: quotes inside quoted text are doubled, and escapes are put back. -/
def render : Token → String
  | word ⟨value, none⟩ => value
  | word ⟨value, some q⟩ => quoted q value
  | number text long => if long then text ++ "L" else text
  | singleQuoted text => quoted '\'' text
  | escaped text => escapedString text
  | national text => "N" ++ quoted '\'' text
  | hex text => "X" ++ quoted '\'' text
  | placeholder text => text
  | symbol text => text
  | space => " "
  | newline => "\n"
  | tab => "\t"
  | lineComment text => "--" ++ text
  | blockComment text => "/*" ++ text ++ "*/"

/-- A token with plain quotes around what it stands for, whatever this is. -/
def plain : Token → String
  | word ⟨value, some q⟩ => String.singleton q ++ value ++ String.singleton q
  | singleQuoted text => "'" ++ text ++ "'"
  | escaped text => "E'" ++ text ++ "'"
  | national text => "N'" ++ text ++ "'"
  | hex text => "X'" ++ text ++ "'"
  | t => t.render

end Token

end Prepared.Sql
