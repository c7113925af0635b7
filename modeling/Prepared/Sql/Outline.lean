import Prepared.Text.Printable

/-!
# Outlines

An outline shows how a piece of syntax is built: constructors with what they hold, all texts in
quotes. Errors about joins use it. `Outline.render` is the only place where an outline becomes text.

What it shows is the syntax tree of the package `sqlparser` 0.28, under the names that the package
has for it.
-/

namespace Prepared.Sql

/-- How a piece of syntax is built. -/
inductive Outline where
  /-- A name or a number. -/
  | atom (name : String)
  /-- A text in double quotes. -/
  | text (value : String)
  /-- A character in single quotes. -/
  | char (value : Char)
  /-- A constructor with what it holds in parentheses. -/
  | node (name : String) (parts : List Outline)
  /-- A constructor with named parts, which are fields. -/
  | record (name : String) (fields : List Outline)
  /-- A named part of a record. -/
  | field (name : String) (value : Outline)
  /-- A list in brackets. -/
  | list (items : List Outline)
  deriving Repr, Inhabited

namespace Outline

/-! ### Text -/

/-- The texts with a comma and a space between them. -/
def joined (texts : List String) : String :=
  ", ".intercalate texts

/-- A character by its number, in braces. -/
def byNumber (c : Char) : List Char :=
  ['\\', 'u', '\x7b'] ++ Nat.toDigits 16 c.toNat ++ ['\x7d']

/-- A character of a text in quotes of the given kind: as it is if it can be shown. -/
def escaped (quote c : Char) : List Char :=
  if c = quote ∨ c = '\\' then ['\\', c]
  else if c = '\n' then ['\\', 'n']
  else if c = '\t' then ['\\', 't']
  else if c = '\r' then ['\\', 'r']
  else if c.toNat = 0 then ['\\', '0']
  else if Text.isPrintable c then [c]
  else byNumber c

/-- A text in quotes of the given kind. -/
def inQuotes (quote : Char) (s : List Char) : String :=
  String.ofList (quote :: s.flatMap (escaped quote) ++ [quote])

mutual

/-- The text of an outline. -/
def render : Outline → String
  | atom name => name
  | text value => inQuotes '"' value.toList
  | char value => inQuotes '\'' [value]
  | node name parts => name ++ "(" ++ joined (renderAll parts) ++ ")"
  | record name fields => name ++ " \x7b " ++ joined (renderAll fields) ++ " \x7d"
  | field name value => name ++ ": " ++ value.render
  | list items => "[" ++ joined (renderAll items) ++ "]"

/-- The texts of outlines. -/
def renderAll : List Outline → List String
  | [] => []
  | o :: os => o.render :: renderAll os

end

/-! ### Outlines of plain values -/

/-- A truth value. -/
def bool (b : Bool) : Outline :=
  atom (if b then "true" else "false")

/-- A natural number. -/
def nat (n : Nat) : Outline :=
  atom (toString n)

/-- Something that may be missing. -/
def option : Option Outline → Outline
  | some o => node "Some" [o]
  | none => atom "None"

/-- Something that may be missing, by the outline of what is there. -/
def ofOption {α : Type} (outline : α → Outline) (a : Option α) : Outline :=
  option (a.map outline)

end Outline

end Prepared.Sql
