import Prepared.Param.Substitute
import Prepared.Proofs.Param.Literal

/-!
# Quoted text is read back as it was

Substitution undoes what scanning did to a quoted text: it doubles the quotes again, or puts the
escapes back. Two conventions meet here. Between plain quotes a quote stands for itself only if it is
doubled (`takeQuoted_doubleQuotes`); in a string with escapes a backslash stands for something
together with the character behind it, and whether a character has one in front of it is all that is
carried from one to the next (`takeEscaped_escapeChars`). Either way every text comes back, whatever
quotes, backslashes and line feeds it has, so nothing of it gets out of its quotes
(`scan_quoted_alone`).
-/

namespace Prepared

open Sql Token

/-! ## Tokens on their own -/

/-- A well-formed token that does not wait for more is read back where it is written alone. -/
theorem Sql.Token.scan_render {t : Token} (h : t.WellFormed) (hend : t.goesOn [] = false)
    (hopen : t.opensComment [] = false) : Token.scan t.render = some [t] := by
  have hfirst : Lexeme t.render.toList t [] := by
    have hlexeme := lexeme_render h hend hopen
    rwa [List.append_nil] at hlexeme
  exact scan_eq_some_iff.2 (.cons hfirst .nil)

/-! ## Kinds of quoted text -/

/-- The ways to put a text between quotes: `'…'`, `N'…'`, `X'…'`, `E'…'` and `"…"`. -/
inductive QuoteKind where
  | single
  | national
  | hex
  | escaped
  | word
  deriving Repr, DecidableEq

namespace QuoteKind

/-- The token of the kind that stands for the text. -/
def token : QuoteKind → String → Token
  | single, text => .singleQuoted text
  | national, text => .national text
  | hex, text => .hex text
  | escaped, text => .escaped text
  | word, text => .word ⟨text, some '"'⟩

theorem scan_render (kind : QuoteKind) (text : String) :
    Token.scan (kind.token text).render = some [kind.token text] := by
  apply Token.scan_render
  · cases kind with
    | single => exact .singleQuoted text
    | national => exact .national text
    | hex => exact .hex text
    | escaped => exact .escaped text
    | word => exact .quotedWord text
  · -- nothing follows, so that no quote can be taken for a doubled one
    cases kind <;> rfl
  · cases kind <;> rfl

/-- Quoted text has no parameters, so it is written whatever their values are. -/
theorem substituteToken_token (kind : QuoteKind) (text : String) (params : List Param)
    (last : Option Char) :
    substituteToken params last (kind.token text) = .ok (kind.token text).render := by
  cases kind <;> rfl

theorem substitute_render (kind : QuoteKind) (text : String) (params : List Param) :
    substitute params (kind.token text).render = .ok (kind.token text).render := by
  unfold substitute
  rw [kind.scan_render text]
  show (do return (← substituteToken params none (kind.token text)) ++ "") = _
  rw [kind.substituteToken_token]
  exact congrArg Except.ok String.append_empty

end QuoteKind

/-! ## Round trip -/

/-- **Quoted text is read back.** For every text and every kind of quotes, what substitution writes
for the token falls into that token alone: one of the same kind with the same text. It does not hang on
the parameters or on what was written before, and is kept when it is substituted in again. The literal
of a text falls into the one token with single quotes that stands for the text. -/
theorem scan_quoted_alone (text : String) :
    (∀ kind : QuoteKind, ∃ written,
        (∀ params last, substituteToken params last (kind.token text) = .ok written)
          ∧ Token.scan written = some [kind.token text]
          ∧ ∀ params, substitute params written = .ok written)
      ∧ Token.scan (Datum.text text).literal = some [.singleQuoted text] := by
  constructor
  · intro kind
    refine ⟨(kind.token text).render, ?_, kind.scan_render text, ?_⟩
    · exact kind.substituteToken_token text
    · exact kind.substitute_render text
  · -- the literal is written in the way of a token with single quotes
    exact QuoteKind.single.scan_render text

example : (QuoteKind.escaped.token "it's a \\\n").render = "E'it\\'s a \\\\\\n'" := by decide

end Prepared
