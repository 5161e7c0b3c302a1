import Guidebook.Block.Basic
import Guidebook.Code.Token

namespace Guidebook

/-!
# Themes

How a guide looks when it is typeset.  Every setting has a default.
-/

/-- A colour, as it is written in a theme. -/
abbrev Color := String

/-- How links look. -/
structure LinkStyle where
  color : Color := "#1a4f8b"
  underline : Bool := true
  deriving Repr, DecidableEq

/-- How pages look. -/
structure PageStyle where
  numbers : Bool := false
  deriving Repr, DecidableEq

/-- How headings look: each is moved down by so many levels. -/
structure HeadingStyle where
  offset : Nat := 1
  deriving Repr, DecidableEq

/-- How code looks; a kind of token without a colour of its own has that of other text. -/
structure CodeStyle where
  lineNumbers : Bool := true
  background : Color := "#0f172a"
  foreground : Color := "#cbd5e1"
  gutter : Color := "#475569"
  label : Color := "#94a3b8"
  colors : List (String × Color) := [
    ("comment", "#64748b"), ("string", "#34d399"), ("keyword", "#f87171"),
    ("function", "#60a5fa"), ("decorator", "#facc15"), ("number", "#c084fc"),
    ("key", "#22d3ee"), ("boolean", "#f87171"), ("null", "#64748b"),
    ("placeholder", "#facc15"), ("variable", "#facc15"), ("flag", "#22d3ee"),
    ("operator", "#f87171")]
  deriving Repr, DecidableEq

/-- The colour of a kind of token. -/
def CodeStyle.colorFor (style : CodeStyle) (kind : TokenKind) : Color :=
  (style.colors.lookup kind.name).getD style.foreground

/-- The colours of admonitions. -/
structure CalloutStyle where
  note : Color := "#3b82f6"
  tip : Color := "#22c55e"
  important : Color := "#a855f7"
  warning : Color := "#eab308"
  caution : Color := "#ef4444"
  deriving Repr, DecidableEq

/-- The colour of a kind of admonition. -/
def CalloutStyle.colorFor (style : CalloutStyle) : Callout → Color
  | .note => style.note
  | .tip => style.tip
  | .important => style.important
  | .warning => style.warning
  | .caution => style.caution

/-- The look of a typeset guide. -/
structure Theme where
  links : LinkStyle := {}
  page : PageStyle := {}
  headings : HeadingStyle := {}
  code : CodeStyle := {}
  callouts : CalloutStyle := {}
  deriving Repr, DecidableEq

end Guidebook
