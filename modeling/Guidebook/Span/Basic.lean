namespace Guidebook

/-!
# Spans

Inline markup as a tree.  Text, code and images are leaves; emphasis and links
hold spans of their own.
-/

/-- A stretch of inline text with its formatting. -/
inductive Span where
  | text (content : String)
  | bold (content : List Span)
  | italic (content : List Span)
  | strikethrough (content : List Span)
  | code (content : String)
  | link (url : String) (content : List Span)
  | image (alt url : String)
  deriving Repr, Inhabited

end Guidebook
