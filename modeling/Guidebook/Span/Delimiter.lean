import Guidebook.Text.Basic

namespace Guidebook

/-!
# Delimiters of inline markup

An opener is recognised at the start of a text, and its closer is searched for
in what follows.  Stars are the hard case: a run of them may close, open or do
both, so bold and italic each read the runs ahead by a rule of their own.
-/

/-- The marks that open a formatted stretch. -/
inductive Opener where
  | image
  | link
  | code
  | bold
  | italic
  | strikethrough
  deriving Repr, DecidableEq

/-- The marks searched for to close a stretch; links and images share theirs. -/
inductive Closer where
  | target
  | backtick
  | doubleStar
  | star
  | doubleTilde
  deriving Repr, DecidableEq

/-- A stretch between delimiters, its inside not yet read. -/
inductive Capture where
  | image (alt url : Text)
  | link (label url : Text)
  | code (content : Text)
  | bold (content : Text)
  | italic (content : Text)
  | strikethrough (content : Text)
  deriving Repr, DecidableEq

/-- What the search for a closer finds. -/
inductive Closing where
  /-- The stretch is closed, and this text follows it. -/
  | closed (capture : Capture) (rest : Text)
  /-- There is a closer, but it suits the opener one star later better. -/
  | declined
  /-- There is no closer ahead. -/
  | missing
  deriving Repr, DecidableEq

/-- Splits a link's label, its target and the rest at `](` and the next `)`. -/
def splitTarget? (text : Text) : Option (Text × Text × Text) :=
  match text.splitAround? [']', '('] with
  | none => none
  | some (label, target) =>
      (target.splitAround? [')']).map fun (url, rest) => (label, url, rest)

/-- Splits around the first run of two or more stars, with the length of that run. -/
def splitStrong? : Text → Option (Text × Nat × Text)
  | [] => none
  | '*' :: '*' :: rest => some ([], Text.runLength '*' rest + 2, rest.dropWhile (· == '*'))
  | character :: rest =>
      (splitStrong? rest).map fun (before, run, after) => (character :: before, run, after)

/--
Splits around the star that closes an italic stretch, when there is one.

A lone star closes it.  Runs of two open and close a bold stretch inside.  A
longer run closes the italic with its first star or, while a bold stretch is
open, both with its last one.  Without such a run, a `**` left open gives its
first star as the closer.  The characters passed so far are kept backwards, and
`pending` holds the split at a `**` that is still open.
-/
def splitItalic? (passed : Text) (pending : Option (Text × Text)) : Text → Option (Text × Text)
  | [] => pending.map fun (inside, rest) => (inside.reverse, rest)
  | '*' :: '*' :: '*' :: rest =>
      if pending.isSome then
        some (passed.reverse ++ ('*' :: '*' :: rest.takeWhile (· == '*')),
          rest.dropWhile (· == '*'))
      else
        some (passed.reverse, '*' :: '*' :: rest)
  | '*' :: '*' :: rest =>
      splitItalic? ('*' :: '*' :: passed)
        (if pending.isSome then none else some (passed, '*' :: rest)) rest
  | '*' :: rest => some (passed.reverse, rest)
  | character :: rest => splitItalic? (character :: passed) pending rest

namespace Opener

/-- Recognises the opener a text starts with, and gives what follows it. -/
def at? : Text → Option (Opener × Text)
  | '!' :: '[' :: body => some (.image, body)
  | '[' :: body => some (.link, body)
  | '\x60' :: body => some (.code, body)
  | '*' :: '*' :: body => some (.bold, body)
  | '*' :: body => some (.italic, body)
  | '~' :: '~' :: body => some (.strikethrough, body)
  | _ => none

/-- The mark that closes what an opener opens. -/
def closer : Opener → Closer
  | .image => .target
  | .link => .target
  | .code => .backtick
  | .bold => .doubleStar
  | .italic => .star
  | .strikethrough => .doubleTilde

/--
Searches for the closer of an opener in the text after it.

Bold closes with the last two stars of the next run of two or more, so that
its other stars can close an italic inside.  Three stars decline a run of just
two: the second of them opens the bold stretch instead.
-/
def close : Opener → Text → Closing
  | .image, body =>
      match splitTarget? body with
      | none => .missing
      | some (alt, url, rest) => .closed (.image alt url) rest
  | .link, body =>
      match splitTarget? body with
      | none => .missing
      | some (label, url, rest) => .closed (.link label url) rest
  | .code, body =>
      match body.splitAround? ['\x60'] with
      | none => .missing
      | some (content, rest) => .closed (.code content) rest
  | .bold, body =>
      match splitStrong? body with
      | none => .missing
      | some (before, run, rest) =>
          if body.runLength '*' = 1 ∧ run = 2 then .declined
          else .closed (.bold (before ++ List.replicate (run - 2) '*')) rest
  | .italic, body =>
      match splitItalic? [] none body with
      | none => .missing
      | some (content, rest) => .closed (.italic content) rest
  | .strikethrough, body =>
      match body.splitAround? ['~', '~'] with
      | none => .missing
      | some (content, rest) => .closed (.strikethrough content) rest

end Opener

end Guidebook
