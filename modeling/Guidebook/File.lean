import Guidebook.Text.Basic

namespace Guidebook

/-!
# Reading files

Files are read as bytes and taken for UTF-8.
-/

/-- Why a file could not be read as text. -/
inductive ReadFailure where
  /-- The system refuses to read it, with a description and a code. -/
  | refused (description : String) (code : Nat)
  /-- Its bytes are no UTF-8. -/
  | notText
  deriving Repr, DecidableEq

/-- How a failure is worded. -/
def ReadFailure.message : ReadFailure → String
  | .refused description code =>
      description ++ " (os error " ++ String.ofList (Text.decimal code) ++ ")"
  | .notText => "stream did not contain valid UTF-8"

/-- The text of a file's bytes. -/
def decodeText (bytes : ByteArray) : Except ReadFailure Text :=
  match String.fromUTF8? bytes with
  | some content => .ok content.toList
  | none => .error .notText

end Guidebook
