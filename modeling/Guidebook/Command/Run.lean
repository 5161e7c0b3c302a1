import Guidebook.Block.Reading
import Guidebook.Command.Arguments
import Guidebook.Json.Printing
import Guidebook.Json.Tree
import Guidebook.Theme.Loading
import Guidebook.Typst.Guide

namespace Guidebook

/-!
# Running a command

A command reads its input first and its theme after that, and then prints one
text.  How files are read is left open.
-/

/-- What a command leaves behind: its exit code, what it prints, and its complaint. -/
structure Outcome where
  exitCode : Nat
  output : Text
  complaint : Option String
  deriving Repr, DecidableEq

namespace Outcome

/-- A command that went well. -/
def success (output : Text) : Outcome :=
  ⟨0, output, none⟩

/-- A command that could not do its work. -/
def failure (message : String) : Outcome :=
  ⟨1, [], some ("Error: " ++ message)⟩

/-- Arguments that make no sense. -/
def misuse : Outcome :=
  ⟨2, [], none⟩

end Outcome

namespace Command

/-- The complaint about an input that could not be read. -/
def unreadableInput (path : String) : Outcome :=
  .failure ("failed to read " ++ path)

/-- A value as printed on standard output. -/
def printed (value : Json) : Outcome :=
  .success (value.toText ++ ['\n'])

variable {m : Type → Type} [Monad m] (read : String → m (Except ReadFailure ByteArray))

/-- Goes on with the text of the input. -/
def withInput (path : String) (next : Text → m Outcome) : m Outcome := do
  match (← read path) >>= decodeText with
  | .error _ => return unreadableInput path
  | .ok text => next text

/-- Goes on with the theme of a file or, where none is given, with the shipped one. -/
def withTheme (path? : Option String) (next : Theme → m Outcome) : m Outcome := do
  match path? with
  | none => next Theme.shipped
  | some path =>
      match Theme.load path (← read path) with
      | .error error => return .failure error.message
      | .ok theme => next theme

/-- Runs a command.  Pages are not laid out here, so that a guide cannot become a PDF file. -/
def run : Command → m Outcome
  | .pdf input _ config =>
      withInput read input fun _ =>
        withTheme read config fun _ => return .failure "cannot lay out pages"
  | .typst input config =>
      withInput read input fun text =>
        withTheme read config fun theme => return .success (theme.typeset (Block.read text))
  | .tree input =>
      withInput read input fun text => return printed (Block.allToJson (Block.read text))
  | .highlight input language =>
      withInput read input fun text =>
        let tag := language.getD Block.defaultLanguage
        return printed (Fragment.linesToJson ((Language.ofTag tag.toList).highlight text))

end Command

/-- How the commands are used. -/
def usage : String :=
  "Usage: guidebook [-v] <command> <input>\n\n" ++
    "  typst      Print a guide as Typst markup [-c <theme>]\n" ++
    "  tree       Print the blocks of a guide as JSON\n" ++
    "  highlight  Print the fragments of some code as JSON [-l <language>]\n"

/-- Does what arguments ask for. -/
def Request.perform {m : Type → Type} [Monad m]
    (read : String → m (Except ReadFailure ByteArray)) : Request → m Outcome
  | .run command => command.run read
  | .help => return .success usage.toList
  | .misuse => return .misuse

end Guidebook
