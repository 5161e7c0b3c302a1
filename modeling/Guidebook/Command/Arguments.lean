namespace Guidebook

/-!
# Arguments of the command line

A command is named by the first argument that is no option.  It has one input
and options of its own, which may come in any order.
-/

/-- A command with its arguments. -/
inductive Command where
  | pdf (input : String) (output config : Option String)
  | typst (input : String) (config : Option String)
  | tree (input : String)
  | highlight (input : String) (language : Option String)
  deriving Repr, DecidableEq

/-- What the arguments ask for. -/
inductive Request where
  | run (command : Command)
  | help
  /-- The arguments make no sense. -/
  | misuse
  deriving Repr, DecidableEq

/-- An option that takes a value; a value that is a file name must not be empty. -/
structure ValueOption where
  name : String
  letter : Char
  isPath : Bool
  deriving Repr, DecidableEq

namespace ValueOption

/-- The file that output goes to. -/
def output : ValueOption := ⟨"output", 'o', true⟩

/-- The file with the theme. -/
def config : ValueOption := ⟨"config", 'c', true⟩

/-- The language of code. -/
def language : ValueOption := ⟨"language", 'l', false⟩

/-- Whether an option may have a value. -/
def accepts (option : ValueOption) (value : String) : Bool :=
  !(option.isPath && value.isEmpty)

end ValueOption

/-- What was read of a command's arguments. -/
structure Given where
  input : Option String := none
  values : List (ValueOption × String) := []
  verbose : Bool := false
  deriving Repr, DecidableEq

namespace Given

/-- The value of an option. -/
def value? (given : Given) (option : ValueOption) : Option String :=
  given.values.lookup option

/-- Takes note of the input, of which there is only one. -/
def addInput (given : Given) (input : String) : Option Given :=
  if given.input.isSome ∨ input.isEmpty then none
  else some { given with input := some input }

/-- Takes note of an option's value, which may be given only once. -/
def addValue (given : Given) (option : ValueOption) (value : String) : Option Given :=
  if (given.value? option).isSome ∨ !option.accepts value then none
  else some { given with values := (option, value) :: given.values }

/-- Takes note of the wish for more messages, which may be given only once. -/
def addVerbose (given : Given) : Option Given :=
  if given.verbose then none else some { given with verbose := true }

end Given

/-- What reading some arguments comes to. -/
inductive Reading where
  | given (given : Given)
  | help
  | misuse

/-- What a single argument with letters of options leaves to do. -/
inductive Letters where
  | done (given : Given)
  /-- The next argument is the value of this option. -/
  | awaits (option : ValueOption) (given : Given)
  | help
  | misuse

/-- Reads the letters behind a single dash; the value of an option may follow its letter. -/
def readLetters (options : List ValueOption) (given : Given) : List Char → Letters
  | [] => .done given
  | 'h' :: _ => .help
  | 'v' :: rest =>
      match given.addVerbose with
      | none => .misuse
      | some given => readLetters options given rest
  | letter :: rest =>
      match options.find? (·.letter == letter) with
      | none => .misuse
      | some option =>
          match rest with
          | [] => .awaits option given
          | '=' :: value =>
              match given.addValue option (String.ofList value) with
              | none => .misuse
              | some given => .done given
          | value =>
              match given.addValue option (String.ofList value) with
              | none => .misuse
              | some given => .done given

/-- Reads a name behind two dashes; an equals sign parts it from a value. -/
def readName (options : List ValueOption) (given : Given) (argument : List Char) : Letters :=
  let name := String.ofList (argument.takeWhile (· != '='))
  let value? :=
    match argument.dropWhile (· != '=') with
    | [] => none
    | _ :: value => some (String.ofList value)
  match options.find? (·.name == name), value? with
  | some option, none => .awaits option given
  | some option, some value =>
      match given.addValue option value with
      | none => .misuse
      | some given => .done given
  | none, none =>
      if name = "help" then .help
      else if name = "verbose" then
        match given.addVerbose with
        | none => .misuse
        | some given => .done given
      else .misuse
  | none, some _ => .misuse

/-- Reads arguments that are all inputs. -/
def readInputs (given : Given) : List String → Reading
  | [] => .given given
  | argument :: rest =>
      match given.addInput argument with
      | none => .misuse
      | some given => readInputs given rest

/-- Whether an argument starts like an option. -/
def startsWithDash (argument : String) : Bool :=
  argument.toList.head? == some '-' && argument != "-"

/-- Reads the arguments of a command with some options. -/
def readArguments (options : List ValueOption) (given : Given) : List String → Reading
  | [] => .given given
  | argument :: rest =>
      let read :=
        match argument.toList with
        | ['-', '-'] => none
        | '-' :: '-' :: name => some (readName options given name)
        | '-' :: letter :: letters => some (readLetters options given (letter :: letters))
        | _ =>
            match given.addInput argument with
            | none => some .misuse
            | some given => some (.done given)
      match read, rest with
      | none, rest => readInputs given rest
      | some (.done given), rest => readArguments options given rest
      | some (.awaits option given), value :: rest =>
          if startsWithDash value then .misuse
          else
            match given.addValue option value with
            | none => .misuse
            | some given => readArguments options given rest
      | some (.awaits _ _), [] => .misuse
      | some .help, _ => .help
      | some .misuse, _ => .misuse

namespace Request

/-- The names of the commands. -/
def commandNames : List String := ["pdf", "typst", "tree", "highlight"]

/-- Makes a command of its arguments, of which the input must be there. -/
def ofReading (command : String → Given → Command) : Reading → Request
  | .help => .help
  | .misuse => .misuse
  | .given given =>
      match given.input with
      | none => .misuse
      | some input => .run (command input given)

/-- Reads the arguments after the name of a command. -/
def ofNamed (name : String) (arguments : List String) : Request :=
  match name with
  | "pdf" =>
      ofReading (fun input given => .pdf input (given.value? .output) (given.value? .config))
        (readArguments [.output, .config] {} arguments)
  | "typst" =>
      ofReading (fun input given => .typst input (given.value? .config))
        (readArguments [.config] {} arguments)
  | "tree" => ofReading (fun input _ => .tree input) (readArguments [] {} arguments)
  | "highlight" =>
      ofReading (fun input given => .highlight input (given.value? .language))
        (readArguments [.language] {} arguments)
  | "help" =>
      match arguments with
      | [] => .help
      | [topic] => if topic = "help" ∨ commandNames.contains topic then .help else .misuse
      | _ => .misuse
  | _ => .misuse

/-- Reads all arguments; options may come before the name of the command. -/
def ofArguments (given : Given) : List String → Request
  | [] => .misuse
  | argument :: rest =>
      if startsWithDash argument then
        let read :=
          match argument.toList with
          | '-' :: '-' :: name => readName [] given name
          | _ :: letters => readLetters [] given letters
          | [] => .misuse
        match read with
        | .done given => ofArguments given rest
        | .help => .help
        | _ => .misuse
      else ofNamed argument rest

end Request

end Guidebook
