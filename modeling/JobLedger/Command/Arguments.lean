import JobLedger.Command.Basic

/-!
# Command lines

A command line is the name of a command and its options. An option has a
long name, some have a letter too, and each may be given once. A value
stands behind its option or is joined to it; one that starts with a dash
has to be joined. After `--` nothing is an option any more, and since no
command takes anything else, nothing may follow.

The first mistake decides, and so does a call for help in front of it.
-/

namespace JobLedger

/-- Why a command line is no command. -/
inductive UsageFault
  | noCommand
  | unknownCommand (name : String)
  | unknownOption (argument : String)
  | repeated (option : String)
  | missingValue (option : String)
  | badValue (option value : String)
  | notAllowed (argument : String)
  | missingOption (option : String)
  /-- No mistake: help is asked for. -/
  | helpWanted
deriving DecidableEq, Repr

namespace UsageFault

def message : UsageFault → String
  | .noCommand => "a command is required"
  | .unknownCommand name => s!"unknown command '{name}'"
  | .unknownOption argument => s!"unexpected argument '{argument}'"
  | .repeated option => s!"option '--{option}' is given twice"
  | .missingValue option => s!"option '--{option}' needs a value"
  | .badValue option value => s!"invalid value '{value}' for option '--{option}'"
  | .notAllowed argument => s!"unexpected argument '{argument}'"
  | .missingOption option => s!"option '--{option}' is required"
  | .helpWanted => "usage: mrkit job-history|install-history|check-output|check-input|run [options]"

def exitStatus : UsageFault → Nat
  | .helpWanted => 0
  | _ => 2

end UsageFault

/-- The values that an option takes. -/
inductive OptionKind
  /-- The option is given or not. -/
  | flag
  | text
  /-- A text that is not empty. -/
  | file
  /-- A number of 64 bits. -/
  | word
deriving DecidableEq, Repr

structure OptionSpec where
  name : String
  kind : OptionKind
  letter : Option Char
deriving DecidableEq, Repr

namespace OptionSpec

/-- An option without a letter. -/
def long (name : String) (kind : OptionKind) : OptionSpec := ⟨name, kind, none⟩

/-- A value that the option accepts. -/
def accepts (o : OptionSpec) (value : String) : Bool :=
  match o.kind with
  | .flag => false
  | .text => true
  | .file => value ≠ ""
  | .word => (HistoryConfig.word? value).isSome

end OptionSpec

/-- The options given, with their values; a flag has an empty one. -/
abbrev Given := List (String × String)

namespace Arguments

/-- Adds an option to those given. -/
def give (o : OptionSpec) (value : String) (given : Given) : Except UsageFault Given :=
  if given.any (·.1 = o.name) then .error (.repeated o.name)
  else if o.kind ≠ .flag ∧ !o.accepts value then .error (.badValue o.name value)
  else .ok ((o.name, value) :: given)

/-- How an argument is written. -/
inductive Form
  /-- `--name` or `--name=value`. -/
  | long (name : String) (joined : Option String)
  /-- A letter and what follows it. -/
  | short (letter : Char) (joined : Option String)
  /-- The mark `--`. -/
  | endMark
  /-- Anything else. -/
  | plain

def form (argument : String) : Form :=
  match argument.toList with
  | ['-', '-'] => .endMark
  | '-' :: '-' :: r =>
      match cutFirst '=' r with
      | some (name, value) => .long (.ofList name) (some (.ofList value))
      | none => .long (.ofList r) none
  | ['-', c] => .short c none
  | '-' :: c :: '=' :: r => .short c (some (.ofList r))
  | '-' :: c :: r => .short c (some (.ofList r))
  | _ => .plain

/-- The option that an argument names. -/
def find? (options : List OptionSpec) : Form → Option (OptionSpec × Option String)
  | .long name joined => (options.find? (·.name = name)).map fun o => (o, joined)
  | .short letter joined => (options.find? (·.letter = some letter)).map fun o => (o, joined)
  | _ => none

def asksHelp : Form → Bool
  | .long name joined => name = "help" && joined.isNone
  | .short letter _ => letter = 'h'
  | _ => false

/-- An argument can be the value of the option in front of it. -/
def canBeValue (argument : String) : Bool :=
  match form argument with
  | .plain => true
  | _ => false

/-- The options in a list of arguments. -/
def read (options : List OptionSpec) : List String → Given → Except UsageFault Given
  | [], given => .ok given
  | a :: r, given =>
      match form a with
      | .plain => .error (.notAllowed a)
      | .endMark =>
          match r with
          | [] => .ok given
          | b :: _ => .error (.notAllowed b)
      | f =>
          if asksHelp f then .error .helpWanted
          else match find? options f with
            | none => .error (.unknownOption a)
            | some (o, some value) =>
                if o.kind = .flag then .error (.notAllowed a)
                else do read options r (← give o value given)
            | some (o, none) =>
                if o.kind = .flag then do read options r (← give o "" given)
                else match r with
                  | [] => .error (.missingValue o.name)
                  | value :: r =>
                      if canBeValue value then do read options r (← give o value given)
                      else .error (.missingValue o.name)

/-- A value that has to be given. -/
def required (given : Given) (name : String) : Except UsageFault String :=
  match given.lookup name with
  | some value => .ok value
  | none => .error (.missingOption name)

def isGiven (given : Given) (name : String) : Bool := (given.lookup name).isSome

/-! ## The commands -/

def targetOptions : List OptionSpec := [.long "store" .text, .long "table" .text]

def reportOptions : List OptionSpec :=
  targetOptions ++ [.long "job-id" .text, .long "counters" .flag, .long "configuration" .flag,
    .long "extensions" .flag]

def specOptions : List OptionSpec := [.long "spec" .text]

def runOptions : List OptionSpec :=
  [⟨"job", .file, some 'j'⟩, .long "store" .text, .long "no-history" .flag,
    .long "timeout-ms" .word]

def target (given : Given) : HistoryTarget := ⟨given.lookup "store", given.lookup "table"⟩

def report (rest : List String) : Except UsageFault Command := do
  let given ← read reportOptions rest []
  return .report (target given) (given.lookup "job-id")
    ⟨isGiven given "counters", isGiven given "configuration", isGiven given "extensions"⟩

def install (rest : List String) : Except UsageFault Command := do
  let given ← read targetOptions rest []
  return .install (target given)

def checkOutput (rest : List String) : Except UsageFault Command := do
  let given ← read specOptions rest []
  return .checkOutput (← required given "spec")

def checkInput (rest : List String) : Except UsageFault Command := do
  let given ← read specOptions rest []
  return .checkInput (← required given "spec")

def run (rest : List String) : Except UsageFault Command := do
  let given ← read runOptions rest []
  return .run {
    file := ← required given "job"
    store := given.lookup "store"
    noHistory := isGiven given "no-history"
    timeout := (given.lookup "timeout-ms").bind HistoryConfig.word? }

/-- The commands by their names. -/
def readers : List (String × (List String → Except UsageFault Command)) :=
  [("job-history", report), ("install-history", install), ("check-output", checkOutput),
    ("check-input", checkInput), ("run", run)]

/-- Help may be asked for all commands or for one. -/
def help : List String → Except UsageFault Command
  | [] => .error .helpWanted
  | [name] =>
      if name = "help" ∨ (readers.lookup name).isSome then .error .helpWanted
      else .error (.unknownCommand name)
  | _ :: a :: _ => .error (.unknownCommand a)

end Arguments

def Command.ofArguments : List String → Except UsageFault Command
  | [] => .error .noCommand
  | name :: rest =>
      match Arguments.form name with
      | .plain =>
          match Arguments.readers.lookup name with
          | some reader => reader rest
          | none => if name = "help" then Arguments.help rest else .error (.unknownCommand name)
      | f => if Arguments.asksHelp f then .error .helpWanted else .error (.unknownOption name)

example : Command.ofArguments ["check-input", "--spec=text:/a"] = .ok (.checkInput "text:/a") := by
  cbv
example : Command.ofArguments ["check-input", "--spec", "-a"] = .error (.missingValue "spec") := by
  cbv
example : Command.ofArguments ["run", "-jx", "--help", "y"] = .error .helpWanted := by cbv

end JobLedger
