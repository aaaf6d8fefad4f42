import FiveStage.Statistics.Sections
import FiveStage.Text.Layout

/-!
# Command-line arguments

The arguments are read from left to right. The first one that is wrong, or that asks for help or the
version, settles the outcome.
-/

namespace FiveStage.CommandLine

/-- What a run is asked to do. -/
structure RunOptions where
  file : String
  config : Option String := none
  /-- A cycle limit that overrides the configured one. -/
  maxCycles : Option Nat := none
  /-- Take the program for an executable whatever it looks like. -/
  elf : Bool := false
  /-- The sections of the report; all if empty. -/
  stats : List Section := []
  deriving DecidableEq, Repr

/-- What the program is asked to do. -/
inductive Command where
  | run (options : RunOptions)
  | help
  | version
  deriving DecidableEq, Repr

/-- What is wrong with the arguments. -/
inductive UsageError where
  | missingCommand
  | unexpected (argument : String)
  | missingValue (option : String)
  | repeated (option : String)
  | invalidValue (option value : String)
  | missingOption (option : String)
  deriving DecidableEq, Repr

def UsageError.message : UsageError → String
  | missingCommand => "a command is required"
  | unexpected argument => "unexpected argument '" ++ argument ++ "'"
  | missingValue option => "a value is required for '--" ++ option ++ "'"
  | repeated option => "the argument '--" ++ option ++ "' cannot be used multiple times"
  | invalidValue option value => "invalid value '" ++ value ++ "' for '--" ++ option ++ "'"
  | missingOption option => "the argument '--" ++ option ++ "' is required"

/-- An option of a run that takes a value. -/
inductive ValueOption where
  | file
  | config
  | maxCycles
  | stats
  deriving DecidableEq, Repr

namespace ValueOption

def name : ValueOption → String
  | file => "file"
  | config => "config"
  | maxCycles => "max-cycles"
  | stats => "stats"

def ofName? (s : String) : Option ValueOption :=
  [file, config, maxCycles, stats].find? (·.name == s)

def ofLetter? : Char → Option ValueOption
  | 'f' => some file
  | 'c' => some config
  | _ => none

end ValueOption

/-- The options of a run as far as they have been read. -/
structure RunDraft where
  file : Option String := none
  config : Option String := none
  maxCycles : Option Nat := none
  elf : Bool := false
  stats : List Section := []
  /-- An option that waits for its value. -/
  pending : Option ValueOption := none
  /-- No more options may follow. -/
  closed : Bool := false

/-- Why reading the arguments ends before their end. -/
inductive Stop where
  | help
  | usage (error : UsageError)

/-- A decimal number of at most 64 bits, which may have a plus sign. -/
def number? (s : String) : Option Nat :=
  let digits := match s.toList with
    | '+' :: rest => rest
    | all => all
  let n := Text.ofDigits digits
  if !digits.isEmpty && digits.all Char.isDigit && n < UInt64.size then some n else none

/-- The options with one more value. -/
def RunDraft.setValue (p : RunDraft) (o : ValueOption) (value : String) : Except Stop RunDraft :=
  let p := { p with pending := none }
  let invalid : Except Stop RunDraft := .error (.usage (.invalidValue o.name value))
  let again : Except Stop RunDraft := .error (.usage (.repeated o.name))
  match o with
  | .file =>
      if p.file.isSome then again
      else if value.isEmpty then invalid
      else .ok { p with file := some value }
  | .config =>
      if p.config.isSome then again
      else if value.isEmpty then invalid
      else .ok { p with config := some value }
  | .maxCycles =>
      if p.maxCycles.isSome then again
      else
        match number? value with
        | some n => .ok { p with maxCycles := some n }
        | none => invalid
  | .stats =>
      match (value.splitOn ",").mapM Section.ofName? with
      | some sections => .ok { p with stats := p.stats ++ sections }
      | none => invalid

/-- An argument after two dashes, with what follows its equals sign. -/
def RunDraft.longOption (p : RunDraft) (argument name : String) (value : Option String) :
    Except Stop RunDraft :=
  let unexpected : Except Stop RunDraft := .error (.usage (.unexpected argument))
  match ValueOption.ofName? name, value with
  | some o, some value => p.setValue o value
  | some o, none => .ok { p with pending := some o }
  | none, some _ => unexpected
  | none, none =>
      if name == "help" then .error .help
      else if name == "elf" then
        if p.elf then .error (.usage (.repeated name)) else .ok { p with elf := true }
      else unexpected

/-- An argument after one dash. The letter of an option may be followed by its value, with or
without an equals sign. -/
def RunDraft.shortOption (p : RunDraft) (argument : String) (letter : Char) (rest : List Char) :
    Except Stop RunDraft :=
  match ValueOption.ofLetter? letter, rest with
  | some o, [] => .ok { p with pending := some o }
  | some o, '=' :: value => p.setValue o (String.ofList value)
  | some o, value => p.setValue o (String.ofList value)
  | none, _ =>
      if letter = 'h' then .error .help else .error (.usage (.unexpected argument))

def RunDraft.option (p : RunDraft) (argument : String) : Except Stop RunDraft :=
  match argument.toList with
  | '-' :: '-' :: [] => .ok { p with closed := true }
  | '-' :: '-' :: rest =>
      let name := rest.takeWhile (· != '=')
      let value := match rest.dropWhile (· != '=') with
        | [] => none
        | _ :: value => some (String.ofList value)
      p.longOption argument (String.ofList name) value
  | '-' :: letter :: rest => p.shortOption argument letter rest
  | _ => .error (.usage (.unexpected argument))

/-- Whether an argument cannot be the value of an option before it. -/
def looksLikeOption (argument : String) : Bool :=
  match argument.toList with
  | '-' :: _ :: _ => true
  | _ => false

def RunDraft.step (p : RunDraft) (argument : String) : Except Stop RunDraft :=
  if p.closed then .error (.usage (.unexpected argument))
  else
    match p.pending with
    | some o =>
        if looksLikeOption argument then .error (.usage (.missingValue o.name))
        else p.setValue o argument
    | none => p.option argument

/-- The options of a run once all arguments are read. -/
def RunDraft.finish (p : RunDraft) : Except UsageError RunOptions :=
  match p.pending, p.file with
  | some o, _ => .error (.missingValue o.name)
  | none, none => .error (.missingOption ValueOption.file.name)
  | none, some file =>
      .ok { file, config := p.config, maxCycles := p.maxCycles, elf := p.elf, stats := p.stats }

/-- The arguments after `run`. -/
def parseRun (arguments : List String) : Except UsageError Command :=
  match arguments.foldlM RunDraft.step {} with
  | .error .help => .ok .help
  | .error (.usage e) => .error e
  | .ok p => p.finish.map .run

/-- The arguments after `help`: at most the name of a command. -/
def parseHelp : List String → Except UsageError Command
  | [] | ["run"] | ["help"] => .ok .help
  | "run" :: argument :: _ | "help" :: argument :: _ | argument :: _ =>
      .error (.unexpected argument)

/-- What the arguments ask for. -/
def parse : List String → Except UsageError Command
  | [] => .error .missingCommand
  | "run" :: rest => parseRun rest
  | "help" :: rest => parseHelp rest
  | "--help" :: _ => .ok .help
  | "--version" :: _ => .ok .version
  | argument :: _ =>
      match argument.toList with
      | '-' :: 'h' :: _ => .ok .help
      | '-' :: 'V' :: _ => .ok .version
      | _ => .error (.unexpected argument)

end FiveStage.CommandLine
