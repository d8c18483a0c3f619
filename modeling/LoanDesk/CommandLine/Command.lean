import LoanDesk.CommandLine.Options
import LoanDesk.Number.Reading

/-!
# Commands

What the program can be asked to do, and how arguments ask for it.  The directory of the
configuration and the verbosity may be given before and after the name of a command; the directory
given last counts, and that of the environment only where none is given.
-/

namespace LoanDesk

/-- What the program is asked to do. -/
inductive Command where
  /-- Read an expression, and try it on a loan given as JSON. -/
  | check (expression : String) (loan : Option String) (exclusion : Bool)
  /-- Test the configured filters on a listing. -/
  | testFilters (loans : String)
  /-- Select the loans of a listing that pass the filters. -/
  | select (loans : String) (owned : Option String) (parallel json : Bool)
  /-- Plan orders of the selected loans. -/
  | plan (loans : String) (cash pending : Float) (portfolioId owned : Option String) (json : Bool)
  /-- Summarise the owned notes, or show the late ones. -/
  | notes (notes : String) (lateOnly includeClosed json : Bool)

/-- A command with the settings that hold for all commands. -/
structure Invocation where
  configDir : Option String
  verbosity : Nat
  command : Command

namespace CommandLine

/-- A path, which is not empty. -/
def path : OptionKind := .value fun v => !v.isEmpty

/-- Any text. -/
def text : OptionKind := .value fun _ => true

/-- A number. -/
def number : OptionKind := .value fun v => (Number.read? v.toList).isSome

/-- The options that every command takes. -/
def commonOptions : List OptionSpec :=
  [⟨"config-dir", some 'c', path⟩, ⟨"verbose", some 'v', .counter⟩, ⟨"help", some 'h', .help⟩]

/-- The options before the name of a command. -/
def leadingOptions : List OptionSpec := ⟨"version", some 'V', .help⟩ :: commonOptions

/-- The option that names a listing. -/
def loansOption : OptionSpec := ⟨"loans", some 'l', path⟩

/-- The option that names a file of owned notes. -/
def ownedOption : OptionSpec := ⟨"owned", none, path⟩

/-- The option that asks for JSON. -/
def jsonOption : OptionSpec := ⟨"json", none, .flag⟩

/-- What arguments a command takes, and what they ask for. -/
structure CommandSpec where
  name : String
  options : List OptionSpec
  /-- The number of operands. -/
  operands : Nat
  /-- The command, if nothing is missing that it needs. -/
  build : Given → List String → Option Command

/-- The commands of the program. -/
def commands : List CommandSpec :=
  [{ name := "check"
     options := [⟨"loan", some 'l', text⟩, ⟨"exclusion", some 'x', .flag⟩]
     operands := 1
     build := fun g operands =>
      operands.head?.map fun expression =>
        .check expression (g.value? "loan") (g.has "exclusion") },
   { name := "test-filters"
     options := [loansOption]
     operands := 0
     build := fun g _ => (g.value? "loans").map .testFilters },
   { name := "select"
     options := [loansOption, ownedOption, ⟨"parallel", some 'p', .flag⟩, jsonOption]
     operands := 0
     build := fun g _ =>
      (g.value? "loans").map fun loans =>
        .select loans (g.value? "owned") (g.has "parallel") (g.has "json") },
   { name := "plan"
     options := [loansOption, ⟨"cash", none, number⟩, ⟨"pending", none, number⟩,
      ⟨"portfolio-id", none, text⟩, ownedOption, jsonOption]
     operands := 0
     build := fun g _ => do
      let loans ← g.value? "loans"
      let cash ← (g.value? "cash").bind fun v => Number.read? v.toList
      let pending ← Number.read? ((g.value? "pending").getD "0").toList
      return .plan loans cash pending (g.value? "portfolio-id") (g.value? "owned") (g.has "json") },
   { name := "notes"
     options := [⟨"notes", some 'n', path⟩, ⟨"late-only", none, .flag⟩,
      ⟨"include-closed", none, .flag⟩, jsonOption]
     operands := 0
     build := fun g _ =>
      (g.value? "notes").map fun notes =>
        .notes notes (g.has "late-only") (g.has "include-closed") (g.has "json") }]

/-- The command of a name. -/
def command? (name : String) : Option CommandSpec := commands.find? fun c => c.name == name

/-- What asking for help on some names comes to. -/
def helpOn : List String → Refusal
  | [] => .help
  | [name] => if name == "help" || (command? name).isSome then .help else .misuse
  | _ => .misuse

/-- The directory of the configuration, from the options before and after the name of the command
and from the environment, which may not name an empty path where it is asked. -/
def configDir (environment : Option String) (before after : Given) :
    Except Refusal (Option String) :=
  let given := (after.value? "config-dir").or (before.value? "config-dir")
  let everywhere := before.has "config-dir" && after.has "config-dir"
  if environment == some "" && !everywhere then .error .misuse else .ok (given.or environment)

/-- How often the option for more lines of the log was given, where it was given last. -/
def verbosity (before after : Given) : Nat :=
  if after.has "verbose" then after.count "verbose" else before.count "verbose"

/-- What the arguments ask for, with the directory that the environment names. -/
def read (environment : Option String) (arguments : List String) : Except Refusal Invocation := do
  let (before, rest) ← readOptions leadingOptions ⟨[], none⟩ arguments
  match rest with
  | [] => .error .misuse
  | name :: rest =>
    if name == "help" then .error (helpOn rest)
    else
      match command? name with
      | none => .error .misuse
      | some c =>
        let (after, operands) ← readArguments (c.options ++ commonOptions) c.operands [] [] rest
        let dir ← configDir environment before after
        match c.build after operands with
        | none => .error .misuse
        | some command => .ok ⟨dir, verbosity before after, command⟩

end CommandLine

end LoanDesk
