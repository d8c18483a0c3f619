/-!
# Options of a command line

An argument that begins with a dash names options: one by its name after two dashes, or several by
their letters after one.  An option with a value takes it from its own argument, after an equals
sign that a letter can do without, or from the next argument, which may then not look like an
option.  Two dashes alone end the options.

Main statement: `readOptions_operand`, options end at the first argument that is none.
-/

namespace LoanDesk.CommandLine

/-- Why a command line is not carried out. -/
inductive Refusal where
  /-- Help or the version was asked for. -/
  | help
  /-- The arguments are none of this program. -/
  | misuse
deriving DecidableEq, Repr

/-- The exit code of a refusal. -/
def Refusal.exitCode : Refusal → Nat
  | help => 0
  | misuse => 2

/-- What an option does. -/
inductive OptionKind where
  /-- It may be given once. -/
  | flag
  /-- It may be given often. -/
  | counter
  /-- It may be given once, with a value that `accepts` holds of. -/
  | value (accepts : String → Bool)
  /-- It asks for help or for the version. -/
  | help

/-- An option with its name and its letter. -/
structure OptionSpec where
  name : String
  letter : Option Char
  kind : OptionKind

/-- The options given so far by their names, with their values; the latest is first. -/
abbrev Given := List (String × String)

namespace Given

/-- The number of times that an option was given. -/
def count (g : Given) (name : String) : Nat := g.countP fun entry => entry.1 == name

/-- Whether an option was given. -/
def has (g : Given) (name : String) : Bool := g.any fun entry => entry.1 == name

/-- The value that an option was given. -/
def value? (g : Given) (name : String) : Option String := g.lookup name

/-- The options with one more that has no value. -/
def addPlain (g : Given) (o : OptionSpec) : Except Refusal Given :=
  match o.kind with
  | .help => .error .help
  | .value _ => .error .misuse
  | .counter => .ok ((o.name, "") :: g)
  | .flag => if g.has o.name then .error .misuse else .ok ((o.name, "") :: g)

/-- The options with one more that has a value. -/
def addValue (g : Given) (o : OptionSpec) (v : String) : Except Refusal Given :=
  match o.kind with
  | .value accepts =>
    if accepts v && !g.has o.name then .ok ((o.name, v) :: g) else .error .misuse
  | _ => .error .misuse

end Given

/-- Options given so far, and an option that still has to get its value. -/
structure OptionState where
  given : Given
  pending : Option OptionSpec

/-- The options that the letters after one dash name. -/
def readLetters (specs : List OptionSpec) (g : Given) : List Char → Except Refusal OptionState
  | [] => .ok ⟨g, none⟩
  | c :: cs =>
    match specs.find? fun o => o.letter == some c with
    | none => .error .misuse
    | some o =>
      match o.kind, cs with
      | .value _, [] => .ok ⟨g, some o⟩
      | .value _, '=' :: cs => (g.addValue o (String.ofList cs)).map fun g => ⟨g, none⟩
      | .value _, cs => (g.addValue o (String.ofList cs)).map fun g => ⟨g, none⟩
      | _, cs =>
        match g.addPlain o with
        | .error e => .error e
        | .ok g => readLetters specs g cs

/-- The option that a name after two dashes names. -/
def readName (specs : List OptionSpec) (g : Given) (cs : List Char) : Except Refusal OptionState :=
  let name := String.ofList (cs.takeWhile (· != '='))
  match specs.find? fun o => o.name == name with
  | none => .error .misuse
  | some o =>
    match cs.dropWhile (· != '=') with
    | '=' :: v => (g.addValue o (String.ofList v)).map fun g => ⟨g, none⟩
    | _ =>
      match o.kind with
      | .value _ => .ok ⟨g, some o⟩
      | _ => (g.addPlain o).map fun g => ⟨g, none⟩

/-- Whether an argument looks like options. -/
def isOptionLike (argument : String) : Bool :=
  match argument.toList with
  | '-' :: _ :: _ => true
  | _ => false

/-- Whether an argument is no options, but an operand or two dashes. -/
def isOperand (argument : String) : Bool := argument == "--" || !isOptionLike argument

/-- The options of one argument. -/
def readOption (specs : List OptionSpec) (g : Given) (argument : String) :
    Except Refusal OptionState :=
  match argument.toList with
  | '-' :: '-' :: cs => readName specs g cs
  | _ :: cs => readLetters specs g cs
  | [] => .error .misuse

/-- The options in front of the first operand, and the arguments from it on. -/
def readOptions (specs : List OptionSpec) :
    OptionState → List String → Except Refusal (Given × List String)
  | ⟨g, none⟩, [] => .ok (g, [])
  | ⟨_, some _⟩, [] => .error .misuse
  | ⟨g, some o⟩, argument :: arguments =>
    if isOptionLike argument then .error .misuse
    else
      match g.addValue o argument with
      | .error e => .error e
      | .ok g => readOptions specs ⟨g, none⟩ arguments
  | ⟨g, none⟩, argument :: arguments =>
    if isOperand argument then .ok (g, argument :: arguments)
    else
      match readOption specs g argument with
      | .error e => .error e
      | .ok s => readOptions specs s arguments

/-- Options end in front of the first operand. -/
theorem readOptions_operand (specs : List OptionSpec) (g : Given) {argument : String}
    (h : isOperand argument = true) (arguments : List String) :
    readOptions specs ⟨g, none⟩ (argument :: arguments) = .ok (g, argument :: arguments) := by
  rw [readOptions, if_pos h]

/-- The options and operands of the arguments, of which there may be at most as many operands as
given by `capacity`. -/
def readArguments (specs : List OptionSpec) :
    Nat → Given → List String → List String → Except Refusal (Given × List String)
  | capacity, g, operands, arguments =>
    match readOptions specs ⟨g, none⟩ arguments with
    | .error e => .error e
    | .ok (g, []) => .ok (g, operands)
    | .ok (g, "--" :: rest) =>
      if rest.length ≤ capacity then .ok (g, operands ++ rest) else .error .misuse
    | .ok (g, operand :: rest) =>
      match capacity with
      | 0 => .error .misuse
      | capacity + 1 => readArguments specs capacity g (operands ++ [operand]) rest

end LoanDesk.CommandLine
