import Blocklist.IdRange
import Blocklist.Json.Digits

/-!
# Arguments of the command line

A command line is read level by level: the options and operands before a subcommand, then the
subcommand with its own. An option is written `--name value`, `--name=value`, `-n value`, `-n=value`
or `-nvalue`; flags of one letter may share a hyphen with what follows; after `--` everything is an
operand. A value of its own does not start with a hyphen, unless it is one hyphen.

* `Cli.Level`              what one level takes;
* `Cli.Level.read`         what one level is given, and the arguments of the next;
* `Cli.Invocation.parse`   what a command line asks for.
-/

namespace Blocklist.Cli

/-! ## options -/

/-- the options of all commands -/
inductive Opt where
  | config | state | rulesets | id | input | output | verbose | force | list
  deriving DecidableEq, Repr

namespace Opt

def all : List Opt := [config, state, rulesets, id, input, output, verbose, force, list]

def name : Opt → String
  | config => "config"
  | state => "state"
  | rulesets => "rulesets"
  | id => "id"
  | input => "input"
  | output => "output"
  | verbose => "verbose"
  | force => "force"
  | list => "list"

def letter? : Opt → Option Char
  | input => some 'i'
  | output => some 'o'
  | verbose => some 'v'
  | force => some 'f'
  | _ => none

def takesValue : Opt → Bool
  | verbose | force => false
  | _ => true

/-- the option may be given more than once -/
def repeats : Opt → Bool
  | input => true
  | _ => false

end Opt

inductive UsageError where
  | unknownOption (text : String)
  | unneededValue (option : String)
  | missingValue (option : String)
  | repeatedOption (option : String)
  | invalidValue (option value : String)
  | missingOption (option : String)
  | unexpectedOperand (text : String)
  | missingOperand
  | missingCommand
  deriving DecidableEq, Repr

def UsageError.message : UsageError → String
  | unknownOption text => "unknown option: " ++ text
  | unneededValue option => "option takes no value: " ++ option
  | missingValue option => "option needs a value: " ++ option
  | repeatedOption option => "option given more than once: " ++ option
  | invalidValue option value => s!"invalid value for {option}: {value}"
  | missingOption option => "missing option: " ++ option
  | unexpectedOperand text => "unexpected argument: " ++ text
  | missingOperand => "missing argument"
  | missingCommand => "missing command"

/-! ## one level -/

/-- what the arguments of one level can be; `σ` are the subcommands -/
structure Level (σ : Type) where
  options : List Opt := []
  operands : Nat := 0
  commands : List (String × σ) := []

/-- what a level was given; the value of a flag is empty -/
structure Given (σ : Type) where
  options : List (Opt × String) := []
  operands : List String := []
  command : Option (σ × List String) := none

namespace Given

variable {σ : Type}

def addOptions (g : Given σ) (options : List (Opt × String)) : Given σ :=
  { g with options := options ++ g.options }

def addOperand (g : Given σ) (text : String) : Given σ :=
  { g with operands := text :: g.operands }

def values (g : Given σ) (o : Opt) : List String := (g.options.filter fun v => v.1 = o).map (·.2)

def value? (g : Given σ) (o : Opt) : Option String := (g.values o).head?

def has (g : Given σ) (o : Opt) : Bool := (g.value? o).isSome

def operand (g : Given σ) : Except UsageError String :=
  match g.operands with
  | text :: _ => .ok text
  | [] => .error .missingOperand

def subcommand (g : Given σ) : Except UsageError (σ × List String) :=
  match g.command with
  | some c => .ok c
  | none => .error .missingCommand

end Given

/-- an argument by its form -/
inductive Form where
  /-- `--` -/
  | terminator
  /-- `--name` or `--name=value` -/
  | long (name : List Char) (value : Option (List Char))
  /-- a hyphen and at least one character -/
  | short (cs : List Char)
  | plain

def Form.of (arg : String) : Form :=
  match arg.toList with
  | ['-', '-'] => .terminator
  | '-' :: '-' :: cs =>
    .long (cs.takeWhile (· ≠ '=')) (match cs.dropWhile (· ≠ '=') with
      | _ :: value => some value
      | [] => none)
  | ['-'] => .plain
  | '-' :: cs => .short cs
  | _ => .plain

/-- the options in one argument, and the option whose value is the next argument -/
abbrev OptionsOf := List (Opt × String) × Option Opt

namespace Level

variable {σ : Type}

def readLong (l : Level σ) (name : List Char) (value : Option (List Char)) :
    Except UsageError OptionsOf :=
  match l.options.find? fun o => o.name.toList = name with
  | none => .error (.unknownOption (String.ofList ('-' :: '-' :: name)))
  | some o =>
    match o.takesValue, value with
    | true, some value => .ok ([(o, String.ofList value)], none)
    | true, none => .ok ([], some o)
    | false, some _ => .error (.unneededValue o.name)
    | false, none => .ok ([(o, "")], none)

def readShort (l : Level σ) : List Char → Except UsageError OptionsOf
  | [] => .ok ([], none)
  | c :: cs =>
    match l.options.find? fun o => o.letter? = some c with
    | none => .error (.unknownOption (String.ofList ['-', c]))
    | some o =>
      if o.takesValue then
        match cs with
        | [] => .ok ([], some o)
        | '=' :: value => .ok ([(o, String.ofList value)], none)
        | value => .ok ([(o, String.ofList value)], none)
      else
        match readShort l cs with
        | .error e => .error e
        | .ok (options, next) => .ok ((o, "") :: options, next)

def scan (l : Level σ) : List String → Except UsageError (Given σ)
  | [] => .ok {}
  | arg :: args =>
    match l.commands.lookup arg with
    | some command => .ok { command := some (command, args) }
    | none =>
      let options := match Form.of arg with
        | .long name value => some (l.readLong name value)
        | .short cs => some (l.readShort cs)
        | _ => none
      match options with
      | some (.error e) => .error e
      | some (.ok (options, none)) => (scan l args).map fun g => g.addOptions options
      | some (.ok (options, some o)) =>
        match args with
        | [] => .error (.missingValue o.name)
        | value :: args =>
          match Form.of value with
          | .plain => (scan l args).map fun g => g.addOptions (options ++ [(o, value)])
          | _ => .error (.missingValue o.name)
      | none =>
        match Form.of arg with
        | .terminator => .ok { operands := args }
        | _ => (scan l args).map fun g => g.addOperand arg

/-- what the arguments give the level, if options do not repeat and operands are not too many -/
def read (l : Level σ) (args : List String) : Except UsageError (Given σ) := do
  let g ← l.scan args
  match l.options.find? fun o => !o.repeats && 1 < (g.values o).length with
  | some o => throw (.repeatedOption o.name)
  | none =>
    match g.operands.drop l.operands with
    | text :: _ => throw (.unexpectedOperand text)
    | [] => return g

end Level

/-! ## values -/

/-- a number with or without a sign -/
def int? (cs : List Char) : Option Int :=
  let digits? (cs : List Char) : Option Nat :=
    if cs ≠ [] ∧ cs.all Char.isDigit then some (Digits.toNat cs) else none
  match cs with
  | '-' :: cs => (digits? cs).map fun n => -(n : Int)
  | '+' :: cs => (digits? cs).map Int.ofNat
  | cs => (digits? cs).map Int.ofNat

def ruleId? (text : String) : Option RuleId :=
  match int? text.toList with
  | some (.ofNat n) => if n < UInt32.size then some n.toUInt32 else none
  | _ => none

def ruleId (what text : String) : Except UsageError RuleId :=
  match ruleId? text with
  | some id => .ok id
  | none => .error (.invalidValue what text)

/-! ## commands -/

/-- where configuration, state and rulesets are -/
structure Places where
  /-- without a file, the lists are the built-in ones -/
  config : Option String := none
  state : String := "sieve-state.json"
  rulesets : String := "rulesets"
  deriving DecidableEq, Repr

inductive Command where
  | parse (filter : String) (id : RuleId)
  | compile (inputs : List String) (output : String) (verbose : Bool)
  | refresh (force : Bool)
  | addCustom (filter : String)
  | removeCustom (id : RuleId)
  | listCustom
  | whitelist (domain : String)
  | setEnabled (list : Option String) (enabled : Bool)
  | stats
  deriving DecidableEq, Repr

structure Invocation where
  places : Places
  command : Command
  deriving DecidableEq, Repr

/-- the words for commands -/
inductive Verb where
  | parse | compile | refresh | custom | whitelist | enable | disable | stats

/-- the words for commands about custom filters -/
inductive CustomVerb where
  | add | remove | list

/-- the options that say where things are; every level takes them -/
def placeOptions : List Opt := [.config, .state, .rulesets]

def topLevel : Level Verb where
  options := placeOptions
  commands :=
    [("parse", .parse), ("compile", .compile), ("refresh", .refresh), ("custom", .custom),
     ("whitelist", .whitelist), ("enable", .enable), ("disable", .disable), ("stats", .stats)]

def Verb.level : Verb → Level CustomVerb
  | parse => { options := .id :: placeOptions, operands := 1 }
  | compile => { options := [.input, .output, .verbose] ++ placeOptions }
  | refresh => { options := .force :: placeOptions }
  | custom =>
    { options := placeOptions
      commands := [("add", .add), ("remove", .remove), ("list", .list)] }
  | whitelist => { options := placeOptions, operands := 1 }
  | enable | disable => { options := .list :: placeOptions }
  | stats => { options := placeOptions }

def CustomVerb.level : CustomVerb → Level Empty
  | add | remove => { options := placeOptions, operands := 1 }
  | list => { options := placeOptions }

/-- the places with those that a level names; a name is not empty -/
def Places.update {σ : Type} (p : Places) (g : Given σ) : Except UsageError Places := do
  match placeOptions.find? fun o => g.value? o = some "" with
  | some o => throw (.invalidValue o.name "")
  | none => return {
      config := (g.value? .config).or p.config
      state := (g.value? .state).getD p.state
      rulesets := (g.value? .rulesets).getD p.rulesets }

def Command.ofCustom (verb : CustomVerb) (g : Given Empty) : Except UsageError Command :=
  match verb with
  | .add => return .addCustom (← g.operand)
  | .remove => return .removeCustom (← ruleId "ID" (← g.operand))
  | .list => return .listCustom

def Command.ofCompile {σ : Type} (g : Given σ) : Except UsageError Command :=
  match g.values .input with
  | [] => throw (.missingOption Opt.input.name)
  | inputs => return .compile inputs ((g.value? .output).getD "rulesets") (g.has .verbose)

/-- the innermost level that names a place decides -/
def Invocation.parse (args : List String) : Except UsageError Invocation := do
  let top ← topLevel.read args
  let (verb, args) ← top.subcommand
  let given ← verb.level.read args
  let places ← (← ({} : Places).update top).update given
  match verb with
  | .parse =>
    return ⟨places, .parse (← given.operand) (← ruleId "id" ((given.value? .id).getD "1"))⟩
  | .compile => return ⟨places, ← Command.ofCompile given⟩
  | .refresh => return ⟨places, .refresh (given.has .force)⟩
  | .custom =>
    let (verb, args) ← given.subcommand
    let given ← verb.level.read args
    return ⟨← places.update given, ← Command.ofCustom verb given⟩
  | .whitelist => return ⟨places, .whitelist (← given.operand)⟩
  | .enable => return ⟨places, .setEnabled (given.value? .list) true⟩
  | .disable => return ⟨places, .setEnabled (given.value? .list) false⟩
  | .stats => return ⟨places, .stats⟩

end Blocklist.Cli
