/-! # Arguments of the command line

Options stand before or after the command, and those of a command only after it. The first fault
ends the reading.
-/

namespace RpcScaffold.CommandLine

structure GenerateArguments where
  descriptor : String
  /-- The package of the schema, in place of the one that the descriptor sets. -/
  package : Option String := none
  output : String := "./grpc_out"
  modelsDirectory : Option String := none
  servicesDirectory : Option String := none
  /-- Versions come from the table of known ones. -/
  offline : Bool := false
  dryRun : Bool := false
  deriving Repr, DecidableEq, Inhabited

inductive Command
  | generate (arguments : GenerateArguments)
  | check (descriptor : String)
  | schema (descriptor : String) (package : Option String)
  deriving Repr, DecidableEq, Inhabited

structure Invocation where
  /-- Results are JSON. -/
  json : Bool
  command : Command
  deriving Repr, DecidableEq, Inhabited

/-- Why no command is run. -/
inductive Stop
  | version
  | help
  | misuse (message : String)
  deriving Repr, DecidableEq, Inhabited

/-! ## Options -/

inductive OptionShape
  | flag
  | text
  /-- A path is not empty. -/
  | path
  | number
  deriving Repr, DecidableEq

def globalOptions : List (String × OptionShape) := [("--json", .flag), ("--log-json", .flag)]

def generateOptions : List (String × OptionShape) := [
  ("--namespace", .text), ("--out", .path), ("--models-dir", .path), ("--services-dir", .path),
  ("--offline", .flag), ("--dry-run", .flag), ("--timeout-secs", .number)]

/-- The options that a command adds. -/
def commandOptions : String → List (String × OptionShape)
  | "generate" => generateOptions
  | "schema" => [("--namespace", .text)]
  | _ => []

def commandNames : List String := ["generate", "check", "schema"]

/-! ## Reading -/

structure Reading where
  command : Option String := none
  /-- Options with their values, a flag with an empty one. -/
  options : List (String × String) := []
  globalsBefore : List String := []
  descriptor : Option String := none
  /-- The option that waits for its value. -/
  pending : Option String := none
  /-- Everything further on is no option. -/
  literal : Bool := false

namespace Reading

def misuse {α : Type} (message : String) : Except Stop α := .error (.misuse message)

variable (r : Reading)

def shape? (name : String) : Option OptionShape :=
  globalOptions.lookup name <|> (commandOptions (r.command.getD "")).lookup name

/-- Decimal digits, perhaps after a plus sign, whose value fits a word. -/
def isNumber (text : String) : Bool :=
  let digits := if text.toList.head? == some '+' then text.toList.tail else text.toList
  !digits.isEmpty && digits.all Char.isDigit
    && Nat.ofDigitChars 10 digits 0 < 0x10000000000000000

def value (name text : String) : Except Stop Reading :=
  if (r.options.map (·.1)).contains name then
    misuse s!"the argument {name} cannot be used multiple times"
  else if r.shape? name = some .path ∧ text = "" then misuse s!"{name} needs a value"
  else if r.shape? name = some .number ∧ !isNumber text then misuse s!"{name} needs a number"
  else .ok { r with options := (name, text) :: r.options, pending := none }

def positional (text : String) : Except Stop Reading :=
  match r.command, r.descriptor with
  | none, _ =>
    if commandNames.contains text ∧ !r.literal then
      .ok { r with
        command := some text, options := []
        globalsBefore := r.options.map (·.1) }
    else misuse s!"unrecognized command {text}"
  | some _, none =>
    if text = "" then misuse "the descriptor needs a value"
    else .ok { r with descriptor := some text }
  | some _, some _ => misuse s!"unexpected argument {text}"

/-- An option as one argument, perhaps with its value after an equals sign. -/
def option (text : String) : Except Stop Reading :=
  let name := String.ofList (text.toList.takeWhile (· != '='))
  let given := (text.toList.dropWhile (· != '=')).tail
  let hasValue := text.toList.contains '='
  match r.shape? name with
  | none => misuse s!"unexpected argument {text}"
  | some .flag => if hasValue then misuse s!"{name} takes no value" else r.value name ""
  | some _ =>
    if hasValue then r.value name (String.ofList given)
    else if (r.options.map (·.1)).contains name then
      misuse s!"the argument {name} cannot be used multiple times"
    else .ok { r with pending := some name }

/-- A hyphen alone is a plain value. -/
def isOption (text : String) : Bool := text.toList.head? == some '-' && text != "-"

/-- One-letter options may stand together behind one hyphen, and the first of them is acted on
before the next is looked at. -/
def isShort (letter : Char) (text : String) : Bool := text.toList.take 2 == ['-', letter]

def argument (text : String) : Except Stop Reading :=
  match r.pending with
  | some name => if isOption text then misuse s!"{name} needs a value" else r.value name text
  | none =>
    if r.literal || !isOption text then r.positional text
    else if text = "--" then .ok { r with literal := true }
    else if text = "--help" ∨ isShort 'h' text then .error .help
    else if (text = "--version" ∨ isShort 'V' text) ∧ r.command.isNone then .error .version
    else r.option text

def has (name : String) : Bool :=
  (r.options.map (·.1)).contains name || r.globalsBefore.contains name

def finish : Except Stop Invocation :=
  match r.pending, r.command, r.descriptor with
  | some name, _, _ => misuse s!"{name} needs a value"
  | _, none, _ => misuse "a command is required"
  | _, _, none => misuse "a descriptor is required"
  | none, some command, some descriptor =>
    let package := r.options.lookup "--namespace"
    let generate : GenerateArguments :=
      { descriptor, package
        output := (r.options.lookup "--out").getD "./grpc_out"
        modelsDirectory := r.options.lookup "--models-dir"
        servicesDirectory := r.options.lookup "--services-dir"
        offline := r.has "--offline", dryRun := r.has "--dry-run" }
    let invocation (c : Command) : Invocation := { json := r.has "--json", command := c }
    match command with
    | "generate" => .ok (invocation (.generate generate))
    | "check" => .ok (invocation (.check descriptor))
    | _ => .ok (invocation (.schema descriptor package))

end Reading

def parse (arguments : List String) : Except Stop Invocation := do
  let r ← arguments.foldlM Reading.argument {}
  r.finish

end RpcScaffold.CommandLine
