/-! The arguments of the command line.

A command line names one command and perhaps gives it an operand, with options anywhere among
them. Options that every command takes may also stand before the command. `--` ends the options.
-/

set_option autoImplicit false

namespace FacetedSearch.CommandLine

inductive OptionName where
  | config
  | remainder
  | unquotable
  | format
  deriving DecidableEq, Repr

inductive Command where
  | parse
  | serialize
  | roundtrip
  deriving DecidableEq, Repr

def Command.named? (name : String) : Option Command :=
  match name with
  | "parse" => some .parse
  | "serialize" => some .serialize
  | "roundtrip" => some .roundtrip
  | _ => none

inductive Stop where
  | help
  | version
  | misuse
  deriving DecidableEq, Repr

inductive Form where
  | plain
  | separator
  | long (name : String) (value : Option String)
  | short (letter : Char) (value : Option String)
  deriving DecidableEq, Repr

/-- The form of an argument. A long option has its value after `=`; a short one has it right
after its letter, where `=` may stand between. One dash alone is a plain argument. -/
def Form.of (argument : String) : Form :=
  match argument.toList with
  | ['-', '-'] => .separator
  | '-' :: '-' :: option =>
    let name := String.ofList (option.takeWhile (· != '='))
    match option.dropWhile (· != '=') with
    | [] => .long name none
    | _ :: value => .long name (some (String.ofList value))
  | ['-', letter] => .short letter none
  | '-' :: letter :: '=' :: value => .short letter (some (String.ofList value))
  | '-' :: letter :: value => .short letter (some (String.ofList value))
  | _ => .plain

/-- The values of options. One that is not repeatable has at most one value. -/
structure Options where
  config : Option String := none
  remainder : Option String := none
  unquotable : List String := []
  format : Option String := none
  deriving DecidableEq, Repr

def once (given : Option String) (value : String) : Except Stop (Option String) :=
  match given with
  | none => .ok (some value)
  | some _ => .error .misuse

def Options.add (options : Options) (value : String) : OptionName → Except Stop Options
  | .config => return { options with config := ← once options.config value }
  | .remainder => return { options with remainder := ← once options.remainder value }
  | .unquotable => return { options with unquotable := options.unquotable ++ [value] }
  | .format => return { options with format := ← once options.format value }

/-- Options before a command and after it: an option given after the command takes the place of
all its values from before. -/
def Options.orElse (options before : Options) : Options where
  config := options.config <|> before.config
  remainder := options.remainder <|> before.remainder
  unquotable := if options.unquotable.isEmpty then before.unquotable else options.unquotable
  format := options.format

inductive Task where
  | parse (query : String)
  | serialize (path : Option String)
  | roundtrip (query : String)
  deriving DecidableEq, Repr

structure Request where
  task : Task
  options : Options
  deriving DecidableEq, Repr

structure Progress where
  command : Option Command := none
  before : Options := {}
  options : Options := {}
  operand : Option String := none
  /-- An option whose value is the next argument. -/
  pending : Option OptionName := none
  onlyOperands : Bool := false
  deriving DecidableEq, Repr

namespace Progress

def long? (progress : Progress) (name : String) : Option OptionName :=
  match name with
  | "config" => some .config
  | "remainder" => some .remainder
  | "unquotable" => some .unquotable
  | "format" => if progress.command = some .parse then some .format else none
  | _ => none

def short? (progress : Progress) (letter : Char) : Option OptionName :=
  match letter with
  | 'c' => some .config
  | 'f' => if progress.command = some .parse then some .format else none
  | _ => none

def takeOption (progress : Progress) (name : Option OptionName) (value : Option String) :
    Except Stop Progress :=
  match name, value with
  | none, _ => .error .misuse
  | some name, none => .ok { progress with pending := some name }
  | some name, some value => return { progress with options := ← progress.options.add value name }

def takeLong (progress : Progress) (name : String) (value : Option String) :
    Except Stop Progress :=
  if name = "help" then .error (if value.isNone then .help else .misuse)
  else if name = "version" ∧ progress.command = none then
    .error (if value.isNone then .version else .misuse)
  else progress.takeOption (progress.long? name) value

def takeShort (progress : Progress) (letter : Char) (value : Option String) :
    Except Stop Progress :=
  if letter = 'h' then .error .help
  else if letter = 'V' ∧ progress.command = none then .error .version
  else progress.takeOption (progress.short? letter) value

def takeOperand (progress : Progress) (operand : String) : Except Stop Progress :=
  match progress.command, progress.operand with
  | some _, none => .ok { progress with operand := some operand }
  | _, _ => .error .misuse

def takePlain (progress : Progress) (argument : String) : Except Stop Progress :=
  match progress.command with
  | some _ => progress.takeOperand argument
  | none =>
    match Command.named? argument with
    | some command =>
      .ok { progress with command := some command, before := progress.options, options := {} }
    | none => .error .misuse

def take (progress : Progress) (argument : String) : Except Stop Progress :=
  if progress.onlyOperands then progress.takeOperand argument
  else
    match progress.pending, Form.of argument with
    | some name, .plain => do
      return { progress with options := ← progress.options.add argument name, pending := none }
    | some _, _ => .error .misuse
    | none, .plain => progress.takePlain argument
    | none, .separator => .ok { progress with onlyOperands := true }
    | none, .long name value => progress.takeLong name value
    | none, .short letter value => progress.takeShort letter value

def asksForHelp (progress : Progress) (argument : String) : Bool :=
  progress.command.isNone && progress.pending.isNone && !progress.onlyOperands &&
    argument == "help"

/-- The answer to a request for help: one topic at most, which has to exist. -/
def helpOn : List String → Stop
  | [] => .help
  | [topic] => if topic = "help" || (Command.named? topic).isSome then .help else .misuse
  | _ => .misuse

def task? (progress : Progress) : Option Task :=
  match progress.command, progress.operand with
  | some .parse, some query => some (.parse query)
  | some .serialize, path => some (.serialize path)
  | some .roundtrip, some query => some (.roundtrip query)
  | _, _ => none

def finish (progress : Progress) : Except Stop Request :=
  match progress.pending, progress.task? with
  | none, some task => .ok ⟨task, progress.options.orElse progress.before⟩
  | _, _ => .error .misuse

def readFrom (progress : Progress) : List String → Except Stop Request
  | [] => progress.finish
  | argument :: rest =>
    if progress.asksForHelp argument then .error (helpOn rest)
    else do (← progress.take argument).readFrom rest

end Progress

def Request.read (arguments : List String) : Except Stop Request :=
  ({} : Progress).readFrom arguments

end FacetedSearch.CommandLine
