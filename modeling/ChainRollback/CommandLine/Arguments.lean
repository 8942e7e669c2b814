import ChainRollback.Config

/-! # Arguments

What a command line asks for. Options come before the command, each at most once, with its value
behind an equals sign or as the next argument. A value that stands on its own is only looked at
when the next option is met or the command has been read, so a request for help that comes first
wins over a bad value. An option that is left out may be given by a variable of the environment.
-/
namespace ChainRollback.CommandLine

inductive OptionName where
  | home
  | config
  | dataDir
  | logLevel
  deriving DecidableEq, Repr

namespace OptionName

def flag : OptionName → String
  | home => "--home"
  | config => "--config"
  | dataDir => "--data-dir"
  | logLevel => "--log-level"

def variableName : OptionName → String
  | home => "REWIND_HOME"
  | config => "REWIND_CONFIG"
  | dataDir => "REWIND_DATA_DIR"
  | logLevel => "REWIND_LOG_LEVEL"

def all : List OptionName := [home, config, dataDir, logLevel]

def ofFlag? (s : String) : Option OptionName := all.find? fun o => o.flag == s

/-- Paths must not be empty; a log level may be. -/
def accepts (o : OptionName) (value : String) : Bool := o == logLevel || !value.isEmpty

end OptionName

inductive Command where
  | rollback (hard : Bool)
  | status
  deriving DecidableEq, Repr

def defaultHome : String := "./rewind_home"

structure Settings where
  value? : OptionName → Option String := fun _ => none
  logJson : Bool := false

/-- A page of help: about the program, about a command in full or in short, or about help. -/
inductive HelpPage where
  | program
  | rollback (inFull : Bool)
  | status
  | help
  deriving DecidableEq, Repr

inductive Request where
  | help (page : HelpPage)
  | version
  | run (settings : Settings) (command : Command)

/-- An option that has been named: nothing, or its value, is still to be taken in. -/
inductive Pending where
  | none
  | value (o : OptionName) (text : String)

namespace Settings

def assign (s : Settings) (o : OptionName) (text : String) : Option Settings :=
  if (s.value? o).isNone && o.accepts text then
    some { s with value? := fun other => if other = o then some text else s.value? other }
  else none

def settle (s : Settings) : Pending → Option Settings
  | .none => some s
  | .value o text => s.assign o text

def fill (environment : String → Option String) (s : Settings) (o : OptionName) :
    Option Settings :=
  match s.value? o, environment o.variableName with
  | none, some text => s.assign o text
  | _, _ => some s

def logJsonVariable : String := "REWIND_LOG_JSON"

def complete (environment : String → Option String) (s : Settings) : Option Settings := do
  let s ← OptionName.all.foldlM (fill environment) s
  if s.logJson then return s
  match environment logJsonVariable with
  | none => return s
  | some text =>
    if text = "true" then return { s with logJson := true }
    else if text = "false" then return s
    else none

end Settings

def isLongHelp (argument : String) : Bool := argument == "--help"

def isHelp (argument : String) : Bool :=
  isLongHelp argument || "-h".toList.isPrefixOf argument.toList

def isVersion (argument : String) : Bool :=
  argument == "--version" || "-V".toList.isPrefixOf argument.toList

/-- Whether an argument cannot be the value of the option before it. -/
def isDashed (argument : String) : Bool :=
  argument.toList.head? == some '-' && argument != "-"

/-- What follows the name of a command: a call for help, or its flags. -/
inductive Tail where
  | help (inFull : Bool)
  | flags (hard : Bool)

/-- The arguments behind a command; `takesHard` holds of the one that has a flag. -/
def readTail (takesHard : Bool) (hard : Bool) : List String → Option Tail
  | [] => some (.flags hard)
  | argument :: rest =>
    if isHelp argument then some (.help (isLongHelp argument))
    else if argument = "--" ∧ rest.isEmpty then some (.flags hard)
    else if argument = "--hard" ∧ takesHard ∧ !hard then readTail takesHard true rest
    else none

def readHelp : List String → Option HelpPage
  | [] => some .program
  | [name] =>
    if name = "rollback" then some (.rollback true)
    else if name = "status" then some .status
    else if name = "help" then some .help
    else none
  | _ => none

def splitValue (argument : String) : String × Option String :=
  let chars := argument.toList
  match chars.dropWhile (· != '=') with
  | [] => (argument, none)
  | _ :: value => (String.ofList (chars.takeWhile (· != '=')), some (String.ofList value))

variable (environment : String → Option String)

/-- A command with its tail, once the options before it are settled. -/
def finish (s : Settings) (pending : Pending) (page : Bool → HelpPage) (command : Bool → Command) :
    Option Tail → Option Request
  | none => none
  | some (.help inFull) => some (.help (page inFull))
  | some (.flags hard) => do
    let s ← s.settle pending
    return .run (← s.complete environment) (command hard)

/-- Reads options up to the command. -/
def readOptions (s : Settings) (pending : Pending) : List String → Option Request
  | [] => none
  | argument :: rest =>
    if argument = "rollback" then
      finish environment s pending .rollback .rollback (readTail true false rest)
    else if argument = "status" then
      finish environment s pending (fun _ => .status) (fun _ => .status) (readTail false false rest)
    else if argument = "help" then (readHelp rest).map .help
    else match s.settle pending with
      | none => none
      | some s =>
        if isHelp argument then some (.help .program)
        else if isVersion argument then some .version
        else if argument = "--log-json" then
          if s.logJson then none else readOptions { s with logJson := true } .none rest
        else match splitValue argument with
          | (flag, some value) =>
            match (OptionName.ofFlag? flag).bind fun o => s.assign o value with
            | some s => readOptions s .none rest
            | none => none
          | (flag, none) =>
            match OptionName.ofFlag? flag, rest with
            | some o, value :: rest =>
              if isDashed value then none else readOptions s (.value o value) rest
            | _, _ => none

def request (arguments : List String) : Option Request := readOptions environment {} .none arguments

end ChainRollback.CommandLine
