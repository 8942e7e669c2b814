import ChainRollback.CommandLine.Arguments
import ChainRollback.Text.Terminal

/-! # Pages of help

A page says what a command does, how it is used, and what may stand in its place in the command
line. The option that a variable may give shows the value of that variable.
-/
namespace ChainRollback.CommandLine
open Text

/-- A text whose further lines start at a margin. -/
def hanging (margin text : String) : String :=
  String.join <| text.toList.map fun c => if c = '\n' then "\n" ++ margin else c.toString

def blanks (n : Nat) : String := String.ofList (List.replicate n ' ')

structure HelpEntry where
  indent : Nat := 6
  name : String
  /-- What stands behind the name. -/
  value : String := ""
  text : String

namespace HelpEntry

def width (e : HelpEntry) : Nat := e.indent + e.name.length + e.value.length

def term (e : HelpEntry) : String := blanks e.indent ++ emphasis e.name ++ e.value

/-- Entries whose texts stand beside them in a column of their own. -/
def beside (entries : List HelpEntry) : String :=
  let margin := (entries.map width).foldl max 0 + 2
  String.join <| entries.map fun e =>
    e.term ++ blanks (margin - e.width) ++ hanging (blanks margin) e.text ++ "\n"

/-- Entries whose texts stand below them. -/
def below (entries : List HelpEntry) : String :=
  String.intercalate "\n" <| entries.map fun e =>
    e.term ++ "\n" ++ blanks 10 ++ hanging (blanks 10) e.text ++ "\n"

end HelpEntry

namespace OptionName

def valueName : OptionName → String
  | home => "HOME"
  | config => "CONFIG"
  | dataDir => "DATA_DIR"
  | logLevel => "LOG_LEVEL"

def summary : OptionName → String
  | home => "Node home directory; relative config paths resolve against it"
  | config => "Path to a TOML configuration file. Defaults to `<home>/config/rewind.toml` when that "
      ++ "file exists"
  | dataDir => "Data directory override"
  | logLevel => "Log level: \"trace\", \"debug\", \"info\", \"warn\", \"error\""

end OptionName

variable (environment : String → Option String)

def variableNote (name : String) : String :=
  " [env: " ++ name ++ "=" ++ (environment name).getD "" ++ "]"

def OptionName.entry (o : OptionName) : HelpEntry where
  name := o.flag
  value := " <" ++ o.valueName ++ ">"
  text := o.summary ++ variableNote environment o.variableName ++
    match o with
    | .home => " [default: " ++ defaultHome ++ "]"
    | _ => ""

def helpEntry (text : String) : HelpEntry := { indent := 2, name := "-h, --help", text := text }

def hardEntry : HelpEntry where
  name := "--hard"
  text := "Also delete block n from the block store and reset the validator's signing checkpoint"

def rollbackSummary : String := "Overwrite the state at height n with the state at n - 1"

def statusSummary : String := "Print both store heights and how they relate"

def helpSummary : String := "Print this message or the help of the given subcommand(s)"

def commandEntries : List HelpEntry :=
  [⟨2, "rollback", "", rollbackSummary⟩, ⟨2, "status", "", statusSummary⟩,
    ⟨2, "help", "", helpSummary⟩]

def optionEntries : List HelpEntry :=
  OptionName.all.map (OptionName.entry environment) ++
    [{ name := "--log-json"
       text := "Emit logs as JSON" ++ variableNote environment Settings.logJsonVariable },
     helpEntry "Print help",
     { indent := 2, name := "-V, --version", text := "Print version" }]

def heading (title : String) : String := emphasis (title ++ ":")

/-- What a page begins with. -/
def lead (about usage : String) : String :=
  about ++ "\n\n" ++ heading "Usage" ++ " " ++ emphasis usage ++ "\n\n"

def block (title entries : String) : String := heading title ++ "\n" ++ entries

def HelpPage.write : HelpPage → String
  | .program =>
    lead "Roll a node's state back by one height" "rewind [OPTIONS] <COMMAND>" ++
      block "Commands" (HelpEntry.beside commandEntries) ++ "\n" ++
      block "Options" (HelpEntry.beside (optionEntries environment))
  | .rollback false =>
    lead rollbackSummary "rewind rollback [OPTIONS]" ++
      block "Options" (HelpEntry.beside [hardEntry, helpEntry "Print help (see more with '--help')"])
  | .rollback true =>
    lead (rollbackSummary ++ ".\n\nThe node must be stopped. Application state is not touched: " ++
        "after a plain rollback the node re-executes block n on restart.")
      "rewind rollback [OPTIONS]" ++
      block "Options" (HelpEntry.below [hardEntry, helpEntry "Print help (see a summary with '-h')"])
  | .status =>
    lead statusSummary "rewind status" ++ block "Options" (HelpEntry.beside [helpEntry "Print help"])
  | .help =>
    lead helpSummary "rewind help [COMMAND]..." ++
      block "Arguments" (HelpEntry.beside [⟨2, "[COMMAND]...", "", "Print help for the subcommand(s)"⟩])

/-- A page as a reader without a terminal sees it. -/
def HelpPage.render (p : HelpPage) : String := plain (p.write environment)

end ChainRollback.CommandLine
