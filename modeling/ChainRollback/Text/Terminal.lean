/-! # Text for a terminal

Text may hold sequences that a terminal obeys instead of showing them, each begun by an escape
character. `plain` is what is left for a reader who has no terminal.
-/
namespace ChainRollback.Text

inductive TerminalMode where
  | shown
  | escape
  | marked
  | control
  /-- A string for the terminal that a bell may end. -/
  | title
  /-- A string for the terminal that only a further escape ends. -/
  | device
  deriving DecidableEq

def emphasis (s : String) : String := "\x1b[1m" ++ s ++ "\x1b[0m"

def isLayout (c : Char) : Bool := c == '\t' || c == '\n' || c == '\x0c' || c == '\r'

def isMark (c : Char) : Bool := ' ' ≤ c && c ≤ '/'

namespace TerminalMode

/-- Where a character leads, and whether it is shown. -/
def step (mode : TerminalMode) (c : Char) : TerminalMode × Bool :=
  if c = '\x1b' then (.escape, false)
  else if c = '\x18' ∨ c = '\x1a' then (.shown, false)
  else match mode with
    | shown => (.shown, isLayout c || (' ' ≤ c && c != '\x7f'))
    | title => (if c = '\x07' then .shown else .title, false)
    | device => (.device, false)
    | escape =>
      if isLayout c then (.shown, true)
      else if c = '[' then (.control, false)
      else if c = ']' then (.title, false)
      else if c = 'P' ∨ c = 'X' ∨ c = '^' ∨ c = '_' then (.device, false)
      else if isMark c then (.marked, false)
      else if '0' ≤ c ∧ c ≤ '~' then (.shown, false)
      else (.escape, false)
    | marked =>
      if isLayout c then (.shown, true)
      else (if '0' ≤ c ∧ c ≤ '~' then .shown else .marked, false)
    | control =>
      if isLayout c then (.shown, true)
      else (if '@' ≤ c ∧ c ≤ '~' then .shown else .control, false)

def filter (mode : TerminalMode) : List Char → List Char
  | [] => []
  | c :: rest =>
    let (next, isShown) := mode.step c
    if isShown then c :: next.filter rest else next.filter rest

end TerminalMode

def plain (s : String) : String := String.ofList (TerminalMode.shown.filter s.toList)

end ChainRollback.Text
