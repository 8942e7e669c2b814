import ChainRollback.Height

/-! # Strings as TOML text

A string is written in the plainest of the four forms that can hold it: basic, then literal, then
basic over several lines, then literal over several lines, each as long as nothing in it needs an
escape. When an escape is needed the form is basic, over several lines if the string has any. Quotes
in a row are counted in one byte, and a string with a longer run of them is not written at all.
-/
namespace ChainRollback.Toml

structure Shape where
  /-- Holds a control other than tab and line feed. -/
  controls : Bool
  backslash : Bool
  newline : Bool
  /-- The lengths of the longest runs of each quote. -/
  doubles : Nat
  singles : Nat

/-- The length of the longest run of a character, given the length of the run read last. -/
def longestRun (quote : Char) : (run : Nat) → List Char → Nat
  | run, [] => run
  | run, c :: text =>
    if c = quote then longestRun quote (run + 1) text else max run (longestRun quote 0 text)

def isControl (c : Char) : Bool := (c < ' ' && c != '\t' && c != '\n') || c == '\x7f'

def shape (s : List Char) : Shape where
  controls := s.any isControl
  backslash := s.contains '\\'
  newline := s.contains '\n'
  doubles := longestRun '"' 0 s
  singles := longestRun '\'' 0 s

inductive Form where
  | basic
  | literal
  | basicLines
  | literalLines
  deriving DecidableEq, Repr

def Shape.form (s : Shape) : Form :=
  let unescaped := !s.controls
  if unescaped && !s.backslash && s.doubles == 0 && !s.newline then .basic
  else if unescaped && s.singles == 0 && !s.newline then .literal
  else if unescaped && !s.backslash && s.doubles ≤ 2 then .basicLines
  else if unescaped && s.singles ≤ 2 then .literalLines
  else if s.newline then .basicLines
  else .basic

def upperHex (n : Nat) : List Char :=
  let digits := (Nat.toDigits 16 n).map Char.toUpper
  List.replicate (4 - digits.length) '0' ++ digits

def escape (c : Char) : List Char :=
  if c = '\x08' then ['\\', 'b']
  else if c = '\t' then ['\\', 't']
  else if c = '\n' then ['\\', 'n']
  else if c = '\x0c' then ['\\', 'f']
  else if c = '\r' then ['\\', 'r']
  else if c = '"' ∨ c = '\\' then ['\\', c]
  else if isControl c then '\\' :: 'u' :: upperHex c.toNat
  else [c]

/-- The text between three double quotes: line feeds stand for themselves, and so do quotes up to
two in a row. -/
def escapeLines : (quotes : Nat) → List Char → List Char
  | _, [] => []
  | quotes, c :: rest =>
    if c = '"' then
      if quotes < 2 then '"' :: escapeLines (quotes + 1) rest
      else '\\' :: '"' :: escapeLines 0 rest
    else if c = '\n' then '\n' :: escapeLines 0 rest
    else escape c ++ escapeLines 0 rest

def opening (newline : Bool) : List Char := if newline then ['\n'] else []

def Shape.write (shape : Shape) (s : List Char) : List Char :=
  match shape.form with
  | .basic => '"' :: s.flatMap escape ++ ['"']
  | .literal => '\'' :: s ++ ['\'']
  | .basicLines =>
    ['"', '"', '"'] ++ opening shape.newline ++ escapeLines 0 s ++ ['"', '"', '"']
  | .literalLines =>
    ['\'', '\'', '\''] ++ opening shape.newline ++ s ++ ['\'', '\'', '\'']

/-- The longest run of a quote that is counted. -/
def greatestRun : Nat := 255

def Shape.isCounted (s : Shape) : Bool := s.doubles ≤ greatestRun && s.singles ≤ greatestRun

def renderText (s : List Char) : Except Overflow (List Char) :=
  let shape := shape s
  if shape.isCounted then .ok (shape.write s) else .error .add

end ChainRollback.Toml
