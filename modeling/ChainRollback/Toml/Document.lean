import ChainRollback.Toml.Number

/-! # Reading TOML documents

A document is a run of lines, each a key with its value, a header, a comment or nothing. Values
nest at most seventy-nine deep, and a key has fewer than eighty parts. Any fault makes the whole
document unreadable.
-/
namespace ChainRollback.Toml

def skipBlanks (text : List Char) : List Char := text.dropWhile isBlank

def lineBreak? : List Char → Option (List Char)
  | [] => some []
  | '\n' :: text => some text
  | '\r' :: '\n' :: text => some text
  | _ => none

def skipComment : List Char → List Char
  | '#' :: text => text.dropWhile isPrinting
  | text => text

def endLine? (text : List Char) : Option (List Char) :=
  lineBreak? (skipComment (skipBlanks text))

/-- Blanks, line breaks and comments between the elements of an array. -/
def skipLines : (fuel : Nat) → List Char → List Char
  | 0, text => text
  | fuel + 1, text =>
    match text with
    | [] => []
    | c :: rest =>
      if isBlank c ∨ c = '\n' then skipLines fuel rest
      else if c = '\r' ∧ rest.head? = some '\n' then skipLines fuel rest
      else if c = '#' then skipLines fuel (rest.dropWhile isPrinting)
      else c :: rest

def isBare (c : Char) : Bool :=
  isDigit c || ('A' ≤ c && c ≤ 'Z') || ('a' ≤ c && c ≤ 'z') || c == '-' || c == '_'

def readPart : Reader String
  | [] => none
  | c :: text =>
    if c = '"' then (readBasic .plain text).map asText
    else if c = '\'' then (readLiteral text).map asText
    else if isBare c then
      some (String.ofList ((c :: text).takeWhile isBare), (c :: text).dropWhile isBare)
    else none

/-- A key: its parts with points between them, blanks around each. -/
def readKey : (fuel : Nat) → Reader (List String)
  | 0, _ => none
  | fuel + 1, text => do
    let (part, text) ← readPart (skipBlanks text)
    match skipBlanks text with
    | '.' :: text =>
      let (parts, text) ← readKey fuel text
      return (part :: parts, text)
    | text => return ([part], text)

def readPath : Reader (List String × String) := fun text => do
  let (parts, text) ← readKey 79 text
  match parts.getLast? with
  | some last => return ((parts.dropLast, last), text)
  | none => none

def maxDepth : Nat := 80

mutual

/-- A value inside `depth` others. -/
def readValue : (fuel depth : Nat) → Reader Item
  | 0, _, _ => none
  | fuel + 1, depth, text =>
    match text with
    | [] => none
    | c :: rest =>
      if c = '"' ∨ c = '\'' then (readText text).map fun (s, rest) => (.scalar (.text s), rest)
      else if c = '[' then
        if depth + 1 < maxDepth then
          (readElements fuel (depth + 1) rest).map fun (items, rest) => (.array items, rest)
        else none
      else if c = '\x7b' then
        if maxDepth ≤ depth + 1 then none
        else match skipBlanks rest with
          | '\x7d' :: rest => some (.inlined .empty, rest)
          | rest => (readPairs fuel (depth + 1) .empty rest).map fun (t, rest) => (.inlined t, rest)
      else (readPlain text).map fun (s, rest) => (.scalar s, rest)

/-- The elements of an array up to its closing bracket; a comma may follow the last. -/
def readElements : (fuel depth : Nat) → Reader (List Item)
  | 0, _, _ => none
  | fuel + 1, depth, text =>
    match skipLines text.length text with
    | ']' :: rest => some ([], rest)
    | text => do
      let (item, text) ← readValue fuel depth text
      match skipLines text.length text with
      | ']' :: rest => return ([item], rest)
      | ',' :: rest =>
        let (items, rest) ← readElements fuel depth rest
        return (item :: items, rest)
      | _ => none

def readPairs : (fuel depth : Nat) → Table → Reader Table
  | 0, _, _, _ => none
  | fuel + 1, depth, t, text => do
    let ((path, key), text) ← readPath text
    let (item, text) ← readValue fuel depth (skipBlanks (← expect '=' text))
    let t ← t.putValue true path key item
    match skipBlanks text with
    | '\x7d' :: rest => return (t, rest)
    | ',' :: rest => readPairs fuel depth t rest
    | _ => none

end

def readHeader (b : Builder) (text : List Char) : Option (Builder × List Char) :=
  match text with
  | '[' :: text => do
    let ((path, key), text) ← readPath text
    let text ← endLine? (← expect ']' (← expect ']' text))
    return (← b.openElement path key, text)
  | text => do
    let ((path, key), text) ← readPath text
    let text ← endLine? (← expect ']' text)
    return (← b.openTable path key, text)

def readPair (b : Builder) (text : List Char) : Option (Builder × List Char) := do
  let ((path, key), text) ← readPath text
  let text := skipBlanks (← expect '=' text)
  let (item, text) ← readValue (2 * text.length + 2) 0 text
  let text ← endLine? text
  return (← b.put path key item, text)

def readLines : (fuel : Nat) → Builder → List Char → Option Builder
  | 0, _, _ => none
  | fuel + 1, b, text =>
    match skipBlanks text with
    | [] => some b
    | c :: rest =>
      if c = '\n' ∨ c = '\r' ∨ c = '#' then
        match lineBreak? (skipComment (c :: rest)) with
        | some text => readLines fuel b text
        | none => none
      else match if c = '[' then readHeader b rest else readPair b (c :: rest) with
        | some (b, text) => readLines fuel b text
        | none => none

/-- The table that a document stands for; a byte order mark before it is left out. -/
def parse (text : String) : Option Table := do
  let chars := match text.toList with
    | '\ufeff' :: rest => rest
    | chars => chars
  (← readLines (chars.length + 1) .start chars).finish

end ChainRollback.Toml
