import ChainRollback.Text.Alphanumeric
import ChainRollback.Text.Blank

/-! # Log filters

A log level is a list of directives between commas. A directive is a level, or the name of a target,
a span with fields in brackets, and a level behind an equals sign, each of which may be missing. The
parts are found in the directive without the blanks around it and cut at the same offsets from the
directive as it stands. So blanks in front can make a cut fall inside a character, and then the
directive can be neither read nor refused.
-/
namespace ChainRollback.LogFilter

def isBoundary : List Char → (bytes : Nat) → Bool
  | _, 0 => true
  | [], _ => false
  | c :: rest, bytes => c.utf8Size ≤ bytes && isBoundary rest (bytes - c.utf8Size)

/-- The part of a directive that is being read, with the offset of its first character if it is cut
out at its end. -/
inductive Part where
  | start
  | name (first : Nat)
  | span (first : Nat)
  | field (first : Nat)
  | fields
  | target
  | level (first : Nat)
  deriving DecidableEq

def beginsName (c : Char) : Bool := c == '-' || c == ':' || c == '_' || Text.isAlphanumeric c

/-- Whether the rest of a directive, at some offset, makes a cut fall inside a character of the
text. A directive that is refused is not read on. -/
def splitsCharacter (text : List Char) : Part → (offset : Nat) → List Char → Bool
  | .name first, _, [] => !isBoundary text first
  | .level first, _, [] => !isBoundary text first
  | _, _, [] => false
  | part, offset, c :: rest =>
    let next := offset + c.utf8Size
    let isCut (first : Nat) : Bool := isBoundary text first && isBoundary text offset
    match part with
    | .start =>
      if c = '[' then splitsCharacter text (.span next) next rest
      else beginsName c && splitsCharacter text (.name offset) next rest
    | .name first =>
      if c = '=' then !isCut first || splitsCharacter text (.level next) next rest
      else if c = '[' then !isCut first || splitsCharacter text (.span next) next rest
      else splitsCharacter text (.name first) next rest
    | .span first =>
      if c = ']' then !isCut first || splitsCharacter text .target next rest
      else if c = '{' then !isCut first || splitsCharacter text (.field next) next rest
      else splitsCharacter text (.span first) next rest
    | .field first =>
      if c = '}' then
        !isCut first || (first != offset && splitsCharacter text .fields next rest)
      else splitsCharacter text (.field first) next rest
    | .fields => c == ']' && splitsCharacter text .target next rest
    | .target => c == '=' && splitsCharacter text (.level next) next rest
    | .level first => splitsCharacter text (.level first) next rest

def isReadable (level : String) : Bool :=
  (level.splitOn ",").all fun directive =>
    !splitsCharacter directive.toList .start 0 (Text.trim directive.toList)

end ChainRollback.LogFilter
