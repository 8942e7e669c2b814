/-! # Paths

A path is text whose segments stand between slashes. Joining keeps both texts as they are: an
absolute second path replaces the first, and a slash goes between them unless one is there. What
lies above a path is told by its segments alone, without a look at any files.
-/
namespace ChainRollback.Path

def isAbsolute (p : String) : Bool := p.toList.head? == some '/'

def join (base p : String) : String :=
  if isAbsolute p then p
  else if base.isEmpty || base.toList.getLast? == some '/' then base ++ p
  else base ++ "/" ++ p

/-- The texts between slashes, empty ones among them. -/
def split : List Char → List (List Char)
  | [] => [[]]
  | c :: rest =>
    if c = '/' then [] :: split rest
    else match split rest with
      | [] => [[c]]
      | first :: others => (c :: first) :: others

def segments (p : String) : List String := (split p.toList).map String.ofList

def endsInSlash (p : String) : Bool := p.toList.getLast? == some '/'

def body (p : String) : List String := ((segments p).reverse.dropWhile String.isEmpty).reverse

/-- Whether a segment leads anywhere. -/
def isStep (segment : String) : Bool := !(segment.isEmpty || segment == ".")

def above (segments : List String) : List String :=
  let idle (segment : String) : Bool := !isStep segment
  (((segments.reverse.dropWhile idle).drop 1).dropWhile idle).reverse

/-- The path of the directory that the last step of a path is taken from. -/
def parent (p : String) : String := String.intercalate "/" (above (segments p))

def maxBytes : Nat := 4095

def maxSegmentBytes : Nat := 255

end ChainRollback.Path
