import ChainRollback.FileTree.Path
import ChainRollback.Store.Environment
import ChainRollback.Text.Utf8

/-! # Trees of files

A tree of directories, files and databases, and a directory that relative paths start from. A
path is followed one segment at a time through nodes that are directories, so it may lead to a
place where nothing is. A path that is too long as a whole is refused at once, and a name that is
too long where it is looked up.
-/
namespace ChainRollback

/-- The names on the way down from the root. -/
abbrev Location := List String

/-- Where a segment leads from a directory. -/
def Location.step (l : Location) (segment : String) : Location :=
  if segment = "" ∨ segment = "." then l
  else if segment = ".." then l.dropLast
  else l ++ [segment]

inductive Node where
  | directory
  | file (content : Bytes)
  | database (env : Environment)

inductive IoError where
  | notFound
  | isDirectory
  | notDirectory
  | alreadyExists
  | nameTooLong
  | nulByte
  | notText
  | refused (reason : String)
  deriving DecidableEq, Repr

def IoError.message : IoError → String
  | .notFound => "No such file or directory (os error 2)"
  | .isDirectory => "Is a directory (os error 21)"
  | .notDirectory => "Not a directory (os error 20)"
  | .alreadyExists => "File exists (os error 17)"
  | .nameTooLong => "File name too long (os error 36)"
  | .nulByte => "file name contained an unexpected NUL byte"
  | .notText => "stream did not contain valid UTF-8"
  | .refused reason => reason

structure FileTree where
  nodes : List (Location × Node)
  cwd : Location

namespace FileTree

/-- Nothing but the directories on the way to `cwd`. -/
def bare (cwd : Location) : FileTree where
  nodes := (List.range (cwd.length + 1)).map fun n => (cwd.take n, .directory)
  cwd := cwd

def find? (t : FileTree) (l : Location) : Option Node := t.nodes.lookup l

def set (t : FileTree) (l : Location) (n : Node) : FileTree :=
  { t with nodes := (l, n) :: t.nodes.filter fun e => e.1 != l }

def erase (t : FileTree) (l : Location) : FileTree :=
  { t with nodes := t.nodes.filter fun e => e.1 != l }

theorem lookup_filter_ne (nodes : List (Location × Node)) {l l' : Location} (h : l' ≠ l) :
    (nodes.filter fun e => e.1 != l).lookup l' = nodes.lookup l' := by
  induction nodes with
  | nil => rfl
  | cons e rest ih =>
    obtain ⟨place, node⟩ := e
    by_cases hp : place = l
    · simp [hp, List.lookup_cons, ih, beq_eq_false_iff_ne.mpr h]
    · simp only [ne_eq, hp, not_false_eq_true, bne_iff_ne, List.filter_cons_of_pos]
      simp [List.lookup_cons, ih]

@[simp] theorem find?_set_self (t : FileTree) (l : Location) (n : Node) :
    (t.set l n).find? l = some n := by
  simp [set, find?]

theorem find?_set_of_ne (t : FileTree) {l l' : Location} (n : Node) (h : l' ≠ l) :
    (t.set l n).find? l' = t.find? l' := by
  have hb : (l' == l) = false := beq_eq_false_iff_ne.mpr h
  simp only [set, find?, List.lookup_cons, hb]
  exact lookup_filter_ne t.nodes h

theorem find?_erase_of_ne (t : FileTree) {l l' : Location} (h : l' ≠ l) :
    (t.erase l).find? l' = t.find? l' := lookup_filter_ne t.nodes h

/-- Follows segments from a place on. -/
def walk (t : FileTree) : Location → List String → Except IoError Location
  | l, [] => .ok l
  | l, segment :: rest =>
    match t.find? l with
    | some .directory =>
      if segment.utf8ByteSize ≤ Path.maxSegmentBytes then t.walk (Location.step l segment) rest
      else .error .nameTooLong
    | some _ => .error .notDirectory
    | none => .error .notFound

/-- Where a path begins. -/
def origin (t : FileTree) (p : String) : Location := if Path.isAbsolute p then [] else t.cwd

/-- Refuses a text that names no place in any tree. -/
def checkPath (p : String) : Except IoError Unit :=
  if p.toList.contains '\x00' then .error .nulByte
  else if p.isEmpty then .error .notFound
  else if Path.maxBytes < p.utf8ByteSize then .error .nameTooLong
  else .ok ()

def locate (t : FileTree) (p : String) : Except IoError Location := do
  checkPath p
  t.walk (t.origin p) (Path.segments p)

def nodeAt? (t : FileTree) (p : String) : Option Node :=
  match t.locate p with
  | .ok l => t.find? l
  | .error _ => none

def isDirectory (t : FileTree) (p : String) : Bool :=
  match t.nodeAt? p with
  | some .directory => true
  | _ => false

def isFile (t : FileTree) (p : String) : Bool :=
  match t.nodeAt? p with
  | some (.file _) => true
  | some (.database _) => true
  | _ => false

def readText (t : FileTree) (p : String) : Except IoError String := do
  match t.find? (← t.locate p) with
  | none => throw .notFound
  | some .directory => throw .isDirectory
  | some (.database _) => throw .notText
  | some (.file content) => (Utf8.decode content).mapError fun _ => .notText

/-- The names in a directory, in order. -/
def list (t : FileTree) (p : String) : Except IoError (List String) := do
  let l ← t.locate p
  match t.find? l with
  | none => throw .notFound
  | some .directory =>
    let names := t.nodes.filterMap fun e =>
      if e.1.dropLast = l ∧ e.1.length = l.length + 1 then e.1.getLast? else none
    return names.mergeSort fun a b => a ≤ b
  | some _ => throw .notDirectory

/-- Makes a directory where some segments lead, unless there is one. -/
def makeDirectory (t : FileTree) (l : Location) (segments : List String) :
    Except IoError FileTree := do
  let place ← t.walk l segments
  match t.find? place with
  | none => return t.set place .directory
  | some .directory => return t
  | some _ => throw .alreadyExists

/-- Makes what is missing of the directories along some segments. -/
def makeEach (t : FileTree) (l : Location) : List String → Except IoError Unit × FileTree
  | [] => (.ok (), t)
  | segment :: rest =>
    match t.makeDirectory l [segment] with
    | .ok t => t.makeEach (Location.step l segment) rest
    | .error e => (.error e, t)

/-- Makes a path lead to a directory, with the directories above it if one is missing. Those that
were made stay if a later one cannot be. -/
def makeDirectories (t : FileTree) (p : String) : Except IoError Unit × FileTree :=
  let l := t.origin p
  let segments := Path.body p
  let attempt (t : FileTree) : Except IoError Unit × FileTree :=
    match t.makeDirectory l segments with
    | .ok t => (.ok (), t)
    | .error e => (.error e, t)
  if p.isEmpty then (.ok (), t)
  else match checkPath p, attempt t with
    | .error e, _ => (.error e, t)
    | .ok (), (.error .notFound, _) =>
      match t.makeEach l (Path.above segments) with
      | (.ok (), t) => attempt t
      | failed => failed
    | .ok (), made => made

end FileTree
end ChainRollback
