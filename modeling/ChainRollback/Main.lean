import ChainRollback.CommandLine.Run
import ChainRollback.Store.Snapshot

/-! # The program

Brings the files that a command can touch into a tree, runs the command on the tree, and writes
back what it changed.
-/
namespace ChainRollback.CommandLine

def absolute (l : Location) : String := "/" ++ String.intercalate "/" l

def look (l : Location) : IO (Option Node) := do
  try
    let content ← IO.FS.readBinFile (absolute l)
    return some (.ofContent content.toList)
  catch
    | .noFileOrDirectory .. => return none
    | .inappropriateType .. => return some .directory
    | e => throw e

/-- Adds to a tree what lies on the way along some segments from a directory. -/
def follow (t : FileTree) (l : Location) : List String → IO FileTree
  | [] => return t
  | segment :: rest => do
    if Path.maxSegmentBytes < segment.utf8ByteSize then return t
    let next := Location.step l segment
    let node ← match t.find? next with
      | some n => pure (some n)
      | none => look next
    match node with
    | some .directory => follow (t.set next .directory) next rest
    | some n => return t.set next n
    | none => return t

def survey (t : FileTree) (path : String) : IO FileTree :=
  match FileTree.checkPath path with
  | .ok () => follow t (t.origin path) (Path.segments path)
  | .error _ => return t

def touched (paths : NodePaths) : List String :=
  let inStore (dir : String) : List String :=
    [Path.join dir environmentFile, Path.join dir lockFile]
  inStore paths.blockDir ++ inStore paths.stateDir ++
    [paths.signer.keyFile, paths.signer.stateFile, temporary paths.signer.stateFile]

/-- The tree that a command is run on. -/
def surveyFor (t : FileTree) (s : Settings) : IO FileTree := do
  let home := (s.value? .home).getD defaultHome
  let t ← survey t ((s.value? .config).getD (Config.fileIn home))
  match configure t s with
  | .error _ => return t
  | .ok (home, c) => (touched (c.resolve home)).foldlM survey t

/-- Writes a file in full beside its place and then moves it there. -/
def install (l : Location) (content : Bytes) : IO Unit := do
  let draft := temporary (absolute l)
  IO.FS.writeBinFile draft ⟨content.toArray⟩
  IO.FS.rename draft (absolute l)

/-- Writes what differs between two trees. -/
def writeBack (before after : FileTree) : IO Unit := do
  for (l, node) in after.nodes do
    let old := before.find? l
    match node.content? with
    | none => if old.isNone then IO.FS.createDirAll (absolute l)
    | some content => if old.bind Node.content? != some content then install l content
  for (l, node) in before.nodes do
    if (after.find? l).isNone && node.content?.isSome then IO.FS.removeFile (absolute l)

def usageText : String := "Usage: rewind [OPTIONS] <COMMAND>\n"

def Response.print (r : Response) : IO Unit :=
  match r with
  | .output text => IO.print text
  | .usage => IO.eprint usageText
  | .failure f => IO.eprint f.report
  | .overflow o => IO.eprint (o.message ++ "\n")
  | .splitCharacter => IO.eprint "log level is cut inside a character\n"

def readVariables : IO (List (String × String)) := do
  let names := Settings.logJsonVariable :: OptionName.all.map OptionName.variableName
  names.filterMapM fun name => do return (← IO.getEnv name).map fun value => (name, value)

end ChainRollback.CommandLine

open ChainRollback CommandLine in
def main (arguments : List String) : IO UInt32 := do
  let cwd := (Path.segments (toString (← IO.currentDir))).filter fun segment => !segment.isEmpty
  let known ← readVariables
  let environment (name : String) : Option String := known.lookup name
  let tree ← match request environment arguments with
    | some (.run s _) => surveyFor (.bare cwd) s
    | _ => pure (.bare cwd)
  let (response, left) := CommandLine.run .standard tree environment arguments
  writeBack tree left
  response.print
  return response.exitCode
