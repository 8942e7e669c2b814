import ChainRollback.CommandLine.Help
import ChainRollback.CommandLine.LogFilter
import ChainRollback.Rollback.Run
import ChainRollback.Store.Files

/-! # Running a command

A command works on the tree of files it is given and leaves another one. It opens the stores only
where their directories exist already, so that looking at a node never makes one.
-/
namespace ChainRollback.CommandLine

/-- An error with the errors behind it, the nearest first. -/
structure Failure where
  message : String
  causes : List String := []
  deriving DecidableEq

/-- A single cause is indented; several are numbered. -/
def Failure.report (f : Failure) : String :=
  let behind : List String := match f.causes with
    | [] => []
    | [cause] => ["", "Caused by:", "    " ++ hanging "    " cause]
    | causes =>
      "" :: "Caused by:" :: causes.zipIdx.map fun (cause, i) =>
        "    " ++ toString i ++ ": " ++ hanging "       " cause
  String.join ((("Error: " ++ f.message) :: behind).map (· ++ "\n"))

inductive Response where
  | output (text : String)
  | usage
  | failure (f : Failure)
  | overflow (o : Overflow)
  /-- The log level was cut inside a character. -/
  | splitCharacter
  deriving DecidableEq

def Response.exitCode : Response → UInt32
  | output _ => 0
  | usage => 2
  | failure _ => 1
  | overflow _ => 101
  | splitCharacter => 101

def Failure.ofConfig (e : ConfigError) : Failure := ⟨e.message, e.causes⟩

def Failure.ofRollback (e : RollbackError) : Failure := ⟨e.message, e.causes⟩

/-- The same error as the cause of a wider one. -/
def Failure.within (f : Failure) (message : String) : Failure := ⟨message, f.message :: f.causes⟩

def absent (dir : String) : Failure := ⟨"store directory " ++ dir ++ " does not exist", []⟩

def unopened (paths : NodePaths) (which : StoreName) (e : DiskError) : Failure :=
  let dir := match which with
    | .block => paths.blockDir
    | .state => paths.stateDir
  ⟨"failed to open " ++ which.noun ++ " at " ++ dir, e.message :: e.causes⟩

def openStores (t : FileTree) (paths : NodePaths) (mapSize : UInt64) :
    Except Failure OpenStores × FileTree :=
  if !t.isDirectory paths.blockDir then (.error (absent paths.blockDir), t)
  else if !t.isDirectory paths.stateDir then (.error (absent paths.stateDir), t)
  else
    let (result, t) := OpenStores.openIn t mapSize paths.blockDir paths.stateDir
    (result.mapError fun (which, e) => unopened paths which e, t)

def describeOutcome (o : Outcome) : String :=
  "Rolled back state to height " ++ toString o.height ++ " and hash " ++ Hex.encode o.appHash
    ++ "\n"

def describeAlignment : Except RollbackError Alignment → String
  | .ok .pendingBlock => "pending block (state one behind)"
  | .ok .aligned => "aligned"
  | .error e => "inconsistent: " ++ e.message

def describeStatus (s : StoreStatus) : String :=
  "state height:      " ++ toString s.stateHeight ++ "\n" ++
  "blockstore base:   " ++ toString s.blockBase ++ "\n" ++
  "blockstore height: " ++ toString s.blockHeight ++ "\n" ++
  "alignment:         " ++ describeAlignment s.alignment ++ "\n"

variable (prim : Primitives)

/-- Rolls the open stores back, with the validator files as the checkpoint. -/
def runRollback (t : FileTree) (paths : NodePaths) (stores : OpenStores) (hard : Bool) :
    Response × FileTree :=
  let n : Stores DiskStateStore DiskBlockStore FileCheckpoint :=
    ⟨stores.states, stores.blocks, ⟨prim, t, paths.signer⟩⟩
  let (result, n) := n.rollback hard .current
  let left := { stores with states := n.states, blocks := n.blocks }.close n.checkpoint.tree
  match result with
  | .ok outcome => (.output (describeOutcome outcome), left)
  | .error (.error e) =>
    (.failure ((Failure.ofRollback e).within "failed to rollback state"), left)
  | .error (.overflow o) => (.overflow o, left)

def runStatus (stores : OpenStores) : Response :=
  match StoreStatus.read stores.blocks stores.states with
  | .ok s => .output (describeStatus s)
  | .error e => .failure (.ofRollback e)

/-- The home directory and the configuration that some settings come to. -/
def configure (t : FileTree) (s : Settings) : Except ConfigError (String × Config) := do
  let home := (s.value? .home).getD defaultHome
  let c ← Config.load t home (s.value? .config)
  return (home, { c with
    dataDir := (s.value? .dataDir).getD c.dataDir
    logLevel := (s.value? .logLevel).getD c.logLevel
    logFormat := if s.logJson then .json else c.logFormat })

def execute (t : FileTree) (s : Settings) (command : Command) : Response × FileTree :=
  match configure t s with
  | .error e => (.failure (.ofConfig e), t)
  | .ok (home, c) =>
    let paths := c.resolve home
    if !LogFilter.isReadable c.logLevel then (.splitCharacter, t)
    else match openStores t paths c.mapSize with
    | (.error f, t) => (.failure f, t)
    | (.ok stores, t) =>
      match command with
      | .rollback hard => runRollback prim t paths stores hard
      | .status => (runStatus stores, t)

def versionText : String := "rewind 0.1.0\n"

def run (t : FileTree) (environment : String → Option String) (arguments : List String) :
    Response × FileTree :=
  match request environment arguments with
  | none => (.usage, t)
  | some (.help page) => (.output (page.render environment), t)
  | some .version => (.output versionText, t)
  | some (.run s command) => execute prim t s command

end ChainRollback.CommandLine
