/-! # TOML documents as trees

A document is a table. A table that a header names is final; one that only lies on the way to
another may still be opened by its own header, and one that dotted keys made may only grow by
dotted keys. No key is given twice.
-/
namespace ChainRollback.Toml

inductive Scalar where
  | text (s : String)
  | integer (i : Int)
  | boolean (b : Bool)
  | floating
  | dateTime
  deriving DecidableEq

mutual

inductive Item where
  | scalar (s : Scalar)
  | array (items : List Item)
  | inlined (t : Table)
  | table (t : Table)
  | tables (ts : List Table)

/-- `implicit` holds of a table that no header and no braces have named, `dotted` of one that
dotted keys made. -/
inductive Table where
  | mk (implicit dotted : Bool) (entries : List (String × Item))

end

namespace Table

def implicit : Table → Bool
  | mk i _ _ => i

def dotted : Table → Bool
  | mk _ d _ => d

def entries : Table → List (String × Item)
  | mk _ _ es => es

def empty : Table := mk false false []

instance : Inhabited Table := ⟨empty⟩

def find? (t : Table) (key : String) : Option Item := t.entries.lookup key

def add (t : Table) (key : String) (item : Item) : Table :=
  mk t.implicit t.dotted (t.entries ++ [(key, item)])

def replace (t : Table) (key : String) (item : Item) : Table :=
  mk t.implicit t.dotted (t.entries.map fun e => if e.1 == key then (key, item) else e)

def remove (t : Table) (key : String) : Table :=
  mk t.implicit t.dotted (t.entries.filter fun e => e.1 != key)

/-- The same table named by a header. -/
def explicit (t : Table) : Table := mk false false t.entries

variable {α : Type}

/-- Works on the table at the end of a path, making the tables on the way that are missing. The
path is that of a dotted key or of a header, and inside braces all its tables are inline. -/
def descend (inside isDotted : Bool) (f : Table → Option (α × Table)) :
    (path : List String) → Table → Option (α × Table)
  | [], t => f t
  | key :: path, t =>
    let wrap (child : Table) : Item := if inside then .inlined child else .table child
    let into (child : Table) : Option (α × Table) :=
      if isDotted && !child.implicit then none
      else (descend inside isDotted f path child).map fun (a, child) =>
        (a, t.replace key (wrap child))
    match t.find? key with
    | none => (descend inside isDotted f path (mk true isDotted [])).map fun (a, child) =>
        (a, t.add key (wrap child))
    | some (.inlined child) => if inside then into child else none
    | some (.table child) => if inside then none else into child
    | some (.tables ts) =>
      match ts.getLast? with
      | none => none
      | some child => (descend inside isDotted f path child).map fun (a, child) =>
          (a, t.replace key (.tables (ts.dropLast ++ [child])))
    | some _ => none

/-- Puts a value under a key, which may be dotted. -/
def putValue (inside : Bool) (t : Table) (path : List String) (key : String) (item : Item) :
    Option Table :=
  (descend inside true (fun t =>
    if t.dotted == path.isEmpty then none
    else match t.find? key with
      | some _ => none
      | none => some ((), t.add key item)) path t).map (·.2)

end Table

/-- A document under construction: what is finished, and the table that key and value pairs go
into now, with its place. -/
structure Builder where
  root : Table
  current : Table
  path : List String
  isElement : Bool

namespace Builder

def start : Builder := ⟨.empty, .empty, [], false⟩

def put (b : Builder) (path : List String) (key : String) (item : Item) : Option Builder :=
  (b.current.putValue false path key item).map fun t => { b with current := t }

/-- Puts the current table in its place. -/
def finish (b : Builder) : Option Table :=
  match b.path.getLast? with
  | none => some b.current
  | some key =>
    (Table.descend false false (fun parent =>
      match parent.find? key with
      | none => some ((), parent.add key (if b.isElement then .tables [b.current]
          else .table b.current))
      | some (.tables ts) =>
        if b.isElement then some ((), parent.replace key (.tables (ts ++ [b.current]))) else none
      | some _ => none) b.path.dropLast b.root).map (·.2)

/-- A header for one table, which may have been on the way to others before. -/
def openTable (b : Builder) (path : List String) (key : String) : Option Builder := do
  let root ← b.finish
  let (child, root) ← Table.descend false false (fun parent =>
    match parent.find? key with
    | none => some (Table.empty, parent)
    | some (.table t) =>
      if t.implicit && !t.dotted then some (t.explicit, parent.remove key) else none
    | some _ => none) path root
  return ⟨root, child, path ++ [key], false⟩

/-- A header for the next table of a list. -/
def openElement (b : Builder) (path : List String) (key : String) : Option Builder := do
  let root ← b.finish
  let (_, root) ← Table.descend false false (fun parent =>
    match parent.find? key with
    | none => some ((), parent.add key (.tables []))
    | some (.tables _) => some ((), parent)
    | some _ => none) path root
  return ⟨root, .empty, path ++ [key], true⟩

end Builder
end ChainRollback.Toml
