import ChainRollback.Text.Hex

/-! # Writing JSON text

Records of integers, hexadecimal strings and nulls, on one line or with a member to each line.
-/
namespace ChainRollback.Json

inductive Scalar where
  | null
  | integer (value : Int)
  | hex (value : Bytes)
  deriving DecidableEq

def Scalar.render : Scalar → String
  | null => "null"
  | integer value => toString value
  | hex value => "\"" ++ Hex.encode value ++ "\""

def renderName (name : String) : String := "\"" ++ name ++ "\":"

def compact (members : List (String × Scalar)) : String :=
  "\x7b" ++ String.intercalate "," (members.map fun m => renderName m.1 ++ m.2.render) ++ "\x7d"

/-- Two blanks before each member and one behind each colon. -/
def pretty (members : List (String × Scalar)) : String :=
  "\x7b\n" ++
    String.intercalate ",\n" (members.map fun m => "  " ++ renderName m.1 ++ " " ++ m.2.render) ++
    "\n\x7d"

end ChainRollback.Json
