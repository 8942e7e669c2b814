import ChainRollback.Text.Unprintable

/-! # Quoted text

A character or a string shown in a message: between quotes, with a backslash before the quote in
use and before a backslash, the short escapes for the usual controls, and every other character
without a glyph by its number.
-/
namespace ChainRollback.Text

/-- Lower-case hexadecimal digits, none of them leading zeros. -/
def hexNumber (n : Nat) : String := String.ofList (Nat.toDigits 16 n)

def escapeChar (quote c : Char) : String :=
  if c = '\x00' then "\\0"
  else if c = '\t' then "\\t"
  else if c = '\r' then "\\r"
  else if c = '\n' then "\\n"
  else if c = '\\' ∨ c = quote then "\\" ++ c.toString
  else if isUnprintable c then "\\u\x7b" ++ hexNumber c.toNat ++ "\x7d"
  else c.toString

def quoteChar (c : Char) : String := "'" ++ escapeChar '\'' c ++ "'"

def quote (s : String) : String := "\"" ++ String.join (s.toList.map (escapeChar '"')) ++ "\""

end ChainRollback.Text
