import ChainRollback.Proofs.Text.Hex

/-! # The grammar of JSON text

What may stand in a text, character by character, with blanks wherever they may be. A string is
written in many ways: any of its characters may stand for itself, unless it is a control, a quote or
a backslash, or be written by a short or a numbered escape. An object text has members, in the order
in which they are written; of their values it matters whether they are null, an integer or a string,
and all others are alike.
-/
namespace ChainRollback.Json

def Blanks (s : List Char) : Prop := ∀ c ∈ s, c = ' ' ∨ c = '\t' ∨ c = '\n' ∨ c = '\r'

/-! Numbers -/

def Digits (s : List Char) : Prop := s ≠ [] ∧ ∀ c ∈ s, c.isDigit

/-- No zero stands in front of other digits. -/
inductive Whole : List Char → Prop where
  | zero : Whole ['0']
  | digits {c : Char} {s : List Char} (hc : c ≠ '0') (h : Digits (c :: s)) : Whole (c :: s)

inductive Fraction : List Char → Prop where
  | none : Fraction []
  | some {s : List Char} (h : Digits s) : Fraction ('.' :: s)

inductive Exponent : List Char → Prop where
  | none : Exponent []
  | some {e : Char} {sign s : List Char} (he : e = 'e' ∨ e = 'E')
    (hsign : sign = [] ∨ sign = ['+'] ∨ sign = ['-']) (h : Digits s) : Exponent (e :: (sign ++ s))

inductive NumberForm : List Char → Prop where
  | mk {sign whole fraction exponent : List Char} (hs : sign = [] ∨ sign = ['-'])
    (hw : Whole whole) (hf : Fraction fraction) (he : Exponent exponent) :
    NumberForm (sign ++ (whole ++ (fraction ++ exponent)))

/-! Strings, without the quotes around them -/

/-- The short escapes: a letter and what it stands for. -/
def shortEscapes : List (Char × Char) :=
  [('"', '"'), ('\\', '\\'), ('/', '/'), ('b', '\x08'), ('f', '\x0c'), ('n', '\n'), ('r', '\r'),
    ('t', '\t')]

def IsPlain (c : Char) : Prop := ' ' ≤ c ∧ c ≠ '"' ∧ c ≠ '\\'

inductive UnitForm : List Char → Nat → Prop where
  | mk {a b c d : Char} {i j k l : Nat} (ha : Hex.IsDigit a i) (hb : Hex.IsDigit b j)
    (hc : Hex.IsDigit c k) (hd : Hex.IsDigit d l) :
    UnitForm [a, b, c, d] (16 * (16 * (16 * i + j) + k) + l)

/-- A string as it is written and the characters that it has. A character beyond sixteen bits takes
two numbered escapes. -/
inductive StringForm : List Char → List Char → Prop where
  | nil : StringForm [] []
  | plain {c : Char} {s cs : List Char} (hc : IsPlain c) (h : StringForm s cs) :
    StringForm (c :: s) (c :: cs)
  | short {e c : Char} {s cs : List Char} (he : (e, c) ∈ shortEscapes) (h : StringForm s cs) :
    StringForm ('\\' :: e :: s) (c :: cs)
  | unit {u s cs : List Char} {n : Nat} (hu : UnitForm u n) (hn : n.isValidChar)
    (h : StringForm s cs) : StringForm ('\\' :: 'u' :: (u ++ s)) (Char.ofNat n :: cs)
  | pair {u v s cs : List Char} {m n : Nat} (hu : UnitForm u m) (hv : UnitForm v n)
    (hm : 0xD800 ≤ m ∧ m < 0xDC00) (hn : 0xDC00 ≤ n ∧ n < 0xE000) (h : StringForm s cs) :
    StringForm ('\\' :: 'u' :: (u ++ '\\' :: 'u' :: (v ++ s)))
      (Char.ofNat (0x10000 + 0x400 * (m - 0xD800) + (n - 0xDC00)) :: cs)

/-- What is written like a string, whether its numbered escapes are those of characters or not. -/
inductive StringLike : List Char → Prop where
  | nil : StringLike []
  | plain {c : Char} {s : List Char} (hc : IsPlain c) (h : StringLike s) : StringLike (c :: s)
  | short {e c : Char} {s : List Char} (he : (e, c) ∈ shortEscapes) (h : StringLike s) :
    StringLike ('\\' :: e :: s)
  | unit {u s : List Char} {n : Nat} (hu : UnitForm u n) (h : StringLike s) :
    StringLike ('\\' :: 'u' :: (u ++ s))

theorem StringForm.stringLike {s cs : List Char} (h : StringForm s cs) : StringLike s := by
  induction h with
  | nil => exact .nil
  | plain hc _ ih => exact .plain hc ih
  | short he _ ih => exact .short he ih
  | unit hu _ _ ih => exact .unit hu ih
  | pair hu hv _ _ _ ih => exact .unit hu (.unit hv ih)

/-! Values -/

inductive Form where
  | value
  /-- A value with blanks around it. -/
  | padded
  | elements
  | member
  | members

inductive WellFormed : Form → List Char → Prop where
  | null : WellFormed .value ['n', 'u', 'l', 'l']
  | true : WellFormed .value ['t', 'r', 'u', 'e']
  | false : WellFormed .value ['f', 'a', 'l', 's', 'e']
  | number {s : List Char} (h : NumberForm s) : WellFormed .value s
  | string {s : List Char} (h : StringLike s) : WellFormed .value ('"' :: (s ++ ['"']))
  | emptyList {a : List Char} (ha : Blanks a) : WellFormed .value ('[' :: (a ++ [']']))
  | list {s : List Char} (h : WellFormed .elements s) : WellFormed .value ('[' :: (s ++ [']']))
  | emptyObject {a : List Char} (ha : Blanks a) : WellFormed .value ('\x7b' :: (a ++ ['\x7d']))
  | object {s : List Char} (h : WellFormed .members s) :
    WellFormed .value ('\x7b' :: (s ++ ['\x7d']))
  | padded {a s b : List Char} (ha : Blanks a) (h : WellFormed .value s) (hb : Blanks b) :
    WellFormed .padded (a ++ (s ++ b))
  | lastElement {s : List Char} (h : WellFormed .padded s) : WellFormed .elements s
  | element {s t : List Char} (h : WellFormed .padded s) (ht : WellFormed .elements t) :
    WellFormed .elements (s ++ ',' :: t)
  | member {a n b s : List Char} (ha : Blanks a) (hn : StringLike n) (hb : Blanks b)
    (h : WellFormed .padded s) :
    WellFormed .member (a ++ '"' :: (n ++ '"' :: (b ++ ':' :: s)))
  | lastMember {s : List Char} (h : WellFormed .member s) : WellFormed .members s
  | moreMembers {s t : List Char} (h : WellFormed .member s) (ht : WellFormed .members t) :
    WellFormed .members (s ++ ',' :: t)

inductive Value where
  | null
  /-- An integer by its plain decimal form. There is none with a minus sign before a zero. -/
  | integer (n : Int)
  | text (s : String)
  | other
  deriving DecidableEq

inductive ValueText : List Char → Value → Prop where
  | null : ValueText ['n', 'u', 'l', 'l'] .null
  | integer (n : Int) : ValueText (toString n).toList (.integer n)
  | text {s cs : List Char} (h : StringForm s cs) :
    ValueText ('"' :: (s ++ ['"'])) (.text (String.ofList cs))
  | other {s : List Char} (h : WellFormed .value s) : ValueText s .other

abbrev Member := String × Value

inductive MemberText : List Char → Member → Prop where
  | mk {a n cs b c s d : List Char} {v : Value} (ha : Blanks a) (hn : StringForm n cs)
    (hb : Blanks b) (hc : Blanks c) (hv : ValueText s v) (hd : Blanks d) :
    MemberText (a ++ '"' :: (n ++ '"' :: (b ++ ':' :: (c ++ (s ++ d))))) (String.ofList cs, v)

/-- One member or more, with a comma between any two. -/
inductive MembersText : List Char → List Member → Prop where
  | last {s : List Char} {m : Member} (h : MemberText s m) : MembersText s [m]
  | cons {s t : List Char} {m : Member} {ms : List Member} (h : MemberText s m)
    (ht : MembersText t ms) : MembersText (s ++ ',' :: t) (m :: ms)

inductive ObjectText : List Char → List Member → Prop where
  | empty {a b c : List Char} (ha : Blanks a) (hb : Blanks b) (hc : Blanks c) :
    ObjectText (a ++ '\x7b' :: (b ++ '\x7d' :: c)) []
  | members {a s c : List Char} {ms : List Member} (ha : Blanks a) (h : MembersText s ms)
    (hc : Blanks c) : ObjectText (a ++ '\x7b' :: (s ++ '\x7d' :: c)) ms

end ChainRollback.Json
