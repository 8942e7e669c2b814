/-! # Block heights

A height is a signed 64-bit number. A step between heights is exact or it is refused; nothing
wraps around. `add?_eq_some` and `sub?_eq_some` state both over the integers.
-/
namespace ChainRollback

abbrev Height := Int64

/-- The arithmetic steps that can leave the range of their numbers. -/
inductive Overflow where
  | add
  | subtract
  | multiply
  deriving DecidableEq, Repr

def Overflow.message : Overflow → String
  | .add => "attempt to add with overflow"
  | .subtract => "attempt to subtract with overflow"
  | .multiply => "attempt to multiply with overflow"

/-- Why an operation gives no result: an error of its own domain, or arithmetic that leaves the
range of its numbers. -/
inductive Halt (ε : Type) where
  | error (e : ε)
  | overflow (o : Overflow)
  deriving DecidableEq, Repr

def Halt.map {ε ε' : Type} (f : ε → ε') : Halt ε → Halt ε'
  | .error e => .error (f e)
  | .overflow o => .overflow o

namespace Height

def ofInt? (i : Int) : Option Height :=
  if -0x8000000000000000 ≤ i ∧ i < 0x8000000000000000 then some (Int64.ofInt i) else none

theorem ofInt?_eq_some {i : Int} {h : Height} : ofInt? i = some h ↔ h.toInt = i := by
  unfold ofInt?
  split
  · rename_i hi
    constructor
    · intro e
      cases e
      exact Int64.toInt_ofInt_of_le hi.1 hi.2
    · intro e
      subst e
      simp
  · rename_i hi
    simp only [reduceCtorEq, false_iff]
    intro e
    exact hi ⟨e ▸ Int64.le_toInt h, e ▸ Int64.toInt_lt h⟩

theorem exists_toInt_eq {i : Int} (low : -0x8000000000000000 ≤ i) (high : i < 0x8000000000000000) :
    ∃ h : Height, h.toInt = i := ⟨Int64.ofInt i, Int64.toInt_ofInt_of_le low high⟩

def add? (a b : Height) : Option Height := ofInt? (a.toInt + b.toInt)

def sub? (a b : Height) : Option Height := ofInt? (a.toInt - b.toInt)

def succ? (h : Height) : Option Height := add? h 1

def pred? (h : Height) : Option Height := sub? h 1

theorem add?_eq_some {a b c : Height} : add? a b = some c ↔ c.toInt = a.toInt + b.toInt :=
  ofInt?_eq_some

theorem sub?_eq_some {a b c : Height} : sub? a b = some c ↔ c.toInt = a.toInt - b.toInt :=
  ofInt?_eq_some

theorem succ?_eq_some {a c : Height} : succ? a = some c ↔ c.toInt = a.toInt + 1 :=
  ofInt?_eq_some

theorem pred?_eq_some {a c : Height} : pred? a = some c ↔ c.toInt = a.toInt - 1 :=
  ofInt?_eq_some

/-- One above, stopping at the greatest height. -/
def succSaturating (h : Height) : Height := (succ? h).getD Int64.maxValue

/-- A sum whose overflow ends the computation. -/
def plus (a b : Height) : Except Overflow Height :=
  match add? a b with
  | some c => .ok c
  | none => .error .add

/-- A difference whose overflow ends the computation. -/
def minus (a b : Height) : Except Overflow Height :=
  match sub? a b with
  | some c => .ok c
  | none => .error .subtract

theorem plus_eq_ok {a b c : Height} : plus a b = .ok c ↔ c.toInt = a.toInt + b.toInt := by
  unfold plus
  rw [← add?_eq_some]
  cases add? a b <;> simp

theorem minus_eq_ok {a b c : Height} : minus a b = .ok c ↔ c.toInt = a.toInt - b.toInt := by
  unfold minus
  rw [← sub?_eq_some]
  cases sub? a b <;> simp

/-- The heights from `first` up to and including `last`, lowest first. -/
def upTo (first last : Height) : List Height :=
  (List.range (last.toInt - first.toInt + 1).toNat).map fun (i : Nat) =>
    Int64.ofInt (first.toInt + i)

end Height
end ChainRollback
