import ChainRollback.Bytes

/-! # SHA-256 and SHA-512

One definition over the word size. The round constants are the leading bits of the fractional
parts of cube roots of primes and the initial state those of square roots, so they are computed
rather than listed. `digest_length` states the width of the result.
-/
namespace ChainRollback
namespace Sha2

/-- The greatest `base + r` of which the `k`-th power is at most `n`, for an `r` of `bits` bits. -/
def rootBits (k n : Nat) : (bits base : Nat) → Nat
  | 0, base => base
  | bits + 1, base =>
    rootBits k n bits (if Nat.pow (base + 1 <<< bits) k ≤ n then base + 1 <<< bits else base)

/-- The first `n` bits after the point of the `k`-th root of `p`. -/
def rootFraction (n k p : Nat) : BitVec n := BitVec.ofNat n (rootBits k (p <<< (n * k)) (n + 8) 0)

def isPrime (p : Nat) : Bool := 2 ≤ p && (List.range p).all fun d => d < 2 || p % d != 0

def primes : List Nat := (List.range 410).filter isPrime

/-- Three amounts: of two rotations, and of a third rotation or of a shift. -/
abbrev Amounts := Nat × Nat × Nat

/-- What distinguishes the functions on words of `n` bits. -/
structure Variant (n : Nat) where
  constants : List (BitVec n)
  initial : Vector (BitVec n) 8
  majorFirst : Amounts
  majorSecond : Amounts
  minorFirst : Amounts
  minorSecond : Amounts

def initialState (n : Nat) : Vector (BitVec n) 8 :=
  #v[2, 3, 5, 7, 11, 13, 17, 19].map (rootFraction n 2)

def variant256 : Variant 32 where
  constants := (primes.take 64).map (rootFraction 32 3)
  initial := initialState 32
  majorFirst := (2, 13, 22)
  majorSecond := (6, 11, 25)
  minorFirst := (7, 18, 3)
  minorSecond := (17, 19, 10)

def variant512 : Variant 64 where
  constants := (primes.take 80).map (rootFraction 64 3)
  initial := initialState 64
  majorFirst := (28, 34, 39)
  majorSecond := (14, 18, 41)
  minorFirst := (1, 8, 7)
  minorSecond := (19, 61, 6)

variable {n : Nat}

def major (a : Amounts) (x : BitVec n) : BitVec n :=
  x.rotateRight a.1 ^^^ x.rotateRight a.2.1 ^^^ x.rotateRight a.2.2

def minor (a : Amounts) (x : BitVec n) : BitVec n :=
  x.rotateRight a.1 ^^^ x.rotateRight a.2.1 ^^^ x >>> a.2.2

/-- The next schedule word from the sixteen before it. -/
def nextWord (v : Variant n) (w : List (BitVec n)) : BitVec n :=
  minor v.minorSecond (w.getD 14 0) + w.getD 9 0 + minor v.minorFirst (w.getD 1 0) + w.getD 0 0

/-- One word of the schedule per round, from a window of sixteen. -/
def schedule (v : Variant n) : (rounds : Nat) → (window : List (BitVec n)) → List (BitVec n)
  | 0, _ => []
  | rounds + 1, window =>
    window.headD 0 :: schedule v rounds (window.drop 1 ++ [nextWord v window])

def round (v : Variant n) (s : Vector (BitVec n) 8) (kw : BitVec n × BitVec n) :
    Vector (BitVec n) 8 :=
  let choice := (s[4] &&& s[5]) ^^^ (~~~s[4] &&& s[6])
  let majority := (s[0] &&& s[1]) ^^^ (s[0] &&& s[2]) ^^^ (s[1] &&& s[2])
  let first := s[7] + major v.majorSecond s[4] + choice + kw.1 + kw.2
  let second := major v.majorFirst s[0] + majority
  #v[first + second, s[0], s[1], s[2], s[3] + first, s[4], s[5], s[6]]

/-- The words of one block, each `width` bytes. -/
def words (width : Nat) : (count : Nat) → Bytes → List (BitVec n)
  | 0, _ => []
  | count + 1, b =>
    BitVec.ofNat n (Bytes.ofBigEndian (b.take width)) :: words width count (b.drop width)

def compress (v : Variant n) (s : Vector (BitVec n) 8) (block : Bytes) : Vector (BitVec n) 8 :=
  let w := schedule v v.constants.length (words (n / 8) 16 block)
  Vector.zipWith (· + ·) s ((v.constants.zip w).foldl (round v) s)

/-- A one bit, then zeros, then the length in bits in the space of two words, up to a whole
number of blocks. -/
def pad (width : Nat) (m : Bytes) : Bytes :=
  let block := 16 * width
  let used := m.length + 1 + 2 * width
  m ++ 0x80 :: List.replicate ((block - used % block) % block) 0 ++
    Bytes.bigEndian (2 * width) (8 * m.length)

def absorb (v : Variant n) : (blocks : Nat) → Vector (BitVec n) 8 → Bytes → Vector (BitVec n) 8
  | 0, s, _ => s
  | blocks + 1, s, b =>
    absorb v blocks (compress v s (b.take (2 * n))) (b.drop (2 * n))

def digest (v : Variant n) (m : Bytes) : Bytes :=
  let padded := pad (n / 8) m
  let s := absorb v (padded.length / (2 * n)) v.initial padded
  s.toList.flatMap fun (w : BitVec n) => Bytes.bigEndian (n / 8) w.toNat

theorem digest_length (v : Variant n) (m : Bytes) : (digest v m).length = 8 * (n / 8) := by
  simp [digest, List.length_flatMap, List.map_const']
  omega

end Sha2

def sha256 (m : Bytes) : Bytes32 :=
  ⟨Sha2.digest Sha2.variant256 m, Sha2.digest_length Sha2.variant256 m⟩

def sha512 (m : Bytes) : Bytes := Sha2.digest Sha2.variant512 m

end ChainRollback
