import Mathlib.Data.Nat.Prime.Basic
import Mathlib.Tactic.IntervalCases
import Mathlib.Tactic.NormNum.Prime
import Mathlib.Order.Nat
import TradeBot.Library.BigEndian

/-!
# SHA-256 and HMAC

The hash function of the standard, on byte strings shorter than `2 ^ 61`, and the keyed hash over
any hash function. The constants are the fractions of roots that the standard takes them from.
-/

namespace TradeBot.Library

/-- The greatest number whose power is at most another one. -/
def integerRoot (k n : ℕ) : ℕ := Nat.findGreatest (fun r => r ^ k ≤ n) n

/-- The integer root is determined by its two neighbours. -/
theorem integerRoot_eq {k n r : ℕ} (hk : k ≠ 0) (hle : r ^ k ≤ n) (hlt : n < (r + 1) ^ k) :
    integerRoot k n = r := by
  unfold integerRoot
  rw [Nat.findGreatest_eq_iff]
  refine ⟨(Nat.le_self_pow hk r).trans hle, fun _ => hle, fun m hm _ hpow => ?_⟩
  exact absurd (Nat.pow_le_pow_left (Nat.succ_le_of_lt hm) k) (not_le.mpr (hpow.trans_lt hlt))

namespace Sha256

/-- A word of the hash. -/
abbrev Word := BitVec 32

/-- The first 32 bits of the fraction of a root. -/
def rootFraction (k p : ℕ) : Word := BitVec.ofNat 32 (integerRoot k (p * 2 ^ (32 * k)))

/-- The first 64 primes. -/
def primes : List ℕ :=
  (List.range 312).filter (Nat.Prime ·)

/-- Below the square of 19, trial division by the smaller primes decides primality. -/
theorem prime_iff_of_lt {n : ℕ} (hlt : n < 361) : n.Prime ↔
    2 ≤ n ∧ ∀ p ∈ [2, 3, 5, 7, 11, 13, 17], p < n → n % p ≠ 0 := by
  constructor
  · intro hprime
    refine ⟨hprime.two_le, fun p hp hpn hdvd => ?_⟩
    have hp1 : p ≠ 1 := by
      rintro rfl
      exact absurd hp (by decide)
    rcases (Nat.dvd_prime hprime).mp (Nat.dvd_of_mod_eq_zero hdvd) with h | h <;> omega
  · rintro ⟨htwo, htrial⟩
    by_contra hcomposite
    have hfactor : n.minFac.Prime := Nat.minFac_prime (by omega)
    have hsquare : n.minFac ^ 2 ≤ n := Nat.minFac_sq_le_self (by omega) hcomposite
    have hsmall : n.minFac < 19 := by
      by_contra hge
      have hpow := Nat.pow_le_pow_left (not_lt.mp hge) 2
      omega
    have hmem : n.minFac ∈ [2, 3, 5, 7, 11, 13, 17] := by
      generalize n.minFac = p at hfactor hsmall
      interval_cases p <;> first | decide | exact absurd hfactor (by norm_num)
    refine htrial n.minFac hmem ?_ (Nat.mod_eq_zero_of_dvd n.minFac_dvd)
    exact lt_of_le_of_ne (Nat.minFac_le (by omega)) fun h => hcomposite (h ▸ hfactor)

/-- The first 64 primes. -/
theorem primes_eq : primes =
    [2, 3, 5, 7, 11, 13, 17, 19, 23, 29, 31, 37, 41, 43, 47, 53, 59, 61, 67, 71, 73, 79, 83, 89, 97,
      101, 103, 107, 109, 113, 127, 131, 137, 139, 149, 151, 157, 163, 167, 173, 179, 181, 191, 193,
      197, 199, 211, 223, 227, 229, 233, 239, 241, 251, 257, 263, 269, 271, 277, 281, 283, 293, 307,
      311] := by
  have hfilter : primes = (List.range 312).filter fun n =>
      decide (2 ≤ n ∧ ∀ p ∈ [2, 3, 5, 7, 11, 13, 17], p < n → n % p ≠ 0) := by
    refine List.filter_congr fun n hn => ?_
    rw [decide_eq_decide]
    exact prime_iff_of_lt ((List.mem_range.mp hn).trans (by decide))
  rw [hfilter]
  decide +kernel

/-- The constant of a round: from the cube root of its prime. -/
def roundConstant (t : ℕ) : Word := rootFraction 3 (primes.getD t 0)

/-- The eight working variables. -/
structure Working where
  a : Word
  b : Word
  c : Word
  d : Word
  e : Word
  f : Word
  g : Word
  h : Word

/-- The word of the initial hash value: from the square root of its prime. -/
def initialWord (i : ℕ) : Word := rootFraction 2 (primes.getD i 0)

/-- The initial hash value. -/
def initial : Working where
  a := initialWord 0
  b := initialWord 1
  c := initialWord 2
  d := initialWord 3
  e := initialWord 4
  f := initialWord 5
  g := initialWord 6
  h := initialWord 7

/-- The functions of the rounds. -/
def ch (x y z : Word) : Word := (x &&& y) ^^^ (~~~x &&& z)

def maj (x y z : Word) : Word := (x &&& y) ^^^ (x &&& z) ^^^ (y &&& z)

def bigSigma0 (x : Word) : Word := x.rotateRight 2 ^^^ x.rotateRight 13 ^^^ x.rotateRight 22

def bigSigma1 (x : Word) : Word := x.rotateRight 6 ^^^ x.rotateRight 11 ^^^ x.rotateRight 25

def smallSigma0 (x : Word) : Word := x.rotateRight 7 ^^^ x.rotateRight 18 ^^^ (x >>> 3)

def smallSigma1 (x : Word) : Word := x.rotateRight 17 ^^^ x.rotateRight 19 ^^^ (x >>> 10)

/-- The message schedule of a block of sixteen words. -/
def schedule (block : ℕ → Word) (t : ℕ) : Word :=
  if t < 16 then block t
  else smallSigma1 (schedule block (t - 2)) + schedule block (t - 7) +
    smallSigma0 (schedule block (t - 15)) + schedule block (t - 16)
termination_by t

/-- The first 16 words of the schedule are those of the block. -/
theorem schedule_of_lt (block : ℕ → Word) {t : ℕ} (h : t < 16) : schedule block t = block t := by
  rw [schedule, if_pos h]

/-- Every later one is mixed from four before it. -/
theorem schedule_of_le (block : ℕ → Word) {t : ℕ} (h : 16 ≤ t) :
    schedule block t = smallSigma1 (schedule block (t - 2)) + schedule block (t - 7) +
      smallSigma0 (schedule block (t - 15)) + schedule block (t - 16) := by
  rw [schedule, if_neg (not_lt.mpr h)]

/-- One round. -/
def round (w : ℕ → Word) (s : Working) (t : ℕ) : Working :=
  let t1 := s.h + bigSigma1 s.e + ch s.e s.f s.g + roundConstant t + w t
  let t2 := bigSigma0 s.a + maj s.a s.b s.c
  { a := t1 + t2, b := s.a, c := s.b, d := s.c, e := s.d + t1, f := s.e, g := s.f, h := s.g }

/-- The sum of hash values, word by word. -/
def add (s t : Working) : Working where
  a := s.a + t.a
  b := s.b + t.b
  c := s.c + t.c
  d := s.d + t.d
  e := s.e + t.e
  f := s.f + t.f
  g := s.g + t.g
  h := s.h + t.h

/-- Working variables are added word by word, in either order. -/
theorem add_comm (s t : Working) : add s t = add t s := by
  simp only [add, BitVec.add_comm]

/-- The hash value after one more block. -/
def compress (s : Working) (block : ℕ → Word) : Working :=
  add ((List.range 64).foldl (round (schedule block)) s) s

/-- The zero bytes of the padding. -/
def zeroBytes (length : ℕ) : ℕ := (119 - length % 64) % 64

/-- The padding ends eight bytes before the end of a block. -/
theorem zeroBytes_spec (length : ℕ) : (length + 1 + zeroBytes length) % 64 = 56 ∧
    zeroBytes length < 64 := by
  unfold zeroBytes
  omega

/-- A message with its padding: a one bit, zero bits, and the length in bits. -/
def pad (message : List UInt8) : List UInt8 :=
  message ++ [0x80] ++ List.replicate (zeroBytes message.length) 0 ++
    bigEndian 8 (8 * message.length)

/-- A padded message is a number of blocks. -/
theorem length_pad_mod (message : List UInt8) : (pad message).length % 64 = 0 := by
  obtain ⟨hspec, -⟩ := zeroBytes_spec message.length
  unfold pad
  simp only [List.length_append, List.length_replicate, length_bigEndian, List.length_singleton]
  omega

/-- The words of a block of a padded message. -/
def blockWord (padded : List UInt8) (block t : ℕ) : Word :=
  BitVec.ofNat 32 (ofBigEndian ((padded.drop (64 * block + 4 * t)).take 4))

/-- The bytes of a hash value. -/
def digest (s : Working) : List UInt8 :=
  [s.a, s.b, s.c, s.d, s.e, s.f, s.g, s.h].flatMap fun w => bigEndian 4 w.toNat

/-- The hash of a message. -/
def hash (message : List UInt8) : List UInt8 :=
  let padded := pad message
  digest ((List.range (padded.length / 64)).foldl
    (fun s block => compress s (blockWord padded block)) initial)

end Sha256

/-- The keyed hash of a text over a hash function with a block size. A key that is longer than a
block is hashed. -/
def hmac (hash : List UInt8 → List UInt8) (blockSize : ℕ) (key text : List UInt8) : List UInt8 :=
  let short := if blockSize < key.length then hash key else key
  let block := short ++ List.replicate (blockSize - short.length) 0
  hash ((block.map fun b => b ^^^ 0x5c) ++ hash ((block.map fun b => b ^^^ 0x36) ++ text))

/-- Bytes in lowercase hexadecimal, two digits each. -/
def lowerHex (bytes : List UInt8) : List UInt8 :=
  bytes.flatMap fun b => [b.toNat / 16, b.toNat % 16].map fun digit =>
    UInt8.ofNat (if digit < 10 then 0x30 + digit else 0x61 + (digit - 10))

end TradeBot.Library
