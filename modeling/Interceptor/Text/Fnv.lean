/-
# Interceptor.Text.Fnv — the 32-bit FNV-1a hash

Each byte is xored into the hash, which is then multiplied by an odd prime
modulo 2³². Both halves of a step are bijections of the 32-bit words, so a step
forgets nothing:

* `step_left_inj`: the same byte keeps different hashes apart;
* `step_right_inj`: different bytes take a hash apart;
* `update_inj`: so the same bytes keep different hashes apart, however many there are.
-/

namespace Interceptor.Text.Fnv

set_option autoImplicit false

def offsetBasis : UInt32 := 0x811c9dc5

def prime : UInt32 := 0x01000193

/-- Takes one byte into the hash. -/
def step (hash : UInt32) (byte : UInt8) : UInt32 :=
  (hash ^^^ byte.toUInt32) * prime

/-- Takes bytes into the hash, first byte first. -/
def update (hash : UInt32) (bytes : List UInt8) : UInt32 :=
  bytes.foldl step hash

/-- The hash of a byte sequence. -/
def hash (bytes : List UInt8) : UInt32 :=
  update offsetBasis bytes

@[simp] theorem update_nil (h : UInt32) : update h [] = h := rfl

@[simp] theorem update_cons (h : UInt32) (b : UInt8) (bs : List UInt8) :
    update h (b :: bs) = update (step h b) bs := rfl

theorem update_append (h : UInt32) (xs ys : List UInt8) :
    update h (xs ++ ys) = update (update h xs) ys := by
  simp [update]

/-- What undoes the multiplication modulo 2³²; the prime has it because it is odd. -/
def primeInverse : UInt32 := 0x359c449b

theorem prime_mul_primeInverse : prime * primeInverse = 1 := by decide

theorem mul_prime_inj {h k : UInt32} : h * prime = k * prime ↔ h = k := by
  constructor
  · intro same
    calc h = h * prime * primeInverse := by
          rw [UInt32.mul_assoc, prime_mul_primeInverse, UInt32.mul_one]
      _ = k * prime * primeInverse := by rw [same]
      _ = k := by rw [UInt32.mul_assoc, prime_mul_primeInverse, UInt32.mul_one]
  · rintro rfl
    rfl

/-- A byte keeps different hashes apart. -/
@[simp] theorem step_left_inj {h k : UInt32} {b : UInt8} : step h b = step k b ↔ h = k := by
  rw [step, step, mul_prime_inj]
  exact UInt32.xor_left_inj b.toUInt32

/-- Different bytes take a hash apart. -/
@[simp] theorem step_right_inj {h : UInt32} {b c : UInt8} : step h b = step h c ↔ b = c := by
  rw [step, step, mul_prime_inj]
  constructor
  · intro same
    have wide : b.toUInt32 = c.toUInt32 := (UInt32.xor_right_inj h).mp same
    apply UInt8.toNat_inj.mp
    simpa using congrArg UInt32.toNat wide
  · rintro rfl
    rfl

/-- Bytes keep different hashes apart. -/
@[simp] theorem update_inj {h k : UInt32} {bytes : List UInt8} :
    update h bytes = update k bytes ↔ h = k := by
  induction bytes generalizing h k with
  | nil => exact Iff.rfl
  | cons b bs ih => rw [update_cons, update_cons, ih, step_left_inj]

end Interceptor.Text.Fnv
