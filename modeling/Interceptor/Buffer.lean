/-
# Interceptor.Buffer — relay buffers

The bytes of a tunnel are copied through buffers of 32 KiB that are used again.
A buffer that comes out of its pool has that many zero bytes, whatever was done
to it before: `reset_eq`.
-/
import Interceptor.Pool

namespace Interceptor

set_option autoImplicit false

/-- A byte buffer. -/
structure Buffer where
  bytes : List UInt8
  deriving DecidableEq, Repr

namespace Buffer

/-- The size of a relay buffer. -/
def standardSize : Nat := 32 * 1024

/-- A buffer of zero bytes. -/
def zeroed : Buffer := ⟨List.replicate standardSize 0⟩

/-- Keeps at most `n` bytes. -/
def truncate (n : Nat) (b : Buffer) : Buffer := ⟨b.bytes.take n⟩

/-- Adds `n` copies of a byte. -/
def extend (n : Nat) (byte : UInt8) (b : Buffer) : Buffer := ⟨b.bytes ++ List.replicate n byte⟩

/-- Brings the buffer to `n` bytes: what is over is cut off, what is missing is filled in. -/
def resize (n : Nat) (byte : UInt8) (b : Buffer) : Buffer :=
  (b.truncate n).extend (n - b.bytes.length) byte

/-- A buffer is emptied, and then brought back to its size. -/
instance : Reset Buffer := ⟨fun b => (b.truncate 0).resize standardSize 0⟩

theorem reset_eq (b : Buffer) : Reset.reset b = zeroed := by
  show (b.truncate 0).resize standardSize 0 = zeroed
  simp [resize, truncate, extend, zeroed]

/-- Overwrites every byte. -/
def fill (byte : UInt8) (b : Buffer) : Buffer := ⟨b.bytes.map fun _ => byte⟩

/-- The number of bytes that are not zero. -/
def nonzero (b : Buffer) : Nat := (b.bytes.filter (· ≠ 0)).length

end Buffer

/-- A pool of relay buffers. -/
abbrev BufferPool := Pool Buffer

theorem Buffer.get_zeroed (pool : BufferPool) : (pool.get .zeroed).1 = .zeroed := by
  obtain ⟨item, reset⟩ := pool.exists_reset_get .zeroed
  exact reset.trans (reset_eq item)

end Interceptor
