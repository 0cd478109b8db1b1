import RemoteCall.Bytes.LittleEndian

/-!
# The 32-bit FNV-1a hash

Each byte is mixed into the state by exclusive or, and the state is then multiplied by an odd
prime modulo `2 ^ 32`. Multiplication by an odd number is a bijection of the 32-bit words, so one
step loses nothing of the state.
-/

namespace RemoteCall

namespace Fnv

/-- The state before the first byte. -/
def offsetBasis : UInt32 := 0x811c9dc5

/-- The multiplier. -/
def prime : UInt32 := 0x01000193

/-- Mix one byte into the state. -/
def step (state : UInt32) (b : UInt8) : UInt32 := (state ^^^ b.toUInt32) * prime

/-- The hash of a byte string. -/
def hash (bytes : Bytes) : UInt32 := bytes.foldl step offsetBasis

@[simp] theorem hash_nil : hash [] = offsetBasis := rfl

/-- A hash is continued from its state alone. -/
theorem hash_append (front back : Bytes) :
    hash (front ++ back) = back.foldl step (hash front) :=
  List.foldl_append

end Fnv

end RemoteCall
