import RemoteCall.Bytes.LittleEndian

/-!
# Cutting bytes into pieces

A stream of bytes arrives in pieces of any size. `Bytes.pieces` cuts a byte string into pieces of
one size, of which the last may be shorter; put together again they are the byte string.
-/

namespace RemoteCall

/-- The consecutive pieces of `size + 1` bytes each, of which the last may be shorter. -/
def Bytes.pieces (size : Nat) (bytes : Bytes) : List Bytes :=
  match bytes with
  | [] => []
  | b :: rest => (b :: rest.take size) :: Bytes.pieces size (rest.drop size)
termination_by bytes.length
decreasing_by simp only [List.length_drop, List.length_cons]; omega

/-- Nothing is lost in cutting. -/
theorem Bytes.flatten_pieces (size : Nat) (bytes : Bytes) :
    (Bytes.pieces size bytes).flatten = bytes := by
  fun_induction Bytes.pieces size bytes with
  | case1 => rfl
  | case2 b rest ih => simp [ih]

end RemoteCall
