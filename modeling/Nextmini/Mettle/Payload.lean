import Mathlib.Algebra.Group.Defs
import Mathlib.Algebra.Ring.Parity
import Mathlib.Data.Vector.Basic

/-!
# Symbol payloads

Payloads of a fixed number of bytes. XOR makes them a commutative group in which each payload is its
own inverse, so a bin's payload is a sum over the edges that hit it.
-/

namespace Nextmini.Mettle

set_option autoImplicit false

structure Payload (size : Nat) where
  bytes : Vector UInt8 size
  deriving DecidableEq, Repr

variable {size : Nat}

def xorPayload (dst src : Payload size) : Payload size :=
  ⟨Vector.zipWith (· ^^^ ·) dst.bytes src.bytes⟩

namespace Payload

theorem ext_bytes {left right : Payload size}
    (same : ∀ (index : Nat) (below : index < size), left.bytes[index] = right.bytes[index]) :
    left = right := by
  cases left
  cases right
  congr
  exact Vector.ext same

def zero : Payload size := ⟨Vector.replicate size 0⟩

instance : Zero (Payload size) := ⟨zero⟩
instance : Add (Payload size) := ⟨xorPayload⟩
instance : Neg (Payload size) := ⟨id⟩

theorem zero_bytes {index : Nat} (below : index < size) :
    (0 : Payload size).bytes[index] = 0 := Vector.getElem_replicate below

theorem add_bytes (left right : Payload size) {index : Nat} (below : index < size) :
    (left + right).bytes[index] = left.bytes[index] ^^^ right.bytes[index] :=
  Vector.getElem_zipWith below

theorem add_self (payload : Payload size) : payload + payload = 0 := by
  apply ext_bytes
  intro index below
  rw [add_bytes, zero_bytes, UInt8.xor_self]

instance : AddCommGroup (Payload size) where
  add_assoc left middle right := by
    apply ext_bytes
    intro index below
    simp only [add_bytes, UInt8.xor_assoc]
  zero_add payload := by
    apply ext_bytes
    intro index below
    rw [add_bytes, zero_bytes, UInt8.zero_xor]
  add_zero payload := by
    apply ext_bytes
    intro index below
    rw [add_bytes, zero_bytes, UInt8.xor_zero]
  add_comm left right := by
    apply ext_bytes
    intro index below
    rw [add_bytes, add_bytes, UInt8.xor_comm]
  nsmul := nsmulRec
  zsmul := zsmulRec
  neg_add_cancel payload := add_self payload

theorem xor_eq_add (dst src : Payload size) : xorPayload dst src = dst + src := rfl

theorem add_add_cancel (left right : Payload size) : left + (left + right) = right := by
  rw [← add_assoc, add_self, zero_add]

def ofBytes (bytes : List UInt8) : Option (Payload size) :=
  if exact : bytes.length = size then some ⟨⟨bytes.toArray, by simpa using exact⟩⟩ else none

def toBytes (payload : Payload size) : List UInt8 := payload.bytes.toList

theorem of_to_bytes (payload : Payload size) : ofBytes payload.toBytes = some payload := by
  have exact : payload.toBytes.length = size := by simp [toBytes]
  rw [ofBytes, dif_pos exact]
  congr

def padded (bytes : List UInt8) : Payload size :=
  ⟨Vector.ofFn fun index => bytes.getD index 0⟩

end Payload

end Nextmini.Mettle
