import CsrMap.Word

/-!
Memory regions: windows of the address space outside of the registers.
-/

namespace CsrMap

inductive Region.Kind where
  | cached
  | io
  deriving DecidableEq, Repr

def Region.Kind.label : Region.Kind → String
  | .cached => "cached"
  | .io => "io"

structure Region where
  name : String
  origin : UInt64
  size : UInt64
  kind : Region.Kind
  deriving DecidableEq, Repr

namespace Region

/-- The address lies in the region, in exact arithmetic. -/
def Covers (r : Region) (address : UInt64) : Prop :=
  r.origin.toNat ≤ address.toNat ∧ address.toNat < r.origin.toNat + r.size.toNat

instance (r : Region) (address : UInt64) : Decidable (r.Covers address) := by
  unfold Covers
  infer_instance

/-- One past the last address, or the largest address where the region reaches the top. -/
def endAddress (r : Region) : UInt64 := r.origin.addClamped r.size

/-- Compares clamped ends, so the largest address itself never counts. -/
def meets (r : Region) (origin size : UInt64) : Bool :=
  r.origin < origin.addClamped size && origin < r.endAddress

end Region

end CsrMap
