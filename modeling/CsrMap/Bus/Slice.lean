import CsrMap.Bus.Geometry

/-!
The parts of a register that the words of the bus carry.

A slice is the part at one address. `scatter` splits a value into the words of its slices and
`gather` puts words together again: the value is the union of `(word & mask) << shift` over the
slices.
-/

namespace CsrMap

structure Slice where
  address : UInt64
  /-- The lowest bit of the register that the word carries. -/
  shift : UInt32
  /-- How many bits of the register the word carries. -/
  bits : UInt32
  deriving DecidableEq, Repr

namespace Slice

def mask (s : Slice) : UInt64 := lowBits s.bits

/-- The part of `value` that the slice carries. -/
def extract (s : Slice) (value : UInt64) : Checked UInt64 := do
  let moved ← value.shiftRight? s.shift
  pure (moved &&& s.mask)

/-- The bits of the register that `word` stands for. -/
def place (s : Slice) (word : UInt64) : Checked UInt64 :=
  (word &&& s.mask).shiftLeft? s.shift

/-- Word number `index` of a register of `width` bits at `address` that takes `count` words. -/
def nth (bus : BusGeometry) (width : UInt32) (address : UInt64) (count index : UInt32) :
    Checked Slice := do
  let lane ← match bus.laneOrder with
    | .highFirst => count.sub? 1 >>= (·.sub? index)
    | .lowFirst => pure index
  let shift ← lane.mul? bus.dataWidth
  let distance ← index.toUInt64.mul? bus.slotSize
  let wordAddress ← address.add? distance
  let rest ← width.sub? shift
  pure ⟨wordAddress, shift, if bus.dataWidth ≤ rest then bus.dataWidth else rest⟩

end Slice

/-- The words of a register of `width` bits at `address`, by ascending address. -/
def BusGeometry.slices (bus : BusGeometry) (width : UInt32) (address : UInt64) :
    Checked (List Slice) := do
  let count ← bus.countWords width
  (List.range count.toNat).mapM fun index => Slice.nth bus width address count index.toUInt32

/-- The words that carry `value`. -/
def scatter (slices : List Slice) (value : UInt64) : Checked (List UInt64) :=
  slices.mapM (·.extract value)

/-- The value that `words` carry; slices without a word and words without a slice do not count. -/
def gather (slices : List Slice) (words : List UInt64) : Checked UInt64 :=
  (slices.zip words).foldlM (fun value (s, word) => (value ||| ·) <$> s.place word) 0

end CsrMap
