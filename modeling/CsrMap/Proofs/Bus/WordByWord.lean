import CsrMap.Proofs.Bus.History

/-!
Registers written and read word by word.

Each word that is written to a storage register stores one tile of it, so after all words, in
whatever order, the register holds the value, and no other register has changed.
-/

namespace CsrMap

open BusGeometry

/-- The state after writes to the bus, one after another. -/
def BusModel.writeAll (m : BusModel) : List (UInt64 × UInt64) → Outcome BusFault BusModel
  | [] => pure m
  | (address, word) :: writes => do
    let next ← m.write address word
    next.writeAll writes

namespace BusGeometry

variable {bus : BusGeometry} {r : Register} {start k : ℕ} {v : UInt64}

/-- A register of one word is no wider than the bus. -/
lemma width_le_dataWidth (hpos : 0 < bus.dataWidth.toNat) (h : bus.wordCount r.width = 1) :
    r.width.toNat ≤ bus.dataWidth.toNat := by
  by_contra hlt
  have hmore : 1 < bus.wordCount r.width :=
    (lt_wordCount_iff hpos).2 (by rw [Nat.one_mul]; exact Nat.not_le.1 hlt)
  omega

/-- A register of one word is its tile. -/
lemma tile_of_wordCount_eq_one (hpos : 0 < bus.dataWidth.toNat)
    (h : bus.wordCount r.width = 1) (start : ℕ) :
    bus.tile r.width start 0 = ⟨start.toUInt64, 0, r.width⟩ := by
  have hlane : bus.lane 1 0 = 0 := by
    unfold lane
    split <;> rfl
  have hle := width_le_dataWidth hpos h
  simp only [tile, h, hlane, Nat.zero_mul, Nat.add_zero, Nat.sub_zero]
  rw [Nat.min_eq_right (by omega)]
  simp

/-- A value of a register is gathered from the parts that its tiles carry. -/
lemma gather_value (hpos : 0 < bus.dataWidth.toNat) (hwidth : r.width.toNat ≤ 64)
    (hle : v ≤ r.mask) (start : ℕ) :
    (bus.tiles r.width start).foldlM (fun value s => (value ||| ·) <$> s.place (s.part v)) 0
      = some v := by
  have hgather := gather_part hpos hwidth start v
  have hvalue : v &&& lowBits r.width = v := and_lowBits_of_le hle
  rwa [gather, ← List.map_prod_left_eq_zip, List.foldlM_map, hvalue] at hgather

end BusGeometry

namespace Soc

variable {soc : Soc} {v : Values} {b : Bank} {r : Register} {start i j : ℕ}

/-- Writing words that carry the parts of a value to some tiles of a register stores these parts,
and leaves the other tiles as they were. -/
lemma write_tiles (h : soc.Finished) (hosts : soc.bus.Hosts soc.banks i j b r start)
    (hr : r.access = .storage) {value : UInt64} {word : ℕ → UInt64}
    (hword : ∀ k < soc.bus.wordCount r.width,
      word k &&& (soc.bus.tile r.width start k).mask = (soc.bus.tile r.width start k).part value)
    {order : List ℕ} (horder : ∀ k ∈ order, k < soc.bus.wordCount r.width)
    (hle : v (b.name, r.name) ≤ r.mask) :
    ∃ x, (soc.holding v).writeAll
        (order.map fun k => ((soc.bus.tile r.width start k).address, word k))
          = .ok (soc.holding (Function.update v (b.name, r.name) x)) ∧ x ≤ r.mask ∧
      ∀ k < soc.bus.wordCount r.width, (soc.bus.tile r.width start k).part x
        = (soc.bus.tile r.width start k).part
            (if k ∈ order then value else v (b.name, r.name)) := by
  have hwf := hosts.wellFormed h.fits
  induction order generalizing v with
  | nil =>
    refine ⟨v (b.name, r.name), ?_, hle, fun k _ => by simp⟩
    rw [Function.update_eq_self]
    rfl
  | cons k order ih =>
    have hk := horder k (by simp)
    have hin := inWord_of_wellFormed h.sound hwf hk start
    have hwrite := write_of_storage h v (hosts.wordAt h.fits hk) hr (word k)
    have hstored := Slice.stored_le (w := word k) hin (shift_add_bits_le h.sound hk) hle
    obtain ⟨x, hrun, hx, hparts⟩ := ih
      (v := Function.update v (b.name, r.name)
        ((soc.bus.tile r.width start k).stored (v (b.name, r.name)) (word k)))
      (fun k' hk' => horder k' (by simp [hk'])) (by rw [Function.update_self]; exact hstored)
    rw [Function.update_idem] at hrun
    refine ⟨x, ?_, hx, fun k' hk' => ?_⟩
    · rw [List.map_cons, BusModel.writeAll, hwrite]
      exact hrun
    · rw [hparts k' hk', Function.update_self]
      by_cases hmem : k' ∈ order
      · simp [hmem]
      · by_cases heq : k' = k
        · subst heq
          simp only [hmem, if_false, List.mem_cons, true_or, if_true]
          rw [Slice.part_stored_self hin, hword _ hk]
        · have hin' := inWord_of_wellFormed h.sound hwf hk' start
          simp only [hmem, heq, List.mem_cons, or_self, if_false]
          exact Slice.part_stored_of_apart hin hin' fun bit hc' hc =>
            heq (eq_of_carries h.sound.dataWidth_pos hk' hk hc' hc)

/-- Writing all words of a register stores the value, in whatever order they are written. -/
lemma write_value (h : soc.Finished) (hosts : soc.bus.Hosts soc.banks i j b r start)
    (hr : r.access = .storage) {value : UInt64} {word : ℕ → UInt64}
    (hword : ∀ k < soc.bus.wordCount r.width,
      word k &&& (soc.bus.tile r.width start k).mask = (soc.bus.tile r.width start k).part value)
    {order : List ℕ} (horder : ∀ k, k ∈ order ↔ k < soc.bus.wordCount r.width)
    (hle : v (b.name, r.name) ≤ r.mask) :
    (soc.holding v).writeAll
        (order.map fun k => ((soc.bus.tile r.width start k).address, word k))
      = .ok (soc.holding (Function.update v (b.name, r.name) (value &&& r.mask))) := by
  have hwf := hosts.wellFormed h.fits
  obtain ⟨x, hrun, hx, hparts⟩ := write_tiles h hosts hr hword (fun k => (horder k).1) hle
  have hall : ∀ s ∈ soc.bus.tiles r.width start, s.part x = s.part (value &&& r.mask) := by
    intro s hs
    obtain ⟨k, hk, rfl⟩ := mem_tiles.1 hs
    rw [hparts k hk, if_pos ((horder k).2 hk), part_and_register_mask h.sound hwf hk]
  have hx := eq_of_part_eq h.sound.dataWidth_pos hwf.width_le hx (and_lowBits_le value r.width) hall
  rw [hrun, hx]
  rfl

/-- The value of a register of one word is read at its address. -/
lemma read_of_wordCount_eq_one (h : soc.Finished)
    (hosts : soc.bus.Hosts soc.banks i j b r start) (hone : soc.bus.wordCount r.width = 1)
    (hle : v (b.name, r.name) ≤ r.mask) :
    (soc.holding v).read start.toUInt64 = .ok (v (b.name, r.name)) := by
  have htile := tile_of_wordCount_eq_one h.sound.dataWidth_pos hone start
  have hread := read_of_wordAt h v (hosts.wordAt h.fits (hone ▸ Nat.one_pos))
  have hpart : Slice.part ⟨start.toUInt64, 0, r.width⟩ (v (b.name, r.name))
      = v (b.name, r.name) := by
    rw [Slice.part, Slice.mask]
    simpa using and_lowBits_of_le hle
  rwa [htile, hpart] at hread

end Soc

end CsrMap
