import CsrMap.Proofs.Bus.Gather
import CsrMap.Proofs.Bus.Holding
import CsrMap.Proofs.Placement.Lookup

/-!
What an address of the bus decodes to.

`WordAt` says that an address is that of a word of a register. An address is that of one word at
most; an access at such an address reaches the word, and any other access is a fault.
-/

namespace CsrMap

open BusGeometry

/-- The only entry that passes is found. -/
lemma find?_eq_some_of_unique {α : Type} {p : α → Bool} {xs : List α} {x : α} (hx : x ∈ xs)
    (hp : p x) (honly : ∀ y ∈ xs, p y → y = x) : xs.find? p = some x := by
  cases hfind : xs.find? p with
  | none => exact absurd hp (List.find?_eq_none.1 hfind x hx)
  | some y => rw [honly y (List.mem_of_find?_eq_some hfind) (List.find?_some hfind)]

/-- The first entry with an answer gives the answer of the search. -/
lemma findSome?_zipIdx {α β : Type} {f : α × ℕ → Option β} {xs : List α} {x : α} {y : β}
    {j k : ℕ} (hx : xs[j]? = some x) (hf : f (x, k + j) = some y)
    (hbefore : ∀ j' < j, ∀ x', xs[j']? = some x' → f (x', k + j') = none) :
    (xs.zipIdx k).findSome? f = some y := by
  induction xs generalizing j k with
  | nil => simp at hx
  | cons x' xs ih =>
    rw [List.zipIdx_cons, List.findSome?_cons]
    cases j with
    | zero =>
      obtain rfl : x' = x := by simpa using hx
      rw [Nat.add_zero] at hf
      rw [hf]
    | succ j =>
      have hfirst := hbefore 0 (Nat.succ_pos j) x' rfl
      rw [Nat.add_zero] at hfirst
      rw [hfirst]
      refine ih (by simpa using hx) (by rwa [Nat.add_right_comm, Nat.add_assoc])
        fun j' hj' x'' hx' => ?_
      have := hbefore (j' + 1) (by omega) x'' (by simpa using hx')
      rwa [Nat.add_right_comm, Nat.add_assoc]

namespace BusGeometry

variable {bus : BusGeometry} {banks : List Bank} {b c : Bank} {r s : Register}
  {start next i j k i' j' k' : ℕ} {address : UInt64}

/-- The address is that of word number `k` of the register at positions `i` and `j`. -/
structure WordAt (bus : BusGeometry) (banks : List Bank) (address : UInt64) (i j k : ℕ) (b : Bank)
    (r : Register) (start : ℕ) : Prop extends bus.Hosts banks i j b r start where
  lt : k < bus.wordCount r.width
  address_eq : address.toNat = start + k * bus.slotSize.toNat

namespace WordAt

lemma lt_end (h : bus.WordAt banks address i j k b r start) (hbus : bus.Sound) :
    address.toNat < start + bus.span r := by
  have hle := Nat.mul_le_mul_right bus.slotSize.toNat (Nat.succ_le_of_lt h.lt)
  have hpos := hbus.slotSize_pos
  have ha := h.address_eq
  rw [Nat.succ_mul] at hle
  rw [span]
  omega

lemma address_tile (h : bus.WordAt banks address i j k b r start) :
    (bus.tile r.width start k).address = address := by
  have hlt := address.toNat_lt
  rw [← UInt64.toNat_inj, toNat_address_tile (by rw [← h.address_eq]; exact hlt), h.address_eq]

/-- A word lies at a whole slot. -/
lemma slotSize_dvd_address (h : bus.WordAt banks address i j k b r start) (hbus : bus.Sound) :
    bus.slotSize.toNat ∣ address.toNat := by
  rw [h.address_eq]
  exact Nat.dvd_add (h.toHosts.slotSize_dvd hbus) (Nat.dvd_mul_left _ _)

/-- An address is that of one word. -/
lemma position_eq (h : bus.WordAt banks address i j k b r start)
    (h' : bus.WordAt banks address i' j' k' c s next) (hbus : bus.Sound) (hfit : bus.Fits banks) :
    i = i' ∧ j = j' ∧ k = k' := by
  have ha := h.address_eq
  have ha' := h'.address_eq
  obtain ⟨rfl, rfl⟩ := h.toHosts.position_eq h'.toHosts hfit (a := address.toNat)
    ⟨by omega, h.lt_end hbus⟩ ⟨by omega, h'.lt_end hbus⟩
  have hstart := (h.toHosts.unique h'.toHosts).2.2
  refine ⟨rfl, rfl, Nat.eq_of_mul_eq_mul_right hbus.slotSize_pos ?_⟩
  omega

end WordAt

/-- Each tile of a register lies at an address of its own. -/
lemma Hosts.wordAt (h : bus.Hosts banks i j b r start) (hfit : bus.Fits banks)
    (hk : k < bus.wordCount r.width) :
    bus.WordAt banks (bus.tile r.width start k).address i j k b r start := by
  refine ⟨h, hk, toNat_address_tile ?_⟩
  have hend := h.end_lt hfit
  have hle := Nat.mul_le_mul_right bus.slotSize.toNat hk.le
  rw [span] at hend
  omega

lemma find?_tiles (h : bus.WordAt banks address i j k b r start) (hbus : bus.Sound)
    (hfit : bus.Fits banks) :
    (bus.tiles r.width start).find? (·.address == address) = some (bus.tile r.width start k) := by
  refine find?_eq_some_of_unique (mem_tiles.2 ⟨k, h.lt, rfl⟩) (beq_iff_eq.2 h.address_tile)
    fun t ht heq => ?_
  obtain ⟨k', hk', rfl⟩ := mem_tiles.1 ht
  have h' := h.toHosts.wordAt hfit hk'
  rw [beq_iff_eq.1 heq] at h'
  rw [(h.position_eq h' hbus hfit).2.2]

lemma find?_tiles_eq_none (hosts : bus.Hosts banks i j b r start) (hfit : bus.Fits banks)
    (hnot : ∀ k, ¬ bus.WordAt banks address i j k b r start) :
    (bus.tiles r.width start).find? (·.address == address) = none := by
  rw [List.find?_eq_none]
  intro t ht heq
  obtain ⟨k, hk, rfl⟩ := mem_tiles.1 ht
  have h := hosts.wordAt hfit hk
  rw [beq_iff_eq.1 heq] at h
  exact hnot k h

/-- The bank that covers an address holds it. -/
lemma exists_layout_bank (hfit : bus.Fits banks) (hb : banks[i]? = some b) :
    ∃ placed, (bus.layout banks).banks[i]? = some placed ∧ bus.StandsAt banks i placed b := by
  have hplaced := getElem?_banksFrom bus bus.base.toNat banks i
  rw [hb, Option.map_some] at hplaced
  obtain ⟨c, hc⟩ := hfit.standsAt hplaced
  obtain rfl : c = b := Option.some.inj (hc.bank.symm.trans hb)
  exact ⟨_, hplaced, hc⟩

lemma WordAt.holderIndex_eq (h : bus.WordAt banks address i j k b r start) (hbus : bus.Sound)
    (hfit : bus.Fits banks) : (bus.layout banks).holderIndex address = some (some i) := by
  obtain ⟨placed, hplaced, stands⟩ := exists_layout_bank hfit h.bank
  refine holderIndex_of_covers hfit stands hplaced ⟨?_, ?_⟩
  · have hbase := stands.base
    have hstart := h.start_eq
    have ha := h.address_eq
    omega
  · have hbehind := stands.behind
    have hend := h.toHosts.end_le hfit
    have hlt := h.lt_end hbus
    omega

end BusGeometry

namespace Soc

variable {soc : Soc} {b : Bank} {r : Register} {start i j k : ℕ} {address : UInt64}

lemma target_of_wordAt (h : soc.Finished) (v : Values)
    (word : soc.bus.WordAt soc.banks address i j k b r start) :
    (soc.holding v).target address = some (some ⟨i, j, soc.bus.live r start (v (b.name, r.name)),
      soc.bus.tile r.width start k⟩) := by
  obtain ⟨registers, hi, hlive⟩ := getElem?_banks_holding h v word.bank
  have hholder : (soc.holding v).map.holderIndex address = some (some i) := by
    rw [holding, h.map]
    exact word.holderIndex_eq h.sound h.fits
  have hj : registers[j]? = some (soc.bus.live r start (v (b.name, r.name))) := by
    rw [hlive, word.register, Option.map_some, word.start_eq]
  have htarget : BusModel.targetIn address i registers
      = some ⟨i, j, soc.bus.live r start (v (b.name, r.name)), soc.bus.tile r.width start k⟩ := by
    refine findSome?_zipIdx hj ?_ fun j' hj' live' hlive' => ?_
    · rw [Nat.zero_add]
      simp only [live, find?_tiles word h.sound h.fits, Option.map_some]
    · -- A register before this one has no word at the address.
      rw [hlive, Option.map_eq_some_iff] at hlive'
      obtain ⟨r', hr', rfl⟩ := hlive'
      have hnone := find?_tiles_eq_none ⟨word.bank, hr', rfl⟩ h.fits
        fun k' (word' : soc.bus.WordAt soc.banks address _ _ _ _ _ _) => by
          have := (word.position_eq word' h.sound h.fits).2.1
          omega
      simp only [live, hnone, Option.map_none]
  rw [BusModel.target, hholder]
  simp only [Option.bind_eq_bind, Option.bind_some, hi, Option.getD_some, htarget]
  rfl

lemma target_of_not_wordAt (h : soc.Finished) (v : Values)
    (hnot : ∀ i j k b r start, ¬ soc.bus.WordAt soc.banks address i j k b r start) :
    (soc.holding v).target address = some none := by
  have hmap : (soc.holding v).map = soc.bus.layout soc.banks := h.map
  by_cases hcovers : ∃ placed ∈ (soc.bus.layout soc.banks).banks, placed.Covers address
  · obtain ⟨placed, hmem, hc⟩ := hcovers
    obtain ⟨i, hplaced⟩ := List.mem_iff_getElem?.1 hmem
    obtain ⟨b, stands⟩ := h.fits.standsAt hplaced
    obtain ⟨registers, hi, hlive⟩ := getElem?_banks_holding h v stands.bank
    have htarget : BusModel.targetIn address i registers = none := by
      rw [BusModel.targetIn, List.findSome?_eq_none_iff]
      rintro ⟨live', j⟩ hj
      have hj : registers[j]? = some live' := List.mem_zipIdx_iff_getElem?.1 hj
      rw [hlive, Option.map_eq_some_iff] at hj
      obtain ⟨r, hr, rfl⟩ := hj
      have hnone := find?_tiles_eq_none ⟨stands.bank, hr, rfl⟩ h.fits
        fun k => hnot _ _ k _ _ _
      simp only [live, hnone, Option.map_none]
    rw [BusModel.target, hmap, holderIndex_of_covers h.fits stands hplaced hc]
    simp only [Option.bind_eq_bind, Option.bind_some, hi, Option.getD_some, htarget]
    rfl
  · have hnone := holderIndex_of_not_covers h.fits fun placed hmem hc => hcovers ⟨placed, hmem, hc⟩
    rw [BusModel.target, hmap, hnone]
    rfl

lemma isMisaligned_holding (h : soc.Finished) (v : Values) (address : UInt64) :
    (soc.holding v).isMisaligned address
      = some (decide ((address - soc.bus.base) % soc.bus.slotSize ≠ 0)) := by
  have hne : soc.bus.slotSize ≠ 0 := fun h0 => by
    have := h.sound.slotSize_pos
    rw [h0] at this
    exact absurd this (by decide)
  simp only [BusModel.isMisaligned, holding, h.map, layout, UInt64.mod?_eq_some hne,
    Option.bind_eq_bind, Option.bind_some]
  rfl

/-- Counted from the base and around the top, an address lies between two slots where it is no
multiple of their size. -/
lemma sub_base_mod_eq_zero_iff (h : soc.Finished) (address : UInt64) :
    (address - soc.bus.base) % soc.bus.slotSize = 0 ↔
      soc.bus.slotSize.toNat ∣ address.toNat := by
  have htop := h.sound.slotSize_dvd_top
  have hbase : soc.bus.slotSize.toNat ∣ 2 ^ 64 - soc.bus.base.toNat :=
    Nat.dvd_sub htop h.sound.base
  rw [← UInt64.toNat_inj, UInt64.toNat_mod, UInt64.toNat_sub, UInt64.toNat_zero,
    Nat.mod_mod_of_dvd _ htop, ← Nat.dvd_iff_mod_eq_zero]
  exact Nat.dvd_add_right hbase

/-- An access between two slots is misaligned. -/
theorem locate_of_misaligned (h : soc.Finished) (v : Values)
    (hmisaligned : ¬ soc.bus.slotSize.toNat ∣ address.toNat) (misaligned missing : BusFault) :
    (soc.holding v).locate address misaligned missing = refuse misaligned := by
  have hrest := mt (sub_base_mod_eq_zero_iff h address).1 hmisaligned
  simp only [BusModel.locate, isMisaligned_holding h v address, hrest, ne_eq, not_false_eq_true,
    decide_true, liftM, monadLift_some, Outcome.ok_bind, if_true, refuse_bind]

/-- An access at the address of a word reaches it. -/
theorem locate_of_wordAt (h : soc.Finished) (v : Values)
    (word : soc.bus.WordAt soc.banks address i j k b r start) (misaligned missing : BusFault) :
    (soc.holding v).locate address misaligned missing
      = .ok ⟨i, j, soc.bus.live r start (v (b.name, r.name)), soc.bus.tile r.width start k⟩ := by
  have haligned := (sub_base_mod_eq_zero_iff h address).2 (word.slotSize_dvd_address h.sound)
  simp only [BusModel.locate, isMisaligned_holding h v address, haligned, target_of_wordAt h v word,
    ne_eq, not_true_eq_false, decide_false, liftM, monadLift_some, Outcome.ok_bind,
    Bool.false_eq_true, if_false]
  rfl

/-- An access at a whole slot without a word misses. -/
theorem locate_of_missing (h : soc.Finished) (v : Values)
    (haligned : soc.bus.slotSize.toNat ∣ address.toNat)
    (hnot : ∀ i j k b r start, ¬ soc.bus.WordAt soc.banks address i j k b r start)
    (misaligned missing : BusFault) :
    (soc.holding v).locate address misaligned missing = refuse missing := by
  have hrest := (sub_base_mod_eq_zero_iff h address).2 haligned
  simp only [BusModel.locate, isMisaligned_holding h v address, hrest,
    target_of_not_wordAt h v hnot, ne_eq, not_true_eq_false, decide_false, liftM, monadLift_some,
    Outcome.ok_bind, Bool.false_eq_true, if_false]

/-- An access at any other address than those of words is a fault. -/
theorem locate_of_not_wordAt (h : soc.Finished) (v : Values)
    (hnot : ∀ i j k b r start, ¬ soc.bus.WordAt soc.banks address i j k b r start)
    (misaligned missing : BusFault) : ∃ fault,
      (soc.holding v).locate address misaligned missing = refuse fault := by
  by_cases haligned : soc.bus.slotSize.toNat ∣ address.toNat
  · exact ⟨missing, locate_of_missing h v haligned hnot misaligned missing⟩
  · exact ⟨misaligned, locate_of_misaligned h v haligned misaligned missing⟩

end Soc

end CsrMap
