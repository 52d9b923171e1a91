import CsrMap.Proofs.Bus.History

/-!
How the bus model answers at each address of the address space.

An address between two slots is misaligned, one of a word leads to this word alone, and any other
is a fault. Reading and writing tell the three apart in the same way, in every state of the model.
-/

namespace CsrMap

open BusGeometry

/-- The positions of a bank in a map, of a register in it, and of a word of the register. -/
@[ext]
structure WordPlace where
  bank : ℕ
  register : ℕ
  word : ℕ
  deriving DecidableEq, Repr

/-- The slice at a place, with its bank and its register. -/
def AddressMap.word? (m : AddressMap) (place : WordPlace) :
    Option (PlacedBank × PlacedRegister × Slice) := do
  let bank ← m.banks[place.bank]?
  let r ← bank.registers[place.register]?
  let s ← r.words[place.word]?
  some (bank, r, s)

namespace BusModel

/-- An access at the address of a slice `s` of register `r` reads the part of its value that `s`
carries, and a write stores that part where software drives the register; it changes no other. -/
structure Reaches (m : BusModel) (bank : String) (r : PlacedRegister) (s : Slice) (v : UInt64) :
    Prop where
  value : m.value? bank r.name = some v
  read : m.read s.address = .ok (s.part v)
  write : ∀ word, ∃ next, m.write s.address word = .ok next ∧
    next.value? bank r.name = some (if r.access.writable then s.stored v word else v) ∧
    ∀ bank' register', (bank', register') ≠ (bank, r.name) →
      next.value? bank' register' = m.value? bank' register'

/-- The three kinds of an address, and how accesses answer at each. -/
structure Classifies (soc : Soc) (m : BusModel) (address : UInt64) : Prop where
  misaligned : ¬ soc.bus.slotSize.toNat ∣ address.toNat →
    m.read address = refuse .loadMisaligned ∧
      ∀ word, m.write address word = refuse .storeMisaligned
  reached : ∀ place b r s, soc.map.word? place = some (b, r, s) → s.address = address →
    soc.bus.slotSize.toNat ∣ address.toNat ∧
      (∀ place' b' r' s', soc.map.word? place' = some (b', r', s') → s'.address = address →
        place' = place) ∧
      ∃ v, m.Reaches b.name r s v
  missing : soc.bus.slotSize.toNat ∣ address.toNat →
    (∀ place b r s, soc.map.word? place = some (b, r, s) → s.address ≠ address) →
      m.read address = refuse .loadAccess ∧ ∀ word, m.write address word = refuse .storeAccess

end BusModel

namespace Soc

variable {soc : Soc} {b : Bank} {r : Register} {placed : PlacedBank} {p : PlacedRegister}
  {s : Slice} {place : WordPlace} {start i j k : ℕ} {address : UInt64} {v : Values}

/-! ### The words of the map -/

/-- A slice of the map is the tile of a register at its address. -/
lemma exists_wordAt_of_word? (h : soc.Finished)
    (hword : soc.map.word? place = some (placed, p, s)) :
    ∃ b r start,
      soc.bus.WordAt soc.banks s.address place.bank place.register place.word b r start ∧
        placed.name = b.name ∧ p.name = r.name ∧ p.access = r.access ∧
        s = soc.bus.tile r.width start place.word := by
  obtain ⟨bank, hbank, hword⟩ := Option.bind_eq_some_iff.1 hword
  obtain ⟨register, hregister, hword⟩ := Option.bind_eq_some_iff.1 hword
  obtain ⟨slice, hslice, heq⟩ := Option.bind_eq_some_iff.1 hword
  cases heq
  rw [h.map, layout, getElem?_banksFrom, Option.map_eq_some_iff] at hbank
  obtain ⟨b, hb, rfl⟩ := hbank
  rw [bankAt, getElem?_registersFrom, Option.map_eq_some_iff] at hregister
  obtain ⟨r, hr, rfl⟩ := hregister
  rw [registerAt, tiles, List.getElem?_map, Option.map_eq_some_iff] at hslice
  obtain ⟨k, hk, rfl⟩ := hslice
  obtain ⟨hlt, rfl⟩ := List.getElem?_eq_some_iff.1 hk
  rw [List.length_range] at hlt
  rw [List.getElem_range]
  have hosts : soc.bus.Hosts soc.banks place.bank place.register b r _ := ⟨hb, hr, rfl⟩
  exact ⟨b, r, _, hosts.wordAt h.fits hlt, rfl, rfl, rfl, rfl⟩

/-- Each word that an address can reach is a slice of the map. -/
lemma word?_of_wordAt (h : soc.Finished)
    (at' : soc.bus.WordAt soc.banks address i j k b r start) :
    ∃ placed p s, soc.map.word? ⟨i, j, k⟩ = some (placed, p, s) ∧ s.address = address := by
  have hbank : soc.map.banks[i]?
      = some (soc.bus.bankAt (soc.bus.base.toNat + soc.bus.total (soc.banks.take i)) b) := by
    rw [h.map, layout, getElem?_banksFrom, at'.bank, Option.map_some]
  have hregister : (soc.bus.bankAt (soc.bus.base.toNat + soc.bus.total (soc.banks.take i))
      b).registers[j]? = some (soc.bus.registerAt start r) := by
    rw [bankAt, getElem?_registersFrom, at'.register, Option.map_some, at'.start_eq]
  have hslice : (soc.bus.registerAt start r).words[k]? = some (soc.bus.tile r.width start k) := by
    rw [registerAt, tiles, List.getElem?_map, List.getElem?_range at'.lt, Option.map_some]
  have hword : soc.map.word? ⟨i, j, k⟩
      = some (soc.bus.bankAt (soc.bus.base.toNat + soc.bus.total (soc.banks.take i)) b,
        soc.bus.registerAt start r, soc.bus.tile r.width start k) := by
    simp only [AddressMap.word?, hbank, hregister, hslice, Option.bind_eq_bind, Option.bind_some]
  exact ⟨_, _, _, hword, at'.address_tile⟩

/-! ### Accesses -/

/-- An access at a word reaches the register of the word. -/
lemma reaches_of_wordAt (h : soc.Finished) (v : Values)
    (at' : soc.bus.WordAt soc.banks address i j k b r start) (hname : p.name = r.name)
    (haccess : p.access = r.access) :
    (soc.holding v).Reaches b.name p (soc.bus.tile r.width start k) (v (b.name, r.name)) := by
  have haddress := at'.address_tile
  refine ⟨?_, ?_, fun word => ?_⟩
  · rw [hname, value?_of_hosts h v at'.toHosts]
  · rw [haddress, read_of_wordAt h v at']
  · rw [haddress, hname, haccess]
    cases hr : r.access with
    | storage =>
      refine ⟨_, write_of_storage h v at' hr word, ?_, fun bank register hne => ?_⟩
      · rw [value?_of_hosts h _ at'.toHosts, Function.update_self]
        rfl
      · exact value?_holding_update h v hne _
    | status =>
      refine ⟨_, write_of_status h v at' hr word, ?_, fun _ _ _ => rfl⟩
      rw [value?_of_hosts h v at'.toHosts]
      rfl

lemma classifies_holding (h : soc.Finished) (v : Values) (address : UInt64) :
    (soc.holding v).Classifies soc address := by
  refine
    { misaligned := fun hmisaligned => ?misaligned
      reached := fun place placed p s hword haddress => ?reached
      missing := fun haligned hnone => ?missing }
  case misaligned =>
    have hlocate := locate_of_misaligned h v hmisaligned
    exact ⟨BusModel.read_of_locate_eq_refuse (hlocate _ _),
      BusModel.write_of_locate_eq_refuse (hlocate _ _)⟩
  case reached =>
    obtain rfl := haddress
    obtain ⟨b, r, start, at', hbank, hname, haccess, rfl⟩ := exists_wordAt_of_word? h hword
    refine ⟨at'.slotSize_dvd_address h.sound, fun place' placed' p' s' hword' haddress => ?_,
      _, hbank ▸ reaches_of_wordAt h v at' hname haccess⟩
    obtain ⟨b', r', start', other, -⟩ := exists_wordAt_of_word? h hword'
    rw [haddress] at other
    obtain ⟨hi, hj, hk⟩ := other.position_eq at' h.sound h.fits
    exact WordPlace.ext hi hj hk
  case missing =>
    have hnot (i j k : ℕ) (b : Bank) (r : Register) (start : ℕ) :
        ¬ soc.bus.WordAt soc.banks address i j k b r start := fun at' => by
      obtain ⟨placed, p, s, hword, haddress⟩ := word?_of_wordAt h at'
      exact hnone _ placed p s hword haddress
    have hlocate := locate_of_missing h v haligned hnot
    exact ⟨BusModel.read_of_locate_eq_refuse (hlocate _ _),
      BusModel.write_of_locate_eq_refuse (hlocate _ _)⟩

/-- **Every address is of one of three kinds**, for reads and for writes alike: after any row of
operations it is misaligned, or it is that of exactly one word, which an access reaches, or it is
a fault. -/
theorem classifies_run {d : Declarations} {bus : BusGeometry} (h : d.complete bus = .ok soc)
    (ops : List BusOp) (address : UInt64) :
    ((BusModel.ofSoc soc).run ops).Classifies soc address := by
  have hfinished := Declarations.finished_of_complete h
  obtain ⟨v, hrun, -⟩ := exists_follows hfinished ops
  rw [hrun]
  exact classifies_holding hfinished v address

/-- The address below the base of a page with one register, after a write to it. -/
theorem classifies_run_below_base : ∃ soc : Soc,
    ({ banks := [⟨"a", [⟨"r", 4, .storage, [], 5, none⟩]⟩] } : Declarations).complete
      { base := 0x1000, rounding := .paged 0x100 } = .ok soc ∧
    ((BusModel.ofSoc soc).run [.write 0x1000 9]).Classifies soc 0xfff := by
  have h : ({ banks := [⟨"a", [⟨"r", 4, .storage, [], 5, none⟩]⟩] } : Declarations).complete
      { base := 0x1000, rounding := .paged 0x100 }
      = .ok ⟨{ base := 0x1000, rounding := .paged 0x100 },
        [⟨"a", [⟨"r", 4, .storage, [], 5, none⟩]⟩],
        ⟨0x1000, 0x100, [⟨"a", 0x1000, 0x100, [⟨"r", .storage, 4, 0x1000, [⟨0x1000, 0, 4⟩]⟩]⟩]⟩,
        {}, [], []⟩ := by
    decide +kernel
  exact ⟨_, h, classifies_run h _ _⟩

end Soc

end CsrMap
