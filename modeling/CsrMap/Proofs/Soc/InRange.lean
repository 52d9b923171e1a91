import CsrMap.Program
import CsrMap.Proofs.Bus.History
import CsrMap.Proofs.Declaration.Interrupts
import CsrMap.Proofs.Header.Entries
import CsrMap.Proofs.Soc.Completion

/-!
Nothing fails after a completion.

The arithmetic on a finished system rests on bounds that were checked before: the banks end below
the top of the address space, the slices of a register lie in a word, and the bits of interrupts in
the vector. So it stays in range for all arguments and in every state, what is found by a position
is there, and every export has a text.
-/

namespace CsrMap

open BusGeometry

/-- The word whose lowest `count` bits are set, by steps that say when they leave their range. -/
def lowBits? (count : UInt32) : Checked UInt64 :=
  if count < 64 then do
    let top ← (1 : UInt64).shiftLeft? count
    if 1 ≤ top then some (top - 1) else none
  else
    some (0 - 1)

/-- Work with the places of a map stays in range: the ends of the map and of its banks, the search
for a bank by address, and the words of the registers. -/
structure AddressMap.StaysInRange (m : AddressMap) : Prop where
  endAddress : ∃ past, m.endAddress = some past
  bankEnd : ∀ placed ∈ m.banks, ∃ past, placed.endAddress = some past
  /-- The bank in front of the place where bisection ends is there. -/
  candidate : ∀ address i, bisect m.banks (·.base ≤ address) = i + 1 → i < m.banks.length
  holder : ∀ address, ∃ found, m.holder address = some found
  scatter : ∀ placed ∈ m.banks, ∀ p ∈ placed.registers, ∀ value,
    ∃ words, p.scatter value = some words
  gather : ∀ placed ∈ m.banks, ∀ p ∈ placed.registers, ∀ words,
    ∃ value, p.gather words = some value

/-- Each use of the bus model stays in range, and the registers of a bank are at the position of
the bank in the map. Values are looked up through `bankIndex?` alone, and a restart is without
arithmetic. -/
structure BusModel.StaysInRange (m : BusModel) : Prop where
  map : m.map.StaysInRange
  read : ∀ address, m.read address ≠ .error .overflow
  write : ∀ address word, m.write address word ≠ .error .overflow
  drive : ∀ bank register value, m.drive bank register value ≠ .error .overflow
  holderIndex : ∀ address, ∃ found, m.map.holderIndex address = some found ∧
    ∀ i ∈ found, i < m.banks.length
  bankIndex : ∀ bank, ∀ i ∈ m.bankIndex? bank, i < m.banks.length

/-- Work with a finished system stays in range, and each of its exports has a text. -/
structure Soc.StaysInRange (soc : Soc) : Prop where
  map : soc.map.StaysInRange
  mask : ∀ count, lowBits? count = some (lowBits count)
  raised : ∀ vector, ∃ interrupts, soc.interrupts.raised vector = some interrupts
  header : ∀ options, ∃ text, soc.header options = .ok text
  defines : ∃ text, soc.interrupts.defines = .ok text
  exports : ∀ accessors, ∃ header, Program.exports soc accessors
    = .ok [("csr.h", header), ("csr.json", soc.json), ("csr.csv", soc.csv)]
  report : ∃ text, soc.report = some text

lemma lowBits?_eq_some (count : UInt32) : lowBits? count = some (lowBits count) := by
  unfold lowBits? lowBits
  split
  · rename_i h
    have hlt : count.toNat < 64 := UInt32.lt_iff_toNat_lt.1 h
    have htop : (1 <<< count.toUInt64 : UInt64) ≠ 0 := by
      intro hzero
      have hbit := UInt64.bit_one_shiftLeft h hlt
      simp [hzero] at hbit
    have hle : (1 : UInt64) ≤ 1 <<< count.toUInt64 := by
      rw [UInt64.le_iff_toNat_le, UInt64.toNat_one, Nat.one_le_iff_ne_zero]
      exact fun hzero => htop (UInt64.toNat_inj.1 hzero)
    simp only [UInt64.shiftLeft?_eq_some h, Option.bind_eq_bind, Option.bind_some, if_pos hle]
  · rfl

namespace Soc

variable {soc : Soc}

/-! ### The map -/

lemma exists_holderIndex (h : soc.Finished) (address : UInt64) :
    ∃ found, soc.map.holderIndex address = some found ∧ ∀ i ∈ found, i < soc.banks.length := by
  rw [h.map]
  by_cases hcovers : ∃ placed ∈ (soc.bus.layout soc.banks).banks, placed.Covers address
  · obtain ⟨placed, hmem, hc⟩ := hcovers
    obtain ⟨i, hplaced⟩ := List.mem_iff_getElem?.1 hmem
    obtain ⟨b, stands⟩ := h.fits.standsAt hplaced
    refine ⟨some i, holderIndex_of_covers h.fits stands hplaced hc, fun j hj => ?_⟩
    obtain rfl := Option.some.inj hj
    exact (List.getElem?_eq_some_iff.1 stands.bank).1
  · have hnone := holderIndex_of_not_covers h.fits fun placed hmem hc => hcovers ⟨placed, hmem, hc⟩
    exact ⟨none, hnone, by simp⟩

/-- The slices of a map take their bits from a word. -/
lemma inWord_of_mem_words (h : soc.Finished) {placed : PlacedBank} {p : PlacedRegister} {s : Slice}
    (hplaced : placed ∈ soc.map.banks) (hp : p ∈ placed.registers) (hs : s ∈ p.words) :
    s.InWord := by
  rw [h.map] at hplaced
  obtain ⟨i, b, stands⟩ := h.fits.exists_standsAt hplaced
  rw [stands.place] at hp
  obtain ⟨j, hj⟩ := List.mem_iff_getElem?.1 hp
  rw [bankAt, getElem?_registersFrom, Option.map_eq_some_iff] at hj
  obtain ⟨r, hr, rfl⟩ := hj
  have hb := h.fits.wellFormed b (List.mem_of_getElem? stands.bank)
  have hwf := hb.registers r (List.mem_of_getElem? hr)
  exact inWord_of_mem_tiles h.sound.dataWidth_pos hwf.width_le hs

lemma map_staysInRange (h : soc.Finished) : soc.map.StaysInRange := by
  refine
    { endAddress := ?endAddress
      bankEnd := fun placed hplaced => ?bankEnd
      candidate := fun address i hcount => ?candidate
      holder := fun address => ?holder
      scatter := fun placed hplaced p hp value => ?scatter
      gather := fun placed hplaced p hp words => ?gather }
  case endAddress =>
    have hend := h.fits.end_lt
    have hsize : soc.map.size.toNat = soc.bus.total soc.banks := by
      rw [h.map]
      exact AddressMap.toNat_total h.fits
    refine ⟨_, if_pos ?_⟩
    rw [hsize, h.map]
    exact hend
  case bankEnd =>
    rw [h.map] at hplaced
    obtain ⟨i, b, stands⟩ := h.fits.exists_standsAt hplaced
    exact ⟨_, if_pos stands.end_lt⟩
  case candidate =>
    have hle := bisect_le_length soc.map.banks (·.base ≤ address)
    omega
  case holder =>
    obtain ⟨found, hfound, -⟩ := exists_holderIndex h address
    exact ⟨_, by rw [AddressMap.holder, hfound]; rfl⟩
  case scatter =>
    exact ⟨_, mapM_eq_pure fun s hs =>
      Slice.extract_eq_some (inWord_of_mem_words h hplaced hp hs) value⟩
  case gather =>
    have hin (s : Slice) (hs : s ∈ p.words) : s.InWord := inWord_of_mem_words h hplaced hp hs
    obtain ⟨value, hvalue, -⟩ := gather_eq_some hin words
    exact ⟨value, hvalue⟩

/-! ### The states of the bus model -/

lemma length_banks_holding (h : soc.Finished) (v : Values) :
    (soc.holding v).banks.length = soc.banks.length := by
  have hlen := congrArg List.length (map_name_placedBanks h)
  rw [List.length_map, List.length_map] at hlen
  rw [holding, List.length_map, hlen]

lemma holding_staysInRange (h : soc.Finished) (v : Values) : (soc.holding v).StaysInRange where
  map := map_staysInRange h
  read := read_ne_overflow h v
  write := write_ne_overflow h v
  drive := drive_ne_overflow h v
  holderIndex address := by
    rw [length_banks_holding h]
    exact exists_holderIndex h address
  bankIndex bank i hi := by
    rw [bankIndex?_holding h, Option.mem_def, List.findIdx?_eq_some_iff_getElem] at hi
    rw [length_banks_holding h]
    exact hi.1

end Soc

/-! ### After a completion -/

namespace Declarations

variable {calls : List Call} {bus : BusGeometry} {soc : Soc}

/-- **Nothing fails after a completion**: for a system of declarations that calls have made, and
in each state of its bus model, all arithmetic stays in range whatever the arguments are, what is
found by a position is there, and every export has a text. -/
theorem after_stays_in_range (h : (after {} calls).complete bus = .ok soc) :
    soc.StaysInRange ∧ ∀ ops, ((BusModel.ofSoc soc).run ops).StaysInRange := by
  have hfinished := finished_of_complete h
  have hmap := Soc.map_staysInRange hfinished
  have hd := wellFormed_after calls
  obtain ⟨m, -, hsoc, hdense, -⟩ := eq_of_complete h
  have htable : soc.interrupts = (after {} calls).interrupts := by rw [hsoc, placedOn]
  refine ⟨?soc, fun ops => ?model⟩
  case soc =>
    refine
      { map := hmap
        mask := lowBits?_eq_some
        raised := fun vector => ?raised
        header := fun options => ⟨_, Header.header_eq_ok h options⟩
        defines := ?defines
        exports := fun accessors => ?exports
        report := ?report }
    case raised =>
      rw [htable]
      exact ⟨_, InterruptTable.raised_eq_some (fun i hi => hd.bit_lt hi) vector⟩
    case defines => exact ⟨_, by rw [InterruptTable.defines, htable, hdense]; rfl⟩
    case exports => exact ⟨_, by rw [Program.exports, Header.header_eq_ok h]; rfl⟩
    case report =>
      obtain ⟨past, hpast⟩ := hmap.endAddress
      exact ⟨_, by rw [Soc.report, Report.headLine, hpast]; rfl⟩
  case model =>
    obtain ⟨v, hrun, -⟩ := exists_follows hfinished ops
    rw [hrun]
    exact Soc.holding_staysInRange hfinished v

/-- A register of eight words just below the top of the address space, with an interrupt. -/
theorem after_stays_in_range_at_the_top : ∃ soc : Soc,
    (after {} [.bank "a" [⟨"r", 64, .storage, [], 7, none⟩], .interrupt "i" "a"]).complete
      { dataWidth := 8, slotSize := 1, base := 0xfffffffffffffff7 } = .ok soc ∧
    soc.StaysInRange ∧ ((BusModel.ofSoc soc).run
      [.write 0xffffffffffffffff 9, .read 0, .drive "a" "r" 1, .restart]).StaysInRange := by
  have h : (after {} [.bank "a" [⟨"r", 64, .storage, [], 7, none⟩], .interrupt "i" "a"]).complete
      { dataWidth := 8, slotSize := 1, base := 0xfffffffffffffff7 }
      = .ok ⟨{ dataWidth := 8, slotSize := 1, base := 0xfffffffffffffff7 },
        [⟨"a", [⟨"r", 64, .storage, [], 7, none⟩]⟩],
        ⟨0xfffffffffffffff7, 8, [⟨"a", 0xfffffffffffffff7, 8,
          [⟨"r", .storage, 64, 0xfffffffffffffff7,
            [⟨0xfffffffffffffff7, 56, 8⟩, ⟨0xfffffffffffffff8, 48, 8⟩,
              ⟨0xfffffffffffffff9, 40, 8⟩, ⟨0xfffffffffffffffa, 32, 8⟩,
              ⟨0xfffffffffffffffb, 24, 8⟩, ⟨0xfffffffffffffffc, 16, 8⟩,
              ⟨0xfffffffffffffffd, 8, 8⟩, ⟨0xfffffffffffffffe, 0, 8⟩]⟩]⟩]⟩,
        ⟨[⟨"i", "a", 0⟩]⟩, [], []⟩ := by
    decide +kernel
  exact ⟨_, h, (after_stays_in_range h).1, (after_stays_in_range h).2 _⟩

end Declarations

end CsrMap
