import CsrMap.Proofs.Declaration.Within
import CsrMap.Proofs.Soc.Completion
import CsrMap.Proofs.Soc.Places
import Mathlib.Data.List.Flatten

/-!
What more declarations leave of a finished system.

Banks are laid end to end, so those that come later move none of the earlier. Each check of a
completion can only fail where something more is declared: the banks take more room, more
addresses belong to registers and to regions, and there are more symbols. So declarations complete
wherever more of them do, and what they hold stands where it stood.
-/

namespace CsrMap

open BusGeometry Header

namespace BusGeometry

variable {bus : BusGeometry} {front : List Bank}

lemma banksFrom_append (bus : BusGeometry) (start : ℕ) (front back : List Bank) :
    bus.banksFrom start (front ++ back)
      = bus.banksFrom start front ++ bus.banksFrom (start + bus.total front) back := by
  induction front generalizing start with
  | nil => rfl
  | cons b front ih =>
    rw [List.cons_append, banksFrom, banksFrom, ih, total_cons, Nat.add_assoc, List.cons_append]

lemma layout_banks_append (bus : BusGeometry) (front back : List Bank) :
    (bus.layout (front ++ back)).banks
      = (bus.layout front).banks
        ++ bus.banksFrom (bus.base.toNat + bus.total front) back :=
  banksFrom_append bus bus.base.toNat front back

/-- The range of the registers only grows. -/
lemma layout_covers_append {back : List Bank} (hfit : bus.Fits (front ++ back)) {a : UInt64}
    (ha : (bus.layout front).Covers a) : (bus.layout (front ++ back)).Covers a := by
  obtain ⟨hlow, hhigh⟩ := ha
  change a.toNat < bus.base.toNat + (bus.total front).toUInt64.toNat at hhigh
  rw [AddressMap.toNat_total hfit.left] at hhigh
  refine ⟨hlow, ?_⟩
  change a.toNat < bus.base.toNat + (bus.total (front ++ back)).toUInt64.toNat
  rw [AddressMap.toNat_total hfit, total_append]
  omega

end BusGeometry

/-! ### Systems within systems -/

/-- All that `soc` has stands in `grown` at the same place: banks with all their registers and
words, and interrupts with their bits. -/
structure Soc.StandsIn (soc grown : Soc) : Prop where
  bus : soc.bus = grown.bus
  banks : soc.banks <+: grown.banks
  placed : soc.map.banks <+: grown.map.banks
  interrupts : soc.interrupts.entries <+: grown.interrupts.entries

namespace Soc.StandsIn

variable {soc grown : Soc} {name bank register : String}

/-- A bank is found at the same place by its name. -/
lemma bank?_eq_some (h : soc.StandsIn grown) {placed : PlacedBank}
    (hbank : soc.map.bank? name = some placed) : grown.map.bank? name = some placed :=
  h.placed.find?_eq_some hbank

/-- The banks with their places start those of the larger system. -/
lemma placedBanks (h : soc.StandsIn grown) (hmap : soc.map = soc.bus.layout soc.banks) :
    soc.placedBanks <+: grown.placedBanks := by
  obtain ⟨laterBanks, hbanks⟩ := h.banks
  obtain ⟨laterPlaced, hplaced⟩ := h.placed
  have hlen : soc.banks.length = soc.map.banks.length := by
    rw [hmap, layout, length_banksFrom]
  refine ⟨laterBanks.zip laterPlaced, ?_⟩
  rw [Soc.placedBanks, Soc.placedBanks, ← hbanks, ← hplaced, List.zip_append hlen]

/-- A register is found with the same address and the same words by its names. -/
lemma register?_eq_some (h : soc.StandsIn grown) (hfinished : soc.Finished)
    {found : Register × PlacedRegister} (hfound : soc.register? bank register = some found) :
    grown.register? bank register = some found := by
  obtain ⟨placed, hbank, hregister⟩ := Option.bind_eq_some_iff.1 hfound
  have hbank := (h.placedBanks hfinished.map).find?_eq_some hbank
  exact Option.bind_eq_some_iff.2 ⟨placed, hbank, hregister⟩

lemma bit?_eq_some (h : soc.StandsIn grown) {bit : UInt32}
    (hbit : soc.interrupts.bit? name = some bit) : grown.interrupts.bit? name = some bit := by
  obtain ⟨i, hi, rfl⟩ := Option.map_eq_some_iff.1 hbit
  exact Option.map_eq_some_iff.2 ⟨i, h.interrupts.find?_eq_some hi, rfl⟩

end Soc.StandsIn

lemma InterruptTable.bit?_of_mem {t : InterruptTable} {i : Interrupt}
    (hnames : (t.entries.map (·.name)).Nodup) (hi : i ∈ t.entries) :
    t.bit? i.name = some i.bit := by
  obtain ⟨k, hk⟩ := List.mem_iff_getElem?.1 hi
  exact Option.map_eq_some_iff.2 ⟨i, find?_eq_some_of_nodup hnames hk, rfl⟩

/-! ### Symbols -/

section Symbols

/-- The symbols of a region depend on its name alone. -/
lemma map_symbol_regions (regions : List Region) :
    (regions.flatMap regionSymbols).map (·.symbol)
      = (regions.map (·.name)).flatMap fun name =>
        [symbolOf [name, "base"], symbolOf [name, "size"]] := by
  rw [List.map_flatMap, List.flatMap_map]
  rfl

/-- More declarations have more symbols. -/
lemma Declarations.Within.symbols {d next : Declarations} {bus : BusGeometry} {m whole : AddressMap}
    (h : d.Within next) (hplaced : (d.placedOn bus m).placedBanks <+:
      (next.placedOn bus whole).placedBanks) :
    ((d.placedOn bus m).symbols.map (·.symbol)).Sublist
      ((next.placedOn bus whole).symbols.map (·.symbol)) := by
  simp only [Soc.symbols, List.map_append]
  refine (((List.Sublist.refl _).append ?_).append ?_).append ?_ |>.append ?_
  · exact (hplaced.sublist.flatMap _).map _
  · exact (h.interrupts.sublist.flatMap _).map _
  · change ((d.regions.flatMap regionSymbols).map _).Sublist
      ((next.regions.flatMap regionSymbols).map _)
    rw [map_symbol_regions, map_symbol_regions]
    exact (map_name_sublist h.regions).flatMap _
  · exact (h.constants.flatMap _).map _

end Symbols

namespace Declarations

variable {d next : Declarations} {bus : BusGeometry} {grown : Soc}

/-- **Declarations complete wherever more of them do**, and stand there at the same places. -/
theorem WellFormed.complete_of_within (hnext : next.WellFormed) (h : d.Within next)
    (hgrown : next.complete bus = .ok grown) :
    ∃ soc, d.complete bus = .ok soc ∧ soc.StandsIn grown := by
  obtain ⟨m, hm, hapart, hnodup, rfl⟩ := hnext.complete_eq_ok_iff.1 hgrown
  obtain ⟨⟨hsound, hslot, hfit⟩, rfl⟩ := AddressMap.ofBanks_eq_ok_iff.1 hm
  obtain ⟨later, hlater⟩ := h.banks
  rw [← hlater] at hfit
  have hplaced : AddressMap.ofBanks d.banks bus = .ok (bus.layout d.banks) :=
    AddressMap.ofBanks_of_fits hsound hslot hfit.left
  have hstands : (d.placedOn bus (bus.layout d.banks)).StandsIn
      (next.placedOn bus (bus.layout next.banks)) := by
    refine ⟨rfl, h.banks, ?_, h.interrupts⟩
    change (bus.layout d.banks).banks <+: (bus.layout next.banks).banks
    rw [← hlater, layout_banks_append]
    exact List.prefix_append _ _
  have hregions : ∀ r ∈ d.regions, ∀ a, r.Covers a → ¬ (bus.layout d.banks).Covers a := by
    intro r hr a ha hin
    obtain ⟨s, hs, hwithin⟩ := exists_within_of_mem h.regions hr
    have hin := layout_covers_append hfit hin
    rw [hlater] at hin
    exact hapart s hs a (hwithin.covers ha) hin
  have hsymbols : ((d.placedOn bus (bus.layout d.banks)).symbols.map (·.symbol)).Nodup :=
    (h.symbols (hstands.placedBanks rfl)).nodup hnodup
  exact ⟨_, (h.wellFormed hnext).complete_eq_ok_iff.2 ⟨_, hplaced, hregions, hsymbols, rfl⟩,
    hstands⟩

/-! ### Calls -/

/-- **Declarations only ever grow compatibly.** Wherever declarations complete after any further
calls, they complete without them, and what they hold is found in the larger system where it is
found in the smaller: each bank and each register with its address and its words, and each
interrupt with its bit. -/
theorem after_completes_before (calls later : List Call) (bus : BusGeometry) (grown : Soc)
    (hgrown : ((after {} calls).after later).complete bus = .ok grown) :
    ∃ soc, (after {} calls).complete bus = .ok soc ∧ soc.declarations = after {} calls ∧
      soc.StandsIn grown ∧
      (∀ b ∈ soc.banks, ∃ placed, soc.map.bank? b.name = some placed ∧
        grown.map.bank? b.name = some placed) ∧
      (∀ b ∈ soc.banks, ∀ r ∈ b.registers, ∃ p, soc.register? b.name r.name = some (r, p) ∧
        grown.register? b.name r.name = some (r, p)) ∧
      ∀ i ∈ soc.interrupts.entries, soc.interrupts.bit? i.name = some i.bit ∧
        grown.interrupts.bit? i.name = some i.bit := by
  have hd := wellFormed_after calls
  have hgrows := grows_after (after {} calls) later
  obtain ⟨soc, hsoc, hstands⟩ :=
    (hd.grows hgrows).complete_of_within (startOf_of_grows hgrows).within hgrown
  have hfinished := finished_of_complete hsoc
  have hdeclared := declarations_of_complete hsoc
  refine ⟨soc, hsoc, hdeclared, hstands, ?_, ?_, ?_⟩
  · intro b hb
    obtain ⟨placed, hmem⟩ := Soc.exists_mem_placedBanks hfinished hb
    have hbank := Soc.bank?_of_mem hfinished hmem
    exact ⟨placed, hbank, hstands.bank?_eq_some hbank⟩
  · intro b hb r hr
    obtain ⟨p, hmem⟩ := Soc.exists_mem_placedRegisters hfinished hb hr
    have hregister := Soc.register?_of_mem hfinished hmem
    exact ⟨p, hregister, hstands.register?_eq_some hfinished hregister⟩
  · intro i hi
    have hnames : (soc.interrupts.entries.map (·.name)).Nodup := by
      have := hd.interruptNames
      rwa [← hdeclared] at this
    have hbit := InterruptTable.bit?_of_mem hnames hi
    exact ⟨hbit, hstands.bit?_eq_some hbit⟩

/-- A wide register in a bank of its own, and an interrupt, after a bank with an interrupt. -/
theorem after_completes_before_wide_register :
    ∃ soc grown, ((after {} [.bank "a" [⟨"r", 8, .storage, [], 0, none⟩], .interrupt "rx" "a"]).after
        [.bank "b" [⟨"s", 64, .storage, [], 0, none⟩], .interrupt "tx" "b"]).complete {}
          = .ok grown ∧
      (after {} [.bank "a" [⟨"r", 8, .storage, [], 0, none⟩], .interrupt "rx" "a"]).complete {}
          = .ok soc ∧ soc.StandsIn grown := by
  obtain ⟨soc, hsoc, -, hstands, -⟩ := after_completes_before
    [.bank "a" [⟨"r", 8, .storage, [], 0, none⟩], .interrupt "rx" "a"]
    [.bank "b" [⟨"s", 64, .storage, [], 0, none⟩], .interrupt "tx" "b"] {}
    ⟨{}, [⟨"a", [⟨"r", 8, .storage, [], 0, none⟩]⟩, ⟨"b", [⟨"s", 64, .storage, [], 0, none⟩]⟩],
      ⟨0, 12, [⟨"a", 0, 4, [⟨"r", .storage, 8, 0, [⟨0, 0, 8⟩]⟩]⟩,
        ⟨"b", 4, 8, [⟨"s", .storage, 64, 4, [⟨4, 32, 32⟩, ⟨8, 0, 32⟩]⟩]⟩]⟩,
      ⟨[⟨"rx", "a", 0⟩, ⟨"tx", "b", 1⟩]⟩, [], []⟩ (by decide +kernel)
  exact ⟨soc, _, by decide +kernel, hsoc, hstands⟩

end Declarations

end CsrMap
