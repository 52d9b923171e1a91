import CsrMap.Proofs.Board.Completion
import CsrMap.Proofs.Soc.Growth

/-!
The built-in board with and without Ethernet.

The two boards are not made out of one another: with Ethernet the read-only memory is larger
unless its size is chosen, and constants come in between. But what the smaller board declares lies
within what the larger one declares, so it completes wherever the larger one does, with its cores
at the same addresses.
-/

namespace CsrMap.Board.Choices

open Declarations Peripheral

/-- Ethernet does not make the read-only memory smaller. -/
lemma romBytes_within (c : Choices) :
    Region.Within ⟨"rom", romOrigin, ({ c with ethernet := false } : Choices).romBytes, .cached⟩
      ⟨"rom", romOrigin, ({ c with ethernet := true } : Choices).romBytes, .cached⟩ := by
  unfold romBytes
  cases c.romChoice with
  | some size => exact Region.Within.refl _
  | none =>
    have hle : (0x8000 : UInt64) ≤ 0x10000 := by decide
    have hne : (0x8000 : UInt64) ≠ 0 := by decide
    exact ⟨rfl, rfl, hle, fun _ => hne⟩

/-- What the board declares without Ethernet lies within what it declares with it. -/
lemma declared_within (c : Choices) :
    ({ c with ethernet := false } : Choices).declared.Within
      ({ c with ethernet := true } : Choices).declared := by
  rw [declared_of_ethernet (c := { c with ethernet := true }) rfl,
    declared_of_no_ethernet (c := { c with ethernet := false }) rfl]
  refine ⟨List.prefix_append _ _, List.prefix_append _ _, ?_, ?_⟩
  · exact .cons c.romBytes_within (.cons (.refl _) (.cons (.refl _) .nil))
  · exact (List.sublist_append_right _ _).trans (List.sublist_append_left _ _)

/-- **Ethernet never moves the base system.** Where the board with Ethernet completes, the board
without it completes, and its banks, with their addresses, their registers and their words, and
its interrupts, with their bits, are the first ones of the larger board. Its constants are
constants of the larger board, and the memory regions are the same but for the size of the
read-only memory where none is chosen. -/
theorem complete_without_ethernet (c : Choices) (large : Soc)
    (hlarge : { c with ethernet := true }.complete = .ok large) :
    ∃ small, { c with ethernet := false }.complete = .ok small ∧ small.bus = large.bus ∧
      small.banks.length = 5 ∧ small.banks = large.banks.take 5 ∧
      small.map.banks = large.map.banks.take 5 ∧
      small.interrupts.entries.length = 2 ∧
      small.interrupts.entries = large.interrupts.entries.take 2 ∧
      (∀ k ∈ small.constants, k ∈ large.constants) ∧
      ∃ rom largeRom sram mainRam others, small.regions = [rom, sram, mainRam] ∧
        large.regions = largeRom :: sram :: mainRam :: others ∧
        rom.name = "rom" ∧ sram.name = "sram" ∧ mainRam.name = "main_ram" ∧
        rom = { largeRom with size := rom.size } ∧ (c.romChoice ≠ none → rom = largeRom) := by
  obtain ⟨hwf, hcomplete⟩ := complete_eq_ok_iff.1 hlarge
  obtain ⟨small, hsmall, hstands⟩ := hwf.complete_of_within c.declared_within hcomplete
  have hsmallDeclared : small.declarations = _ :=
    (declarations_of_complete hsmall).trans (declared_of_no_ethernet rfl)
  have hlargeDeclared : large.declarations = _ :=
    (declarations_of_complete hcomplete).trans (declared_of_ethernet rfl)
  have hbanks : small.banks = baseBanks := congrArg (·.banks) hsmallDeclared
  have hinterrupts : small.interrupts.entries = baseInterrupts :=
    congrArg (·.interrupts.entries) hsmallDeclared
  have hconstants : small.constants.Sublist large.constants := by
    have hsublist := c.declared_within.constants
    rwa [← declarations_of_complete hsmall, ← declarations_of_complete hcomplete] at hsublist
  have hplaced : small.map.banks.length = 5 := by
    rw [(finished_of_complete hsmall).map, BusGeometry.layout, BusGeometry.length_banksFrom, hbanks]
    rfl
  refine ⟨small, complete_eq_ok_iff.2 ⟨c.declared_within.wellFormed hwf, hsmall⟩, hstands.bus,
    congrArg List.length hbanks, ?_, ?_, congrArg List.length hinterrupts, ?_, hconstants.subset,
    ?_⟩
  · have htake := List.prefix_iff_eq_take.1 hstands.banks
    rwa [hbanks] at htake ⊢
  · have htake := List.prefix_iff_eq_take.1 hstands.placed
    rwa [hplaced] at htake
  · have htake := List.prefix_iff_eq_take.1 hstands.interrupts
    rwa [hinterrupts] at htake ⊢
  · have hregions := congrArg (·.regions) hsmallDeclared
    have hlargeRegions := congrArg (·.regions) hlargeDeclared
    refine ⟨_, _, _, _, _, hregions, hlargeRegions, rfl, rfl, rfl, rfl, fun hchoice => ?_⟩
    unfold romBytes
    obtain ⟨size, hsize⟩ := Option.ne_none_iff_exists'.1 hchoice
    simp only [hsize, Option.getD_some]

/-- The board without further choices. -/
theorem complete_without_ethernet_default : ∃ large small,
    ({ ethernet := true } : Choices).complete = .ok large ∧ ({} : Choices).complete = .ok small ∧
      small.banks.length = 5 ∧ small.map.banks = large.map.banks.take 5 ∧
      small.interrupts.entries = large.interrupts.entries.take 2 := by
  obtain ⟨large, hlarge⟩ := complete_default
  obtain ⟨small, hsmall, -, hfive, -, hplaced, -, hinterrupts, -⟩ :=
    complete_without_ethernet {} large hlarge
  exact ⟨large, small, hlarge, hsmall, hfive, hplaced, hinterrupts⟩

end CsrMap.Board.Choices
