import CsrMap.Proofs.Declaration.Calls
import CsrMap.Proofs.Export.Tables
import CsrMap.Proofs.Header.Symbols
import CsrMap.Proofs.Soc.Places
import Mathlib.Data.List.Nodup

/-!
The machine-readable map has all declarations of a system and nothing else.

Its tables are keyed by name, and a register by the names of its bank and its own, which say less
when they are joined: `a` and `b_c` give the key of `a_b` and `c`. Two such registers lead to the
same symbols, so a system that is finished has at most one of them.
-/

namespace CsrMap

open Header Text
open scoped List

/-! ### Keys -/

namespace Soc

variable {soc : Soc}

/-- The key of a register in the table of registers. -/
def registerKey (b : Bank) (r : Register) : String := b.name ++ "_" ++ r.name

/-- The defines for the addresses of the registers are among the symbols. -/
lemma addressSymbols_sublist (h : soc.Finished) :
    soc.placedRegisters.map (fun (b, r, _) => upper ("CSR_" ++ registerKey b r) ++ "_ADDR")
      <+ soc.symbols.map (·.symbol) := by
  have hregister (b : Bank) (hb : b ∈ soc.banks) (r : Register) (hr : r ∈ b.registers)
      (p : PlacedRegister) : [upper ("CSR_" ++ registerKey b r) ++ "_ADDR"]
        <+ (registerSymbols b.name r p).map (·.symbol) := by
    have hb := h.fits.wellFormed b hb
    have hname := (isName_iff.1 hb.name).1.nonempty
    have hrname := (isName_iff.1 (hb.registers r hr).name).1.nonempty
    rw [List.singleton_sublist, registerKey, ← String.append_assoc, ← String.append_assoc,
      ← symbolOf_register hname hrname]
    simp [registerSymbols]
  have hbank : ∀ x ∈ soc.placedBanks,
      (x.1.registers.zip x.2.registers).map
          (fun y => upper ("CSR_" ++ registerKey x.1 y.1) ++ "_ADDR")
        <+ (bankSymbols x.1 x.2).map (·.symbol) := by
    intro ⟨b, placed⟩ hx
    have hb := (List.of_mem_zip hx).1
    rw [bankSymbols, List.map_append, List.map_flatMap, List.map_eq_flatMap]
    refine (List.Sublist.flatMap_right _ fun y hy => ?_).trans (List.sublist_append_right _ _)
    exact hregister b hb y.1 (List.of_mem_zip hy).1 y.2
  rw [symbols, placedRegisters]
  simp only [List.map_append, List.map_flatMap, List.map_map]
  refine (List.Sublist.flatMap_right _ hbank).trans ?_
  simp only [List.append_assoc]
  exact (List.sublist_append_left _ _).trans (List.sublist_append_right _ _)

/-- **No two registers have one key**, although names that differ can give one when joined. -/
theorem nodup_registerKeys (h : soc.Finished) :
    (soc.placedRegisters.map fun (b, r, _) => registerKey b r).Nodup := by
  have hsymbols := (nodup_symbols h).sublist (addressSymbols_sublist h)
  refine List.Nodup.of_map (fun key => upper ("CSR_" ++ key) ++ "_ADDR") ?_
  rw [List.map_map]
  exact hsymbols

end Soc

/-! ### The document -/

namespace Export

/-- Members that are the given entries, each of them once, under keys whose bytes ascend. -/
structure IsTable (members entries : List (String × Json)) : Prop where
  perm : members ~ entries
  ascending : members.Pairwise fun x y => utf8Bytes x.1 < utf8Bytes y.1

/-- A table made of declarations with keys of their own has an entry for each. -/
lemma isTable_ofList {δ α : Type} {xs : List δ} {key : δ → String} (h : (xs.map key).Nodup)
    (value : δ → α) (json : α → Json) :
    IsTable ((Table.ofList (xs.map fun x => (key x, value x))).map fun (k, v) => (k, json v))
      (xs.map fun x => (key x, json (value x))) where
  perm := by
    have hkeys : ((xs.map fun x => (key x, value x)).map Prod.fst).Nodup := by
      rw [List.map_map]
      exact h
    have hperm := (Table.ofList_perm hkeys).map fun (k, v) => (k, json v)
    rw [List.map_map] at hperm
    exact hperm
  ascending :=
    List.pairwise_map.2 ((Table.ascending_ofList _).imp fun hlt => utf8Bytes_lt hlt)

/-- Tables with one entry for each declaration of a system, which has the values of that
declaration and of its place. -/
structure Lists (soc : Soc) (d : Declarations)
    (bases registers interrupts regions constants : List (String × Json)) : Prop where
  bases : IsTable bases
    (soc.placedBanks.map fun (b, placed) => (b.name, .nat placed.base.toNat))
  registers : IsTable registers
    (soc.placedRegisters.map fun (b, r, p) => (b.name ++ "_" ++ r.name,
      .obj [("addr", .nat p.address.toNat), ("size", .nat (soc.bus.wordCount r.width)),
        ("width", .nat r.width.toNat),
        ("type", .str (match r.access with | .status => "ro" | .storage => "rw"))]))
  interrupts : IsTable interrupts
    (d.interrupts.entries.map fun i => (i.name, .nat i.bit.toNat))
  regions : IsTable regions
    (d.regions.map fun region => (region.name,
      .obj [("base", .nat region.origin.toNat), ("size", .nat region.size.toNat),
        ("type", .str (match region.kind with | .cached => "cached" | .io => "io"))]))
  constants : IsTable constants
    (d.constants.map fun constant => (constant.name,
      match constant.value with
      | .int value => .nat value.toNat
      | .str value => .str value
      | .flag => .null))

end Export

namespace Soc

open Export

variable {soc : Soc}

lemma registerEntries_eq (h : soc.Finished) :
    soc.placedBanks.flatMap (fun (bank, placed) => Document.registerEntries bank placed)
      = soc.placedRegisters.map fun (b, r, p) =>
        (registerKey b r, ⟨p.address, soc.bus.wordCount r.width, r.width, r.access⟩) := by
  refine (flatMap_placedBanks h fun b (p : PlacedRegister) => (b.name ++ "_" ++ p.name,
    (⟨p.address, p.size, p.width, p.access⟩ : RegisterRecord))).trans ?_
  refine List.map_congr_left fun (b, r, p) hmem => ?_
  have hp := placesRegister_of_mem h hmem
  simp only [registerKey, hp.name, hp.size, hp.width, hp.access]

variable {calls : List Call} {bus : BusGeometry}

/-- **The machine-readable map** has the banks, registers, interrupts, regions and constants of
its system, each once and with its own values, and has nothing else. Its text is that of this
document. -/
theorem json_lists (h : (Declarations.after {} calls).complete bus = .ok soc) :
    soc.placedBanks.map Prod.fst = (Declarations.after {} calls).banks ∧
    (∀ b placed, (b, placed) ∈ soc.placedBanks → soc.map.bankBase? b.name = some placed.base) ∧
    soc.placedRegisters.map (fun (b, r, _) => (b, r))
      = (Declarations.after {} calls).banks.flatMap (fun b => b.registers.map (b, ·)) ∧
    (∀ b r p, (b, r, p) ∈ soc.placedRegisters →
      soc.register? b.name r.name = some (r, p)) ∧
    ∃ bases registers interrupts regions constants,
      (Document.ofSoc soc).toJson = .obj
        [("bus", Document.busJson bus), ("csr_bases", .obj bases),
          ("csr_registers", .obj registers), ("interrupts", .obj interrupts),
          ("memories", .obj regions), ("constants", .obj constants)] ∧
      soc.json = (Document.ofSoc soc).toJson.pretty 0 ++ "\n" ∧
      Lists soc (Declarations.after {} calls) bases registers interrupts regions constants := by
  have hd := Declarations.wellFormed_after calls
  have hfinished := Declarations.finished_of_complete h
  have hbanks := map_name_placedBanks hfinished
  obtain ⟨m, -, rfl, -⟩ := Declarations.eq_of_complete h
  refine ⟨map_fst_placedBanks hfinished, fun b placed => bankBase?_of_mem hfinished,
    map_placedRegisters hfinished, fun b r p => register?_of_mem hfinished,
    _, _, _, _, _, rfl, rfl, ?_⟩
  refine
    { bases := ?bases
      registers := ?registers
      interrupts := ?interrupts
      regions := ?regions
      constants := ?constants }
  case bases => exact isTable_ofList (hbanks ▸ hd.bankNames) _ fun base : UInt64 => .nat base.toNat
  case registers =>
    have htable := isTable_ofList (nodup_registerKeys hfinished)
      (fun (_, r, p) => ⟨p.address, bus.wordCount r.width, r.width, r.access⟩)
      Document.registerJson
    rw [Document.ofSoc, registerEntries_eq hfinished]
    exact htable
  case interrupts => exact isTable_ofList hd.interruptNames _ fun bit : UInt32 => .nat bit.toNat
  case regions => exact isTable_ofList hd.regionNames _ Document.regionJson
  case constants => exact isTable_ofList hd.constantNames _ Document.constantJson

/-- Two banks against the order of their names, an interrupt, a region and a constant. -/
theorem json_lists_two_banks : ∃ soc bases registers interrupts regions constants,
    (Document.ofSoc soc).toJson = .obj
      [("bus", Document.busJson {}), ("csr_bases", .obj bases),
        ("csr_registers", .obj registers), ("interrupts", .obj interrupts),
        ("memories", .obj regions), ("constants", .obj constants)] ∧
    soc.json = (Document.ofSoc soc).toJson.pretty 0 ++ "\n" ∧
    Lists soc ⟨[⟨"b", [⟨"c", 40, .storage, [], 7, none⟩]⟩, ⟨"a", [⟨"r", 8, .status, [], 1, none⟩]⟩],
      ⟨[⟨"ev", "a", 0⟩]⟩, [⟨"ram", 4096, 64, .cached⟩], [⟨"N", .flag⟩]⟩
      bases registers interrupts regions constants := by
  have hafter : Declarations.after {}
      [.bank "b" [⟨"c", 40, .storage, [], 7, none⟩], .bank "a" [⟨"r", 8, .status, [], 1, none⟩],
        .interrupt "ev" "a", .region ⟨"ram", 4096, 64, .cached⟩, .constant "N" .flag]
      = ⟨[⟨"b", [⟨"c", 40, .storage, [], 7, none⟩]⟩, ⟨"a", [⟨"r", 8, .status, [], 1, none⟩]⟩],
        ⟨[⟨"ev", "a", 0⟩]⟩, [⟨"ram", 4096, 64, .cached⟩], [⟨"N", .flag⟩]⟩ := by
    decide +kernel
  have hcomplete : (Declarations.after {}
      [.bank "b" [⟨"c", 40, .storage, [], 7, none⟩], .bank "a" [⟨"r", 8, .status, [], 1, none⟩],
        .interrupt "ev" "a", .region ⟨"ram", 4096, 64, .cached⟩, .constant "N" .flag]).complete {}
      = .ok ⟨{}, [⟨"b", [⟨"c", 40, .storage, [], 7, none⟩]⟩,
          ⟨"a", [⟨"r", 8, .status, [], 1, none⟩]⟩],
        ⟨0, 12, [⟨"b", 0, 8, [⟨"c", .storage, 40, 0, [⟨0, 32, 8⟩, ⟨4, 0, 32⟩]⟩]⟩,
          ⟨"a", 8, 4, [⟨"r", .status, 8, 8, [⟨8, 0, 8⟩]⟩]⟩]⟩,
        ⟨[⟨"ev", "a", 0⟩]⟩, [⟨"ram", 4096, 64, .cached⟩], [⟨"N", .flag⟩]⟩ := by
    decide +kernel
  obtain ⟨-, -, -, -, bases, registers, interrupts, regions, constants, hdocument, htext, hlists⟩ :=
    json_lists hcomplete
  rw [hafter] at hlists
  exact ⟨_, bases, registers, interrupts, regions, constants, hdocument, htext, hlists⟩

end Soc

end CsrMap
