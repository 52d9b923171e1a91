import CsrMap.Declarations
import CsrMap.Proofs.Declaration.WellFormed

/-!
Declarations that operations can make.

Each operation checks what it adds against what is there and puts it at the end of its list, so
declarations are well formed whatever the order of the operations, and earlier ones stay as they
are.
-/

namespace CsrMap

/-- A table takes an interrupt where its names are valid, its own is new and a bit is free. -/
lemma InterruptTable.add_eq_ok_iff {t table : InterruptTable} {name peripheral : String}
    {bit : UInt32} :
    t.add name peripheral = .ok (table, bit) ↔
      (isName name ∧ isName peripheral ∧ name ∉ t.entries.map (·.name) ∧ t.entries.length < 32) ∧
        bit = t.entries.length.toUInt32 ∧ table = ⟨t.entries ++ [⟨name, peripheral, bit⟩]⟩ := by
  have hfound : (t.bit? name).isSome = true ↔ name ∈ t.entries.map (·.name) := by
    simp [InterruptTable.bit?]
  have hroom : InterruptTable.vectorWidth.toNat ≤ t.size ↔ ¬ t.entries.length < 32 :=
    Nat.not_lt.symm
  simp only [InterruptTable.add, step_eq_ok_iff, guard_eq_ok_iff, checkName_eq_ok_iff, hfound,
    hroom, not_not, pure, Except.pure, Except.ok.injEq, Prod.mk.injEq]
  constructor
  · rintro ⟨hname, hperipheral, hnew, hlt, rfl, rfl⟩
    exact ⟨⟨hname, hperipheral, hnew, hlt⟩, rfl, rfl⟩
  · rintro ⟨⟨hname, hperipheral, hnew, hlt⟩, rfl, rfl⟩
    exact ⟨hname, hperipheral, hnew, hlt, rfl, rfl⟩

namespace Declarations

/-- The declarations after some operations that succeed. -/
inductive Reachable : Declarations → Prop
  | empty : Reachable {}
  | bank {d next : Declarations} {name : String} {registers : List Register} {index : ℕ}
    (hd : d.Reachable) (h : d.withBank name registers = .ok (next, index)) : next.Reachable
  | interrupt {d next : Declarations} {name peripheral : String} {bit : UInt32}
    (hd : d.Reachable) (h : d.withInterrupt name peripheral = .ok (next, bit)) : next.Reachable
  | region {d next : Declarations} {region : Region}
    (hd : d.Reachable) (h : d.withRegion region = .ok next) : next.Reachable
  | constant {d next : Declarations} {name : String} {value : Payload}
    (hd : d.Reachable) (h : d.withConstant name value = .ok next) : next.Reachable

/-- What one operation that succeeds makes of the declarations. -/
inductive Adds (d : Declarations) : Declarations → Prop
  | bank {b : Bank} (wellFormed : b.WellFormed) (new : b.name ∉ d.banks.map (·.name)) :
    d.Adds { d with banks := d.banks ++ [b] }
  | interrupt {i : Interrupt} (name : isName i.name) (peripheral : isName i.peripheral)
    (new : i.name ∉ d.interrupts.entries.map (·.name))
    (bit : i.bit.toNat = d.interrupts.entries.length)
    (room : d.interrupts.entries.length < 32) :
    d.Adds { d with interrupts := ⟨d.interrupts.entries ++ [i]⟩ }
  | region {r : Region} (name : isName r.name) (size_ne : r.size ≠ 0)
    (new : r.name ∉ d.regions.map (·.name)) (apart : ∀ s ∈ d.regions, ¬ s.meets r.origin r.size) :
    d.Adds { d with regions := d.regions ++ [r] }
  | constant {c : Constant} (name : isConstantName c.name)
    (new : c.name ∉ d.constants.map (·.name)) :
    d.Adds { d with constants := d.constants ++ [c] }

/-- The names outside of the banks are valid. -/
structure Named (d : Declarations) : Prop where
  interrupts : ∀ i ∈ d.interrupts.entries, isName i.name
  regions : ∀ r ∈ d.regions, isName r.name
  constants : ∀ c ∈ d.constants, isConstantName c.name

/-- Each declaration is valid by itself, has a name of its own among those of its kind, and a
place of its own: an interrupt a bit, a region a range. -/
structure WellFormed (d : Declarations) : Prop extends d.Named where
  banks : ∀ b ∈ d.banks, b.WellFormed
  bankNames : (d.banks.map (·.name)).Nodup
  peripherals : ∀ i ∈ d.interrupts.entries, isName i.peripheral
  interruptNames : (d.interrupts.entries.map (·.name)).Nodup
  bits : ∀ (k : ℕ) (i : Interrupt), d.interrupts.entries[k]? = some i → i.bit.toNat = k
  vector : d.interrupts.entries.length ≤ 32
  regionSizes : ∀ r ∈ d.regions, r.size ≠ 0
  regionNames : (d.regions.map (·.name)).Nodup
  regionsApart : d.regions.Pairwise fun r s => ¬ r.meets s.origin s.size
  constantNames : (d.constants.map (·.name)).Nodup

variable {d next : Declarations} {name peripheral : String} {registers : List Register}
  {region : Region} {value : Payload} {index : ℕ} {bit : UInt32}

lemma hasBank_iff : d.hasBank name = true ↔ name ∈ d.banks.map (·.name) := by
  simp [hasBank]

/-! ### What an operation adds -/

/-- **A bank is added** where it is well formed and its name is new. -/
lemma withBank_eq_ok_iff : d.withBank name registers = .ok (next, index) ↔
    (Bank.WellFormed ⟨name, registers⟩ ∧ name ∉ d.banks.map (·.name)) ∧
      next = { d with banks := d.banks ++ [⟨name, registers⟩] } ∧ index = d.banks.length := by
  simp only [withBank, step_eq_ok_iff, guard_eq_ok_iff, checkName_eq_ok_iff, hasBank_iff,
    Register.checkEach_eq_ok_iff, List.isEmpty_iff, List.not_mem_nil, not_false_eq_true,
    implies_true, and_true, pure, Except.pure, Except.ok.injEq, Prod.mk.injEq]
  constructor
  · rintro ⟨hname, hnew, hne, ⟨hwf, hnodup⟩, rfl, rfl⟩
    exact ⟨⟨⟨hname, hne, hwf, hnodup⟩, hnew⟩, rfl, rfl⟩
  · rintro ⟨⟨⟨hname, hne, hwf, hnodup⟩, hnew⟩, rfl, rfl⟩
    exact ⟨hname, hnew, hne, ⟨hwf, hnodup⟩, rfl, rfl⟩

lemma withBank_eq_ok (h : d.withBank name registers = .ok (next, index)) :
    d.Adds next ∧ next.banks = d.banks ++ [⟨name, registers⟩] ∧ index = d.banks.length := by
  obtain ⟨⟨hwf, hnew⟩, rfl, rfl⟩ := withBank_eq_ok_iff.1 h
  exact ⟨.bank hwf hnew, rfl, rfl⟩

lemma withInterrupt_eq_ok_iff : d.withInterrupt name peripheral = .ok (next, bit) ↔
    (isName name ∧ isName peripheral ∧ name ∉ d.interrupts.entries.map (·.name) ∧
      d.interrupts.entries.length < 32) ∧
      bit = d.interrupts.entries.length.toUInt32 ∧
      next = { d with interrupts := ⟨d.interrupts.entries ++ [⟨name, peripheral, bit⟩]⟩ } := by
  rw [withInterrupt, bind_eq_ok_iff]
  constructor
  · rintro ⟨⟨table, given⟩, hadd, heq⟩
    cases heq
    obtain ⟨hfree, hbit, rfl⟩ := InterruptTable.add_eq_ok_iff.1 hadd
    exact ⟨hfree, hbit, rfl⟩
  · rintro ⟨hfree, hbit, rfl⟩
    exact ⟨_, InterruptTable.add_eq_ok_iff.2 ⟨hfree, hbit, rfl⟩, rfl⟩

lemma withInterrupt_eq_ok (h : d.withInterrupt name peripheral = .ok (next, bit)) :
    d.Adds next ∧ next.banks = d.banks := by
  obtain ⟨⟨hname, hperipheral, hnew, hroom⟩, hbit, rfl⟩ := withInterrupt_eq_ok_iff.1 h
  have hbit : bit.toNat = d.interrupts.entries.length := by
    rw [hbit]
    exact UInt32.toNat_ofNat_of_lt' (hroom.trans (by decide))
  exact ⟨.interrupt (i := ⟨name, peripheral, bit⟩) hname hperipheral hnew hbit hroom, rfl⟩

lemma checkRegion_eq_ok_iff {regions : List Region} :
    checkRegion region regions = .ok () ↔
      region.name ∉ regions.map (·.name) ∧ ∀ s ∈ regions, ¬ s.meets region.origin region.size := by
  induction regions with
  | nil => simp [checkRegion]
  | cons s regions ih =>
    rw [checkRegion, List.map_cons, List.mem_cons, not_or, List.forall_mem_cons]
    split
    · rename_i heq
      simp [heq]
    · rename_i hne
      split
      · rename_i hmeets
        simp [hmeets]
      · rename_i hapart
        rw [ih]
        exact ⟨fun h => ⟨⟨Ne.symm hne, h.1⟩, hapart, h.2⟩, fun h => ⟨h.1.2, h.2.2⟩⟩

/-- **A region is added** where its name is valid and new, it is not empty and it meets no
earlier one. -/
lemma withRegion_eq_ok_iff : d.withRegion region = .ok next ↔
    (isName region.name ∧ region.size ≠ 0 ∧ region.name ∉ d.regions.map (·.name) ∧
      ∀ s ∈ d.regions, ¬ s.meets region.origin region.size) ∧
      next = { d with regions := d.regions ++ [region] } := by
  simp only [withRegion, step_eq_ok_iff, guard_eq_ok_iff, checkName_eq_ok_iff,
    checkRegion_eq_ok_iff, pure, Except.pure, Except.ok.injEq]
  constructor
  · rintro ⟨hname, hsize, ⟨hnew, hapart⟩, rfl⟩
    exact ⟨⟨hname, hsize, hnew, hapart⟩, rfl⟩
  · rintro ⟨⟨hname, hsize, hnew, hapart⟩, rfl⟩
    exact ⟨hname, hsize, ⟨hnew, hapart⟩, rfl⟩

lemma withRegion_eq_ok (h : d.withRegion region = .ok next) :
    d.Adds next ∧ next.banks = d.banks := by
  obtain ⟨⟨hname, hsize, hnew, hapart⟩, rfl⟩ := withRegion_eq_ok_iff.1 h
  exact ⟨.region hname hsize hnew hapart, rfl⟩

/-- **A constant is added** where its name is valid and new. -/
lemma withConstant_eq_ok_iff : d.withConstant name value = .ok next ↔
    (isConstantName name ∧ name ∉ d.constants.map (·.name)) ∧
      next = { d with constants := d.constants ++ [⟨name, value⟩] } := by
  have hany : d.constants.any (·.name == name) = true ↔ name ∈ d.constants.map (·.name) := by
    simp
  simp only [withConstant, step_eq_ok_iff, guard_eq_ok_iff, checkConstantName_eq_ok_iff, hany,
    pure, Except.pure, Except.ok.injEq]
  constructor
  · rintro ⟨hname, hnew, rfl⟩
    exact ⟨⟨hname, hnew⟩, rfl⟩
  · rintro ⟨⟨hname, hnew⟩, rfl⟩
    exact ⟨hname, hnew, rfl⟩

lemma withConstant_eq_ok (h : d.withConstant name value = .ok next) :
    d.Adds next ∧ next.banks = d.banks := by
  obtain ⟨⟨hname, hnew⟩, rfl⟩ := withConstant_eq_ok_iff.1 h
  exact ⟨.constant (c := ⟨name, value⟩) hname hnew, rfl⟩

/-! ### What additions keep -/

section Snoc

variable {α β : Type} {p : α → Prop} {key : α → β} {xs : List α} {x : α}

lemma forall_mem_snoc (hxs : ∀ y ∈ xs, p y) (hx : p x) : ∀ y ∈ xs ++ [x], p y :=
  List.forall_mem_append.2 ⟨hxs, by simpa using hx⟩

lemma nodup_map_snoc (hxs : (xs.map key).Nodup) (hx : key x ∉ xs.map key) :
    ((xs ++ [x]).map key).Nodup := by
  rw [List.map_append, List.map_singleton, List.nodup_append]
  refine ⟨hxs, by simp, fun k hk l hl => ?_⟩
  rw [List.mem_singleton.1 hl]
  exact fun heq => hx (heq ▸ hk)

end Snoc

lemma wellFormed_empty : WellFormed {} where
  interrupts := by simp
  regions := by simp
  constants := by simp
  banks := by simp
  bankNames := by simp
  peripherals := by simp
  interruptNames := by simp
  bits := by simp
  vector := by simp
  regionSizes := by simp
  regionNames := by simp
  regionsApart := by simp
  constantNames := by simp

/-- **An addition keeps declarations well formed.** -/
theorem WellFormed.adds (hd : d.WellFormed) (h : d.Adds next) : next.WellFormed := by
  cases h with
  | bank hwf hnew =>
    exact { hd with
      banks := forall_mem_snoc hd.banks hwf
      bankNames := nodup_map_snoc hd.bankNames hnew }
  | @interrupt i hname hperipheral hnew hbit hroom =>
    refine { hd with
      interrupts := forall_mem_snoc hd.interrupts hname
      peripherals := forall_mem_snoc hd.peripherals hperipheral
      interruptNames := nodup_map_snoc hd.interruptNames hnew
      bits := fun k j hj => ?_
      vector := List.length_append.trans_le hroom }
    rcases Nat.lt_or_ge k d.interrupts.entries.length with hlt | hge
    · rw [List.getElem?_append_left hlt] at hj
      exact hd.bits k j hj
    · rw [List.getElem?_append_right hge, List.getElem?_singleton] at hj
      split at hj
      · cases hj
        omega
      · cases hj
  | region hname hsize hnew hapart =>
    exact { hd with
      regions := forall_mem_snoc hd.regions hname
      regionSizes := forall_mem_snoc hd.regionSizes hsize
      regionNames := nodup_map_snoc hd.regionNames hnew
      regionsApart := List.pairwise_append.2
        ⟨hd.regionsApart, by simp, fun s hs t ht => by
          rw [List.mem_singleton.1 ht]
          exact hapart s hs⟩ }
  | constant hname hnew =>
    exact { hd with
      constants := forall_mem_snoc hd.constants hname
      constantNames := nodup_map_snoc hd.constantNames hnew }

/-- Operations make well-formed declarations only. -/
theorem Reachable.wellFormed (hd : d.Reachable) : d.WellFormed := by
  induction hd with
  | empty => exact wellFormed_empty
  | bank _ h ih => exact ih.adds (withBank_eq_ok h).1
  | interrupt _ h ih => exact ih.adds (withInterrupt_eq_ok h).1
  | region _ h ih => exact ih.adds (withRegion_eq_ok h).1
  | constant _ h ih => exact ih.adds (withConstant_eq_ok h).1

/-- **Operations make valid names only.** -/
theorem Reachable.named (hd : d.Reachable) : d.Named := hd.wellFormed.toNamed

end Declarations

end CsrMap
