import CsrMap.Proofs.Placement.Layout

/-!
How the placement of registers, of one bank and of several banks ends.

Each step is told in unbounded numbers: it gives the registers or banks of the layout, it refuses
a sum that passes the top or a page that is too small, or its word arithmetic overflows.
-/

namespace CsrMap

open BusGeometry

namespace BusGeometry

/-- Some register starts below the top of the address space and ends above it. -/
def Straddles (bus : BusGeometry) : ℕ → List Register → Prop
  | _, [] => False
  | start, r :: registers =>
    (start < 2 ^ 64 ∧ 2 ^ 64 < start + bus.span r) ∨ bus.Straddles (start + bus.span r) registers

/-- The arithmetic on the registers of a bank at `base` overflows, from `offset` bytes on: in the
address of a word, or in an offset, which can only happen where the bank starts at zero. -/
def RegistersOverflow (bus : BusGeometry) (base offset : ℕ) (registers : List Register) : Prop :=
  bus.Straddles (base + offset) registers ∨ base = 0 ∧ 2 ^ 64 ≤ offset + bus.need registers

/-- The arithmetic on a bank at `start` overflows: on its registers, or where its size is
rounded. -/
def BankOverflows (bus : BusGeometry) (start : ℕ) (b : Bank) : Prop :=
  bus.RegistersOverflow start 0 b.registers ∨
    (∀ page, bus.rounding ≠ .paged page) ∧ start + bus.need b.registers ≤ 2 ^ 64 ∧
      2 ^ 64 ≤ bus.extent b

variable {bus : BusGeometry}

lemma not_straddles_of_le {registers : List Register} {start : ℕ} (h : 2 ^ 64 ≤ start) :
    ¬ bus.Straddles start registers := by
  induction registers generalizing start with
  | nil => exact id
  | cons r registers ih =>
    rintro (⟨hlt, -⟩ | hrest)
    · omega
    · exact ih (h.trans (Nat.le_add_right _ _)) hrest

lemma not_straddles_of_need_le {registers : List Register} {start : ℕ}
    (h : start + bus.need registers ≤ 2 ^ 64) : ¬ bus.Straddles start registers := by
  induction registers generalizing start with
  | nil => exact id
  | cons r registers ih =>
    rw [need_cons] at h
    rintro (⟨-, hlt⟩ | hrest)
    · omega
    · exact ih (by omega) hrest

lemma not_registersOverflow_of_fits {registers : List Register} {start : ℕ}
    (h : start + bus.need registers < 2 ^ 64) : ¬ bus.RegistersOverflow start 0 registers := by
  rintro (hs | ⟨hbase, hover⟩)
  · exact not_straddles_of_need_le (by omega) hs
  · omega

/-- From the top on there is no arithmetic that could overflow. -/
lemma not_registersOverflow_of_top {registers : List Register} {base offset : ℕ}
    (htop : 2 ^ 64 ≤ base + offset) (hoffset : offset < 2 ^ 64) :
    ¬ bus.RegistersOverflow base offset registers := by
  rintro (hs | ⟨hzero, -⟩)
  · exact not_straddles_of_le htop hs
  · omega

/-- A register that ends at the top or below it leaves the arithmetic to those after it. -/
lemma registersOverflow_cons_iff {r : Register} {registers : List Register} {base offset : ℕ}
    (hend : base + offset + bus.span r ≤ 2 ^ 64) :
    bus.RegistersOverflow base offset (r :: registers) ↔
      bus.RegistersOverflow base (offset + bus.span r) registers := by
  rw [RegistersOverflow, RegistersOverflow, Straddles, need_cons, Nat.add_assoc base,
    Nat.add_assoc offset]
  refine or_congr_left (or_iff_right ?_)
  rintro ⟨-, hlt⟩
  omega

/-- The answer to a bank at `start` that does not fit: its registers or its end pass the top, or
its registers overflow its page. -/
def Refuses (bus : BusGeometry) (start : ℕ) (b : Bank) (cause : ConfigError) : Prop :=
  (cause = .addressOverflow b.name ∧
      (2 ^ 64 < start + bus.need b.registers ∨
        bus.need b.registers ≤ bus.extent b ∧ 2 ^ 64 ≤ start + bus.extent b)) ∨
    ∃ page, bus.rounding = .paged page ∧ bus.extent b < bus.need b.registers ∧
      start + bus.need b.registers ≤ 2 ^ 64 ∧
      cause = .pageOverflow b.name (bus.need b.registers).toUInt64 page

/-- A bank that fits is placed without overflow. -/
lemma FitsAt.not_overflows {start : ℕ} {b : Bank} (h : bus.FitsAt start b) :
    ¬ bus.BankOverflows start b := by
  have h1 := h.need_le
  have h2 := h.end_lt
  rintro (hr | ⟨-, -, hover⟩)
  · exact not_registersOverflow_of_fits (by omega) hr
  · omega

lemma spanOf_eq (h : bus.Sound) (hslot : bus.slotSize.toNat < 2 ^ 61) {r : Register}
    (hr : r.WellFormed) : bus.spanOf r.width = some (bus.span r).toUInt64 := by
  have hlt := span_lt h hslot hr
  rw [spanOf, countWords_eq h.dataWidth_pos]
  simp only [Option.bind_eq_bind, Option.bind_some]
  rw [UInt64.mul?_eq_some_iff, UInt32.toNat_toUInt64, toNat_wordCount h.dataWidth_pos]
  exact UInt64.toNat_ofNat_of_lt' hlt

/-- The words of a register that ends at the top or below it. -/
lemma slices_of_end_le (h : bus.Sound) (r : Register) (address : UInt64)
    (hend : address.toNat + bus.span r ≤ 2 ^ 64) :
    bus.slices r.width address = some (bus.tiles r.width address.toNat) := by
  refine slices_eq_some h.dataWidth_pos fun i hi => ?_
  have hmul : (i + 1) * bus.slotSize.toNat ≤ bus.span r := Nat.mul_le_mul_right _ hi
  have hpos := h.slotSize_pos
  rw [Nat.succ_mul] at hmul
  omega

/-- A register that ends above the top has a word above it, as slots end at the top. -/
lemma slices_of_lt_end (h : bus.Sound) {r : Register} (hr : r.WellFormed) (address : UInt64)
    (haddr : bus.slotSize.toNat ∣ address.toNat) (hend : 2 ^ 64 < address.toNat + bus.span r) :
    bus.slices r.width address = none := by
  have hn := wordCount_pos h.dataWidth_pos hr.width_pos
  refine slices_eq_none h.dataWidth_pos (Nat.sub_lt hn Nat.one_pos) ?_
  have hdvd : bus.slotSize.toNat ∣ address.toNat + bus.span r - 2 ^ 64 :=
    Nat.dvd_sub (Nat.dvd_add haddr (bus.slotSize_dvd_span r)) h.slotSize_dvd_top
  have hle := Nat.le_of_dvd (by omega) hdvd
  have hspan : bus.span r = (bus.wordCount r.width - 1) * bus.slotSize.toNat
      + bus.slotSize.toNat := by
    rw [← Nat.succ_mul, Nat.succ_eq_add_one, Nat.sub_add_cancel hn]
    rfl
  omega

end BusGeometry

lemma placedAt_eq_refuse {bank : String} {base offset : UInt64}
    (h : 2 ^ 64 ≤ base.toNat + offset.toNat) :
    placedAt bank base offset = refuse (.addressOverflow bank) := by
  rw [placedAt, UInt64.add?_eq_none_iff.2 h]

lemma placedAt_eq_ok {bank : String} {base offset : UInt64}
    (h : base.toNat + offset.toNat < 2 ^ 64) :
    placedAt bank base offset = .ok (base.toNat + offset.toNat).toUInt64 :=
  placedAt_eq_ok_iff.2 (UInt64.toNat_ofNat_of_lt' h)

/-- A register that ends at the top or below it takes its tiles; then the sum of the offset and its
span is what can overflow. -/
lemma placeRegisters_cons {bus : BusGeometry} (h : bus.Sound) (hslot : bus.slotSize.toNat < 2 ^ 61)
    (bank : String) {base offset : UInt64} {r : Register} (hr : r.WellFormed)
    (registers : List Register) (hend : base.toNat + offset.toNat + bus.span r ≤ 2 ^ 64) :
    placeRegisters bus bank base offset (r :: registers)
      = (monadLift (offset.add? (bus.span r).toUInt64) >>= fun next => do
          let (later, span) ← placeRegisters bus bank base next registers
          pure (bus.registerAt (base.toNat + offset.toNat) r :: later, span)) := by
  have hspan := span_pos h hr
  have hstart : base.toNat + offset.toNat < 2 ^ 64 := by omega
  have haddr : (base.toNat + offset.toNat).toUInt64.toNat = base.toNat + offset.toNat :=
    UInt64.toNat_ofNat_of_lt' hstart
  have hslices := slices_of_end_le h r (base.toNat + offset.toNat).toUInt64
    (by rw [haddr]; exact hend)
  rw [haddr] at hslices
  simp only [placeRegisters, placedAt_eq_ok hstart, Outcome.ok_bind, hslices,
    spanOf_eq h hslot hr, liftM, monadLift_some]
  rfl

/-- How the placement of registers ends that start at the top or below it. -/
theorem placeRegisters_cases {bus : BusGeometry} (h : bus.Sound)
    (hslot : bus.slotSize.toNat < 2 ^ 61) (bank : String) (base : UInt64)
    (hbase : bus.slotSize.toNat ∣ base.toNat) (registers : List Register) (offset : UInt64)
    (hwf : ∀ r ∈ registers, r.WellFormed) (hoffset : bus.slotSize.toNat ∣ offset.toNat)
    (hle : base.toNat + offset.toNat ≤ 2 ^ 64) :
    (placeRegisters bus bank base offset registers = .error .overflow ∧
        bus.RegistersOverflow base.toNat offset.toNat registers) ∨
      (placeRegisters bus bank base offset registers = refuse (.addressOverflow bank) ∧
        ¬ bus.RegistersOverflow base.toNat offset.toNat registers ∧
        2 ^ 64 < base.toNat + offset.toNat + bus.need registers) ∨
      placeRegisters bus bank base offset registers
          = .ok (bus.registersFrom (base.toNat + offset.toNat) registers,
              (offset.toNat + bus.need registers).toUInt64) ∧
        ¬ bus.RegistersOverflow base.toNat offset.toNat registers ∧
        base.toNat + offset.toNat + bus.need registers ≤ 2 ^ 64 := by
  induction registers generalizing offset with
  | nil =>
    refine .inr (.inr ⟨?_, ?_, by simpa using hle⟩)
    · simp [placeRegisters, registersFrom, pure, Except.pure]
    · rintro (hs | ⟨-, hover⟩)
      · exact hs
      · have := offset.toNat_lt
        simp at hover
        omega
  | cons r registers ih =>
    obtain ⟨hr, hwf⟩ := List.forall_mem_cons.1 hwf
    have hspos := span_pos h hr
    rcases Nat.lt_or_ge (base.toNat + offset.toNat) (2 ^ 64) with hstart | hstart
    swap
    · -- The register starts at the top; the registers before it left no room.
      rw [placeRegisters, placedAt_eq_refuse hstart, refuse_bind]
      exact .inr (.inl ⟨rfl, not_registersOverflow_of_top hstart offset.toNat_lt,
        by rw [need_cons]; omega⟩)
    have haddr : (base.toNat + offset.toNat).toUInt64.toNat = base.toNat + offset.toNat :=
      UInt64.toNat_ofNat_of_lt' hstart
    rcases Nat.lt_or_ge (2 ^ 64) (base.toNat + offset.toNat + bus.span r) with hend | hend
    · have hnone := slices_of_lt_end h hr (base.toNat + offset.toNat).toUInt64
        (by rw [haddr]; exact Nat.dvd_add hbase hoffset) (by rw [haddr]; exact hend)
      rw [placeRegisters, placedAt_eq_ok hstart, Outcome.ok_bind, hnone]
      exact .inl ⟨rfl, .inl (.inl ⟨hstart, hend⟩)⟩
    have hspan : (bus.span r).toUInt64.toNat = bus.span r :=
      UInt64.toNat_ofNat_of_lt' (span_lt h hslot hr)
    rw [placeRegisters_cons h hslot bank hr registers hend, registersOverflow_cons_iff hend]
    cases hnext : offset.add? (bus.span r).toUInt64 with
    | none =>
      have hover := UInt64.add?_eq_none_iff.1 hnext
      rw [hspan] at hover
      exact .inl ⟨rfl, .inr ⟨by omega, by omega⟩⟩
    | some next =>
      have hval := UInt64.add?_eq_some_iff.1 hnext
      rw [hspan] at hval
      have hassoc : base.toNat + next.toNat = base.toNat + offset.toNat + bus.span r := by omega
      rw [monadLift_some, Outcome.ok_bind, ← hval, need_cons, ← Nat.add_assoc, ← Nat.add_assoc,
        ← hassoc, ← hval]
      rcases ih next hwf (hval ▸ Nat.dvd_add hoffset (bus.slotSize_dvd_span r)) (by omega) with
        ⟨hrest, hw⟩ | ⟨hrest, hw, htop⟩ | ⟨hrest, hw, hfit⟩
      · rw [hrest]
        exact .inl ⟨rfl, hw⟩
      · rw [hrest]
        exact .inr (.inl ⟨rfl, hw, htop⟩)
      · rw [hrest]
        refine .inr (.inr ⟨?_, hw, hfit⟩)
        rw [registersFrom, ← hassoc]
        rfl

lemma ceilMultiple?_cases {n unit : UInt64} (hunit : 0 < unit.toNat) :
    (n.ceilMultiple? unit = none ∧ 2 ^ 64 ≤ roundUp n.toNat unit.toNat) ∨
      n.ceilMultiple? unit = some (roundUp n.toNat unit.toNat).toUInt64 ∧
        roundUp n.toNat unit.toNat < 2 ^ 64 := by
  have hne : unit ≠ 0 := by
    rintro rfl
    simp at hunit
  have hrest : n % unit = 0 ↔ n.toNat % unit.toNat = 0 := by
    rw [← UInt64.toNat_inj, UInt64.toNat_mod]
    rfl
  have hn := n.toNat_lt
  have hlt := Nat.mod_lt n.toNat hunit
  simp only [UInt64.ceilMultiple?, UInt64.mod?_eq_some hne, Option.bind_eq_bind, Option.bind_some,
    hrest]
  split
  · rename_i h0
    refine .inr ⟨?_, by rw [roundUp_of_mod_eq_zero hunit h0]; exact hn⟩
    rw [roundUp_of_mod_eq_zero hunit h0]
    exact congrArg some (UInt64.ofNat_toNat).symm
  · rename_i h0
    have hup := roundUp_of_mod_ne_zero hunit h0
    have hsub : (unit - n % unit).toNat = unit.toNat - n.toNat % unit.toNat := by
      rw [UInt64.toNat_sub_of_le _ _ (UInt64.le_iff_toNat_le.2 (by rw [UInt64.toNat_mod]; omega)),
        UInt64.toNat_mod]
    cases hadd : n.add? (unit - n % unit) with
    | none =>
      have := UInt64.add?_eq_none_iff.1 hadd
      rw [hsub] at this
      exact .inl ⟨rfl, by omega⟩
    | some c =>
      have hc := UInt64.add?_eq_some_iff.1 hadd
      have hlt := c.toNat_lt
      rw [hsub] at hc
      have hval : c.toNat = roundUp n.toNat unit.toNat := by omega
      exact .inr ⟨by rw [← hval]; exact congrArg some (UInt64.ofNat_toNat).symm, by omega⟩

/-- How the rounding of a need ends. -/
lemma bankSize_cases {bus : BusGeometry} (h : bus.Sound) (b : Bank) {span : UInt64}
    (hspan : span.toNat = bus.need b.registers) :
    (bankSize bus b.name span = .error .overflow ∧
        (∀ page, bus.rounding ≠ .paged page) ∧ 2 ^ 64 ≤ bus.extent b) ∨
      (∃ page, bus.rounding = .paged page ∧ bus.extent b < bus.need b.registers ∧
        bankSize bus b.name span = refuse (.pageOverflow b.name span page)) ∨
      bankSize bus b.name span = .ok (bus.extent b).toUInt64 ∧ bus.extent b < 2 ^ 64 ∧
        bus.need b.registers ≤ bus.extent b := by
  by_cases hpaged : ∃ page, bus.rounding = .paged page
  · obtain ⟨page, hr⟩ := hpaged
    have hext := extent_of_paged hr b
    simp only [bankSize, hr]
    split
    · rename_i hlt
      have hlt := UInt64.lt_iff_toNat_lt.1 hlt
      exact .inr (.inl ⟨page, rfl, by omega, rfl⟩)
    · rename_i hge
      rw [UInt64.lt_iff_toNat_lt] at hge
      refine .inr (.inr ⟨?_, by rw [hext]; exact page.toNat_lt, by omega⟩)
      rw [hext]
      exact congrArg Except.ok (UInt64.ofNat_toNat).symm
  · have hnot : ∀ page, bus.rounding ≠ .paged page := fun page hr => hpaged ⟨page, hr⟩
    have hext := extent_of_not_paged hnot b
    have hsize : bankSize bus b.name span = liftM (span.ceilMultiple? bus.roundingUnit) := by
      unfold bankSize
      split
      · rename_i page hr
        exact absurd hr (hnot page)
      · rfl
      · rfl
    rw [hsize, hext, ← hspan]
    rcases ceilMultiple?_cases (n := span) h.roundingUnit_pos with ⟨hc, hlt⟩ | ⟨hc, hlt⟩
    · rw [hc]
      exact .inl ⟨rfl, hnot, hlt⟩
    · rw [hc]
      exact .inr (.inr ⟨rfl, hlt, le_roundUp h.roundingUnit_pos⟩)

/-- How the placement of a well-formed bank with a name of its own ends. -/
theorem placeBank_cases {bus : BusGeometry} (h : bus.Sound) (hslot : bus.slotSize.toNat < 2 ^ 61)
    {earlier : List String} {cursor : UInt64} {b : Bank} (hwf : b.WellFormed)
    (hnew : b.name ∉ earlier) (hcursor : bus.slotSize.toNat ∣ cursor.toNat) {start : ℕ}
    (hstart : start = bus.base.toNat + cursor.toNat) (hlt : start < 2 ^ 64) :
    ((placeBank bus earlier cursor b).outcome = .error .overflow ∧ bus.BankOverflows start b) ∨
      (∃ cause, (placeBank bus earlier cursor b).outcome = refuse cause ∧
        ¬ bus.BankOverflows start b ∧ bus.Refuses start b cause) ∨
      (placeBank bus earlier cursor b).outcome = .ok (bus.bankAt start b) ∧
        bus.FitsAt start b := by
  have haddr : start.toUInt64.toNat = start := UInt64.toNat_ofNat_of_lt' hlt
  have hplaced : placedAt b.name bus.base cursor = .ok start.toUInt64 := by
    rw [placedAt_eq_ok (hstart ▸ hlt), hstart]
  have hdvd : bus.slotSize.toNat ∣ start := hstart ▸ Nat.dvd_add h.base hcursor
  simp only [placeBank, Logged.outcome_bind, liftM, Logged.outcome_monadLift,
    checkBank_eq_ok_iff.2 ⟨hwf, hnew⟩, Outcome.ofExcept_ok, Outcome.ok_bind, hplaced]
  have hregs := placeRegisters_cases h hslot b.name start.toUInt64
    (by rw [haddr]; exact hdvd) b.registers 0 hwf.registers (by simp) (by simp [haddr]; omega)
  simp only [haddr, UInt64.toNat_zero, Nat.add_zero, Nat.zero_add] at hregs
  rcases hregs with ⟨hregs, hover⟩ | ⟨hregs, hnot, htop⟩ | ⟨hregs, hnot, hfit⟩
  · rw [hregs]
    exact .inl ⟨rfl, .inl hover⟩
  · rw [hregs]
    refine .inr (.inl ⟨_, rfl, ?_, .inl ⟨rfl, .inl htop⟩⟩)
    rintro (hover | ⟨-, hle, -⟩)
    · exact hnot hover
    · omega
  have hneed : bus.need b.registers < 2 ^ 64 := by
    by_contra hge
    exact hnot (.inr ⟨by omega, by omega⟩)
  have hspan : (bus.need b.registers).toUInt64.toNat = bus.need b.registers :=
    UInt64.toNat_ofNat_of_lt' hneed
  simp only [hregs, Outcome.ok_bind]
  rcases bankSize_cases h b hspan with ⟨hsize, hpaged, hover⟩ | ⟨page, hr, hpage, hsize⟩ |
    ⟨hsize, hext, hle⟩
  · rw [hsize]
    exact .inl ⟨rfl, .inr ⟨hpaged, hfit, hover⟩⟩
  · rw [hsize]
    refine .inr (.inl ⟨_, rfl, ?_, .inr ⟨page, hr, hpage, hfit, rfl⟩⟩)
    rintro (hover | ⟨hpaged, -, -⟩)
    · exact hnot hover
    · exact hpaged page hr
  have hsize64 : (bus.extent b).toUInt64.toNat = bus.extent b := UInt64.toNat_ofNat_of_lt' hext
  simp only [hsize, Outcome.ok_bind, Logged.outcome_report]
  rcases Nat.lt_or_ge (start + bus.extent b) (2 ^ 64) with hend | hend
  · rw [placedAt_eq_ok (by rw [haddr, hsize64]; exact hend)]
    exact .inr (.inr ⟨rfl, hle, hend⟩)
  · rw [placedAt_eq_refuse (by rw [haddr, hsize64]; exact hend)]
    refine .inr (.inl ⟨_, rfl, ?_, .inl ⟨rfl, .inr ⟨hle, hend⟩⟩⟩)
    rintro (hover | ⟨-, -, hover⟩)
    · exact hnot hover
    · omega

/-- A bank that fits is placed. -/
lemma placeBank_of_fitsAt {bus : BusGeometry} (h : bus.Sound)
    (hslot : bus.slotSize.toNat < 2 ^ 61) {earlier : List String} {cursor : UInt64} {b : Bank}
    (hwf : b.WellFormed) (hnew : b.name ∉ earlier) (hcursor : bus.slotSize.toNat ∣ cursor.toNat)
    (hfit : bus.FitsAt (bus.base.toNat + cursor.toNat) b) :
    (placeBank bus earlier cursor b).outcome
      = .ok (bus.bankAt (bus.base.toNat + cursor.toNat) b) := by
  have hneed := hfit.need_le
  have hend := hfit.end_lt
  rcases placeBank_cases h hslot hwf hnew hcursor rfl (by omega) with
    ⟨-, hover⟩ | ⟨cause, -, hnot, hrefuses⟩ | ⟨hok, -⟩
  · exact absurd hover hfit.not_overflows
  · rcases hrefuses with ⟨-, htop | ⟨-, htop⟩⟩ | ⟨page, -, hlt, -⟩ <;> omega
  · exact hok

/-- Banks that fit are placed, and the placement goes on behind them. -/
theorem placeBanks_append {bus : BusGeometry} (h : bus.Sound)
    (hslot : bus.slotSize.toNat < 2 ^ 61) (front : List Bank) (earlier : List String)
    (cursor : UInt64) (rest : List Bank) (hwf : ∀ b ∈ front, b.WellFormed)
    (hnames : (front.map (·.name)).Nodup) (hnew : ∀ b ∈ front, b.name ∉ earlier)
    (hneed : ∀ b ∈ front, bus.need b.registers ≤ bus.extent b)
    (hcursor : bus.slotSize.toNat ∣ cursor.toNat)
    (hend : bus.base.toNat + cursor.toNat + bus.total front < 2 ^ 64) :
    (placeBanks bus earlier cursor (front ++ rest)).outcome
      = (placeBanks bus ((front.map (·.name)).reverse ++ earlier)
          (cursor.toNat + bus.total front).toUInt64 rest).outcome >>= fun placed =>
        .ok (bus.banksFrom (bus.base.toNat + cursor.toNat) front ++ placed.1, placed.2) := by
  induction front generalizing earlier cursor with
  | nil =>
    have hcur : (cursor.toNat + bus.total []).toUInt64 = cursor := UInt64.ofNat_toNat
    rw [List.nil_append, List.map_nil, List.reverse_nil, List.nil_append, hcur]
    cases (placeBanks bus earlier cursor rest).outcome <;> rfl
  | cons b front ih =>
    obtain ⟨hb, hwf⟩ := List.forall_mem_cons.1 hwf
    obtain ⟨hbnew, hnew⟩ := List.forall_mem_cons.1 hnew
    obtain ⟨hbneed, hneed⟩ := List.forall_mem_cons.1 hneed
    rw [List.map_cons, List.nodup_cons] at hnames
    rw [total_cons] at hend
    have hfit : bus.FitsAt (bus.base.toNat + cursor.toNat) b := ⟨hbneed, by omega⟩
    have hbank := placeBank_of_fitsAt h hslot hb hbnew hcursor hfit
    have hext : (bus.extent b).toUInt64.toNat = bus.extent b :=
      UInt64.toNat_ofNat_of_lt' (by simp only [UInt64.size]; omega)
    have hnext : (cursor.toNat + bus.extent b).toUInt64.toNat = cursor.toNat + bus.extent b :=
      UInt64.toNat_ofNat_of_lt' (by simp only [UInt64.size]; omega)
    have hadd : cursor.add? (bus.bankAt (bus.base.toNat + cursor.toNat) b).size
        = some (cursor.toNat + bus.extent b).toUInt64 := by
      rw [UInt64.add?_eq_some_iff, hnext]
      exact congrArg (cursor.toNat + ·) hext.symm
    have hdvd : bus.slotSize.toNat ∣ (cursor.toNat + bus.extent b).toUInt64.toNat := by
      rw [hnext]
      exact Nat.dvd_add hcursor (h.slotSize_dvd.trans (bus.roundingUnit_dvd_extent b))
    have hlater : ∀ c ∈ front, c.name ∉ b.name :: earlier := by
      intro c hc
      rw [List.mem_cons, not_or]
      exact ⟨fun he => hnames.1 (he ▸ List.mem_map_of_mem hc), hnew c hc⟩
    have hstep := ih (b.name :: earlier) (cursor.toNat + bus.extent b).toUInt64 hwf hnames.2
      hlater hneed hdvd (by rw [hnext]; omega)
    rw [hnext] at hstep
    rw [List.cons_append]
    simp only [placeBanks, Logged.outcome_bind, hbank, Outcome.ok_bind, liftM,
      Logged.outcome_monadLift, hadd, monadLift_some, hstep]
    rw [List.map_cons, List.reverse_cons, List.append_assoc, List.singleton_append, total_cons,
      ← Nat.add_assoc, banksFrom, ← Nat.add_assoc]
    cases (placeBanks bus ((front.map (·.name)).reverse ++ b.name :: earlier)
      (cursor.toNat + bus.extent b + bus.total front).toUInt64 rest).outcome <;> rfl

end CsrMap
