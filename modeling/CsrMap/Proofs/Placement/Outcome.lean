import CsrMap.Proofs.Placement.Steps
import Mathlib.Data.List.Induction

/-!
How the placement of banks on a bus ends, for every list of banks and every geometry.

Placement succeeds exactly where the geometry is sound, its slots are narrow enough for the check
and the banks fit; the map is then the layout. Otherwise the first bank that does not fit decides
the answer. `Overflows` is the exact condition under which word arithmetic leaves its range.
-/

namespace CsrMap

open BusGeometry

/-- A property of the empty list holds of the whole list or is lost at some element. -/
lemma exists_first_failure {α : Type} {P : List α → Prop} (hnil : P []) (xs : List α) :
    P xs ∨ ∃ front x back, xs = front ++ x :: back ∧ P front ∧ ¬ P (front ++ [x]) := by
  induction xs using List.reverseRecOn with
  | nil => exact .inl hnil
  | append_singleton xs x ih =>
    rcases ih with hxs | ⟨front, y, back, rfl, hfront, hnot⟩
    · by_cases hx : P (xs ++ [x])
      · exact .inl hx
      · exact .inr ⟨xs, x, [], rfl, hxs, hx⟩
    · exact .inr ⟨front, y, back ++ [x], by simp, hfront, hnot⟩

namespace BusGeometry

/-- Word arithmetic leaves its range in the placement of `banks`: in the number of bits of a
slot, or at the first bank that does not fit. -/
def Overflows (bus : BusGeometry) (banks : List Bank) : Prop :=
  bus.SlotTooWide ∨
    (bus.Sound ∧ bus.slotSize.toNat < 2 ^ 61 ∧ ∃ front b back, banks = front ++ b :: back ∧
      bus.Fits front ∧ b.WellFormed ∧ b.name ∉ front.map (·.name) ∧
      bus.BankOverflows (bus.base.toNat + bus.total front) b)

end BusGeometry

namespace AddressMap

variable {bus : BusGeometry} {banks front back : List Bank} {b : Bank}

lemma ofBanks_of_check_eq_error {failure : Failure ConfigError}
    (h : bus.check = .error failure) : ofBanks banks bus = .error failure := by
  simp only [ofBanks, ofBanksLogged, Logged.outcome_bind, liftM, Logged.outcome_monadLift, h,
    Outcome.error_bind]

lemma ofBanks_append (h : bus.Sound) (hslot : bus.slotSize.toNat < 2 ^ 61)
    (hfit : bus.Fits front) (rest : List Bank) :
    ofBanks (front ++ rest) bus
      = (placeBanks bus (front.map (·.name)).reverse (bus.total front).toUInt64 rest).outcome
        >>= fun placed =>
          .ok ⟨bus.base, placed.2, bus.banksFrom bus.base.toNat front ++ placed.1⟩ := by
  have hplaced := placeBanks_append h hslot front [] 0 rest hfit.wellFormed hfit.names
    (fun b _ => by simp) hfit.need_le (by simp) (by simpa using hfit.end_lt)
  simp only [UInt64.toNat_zero, Nat.add_zero, Nat.zero_add, List.append_nil] at hplaced
  simp only [ofBanks, ofBanksLogged, Logged.outcome_bind, liftM, Logged.outcome_monadLift,
    check_eq_ok_iff.2 ⟨h, hslot⟩, Outcome.ok_bind, hplaced]
  cases (placeBanks bus (front.map (·.name)).reverse (bus.total front).toUInt64 rest).outcome <;>
    rfl

/-- Banks that fit are laid end to end. -/
theorem ofBanks_of_fits (h : bus.Sound) (hslot : bus.slotSize.toNat < 2 ^ 61)
    (hfit : bus.Fits banks) : ofBanks banks bus = .ok (bus.layout banks) := by
  have := ofBanks_append h hslot hfit []
  rw [List.append_nil] at this
  rw [this]
  simp only [placeBanks, Logged.outcome_pure, Outcome.ok_bind, List.append_nil]
  rfl

lemma toNat_total (hfit : bus.Fits banks) :
    (bus.total banks).toUInt64.toNat = bus.total banks :=
  UInt64.toNat_ofNat_of_lt' (by have := hfit.end_lt; simp only [UInt64.size]; omega)

/-- The first bank that cannot be placed decides the answer. -/
lemma ofBanks_of_placeBank_eq_error (h : bus.Sound) (hslot : bus.slotSize.toNat < 2 ^ 61)
    (hfit : bus.Fits front) {failure : Failure ConfigError}
    (hb : (placeBank bus (front.map (·.name)).reverse (bus.total front).toUInt64 b).outcome
      = .error failure) : ofBanks (front ++ b :: back) bus = .error failure := by
  rw [ofBanks_append h hslot hfit]
  simp only [placeBanks, Logged.outcome_bind, hb, Outcome.error_bind]

/-- How the placement ends where a well-formed bank follows banks that fit. -/
lemma ofBanks_cases (h : bus.Sound) (hslot : bus.slotSize.toNat < 2 ^ 61)
    (hfit : bus.Fits front) (hwf : b.WellFormed) (hnew : b.name ∉ front.map (·.name))
    (back : List Bank) :
    (ofBanks (front ++ b :: back) bus = .error .overflow ∧
        bus.BankOverflows (bus.base.toNat + bus.total front) b) ∨
      (∃ cause, ofBanks (front ++ b :: back) bus = refuse cause ∧
        ¬ bus.BankOverflows (bus.base.toNat + bus.total front) b ∧
        bus.Refuses (bus.base.toNat + bus.total front) b cause) ∨
      bus.FitsAt (bus.base.toNat + bus.total front) b := by
  have htotal := toNat_total hfit
  have hdvd : bus.slotSize.toNat ∣ (bus.total front).toUInt64.toNat :=
    by rw [htotal]; exact slotSize_dvd_total h front
  have hreverse : b.name ∉ (front.map (·.name)).reverse := by simpa using hnew
  rcases placeBank_cases h hslot hwf hreverse hdvd (by rw [htotal]) hfit.end_lt with
    ⟨hb, hover⟩ | ⟨cause, hb, hnot, hrefuses⟩ | ⟨-, hok⟩
  · exact .inl ⟨ofBanks_of_placeBank_eq_error h hslot hfit hb, hover⟩
  · exact .inr (.inl ⟨cause, ofBanks_of_placeBank_eq_error h hslot hfit hb, hnot, hrefuses⟩)
  · exact .inr (.inr hok)

/-- A bank that is not well formed, or whose name is taken, is refused. -/
lemma ofBanks_of_not_wellFormed (h : bus.Sound) (hslot : bus.slotSize.toNat < 2 ^ 61)
    (hfit : bus.Fits front) (hnot : ¬ (b.WellFormed ∧ b.name ∉ front.map (·.name)))
    (back : List Bank) : ∃ cause, ofBanks (front ++ b :: back) bus = refuse cause := by
  cases hcheck : checkBank (front.map (·.name)).reverse b with
  | ok u =>
    have := checkBank_eq_ok_iff.1 hcheck
    rw [List.mem_reverse] at this
    exact absurd this hnot
  | error cause =>
    refine ⟨cause, ofBanks_of_placeBank_eq_error h hslot hfit ?_⟩
    simp only [placeBank, Logged.outcome_bind, liftM, Logged.outcome_monadLift, hcheck,
      Outcome.ofExcept_error, refuse_bind]
    rfl

/-- What decides the placement of banks that do not all fit. -/
lemma exists_first_misfit (h : ¬ bus.Fits banks) :
    ∃ front b back, banks = front ++ b :: back ∧ bus.Fits front ∧
      (¬ (b.WellFormed ∧ b.name ∉ front.map (·.name)) ∨
        ¬ bus.FitsAt (bus.base.toNat + bus.total front) b) := by
  rcases exists_first_failure (Fits.nil bus) banks with hfit |
    ⟨front, b, back, rfl, hfit, hnot⟩
  · exact absurd hfit h
  · rw [Fits.snoc_iff] at hnot
    refine ⟨front, b, back, rfl, hfit, ?_⟩
    by_contra hboth
    rw [not_or, not_not, not_not] at hboth
    exact hnot ⟨hfit, hboth⟩

/-- **Placement succeeds** exactly for banks that fit on a sound geometry; the map is their
layout. -/
theorem ofBanks_eq_ok_iff {m : AddressMap} : ofBanks banks bus = .ok m ↔
    (bus.Sound ∧ bus.slotSize.toNat < 2 ^ 61 ∧ bus.Fits banks) ∧ m = bus.layout banks := by
  constructor
  · intro hok
    rcases check_cases bus with ⟨-, h, hslot⟩ | ⟨hcheck, -⟩ | ⟨⟨flaw, hcheck⟩, -, -⟩
    · by_cases hfit : bus.Fits banks
      · rw [ofBanks_of_fits h hslot hfit] at hok
        exact ⟨⟨h, hslot, hfit⟩, (Except.ok.inj hok).symm⟩
      · obtain ⟨front, b, back, rfl, hfront, hnot⟩ := exists_first_misfit hfit
        by_cases hwf : b.WellFormed ∧ b.name ∉ front.map (·.name)
        · rcases ofBanks_cases h hslot hfront hwf.1 hwf.2 back with
            ⟨herr, -⟩ | ⟨cause, herr, -⟩ | hat
          · rw [herr] at hok
            cases hok
          · rw [herr] at hok
            cases hok
          · exact absurd hat (hnot.resolve_left (not_not.2 hwf))
        · obtain ⟨cause, herr⟩ := ofBanks_of_not_wellFormed h hslot hfront hwf back
          rw [herr] at hok
          cases hok
    · rw [ofBanks_of_check_eq_error hcheck] at hok
      cases hok
    · rw [ofBanks_of_check_eq_error hcheck] at hok
      cases hok
  · rintro ⟨⟨h, hslot, hfit⟩, rfl⟩
    exact ofBanks_of_fits h hslot hfit

/-- Word arithmetic leaves its range exactly where `Overflows` says so. -/
theorem ofBanks_eq_overflow_iff :
    ofBanks banks bus = .error .overflow ↔ bus.Overflows banks := by
  rcases check_cases bus with ⟨-, h, hslot⟩ | ⟨hcheck, hwide⟩ | ⟨⟨flaw, hcheck⟩, hbad, hnarrow⟩
  · have hnarrow : ¬ bus.SlotTooWide := fun hw => by have := hw.2.2; omega
    constructor
    · intro hover
      by_cases hfit : bus.Fits banks
      · rw [ofBanks_of_fits h hslot hfit] at hover
        cases hover
      · obtain ⟨front, b, back, rfl, hfront, hnot⟩ := exists_first_misfit hfit
        by_cases hwf : b.WellFormed ∧ b.name ∉ front.map (·.name)
        · rcases ofBanks_cases h hslot hfront hwf.1 hwf.2 back with
            ⟨-, hb⟩ | ⟨cause, herr, -⟩ | hat
          · exact .inr ⟨h, hslot, front, b, back, rfl, hfront, hwf.1, hwf.2, hb⟩
          · rw [herr] at hover
            cases hover
          · exact absurd hat (hnot.resolve_left (not_not.2 hwf))
        · obtain ⟨cause, herr⟩ := ofBanks_of_not_wellFormed h hslot hfront hwf back
          rw [herr] at hover
          cases hover
    · rintro (hwide | ⟨-, -, front, b, back, rfl, hfront, hwf, hnew, hb⟩)
      · exact absurd hwide hnarrow
      · rcases ofBanks_cases h hslot hfront hwf hnew back with
          ⟨herr, -⟩ | ⟨-, -, hnot, -⟩ | hat
        · exact herr
        · exact absurd hb hnot
        · exact absurd hb hat.not_overflows
  · rw [ofBanks_of_check_eq_error hcheck]
    exact ⟨fun _ => .inl hwide, fun _ => rfl⟩
  · rw [ofBanks_of_check_eq_error hcheck]
    refine ⟨nofun, ?_⟩
    rintro (hwide | ⟨h, -⟩)
    · exact absurd hwide hnarrow
    · exact absurd h hbad

/-- **Placement answers** unless word arithmetic leaves its range: it refuses a geometry that is
not sound, and the first bank that does not fit by its name. -/
theorem ofBanks_answers (banks : List Bank) (bus : BusGeometry) :
    (ofBanks banks bus = .error .overflow ↔ bus.Overflows banks) ∧
      (¬ bus.Overflows banks →
        ((∃ m, ofBanks banks bus = .ok m) ∨ ∃ cause, ofBanks banks bus = refuse cause) ∧
        (¬ bus.Sound → ∃ flaw, ofBanks banks bus = refuse (.invalidBus flaw)) ∧
        (bus.Sound → ∀ front b back, banks = front ++ b :: back → bus.Fits front →
          b.WellFormed → b.name ∉ front.map (·.name) →
          ¬ bus.FitsAt (bus.base.toNat + bus.total front) b →
          ∃ cause, ofBanks banks bus = refuse cause ∧
            bus.Refuses (bus.base.toNat + bus.total front) b cause)) := by
  refine ⟨ofBanks_eq_overflow_iff, fun hnot => ⟨?_, ?_, ?_⟩⟩
  · rw [← ofBanks_eq_overflow_iff] at hnot
    rcases hend : ofBanks banks bus with (_ | cause) | m
    · exact absurd hend hnot
    · exact .inr ⟨cause, rfl⟩
    · exact .inl ⟨m, rfl⟩
  · intro hbad
    rcases check_cases bus with ⟨-, h, -⟩ | ⟨-, hwide⟩ | ⟨⟨flaw, hcheck⟩, -, -⟩
    · exact absurd h hbad
    · exact absurd (.inl hwide) hnot
    · exact ⟨flaw, ofBanks_of_check_eq_error hcheck⟩
  · rintro h front b back rfl hfront hwf hnew hmisfit
    have hslot : bus.slotSize.toNat < 2 ^ 61 := by
      by_contra hge
      exact hnot (.inl ⟨h.dataWidth, h.slotSize, by omega⟩)
    rcases ofBanks_cases h hslot hfront hwf hnew back with
      ⟨-, hb⟩ | ⟨cause, herr, -, hrefuses⟩ | hat
    · exact absurd (.inr ⟨h, hslot, front, b, back, rfl, hfront, hwf, hnew, hb⟩) hnot
    · exact ⟨cause, herr, hrefuses⟩
    · exact absurd hat hmisfit

/-- A register of two words at the last slot: the address of its second word is no address, and
this is not told as a bank that does not fit. -/
theorem ofBanks_word_above_top :
    ofBanks [⟨"a", [⟨"r", 64, .storage, [], 0, none⟩]⟩] { base := 0xfffffffffffffffc }
      = .error .overflow := by
  decide +kernel

end AddressMap

end CsrMap
