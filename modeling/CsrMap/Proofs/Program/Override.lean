import CsrMap.Proofs.Program.Steps
import CsrMap.Proofs.Soc.Finished

/-!
Options for the bus, and inputs that have the same values in their place.

On the board an option is as good as the choice that it replaces. A blueprint is told apart: the
bus that it describes is checked before the options replace any of it, and what is left of the
options is checked after the declarations. So an option cannot stand for a value that makes the
described bus fail, and everywhere else it can, up to which of two errors is told.
-/

namespace CsrMap

open CommandLine Files

/-! ### Inputs with the values of the options -/

/-- The options without those for the bus. -/
def CommandLine.Source.withoutBus (source : Source) : Source :=
  { source with dataWidth := none, base := none }

/-- The blueprint with the values of the options in the place of its own. -/
def Blueprint.overridden (source : Source) (b : Blueprint) : Blueprint :=
  { b with
    bus :=
      { b.bus with
        dataWidth := source.dataWidth.or b.bus.dataWidth
        base := (source.base.map .word).or b.bus.base } }

/-- The choices with the values of the options in the place of their own. -/
def Board.Choices.overridden (source : Source) (choices : Board.Choices) : Board.Choices :=
  { choices with
    dataWidth := source.dataWidth.getD choices.dataWidth
    base := source.base.getD choices.base }

namespace Program

variable {α β : Type} {w w' : World} {path : String} {source : Source}

/-- A blueprint leads to its system, unless there are options for the board. -/
lemma answer_of_description (source : Source) {b : Blueprint}
    (hpath : source.description = some path) (hread : ReadsAs w path Blueprint.read b) :
    answer source w = if source.ethernet || source.config.isSome then refuse .boardOptionsOnly
      else told (describedSoc source b).outcome := by
  rw [answer, chosenSoc, hpath]
  cases hboard : source.ethernet || source.config.isSome with
  | true =>
    simp only [if_true]
    rfl
  | false =>
    simp only [Bool.false_eq_true, if_false]
    rw [run_bind (run_readInput hread), run_logged]

lemma answer_of_config (source : Source) {choices : Board.Choices}
    (hnone : source.description = none) (hpath : source.config = some path)
    (hread : ReadsAs w path Board.Choices.read choices) :
    answer source w = told (boardSoc source choices).outcome := by
  rw [answer, chosenSoc, hnone]
  simp only [hpath]
  rw [run_bind (run_readInput hread), run_logged]

/-! ### The system of a blueprint -/

section Described

variable {b : Blueprint} {bus bus' : BusGeometry} {failure other : Failure ConfigError}

lemma outcome_describedSoc (source : Source) (b : Blueprint) :
    (describedSoc source b).outcome = b.geometry {} >>= fun bus =>
      b.declarations >>= fun d => d.complete (overrideBus source bus) := by
  simp only [describedSoc, Logged.outcome_bind, liftM, Logged.outcome_monadLift]
  rfl

/-- A bus that fails by itself is not saved by options. -/
lemma described_of_error (h : b.geometry {} = .error failure) :
    (describedSoc source b).outcome = .error failure := by
  rw [outcome_describedSoc, h, Outcome.error_bind]

/-- A bus that the options make fail stops a completion at its start. -/
lemma complete_of_check_eq_error {d : Declarations} (h : bus.check = .error failure) :
    d.complete bus = .error failure := by
  rw [Declarations.complete_eq, AddressMap.ofBanks_of_check_eq_error h, Outcome.error_bind]

/-- Only a base that is written can fail to resolve. -/
lemma resolve_eq_ok_iff {written : WrittenBus} :
    written.resolve {} = .ok bus ↔ ∃ base : UInt64,
      (∀ q, written.base = some q → q.value = .ok base) ∧ (written.base = none → base = 0) ∧
      bus = ⟨written.dataWidth.getD 32, written.slotSize.getD 4, base,
        written.rounding.getD .slot, written.laneOrder.getD .highFirst⟩ := by
  unfold WrittenBus.resolve
  cases written.base with
  | none =>
    constructor
    · rintro h
      cases h
      exact ⟨0, nofun, fun _ => rfl, rfl⟩
    · rintro ⟨base, -, hbase, rfl⟩
      rw [hbase rfl]
      rfl
  | some q =>
    constructor
    · rintro h
      obtain ⟨base, hbase, heq⟩ := bind_eq_ok_iff.1 h
      cases heq
      refine ⟨base, fun q' hq => ?_, nofun, rfl⟩
      cases hq
      exact hbase
    · rintro ⟨base, hbase, -, rfl⟩
      exact bind_eq_ok_iff.2 ⟨base, hbase q rfl, rfl⟩

lemma resolve_overridden (source : Source) (h : b.bus.resolve {} = .ok bus) :
    (b.overridden source).bus.resolve {} = .ok (overrideBus source bus) := by
  obtain ⟨base, hvalue, hnone, rfl⟩ := resolve_eq_ok_iff.1 h
  refine resolve_eq_ok_iff.2 ⟨source.base.getD base, ?_, ?_, ?_⟩
  · intro q hq
    cases hgiven : source.base with
    | none =>
      simp only [Blueprint.overridden, hgiven, Option.map_none, Option.none_or] at hq
      exact hvalue q hq
    | some given =>
      simp only [Blueprint.overridden, hgiven, Option.map_some, Option.some_or] at hq
      cases hq
      rfl
  · intro hbase
    simp only [Blueprint.overridden, Option.or_eq_none_iff, Option.map_eq_none_iff] at hbase
    rw [hbase.1]
    exact hnone hbase.2
  · have hwidth : (source.dataWidth.or b.bus.dataWidth).getD 32
        = source.dataWidth.getD (b.bus.dataWidth.getD 32) := by
      cases source.dataWidth <;> rfl
    rw [overrideBus, ← hwidth]
    rfl

/-- Where the described bus is good, options written into the blueprint lead to the bus that they
lead to beside it. -/
lemma geometry_overridden (h : b.geometry {} = .ok bus) :
    (b.overridden source).geometry {} =
      (overrideBus source bus).check >>= fun _ => .ok (overrideBus source bus) := by
  obtain ⟨bus', hresolve, h⟩ := bind_eq_ok_iff.1 h
  obtain ⟨u, -, heq⟩ := bind_eq_ok_iff.1 h
  cases heq
  have hresolve := resolve_overridden source (Declarations.ofExcept_eq_ok_iff.1 hresolve)
  rw [Blueprint.geometry, hresolve]
  rfl

lemma described_overridden (h : b.geometry {} = .ok bus) :
    (describedSoc source.withoutBus (b.overridden source)).outcome =
      (overrideBus source bus).check >>= fun _ =>
        b.declarations >>= fun d => d.complete (overrideBus source bus) := by
  rw [outcome_describedSoc, geometry_overridden h]
  cases (overrideBus source bus).check <;> rfl

/-- Where the described bus is good, and what the options make of it or what the blueprint
declares is too, the options are as good as the values in their place. -/
lemma described_of_ok (h : b.geometry {} = .ok bus)
    (hgood : (∃ bus', (b.overridden source).geometry {} = .ok bus') ∨
      ∃ d, b.declarations = .ok d) :
    (describedSoc source b).outcome
      = (describedSoc source.withoutBus (b.overridden source)).outcome := by
  rw [described_overridden h, outcome_describedSoc, h, Outcome.ok_bind]
  cases hcheck : (overrideBus source bus).check with
  | ok u => rw [Outcome.ok_bind]
  | error failure =>
    rw [Outcome.error_bind]
    rcases hgood with ⟨bus', hbus⟩ | ⟨d, hd⟩
    · rw [geometry_overridden h, hcheck] at hbus
      cases hbus
    · rw [hd, Outcome.ok_bind, complete_of_check_eq_error hcheck]

/-- Where the options make a good bus fail and a declaration fails as well, the one is told of the
blueprint with their values and the other beside the options. -/
lemma described_of_both (source : Source) (h : b.geometry {} = .ok bus)
    (hbad : (b.overridden source).geometry {} = .error failure)
    (hother : b.declarations = .error other) :
    (describedSoc source b).outcome = .error other ∧
      (describedSoc source.withoutBus (b.overridden source)).outcome = .error failure := by
  constructor
  · rw [outcome_describedSoc, h, Outcome.ok_bind, hother, Outcome.error_bind]
  · exact described_of_error hbad

end Described

/-! ### The answers -/

/-- **An option for the bus is as good as the value in its place** on the board, and for a
blueprint whose bus is good as it is described, unless both the bus with the options and a
declaration fail. A described bus that fails is the answer whatever the options are. -/
theorem answer_overridden (source : Source) (w w' : World) (path : String) :
    (∀ choices, source.description = none → source.config = some path →
      ReadsAs w path Board.Choices.read choices →
      ReadsAs w' path Board.Choices.read (choices.overridden source) →
      answer source w = answer source.withoutBus w') ∧
    ∀ b, source.description = some path → ReadsAs w path Blueprint.read b →
      ReadsAs w' path Blueprint.read (b.overridden source) →
      (∀ bus, b.geometry {} = .ok bus →
        (∃ bus', (b.overridden source).geometry {} = .ok bus') ∨ (∃ d, b.declarations = .ok d) →
        answer source w = answer source.withoutBus w') ∧
      (source.ethernet = false → source.config = none →
        (∀ failure, b.geometry {} = .error failure → answer source w = told (.error failure)) ∧
        ∀ bus failure other, b.geometry {} = .ok bus →
          (b.overridden source).geometry {} = .error failure → b.declarations = .error other →
          answer source w = told (.error other) ∧
          answer source.withoutBus w' = told (.error failure)) := by
  refine ⟨fun choices hnone hpath hread hread' => ?_, fun b hpath hread hread' => ?_⟩
  · rw [answer_of_config source hnone hpath hread,
      answer_of_config source.withoutBus hnone hpath hread']
    rfl
  · have hanswer := answer_of_description source hpath hread
    have hanswer' := answer_of_description source.withoutBus hpath hread'
    refine ⟨fun bus hbus hgood => ?_, fun hethernet hconfig => ?_⟩
    · rw [hanswer, hanswer', described_of_ok hbus hgood]
      rfl
    · have hboard : (source.ethernet || source.config.isSome) = false := by
        rw [hethernet, hconfig]
        rfl
      have hboard' : (source.withoutBus.ethernet || source.withoutBus.config.isSome) = false :=
        hboard
      rw [hanswer, hanswer', hboard, hboard']
      refine ⟨fun failure h => ?_, fun bus failure other h hbad hother => ?_⟩
      · rw [if_neg Bool.false_ne_true, described_of_error h]
      · obtain ⟨hleft, hright⟩ := described_of_both source h hbad hother
        rw [if_neg Bool.false_ne_true, if_neg Bool.false_ne_true, hleft, hright]
        exact ⟨rfl, rfl⟩

/-! ### One register on a bus of a given width -/

/-- The text of a blueprint with one register. -/
def oneRegisterText (dataWidth : String) : String :=
  "bus: \x7bdata_width: " ++ dataWidth ++ "\x7d\nbanks: [\x7bname: \"a\", csrs: "
    ++ "[\x7bname: \"r\", width: 8, access: \"storage\"\x7d]\x7d]"

/-- The blueprint of `oneRegisterText`. -/
def oneRegister (dataWidth : UInt32) : Blueprint :=
  { bus := { dataWidth := some dataWidth }
    banks := [⟨"a", [⟨"r", 8, .storage, [], 0, none⟩], false⟩] }

/-- A width of 8 for one of 32, and for one of 12, which no bus has. -/
theorem answer_overridden_width :
    answer { description := some "soc", dataWidth := some 8 }
        (holdingFile "soc" (oneRegisterText "32"))
      = answer { description := some "soc" }
        (holdingFile "soc" (oneRegisterText "8")) ∧
    answer { description := some "soc", dataWidth := some 8 }
        (holdingFile "soc" (oneRegisterText "12"))
      = refuse (.refused (.invalidBus (.dataWidth 12))) := by
  have h8 := readsAs_holdingFile
    (show Blueprint.read (oneRegisterText "8") = .ok (oneRegister 8) by decide +kernel)
  have h32 := readsAs_holdingFile
    (show Blueprint.read (oneRegisterText "32") = .ok (oneRegister 32) by decide +kernel)
  have h12 := readsAs_holdingFile
    (show Blueprint.read (oneRegisterText "12") = .ok (oneRegister 12) by decide +kernel)
  constructor
  · exact ((answer_overridden { description := some "soc", dataWidth := some 8 } _ _ _).2
      (oneRegister 32) rfl h32 h8).1 {} (by decide +kernel)
        (.inl ⟨{ dataWidth := 8 }, by decide +kernel⟩)
  · exact (((answer_overridden { description := some "soc", dataWidth := some 8 } _ _ _).2
      (oneRegister 12) rfl h12 h8).2 rfl rfl).1 (.refused (.invalidBus (.dataWidth 12)))
      (by decide +kernel)

/-- An option is not always as good as the value in its place: a width of 12 that a width of 8
replaces is refused. -/
theorem answer_not_overridden : ¬ ∀ (source : Source) (w w' : World) (path : String)
    (b : Blueprint), source.description = some path → ReadsAs w path Blueprint.read b →
    ReadsAs w' path Blueprint.read (b.overridden source) →
    answer source w = answer source.withoutBus w' := by
  intro hsame
  have h8 := readsAs_holdingFile
    (show Blueprint.read (oneRegisterText "8") = .ok (oneRegister 8) by decide +kernel)
  have h12 := readsAs_holdingFile
    (show Blueprint.read (oneRegisterText "12") = .ok (oneRegister 12) by decide +kernel)
  have heq := hsame { description := some "soc", dataWidth := some 8 } _ _ _ _ rfl h12 h8
  rw [answer_of_description _ rfl h12, answer_of_description _ rfl h8] at heq
  exact absurd heq (by decide +kernel)

end Program

end CsrMap
