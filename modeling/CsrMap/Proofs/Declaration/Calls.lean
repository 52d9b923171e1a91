import CsrMap.Peripheral.Memory
import CsrMap.Peripheral.Stream
import CsrMap.Proofs.Declaration.Reachable
import Mathlib.Logic.Relation

/-!
Declarations that calls can make, whether the calls succeed, are refused or stop half way.

A call is one operation or one core, and a core is a row of operations. However a row ends, it has
only added to what is declared, so what stands after any calls is well formed and stays where it
is.
-/

namespace CsrMap

/-! ### Growth -/

namespace Declarations

/-- What additions one after another make of the declarations. -/
abbrev Grows : Declarations → Declarations → Prop := Relation.ReflTransGen Adds

/-- All that is declared stands in `next` at the same place. -/
structure StartOf (d next : Declarations) : Prop where
  banks : d.banks <+: next.banks
  interrupts : d.interrupts.entries <+: next.interrupts.entries
  regions : d.regions <+: next.regions
  constants : d.constants <+: next.constants

variable {d next : Declarations}

lemma WellFormed.grows (hd : d.WellFormed) (h : Grows d next) : next.WellFormed := by
  induction h with
  | refl => exact hd
  | tail _ h ih => exact ih.adds h

lemma Adds.startOf (h : d.Adds next) : d.StartOf next := by
  cases h with
  | bank => exact ⟨List.prefix_append _ _, List.prefix_rfl, List.prefix_rfl, List.prefix_rfl⟩
  | interrupt => exact ⟨List.prefix_rfl, List.prefix_append _ _, List.prefix_rfl, List.prefix_rfl⟩
  | region => exact ⟨List.prefix_rfl, List.prefix_rfl, List.prefix_append _ _, List.prefix_rfl⟩
  | constant => exact ⟨List.prefix_rfl, List.prefix_rfl, List.prefix_rfl, List.prefix_append _ _⟩

/-- **Additions leave earlier declarations** as they are and where they are. -/
theorem startOf_of_grows (h : Grows d next) : d.StartOf next := by
  induction h with
  | refl => exact ⟨List.prefix_rfl, List.prefix_rfl, List.prefix_rfl, List.prefix_rfl⟩
  | tail _ h ih =>
    have h := h.startOf
    exact ⟨ih.banks.trans h.banks, ih.interrupts.trans h.interrupts, ih.regions.trans h.regions,
      ih.constants.trans h.constants⟩

end Declarations

/-! ### Rows of declarations -/

namespace Declaring

open Declarations

variable {α β : Type} {row : Declaring α} {rest : α → Declaring β}

/-- However the row ends, it has only added to the declarations. -/
def OnlyAdds (row : Declaring α) : Prop := ∀ d : Declarations, Grows d (row.run d).2

/-- A row that only adds, and that answers with the position of a bank that it added where
`index` gives one. -/
structure HandsOut (row : Declaring α) (index : α → Option ℕ) : Prop where
  onlyAdds : row.OnlyAdds
  position : ∀ (d : Declarations) (a : α) (i : ℕ), (row.run d).1 = .ok a → index a = some i →
    d.banks.length ≤ i ∧ i < (row.run d).2.banks.length

/-- A row that only adds, and whose answers hold the position `i`. -/
structure Passes (row : Declaring α) (index : α → Option ℕ) (i : Option ℕ) : Prop where
  onlyAdds : row.OnlyAdds
  answer : ∀ (d : Declarations) (a : α), (row.run d).1 = .ok a → index a = i

lemma run_bind (row : Declaring α) (rest : α → Declaring β) (d : Declarations) :
    (row >>= rest).run d = match row.run d with
      | (.ok a, next) => (rest a).run next
      | (.error failure, next) => (.error failure, next) := by
  show (ExceptT.bindCont rest (row.run d).1) (row.run d).2 = _
  rcases row.run d with ⟨_ | _, next⟩ <;> rfl

@[simp] lemma onlyAdds_pure (a : α) : (pure a : Declaring α).OnlyAdds := fun _ => .refl

/-- An answer that is there already adds nothing. -/
lemma onlyAdds_lift (x : Outcome ConfigError α) : (liftM x : Declaring α).OnlyAdds :=
  fun _ => .refl

lemma OnlyAdds.bind (h : row.OnlyAdds) (hrest : ∀ a, (rest a).OnlyAdds) :
    (row >>= rest).OnlyAdds := by
  intro d
  have hd := h d
  rw [run_bind]
  rcases hrow : row.run d with ⟨failure | a, next⟩
  · rw [hrow] at hd
    exact hd
  · rw [hrow] at hd
    exact hd.trans (hrest a next)

/-- A row that is one operation adds what the operation adds. -/
lemma onlyAdds_ofOperation {operation : Declarations → Except ConfigError (Declarations × α)}
    (h : ∀ d next a, operation d = .ok (next, a) → d.Adds next) :
    (ofOperation operation).OnlyAdds := by
  intro d
  show Grows d (ofOperation operation d).2
  cases hd : operation d with
  | error cause =>
    rw [ofOperation_error hd]
  | ok p =>
    rw [ofOperation_ok hd]
    exact .single (h d p.1 p.2 hd)

lemma onlyAdds_bank (name : String) (registers : List Register) :
    (bank name registers).OnlyAdds :=
  onlyAdds_ofOperation fun _ _ _ h => (withBank_eq_ok h).1

lemma onlyAdds_interrupt (name peripheral : String) : (interrupt name peripheral).OnlyAdds :=
  onlyAdds_ofOperation fun _ _ _ h => (withInterrupt_eq_ok h).1

/-- An operation without an answer of its own. -/
lemma eq_ok_of_map {x : Except ConfigError Declarations} {next : Declarations} {u : Unit}
    (h : (·, ()) <$> x = .ok (next, u)) : x = .ok next := by
  cases x with
  | error cause => cases h
  | ok d =>
    cases h
    rfl

lemma onlyAdds_region (r : Region) : (region r).OnlyAdds :=
  onlyAdds_ofOperation fun _ _ _ h => (withRegion_eq_ok (eq_ok_of_map h)).1

lemma onlyAdds_constant (name : String) (value : Payload) : (constant name value).OnlyAdds :=
  onlyAdds_ofOperation fun _ _ _ h => (withConstant_eq_ok (eq_ok_of_map h)).1

/-! ### Positions that are handed out -/

variable {index : α → Option ℕ} {other : β → Option ℕ} {position : Option ℕ}

lemma passes_pure {a : α} (h : index a = position) :
    (pure a : Declaring α).Passes index position := by
  refine ⟨onlyAdds_pure a, fun d b hb => ?_⟩
  cases hb
  exact h

lemma OnlyAdds.passes (h : row.OnlyAdds) (hrest : ∀ a, (rest a).Passes other position) :
    (row >>= rest).Passes other position := by
  refine ⟨h.bind fun a => (hrest a).onlyAdds, fun d b hb => ?_⟩
  rw [run_bind] at hb
  rcases hrow : row.run d with ⟨failure | a, next⟩
  · rw [hrow] at hb
    cases hb
  · rw [hrow] at hb
    exact (hrest a).answer next b hb

lemma handsOut_bank (name : String) (registers : List Register) :
    (bank name registers).HandsOut some := by
  refine ⟨onlyAdds_bank name registers, fun d a i ha hi => ?_⟩
  cases hi
  change (ofOperation (·.withBank name registers) d).1 = .ok a at ha
  change _ ∧ a < (ofOperation (·.withBank name registers) d).2.banks.length
  cases hd : d.withBank name registers with
  | error cause =>
    rw [ofOperation_error hd] at ha
    cases ha
  | ok p =>
    obtain ⟨next, added⟩ := p
    rw [ofOperation_ok hd] at ha ⊢
    cases ha
    obtain ⟨-, hbanks, hindex⟩ := withBank_eq_ok hd
    rw [hindex, hbanks, List.length_append, List.length_singleton]
    omega

/-- What follows passes the position on, and its bank stays. -/
lemma HandsOut.bind (h : row.HandsOut index) (hrest : ∀ a, (rest a).Passes other (index a)) :
    (row >>= rest).HandsOut other := by
  refine ⟨h.onlyAdds.bind fun a => (hrest a).onlyAdds, fun d b i hb hi => ?_⟩
  rw [run_bind] at hb ⊢
  have hd := h.position d
  rcases hrow : row.run d with ⟨failure | a, next⟩
  · rw [hrow] at hb
    cases hb
  · rw [hrow] at hb hd
    have hindex := (hrest a).answer next b hb
    obtain ⟨hlow, hhigh⟩ := hd a i rfl (hindex ▸ hi)
    have hgrows := startOf_of_grows ((hrest a).onlyAdds next)
    exact ⟨hlow, hhigh.trans_le hgrows.banks.length_le⟩

/-- A bank that is added later is also added by the whole. -/
lemma OnlyAdds.handsOut (h : row.OnlyAdds) (hrest : ∀ a, (rest a).HandsOut other) :
    (row >>= rest).HandsOut other := by
  refine ⟨h.bind fun a => (hrest a).onlyAdds, fun d b i hb hi => ?_⟩
  rw [run_bind] at hb ⊢
  have hd := h d
  rcases hrow : row.run d with ⟨failure | a, next⟩
  · rw [hrow] at hb
    cases hb
  · rw [hrow] at hb hd
    obtain ⟨hlow, hhigh⟩ := (hrest a).position next b i hb hi
    exact ⟨(startOf_of_grows hd).banks.length_le.trans hlow, hhigh⟩

lemma OnlyAdds.handsOut_none (h : row.OnlyAdds) : row.HandsOut fun _ => none :=
  ⟨h, nofun⟩

/-- A row that answers with the position itself. -/
lemma HandsOut.map (h : row.HandsOut index) : (index <$> row).HandsOut id := by
  rw [map_eq_pure_bind]
  exact h.bind fun a => passes_pure rfl

end Declaring

/-! ### Cores -/

namespace Peripheral

open Declaring

lemma handsOut_interrupting (name : String) (registers : List Register) :
    (interrupting name registers).HandsOut fun core => some core.1 :=
  (handsOut_bank name registers).bind fun _ =>
    (onlyAdds_interrupt name name).passes fun _ => passes_pure rfl

lemma handsOut_commandInjector (g : MemoryGeometry) : (commandInjector g).HandsOut some :=
  (onlyAdds_lift _).handsOut fun _ => handsOut_bank _ _

lemma handsOut_ethernetMac (origin : UInt64) :
    (ethernetMac origin).HandsOut fun core => some core.1 :=
  (handsOut_interrupting _ _).bind fun _ => (onlyAdds_region _).passes fun _ =>
    (onlyAdds_constant _ _).passes fun _ => (onlyAdds_constant _ _).passes fun _ =>
      (onlyAdds_constant _ _).passes fun _ => passes_pure rfl

lemma handsOut_audioSlave (name : String) (direction : Direction) (origin : UInt64) :
    (audioSlave name direction origin).HandsOut fun core => some core.1 :=
  (handsOut_interrupting _ _).bind fun _ => (onlyAdds_region _).passes fun _ => passes_pure rfl

end Peripheral

/-! ### Calls -/

/-- What can be asked of the declarations: one of the four operations, or a core. -/
inductive Call where
  | bank (name : String) (registers : List Register)
  | interrupt (name peripheral : String)
  | region (region : Region)
  | constant (name : String) (value : Payload)
  | control
  | serialPort (name : String)
  | timer (name : String) (width : UInt32)
  | inputPins (name : String) (width : UInt32)
  | outputPins (name : String) (width : UInt32)
  | inputOutputPins (name : String) (inputs outputs : UInt32)
  | readLevelling (dataBits : UInt32)
  | commandInjector (g : Peripheral.MemoryGeometry)
  | ethernetPhy
  | ethernetMac (origin : UInt64)
  | audioSlave (name : String) (direction : Peripheral.Direction) (origin : UInt64)

namespace Call

open Declaring Peripheral

/-- The row of a call; it answers with the position of the bank that it hands out, if any. -/
def row : Call → Declaring (Option ℕ)
  | bank name registers => some <$> Declaring.bank name registers
  | interrupt name peripheral => (fun _ => none) <$> Declaring.interrupt name peripheral
  | region r => (fun _ => none) <$> Declaring.region r
  | constant name value => (fun _ => none) <$> Declaring.constant name value
  | control => some <$> Peripheral.control
  | serialPort name => (some ·.1) <$> Peripheral.serialPort name
  | timer name width => (some ·.1) <$> Peripheral.timer name width
  | inputPins name width => some <$> Peripheral.inputPins name width
  | outputPins name width => some <$> Peripheral.outputPins name width
  | inputOutputPins name inputs outputs => some <$> Peripheral.inputOutputPins name inputs outputs
  | readLevelling dataBits => some <$> Peripheral.readLevelling dataBits
  | commandInjector g => some <$> Peripheral.commandInjector g
  | ethernetPhy => some <$> Peripheral.ethernetPhy
  | ethernetMac origin => (some ·.1) <$> Peripheral.ethernetMac origin
  | audioSlave name direction origin => (some ·.1) <$> Peripheral.audioSlave name direction origin

/-- What a call makes of the declarations, however it ends. -/
def perform (c : Call) (d : Declarations) : Declarations := (c.row.run d).2

/-- **Every call only adds**, and hands out the position of a bank that it added. -/
theorem handsOut_row (c : Call) : c.row.HandsOut id := by
  cases c with
  | bank => exact (handsOut_bank _ _).map
  | interrupt => exact (onlyAdds_interrupt _ _).handsOut_none.map
  | region => exact (onlyAdds_region _).handsOut_none.map
  | constant => exact (onlyAdds_constant _ _).handsOut_none.map
  | control | inputPins | outputPins | inputOutputPins | readLevelling | ethernetPhy =>
    exact (handsOut_bank _ _).map
  | serialPort | timer => exact (handsOut_interrupting _ _).map
  | commandInjector g => exact (handsOut_commandInjector g).map
  | ethernetMac origin => exact (handsOut_ethernetMac origin).map
  | audioSlave name direction origin => exact (handsOut_audioSlave name direction origin).map

lemma grows_perform (c : Call) (d : Declarations) : Declarations.Grows d (c.perform d) :=
  c.handsOut_row.onlyAdds d

end Call

namespace Declarations

/-- What calls one after another make of the declarations. -/
def after (d : Declarations) (calls : List Call) : Declarations :=
  calls.foldl (fun d c => c.perform d) d

variable {d : Declarations}

@[simp] lemma after_nil : d.after [] = d := rfl

@[simp] lemma after_cons (c : Call) (calls : List Call) :
    d.after (c :: calls) = (c.perform d).after calls := rfl

lemma grows_after (d : Declarations) (calls : List Call) : Grows d (d.after calls) := by
  induction calls generalizing d with
  | nil => exact .refl
  | cons c calls ih => exact (c.grows_perform d).trans (ih _)

/-- **Calls make well-formed declarations only.** -/
theorem wellFormed_after (calls : List Call) : (after {} calls).WellFormed :=
  wellFormed_empty.grows (grows_after {} calls)

end Declarations

end CsrMap
