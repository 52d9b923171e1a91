import CsrMap.Completion
import Mathlib.Tactic.Common

/-!
What a completion warns of.

The placement of banks and the end of a completion only tell what was done. A warning stands for an
interrupt whose peripheral has no bank.
-/

namespace CsrMap

/-! ### Warnings of a computation -/

namespace Logged

variable {ε α β : Type} {p : Event → Prop} {x : Logged ε α} {f : α → Logged ε β}

/-- All warnings of the computation, however it ends, are among those that `p` allows. -/
def WarnsOnly (p : Event → Prop) (x : Logged ε α) : Prop :=
  ∀ e ∈ x.events, e.level = .warn → p e

lemma warnsOnly_pure (a : α) : WarnsOnly p (pure a : Logged ε α) := by simp [WarnsOnly]

/-- What does not report does not warn. -/
lemma warnsOnly_lift (y : Outcome ε α) : WarnsOnly p (liftM y : Logged ε α) := nofun

lemma warnsOnly_report {e : Event} (h : e.level = .warn → p e) :
    WarnsOnly p (report e : Logged ε Unit) := by
  simpa [WarnsOnly] using h

lemma WarnsOnly.bind (hx : WarnsOnly p x) (hf : ∀ a, WarnsOnly p (f a)) :
    WarnsOnly p (x >>= f) := by
  change WarnsOnly p (Logged.bind x f)
  unfold Logged.bind
  split
  · rename_i a _
    exact fun e he => (List.mem_append.1 he).elim (hx e) (hf a e)
  · exact hx

lemma warnsOnly_forM {ι : Type} {is : List ι} {act : ι → Logged ε Unit}
    (h : ∀ i ∈ is, WarnsOnly p (act i)) : WarnsOnly p (is.forM act) := by
  induction is with
  | nil => exact warnsOnly_pure ()
  | cons i is ih =>
    exact (h i (by simp)).bind fun _ => ih fun j hj => h j (by simp [hj])

end Logged

open Logged

/-! ### Warnings of a completion -/

section Placement

variable {p : Event → Prop} (bus : BusGeometry)

lemma warnsOnly_placeBank (earlier : List String) (cursor : UInt64) (bank : Bank) :
    WarnsOnly p (placeBank bus earlier cursor bank) := by
  unfold placeBank
  refine (warnsOnly_lift _).bind fun _ => (warnsOnly_lift _).bind fun base =>
    (warnsOnly_lift _).bind fun placed => (warnsOnly_lift _).bind fun size =>
    (warnsOnly_report nofun).bind fun _ => (warnsOnly_lift _).bind fun _ => warnsOnly_pure _

lemma warnsOnly_placeBanks (banks : List Bank) (earlier : List String) (cursor : UInt64) :
    WarnsOnly p (placeBanks bus earlier cursor banks) := by
  induction banks generalizing earlier cursor with
  | nil => exact warnsOnly_pure _
  | cons bank banks ih =>
    exact (warnsOnly_placeBank bus earlier cursor bank).bind fun placed =>
      (warnsOnly_lift _).bind fun next => (ih _ next).bind fun later => warnsOnly_pure _

lemma warnsOnly_ofBanksLogged (banks : List Bank) :
    WarnsOnly p (AddressMap.ofBanksLogged banks bus) :=
  (warnsOnly_lift _).bind fun _ => (warnsOnly_placeBanks bus banks [] 0).bind fun _ =>
    warnsOnly_pure _

end Placement

namespace Declarations

/-- **A completion warns** of interrupts without a bank and of nothing else. -/
theorem completeLogged_warnsOnly (d : Declarations) (bus : BusGeometry) :
    (d.completeLogged bus).WarnsOnly fun e =>
      ∃ i ∈ d.strayInterrupts, e = .strayInterrupt i.name i.peripheral := by
  unfold completeLogged
  refine (warnsOnly_ofBanksLogged bus d.banks).bind fun map => (warnsOnly_lift _).bind fun _ =>
    (warnsOnly_lift _).bind fun _ => WarnsOnly.bind ?_ fun _ => ?_
  · exact warnsOnly_forM fun i hi => warnsOnly_report fun _ => ⟨i, hi, rfl⟩
  · dsimp only
    split
    · exact (warnsOnly_lift _).bind fun _ => (warnsOnly_report nofun).bind fun _ =>
        warnsOnly_pure _
    · exact (warnsOnly_report nofun).bind fun _ => warnsOnly_pure _

end Declarations

end CsrMap
