import CsrMap.Outcome
import CsrMap.Text.Numeral

/-!
Events that are worth telling while a map is built and used, and computations that report them.

A computation keeps the events it reported before it failed, so a log also explains a failure.
-/

namespace CsrMap

open Numeral

inductive Event where
  | bankPlaced (bank : String) (base size : UInt64) (registers : Nat)
  | strayInterrupt (interrupt peripheral : String)
  | mapFinished (banks : Nat) (size base : UInt64) (interrupts : Nat)
  | writeDropped (value : UInt64) (register : String)
  | boardChosen (ethernet : Bool) (dataWidth : UInt32)
  deriving DecidableEq, Repr

inductive Level where
  | debug
  | info
  | warn
  deriving DecidableEq, Repr

def Level.label : Level → String
  | .debug => "DEBUG"
  | .info => "INFO"
  | .warn => "WARN"

def Event.level : Event → Level
  | .bankPlaced .. => .debug
  | .strayInterrupt .. => .warn
  | .mapFinished .. => .info
  | .writeDropped .. => .debug
  | .boardChosen .. => .debug

def Event.text : Event → String
  | .bankPlaced bank base size registers =>
    "bank " ++ bank ++ " at " ++ marked base.toNat ++ " size " ++ marked size.toNat ++ " ("
      ++ decimal registers ++ " registers)"
  | .strayInterrupt interrupt peripheral =>
    "interrupt " ++ interrupt ++ " belongs to " ++ peripheral ++ ", which has no CSR bank"
  | .mapFinished banks size base interrupts =>
    "CSR map: " ++ decimal banks ++ " banks, " ++ marked size.toNat ++ " bytes at "
      ++ marked base.toNat ++ ", " ++ decimal interrupts ++ " interrupts"
  | .writeDropped value register =>
    "dropping write of " ++ marked value.toNat ++ " to status register " ++ register
  | .boardChosen ethernet dataWidth =>
    "building arty soc (ethernet: " ++ (if ethernet then "true" else "false")
      ++ ", csr data width: " ++ decimal dataWidth.toNat ++ ")"

def Event.line (e : Event) : String := e.level.label ++ " " ++ e.text

/-- An outcome with the events reported on the way to it. -/
structure Logged (ε α : Type) where
  events : List Event
  outcome : Outcome ε α

namespace Logged

variable {ε α β : Type}

def bind (x : Logged ε α) (f : α → Logged ε β) : Logged ε β :=
  match x.outcome with
  | .ok a => ⟨x.events ++ (f a).events, (f a).outcome⟩
  | .error failure => ⟨x.events, .error failure⟩

instance : Monad (Logged ε) where
  pure a := ⟨[], .ok a⟩
  bind := bind

instance : MonadLift (Except (Failure ε)) (Logged ε) where
  monadLift x := ⟨[], x⟩

def report (e : Event) : Logged ε Unit := ⟨[e], .ok ()⟩

@[simp] theorem outcome_pure (a : α) : (pure a : Logged ε α).outcome = .ok a := rfl

@[simp] theorem events_pure (a : α) : (pure a : Logged ε α).events = [] := rfl

@[simp] theorem outcome_report (e : Event) : (report e : Logged ε Unit).outcome = .ok () := rfl

@[simp] theorem events_report (e : Event) : (report e : Logged ε Unit).events = [e] := rfl

@[simp] theorem outcome_monadLift (x : Outcome ε α) :
    (monadLift x : Logged ε α).outcome = x := rfl

@[simp] theorem events_monadLift (x : Outcome ε α) :
    (monadLift x : Logged ε α).events = [] := rfl

/-- The events of a computation do not change how it ends. -/
@[simp] theorem outcome_bind (x : Logged ε α) (f : α → Logged ε β) :
    (x >>= f).outcome = x.outcome >>= fun a => (f a).outcome := by
  show (bind x f).outcome = _
  unfold bind
  cases h : x.outcome <;> rfl

end Logged

end CsrMap
