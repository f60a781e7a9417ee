import FleetMonitor.Ticker

/-!
# Timelines

A world that acts at instants of a clock: at each it settles, and then nothing
happens before the next instant at which some part of it wakes up.
-/

set_option autoImplicit false

namespace FleetMonitor

structure Timed (σ : Type) where
  settle : Span → σ → σ
  wake? : σ → Option Span

structure Moment (σ : Type) where
  now : Span
  state : σ

namespace Timed

variable {σ : Type}

/-- The world at the next instant at which it wakes up, if it does so in the
future. -/
def jump? (timed : Timed σ) (moment : Moment σ) : Option (Moment σ) := do
  let wake ← timed.wake? moment.state
  if moment.now.nanos < wake.nanos then some ⟨wake, moment.state⟩ else none

/-- Goes on up to an instant.  `fuel` bounds the instants at which the world
acts. -/
def advance (timed : Timed σ) (target : Span) : Nat → Moment σ → Moment σ
  | 0, moment => ⟨target, moment.state⟩
  | fuel + 1, moment =>
      let settled : Moment σ := ⟨moment.now, timed.settle moment.now moment.state⟩
      match timed.jump? settled with
      | some next =>
          if next.now.nanos ≤ target.nanos then advance timed target fuel next
          else ⟨target, settled.state⟩
      | none => ⟨target, settled.state⟩

def sleep (timed : Timed σ) (millis : Nat) (moment : Moment σ) : Moment σ :=
  timed.advance ⟨moment.now.nanos + millis * 1000000⟩ (millis + 1) moment

/-- Goes on until the state is as wanted, or nothing happens any more.  `fuel`
bounds the instants at which the world acts. -/
def await (timed : Timed σ) (wanted : σ → Bool) : Nat → Moment σ → Moment σ
  | 0, moment => moment
  | fuel + 1, moment =>
      let settled : Moment σ := ⟨moment.now, timed.settle moment.now moment.state⟩
      if wanted settled.state then settled
      else
        match timed.jump? settled with
        | some next => await timed wanted fuel next
        | none => settled

end Timed

end FleetMonitor
