import FleetMonitor.Span

/-!
# Tickers

A ticker is due again and again in a fixed period.  A tick that comes late makes
up for nothing: the next one is back on the grid of the first.  Times are lengths
of time since the start of the clock.
-/

set_option autoImplicit false

namespace FleetMonitor

namespace Span

/-- A time after another one, if clocks go that far: their seconds fit 63 bits. -/
def after? (now span : Span) : Option Span :=
  if (now.nanos + span.nanos) / second < 0x8000000000000000 then some ⟨now.nanos + span.nanos⟩ else none

/-- A time that is as good as never: thirty years ahead. -/
def remote (now : Span) : Span :=
  ⟨now.nanos + 30 * 365 * 86400 * second⟩

/-- Clocks show whole milliseconds: the first time shown that is not before a
time. -/
def ceilMilli (time : Span) : Span :=
  ⟨(time.nanos + 999999) / 1000000 * 1000000⟩

def earliest (times : List Span) : Option Span :=
  times.foldl
    (fun best time =>
      match best with
      | none => some time
      | some other => if time.nanos < other.nanos then some time else some other)
    none

end Span

structure Ticker where
  deadline : Span
  period : Span
deriving DecidableEq, Repr, Inhabited

namespace Ticker

def start (now period : Span) : Ticker :=
  ⟨now, period⟩

def start? (now period : Span) : Option Ticker :=
  if period.isZero then none else some (start now period)

def restart? (now period : Span) : Option Ticker :=
  (now.after? period).map fun deadline => ⟨deadline, period⟩

def due (ticker : Ticker) (now : Span) : Bool :=
  ticker.deadline.nanos ≤ now.nanos

def tolerance : Nat := 5000000

/-- The ticker after a tick.  A tick in time is followed by one a period later; a
late one by the first on its grid that is still to come.  There is none if the
clock does not go that far. -/
def next? (ticker : Ticker) (now : Span) : Option Ticker :=
  if tolerance < now.nanos - ticker.deadline.nanos then
    (now.after? ticker.period).map fun ahead =>
      { ticker with
        deadline :=
          ⟨ahead.nanos - (now.nanos - ticker.deadline.nanos) % ticker.period.nanos⟩ }
  else
    some
      { ticker with
        deadline := (ticker.deadline.after? ticker.period).getD now.remote }

/-- How many ticks can be taken at a time before the ticker is no longer due. -/
def backlog (ticker : Ticker) (now : Span) : Nat :=
  if ticker.due now then (now.nanos - ticker.deadline.nanos) / ticker.period.nanos + 1 else 0

end Ticker

end FleetMonitor
