import FleetMonitor.Json.Decode

/-!
# Comparisons, aggregates and junctions

The three small vocabularies of expressions: how an observed value is compared
with a threshold, how history is condensed, and how verdicts are joined.
-/

set_option autoImplicit false

namespace FleetMonitor

inductive Comparison where
  | greater | greaterOrEqual | equal | less | lessOrEqual
deriving DecidableEq, Repr, Inhabited

namespace Comparison

/-- The comparison holds: the host is bad. -/
def holds : Comparison → Float → Float → Bool
  | greater, observed, threshold => observed > threshold
  | greaterOrEqual, observed, threshold => observed >= threshold
  | equal, observed, threshold => observed == threshold
  | less, observed, threshold => observed < threshold
  | lessOrEqual, observed, threshold => observed <= threshold

def symbol : Comparison → String
  | greater => ">"
  | greaterOrEqual => ">="
  | equal => "="
  | less => "<"
  | lessOrEqual => "<="

def choices : List (Decoder.Choice Comparison) :=
  [⟨[">"], greater⟩, ⟨[">="], greaterOrEqual⟩, ⟨["=", "=="], equal⟩, ⟨["<"], less⟩,
   ⟨["<="], lessOrEqual⟩]

def decode : Decoder Comparison :=
  Decoder.named choices

end Comparison

/-- How the samples of a metric are condensed to one number. -/
inductive Aggregate where
  | avg | max | min | sum
deriving DecidableEq, Repr, Inhabited

namespace Aggregate

def name : Aggregate → String
  | avg => "avg"
  | max => "max"
  | min => "min"
  | sum => "sum"

def choices : List (Decoder.Choice Aggregate) :=
  [⟨["avg"], avg⟩, ⟨["max"], max⟩, ⟨["min"], min⟩, ⟨["sum"], sum⟩]

def decode : Decoder Aggregate :=
  Decoder.named choices

end Aggregate

/-- How a verdict is joined to those before it. -/
inductive Junction where
  | and | or
deriving DecidableEq, Repr, Inhabited

namespace Junction

def name : Junction → String
  | and => "and"
  | or => "or"

def apply : Junction → Bool → Bool → Bool
  | and, a, b => a && b
  | or, a, b => a || b

def choices : List (Decoder.Choice Junction) :=
  [⟨["AND", "and"], and⟩, ⟨["OR", "or"], or⟩]

def decode : Decoder Junction :=
  Decoder.named choices

end Junction

end FleetMonitor
