import FleetMonitor.Routine
import FleetMonitor.Verdict

/-!
# Evaluation

Every expression of a check is evaluated for itself and the verdicts are
reduced.  What cannot be read counts as bad: a missing metric, a series without
history, a store that fails, a host that cannot be reached.
-/

set_option autoImplicit false

namespace FleetMonitor

inductive EvaluationError where
  | query (cause : StoreError)
  | list (cause : StoreError)
deriving DecidableEq, Repr

def EvaluationError.message : EvaluationError → String
  | query cause => "failed to run hosts query: " ++ cause.message
  | list cause => "failed to load hosts list: " ++ cause.message

namespace Evaluation

def exceeds (e : MetricThreshold) (host : Host) : Bool :=
  match host.metric? e.metric with
  | some value => e.operator.holds value e.value
  | none => true

def raw (e : MetricThreshold) (hosts : List Host) : Outcome :=
  if hosts.isEmpty then .noHosts
  else .tally e.minHost (hosts.map fun host => (host.name, exceeds e host))

/-- A value against the history of its metric: it is bad without a positive
history, and otherwise by its percentage of it. -/
def exceedsHistory (e : RelativeThreshold) (current : Float) :
    Option (Except StoreError (Option Summary)) → Option Bool
  | none => none
  | some (.ok (some summary)) =>
      let historical := summary.value e.aggregate
      some (decide (historical ≤ 0) ||
        e.operator.holds (current / historical * 100) e.value)
  | some _ => some true

def relativeHost (clusterId : Int) (e : RelativeThreshold) (metricId : Option Int)
    (host : Host) : Routine Bool :=
  match metricId, host.metric? e.metric with
  | some metricId, some current => do
      let history ← .request (.aggregate clusterId metricId host.name e.range)
      .within (exceedsHistory e current history)
  | _, _ => pure true

def relativeHosts (clusterId : Int) (e : RelativeThreshold) (metricId : Option Int) :
    List Host → Routine (List (String × Bool))
  | [] => pure []
  | host :: rest => do
      let bad ← relativeHost clusterId e metricId host
      let verdicts ← relativeHosts clusterId e metricId rest
      pure ((host.name, bad) :: verdicts)

def relative (clusterId : Int) (e : RelativeThreshold) (hosts : List Host) :
    Routine Outcome :=
  if hosts.isEmpty then pure .noHosts
  else do
    let found ← .request (.metricId clusterId e.metric)
    let verdicts ← relativeHosts clusterId e (found.toOption.bind id) hosts
    pure (.tally e.minHost verdicts)

/-- A count of lines is bad by a threshold; so is a count that failed. -/
def exceedsCount (e : LogThreshold) : Except StoreError Nat → Bool
  | .ok count => e.operator.holds count.toFloat e.value
  | .error _ => true

def logHosts (clusterId : Int) (e : LogThreshold) (since : Instant) :
    List String → Routine (List (String × Bool))
  | [] => pure []
  | hostname :: rest => do
      let count ← .request (.countMatching clusterId hostname e.search since)
      let verdicts ← logHosts clusterId e since rest
      pure ((hostname, exceedsCount e count) :: verdicts)

def log (clusterId : Int) (e : LogThreshold) (targets : List String) : Routine Outcome :=
  if targets.isEmpty then pure .noHosts
  else do
    let now ← .request .now
    let since ← .within (now.minutesBefore? e.range)
    let verdicts ← logHosts clusterId e since targets
    pure (.tally e.minHost verdicts)

def probe (probe : Probe) (targets : List String) : Routine Outcome :=
  if targets.isEmpty then pure .noHosts
  else do
    let reach ← .request (.probe probe targets)
    pure (.tally probe.minHost (targets.zip ((List.ofFn reach).map Reach.isBad)))

/-- The hosts that logs and probes look at: the listed ones, and if there are
none the resolved ones. -/
def targets (check : Check) (hosts : List Host) : List String :=
  if check.listedHosts.isEmpty then hosts.map (·.name) else check.listedHosts

def expression (check : Check) (hosts : List Host) : ExpressionKind → Routine Outcome
  | .raw e => pure (raw e hosts)
  | .relative e => relative check.clusterId e hosts
  | .log e => log check.clusterId e (targets check hosts)
  | .ping e => probe (.ping e) (targets check hosts)
  | .ssh e => probe (.ssh e) (targets check hosts)
  | .http e => probe (.http e) (targets check hosts)
  | .operator _ => pure .empty

def expressions (check : Check) (hosts : List Host) :
    List Expression → Routine (List Expression)
  | [] => pure []
  | e :: rest => do
      let result ← expression check hosts e.kind
      let evaluated ← expressions check hosts rest
      pure ({ e with result } :: evaluated)

def resolve (freshness : Span) (check : Check) :
    Routine (Except EvaluationError (List Host)) :=
  match check.hosts with
  | .query text => do
      let hosts ← .request (.queryHosts check.clusterId text freshness)
      pure (hosts.mapError .query)
  | .list names => do
      let hosts ← .request (.hostsByNames check.clusterId names)
      pure (hosts.mapError .list)

def evaluate (freshness : Span) (check : Check) :
    Routine (Except EvaluationError (List Expression × Bool)) := do
  match ← resolve freshness check with
  | .error e => pure (.error e)
  | .ok hosts =>
      let evaluated ← expressions check hosts check.expressions
      pure (.ok (evaluated, Verdict.reduce evaluated))

end Evaluation

end FleetMonitor
