import FleetMonitor.Cycle
import FleetMonitor.Proofs.Course

/-!
# What an evaluation asks

An evaluation observes: it asks for the time, for hosts and what is stored of them, and
tries whether they are alive.  It writes no record, asks for no violations, and has
nothing to do with the keys of incidents or the ways out.
-/

set_option autoImplicit false

namespace FleetMonitor

open Routine

def Request.observes : Request → Bool
  | now => true
  | queryHosts _ _ _ => true
  | hostsByNames _ _ => true
  | metricId _ _ => true
  | aggregate _ _ _ _ => true
  | countMatching _ _ _ _ => true
  | probe _ _ => true
  | retentionDays _ _ => true
  | _ => false

abbrev Routine.Observes {α : Type} (routine : Routine α) : Prop :=
  Asks (fun request => request.observes = true) routine

theorem Routine.Observes.request (request : Request) (observing : request.observes = true) :
    (Routine.request request).Observes :=
  Asks.request request observing

namespace Evaluation

theorem relativeHost_observes (clusterId : Int) (e : RelativeThreshold) (metricId : Option Int)
    (host : Host) : (relativeHost clusterId e metricId host).Observes := by
  unfold relativeHost
  split
  · exact (Observes.request _ rfl).bind fun history => .within _
  · exact .done true

theorem relativeHosts_observes (clusterId : Int) (e : RelativeThreshold) (metricId : Option Int)
    (hosts : List Host) : (relativeHosts clusterId e metricId hosts).Observes := by
  induction hosts with
  | nil => exact .done []
  | cons host rest ih =>
      exact (relativeHost_observes clusterId e metricId host).bind fun bad =>
        ih.bind fun verdicts => .done _

theorem relative_observes (clusterId : Int) (e : RelativeThreshold) (hosts : List Host) :
    (relative clusterId e hosts).Observes := by
  unfold relative
  split
  · exact .done _
  · refine (Observes.request _ rfl).bind fun found => ?_
    exact (relativeHosts_observes clusterId e _ hosts).bind fun verdicts => .done _

theorem logHosts_observes (clusterId : Int) (e : LogThreshold) (since : Instant)
    (targets : List String) : (logHosts clusterId e since targets).Observes := by
  induction targets with
  | nil => exact .done []
  | cons hostname rest ih =>
      exact (Observes.request _ rfl).bind fun count => ih.bind fun verdicts => .done _

theorem log_observes (clusterId : Int) (e : LogThreshold) (targets : List String) :
    (log clusterId e targets).Observes := by
  unfold log
  split
  · exact .done _
  · refine (Observes.request _ rfl).bind fun now => (Asks.within _).bind fun since => ?_
    exact (logHosts_observes clusterId e since targets).bind fun verdicts => .done _

theorem probe_observes (request : Probe) (targets : List String) :
    (probe request targets).Observes := by
  unfold probe
  split
  · exact .done _
  · exact (Observes.request _ rfl).bind fun reach => .done _

theorem expression_observes (check : Check) (hosts : List Host) (kind : ExpressionKind) :
    (expression check hosts kind).Observes := by
  cases kind with
  | raw e => exact .done _
  | relative e => exact relative_observes check.clusterId e hosts
  | log e => exact log_observes check.clusterId e _
  | ping e => exact probe_observes (.ping e) _
  | ssh e => exact probe_observes (.ssh e) _
  | http e => exact probe_observes (.http e) _
  | operator junction => exact .done _

theorem expressions_observes (check : Check) (hosts : List Host) (list : List Expression) :
    (expressions check hosts list).Observes := by
  induction list with
  | nil => exact .done []
  | cons e rest ih =>
      exact (expression_observes check hosts e.kind).bind fun outcome =>
        ih.bind fun evaluated => .done _

theorem resolve_observes (freshness : Span) (check : Check) :
    (resolve freshness check).Observes := by
  unfold resolve
  split <;> exact (Observes.request _ rfl).bind fun hosts => .done _

theorem evaluate_observes (freshness : Span) (check : Check) :
    (evaluate freshness check).Observes := by
  refine (resolve_observes freshness check).bind fun hosts => ?_
  cases hosts with
  | error cause => exact .done _
  | ok hosts =>
      exact (expressions_observes check hosts check.expressions).bind fun evaluated => .done _

end Evaluation

namespace Pipeline

theorem retention_observes (pipeline : Pipeline) (check : Check) :
    (pipeline.retention check).Observes := by
  refine (Observes.request _ rfl).bind fun days => ?_
  cases days with
  | error cause => exact .within _
  | ok days => cases days <;> exact .within _

end Pipeline

end FleetMonitor
