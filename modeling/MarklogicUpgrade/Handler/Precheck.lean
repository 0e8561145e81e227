import MarklogicUpgrade.Api.Types

/-!
# The precheck handler

`PrecheckHandler` of `internal/handler/precheck_handler.go`: the report types, the summary a
report carries, and the handler's two entry points as the code has them. `StartPrechecks`
records an event and succeeds; `CheckPrecheckStatus` reports the checks complete at once, with
the fixed battery of `generateMockPrecheckResults` (only the forest check depends on the
`skip-forest-check` annotation).

The workflow calls these two through `Collaborators`, which lets every statement about it hold
for *any* answer of the precheck runner; `Collaborators.ofCode` plugs in the code's own. A
completed check always carries its report here: the code's `CheckPrecheckStatus` never
returns `(true, nil, nil)`, on which `handlePrecheckStartState` would dereference a nil
pointer.

The summary is the only computation: `canProceed` is `failed == 0`. No code path reads it.
-/

namespace MarklogicUpgrade

/-- `PrecheckResult`: one named check. `Details` and `Remediation` are `omitempty`. -/
structure PrecheckResult where
  name : String
  status : String
  message : String
  details : String := ""
  timestamp : Time
  duration : String
  remediation : String := ""
deriving DecidableEq, Repr

/-- `PrecheckSummary`. -/
structure PrecheckSummary where
  total : Int
  passed : Int
  warnings : Int
  failed : Int
  canProceed : Bool
deriving DecidableEq, Repr

/-- `PrecheckResults`: the report stored in the `precheck-results` annotation. -/
structure PrecheckResults where
  results : List PrecheckResult
  summary : PrecheckSummary
  timestamp : Time
  clusterRef : String
deriving DecidableEq, Repr

namespace PrecheckHandler

/-- The summary block of `generateMockPrecheckResults`: one pass over the results counting
each status, and `canProceed := failed == 0`. -/
def summarize (results : List PrecheckResult) : PrecheckSummary :=
  let failed := (results.filter fun r ↦ r.status = "FAIL").length
  { total := results.length
    passed := (results.filter fun r ↦ r.status = "PASS").length
    warnings := (results.filter fun r ↦ r.status = "WARN").length
    failed := failed
    canProceed := failed = 0 }

/-- `generateMockPrecheckResults`: the eight checks, all stamped with the invocation's clock. -/
def generateMockPrecheckResults (now : Time) (cluster : MarklogicCluster)
    (skipForestCheck : Bool) : PrecheckResults :=
  let forest : PrecheckResult :=
    if !skipForestCheck then
      { name := "Forest Health Check", status := "WARN"
        message := "Some forests show minor performance degradation"
        details := "Forests in data-node-2 showing 5% higher response times"
        timestamp := now, duration := "4.2s"
        remediation := "Monitor forest performance during upgrade" }
    else
      { name := "Forest Health Check", status := "PASS"
        message := "Forest health check skipped per annotation"
        timestamp := now, duration := "0s" }
  let results : List PrecheckResult :=
    [{ name := "Image Change Validation", status := "PASS"
       message := "New image version validated and accessible"
       details := "Target image: " ++ cluster.spec.image
       timestamp := now, duration := "1.5s" },
     { name := "Cluster Health Check", status := "PASS"
       message := "All cluster nodes are healthy and responding"
       timestamp := now, duration := "2.5s" },
     { name := "Database Connectivity", status := "PASS"
       message := "All databases are accessible and responsive"
       timestamp := now, duration := "1.8s" },
     forest,
     { name := "Resource Availability", status := "PASS"
       message := "Sufficient CPU and memory available for upgrade"
       details := "CPU: 65% used, Memory: 70% used, Storage: 45% used"
       timestamp := now, duration := "1.2s" },
     { name := "Backup Status", status := "WARN"
       message := "Latest backup is 25 hours old"
       details := "Last successful backup: 2024-01-15 10:30:00 UTC"
       timestamp := now, duration := "0.8s"
       remediation := "Consider creating a fresh backup before proceeding" },
     { name := "License Validation", status := "PASS"
       message := "MarkLogic license is valid and has sufficient capacity"
       timestamp := now, duration := "0.5s" },
     { name := "Network Connectivity", status := "PASS"
       message := "All inter-node network connections are healthy"
       timestamp := now, duration := "3.1s" }]
  { results := results
    summary := summarize results
    timestamp := now
    clusterRef := cluster.ns ++ "/" ++ cluster.name }

/-- `StartPrechecks`: records its event and succeeds. -/
def startPrechecks (_cluster : MarklogicCluster) : List Event × Except String Unit :=
  ([⟨eventTypeNormal, "PrecheckStarted", "Starting upgrade prechecks"⟩], .ok ())

/-- `CheckPrecheckStatus`: complete at once, with the mock report; `none` would be a check
still running. -/
def checkPrecheckStatus (now : Time) (cluster : MarklogicCluster) :
    List Event × Except String (Option PrecheckResults) :=
  let skipForestCheck := cluster.annotations.get .skipForestCheck = "true"
  ([], .ok (some (generateMockPrecheckResults now cluster skipForestCheck)))

end PrecheckHandler

end MarklogicUpgrade
