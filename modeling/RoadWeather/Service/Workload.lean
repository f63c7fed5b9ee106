import RoadWeather.Service.Basic
import RoadWeather.Workload.Basic

/-! # Requests for sample workloads -/

namespace RoadWeather.Service

/-- A sample workload: its name, the name of its size parameter, the sizes it is usually run
at (the middle one when no size is given), and what it does. -/
structure Workload where
  name : String
  param : String
  sizes : List Nat
  run : Nat → Except Fault Value

def workloads : List Workload := [
  ⟨"bench_analysis_collection", "n_rows", [120, 350, 900], RoadWeather.Workload.batch⟩,
  ⟨"bench_block_unpack", "n_blocks", [150, 600, 2400], RoadWeather.Workload.blocks⟩,
  ⟨"bench_cond_collection_build", "n_rows", [60, 180, 500], RoadWeather.Workload.collectionBuild⟩,
  ⟨"bench_cond_collection_report", "n_rows", [30, 100, 350], RoadWeather.Workload.collectionReport⟩,
  ⟨"bench_condition_parse", "n_conditions", [20, 80, 320], RoadWeather.Workload.conditions⟩,
  ⟨"bench_condition_temptable_sql", "n_conditions", [40, 150, 500], RoadWeather.Workload.tables⟩,
  ⟨"bench_error_collection", "n_msgs", [200, 800, 3000], RoadWeather.Workload.problems⟩,
  ⟨"bench_tsabatch_dryvalidate", "n_rows", [100, 300, 900], RoadWeather.Workload.commandRuns⟩,
  ⟨"bench_utils_identifiers", "n_ids", [300, 1200, 5000], RoadWeather.Workload.identifiers⟩]

def workloadSize (w : Workload) (params : Value) : Except Fault Nat :=
  match params with
  | .record es =>
    es.foldlM (fun (n : Nat) (k, v) =>
      if k = w.param then
        match v with
        | .int i => .ok i.toNat
        | _ => .ok n
      else .error ⟨.wrongKind, w.name ++ "() got an unexpected keyword argument " ++ quoteText k⟩)
      (w.sizes.getD 1 0)
  | _ => .ok (w.sizes.getD 1 0)

def workloadAnswer (req : Value) : Value :=
  let name := (req.field "bench").plain
  if !name.startsWith "bench_" then
    .record (Fault.answer ⟨.badValue, "unknown bench " ++ quoteText name⟩)
  else
    match workloads.find? (·.name == name) with
    | none => .record (Fault.answer ⟨.noAttribute, "module 'microbench' has no attribute " ++ quoteText name⟩)
    | some w =>
      match workloadSize w (req.field "params") >>= w.run with
      | .error f => .record f.answer
      | .ok v => .record [("value", v),
          ("params_list", .list (w.sizes.map fun s => .record [(w.param, .int (Int.ofNat s))]))]

end RoadWeather.Service
