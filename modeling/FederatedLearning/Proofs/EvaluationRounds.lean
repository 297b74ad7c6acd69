import FederatedLearning.Proofs.SimulatedClients
import Mathlib.Algebra.BigOperators.Group.List.Basic

/-!
# Rounds of evaluation

All clients of a round come to an end with a report, so that the round has one report
for every client.  Every client has counted its own examples and batches, and both
aggregations add up what the clients have counted.
-/

namespace FederatedLearning

theorem HostValue.ofValue_of_find? {members : Record Value} {name : String} {part : Value}
    (found : members.find? name = some part) :
    ∃ converted, ofValue (.record members) = .record converted ∧
      converted.find? name = some (ofValue part) := by
  have named : members.hasNames = true := by
    have inside := Record.mem_of_find?_eq_some found
    exact List.any_eq_true.mpr ⟨_, inside, rfl⟩
  refine ⟨members.map ofValue, ?_, ?_⟩
  · obtain ⟨elements⟩ := members
    rw [ofValue, if_pos named, ofElements_eq_map]
    rfl
  · rw [Record.find?_map, found]
    rfl

theorem HostValue.ofValue_of_field {value part : Value} {name : String}
    (held : value.field name = .ok part) :
    ∃ converted, ofValue value = .record converted ∧
      converted.find? name = some (ofValue part) := by
  cases value with
  | tensor leaf => cases held
  | record members =>
      obtain ⟨_, opened, looked⟩ := exceptBind_eq_ok_iff.mp held
      cases opened
      split at looked
      · rename_i item found
        cases looked
        exact ofValue_of_find? found
      · cases looked

namespace Round

variable {config : RoundConfig} {draws : Draws} {seed : UInt64} {construction : Construction}
  {clients : List Client} {reports : List ClientReport}

/-- The server registers the variables of its model, which takes the weights over. -/
theorem exists_prepared (config : RoundConfig) (draws : Draws) (seed : UInt64)
    (construction : Construction) :
    ∃ server after, (LinearRegression.build config.features.value construction).1 = .ok server ∧
      prepare config draws seed construction =
        (.ok (drawWeights config.features.value (draws seed)), after) ∧
      Construction.Registers (server.toModel.trainable ++ server.toModel.nonTrainable ++
        server.toModel.locals) construction after := by
  obtain ⟨server, built, builds⟩ :=
    LinearRegression.exists_build config.features.positive construction
  have assigned : (drawWeights config.features.value (draws seed)).assignTo server.toModel
      built.store = _ := Weights.assignTo_of_fits (fits_of_build builds)
  have written := (drawWeights config.features.value (draws seed)).writes_assignTo server.toModel
    built.store
  rw [assigned] at written
  refine ⟨server, _, congrArg Prod.fst builds, ?_,
    (LinearRegression.registers_of_build builds).of_rewrites written⟩
  rw [prepare, Construction.bind_of_ok builds,
    Construction.bind_of_ok (Construction.onStore_apply assigned)]
  rfl

/-- Every client yields a report. -/
theorem exists_clients (config : RoundConfig) (source : Nat → Float32) (draws : Draws)
    (seed : UInt64) :
    ∃ clients, clients.length = config.clients.value ∧
      List.Forall₂ (Evaluated config) clients
        (clientReports config (drawWeights config.features.value source) draws seed) := by
  choose client report after ran evaluated using fun number : Nat =>
    exists_evaluated config source (draws (seed + (number + 1).toUInt64)) .empty
  refine ⟨(List.range config.clients.value).map client, by simp, ?_⟩
  have reported : clientReports config (drawWeights config.features.value source) draws seed =
      (List.range config.clients.value).map report := by
    apply filterMap_eq_map_of_forall₂
    rw [List.forall₂_same]
    intro number _
    change (clientOutcome (runClient config (drawWeights config.features.value source)
      (draws (seed + (number + 1).toUInt64)) .empty).1).toOption = some (report number)
    rw [ran]
    rfl
  rw [reported, List.forall₂_map_left_iff, List.forall₂_map_right_iff, List.forall₂_same]
  exact fun number _ => evaluated number

section

variable {client : Client} {report : ClientReport}

theorem Evaluated.alike (evaluated : Evaluated config client report)
    (regression : LinearRegression) :
    (BuiltModel.regression regression).ReportsAlike client.model := by
  obtain ⟨model, isRegression⟩ := evaluated.isRegression
  rw [isRegression]
  exact .regression

theorem Evaluated.tells (evaluated : Evaluated config client report)
    (regression : LinearRegression) : client.Tells (.regression regression) report.outputs := by
  obtain ⟨output, reported, tells⟩ :=
    evaluated.reachable.tallied.exists_outputs (evaluated.alike regression)
  rw [evaluated.outputs] at reported
  cases reported
  exact tells

theorem Evaluated.counts (evaluated : Evaluated config client report)
    (regression : LinearRegression) :
    ReportsCount (BuiltModel.regression regression).lossName
      (BuiltModel.regression regression).weightType client.rows report.metrics := by
  obtain ⟨metrics, reported, counts⟩ :=
    evaluated.reachable.tallied.exists_report (evaluated.alike regression)
  rw [evaluated.metrics] at reported
  cases reported
  exact counts

end

theorem sum_map_of_evaluated {count : Client → Nat} {number : Nat}
    (each : ∀ {client report}, Evaluated config client report → count client = number)
    (evaluated : List.Forall₂ (Evaluated config) clients reports) :
    (clients.map count).sum = clients.length * number := by
  have constant : ∀ counted ∈ clients.map count, counted = number := by
    intro counted inside
    obtain ⟨client, member, rfl⟩ := List.mem_map.mp inside
    obtain ⟨_, _, here⟩ := exists_right_of_mem evaluated member
    exact each here
  rw [List.sum_eq_card_nsmul _ _ constant, List.length_map, smul_eq_mul]

theorem totalRows_of_evaluated (evaluated : List.Forall₂ (Evaluated config) clients reports) :
    Batch.totalRows (Client.allAccepted clients) =
      clients.length * config.examplesPerClient.value := by
  rw [Client.totalRows_allAccepted]
  exact sum_map_of_evaluated Evaluated.rows evaluated

theorem length_of_evaluated (evaluated : List.Forall₂ (Evaluated config) clients reports) :
    (Client.allAccepted clients).length =
      clients.length * (config.examplesPerClient.value ⌈/⌉ config.batchSize.value) := by
  rw [Client.length_allAccepted]
  exact sum_map_of_evaluated Evaluated.batches evaluated

/-- The reports of a round add up to the examples and the batches of all clients. -/
theorem exists_summary (splitter : Splitter (Record Value)) (present : clients ≠ [])
    (evaluated : List.Forall₂ (Evaluated config) clients reports) :
    ∃ result metrics,
      summarize reports splitter =
        .ok ⟨clients.length, .ofValue result, .ofValue (.record metrics)⟩ ∧
      result.field examplesName =
        .ok (.tensor (.ofNat (clients.length * config.examplesPerClient.value))) ∧
      result.field "num_batches" = .ok (.tensor (.ofNat
        (clients.length * (config.examplesPerClient.value ⌈/⌉ config.batchSize.value)))) ∧
      metrics.find? examplesName =
        some (.tensor (.ofNat (clients.length * config.examplesPerClient.value))) := by
  obtain ⟨first, listed⟩ := List.exists_mem_of_ne_nil clients present
  obtain ⟨_, _, evaluatedFirst⟩ := exists_right_of_mem evaluated listed
  obtain ⟨regression, _⟩ := evaluatedFirst.isRegression
  let lead : BuiltModel := .regression regression
  have labelled : lead.Labelled := trivial
  have told : List.Forall₂ (Client.Tells lead) clients (reports.map ClientReport.outputs) := by
    rw [List.forall₂_map_right_iff]
    exact evaluated.imp fun _ _ here => here.tells regression
  have counted : List.Forall₂ (ReportsCount lead.lossName lead.weightType)
      (clients.map Client.rows) (reports.map ClientReport.metrics) := by
    rw [List.forall₂_map_left_iff, List.forall₂_map_right_iff]
    exact evaluated.imp fun _ _ here => here.counts regression
  have presentReports : reports ≠ [] := by
    apply List.ne_nil_of_length_pos
    rw [← evaluated.length_eq]
    exact List.length_pos_iff.mpr present
  have presentOutputs : reports.map ClientReport.outputs ≠ [] := by simpa using presentReports
  obtain ⟨result, aggregated, _⟩ :=
    (lead.supports labelled).exists_result presentOutputs (Client.typeOf_of_told told)
  obtain ⟨metrics, finalized, metricsExamples⟩ :=
    exists_sumThenFinalize_of_reportsCount splitter (lead.lossName_ne_examplesName labelled)
      (by simpa using present) lead.elementCount?_weightType counted
  have aggregatedHere : LinearRegression.computation.aggregate
      (reports.map ClientReport.outputs) = .ok result := aggregated
  have finalizedHere : sumThenFinalize (reports.map ClientReport.metrics)
      LinearRegression.finalizers splitter = .ok metrics := finalized
  refine ⟨result, metrics, ?_, ?_, ?_, ?_⟩
  · rw [summarize, if_neg (by simpa using presentReports), aggregatedHere, evaluated.length_eq]
    simp only [finalizedHere]
    rfl
  · rw [← totalRows_of_evaluated evaluated]
    exact Client.examples_of_told labelled presentOutputs told aggregated
  · rw [← length_of_evaluated evaluated]
    exact Client.batches_of_told presentOutputs told aggregated
  · rw [metricsExamples, ← Client.totalRows_allAccepted, totalRows_of_evaluated evaluated]

/-- Whatever is drawn, and along whatever tree metrics are summed, a round ends with a report of all clients, which tells how many
examples there were and how many batches they took, and leaves the server's variables as
the only new ones in the graphs of its thread. -/
theorem evaluate_counts_every_example (config : RoundConfig) (draws : Draws) (seed : UInt64)
    (construction : Construction) (splitter : Splitter (Record Value)) :
    ∃ server outputs metrics after,
      (LinearRegression.build config.features.value construction).1 = .ok server ∧
      evaluate config draws seed construction splitter =
        (.ok ⟨config.clients.value, .record outputs, .record metrics⟩, after) ∧
      outputs.find? examplesName = some (.int64 (Int64.ofNat
        (config.clients.value * config.examplesPerClient.value))) ∧
      metrics.find? examplesName = some (.int64 (Int64.ofNat
        (config.clients.value * config.examplesPerClient.value))) ∧
      outputs.find? "num_batches" = some (.int64 (Int64.ofNat
        (config.clients.value *
          (config.examplesPerClient.value ⌈/⌉ config.batchSize.value)))) ∧
      (∀ passes, (leave config.batchSize)^[passes] config.examplesPerClient.value = 0 ↔
        config.examplesPerClient.value ⌈/⌉ config.batchSize.value ≤ passes) ∧
      Construction.Registers (server.toModel.trainable ++ server.toModel.nonTrainable ++
        server.toModel.locals) construction after ∧
      (construction.scopes = [] → after.base = construction.base ++
        (server.toModel.trainable ++ server.toModel.nonTrainable ++ server.toModel.locals)) ∧
      ∀ (weights : Weights Tensor) (draw : Nat → Float32) (thread : Construction),
        thread.SameGraphs (runClient config weights draw thread).2 := by
  obtain ⟨server, after, built, prepared, registers⟩ :=
    exists_prepared config draws seed construction
  obtain ⟨clients, number, evaluated⟩ := exists_clients config (draws seed) draws seed
  have present : clients ≠ [] := by
    apply List.ne_nil_of_length_pos
    rw [number]
    exact config.clients.positive
  obtain ⟨result, metrics, summarized, examples, batches, metricsExamples⟩ :=
    exists_summary splitter present evaluated
  rw [number] at summarized examples batches metricsExamples
  obtain ⟨outputs, converted, foundExamples⟩ := HostValue.ofValue_of_field examples
  obtain ⟨outputs', converted', foundBatches⟩ := HostValue.ofValue_of_field batches
  obtain ⟨reported, convertedMetrics, foundMetrics⟩ := HostValue.ofValue_of_find? metricsExamples
  rw [converted] at converted'
  cases converted'
  rw [converted, convertedMetrics] at summarized
  refine ⟨server, outputs, reported, after, built, ?_, foundExamples, foundMetrics, foundBatches,
    ?_, registers, registers.base_eq, fun weights draw thread =>
      sameGraphs_runClient config weights draw thread⟩
  · have preparedHere : (prepare config draws seed).run construction = _ := prepared
    rw [evaluate, preparedHere]
    simp only [summarized]
  · intro passes
    rw [iterate_leave_eq_zero_iff, length_batchSizes]

/-- Four clients with 64 examples each take batches of 16. -/
theorem standard_evaluate_counts :
    ∃ outputs metrics after,
      evaluate .standard .scrambled 0 .empty .halves =
          (.ok ⟨4, .record outputs, .record metrics⟩, after) ∧
        outputs.find? examplesName = some (.int64 256) ∧
          outputs.find? "num_batches" = some (.int64 16) := by
  obtain ⟨_, outputs, metrics, after, _, evaluated, examples, _, batches, _⟩ :=
    evaluate_counts_every_example .standard .scrambled 0 .empty .halves
  exact ⟨outputs, metrics, after, evaluated, examples, batches⟩

end Round

end FederatedLearning
