import FederatedLearning.Proofs.AdditiveCounts
import FederatedLearning.Proofs.ClientRuns

/-!
# Reports of clients

What a client reports is of one type for all models that report alike, and holds the
numbers that its counters have come to.  The outputs of any clients can therefore be
aggregated, and their metrics summed and finalized, and both results tell how many
rows the clients have accepted since they were last reset.
-/

namespace FederatedLearning

/-- A loss is finalized by a division, and a count by taking it out. -/
def metricsFinalizers (lossName : String) : Record Finalizer :=
  .named [(lossName, Finalizer.divideOrZero), (examplesName, Finalizer.first)]

namespace BuiltModel

variable {model : BuiltModel}

/-- Both are regressions, or networks with losses of one name. -/
inductive ReportsAlike : BuiltModel → BuiltModel → Prop where
  | regression {first second : LinearRegression} :
      ReportsAlike (.regression first) (.regression second)
  | network {first second : NetworkModel} (sameName : first.loss.name = second.loss.name) :
      ReportsAlike (.network first) (.network second)

def lossName : BuiltModel → String
  | .regression _ => "loss"
  | .network model => model.loss.name

def reductions : BuiltModel → List (String × Reduction)
  | .regression _ =>
      [(examplesName, .sum), ("num_batches", .sum), ("loss", .weightedMean examplesName)]
  | .network model => [(model.loss.name, .weightedMean examplesName), (examplesName, .sum)]

/-- The type of the outputs of a model. -/
def outputTypes : BuiltModel → Record ValueType
  | .regression _ =>
      .named [(examplesName, .tensor (.ofSizes .int64 [])),
        ("num_batches", .tensor (.ofSizes .int64 [])), ("loss", .tensor (.ofSizes .float32 []))]
  | .network model =>
      .named [(model.loss.name, .tensor (.ofSizes .float32 [])),
        (examplesName, .tensor (.ofSizes .int64 []))]

/-- The type of the number that the loss is divided by. -/
def weightType : BuiltModel → TensorType
  | .regression _ => .ofSizes .int64 []
  | .network _ => .ofSizes .float32 []

theorem elementCount?_weightType (model : BuiltModel) :
    model.weightType.shape.elementCount? = some 1 := by
  cases model <;> rfl

theorem computation_eq (model : BuiltModel) :
    model.toModel.computation = some (.ofReductions model.reductions) := by
  cases model <;> rfl

theorem finalizers_eq (labelled : model.Labelled) :
    model.toModel.finalizers = metricsFinalizers model.lossName := by
  cases model with
  | regression model => rfl
  | network model =>
      simp only [toModel, NetworkModel.toModel, NetworkModel.finalizers, labelled.loss,
        labelled.examples]
      rfl

theorem lossName_ne_examplesName (labelled : model.Labelled) : model.lossName ≠ examplesName := by
  cases model with
  | regression model => simp [lossName, examplesName]
  | network model => exact labelled.apart

theorem reductions_distinct (labelled : model.Labelled) :
    (model.reductions.map Prod.fst).Nodup := by
  cases model with
  | regression model => simp [reductions, examplesName]
  | network model => simpa [reductions] using labelled.apart

theorem summed_examples : (examplesName, .sum) ∈ model.reductions := by
  cases model <;> simp [reductions]

theorem name_of_weightedMean :
    ∀ entry ∈ model.reductions, ∀ name, entry.2 = .weightedMean name → name = examplesName := by
  cases model <;> simp [reductions, eq_comm]

theorem find?_outputTypes_examples (labelled : model.Labelled) :
    model.outputTypes.find? examplesName = some (.tensor (.ofSizes .int64 [])) := by
  cases model with
  | regression model => rfl
  | network model => simp [outputTypes, Record.named, Record.find?, labelled.apart]

theorem isFloating_single : (ValueType.tensor (.ofSizes .float32 [])).IsFloating := by
  simp [ValueType.IsFloating, ValueType.tensors, TensorType.ofSizes, ElementType.isFloating]

theorem supports (labelled : model.Labelled) :
    Computation.Supports model.reductions model.outputTypes where
  parts := by
    have counted := find?_outputTypes_examples labelled
    cases model with
    | regression model =>
        simp only [reductions, List.forall_mem_cons]
        exact ⟨⟨_, counted, by simp⟩, ⟨_, rfl, by simp⟩, ⟨_, rfl, fun _ => isFloating_single⟩,
          by simp⟩
    | network model =>
        simp only [reductions, List.forall_mem_cons]
        refine ⟨⟨.tensor (.ofSizes .float32 []), ?_, fun _ => isFloating_single⟩,
          ⟨_, counted, by simp⟩, by simp⟩
        simp [outputTypes, Record.named, Record.find?]
  weights entry inside name weighted := by
    obtain rfl := name_of_weightedMean entry inside name weighted
    exact ⟨_, find?_outputTypes_examples labelled, rfl⟩

end BuiltModel

/-- The unfinalized metrics of a model: a loss with what it is divided by, and a count. -/
def metricsReport (lossName : String) (total weight : Tensor) (count : Nat) : Record Value :=
  .named [(lossName, .unnamed [.tensor total, .tensor weight]), (examplesName, countTuple count)]

section

variable {lossName : String} {total weight : Tensor} {count : Nat} {weightType : TensorType}
  {counts : List Nat} {reports : List (Record Value)}

/-- The report is one of a loss of single precision and the count. -/
def ReportsCount (lossName : String) (weightType : TensorType) (count : Nat)
    (report : Record Value) : Prop :=
  ∃ total weight, report = metricsReport lossName total weight count ∧
    total.type = .ofSizes .float32 [] ∧ weight.type = weightType

theorem checkMetricNames_metricsReport (apart : lossName ≠ examplesName) :
    checkMetricNames (metricsReport lossName total weight count) (metricsFinalizers lossName) =
      .ok () := by
  apply checkMetricNames_eq_ok_iff.mpr
  simp [metricsReport, metricsFinalizers, Record.namedApart, Record.sameNameSet, apart]

theorem typeOf_metricsReport :
    (Value.record (metricsReport lossName total weight count)).typeOf =
      .record (.named
        [(lossName, .record (.unnamed [.tensor total.type, .tensor weight.type])),
          (examplesName, .record (.unnamed [.tensor (.ofSizes .int64 [])]))]) :=
  rfl

theorem find?_metricsFinalizers_eq_some {name : String} {finalizer : Finalizer}
    (found : (metricsFinalizers lossName).find? name = some finalizer) :
    name = lossName ∧ finalizer = Finalizer.divideOrZero ∨
      name = examplesName ∧ finalizer = Finalizer.first := by
  have inside := Record.mem_of_find?_eq_some found
  simpa [metricsFinalizers, Record.named] using inside

theorem find?_metricsReport_loss :
    (metricsReport lossName total weight count).find? lossName =
      some (.unnamed [.tensor total, .tensor weight]) := by
  simp [metricsReport, Record.named, Record.find?]

theorem find?_metricsReport_examples (apart : lossName ≠ examplesName) :
    (metricsReport lossName total weight count).find? examplesName = some (countTuple count) := by
  simp [metricsReport, Record.named, Record.find?, apart]

/-- No finalizer fails on values of the types of a report. -/
theorem ReportsCount.exists_metric {report : Record Value} {name : String}
    {finalizer : Finalizer} {value sum : Value}
    (reported : ReportsCount lossName weightType count report) (apart : lossName ≠ examplesName)
    (single : weightType.shape.elementCount? = some 1)
    (found : (metricsFinalizers lossName).find? name = some finalizer)
    (held : report.find? name = some value) (typed : value.typeOf = sum.typeOf) :
    ∃ metric, finalizer sum = .ok metric := by
  obtain ⟨total, weight, rfl, totalTyped, weightTyped⟩ := reported
  rcases find?_metricsFinalizers_eq_some found with ⟨rfl, rfl⟩ | ⟨rfl, rfl⟩
  · rw [find?_metricsReport_loss] at held
    cases held
    apply Finalizer.exists_divideOrZero typed.symm
    · rw [totalTyped]
      rfl
    · rw [weightTyped]
      exact single
  · rw [find?_metricsReport_examples apart] at held
    cases held
    exact Finalizer.exists_first typed.symm

/-- Reports of counts have finalized sums, which tell the sum of the counts. -/
theorem exists_sumThenFinalize_of_reportsCount (splitter : Splitter (Record Value))
    (apart : lossName ≠ examplesName)
    (present : counts ≠ []) (single : weightType.shape.elementCount? = some 1)
    (reported : List.Forall₂ (ReportsCount lossName weightType) counts reports) :
    ∃ metrics, sumThenFinalize reports (metricsFinalizers lossName) splitter = .ok metrics ∧
      metrics.find? examplesName = some (.tensor (.ofNat counts.sum)) := by
  have presentReports : reports ≠ [] := by
    apply List.ne_nil_of_length_pos
    rw [← reported.length_eq]
    exact List.length_pos_iff.mpr present
  have each : ∀ report ∈ reports, ∃ count, ReportsCount lossName weightType count report := by
    intro report inside
    obtain ⟨count, _, reports⟩ := exists_left_of_mem reported inside
    exact ⟨count, reports⟩
  have checked : ∀ report ∈ reports,
      checkMetricNames report (metricsFinalizers lossName) = .ok () := by
    intro report inside
    obtain ⟨count, total, weight, rfl, _⟩ := each report inside
    exact checkMetricNames_metricsReport apart
  obtain ⟨metrics, done⟩ :
      ∃ metrics, sumThenFinalize reports (metricsFinalizers lossName) splitter =
        .ok metrics := by
    apply exists_sumThenFinalize presentReports checked
    · intro first firstInside second secondInside
      obtain ⟨_, total, weight, rfl, totalTyped, weightTyped⟩ := each first firstInside
      obtain ⟨_, total', weight', rfl, totalTyped', weightTyped'⟩ := each second secondInside
      rw [typeOf_metricsReport, typeOf_metricsReport, totalTyped, weightTyped, totalTyped',
        weightTyped']
    · intro name finalizer total found summed
      obtain ⟨report, inside⟩ := List.exists_mem_of_ne_nil reports presentReports
      obtain ⟨value, held⟩ := exists_find?_of_checked checked found report inside
      obtain ⟨count, reports⟩ := each report inside
      exact reports.exists_metric apart single found held
        (typeOf_of_sumUnder_eq_ok summed inside held)
  have listed : reports.map (valueUnder examplesName) = counts.map countTuple := by
    rw [eq_comm, ← List.forall₂_eq_eq_eq, List.forall₂_map_left_iff, List.forall₂_map_right_iff]
    apply reported.imp
    rintro count report ⟨total, weight, rfl, _⟩
    rw [valueUnder, find?_metricsReport_examples apart, Option.getD_some]
  have foundFirst : (metricsFinalizers lossName).find? examplesName = some Finalizer.first := by
    simp [metricsFinalizers, Record.named, Record.find?, apart]
  obtain ⟨total, metric, summed, yields, found⟩ :=
    finalizesSums_of_sumThenFinalize_eq_ok done examplesName Finalizer.first foundFirst
  rw [sumUnder, additive_countTuple.sumParts_eq splitter presentReports listed] at summed
  cases summed
  cases yields
  exact ⟨metrics, done, found⟩

end

theorem LinearRegression.exists_meanLoss {model : LinearRegression} {store : Store}
    (typed : store.HasTypes model.declared) : ∃ loss, model.meanLoss store = .ok loss := by
  obtain ⟨_, _, _, _, _, lossTyped⟩ := hasTypes_declared_iff.mp typed
  obtain ⟨total, summed⟩ := Store.exists_sum lossTyped
  exact ⟨_, exceptBind_eq_ok_iff.mpr ⟨total, summed, rfl⟩⟩

theorem MeanMetric.exists_result {metric : MeanMetric} {store : Store}
    (totalTyped : store.HasType metric.total (.ofSizes .float32 []))
    (countTyped : store.HasType metric.count (.ofSizes .float32 [])) :
    ∃ mean, metric.result store = .ok mean := by
  obtain ⟨total, totalSummed⟩ := Store.exists_sum totalTyped
  obtain ⟨count, countSummed⟩ := Store.exists_sum countTyped
  simp only [result, totalSummed, countSummed]
  exact ⟨_, rfl⟩

namespace Client

variable {client : Client} {lead : BuiltModel}

def outputs (client : Client) : Except LearningError Value :=
  client.model.toModel.localOutputs client.store

def report (client : Client) : Except LearningError (Record Value) :=
  client.model.toModel.unfinalized client.store

def rows (client : Client) : Nat :=
  Batch.totalRows client.accepted

/-- The outputs are of the type that a model alike reports, and hold what the client
has counted. -/
structure Tells (lead : BuiltModel) (client : Client) (output : Value) : Prop where
  typed : output.typeOf = .record lead.outputTypes
  examples : output.field examplesName = .ok (.tensor (.ofNat client.rows))
  batches : ∀ regression, lead = .regression regression →
    output.field "num_batches" = .ok (.tensor (.ofNat client.accepted.length))

theorem Tallied.exists_outputs (tallied : client.Tallied)
    (alike : lead.ReportsAlike client.model) :
    ∃ output, client.outputs = .ok output ∧ Tells lead client output := by
  obtain ⟨model, store, accepted⟩ := client
  cases alike with
  | @regression first model =>
      obtain ⟨examplesCount, batchesCount⟩ := BuiltModel.counts_regression_iff.mp tallied.counts
      obtain ⟨loss, averaged⟩ := LinearRegression.exists_meanLoss tallied.sound.allots.typed
      have reported : Client.outputs ⟨.regression model, store, accepted⟩ = .ok (.named
          [(examplesName, .tensor (.ofNat (Batch.totalRows accepted))),
            ("num_batches", .tensor (.ofNat accepted.length)),
            ("loss", .tensor (.ofSingle loss))]) := by
        simp only [outputs, BuiltModel.toModel, LinearRegression.toModel,
          LinearRegression.localOutputs, averaged, examplesCount.read_eq, batchesCount.read_eq]
        rfl
      exact ⟨_, reported, rfl, rfl, fun _ _ => rfl⟩
  | @network first model sameName =>
      have examplesCount := BuiltModel.counts_network_iff.mp tallied.counts
      obtain ⟨totalTyped, countTyped, _⟩ :=
        NetworkModel.hasTypes_metrics (tallied.sound.allots.typed)
      obtain ⟨loss, averaged⟩ := MeanMetric.exists_result totalTyped countTyped
      have labelled : model.Labelled := tallied.labelled
      have reported : Client.outputs ⟨.network model, store, accepted⟩ = .ok (.named
          [(model.loss.name, .tensor (.ofSingle loss)),
            (examplesName, .tensor (.ofNat (Batch.totalRows accepted)))]) := by
        simp only [outputs, BuiltModel.toModel, NetworkModel.toModel, NetworkModel.localOutputs,
          SumMetric.result, averaged, examplesCount.read_eq]
        rfl
      refine ⟨_, reported, ?_, ?_, fun _ other => by cases other⟩
      · rw [BuiltModel.outputTypes, sameName]
        rfl
      · exact Value.field_named_of_mem (by simpa using labelled.apart)
          (List.mem_cons_of_mem _ (List.mem_singleton_self _))

theorem Tallied.exists_report (tallied : client.Tallied)
    (alike : lead.ReportsAlike client.model) :
    ∃ report, client.report = .ok report ∧
      ReportsCount lead.lossName lead.weightType client.rows report := by
  obtain ⟨model, store, accepted⟩ := client
  cases alike with
  | @regression first model =>
      obtain ⟨examplesCount, _⟩ := BuiltModel.counts_regression_iff.mp tallied.counts
      obtain ⟨_, _, _, _, _, lossTyped⟩ :=
        LinearRegression.hasTypes_declared_iff.mp tallied.sound.allots.typed
      refine ⟨_, rfl, store.read model.lossSum, store.read model.examples, ?_, lossTyped.type_eq,
        examplesCount.hasType.type_eq⟩
      simp only [LinearRegression.unfinalized, examplesCount.read_eq]
      rfl
  | @network first model sameName =>
      have examplesCount := BuiltModel.counts_network_iff.mp tallied.counts
      obtain ⟨totalTyped, countTyped, _⟩ :=
        NetworkModel.hasTypes_metrics (tallied.sound.allots.typed)
      have labelled : model.Labelled := tallied.labelled
      refine ⟨_, rfl, store.read model.lossMetric.total, store.read model.lossMetric.count, ?_,
        totalTyped.type_eq, countTyped.type_eq⟩
      simp only [NetworkModel.unfinalized, MeanMetric.unfinalized, SumMetric.unfinalized,
        labelled.loss, labelled.examples, examplesCount.read_eq, BuiltModel.lossName, sameName]
      rfl

/-- The batches that clients have accepted since they were last reset. -/
def allAccepted (clients : List Client) : List Batch :=
  clients.flatMap Client.accepted

theorem totalRows_allAccepted (clients : List Client) :
    Batch.totalRows (allAccepted clients) = (clients.map Client.rows).sum := by
  induction clients with
  | nil => rfl
  | cons client rest induction =>
      rw [List.map_cons, List.sum_cons, ← induction]
      simp [allAccepted, Batch.totalRows, rows]

theorem length_allAccepted (clients : List Client) :
    (allAccepted clients).length = (clients.map fun client => client.accepted.length).sum :=
  List.length_flatMap

section

variable {clients : List Client} {outputs : List Value} {result : Value}

theorem typeOf_of_told (told : List.Forall₂ (Tells lead) clients outputs) :
    ∀ output ∈ outputs, output.typeOf = .record lead.outputTypes := by
  intro output inside
  obtain ⟨client, _, tells⟩ := exists_left_of_mem told inside
  exact tells.typed

theorem examples_of_told (labelled : lead.Labelled) (present : outputs ≠ [])
    (told : List.Forall₂ (Tells lead) clients outputs)
    (aggregated : (Computation.ofReductions lead.reductions).aggregate outputs = .ok result) :
    result.field examplesName =
      .ok (.tensor (.ofNat (Batch.totalRows (allAccepted clients)))) := by
  rw [totalRows_allAccepted]
  apply Computation.field_of_counted (lead.reductions_distinct labelled) lead.summed_examples
    present _ aggregated
  rw [List.map_map]
  exact mapM_eq_ok_of_forall₂ (told.imp fun _ _ tells => tells.examples)

theorem batches_of_told {regression : LinearRegression} (present : outputs ≠ [])
    (told : List.Forall₂ (Tells (.regression regression)) clients outputs)
    (aggregated : (Computation.ofReductions (BuiltModel.regression regression).reductions).aggregate
      outputs = .ok result) :
    result.field "num_batches" = .ok (.tensor (.ofNat (allAccepted clients).length)) := by
  rw [length_allAccepted]
  have labelled : (BuiltModel.regression regression).Labelled := trivial
  apply Computation.field_of_counted (BuiltModel.reductions_distinct labelled)
    (by simp [BuiltModel.reductions]) present _ aggregated
  rw [List.map_map]
  exact mapM_eq_ok_of_forall₂ (told.imp fun _ _ tells => tells.batches regression rfl)

end

/-- The clients of alike models, each after its own run, can be aggregated and have
finalized metrics, along whatever tree these are summed.  Both tell how many rows they have accepted since their last
resets, and for regressions also how many batches. -/
theorem accepted_rows_are_reported (splitter : Splitter (Record Value))
    (clients : List Client) (lead : Client)
    (present : clients ≠ []) (leadReachable : lead.Reachable)
    (reachable : ∀ client ∈ clients, client.Reachable)
    (alike : ∀ client ∈ clients, lead.model.ReportsAlike client.model) :
    ∃ computation outputs reports result metrics,
      lead.model.toModel.computation = some computation ∧
        clients.mapM Client.outputs = .ok outputs ∧
          clients.mapM Client.report = .ok reports ∧
            (∀ output ∈ outputs, ∃ accepted, computation.signature output.typeOf = .ok accepted) ∧
              computation.aggregate outputs = .ok result ∧
                sumThenFinalize reports lead.model.toModel.finalizers splitter = .ok metrics ∧
                  result.field examplesName =
                      .ok (.tensor (.ofNat (Batch.totalRows (allAccepted clients)))) ∧
                    metrics.find? examplesName =
                        some (.tensor (.ofNat (Batch.totalRows (allAccepted clients)))) ∧
                      ∀ regression, lead.model = .regression regression →
                        result.field "num_batches" =
                          .ok (.tensor (.ofNat (allAccepted clients).length)) := by
  have labelled := leadReachable.tallied.labelled
  have supports := lead.model.supports labelled
  obtain ⟨outputs, outputsMade, told⟩ := exists_mapM_of_each fun client inside =>
    (reachable client inside).tallied.exists_outputs (alike client inside)
  obtain ⟨reports, reportsMade, counted⟩ := exists_mapM_of_each fun client inside =>
    (reachable client inside).tallied.exists_report (alike client inside)
  have outputsTyped := typeOf_of_told told
  have presentOutputs := ne_nil_of_mapM_eq_ok outputsMade present
  obtain ⟨result, aggregated, _⟩ := supports.exists_result presentOutputs outputsTyped
  obtain ⟨metrics, finalized, metricsExamples⟩ :=
    exists_sumThenFinalize_of_reportsCount splitter
      (lead.model.lossName_ne_examplesName labelled) (by simpa using present)
      lead.model.elementCount?_weightType (List.forall₂_map_left_iff.mpr counted)
  refine ⟨_, outputs, reports, result, metrics, lead.model.computation_eq, outputsMade,
    reportsMade, ?_, aggregated, ?_, ?_, ?_, ?_⟩
  · intro output inside
    rw [outputsTyped output inside]
    exact Computation.exists_signature_iff.mpr ⟨_, supports.resultType_eq⟩
  · rwa [lead.model.finalizers_eq labelled]
  · exact examples_of_told labelled presentOutputs told aggregated
  · rw [metricsExamples, totalRows_allAccepted]
  · intro regression isRegression
    rw [isRegression] at told aggregated
    exact batches_of_told presentOutputs told aggregated

/-- A regression of one feature, as it has just been built. -/
def newcomer : Client :=
  let built := LinearRegression.create 1 .empty
  ⟨.regression built.1, built.2.store, []⟩

/-- A client that has accepted two rows. -/
def visited : Client :=
  { newcomer with
    store := (newcomer.model.toModel.forwardPass Session.twoRows true newcomer.store).2
    accepted := [Session.twoRows] }

/-- A client whose locals were reset after it had accepted two rows. -/
def cleared : Client :=
  { visited with store := visited.model.reset visited.store, accepted := [] }

theorem reachable_newcomer : newcomer.Reachable := by
  have built : LinearRegression.build 1 .empty =
      (.ok (LinearRegression.create 1 .empty).1, (LinearRegression.create 1 .empty).2) := rfl
  exact .built (.start .empty) (.buildRegression built) rfl

theorem reachable_visited : visited.Reachable := by
  have checked : newcomer.model.toModel.spec.checkBatch Session.twoRows = .ok () := rfl
  exact reachable_newcomer.accepts checked true

theorem reachable_cleared : cleared.Reachable :=
  reachable_visited.step .reset

theorem visited_rows_are_reported :
    [visited, cleared] ≠ [] ∧ newcomer.Reachable ∧
      (∀ client ∈ [visited, cleared], client.Reachable) ∧
        (∀ client ∈ [visited, cleared], newcomer.model.ReportsAlike client.model) ∧
          ∃ computation outputs reports result metrics,
            newcomer.model.toModel.computation = some computation ∧
              [visited, cleared].mapM Client.outputs = .ok outputs ∧
                [visited, cleared].mapM Client.report = .ok reports ∧
                  computation.aggregate outputs = .ok result ∧
                    sumThenFinalize reports newcomer.model.toModel.finalizers .halves =
                        .ok metrics ∧
                      result.field examplesName = .ok (.tensor (.ofNat 2)) ∧
                        metrics.find? examplesName = some (.tensor (.ofNat 2)) ∧
                          result.field "num_batches" = .ok (.tensor (.ofNat 1)) := by
  have reachable : ∀ client ∈ [visited, cleared], client.Reachable := by
    simp only [List.forall_mem_cons, List.not_mem_nil, false_implies, implies_true, and_true]
    exact ⟨reachable_visited, reachable_cleared⟩
  have alike : ∀ client ∈ [visited, cleared], newcomer.model.ReportsAlike client.model := by
    simp only [List.forall_mem_cons, List.not_mem_nil, false_implies, implies_true, and_true]
    exact ⟨.regression, .regression⟩
  have present : [visited, cleared] ≠ [] := by simp
  obtain ⟨computation, outputs, reports, result, metrics, computed, outputsMade, reportsMade, _,
    aggregated, finalized, examples, metricsExamples, batches⟩ :=
    accepted_rows_are_reported .halves [visited, cleared] newcomer present reachable_newcomer reachable
      alike
  exact ⟨present, reachable_newcomer, reachable, alike, computation, outputs, reports, result,
    metrics, computed, outputsMade, reportsMade, aggregated, finalized, examples, metricsExamples,
    batches _ rfl⟩

end Client

end FederatedLearning
