import FederatedLearning.Main
import FederatedLearning.Aggregation.Evaluate
import FederatedLearning.Aggregation.Signature
import FederatedLearning.Model.Holder
import FederatedLearning.Model.NetworkModel
import FederatedLearning.ValueType.Json
import FederatedLearning.Proofs.VariableStore
import FederatedLearning.Proofs.WeightAssignment
import FederatedLearning.Proofs.FallibleTraversal
import FederatedLearning.Proofs.ValueArithmetic
import FederatedLearning.Proofs.Reductions
import FederatedLearning.Proofs.WholeNumbers
import FederatedLearning.Proofs.RegroupedSums
import FederatedLearning.Proofs.AggregationSignature
import FederatedLearning.Proofs.ParticipantOrder
import FederatedLearning.Proofs.AggregationReads
import FederatedLearning.Proofs.HierarchicalAggregation
import FederatedLearning.Proofs.MatrixSizes
import FederatedLearning.Proofs.LayerPasses
import FederatedLearning.Proofs.PairedComputations
import FederatedLearning.Proofs.PairedPasses
import FederatedLearning.Proofs.AcceptedBatches
import FederatedLearning.Proofs.ModelPasses
import FederatedLearning.Proofs.ScopeStack
import FederatedLearning.Proofs.VariableCreation
import FederatedLearning.Proofs.BuiltModels
import FederatedLearning.Proofs.AssignedWeights
import FederatedLearning.Proofs.Sessions
import FederatedLearning.Proofs.AlikeModels
import FederatedLearning.Proofs.FederatedAveraging
import FederatedLearning.Proofs.HandleRuns
import FederatedLearning.Proofs.ThreadRuns
import FederatedLearning.Proofs.GuardOrder
import FederatedLearning.Proofs.NestedScopes
import FederatedLearning.Proofs.ModelFactories
import FederatedLearning.Proofs.RowCounts
import FederatedLearning.Proofs.ReductionTrees
import FederatedLearning.Proofs.NamedElements
import FederatedLearning.Proofs.MetricSums
import FederatedLearning.Proofs.Counters
import FederatedLearning.Proofs.ClientRuns
import FederatedLearning.Proofs.AdditiveCounts
import FederatedLearning.Proofs.ClientReports
import FederatedLearning.Proofs.TypeMembership
import FederatedLearning.Proofs.ResetModels
import FederatedLearning.Proofs.JsonTexts
import FederatedLearning.Proofs.JsonDocuments
import FederatedLearning.Proofs.JsonReading
import FederatedLearning.Proofs.JsonNumbers
import FederatedLearning.Proofs.JsonCollections
import FederatedLearning.Proofs.JsonObjects
import FederatedLearning.Proofs.ConfigurationTexts
import FederatedLearning.Proofs.TypeTexts
import FederatedLearning.Proofs.LeafArithmetic
import FederatedLearning.Proofs.StackedLayers
import FederatedLearning.Proofs.GraphChanges
import FederatedLearning.Proofs.RegisteredVariables
import FederatedLearning.Proofs.BatchSplits
import FederatedLearning.Proofs.SimulatedClients
import FederatedLearning.Proofs.EvaluationRounds
import FederatedLearning.Proofs.InterruptedWalks
import FederatedLearning.Proofs.ReadableWeights
import FederatedLearning.Proofs.OverlookedParts
import FederatedLearning.Proofs.FinalizedMetrics
import FederatedLearning.Proofs.BatchSlots
import FederatedLearning.Proofs.SpecTypes
import FederatedLearning.Proofs.TypeOrder
import FederatedLearning.Proofs.TensorCounts
import FederatedLearning.Proofs.SettledCounts
import FederatedLearning.Proofs.BatchPasses
import FederatedLearning.Proofs.CompactTexts
import FederatedLearning.Proofs.HostValues
