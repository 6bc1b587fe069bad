import ComputeCloudNode.TaskCompletion
import ComputeCloudNode.ActiveSessions
import ComputeCloudNode.TunnelIsolation
import ComputeCloudNode.TensorShapes
import ComputeCloudNode.LocalPipeline
import ComputeCloudNode.PipelineExchange
import ComputeCloudNode.Llm.IncrementalForward
import ComputeCloudNode.Llm.ShardedForward
import ComputeCloudNode.Llm.UnloadedWeights
import ComputeCloudNode.Llm.TiedEmbeddings
import ComputeCloudNode.Llm.RepeatedPasses
import ComputeCloudNode.CommandShards
import ComputeCloudNode.CommandReports
import ComputeCloudNode.Llm.SharedCache
import ComputeCloudNode.Llm.InterruptedDownloads
import ComputeCloudNode.Llm.LruCache
import ComputeCloudNode.ExecutorReplacement
import ComputeCloudNode.Reregistration
import ComputeCloudNode.SessionShutdown
import ComputeCloudNode.WorkspaceConfinement
import ComputeCloudNode.IdleContainers
import ComputeCloudNode.TensorAcceptance
import ComputeCloudNode.Llm.KeyPartition
import ComputeCloudNode.Llm.LostIndex
import ComputeCloudNode.SelfHeal
import ComputeCloudNode.StartupScript
import ComputeCloudNode.SshKeyQuoting
import ComputeCloudNode.KeyInjection
import ComputeCloudNode.PollLoop
import ComputeCloudNode.ExchangeTraffic
import ComputeCloudNode.ShardMerge
import ComputeCloudNode.Llm.RotaryEmbedding
import ComputeCloudNode.Llm.UriDispatch
import ComputeCloudNode.SecurityMonitor
import ComputeCloudNode.TensorFlatten
import ComputeCloudNode.Llm.GenerationRuns
import ComputeCloudNode.Llm.SavedModel
import ComputeCloudNode.Llm.Activations
import ComputeCloudNode.TemplateJobs
import ComputeCloudNode.SessionContainers
import ComputeCloudNode.TunnelPumps
import ComputeCloudNode.ExecutorCalls
import ComputeCloudNode.DockerCalls
import ComputeCloudNode.NativeSessions
import ComputeCloudNode.ContainerScans
import ComputeCloudNode.NodeProcesses
import ComputeCloudNode.ScannedSessions
