import AindyRuntime.Kernel.EffectOverlap
import AindyRuntime.Kernel.SyscallCaller
import AindyRuntime.FlowEngine.Slots
import AindyRuntime.FlowEngine.ResumeRace
import AindyRuntime.Agent.Granularity
import AindyRuntime.Agent.Stranding
import AindyRuntime.Agent.Verified
import AindyRuntime.Agent.ResumeRebuild
import AindyRuntime.Continuation.ClaimRace
import AindyRuntime.Scheduler.Conservation
import AindyRuntime.Agent.ExecuteRace
import AindyRuntime.Kernel.SyscallContext
import AindyRuntime.Kernel.EffectCompensation
import AindyRuntime.Capability.Delegation
import AindyRuntime.Capability.ConnectGuard
import AindyRuntime.Continuation.StuckScan
import AindyRuntime.Scheduler.Reparking
import AindyRuntime.Scheduler.EventRouting
import AindyRuntime.Agent.ToolOutcome
import AindyRuntime.Continuation.FoldRepair
import AindyRuntime.Scheduler.WakeFailures
import AindyRuntime.Scheduler.StaleWaits
import AindyRuntime.Auth.Revocation
import AindyRuntime.Agent.WorkerLimits
import AindyRuntime.Memory.DelegatedRun
import AindyRuntime.Memory.Sharing
import AindyRuntime.Memory.Traversal
import AindyRuntime.Kernel.CircuitBreaker
import AindyRuntime.Queue.NoLoss
import AindyRuntime.Queue.Redelivery
import AindyRuntime.Jobs.Worker
import AindyRuntime.FlowEngine.ConcurrentFanOut
import AindyRuntime.FlowEngine.MergeLaws
import AindyRuntime.FlowEngine.JoinResolution
import AindyRuntime.Kernel.UsageSweep
import AindyRuntime.Kernel.CapacityWakes
import AindyRuntime.Platform.LeaderJobs
import AindyRuntime.Scheduler.Fairness
import AindyRuntime.Capability.Refresh
import AindyRuntime.Agent.Clamping
import AindyRuntime.Queue.DeadLetterDrain
import AindyRuntime.Scheduler.Watchdog
import AindyRuntime.Queue.InMemoryQueue
import AindyRuntime.Memory.AddressSpace
import AindyRuntime.Scheduler.UnbuiltSpecs
import AindyRuntime.Agent.OperatorDecision
import AindyRuntime.Scheduler.RehydrationPass
import AindyRuntime.FlowEngine.RetryBudget
import AindyRuntime.Scheduler.Termination
import AindyRuntime.Jobs.StaleLogs
import AindyRuntime.Memory.IngestQueue
import AindyRuntime.Agent.FollowUps
