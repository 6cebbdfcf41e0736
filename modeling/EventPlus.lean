import EventPlus.Library.TransitionSystem
import EventPlus.Server.MutualExclusion
import EventPlus.Server.Ownership
import EventPlus.Server.StoreMap
import EventPlus.Protocol.TaskPhase
import EventPlus.Server.TaskOrder
import EventPlus.Server.Registration
import EventPlus.Server.Removal
import EventPlus.Server.TaskLifetime
import EventPlus.Library.Slots
import EventPlus.Server.TaskQueue
import EventPlus.Server.CallbackKinds
import EventPlus.Server.HangUp
import EventPlus.Server.Backlog
import EventPlus.Server.Descriptors
import EventPlus.Server.Admission
import EventPlus.Handlers.TLSReceiveData
import EventPlus.ThreadPool.Conservation
import EventPlus.Library.Census
import EventPlus.ThreadPool.WakeUps
import EventPlus.ThreadPool.Shutdown
import EventPlus.ThreadPool.Drain
import EventPlus.Handlers.SharedStore
import EventPlus.Server.MapKeys
import EventPlus.Server.Quiescence
import EventPlus.Server.EventMarks
import EventPlus.Server.Delivery
import EventPlus.Server.TableStep
import EventPlus.Server.Process
import EventPlus.Server.OwnCloses
import EventPlus.Server.NoLeak
import EventPlus.Server.Release
import EventPlus.Library.LockOrder
import EventPlus.Locks.Deadlock
import EventPlus.Server.ThreadHandles
import EventPlus.Server.SetUp
import EventPlus.Handlers.SendData
import EventPlus.Handlers.SharedSend
import EventPlus.Handlers.ReceiveRuns
import EventPlus.Handlers.PartialReceives
import EventPlus.Handlers.SharedReceive
import EventPlus.Handlers.AvailableData
import EventPlus.Library.RoundRobin
import EventPlus.Server.EventScheduler
import EventPlus.SSL.CertificateHandler
import EventPlus.Client.ClientSockets
import EventPlus.Server.ListeningSocket
import EventPlus.Client.Releases
import EventPlus.Client.SendDataUsingTLS
import EventPlus.Handlers.TLSCallbacks
import EventPlus.IOWorkerThread.IOWorkerThreadHandler
import EventPlus.Library.Budget
import EventPlus.Library.Refinement
import EventPlus.Server.Affinity
import EventPlus.Server.Aftermath
import EventPlus.Server.Effort
import EventPlus.Server.EventBudget
import EventPlus.Server.EventualDelivery
import EventPlus.Server.PooledServer
import EventPlus.ThreadPool.Progress
import EventPlus.Server.HeldMutex
import EventPlus.Server.EventThreadsExit
