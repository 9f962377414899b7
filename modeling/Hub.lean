import Hub.LocalRegistry.Availability
import Hub.LocalRegistry.Authority
import Hub.LocalRegistry.Cancellation
import Hub.Soa.Exclusive
import Hub.LocalRegistry.Stranded
import Hub.NngLong.Routing
import Hub.Soa.ProcessCorrect
import Hub.Soa.Handlers
import Hub.Soa.AsyncResponse
import Hub.Soa.LookupCorrect
import Hub.LocalRegistry.Address
import Hub.LocalRegistry.ProviderIdentity
import Hub.Base.ThreadQueueFifo
import Hub.NngLong.Multicast
import Hub.NngLong.TimedCall
import Hub.NngLong.CallsAnswered
import Hub.NngLong.AsyncRequests
import Hub.Soa.ResponsePaths
import Hub.Soa.Close
import Hub.Soa.BatchSizes
import Hub.Soa.FailedCalls
import Hub.Soa.FirstEvent
import Hub.LocalRegistry.ListenerList
import Hub.LocalRegistry.Listing
import Hub.Soa.PeerNames
import Hub.IpcHv.ContextMutex
import Hub.Soa.EventTrigger
import Hub.Base.SyncctxpoolAccounting
import Hub.Base.ThreadQueueWaiters
import Hub.Base.UnboundedQueueFifo
import Hub.Base.TimedWaits
import Hub.Base.TimerFdArmed
import Hub.Base.TimerClusterDestroy
import Hub.Base.TimerClusterHppInvariant
import Hub.Shm.Attach
import Hub.Base.Thread
import Hub.Base.ObjectPoolAccounting
import Hub.Base.ObjectPoolBorrow
import Hub.Base.SyncContextPool
import Hub.Base.ThreadPoolWait
import Hub.Base.BoundedQueue
import Hub.NngLong.Receivers
import Hub.IpcZmq.Poll
import Hub.IpcNng.Stream
import Hub.Base.FileWrite
import Hub.Base.FixThreadPool
import Hub.IpcZmq.Responder
import Hub.Base.FileRead
import Hub.Base.Fsm
import Hub.Base.Random
import Hub.Base.DsaHeapRun
