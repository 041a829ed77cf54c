import DnsPro.Cache.Clock
import DnsPro.DataPlane.Convergence
import DnsPro.DataPlane.Updates
import DnsPro.EventLoop.Amplification
import DnsPro.EventLoop.Conclusions
import DnsPro.EventLoop.Exits
import DnsPro.EventLoop.Hangup
import DnsPro.EventLoop.Intake
import DnsPro.EventLoop.Provenance
import DnsPro.EventLoop.Stopping
import DnsPro.EventLoop.Waiting
import DnsPro.Filter.BuildAccounting
import DnsPro.Filter.Occupancy
import DnsPro.Protocol.AddressResponses
import DnsPro.Protocol.Identity
import DnsPro.Protocol.NameDecoding
import DnsPro.Protocol.Presentation
import DnsPro.Protocol.Stability
import DnsPro.Publication.Visibility
import DnsPro.Runtime.FifoDispatch
import DnsPro.Runtime.WaitTimeout
import DnsPro.Server.Boundary
import DnsPro.Server.Fidelity
import DnsPro.Server.Responses
import DnsPro.Service.FirstCause
import DnsPro.Service.Health
import DnsPro.Service.TeardownCause
import DnsPro.Supervisor.RecoveryRuns
import DnsPro.Update.Admission
import DnsPro.Update.Linearization
import DnsPro.Update.Retirement
import DnsPro.Upstream.Matching
import DnsPro.Upstream.Quarantine
import DnsPro.WorkerRuntime.Shutdown
