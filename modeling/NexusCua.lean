import NexusCua.Foundation.Async
import NexusCua.Foundation.Pool
import NexusCua.Foundation.Lock
import NexusCua.Foundation.Table
import NexusCua.Foundation.Binary64
import NexusCua.Foundation.Png
import NexusCua.Protocol.Command
import NexusCua.Runtime.Error
import NexusCua.Runtime.Guard
import NexusCua.Runtime.GuardEffect
import NexusCua.Runtime.Takeover
import NexusCua.Runtime.Image
import NexusCua.Mcp.Zoom
import NexusCua.Host.Environment
import NexusCua.Host.Affinity
import NexusCua.Transport.Idempotence
import NexusCua.Transport.DispatcherEffect
import NexusCua.Runtime.PolicyOrder
import NexusCua.Runtime.Validation
import NexusCua.Runtime.Session
import NexusCua.Runtime.ArtifactStore
import NexusCua.Runtime.Discovery
import NexusCua.Runtime.Runs
import NexusCua.Runtime.Disposition
import NexusCua.Runtime.Tables
import NexusCua.Runtime.Clipboard
import NexusCua.Runtime.DiscoveryGuard
import NexusCua.Host.EnvironmentAccounting
import NexusCua.Runtime.Lifecycle
import NexusCua.Host.Retries
import NexusCua.Sdk.Client
import NexusCua.Sdk.Framing
import NexusCua.Sdk.Immutability
import NexusCua.Provider.RegistrationRuns
import NexusCua.Provider.GrantRuns
import NexusCua.Cli.AllOrNothing
import NexusCua.Windows.CaptureFresh
import NexusCua.Platform.SnapshotBytes
import NexusCua.Cli.RemovalRuns
import NexusCua.Mcp.CacheBounds
import NexusCua.Mcp.ZoomedClicks
import NexusCua.Runtime.Downscaling
import NexusCua.Runtime.FaithfulProjection
import NexusCua.Platform.HeldInputs
import NexusCua.Platform.Preflight
import NexusCua.Platform.SecureText
import NexusCua.Macos.CapturePool
import NexusCua.Platform.YieldedPointer
import NexusCua.Platform.InputText
import NexusCua.Runtime.PublishedOnce
import NexusCua.Provider.Resolution
