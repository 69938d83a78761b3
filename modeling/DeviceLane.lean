import DeviceLane.Dashboard.EventLogSubscribers
import DeviceLane.EventStore.Determined
import DeviceLane.Dashboard.ServiceSnapshot
import DeviceLane.RemoteApple.AppleAgent
import DeviceLane.RemoteApple.RemoteAppleAgent
import DeviceLane.RemoteApple.AtMostOnce
import DeviceLane.Daemon.Cancels
import DeviceLane.Registry.Submissions
import DeviceLane.Registry.Devices
import DeviceLane.Registry.Polling
import DeviceLane.Daemon.Pauses
import DeviceLane.EventStore.Emission
import DeviceLane.Dashboard.ServicePanics
import DeviceLane.Desktop.EventPump
import DeviceLane.RemoteApple.Publishing
import DeviceLane.Desktop.Wire
import DeviceLane.Registry.Panics
import DeviceLane.Dashboard.PolicyRemembered
import DeviceLane.Dashboard.AuditTails
import DeviceLane.Mesh.ArtifactStore
import DeviceLane.Registry.ReplayCache
import DeviceLane.Registry.Revocations
import DeviceLane.Mesh.DeviceAdapter
import DeviceLane.Cli.WatchActivity
import DeviceLane.Desktop.AuditSave
import DeviceLane.Daemon.ConnectionWrite
import DeviceLane.Process.AppleBuildStream
import DeviceLane.Dashboard.ManagedPolicy
import DeviceLane.Dashboard.TopologyLastSeen
import DeviceLane.Daemon.OfflineRefusals
