import TiltWatch.Basic
import TiltWatch.Watch.KnownState
import TiltWatch.Watch.Trace
import TiltWatch.Watch.ReplayCount
import TiltWatch.PodWatcher.Triage
import TiltWatch.PodWatcher.Interleaving
import TiltWatch.PodWatcher.Replay
import TiltWatch.PodWatcher.DescendantIndex
import TiltWatch.PodWatcher.Status
import TiltWatch.EventWatch.Manager
import TiltWatch.EventWatch.Replay
import TiltWatch.EventWatch.Admitted
import TiltWatch.Store.Engine
import TiltWatch.Store.KeyedMap
import TiltWatch.Reducer.PodActions
import TiltWatch.Reducer.CrashCheck
import TiltWatch.Reducer.Tracking
import TiltWatch.Reducer.Ancestors
import TiltWatch.Reducer.Deletion
import TiltWatch.Reducer.Removal
import TiltWatch.Reducer.Restarts
import TiltWatch.Reducer.Resets
import TiltWatch.Reducer.Pruning
import TiltWatch.PortForward.Controller
import TiltWatch.PortForward.Entries
import TiltWatch.LogStream.Controller
import TiltWatch.LogStream.Watches
import TiltWatch.LogStream.Consume
import TiltWatch.LogStream.Closed
import TiltWatch.Watch.Scope
import TiltWatch.PortForward.Loop
import TiltWatch.Tiltfile.ThreadLocal
import TiltWatch.ApiServer.Builder
