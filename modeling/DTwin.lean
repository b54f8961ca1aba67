import DTwin.Copilot.Approval
import DTwin.Copilot.Door
import DTwin.Copilot.Stop
import DTwin.Copilot.SimRuns
import DTwin.Copilot.SimSlot
import DTwin.Copilot.Render
import DTwin.Copilot.Ends
import DTwin.Copilot.Meter
import DTwin.Copilot.Tools
import DTwin.Types.Backward
import DTwin.Types.Retry
import DTwin.Types.Address
import DTwin.Ingest.Auth
import DTwin.Ingest.Isolation
import DTwin.Ingest.Tenants
import DTwin.Ingest.Poison
import DTwin.Ingest.Frames
import DTwin.Ingest.ById
import DTwin.Rules.Spelling
import DTwin.Rules.Attempts
import DTwin.Lib.Inet
import DTwin.Control.Recheck
import DTwin.Control.Lease
import DTwin.Control.Feedback
import DTwin.Rules.Orphans
import DTwin.Rules.Debounce
import DTwin.Rules.Arrival
import DTwin.Rules.Delivered
import DTwin.Lib.Decimal
import DTwin.Sim.Lifecycle
import DTwin.Sim.Admission
import DTwin.Sim.Sun
import DTwin.Db.Chain
import DTwin.Db.Scope
import DTwin.Web.Login
import DTwin.Web.Socket
import DTwin.Copilot.Cache
import DTwin.Sim.Capacity
import DTwin.Copilot.Summary
import DTwin.Ingest.Registry
import DTwin.Db.Heatmap
import DTwin.Copilot.Layout
import DTwin.Copilot.Compose
import DTwin.Copilot.Routes
import DTwin.Sim.Stability
import DTwin.Sim.Rows
import DTwin.Sim.Irradiance
import DTwin.Sim.Generate
import DTwin.Sim.Replay
import DTwin.Web.Alerts
import DTwin.Web.Feed
import DTwin.Panel.Wire
import DTwin.Panel.Truth
import DTwin.Copilot.Canonical
import DTwin.Ingest.Unknown
import DTwin.Db.Energy
import DTwin.Db.Coverage
import DTwin.Db.Comfort
import DTwin.Db.Timeline
import DTwin.Db.Split
import DTwin.Sim.Facade
import DTwin.Identity.Sessions
import DTwin.Identity.Keys
import DTwin.Device.Meters
import DTwin.Device.Faults
import DTwin.Device.Loop
import DTwin.Db.Register
import DTwin.Control.History
import DTwin.Db.History
import DTwin.Copilot.ZoneHistory
