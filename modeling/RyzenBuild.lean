import RyzenBuild.Lib.Trace
import RyzenBuild.Lib.Memory
import RyzenBuild.Lib.FixedPoint
import RyzenBuild.Lib.Bitmask
import RyzenBuild.Lib.NodeGraph
import RyzenBuild.Lib.Writer
import RyzenBuild.Lib.Ring
import RyzenBuild.Lib.Checked
import RyzenBuild.Lib.OrderedMap
import RyzenBuild.Lib.WorkItem
import RyzenBuild.Lib.Threads
import RyzenBuild.Lib.Footprint
import RyzenBuild.Lib.Digits
import RyzenBuild.Lib.Scan
import RyzenBuild.Lib.CNumber
import RyzenBuild.Lib.Reindex
import RyzenBuild.Lib.Running
import RyzenBuild.Lib.Fnv
import RyzenBuild.Lib.IntrusiveList
import RyzenBuild.Lib.Significand
import RyzenBuild.Lib.Substitute
import RyzenBuild.Lib.ByteOrder
import RyzenBuild.Lib.Cycles
import RyzenBuild.Lib.Rounding
import RyzenBuild.Lib.Floats
import RyzenBuild.Lib.Strided
import RyzenBuild.Lib.Json
import RyzenBuild.Lib.JsonText
import RyzenBuild.Lib.JsonPrefix
import RyzenBuild.Lib.Labelled
import RyzenBuild.Lib.Replica
import RyzenBuild.Lib.Saturating
import RyzenBuild.Lib.Settling
import RyzenBuild.Lib.Tracking
import RyzenBuild.Lib.Crc
import RyzenBuild.Lib.Png
import RyzenBuild.Kernel
import RyzenBuild.Ladder.Arith
import RyzenBuild.Ladder.Duo
import RyzenBuild.Ladder.DuoChecked
import RyzenBuild.Ladder.Simplex
import RyzenBuild.Ladder.SimplexReport
import RyzenBuild.Ladder.SimplexBoost
import RyzenBuild.Ladder.SimplexLimits
import RyzenBuild.Ladder.Direction
import RyzenBuild.Ladder.Agreement
import RyzenBuild.Ladder.RecalcWork
import RyzenBuild.DawnHex.State
import RyzenBuild.DawnHex.Command
import RyzenBuild.DawnHex.EventRing
import RyzenBuild.DawnHex.Links
import RyzenBuild.DawnHex.Pairs
import RyzenBuild.DawnHex.Incarnation
import RyzenBuild.DawnHex.Bounds
import RyzenBuild.DawnHex.PairTable
import RyzenBuild.DawnHex.Generation
import RyzenBuild.DawnHex.PulseOrder
import RyzenBuild.DawnHex.Dispatch
import RyzenBuild.DawnHex.Write
import RyzenBuild.DawnHex.Ioctl
import RyzenBuild.DawnHex.Refusals
import RyzenBuild.DawnHex.Listing
import RyzenBuild.DawnHex.Readers
import RyzenBuild.DawnHex.Notices
import RyzenBuild.DawnHex.Ticks
import RyzenBuild.DawnHex.Mirror
import RyzenBuild.DawnHex.Ctl
import RyzenBuild.DawnHex.Damping
import RyzenBuild.DawnHex.Hooks
import RyzenBuild.DawnHex.TickWork
import RyzenBuild.DawnHex.TickTeardown
import RyzenBuild.Teardown
import RyzenBuild.Delta.Token
import RyzenBuild.Delta.Rle
import RyzenBuild.Delta.Roundtrip
import RyzenBuild.Delta.Accept
import RyzenBuild.Delta.ShortBuffer
import RyzenBuild.Delta.Transforms
import RyzenBuild.Delta.Hash
import RyzenBuild.Delta.HashText
import RyzenBuild.Proxy.Buffer
import RyzenBuild.Proxy.Session
import RyzenBuild.Proxy.Stream
import RyzenBuild.Proxy.Registry
import RyzenBuild.Proxy.Destroy
import RyzenBuild.Proxy.RegistryInvariant
import RyzenBuild.Proxy.EventLoop
import RyzenBuild.Proxy.World
import RyzenBuild.Proxy.Carries
import RyzenBuild.Proxy.Orderly
import RyzenBuild.Proxy.SideIo
import RyzenBuild.Proxy.Interest
import RyzenBuild.Proxy.HalfClose
import RyzenBuild.Proxy.Idle
import RyzenBuild.Proxy.Descriptors
import RyzenBuild.Proxy.Ledger
import RyzenBuild.Proxy.Spool
import RyzenBuild.Proxy.Delivery
import RyzenBuild.Caustic.Scores
import RyzenBuild.Caustic.ScoreBounds
import RyzenBuild.Caustic.Payload
import RyzenBuild.Caustic.ReadBack
import RyzenBuild.Caustic.StringBuilder
import RyzenBuild.Proxy.Envelope
import RyzenBuild.Proxy.Published
import RyzenBuild.Delta.LuaEscape
import RyzenBuild.Delta.LuaValue
import RyzenBuild.Delta.LuaEncode
import RyzenBuild.Delta.LuaCanonical
import RyzenBuild.Delta.LuaTables
import RyzenBuild.Delta.Manifest
import RyzenBuild.Runway.Request
import RyzenBuild.Runway.Body
import RyzenBuild.Runway.Extract
import RyzenBuild.Runway.Client
import RyzenBuild.Runway.Service
import RyzenBuild.Runway.Still
import RyzenBuild.Dawnstar.Stack
import RyzenBuild.Dawnstar.Regions
import RyzenBuild.Dawnstar.Manifest
import RyzenBuild.Xem.Policy
import RyzenBuild.Xem.Pages
import RyzenBuild.Xem.Recursor
import RyzenBuild.Xem.Ideal
import RyzenBuild.Xem.Kernel
import RyzenBuild.Xem.Report
