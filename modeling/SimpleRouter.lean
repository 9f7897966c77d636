import SimpleRouter.Lib.Buffer
import SimpleRouter.Lib.OnesComplement
import SimpleRouter.Cksum
import SimpleRouter.Lib.Run
import SimpleRouter.ArpCache
import SimpleRouter.Frames
import SimpleRouter.Router
import SimpleRouter.Step
import SimpleRouter.Transit
import SimpleRouter.Invariant
import SimpleRouter.Custody
import SimpleRouter.Forwarding
import SimpleRouter.FrameFields
import SimpleRouter.Checksums
import SimpleRouter.Egress
import SimpleRouter.Threads
import SimpleRouter.RetrySchedule
import SimpleRouter.HeaderCheck
import SimpleRouter.Connect
import SimpleRouter.Gate
import SimpleRouter.Resolve
import SimpleRouter.EndOfStream
import SimpleRouter.Learning
import SimpleRouter.Lib.FirstMax
import SimpleRouter.Lib.Linked
import SimpleRouter.LongestPrefix
import SimpleRouter.Sweep
import SimpleRouter.TruncatedArp
import SimpleRouter.QuotedHeader
import SimpleRouter.EchoReply
import SimpleRouter.Expiry
import SimpleRouter.Banners
import SimpleRouter.Lib.Lines
import SimpleRouter.LoadRt
import SimpleRouter.Padding
import SimpleRouter.Lib.Blocks
import SimpleRouter.Lib.Simulation
import SimpleRouter.Sha1
import SimpleRouter.Lib.Potential
import SimpleRouter.Amplification
import SimpleRouter.Waiting
import SimpleRouter.SendOrder
import SimpleRouter.Faults
import SimpleRouter.Lib.Medium
import SimpleRouter.ArpExchange
import SimpleRouter.Network
import SimpleRouter.Controller
import SimpleRouter.Session
import SimpleRouter.Gateway
import SimpleRouter.Lib.Records
import SimpleRouter.Dumper
import SimpleRouter.Nodes
import SimpleRouter.MemorySafety
import SimpleRouter.Delivery
import SimpleRouter.Traceroute
