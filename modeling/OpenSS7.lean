import OpenSS7.Lib.LinkedList
import OpenSS7.Lib.PriorityList
import OpenSS7.Streams.Queue
import OpenSS7.Streams.Links
import OpenSS7.Streams.Counts
import OpenSS7.Streams.Remove
import OpenSS7.Streams.Refinement
import OpenSS7.Streams.FlowControl
import OpenSS7.Streams.BackEnable
import OpenSS7.Streams.Markers
import OpenSS7.Streams.Procs
import OpenSS7.Lib.Program
import OpenSS7.Mtp2.State
import OpenSS7.Sdt.Frame
import OpenSS7.Mtp2.Header
import OpenSS7.Mtp2.Transmission
import OpenSS7.Mtp2.LinkState
import OpenSS7.Mtp2.Reception
import OpenSS7.Mtp2.Reachable
import OpenSS7.Mtp2.Changeover
import OpenSS7.Mtp2.Outage
import OpenSS7.M2pa.Transfer
import OpenSS7.Mtp3.Counting
import OpenSS7.Mtp3.RouteStatus
import OpenSS7.Mtp3.Current
import OpenSS7.Mtp3.Disposition
import OpenSS7.Mtp3.Retrieval
import OpenSS7.Sctp.Negotiation
import OpenSS7.Sctp.Accounts
import OpenSS7.Pfmod.Segments
import OpenSS7.Mps.Instances
import OpenSS7.Mps.Locking
import OpenSS7.Mblk.Lifetime
import OpenSS7.Mblk.Adjmsg
import OpenSS7.Mblk.Inplace
import OpenSS7.Sth.Reading
import OpenSS7.Sth.HighPriority
import OpenSS7.Sth.Iocack
import OpenSS7.Sth.Linking
import OpenSS7.Drivers.BufqRuns
import OpenSS7.Streams.Plumbed
import OpenSS7.Streams.Insq
import OpenSS7.Pfmod.Setf
import OpenSS7.Mtp2.Retries
import OpenSS7.Mtp2.Atomic
import OpenSS7.Mtp2.Restart
import OpenSS7.M2pa.Congestion
import OpenSS7.M2pa.Acknowledge
import OpenSS7.M2pa.Retrieval
import OpenSS7.M2pa.Parsing
import OpenSS7.M2pa.Carrying
import OpenSS7.Sctp.Rtt
import OpenSS7.Sdt.Monitors
import OpenSS7.Sdt.Compress
import OpenSS7.Sctp.Sending
import OpenSS7.Sctp.Numbering
import OpenSS7.Sctp.Resuming
import OpenSS7.Sctp.BundleLength
import OpenSS7.Sctp.Congestion
import OpenSS7.Mtp3.Contained
import OpenSS7.Mtp3.Sizes
import OpenSS7.Sctp.Packet
import OpenSS7.Sctp.CookieEcho
import OpenSS7.Sctp.Advance
import OpenSS7.Sctp.Passes
import OpenSS7.Mtp3.Refused
import OpenSS7.Sad.Ranges
import OpenSS7.Mtp3.Rotation
import OpenSS7.Mtp3.Adjacent
import OpenSS7.Mtp3.RouteCongestion
import OpenSS7.Lib.Searches
import OpenSS7.Mtp3.Lookup
import OpenSS7.Mps.Pending
import OpenSS7.Mps.CopyForms
import OpenSS7.Sctp.Crc32c
import OpenSS7.Sth.Anchor
import OpenSS7.Streams.HeadFlush
import OpenSS7.Sth.Retrieving
import OpenSS7.Bufmod.Service
import OpenSS7.Bufmod.Drops
import OpenSS7.Sth.Fdinsert
import OpenSS7.Sth.Peek
import OpenSS7.Sth.Holding
import OpenSS7.Lib.CrcPolynomial
import OpenSS7.Sdt.CheckSequence
import OpenSS7.Sdt.Framing
import OpenSS7.Sdt.Reception
import OpenSS7.Mtp2.Line
import OpenSS7.Bufmod.Records
