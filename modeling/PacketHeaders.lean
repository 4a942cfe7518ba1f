import PacketHeaders.Cursor
import PacketHeaders.Document
import PacketHeaders.Proofs.Building.Icmp
import PacketHeaders.Proofs.Building.Udp
import PacketHeaders.Proofs.Capture.Displaced
import PacketHeaders.Proofs.Capture.Padding
import PacketHeaders.Proofs.Detection
import PacketHeaders.Proofs.EndAroundCarry
import PacketHeaders.Proofs.Extent
import PacketHeaders.Proofs.Feedback
import PacketHeaders.Proofs.Forecast
import PacketHeaders.Proofs.Guarded.Bounds
import PacketHeaders.Proofs.Guarded.Drafts
import PacketHeaders.Proofs.Guarded.Marks
import PacketHeaders.Proofs.Guarded.Shared
import PacketHeaders.Proofs.Guarded.Walk
import PacketHeaders.Proofs.Ledger.Drafts
import PacketHeaders.Proofs.Moves
import PacketHeaders.Proofs.Nesting.Sealing
import PacketHeaders.Proofs.Nesting.Sessions
import PacketHeaders.Proofs.NextDraft
import PacketHeaders.Proofs.Overflow
import PacketHeaders.Proofs.Partition
import PacketHeaders.Proofs.PseudoHeader
import PacketHeaders.Proofs.Records.Spelled
import PacketHeaders.Proofs.Records.Tiling
import PacketHeaders.Proofs.Refusals.Scripts
import PacketHeaders.Proofs.Spelling.Ipv4
import PacketHeaders.Proofs.Spelling.Mac
import PacketHeaders.Proofs.Transcript
import PacketHeaders.Proofs.TypeAndCode
import PacketHeaders.Proofs.Verification
import PacketHeaders.Proofs.Walk
import PacketHeaders.Proofs.ZeroSum
import PacketHeaders.Session
