import DpktNg.Stream.DirectionBuffer
import DpktNg.Stream.SegmentMerge
import DpktNg.Stream.BufferInvariant
import DpktNg.Stream.Reassembly
import DpktNg.Stream.Flush
import DpktNg.Stream.SequenceWrap
import DpktNg.Library.Demultiplexing
import DpktNg.Python.Str
import DpktNg.Stream.Reassembler
import DpktNg.Stream.MergedMode
import DpktNg.Library.Dict
import DpktNg.Stream.ConnectionTable
import DpktNg.Stream.BufferLimit
import DpktNg.Carving.FileCarver
import DpktNg.Python.Error
import DpktNg.Python.Struct
import DpktNg.Bgp.Message
import DpktNg.Topology.Builder
import DpktNg.Topology.BgpRoutes
import DpktNg.Library.Chains
import DpktNg.Dns.Message
import DpktNg.Dns.NameCells
import DpktNg.Dns.NameRoundTrip
import DpktNg.Dns.RecordRoundTrip
import DpktNg.Dns.RoundTrip
import DpktNg.Dns.ShortMessage
import DpktNg.Inet.Checksum
import DpktNg.Stream.Find
import DpktNg.Stream.RepeatedSyn
import DpktNg.Inet.Transport
import DpktNg.Inet.Ip
import DpktNg.Inet.ExtensionHeaders
import DpktNg.Inet.Ip6
import DpktNg.Inet.Ip6Checksum
import DpktNg.Inet.Ip6RoundTrip
import DpktNg.Inet.IpPacket
import DpktNg.Library.Recursion
import DpktNg.Link.Ethernet
import DpktNg.Link.Nesting
import DpktNg.Link.Hostile
import DpktNg.Link.HostileFrame
import DpktNg.Stream.FeedPcap
import DpktNg.Dns.ParseErrors
import DpktNg.Dns.ParsedName
import DpktNg.Dns.ParsedRecord
import DpktNg.Dns.Repacking
import DpktNg.Dns.Regenerating
import DpktNg.Dns.Reencoding
import DpktNg.Dns.MovedData
import DpktNg.Dns.Reserialising
import DpktNg.Http2.Frame
import DpktNg.Http2.Padding
import DpktNg.Quic.Header
import DpktNg.Bgp.Announced
import DpktNg.Bgp.ParseErrors
import DpktNg.Packet.BitFields
import DpktNg.Packet.Header
import DpktNg.Http3.Frames
import DpktNg.Rpc.Reserialising
import DpktNg.Link.TagStacks
import DpktNg.Link.LlcFrames
import DpktNg.Pcapng.Layout
import DpktNg.Pcapng.RoundTrip
import DpktNg.Stream.DeliveredStreams
import DpktNg.Ftp.ControlParser
import DpktNg.Pop3.Segmentation
import DpktNg.Imap.Literals
import DpktNg.Ospf.RoundTrip2
import DpktNg.Ospf.RoundTrip3
import DpktNg.Smb.AndXChain
import DpktNg.Smb2.RoundTrip
import DpktNg.Qpack.EncoderStream
import DpktNg.Qpack.FieldLines
import DpktNg.Quic.FrameLoop
import DpktNg.Inet.OptionTiling
import DpktNg.Dns.NameLoop
import DpktNg.Topology.RipRoutes
import DpktNg.Topology.OspfLinks
import DpktNg.Gtp.Reserialising
import DpktNg.Rtcp.Reserialising
import DpktNg.Sctp.ChunkLists
import DpktNg.Asn1.Decode
import DpktNg.Asn1.ParseErrors
import DpktNg.Pcap.TimestampFields
import DpktNg.Http.Chunked
import DpktNg.Dhcp.Message
import DpktNg.Diameter.AvpLists
import DpktNg.Rpc.Message
import DpktNg.Telnet.StripOptions
import DpktNg.Tftp.Message
import DpktNg.Pop3.ResponseBytes
import DpktNg.Smtp.ResponseBytes
import DpktNg.Imap.NestedLists
import DpktNg.Eigrp.InternalRoute
import DpktNg.Eigrp.Hello
import DpktNg.Rip.Message
import DpktNg.Gre.Message
import DpktNg.Ppp.Reserialising
import DpktNg.L2tp.OptionalFields
import DpktNg.Tls.Record
import DpktNg.Tls.Handshake
import DpktNg.Carving.Attachments
import DpktNg.Inet.TcpOptions
import DpktNg.Packet.TypeLength
import DpktNg.Isis.Tlvs
import DpktNg.Ieee80211.Elements
import DpktNg.Ieee80211.ElementLists
import DpktNg.Library.Alignment
import DpktNg.Ieee80211.Radiotap
import DpktNg.Ieee80211.RadiotapDecoding
import DpktNg.Carving.Export
import DpktNg.Stream.Demultiplexing
import DpktNg.Isis.Packets
import DpktNg.Inet.Checksummed
import DpktNg.Eigrp.Packets
import DpktNg.Ospf.Packets
import DpktNg.Gzip.Members
import DpktNg.Topology.Evidence
import DpktNg.Topology.Captures
import DpktNg.Link.WrittenPackets
import DpktNg.Stream.CaptureFiles
