import Tinyproxy.Lib.Machine
import Tinyproxy.Lib.Channel
import Tinyproxy.Lib.Octets
import Tinyproxy.Lib.LinkedQueue
import Tinyproxy.Lib.CString
import Tinyproxy.Lib.Printf
import Tinyproxy.Lib.InetPton
import Tinyproxy.Lib.OnesComplement
import Tinyproxy.Net.Sockaddr
import Tinyproxy.Net.ProxyProtoV2
import Tinyproxy.Net.ProxyDecode
import Tinyproxy.Route
import Tinyproxy.Stream.Sniff
import Tinyproxy.Stream.SniffSegments
import Tinyproxy.Stream.SniffGrammar
import Tinyproxy.Stream.SniffVerdict
import Tinyproxy.Stream.SniffSafety
import Tinyproxy.Stream.SniffMissing
import Tinyproxy.Stream.SniffChunks
import Tinyproxy.Stream.SniffState
import Tinyproxy.Stream.Bufferevent
import Tinyproxy.Stream.Conn
import Tinyproxy.Stream.Adopt
import Tinyproxy.Stream.Events
import Tinyproxy.Stream.Integrity
import Tinyproxy.Stream.HalfClose
import Tinyproxy.Stream.Backpressure
import Tinyproxy.Stream.Segmentation
import Tinyproxy.Stream.Timeouts
import Tinyproxy.Stream.IdleTimer
import Tinyproxy.Stream.File
import Tinyproxy.Datagram.Raw
import Tinyproxy.Datagram.Checksum
import Tinyproxy.Datagram.RawPacket
import Tinyproxy.Datagram.Client
import Tinyproxy.Datagram.Sessions
import Tinyproxy.Datagram.Lifetime
import Tinyproxy.Datagram.ProxyHeader
import Tinyproxy.Datagram.Expiry
import Tinyproxy.Datagram.Replies
import Tinyproxy.Worker.Worker
import Tinyproxy.Worker.ExactlyOnce
import Tinyproxy.Worker.Wakeup
import Tinyproxy.Worker.Accept
import Tinyproxy.Worker.Ownership
import Tinyproxy.Conf.RouteLine
import Tinyproxy.Conf.WellFormed
import Tinyproxy.Conf.Load
import Tinyproxy.Conf.Loader
import Tinyproxy.Conf.Concat
import Tinyproxy.Conf.Layout
import Tinyproxy.Conf.Conflicts
import Tinyproxy.Conf.Options
import Tinyproxy.Conf.Serve
import Tinyproxy.Conf.Numbers
import Tinyproxy.Listener.UnixPath
import Tinyproxy.Listener.BindWait
import Tinyproxy.Listener.Start
import Tinyproxy.Listener.Served
import Tinyproxy.Listener.Descriptors
import Tinyproxy.Listener.ListenPaths
import Tinyproxy.Log.OptionsStr
import Tinyproxy.Log.Record
import Tinyproxy.Lib.Termination
import Tinyproxy.Daemon.Daemon
import Tinyproxy.Daemon.Dispatch
import Tinyproxy.Daemon.Shutdown
import Tinyproxy.Stream.Builtin
import Tinyproxy.Daemon.Relay
import Tinyproxy.Datagram.LocalPaths
import Tinyproxy.Lib.InetNtop
import Tinyproxy.Log.AddressText
import Tinyproxy.Daemon.CommandLine
import Tinyproxy.Daemon.Startup
