import Tinyproxy.Net.Sockaddr

/-!
# Routes

The configuration records of `route.h`, `endpoint.h` and `x_builtins.h`, and the
sizes the data path is tuned with.
-/

namespace Tinyproxy

/-- `enum endpoint_proto`. -/
inductive EndpointProto where
  | tcp | udp | unixStream | unixDgram | file | builtin
  deriving DecidableEq, Repr

/-- `enum endpoint_kind`. -/
inductive EndpointKind where
  | inet | inet6 | unix | unixDgram | builtin | file
  deriving DecidableEq, Repr

/-- `enum x_builtin_upstream`. -/
inductive XBuiltinUpstream where
  | none | clientAddr | discard | hang | httpOk | logConn | close
  deriving DecidableEq, Repr

/-- `enum broadcast_reply_mode`. -/
inductive BroadcastReplyMode where
  | off | listen | upstream
  deriving DecidableEq, Repr

/-- `struct endpoint`; `host` and `path` are C strings without their terminator. -/
structure Endpoint where
  kind : EndpointKind
  host : Bytes := []
  port : UInt16 := 0
  proto : EndpointProto
  path : Bytes := []
  builtin : XBuiltinUpstream := .none
  deriving DecidableEq, Repr

/-- `struct route_options`. -/
structure RouteOptions where
  proxyV2 : Bool := false
  keepAlive : Bool := false
  sniSniff : Bool := false
  idleTimeoutSec : Int := 60
  connectTimeoutSec : Int := 5
  bindWaitSec : Int := 0
  broadcastReply : BroadcastReplyMode := .off
  deriving DecidableEq, Repr

/-- `struct route`. -/
structure Route where
  listen : Endpoint
  upstream : Endpoint
  opts : RouteOptions := {}
  lineNo : Nat := 0
  deriving DecidableEq, Repr

/-- `STREAM_IO_CHUNK_SIZE`, `STREAM_READ_HIGH_WATER`, `STREAM_WRITE_RESUME_WATER`. -/
def streamIoChunkSize : Nat := 128 * 1024
def streamReadHighWater : Nat := 2 * streamIoChunkSize
def streamWriteResumeWater : Nat := streamIoChunkSize

/-- `CLOSE_WAIT_TIMEOUT_SEC`. -/
def closeWaitTimeoutSec : Int := 2

/-- `UDP_MAX_PACKET`. -/
def udpMaxPacket : Nat := 65535

/-- `sizeof(((struct sockaddr_un *)0)->sun_path)`. -/
def sunPathSize : Nat := 108

/-- `inet_pton`: the address bytes a host name denotes in a family, if it denotes any. -/
abbrev InetPton := Nat → Bytes → Option Bytes

/-- `htons`: a 16-bit number in network order. -/
def htons (v : UInt16) : Bytes := [(v >>> 8).toUInt8, v.toUInt8]

/-- `endpoint_to_sockaddr`: the storage filled in and its length, or `-EINVAL`. -/
def endpointToSockaddr (inetPton : InetPton) (ep : Endpoint) : Except Errno (SockaddrStorage × Nat) :=
  match ep.kind with
  | .inet =>
    match inetPton afInet ep.host with
    | some addr => .ok (.ofBytes ([2, 0] ++ htons ep.port ++ addr), sizeofSockaddrIn)
    | none => .error .einval
  | .inet6 =>
    match inetPton afInet6 ep.host with
    | some addr => .ok (.ofBytes ([10, 0] ++ htons ep.port ++ [0, 0, 0, 0] ++ addr), sizeofSockaddrIn6)
    | none => .error .einval
  | _ => .error .einval

end Tinyproxy
