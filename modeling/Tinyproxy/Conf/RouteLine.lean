import Mathlib.Data.List.DropRight
import Tinyproxy.Lib.CString
import Tinyproxy.Route

/-!
# Route lines

`parse_route_line` of `file_conf.c` and what it calls: the fields of a line, the
protocol words, the endpoint texts with their buffers and the option tokens. A
function of the source that returns `-1` is an `Option` here; one that returns a
negated `errno` is an `Except`.
-/

namespace Tinyproxy

open Lib (ascii cstr isspace strtok strtol strtoul)

/-- `ERANGE`, `E2BIG` and `EADDRINUSE`. -/
def erange : Errno := .other 34
def e2big : Errno := .other 7
def eaddrinuse : Errno := .other 98

/-- `MAX_LINE_LEN` and `MAX_ROUTE_FIELDS`. -/
def maxLineLen : Nat := 512
def maxRouteFields : Nat := 32

/-- `INT_MAX`. -/
def intMax : Int := 2147483647

/-- `sizeof(ep->host)` and `sizeof(ep->path)`. -/
def endpointHostSize : Nat := 256
def endpointPathSize : Nat := 108

/-- The separators of the fields of a line, `" \t\r\n"`. -/
def fieldSep (c : UInt8) : Bool := c == 0x20 || c == 0x09 || c == 0x0d || c == 0x0a

/-- `trim`. Its second loop stops at the first byte, which is no space by then. -/
def trim (s : Bytes) : Bytes := (s.dropWhile isspace).rdropWhile isspace

/-! ## Numbers -/

/-- `parse_port`. -/
def parsePort (s : Bytes) : Option UInt16 :=
  let r := strtoul s
  if r.erange ∨ s = [] ∨ r.rest ≠ [] ∨ r.value = 0 ∨ r.value > 65535 then none else some (UInt16.ofNat r.value)

/-- `parse_positive_int`. -/
def parsePositiveInt (s : Bytes) : Except Errno Int :=
  if s = [] then .error .einval else
  let r := strtol s
  if r.erange ∨ r.rest = s ∨ r.rest ≠ [] then .error .einval else
  if r.value ≤ 0 ∨ r.value > intMax then .error erange else .ok r.value

/-! ## Endpoints -/

/-- `parse_proto`. -/
def parseProto (s : Bytes) : Option EndpointProto :=
  if s = ascii "tcp" then some .tcp else
  if s = ascii "udp" then some .udp else
  if s = ascii "unix" then some .unixStream else
  if s = ascii "unix-dgram" then some .unixDgram else
  if s = ascii "file" then some .file else
  if s = ascii "builtin" then some .builtin else none

/-- `x_builtin_parse`. -/
def xBuiltinParse (s : Bytes) : Option XBuiltinUpstream :=
  if s = ascii "client_addr" then some .clientAddr else
  if s = ascii "discard" then some .discard else
  if s = ascii "hang" then some .hang else
  if s = ascii "http_ok" then some .httpOk else
  if s = ascii "log_conn" then some .logConn else
  if s = ascii "close" then some .close else none

/-- `x_builtin_name`. -/
def xBuiltinName : XBuiltinUpstream → Bytes
  | .clientAddr => ascii "client_addr"
  | .discard => ascii "discard"
  | .hang => ascii "hang"
  | .httpOk => ascii "http_ok"
  | .logConn => ascii "log_conn"
  | .close => ascii "close"
  | .none => ascii "none"

/-- `split_host_port`: the host, the port and whether the host stood in brackets. -/
def splitHostPort (input : Bytes) (hostLen : Nat) : Option (Bytes × UInt16 × Bool) :=
  if input.head? = some 0x5b then
    let host := (input.drop 1).takeWhile (· != 0x5d)
    match (input.drop 1).dropWhile (· != 0x5d) with
    | _ :: colon :: portS =>
      if colon ≠ 0x3a then none else
      if host.length = 0 ∨ host.length ≥ hostLen ∨ portS = [] then none else
      (parsePort portS).map fun port => (host, port, true)
    | _ => none
  else
    let host := input.takeWhile (· != 0x3a)
    match input.dropWhile (· != 0x3a) with
    | [] => none
    | _ :: portS =>
      -- the first colon is not the last: a bare IPv6 address
      if 0x3a ∈ portS then none else
      if host.length ≥ hostLen ∨ portS = [] then none else
      let host := if host = [] then (ascii "0.0.0.0").take (hostLen - 1) else host
      (parsePort portS).map fun port => (host, port, false)

/-- An endpoint that is a path: it has to fit `ep->path`. -/
def parsePath (kind : EndpointKind) (proto : EndpointProto) (s : Bytes) : Option Endpoint :=
  if s = [] ∨ s.length ≥ endpointPathSize then none else some { kind := kind, proto := proto, path := s }

/-- `parse_endpoint`. -/
def parseEndpoint (proto : EndpointProto) (s : Bytes) : Option Endpoint :=
  match proto with
  | .tcp | .udp =>
    (splitHostPort s endpointHostSize).map fun (host, port, isIpv6) =>
      { kind := if isIpv6 then .inet6 else .inet, host := host, port := port, proto := proto }
  | .unixStream => parsePath .unix .unixStream s
  | .unixDgram => parsePath .unixDgram .unixDgram s
  | .file => parsePath .file .file s
  | .builtin =>
    if s = [] then none else
    (xBuiltinParse s).map fun builtin => { kind := .builtin, proto := .builtin, builtin := builtin }

/-! ## Options -/

/-- `parse_broadcast_reply_mode`. -/
def parseBroadcastReplyMode (value : Bytes) : Except Errno BroadcastReplyMode :=
  if value = ascii "listen" then .ok .listen else
  if value = ascii "upstream" then .ok .upstream else .error .einval

/-- An option with a value: the `PARSE_INT_OPT` and `PARSE_ENUM_OPT` of `parse_route_options`. -/
def parseValueOption (opts : RouteOptions) (key value : Bytes) : Except Errno RouteOptions :=
  if key = ascii "idle_timeout" then (parsePositiveInt value).map fun v => { opts with idleTimeoutSec := v } else
  if key = ascii "connect_timeout" then (parsePositiveInt value).map fun v => { opts with connectTimeoutSec := v } else
  if key = ascii "bind_wait" then (parsePositiveInt value).map fun v => { opts with bindWaitSec := v } else
  if key = ascii "broadcast_reply" then
    (parseBroadcastReplyMode value).map fun v => { opts with broadcastReply := v }
  else .error .einval

/-- An option without a value. -/
def parseFlagOption (opts : RouteOptions) (tok : Bytes) : Except Errno RouteOptions :=
  if tok = ascii "proxy_v2" then .ok { opts with proxyV2 := true } else
  if tok = ascii "keep_alive" then .ok { opts with keepAlive := true } else
  if tok = ascii "sni_sniff" then .ok { opts with sniSniff := true } else
  if tok = ascii "broadcast_reply" then .ok { opts with broadcastReply := .listen } else .error .einval

/-- The loop body of `parse_route_options`. -/
def parseOption (opts : RouteOptions) (tok : Bytes) : Except Errno RouteOptions :=
  let tok := trim tok
  if tok = [] then .error .einval else
  match tok.dropWhile (· != 0x3d) with
  | _ :: after =>
    let key := trim (tok.takeWhile (· != 0x3d))
    let value := trim after
    if key = [] ∨ value = [] then .error .einval else parseValueOption opts key value
  | [] => parseFlagOption opts tok

/-- `parse_route_options`. -/
def parseRouteOptions (opts : RouteOptions) (s : Bytes) : Except Errno RouteOptions :=
  if s = [] then .ok opts else (strtok (· == 0x2c) s).foldlM parseOption opts

/-- `route_options_set_defaults` on a record that `memset` cleared; its constants are the defaults of the fields. -/
def routeOptionsSetDefaults : RouteOptions := {}

/-! ## Lines -/

/-- A `-1` that the caller turns into `-EINVAL`. -/
def orInval {α : Type} : Option α → Except Errno α
  | some a => .ok a
  | none => .error .einval

/-- `parse_route_line`. The line ends at its terminator; the route is cleared before it is filled, its `line_no`
with it. -/
def parseRouteLine (line : Bytes) : Except Errno Route :=
  let fields := strtok fieldSep (cstr line)
  if fields.length > maxRouteFields then .error .einval else
  if fields = [] then .error .einval else
  let pos := if fields.head? = some (ascii "listen") then 1 else 0
  match fields.drop pos with
  | listenProtoS :: listenS :: backendProtoS :: upstreamS :: optionFields => do
    let listenProto ← orInval (parseProto listenProtoS)
    let listen ← orInval (parseEndpoint listenProto listenS)
    let backendProto ← orInval (parseProto backendProtoS)
    let upstream ← orInval (parseEndpoint backendProto upstreamS)
    match optionFields.foldlM parseRouteOptions routeOptionsSetDefaults with
    | .ok opts => return { listen := listen, upstream := upstream, opts := opts }
    | .error _ => throw .einval
  | _ => .error .einval

end Tinyproxy
