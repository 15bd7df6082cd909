import Tinyproxy.Conf.Load
import Tinyproxy.Datagram.Client
import Tinyproxy.Stream.Adopt

/-!
# What a configured route needs

`validate_route`, and what a route that passes it leads to: the `connect_*_upstream`
switches, and the builtin upstreams with the switches over the actions they answer
with. The switches were written apart from one another, and one of them lacks a case.

As elsewhere the platform is Linux: where `AF_UNIX` datagrams are missing, both
`unix-dgram` functions of the source report `ENOTSUP`.
-/

namespace Tinyproxy

open Lib (ascii)

/-! ## Validation -/

/-- `endpoint_is_stream`. -/
def endpointIsStream (ep : Endpoint) : Bool :=
  match ep.proto with
  | .tcp | .unixStream => true
  | _ => false

/-- `endpoint_is_datagram`. -/
def endpointIsDatagram (ep : Endpoint) : Bool :=
  match ep.proto with
  | .udp | .unixDgram => true
  | _ => false

/-- `endpoint_is_listenable`. -/
def endpointIsListenable (ep : Endpoint) : Bool := endpointIsStream ep || endpointIsDatagram ep

/-- `validate_route`. -/
def validateRoute (r : Route) : Except Errno Unit :=
  if !endpointIsListenable r.listen then .error .einval else
  if endpointIsStream r.listen then
    if endpointIsStream r.upstream || r.upstream.proto = .file || r.upstream.proto = .builtin then .ok ()
    else .error .einval
  else if endpointIsDatagram r.listen then
    if endpointIsDatagram r.upstream || r.upstream.proto = .builtin then .ok () else .error .einval
  else .error .einval

/-! ## Builtin upstreams -/

/-- `enum x_builtin_action`. -/
inductive XBuiltinAction where
  | close | discard | hang | httpResp
  deriving DecidableEq, Repr

/-- `struct x_builtin_response`, with the `data_len` bytes of its data. -/
structure XBuiltinResponse where
  action : XBuiltinAction
  data : Bytes := []
  deriving DecidableEq, Repr

/-- `sizeof(res->data)`. -/
def xBuiltinDataSize : Nat := 256

/-- `x_builtin_handle` for a builtin and the client's address, which is `none` where it could not be told. -/
def xBuiltinHandle (builtin : XBuiltinUpstream) (clientAddr : Option Bytes) : Except Errno XBuiltinResponse :=
  match builtin with
  | .clientAddr =>
    match clientAddr with
    | none => .error .einval
    | some addr =>
      let data := addr ++ [0x0a]
      if data.length ≥ xBuiltinDataSize then .error .enospc else .ok { action := .close, data := data }
  | .httpOk =>
    .ok { action := .httpResp
          data := ascii "HTTP/1.1 200 OK\r\nContent-Length: 2\r\nConnection: close\r\n\r\nOK" }
  | .discard => .ok { action := .discard }
  | .logConn => .ok { action := .close }
  | .close => .ok { action := .close }
  | .hang => .ok { action := .hang }
  | .none => .error .einval

/-- What `start_stream_builtin` leaves of a connection: freed, freed once the data is written, answered and open until
the client closes (with or without data to write first), read and dropped, or left alone. -/
inductive StreamBuiltin where
  | freed
  | closeAfterWrite (data : Bytes)
  | httpResponse (data : Bytes)
  | httpFinished
  | discard
  | hang
  deriving DecidableEq, Repr

/-- The switch of `start_stream_builtin`; `none` is its default branch. -/
def streamBuiltinAction (res : XBuiltinResponse) : Option StreamBuiltin :=
  match res.action with
  | .close => some (if res.data.length > 0 then .closeAfterWrite res.data else .freed)
  | .httpResp => some (if res.data.length > 0 then .httpResponse res.data else .httpFinished)
  | .discard => some .discard
  | .hang => some .hang

/-- `start_stream_builtin`. -/
def startStreamBuiltin (r : Route) (clientAddr : Option Bytes) : StreamBuiltin × Except Errno Unit :=
  match xBuiltinHandle r.upstream.builtin clientAddr with
  | .error rc => (.freed, .error rc)
  | .ok res =>
    match streamBuiltinAction res with
    | some left => (left, .ok ())
    | none => (.freed, .error .einval)

/-- What `start_datagram_builtin` does for a packet: nothing, or an answer. -/
inductive DatagramBuiltin where
  | silent
  | answer (data : Bytes)
  deriving DecidableEq, Repr

/-- The switch of `start_datagram_builtin`; `none` is its default branch. -/
def datagramBuiltinAction (res : XBuiltinResponse) : Option DatagramBuiltin :=
  match res.action with
  | .close => some (if res.data.length = 0 then .silent else .answer res.data)
  | .discard => some .silent
  | .hang => some .silent
  | _ => none

/-- `start_datagram_builtin`, with the outcome of `sendto`. -/
def startDatagramBuiltin (r : Route) (clientAddr : Option Bytes) (sendto : Except Errno Unit) : Except Errno Unit :=
  match xBuiltinHandle r.upstream.builtin clientAddr with
  | .error rc => .error rc
  | .ok res =>
    match datagramBuiltinAction res with
    | some .silent => .ok ()
    | some (.answer _) => sendto
    | none => .error .einval

/-! ## Endpoints and their switches -/

/-- An endpoint on a socket is an address, or a path of the socket's own protocol. -/
theorem socketEndpoint_cases {ep : Endpoint} {proto : EndpointProto} {kind : EndpointKind} (good : ep.WellFormed)
    (own : (proto, kind) = (.unixStream, .unix) ∨ (proto, kind) = (.unixDgram, .unixDgram))
    (socket : ep.proto = .tcp ∨ ep.proto = .udp ∨ ep.proto = proto) :
    (ep.kind = .inet ∨ ep.kind = .inet6) ∨ (ep.kind = kind ∧ ep.path ≠ [] ∧ ep.path.length < sunPathSize) := by
  cases good with
  | inet => exact .inl (.inl rfl)
  | inet6 => exact .inl (.inr rfl)
  | @path _ _ path kinds nonempty short text =>
    have fits : path.length < sunPathSize := by
      simp only [sunPathSize]
      omega
    simp only [Prod.mk.injEq] at kinds own
    rcases kinds with ⟨rfl, rfl⟩ | ⟨rfl, rfl⟩ | ⟨rfl, rfl⟩ <;> rcases own with ⟨rfl, rfl⟩ | ⟨rfl, rfl⟩ <;>
      simp [nonempty, fits] at socket ⊢
  | builtin => rcases own with own | own <;> cases own <;> simp at socket

theorem endpointIsStream_iff {ep : Endpoint} :
    endpointIsStream ep = true ↔ ep.proto = .tcp ∨ ep.proto = .unixStream := by
  unfold endpointIsStream
  cases ep.proto <;> simp

theorem endpointIsDatagram_iff {ep : Endpoint} :
    endpointIsDatagram ep = true ↔ ep.proto = .udp ∨ ep.proto = .unixDgram := by
  unfold endpointIsDatagram
  cases ep.proto <;> simp

/-- What a stream endpoint of the configuration is. -/
theorem streamEndpoint_cases {ep : Endpoint} (good : ep.WellFormed) (stream : endpointIsStream ep = true) :
    (ep.kind = .inet ∨ ep.kind = .inet6) ∨ (ep.kind = .unix ∧ ep.path ≠ [] ∧ ep.path.length < sunPathSize) :=
  socketEndpoint_cases good (.inl rfl) ((endpointIsStream_iff.1 stream).imp_right .inr)

/-- What a datagram endpoint of the configuration is. -/
theorem datagramEndpoint_cases {ep : Endpoint} (good : ep.WellFormed) (datagram : endpointIsDatagram ep = true) :
    (ep.kind = .inet ∨ ep.kind = .inet6) ∨ (ep.kind = .unixDgram ∧ ep.path ≠ [] ∧ ep.path.length < sunPathSize) :=
  socketEndpoint_cases good (.inr rfl) (.inr (endpointIsDatagram_iff.1 datagram))

theorem endpointToSockaddr_error {inetPton : InetPton} {ep : Endpoint} {err : Errno}
    (failed : endpointToSockaddr inetPton ep = .error err) : err = .einval := by
  unfold endpointToSockaddr at failed
  split at failed
  · split at failed
    · cases failed
    · cases failed
      rfl
  · split at failed
    · cases failed
    · cases failed
      rfl
  · cases failed
    rfl

/-- A stream upstream is connected by its own case, so only the connect itself can fail with `ENOTSUP`. -/
theorem connectUpstream_supported {env : AdoptEnv} {ep : Endpoint} (good : ep.WellFormed)
    (stream : endpointIsStream ep = true) (system : env.connect ≠ .error .enotsup) :
    connectUpstream env ep ≠ .error .enotsup := by
  rcases streamEndpoint_cases good stream with inet | ⟨kind, nonempty, short⟩
  · cases converted : endpointToSockaddr env.inetPton ep with
    | error err =>
      obtain rfl := endpointToSockaddr_error converted
      rcases inet with kind | kind <;> simp [connectUpstream, kind, converted]
    | ok address => rcases inet with kind | kind <;> simpa [connectUpstream, kind, converted] using system
  · have fits : ¬ ep.path.length ≥ sunPathSize := by omega
    simpa [connectUpstream, kind, nonempty, fits] using system

/-- A datagram upstream is connected by its own case, so only the calls on its socket can fail with `ENOTSUP`. -/
theorem connectDatagramUpstream_supported {env : PacketEnv} {s : Sockets} {ep : Endpoint} (good : ep.WellFormed)
    (datagram : endpointIsDatagram ep = true) (socket : env.socket ≠ some .enotsup) (bind : env.bind ≠ some .enotsup)
    (connect : env.connect ≠ some .enotsup) : (connectDatagramUpstream env s ep).2.2 ≠ .error .enotsup := by
  rcases datagramEndpoint_cases good datagram with inet | ⟨kind, nonempty, short⟩
  · cases converted : endpointToSockaddr env.inetPton ep with
    | error err =>
      obtain rfl := endpointToSockaddr_error converted
      rcases inet with kind | kind <;> simp [connectDatagramUpstream, kind, converted]
    | ok address =>
      cases opened : env.socket with
      | some err =>
        rw [opened] at socket
        rcases inet with kind | kind <;> simpa [connectDatagramUpstream, kind, converted, opened] using socket
      | none =>
        cases linked : env.connect with
        | some err =>
          rw [linked] at connect
          rcases inet with kind | kind <;> simpa [connectDatagramUpstream, kind, converted, opened, linked] using connect
        | none => rcases inet with kind | kind <;> simp [connectDatagramUpstream, kind, converted, opened, linked]
  · have fits : ¬ ep.path.length ≥ sunPathSize := by omega
    simp only [connectDatagramUpstream, kind, if_neg nonempty, if_neg fits]
    cases opened : env.socket with
    | some err =>
      rw [opened] at socket
      simpa using socket
    | none =>
      cases fit : env.localPathFits with
      | false => simp
      | true =>
        cases named : env.bind with
        | some err =>
          rw [named] at bind
          simpa using bind
        | none =>
          cases linked : env.connect with
          | some err =>
            rw [linked] at connect
            simpa using connect
          | none => simp

/-- What each builtin answers with. -/
theorem xBuiltinHandle_action {builtin : XBuiltinUpstream} {clientAddr : Option Bytes} {res : XBuiltinResponse}
    (answered : xBuiltinHandle builtin clientAddr = .ok res) : res.action = .httpResp ↔ builtin = .httpOk := by
  cases builtin with
  | clientAddr =>
    cases clientAddr with
    | none => cases answered
    | some addr =>
      simp only [xBuiltinHandle] at answered
      split at answered
      · cases answered
      · cases answered
        simp
  | none => cases answered
  | discard | hang | httpOk | logConn | close =>
    cases answered
    simp

theorem streamBuiltin_handled {r : Route} {clientAddr : Option Bytes} {res : XBuiltinResponse}
    (answered : xBuiltinHandle r.upstream.builtin clientAddr = .ok res) :
    ∃ left, streamBuiltinAction res = some left ∧ startStreamBuiltin r clientAddr = (left, .ok ()) := by
  obtain ⟨left, action⟩ : ∃ left, streamBuiltinAction res = some left := by
    unfold streamBuiltinAction
    cases res.action <;> exact ⟨_, rfl⟩
  exact ⟨left, action, by simp only [startStreamBuiltin, answered, action]⟩

theorem datagramBuiltin_handled_iff {r : Route} {clientAddr : Option Bytes} {res : XBuiltinResponse}
    (answered : xBuiltinHandle r.upstream.builtin clientAddr = .ok res) :
    (∃ done, datagramBuiltinAction res = some done ∧ startDatagramBuiltin r clientAddr (.ok ()) = .ok ()) ↔
      r.upstream.builtin ≠ .httpOk := by
  rw [ne_eq, ← xBuiltinHandle_action answered]
  constructor
  · rintro ⟨done, action, -⟩ http
    simp [datagramBuiltinAction, http] at action
  · intro other
    obtain ⟨done, action⟩ : ∃ done, datagramBuiltinAction res = some done := by
      unfold datagramBuiltinAction
      cases kind : res.action with
      | httpResp => exact absurd kind other
      | close | discard | hang => exact ⟨_, rfl⟩
    refine ⟨done, action, ?_⟩
    cases done <;> simp only [startDatagramBuiltin, answered, action]

theorem not_datagram_of_stream {ep : Endpoint} (stream : endpointIsStream ep = true) :
    endpointIsDatagram ep ≠ true := by
  rw [ne_eq, endpointIsDatagram_iff]
  rcases endpointIsStream_iff.1 stream with proto | proto <;> simp [proto]

/-- What `validate_route` lets through. -/
theorem validateRoute_ok {r : Route} (valid : validateRoute r = .ok ()) :
    (endpointIsStream r.listen = true ∧
        (endpointIsStream r.upstream = true ∨ r.upstream.proto = .file ∨ r.upstream.proto = .builtin)) ∨
      (endpointIsStream r.listen = false ∧ endpointIsDatagram r.listen = true ∧
        (endpointIsDatagram r.upstream = true ∨ r.upstream.proto = .builtin)) := by
  unfold validateRoute at valid
  split at valid
  · cases valid
  split at valid
  case isTrue stream =>
    split at valid
    case isTrue upstream => exact .inl ⟨stream, by simpa [or_assoc] using upstream⟩
    case isFalse => cases valid
  case isFalse other =>
    split at valid
    case isTrue datagram =>
      split at valid
      case isTrue upstream => exact .inr ⟨by simpa using other, datagram, by simpa using upstream⟩
      case isFalse => cases valid
    case isFalse => cases valid

theorem Endpoint.WellFormed.kind_of_proto {ep : Endpoint} (good : ep.WellFormed) :
    (ep.proto = .builtin ↔ ep.kind = .builtin) ∧ (ep.proto = .file ↔ ep.kind = .file) := by
  cases good with
  | inet transport => rcases transport with rfl | rfl <;> simp
  | inet6 transport => rcases transport with rfl | rfl <;> simp
  | path kinds =>
    simp only [Prod.mk.injEq] at kinds
    rcases kinds with ⟨rfl, rfl⟩ | ⟨rfl, rfl⟩ | ⟨rfl, rfl⟩ <;> simp
  | builtin => simp

/-- Only a builtin endpoint names a builtin. -/
theorem Endpoint.WellFormed.kind_of_builtin {ep : Endpoint} (good : ep.WellFormed) (named : ep.builtin ≠ .none) :
    ep.kind = .builtin := by
  cases good with
  | builtin => rfl
  | inet | inet6 | path => exact absurd rfl named

end Tinyproxy
