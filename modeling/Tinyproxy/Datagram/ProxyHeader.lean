import Tinyproxy.Datagram.Client
import Tinyproxy.Net.ProxyDecode

/-!
# PROXY v2 headers in front of datagrams

`send_datagram_payload_to_upstream` on a `proxy_v2` route: header and payload leave in
one datagram, if they fit. It serves IPv4 only and refuses every other family before it
builds anything, although `proxy_v2_build` could lay out an IPv6 header as well.
-/

namespace Tinyproxy

open ProxyV2

theorem SockaddrStorage.holds (a : SockaddrStorage) (f : Family) : f.sockaddrSize ≤ a.bytes.length := by
  rw [a.size]
  cases f <;> decide

section Upstream

variable {ctx : DatagramRouteCtx} {env : PacketEnv} {c : DatagramClient} {payload : Bytes}

/-- Other families are refused, and nothing is sent. -/
theorem sendPayload_foreign (asked : ctx.route.opts.proxyV2 = true)
    (foreign : ¬ (c.clientAddr.family = afInet ∧ ctx.localAddr.family = afInet)) :
    sendDatagramPayloadToUpstream ctx env c payload = (none, .error .eafnosupport) := by
  have refused : c.clientAddr.family ≠ afInet ∨ ctx.localAddr.family ≠ afInet := not_and_or.1 foreign
  simp only [sendDatagramPayloadToUpstream, asked, Bool.not_true, Bool.false_eq_true, if_false, if_pos refused]

/-- Between IPv4 addresses the header is built in the 256 bytes of `hdr`. -/
theorem clientHeader_built (client : c.clientAddr.family = afInet) (here : ctx.localAddr.family = afInet)
    (clientLen : sizeofSockaddrIn ≤ c.clientAddrLen) (localLen : sizeofSockaddrIn ≤ ctx.localAddrLen) :
    ∃ done, proxyV2Build ⟨env.hdr, 0⟩ c.clientAddr.bytes c.clientAddrLen ctx.localAddr.bytes ctx.localAddrLen .dgram =
        (done, .ok ()) ∧
      done.outLen = 28 ∧
      done.buf.take done.outLen = header .inet .dgram c.clientAddr.bytes ctx.localAddr.bytes := by
  have room : 16 + Family.inet.blockSize ≤ (HeaderOut.mk env.hdr 0).buf.length := by
    show 28 ≤ env.hdr.length
    rw [env.hdrSize]
    decide
  exact build_header (f := .inet) (t := .dgram) client here (c.clientAddr.holds .inet) (ctx.localAddr.holds .inet)
    clientLen localLen room

/-- Header and payload are handed to one `send`, unless they are too long together. -/
theorem sendPayload_built {done : HeaderOut} (asked : ctx.route.opts.proxyV2 = true)
    (client : c.clientAddr.family = afInet) (here : ctx.localAddr.family = afInet)
    (built : proxyV2Build ⟨env.hdr, 0⟩ c.clientAddr.bytes c.clientAddrLen ctx.localAddr.bytes ctx.localAddrLen .dgram =
      (done, .ok ())) :
    (done.outLen + payload.length ≤ udpMaxPacket →
      (sendDatagramPayloadToUpstream ctx env c payload).1 = some (done.buf.take done.outLen ++ payload)) ∧
    (udpMaxPacket < done.outLen + payload.length →
      sendDatagramPayloadToUpstream ctx env c payload = (none, .error .emsgsize)) := by
  have served : ¬ (c.clientAddr.family ≠ afInet ∨ ctx.localAddr.family ≠ afInet) := by
    simp [client, here]
  simp only [sendDatagramPayloadToUpstream, asked, Bool.not_true, Bool.false_eq_true, if_false, if_neg served, built]
  constructor
  · intro fits
    rw [if_neg (by omega)]
  · intro exceeds
    rw [if_pos exceeds]

end Upstream

/-- **PROXY v2, built and read back.** Every header that `proxy_v2_build` builds between two addresses of one family
decodes to them, whatever follows it; a datagram on a `proxy_v2` route between IPv4 addresses is the header and the
payload, or is refused as too long, and one between other addresses is refused; and a failed build writes nothing. -/
theorem proxy_v2_round_trip :
    (∀ (f : Family) (t : Transport) (out : HeaderOut) (src dst payload : Bytes) (srcLen dstLen : Nat),
      saFamily src = f.af → saFamily dst = f.af → f.sockaddrSize ≤ src.length → f.sockaddrSize ≤ dst.length →
      f.sockaddrSize ≤ srcLen → f.sockaddrSize ≤ dstLen → 16 + f.blockSize ≤ out.buf.length →
      ∃ done, proxyV2Build out src srcLen dst dstLen t.sockType = (done, .ok ()) ∧
        decode (done.buf.take done.outLen ++ payload) = some (meaning f t src dst payload)) ∧
    (∀ (ctx : DatagramRouteCtx) (env : PacketEnv) (c : DatagramClient) (payload : Bytes),
      ctx.route.opts.proxyV2 = true → c.clientAddr.family = afInet → ctx.localAddr.family = afInet →
      sizeofSockaddrIn ≤ c.clientAddrLen → sizeofSockaddrIn ≤ ctx.localAddrLen →
      ∃ done, proxyV2Build ⟨env.hdr, 0⟩ c.clientAddr.bytes c.clientAddrLen ctx.localAddr.bytes ctx.localAddrLen .dgram =
          (done, .ok ()) ∧
        (done.outLen + payload.length ≤ udpMaxPacket →
          (sendDatagramPayloadToUpstream ctx env c payload).1 = some (done.buf.take done.outLen ++ payload) ∧
          decode (done.buf.take done.outLen ++ payload) =
            some (meaning .inet .dgram c.clientAddr.bytes ctx.localAddr.bytes payload)) ∧
        (udpMaxPacket < done.outLen + payload.length →
          sendDatagramPayloadToUpstream ctx env c payload = (none, .error .emsgsize))) ∧
    (∀ (ctx : DatagramRouteCtx) (env : PacketEnv) (c : DatagramClient) (payload : Bytes),
      ctx.route.opts.proxyV2 = true → ¬ (c.clientAddr.family = afInet ∧ ctx.localAddr.family = afInet) →
      sendDatagramPayloadToUpstream ctx env c payload = (none, .error .eafnosupport)) ∧
    (∀ (out done : HeaderOut) (src dst : Bytes) (srcLen dstLen : Nat) (sockType : SockType) (err : Errno),
      proxyV2Build out src srcLen dst dstLen sockType = (done, .error err) → done = out) := by
  refine ⟨?_, ?_, ?_, ?_⟩
  · intro f t out src dst payload srcLen dstLen srcFamily dstFamily srcSize dstSize srcEnough dstEnough room
    obtain ⟨done, built, -, written⟩ :=
      build_header (t := t) srcFamily dstFamily srcSize dstSize srcEnough dstEnough room
    refine ⟨done, built, ?_⟩
    rw [written]
    exact decode_header srcSize dstSize
  · intro ctx env c payload asked client here clientLen localLen
    obtain ⟨done, built, -, written⟩ := clientHeader_built client here clientLen localLen
    obtain ⟨fits, exceeds⟩ := sendPayload_built asked client here built
    refine ⟨done, built, ?_, exceeds⟩
    intro small
    refine ⟨fits small, ?_⟩
    rw [written]
    exact decode_header (c.clientAddr.holds .inet) (ctx.localAddr.holds .inet)
  · intro ctx env c payload asked foreign
    exact sendPayload_foreign asked foreign
  · intro out done src dst srcLen dstLen sockType err failed
    exact build_error failed

/-- A `proxy_v2` route on the address `here`. -/
def headedDatagramCtx (here : Bytes) : DatagramRouteCtx where
  route :=
    { listen := { kind := .inet, proto := .udp, port := 8080 }
      upstream := { kind := .inet, proto := .udp, host := [0x31], port := 53 }
      opts := { proxyV2 := true } }
  localAddr := .ofBytes here
  localAddrLen := here.length

/-- Its client at the address `peer`. -/
def headedDatagramClient (peer : Bytes) : DatagramClient where
  id := 0
  base := 0
  fd := 0
  clientAddr := .ofBytes peer
  clientAddrLen := peer.length
  lastSeen := 0

def plainPacketEnv : PacketEnv where
  now := 0
  inetPton := fun _ _ => none
  hdr := List.replicate 256 0
  hdrSize := length_zeroHdr

theorem proxy_v2_round_trip_udp :
    ∃ packet, (sendDatagramPayloadToUpstream (headedDatagramCtx (sockaddrIn (127, 0, 0, 1) (31, 144))) plainPacketEnv
        (headedDatagramClient (sockaddrIn (192, 0, 2, 7) (4, 87))) [1, 2, 3]).1 = some packet ∧
      decode packet = some
        { family := .inet, transport := .dgram, length := 12, srcAddr := [192, 0, 2, 7], dstAddr := [127, 0, 0, 1]
          srcPort := 1111, dstPort := 8080, payload := [1, 2, 3] } := by
  obtain ⟨-, datagrams, -⟩ := proxy_v2_round_trip
  obtain ⟨done, built, fits, -⟩ := datagrams (headedDatagramCtx (sockaddrIn (127, 0, 0, 1) (31, 144))) plainPacketEnv
    (headedDatagramClient (sockaddrIn (192, 0, 2, 7) (4, 87))) [1, 2, 3] rfl rfl rfl (by decide) (by decide)
  obtain ⟨done', again, size, -⟩ := @clientHeader_built (headedDatagramCtx (sockaddrIn (127, 0, 0, 1) (31, 144)))
    plainPacketEnv (headedDatagramClient (sockaddrIn (192, 0, 2, 7) (4, 87))) rfl rfl (by decide) (by decide)
  cases built.symm.trans again
  obtain ⟨sent, read⟩ := fits (by rw [size]; decide)
  refine ⟨_, sent, read.trans ?_⟩
  decide

/-- The address `2001:db8::1` on the given port. -/
def sockaddrIn6 (port : UInt8 × UInt8) : Bytes :=
  [10, 0, port.1, port.2, 0, 0, 0, 0, 32, 1, 13, 184, 0, 0, 0, 0, 0, 0, 0, 0, 0, 0, 0, 1, 0, 0, 0, 0]

/-- Between IPv6 addresses nothing is sent, however short the packet is. -/
theorem proxy_v2_udp_ipv6_refused :
    52 + ([1, 2, 3] : Bytes).length ≤ udpMaxPacket ∧
    sendDatagramPayloadToUpstream (headedDatagramCtx (sockaddrIn6 (31, 144))) plainPacketEnv
      (headedDatagramClient (sockaddrIn6 (4, 87))) [1, 2, 3] = (none, .error .eafnosupport) :=
  ⟨by decide, rfl⟩

end Tinyproxy
