import Tinyproxy.Net.ProxyProtoV2
import Tinyproxy.Route

/-!
# Raw reply packets

`datagram_raw.c` as it is built for a little-endian Linux host: the IPv4 and UDP headers
`datagram_raw_send_udp_ipv4` writes in front of a payload, and the packet it hands to
`sendto`. A header is the memory of its struct; fields that are set with `htons`, or
copied from a socket address, are in network order, `sum` is stored as `checksum16`
returns it.
-/

namespace Tinyproxy

/-- What the calls made for one reply return; a short `sendto` counts as `EIO`. -/
structure ReplyEnv where
  inetPton : InetPton := fun _ _ => none
  callocOk : Bool := true
  sendto : Option Errno := none

/-- What is made of the result of `sendto`. -/
def ReplyEnv.sendtoResult (env : ReplyEnv) : Except Errno Unit :=
  match env.sendto with
  | some err => .error err
  | none => .ok ()

/-- The first loop of `checksum16`, and the odd byte behind it. -/
def checksum16Sum (sum : UInt32) : Bytes → UInt32
  | a :: b :: rest => checksum16Sum (sum + (a.toUInt32 <<< 8 ||| b.toUInt32)) rest
  | [a] => sum + a.toUInt32 <<< 8
  | [] => sum

/-- The folding loop of `checksum16`. -/
def checksum16Fold (sum : UInt32) : UInt32 :=
  if sum >>> 16 ≠ 0 then checksum16Fold ((sum &&& (0xffff : UInt32)) + sum >>> 16) else sum
termination_by sum.toNat
decreasing_by
  rename_i more
  have high : sum.toNat / 65536 ≠ 0 := by
    intro zero
    apply more
    apply UInt32.toNat_inj.1
    simpa [Nat.shiftRight_eq_div_pow] using zero
  have low : sum.toNat &&& 65535 = sum.toNat % 65536 := Nat.and_two_pow_sub_one_eq_mod sum.toNat 16
  have bound := sum.toNat_lt
  have fits : sum.toNat % 65536 + sum.toNat / 65536 < 4294967296 := by omega
  simp only [UInt32.toNat_add, UInt32.toNat_and, UInt32.toNat_shiftRight, UInt32.reduceToNat, low, Nat.reduceMod,
    Nat.shiftRight_eq_div_pow, Nat.reducePow]
  rw [Nat.mod_eq_of_lt fits]
  omega

/-- `checksum16`. -/
def checksum16 (data : Bytes) : UInt16 := (~~~ checksum16Fold (checksum16Sum 0 data)).toUInt16

/-- A `uint16_t` as a little-endian host stores it. -/
def hostU16 (v : UInt16) : Bytes := [v.toUInt8, (v >>> 8).toUInt8]

def sizeofRawIpv4Hdr : Nat := 20
def sizeofRawUdpHdr : Nat := 8

/-- `struct raw_ipv4_hdr`: version and header length, type of service, `len`, `id`, `off`, time to live,
protocol, `sum`, `src` and `dst`. -/
def rawIpv4Hdr (len sum : UInt16) (src dst : Bytes) : Bytes :=
  [0x45, 0] ++ htons len ++ [0, 0] ++ htons 0 ++ [64, 17] ++ hostU16 sum ++ src ++ dst

/-- `struct raw_udp_hdr`, without a checksum. -/
def rawUdpHdr (sport dport : Bytes) (len : UInt16) : Bytes := sport ++ dport ++ htons len ++ [0, 0]

/-- `endpoint_to_sockaddr_in`. -/
def endpointToSockaddrIn (inetPton : InetPton) (ep : Endpoint) : Except Errno SockaddrStorage :=
  if ep.kind ≠ .inet then .error .einval else
  match inetPton afInet ep.host with
  | some addr => .ok (.ofBytes ([2, 0] ++ htons ep.port ++ addr))
  | none => .error .einval

/-- The packet `datagram_raw_send_udp_ipv4` builds. -/
def rawUdpIpv4Packet (src dst data : Bytes) : Bytes :=
  let packetLen := UInt16.ofNat (sizeofRawIpv4Hdr + sizeofRawUdpHdr + data.length)
  let sum := checksum16 (rawIpv4Hdr packetLen 0 (sinAddr src) (sinAddr dst))
  rawIpv4Hdr packetLen sum (sinAddr src) (sinAddr dst) ++
    rawUdpHdr (sinPort src) (sinPort dst) (UInt16.ofNat (sizeofRawUdpHdr + data.length)) ++ data

/-- `datagram_raw_send_udp_ipv4`: what is handed to `sendto`, if that is reached, and the result. -/
def datagramRawSendUdpIpv4 (env : ReplyEnv) (rawOpen : Bool) (srcEp : Endpoint) (dst : Bytes) (dstLen : Nat)
    (data : Bytes) : Option Bytes × Except Errno Unit :=
  if !rawOpen then (none, .error .einval) else
  if dstLen < sizeofSockaddrIn then (none, .error .einval) else
  if saFamily dst ≠ afInet then (none, .error .eafnosupport) else
  match endpointToSockaddrIn env.inetPton srcEp with
  | .error rc => (none, .error rc)
  | .ok src =>
    if data.length > 65535 - sizeofRawIpv4Hdr - sizeofRawUdpHdr then (none, .error .emsgsize) else
    if !env.callocOk then (none, .error .enomem) else
    (some (rawUdpIpv4Packet src.bytes dst data), env.sendtoResult)

/-! ## Where a packet goes -/

/-- The destination address and port in a raw packet, in network order. -/
def rawDestination (packet : Bytes) : Bytes × Bytes := ((packet.drop 16).take 4, (packet.drop 22).take 2)

/-- What is behind the headers of a raw packet. -/
def rawPayload (packet : Bytes) : Bytes := packet.drop (sizeofRawIpv4Hdr + sizeofRawUdpHdr)

/-- A packet carries the payload to the address and port it was built for. -/
theorem rawUdpIpv4Packet_dst {src dst data : Bytes} (srcSize : sizeofSockaddrIn ≤ src.length)
    (dstSize : sizeofSockaddrIn ≤ dst.length) :
    rawDestination (rawUdpIpv4Packet src dst data) = (sinAddr dst, sinPort dst) ∧
      rawPayload (rawUdpIpv4Packet src dst data) = data := by
  have srcAddr := ProxyV2.sinAddr_length srcSize
  have dstAddr := ProxyV2.sinAddr_length dstSize
  have sport := ProxyV2.sinPort_length srcSize
  have dport := ProxyV2.sinPort_length dstSize
  simp only [rawDestination, rawPayload, rawUdpIpv4Packet, rawIpv4Hdr, rawUdpHdr, Prod.mk.injEq]
  refine ⟨⟨?_, ?_⟩, ?_⟩
  · rw [List.append_assoc, List.append_assoc]
    apply Lib.take_drop_mid
    · simp [htons, hostU16, srcAddr]
    · exact dstAddr
  · rw [← List.append_assoc, ← List.append_assoc, ← List.append_assoc, List.append_assoc, List.append_assoc,
      List.append_assoc]
    apply Lib.take_drop_mid
    · simp [htons, hostU16, srcAddr, dstAddr, sport]
    · exact dport
  · apply List.drop_left'
    simp [htons, hostU16, srcAddr, dstAddr, sport, dport, sizeofRawIpv4Hdr, sizeofRawUdpHdr]

/-- **What reaches the raw socket** is a packet for the address and port asked for, with the payload as it is. -/
theorem datagramRawSend_dst {env : ReplyEnv} {rawOpen : Bool} {srcEp : Endpoint} {dst : SockaddrStorage} {dstLen : Nat}
    {data packet : Bytes} {rc : Except Errno Unit}
    (sent : datagramRawSendUdpIpv4 env rawOpen srcEp dst.bytes dstLen data = (some packet, rc)) :
    rawDestination packet = (sinAddr dst.bytes, sinPort dst.bytes) ∧ rawPayload packet = data := by
  have size : ∀ a : SockaddrStorage, sizeofSockaddrIn ≤ a.bytes.length := by
    intro a
    rw [a.size]
    decide
  unfold datagramRawSendUdpIpv4 at sent
  repeat' split at sent
  all_goals cases sent
  exact rawUdpIpv4Packet_dst (size _) (size dst)

end Tinyproxy
