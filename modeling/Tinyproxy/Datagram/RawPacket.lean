import Tinyproxy.Datagram.Checksum
import Tinyproxy.Lib.CString
import Tinyproxy.Lib.InetPton

/-!
# What a raw reply is on the wire

A receiver reads the packet of `datagram_raw_send_udp_ipv4` by the layout of IPv4 and UDP,
which `decodeIpv4` and `decodeUdp` follow. The fields are the ones the reply was sent with.
The header checksum is another matter: `checksum16` works on big-endian words, and its
result is stored through a `uint16_t` without `htons`.
-/

namespace Tinyproxy

open Lib (be16 words onesSum Carried)

/-- An IPv4 packet: the fields of its header and what the header is in front of. -/
structure Ipv4Packet where
  version : Nat
  ihl : Nat
  totalLength : Nat
  moreFragments : Bool
  fragmentOffset : Nat
  protocol : Nat
  src : Bytes
  dst : Bytes
  data : Bytes
  deriving DecidableEq

/-- A UDP datagram. -/
structure UdpDatagram where
  sport : Nat
  dport : Nat
  length : Nat
  payload : Bytes
  deriving DecidableEq

/-- The packet in `p`, by the layout of the IPv4 header. -/
def decodeIpv4 (p : Bytes) : Option Ipv4Packet :=
  if p.length < 20 then none else
  let ihl := (p.getD 0 0).toNat % 16
  let off := be16 (p.getD 6 0) (p.getD 7 0)
  some {
    version := (p.getD 0 0).toNat / 16
    ihl := ihl
    totalLength := be16 (p.getD 2 0) (p.getD 3 0)
    moreFragments := off / 8192 % 2 = 1
    fragmentOffset := off % 8192
    protocol := (p.getD 9 0).toNat
    src := (p.drop 12).take 4
    dst := (p.drop 16).take 4
    data := p.drop (4 * ihl) }

/-- The datagram in `d`, by the layout of the UDP header. -/
def decodeUdp (d : Bytes) : Option UdpDatagram :=
  if d.length < 8 then none else
  some {
    sport := be16 (d.getD 0 0) (d.getD 1 0)
    dport := be16 (d.getD 2 0) (d.getD 3 0)
    length := be16 (d.getD 4 0) (d.getD 5 0)
    payload := d.drop 8 }

/-- `sin_port` as a number. -/
def sinPortNumber (sa : Bytes) : Nat := be16 (sa.getD 2 0) (sa.getD 3 0)

/-- `packet` is the datagram `data` from one address and port to another, whole and with all its lengths right. -/
structure DecodesAs (packet srcAddr : Bytes) (srcPort : Nat) (dstAddr : Bytes) (dstPort : Nat) (data : Bytes) : Prop where
  ip : decodeIpv4 packet = some {
    version := 4, ihl := 5, totalLength := packet.length, moreFragments := false, fragmentOffset := 0
    protocol := 17, src := srcAddr, dst := dstAddr, data := packet.drop 20 }
  udp : decodeUdp (packet.drop 20) = some { sport := srcPort, dport := dstPort, length := 8 + data.length, payload := data }

theorem exists_four {l : Bytes} (size : l.length = 4) : ∃ a b c d, l = [a, b, c, d] := by
  rcases l with _ | ⟨a, _ | ⟨b, _ | ⟨c, _ | ⟨d, _ | ⟨e, l⟩⟩⟩⟩⟩
  case cons.cons.cons.cons.nil => exact ⟨a, b, c, d, rfl⟩
  all_goals simp at size

theorem be16_ofNat {n : Nat} (small : n < 65536) :
    be16 (UInt16.ofNat n >>> 8).toUInt8 (UInt16.ofNat n).toUInt8 = n := by
  rw [Lib.be16_bytes, UInt16.toNat_ofNat_of_lt' small]

theorem sinPort_eq {sa : Bytes} (size : 4 ≤ sa.length) : sinPort sa = [sa.getD 2 0, sa.getD 3 0] := by
  rcases sa with _ | ⟨a, _ | ⟨b, _ | ⟨c, _ | ⟨d, sa⟩⟩⟩⟩
  case cons.cons.cons.cons => rfl
  all_goals simp at size

theorem decodeIpv4_header (l1 l0 s1 s0 a b c d a' b' c' d' : UInt8) (rest : Bytes) :
    decodeIpv4 ([0x45, 0, l1, l0, 0, 0, 0, 0, 64, 17, s1, s0, a, b, c, d, a', b', c', d'] ++ rest) = some {
      version := 4, ihl := 5, totalLength := be16 l1 l0, moreFragments := false, fragmentOffset := 0
      protocol := 17, src := [a, b, c, d], dst := [a', b', c', d'], data := rest } := by
  have none : be16 0 0 = 0 := by decide
  rw [decodeIpv4, if_neg (by simp)]
  simp [none]

theorem decodeUdp_header (p1 p0 q1 q0 l1 l0 : UInt8) (payload : Bytes) :
    decodeUdp ([p1, p0, q1, q0, l1, l0, 0, 0] ++ payload) =
      some { sport := be16 p1 p0, dport := be16 q1 q0, length := be16 l1 l0, payload := payload } := by
  rw [decodeUdp, if_neg (by simp)]
  rfl

/-- Every packet decodes to what it was built from. -/
theorem rawUdpIpv4Packet_decodes {src dst srcAddr dstAddr data : Bytes} {port : UInt16} (origin : sinAddr src = srcAddr)
    (originPort : sinPort src = htons port) (originSize : srcAddr.length = 4) (target : sinAddr dst = dstAddr)
    (targetSize : dstAddr.length = 4) (size : 4 ≤ dst.length) (fits : data.length ≤ 65507) :
    DecodesAs (rawUdpIpv4Packet src dst data) srcAddr port.toNat dstAddr (sinPortNumber dst) data := by
  obtain ⟨a, b, c, d, rfl⟩ := exists_four originSize
  obtain ⟨a', b', c', d', rfl⟩ := exists_four targetSize
  have total := be16_ofNat (show 20 + 8 + data.length < 65536 by omega)
  have short := be16_ofNat (show 8 + data.length < 65536 by omega)
  have sport := Lib.be16_bytes port
  obtain ⟨s1, s0, udp, rest, shape⟩ : ∃ (s1 s0 : UInt8) (udp : Bytes),
      udp = [(port >>> 8).toUInt8, port.toUInt8, dst.getD 2 0, dst.getD 3 0,
        (UInt16.ofNat (8 + data.length) >>> 8).toUInt8, (UInt16.ofNat (8 + data.length)).toUInt8, 0, 0] ++ data ∧
      rawUdpIpv4Packet src dst data =
        [(0x45 : UInt8), 0, (UInt16.ofNat (20 + 8 + data.length) >>> 8).toUInt8,
          (UInt16.ofNat (20 + 8 + data.length)).toUInt8, 0, 0, 0, 0, 64, 17, s1, s0, a, b, c, d, a', b', c', d'] ++ udp := by
    rw [rawUdpIpv4Packet, rawIpv4Hdr, rawUdpHdr, origin, target, originPort, sinPort_eq size]
    exact ⟨_, _, _, rfl, rfl⟩
  have length : (rawUdpIpv4Packet src dst data).length = 20 + 8 + data.length := by
    rw [shape, rest]
    simp only [List.length_append, List.length_cons, List.length_nil]
    omega
  have behind : (rawUdpIpv4Packet src dst data).drop 20 = udp := by
    rw [shape]
    exact List.drop_left' rfl
  constructor
  · rw [length, behind, shape, decodeIpv4_header, total]
  · rw [behind, rest, decodeUdp_header, short, sport]
    rfl

/-! ## The call -/

/-- A reply that can be made: an INET source whose host `inet_pton` accepts, as four bytes, and an IPv4 destination. -/
structure RawRequest (env : ReplyEnv) (srcEp : Endpoint) (addr : Bytes) (dst : SockaddrStorage) (dstLen : Nat) :
    Prop where
  inet : srcEp.kind = .inet
  accepted : env.inetPton afInet srcEp.host = some addr
  sized : addr.length = 4
  family : dst.family = afInet
  len : sizeofSockaddrIn ≤ dstLen

/-- `src_addr`. -/
def rawSource (srcEp : Endpoint) (addr : Bytes) : SockaddrStorage := .ofBytes ([2, 0] ++ htons srcEp.port ++ addr)

section Request

variable {env : ReplyEnv} {srcEp : Endpoint} {addr : Bytes} {dst : SockaddrStorage} {dstLen : Nat} {data : Bytes}

theorem RawRequest.source (req : RawRequest env srcEp addr dst dstLen) :
    sinAddr (rawSource srcEp addr).bytes = addr ∧ sinPort (rawSource srcEp addr).bytes = htons srcEp.port := by
  have size := req.sized
  have whole : ([2, 0] ++ htons srcEp.port ++ addr).length = 8 := by
    simp [htons, size]
  have all : addr.take 4 = addr := List.take_of_length_le (by omega)
  constructor
  · rw [sinAddr, rawSource, ofBytes_part (by omega) (by omega)]
    exact all
  · rw [sinPort, rawSource, ofBytes_part (by omega) (by omega)]
    rfl

/-- The rest of the call, once its arguments have been checked. -/
theorem datagramRawSend_eq (req : RawRequest env srcEp addr dst dstLen) :
    datagramRawSendUdpIpv4 env true srcEp dst.bytes dstLen data =
      if data.length > 65507 then (none, .error .emsgsize) else
      if !env.callocOk then (none, .error .enomem) else
      (some (rawUdpIpv4Packet (rawSource srcEp addr).bytes dst.bytes data), env.sendtoResult) := by
  have len := req.len
  have source : endpointToSockaddrIn env.inetPton srcEp = .ok (rawSource srcEp addr) := by
    rw [endpointToSockaddrIn, if_neg (not_not.2 req.inet), req.accepted]
    rfl
  have family : saFamily dst.bytes = afInet := req.family
  rw [datagramRawSendUdpIpv4, if_neg (by decide), if_neg (by omega), if_neg (not_not.2 family), source]
  rfl

theorem RawRequest.target (dst : SockaddrStorage) : (sinAddr dst.bytes).length = 4 ∧ 4 ≤ dst.bytes.length := by
  have size := dst.size
  refine ⟨?_, by omega⟩
  simp only [sinAddr, List.length_take, List.length_drop]
  omega

end Request

/-- **Raw reply packets.** A payload of at most 65507 bytes goes out, unless memory runs out, in a packet that decodes
as an IPv4 packet with a UDP datagram between the given addresses and ports, all lengths being right; a longer one is
refused and nothing is sent. -/
theorem raw_reply_layout {env : ReplyEnv} {srcEp : Endpoint} {addr : Bytes} {dst : SockaddrStorage} {dstLen : Nat}
    (req : RawRequest env srcEp addr dst dstLen) (data : Bytes) :
    (data.length ≤ 65507 →
      (∀ packet rc, datagramRawSendUdpIpv4 env true srcEp dst.bytes dstLen data = (some packet, rc) →
        DecodesAs packet addr srcEp.port.toNat (sinAddr dst.bytes) (sinPortNumber dst.bytes) data) ∧
      (env.callocOk = true → ∃ packet,
        datagramRawSendUdpIpv4 env true srcEp dst.bytes dstLen data = (some packet, env.sendtoResult))) ∧
    (65507 < data.length →
      datagramRawSendUdpIpv4 env true srcEp dst.bytes dstLen data = (none, .error .emsgsize)) := by
  rw [datagramRawSend_eq req]
  constructor
  · intro fits
    rw [if_neg (by omega)]
    constructor
    · intro packet rc sent
      split at sent
      · cases sent
      · cases sent
        exact rawUdpIpv4Packet_decodes req.source.1 req.source.2 req.sized rfl (RawRequest.target dst).1
          (RawRequest.target dst).2 fits
    · intro memory
      rw [memory]
      exact ⟨_, rfl⟩
  · intro long
    rw [if_pos long]

/-- The upstream `10.0.1.1:5000` answers `10.0.0.5:40000` with `payload`. -/
def lanReplyEnv : ReplyEnv := { inetPton := fun family host => if family = afInet then Lib.inetPton4 host else none }

def lanUpstream : Endpoint := { kind := .inet, host := Lib.ascii "10.0.1.1", port := 5000, proto := .udp }

def lanClient : SockaddrStorage := .ofBytes (sockaddrIn (10, 0, 0, 5) (0x9c, 0x40))

theorem lanRequest : RawRequest lanReplyEnv lanUpstream [10, 0, 1, 1] lanClient 16 :=
  ⟨rfl, by decide +kernel, rfl, rfl, by decide⟩

theorem raw_reply_layout_lan :
    ∃ packet, datagramRawSendUdpIpv4 lanReplyEnv true lanUpstream lanClient.bytes 16 [1, 2, 3] =
      (some packet, .ok ()) ∧ DecodesAs packet [10, 0, 1, 1] 5000 [10, 0, 0, 5] 40000 [1, 2, 3] := by
  obtain ⟨layout, sends⟩ := (raw_reply_layout lanRequest [1, 2, 3]).1 (by decide)
  obtain ⟨packet, sent⟩ := sends rfl
  exact ⟨packet, sent, layout packet _ sent⟩

/-! ## The header checksum -/

/-- The complement of a sum makes it a multiple of 65535 with its bytes swapped exactly when the sum is a multiple of
257, so that the two bytes of the complement are equal. -/
theorem swapped_checks {total n s w : Nat} (carried : Carried total n) (complement : s = 65535 - n)
    (swapped : w = s % 256 * 256 + s / 256) : (total + w) % 65535 = 0 ↔ 257 ∣ total := by
  obtain ⟨small, same, zero⟩ := carried
  -- s = 256 h + l and w = 256 l + h, so n + w = 65535 + 255 (l - h)
  have bytes : s = 256 * (s / 256) + s % 256 := by omega
  have low : s % 256 < 256 := Nat.mod_lt s (by decide)
  have high : s / 256 < 256 := by omega
  generalize s / 256 = h at *
  generalize s % 256 = l at *
  constructor
  · intro checks
    have equal : l = h := by omega
    omega
  · intro divides
    have equal : l = h := by omega
    omega

theorem hostU16_word (v : UInt16) (rest : Bytes) :
    words (hostU16 v ++ rest) = (v.toNat % 256 * 256 + v.toNat / 256) :: words rest := by
  have bound := v.toNat_lt
  rw [hostU16, List.cons_append, List.cons_append, List.nil_append, words, Lib.be16_eq]
  simp only [UInt16.toNat_toUInt8, UInt16.toNat_shiftRight, UInt16.reduceToNat, Nat.reduceMod,
    Nat.shiftRight_eq_div_pow, Nat.reducePow]
  rw [Nat.mod_eq_of_lt (show v.toNat / 256 < 256 by omega)]

/-- The sum of the words of a header. -/
theorem rawIpv4Hdr_words {len sum : UInt16} {src dst : Bytes} (srcSize : src.length = 4) :
    (words (rawIpv4Hdr len sum src dst)).sum =
      34065 + len.toNat + (words src).sum + (words dst).sum + (sum.toNat % 256 * 256 + sum.toNat / 256) := by
  have len' := Lib.be16_bytes len
  have front : words [0x45, 0, (len >>> 8).toUInt8, len.toUInt8, 0, 0, 0, 0, 64, 17] =
      [17664, len.toNat, 0, 0, 16401] := by
    have first : be16 0x45 0 = 17664 := by decide
    have none : be16 0 0 = 0 := by decide
    have last : be16 64 17 = 16401 := by decide
    simp only [words, len', first, none, last]
  have shape : rawIpv4Hdr len sum src dst =
      [(0x45 : UInt8), 0, (len >>> 8).toUInt8, len.toUInt8, 0, 0, 0, 0, 64, 17] ++ (hostU16 sum ++ (src ++ dst)) := by
    rw [rawIpv4Hdr, List.append_assoc, List.append_assoc]
    rfl
  rw [shape, Lib.words_append (by simp), front, hostU16_word, Lib.words_append (by omega)]
  simp only [List.sum_append, List.sum_cons, List.sum_nil]
  omega

/-- The header of a packet, as it is sent. -/
theorem rawUdpIpv4Packet_header {src dst data : Bytes} (srcSize : (sinAddr src).length = 4)
    (dstSize : (sinAddr dst).length = 4) (fits : data.length ≤ 65507) :
    onesSum (words ((rawUdpIpv4Packet src dst data).take 20)) = 65535 ↔
      257 ∣ 34093 + data.length + (words (sinAddr src)).sum + (words (sinAddr dst)).sum := by
  have len : (UInt16.ofNat (sizeofRawIpv4Hdr + sizeofRawUdpHdr + data.length)).toNat = 28 + data.length := by
    rw [UInt16.toNat_ofNat_of_lt' (by simp only [sizeofRawIpv4Hdr, sizeofRawUdpHdr, UInt16.size]; omega)]
    rfl
  rw [rawUdpIpv4Packet]
  generalize UInt16.ofNat (sizeofRawIpv4Hdr + sizeofRawUdpHdr + data.length) = packetLen at len ⊢
  have size (sum : UInt16) : (rawIpv4Hdr packetLen sum (sinAddr src) (sinAddr dst)).length = 20 := by
    simp [rawIpv4Hdr, htons, hostU16, srcSize, dstSize]
  have checks := checksum16_toNat (show (rawIpv4Hdr packetLen 0 (sinAddr src) (sinAddr dst)).length ≤ 131072 by
    rw [size]
    decide)
  have before := Lib.onesSum_carried (Lib.words_small (rawIpv4Hdr packetLen 0 (sinAddr src) (sinAddr dst)))
  generalize checksum16 (rawIpv4Hdr packetLen 0 (sinAddr src) (sinAddr dst)) = sum at checks ⊢
  have after := Lib.onesSum_carried (Lib.words_small (rawIpv4Hdr packetLen sum (sinAddr src) (sinAddr dst)))
  rw [List.append_assoc, List.take_left' (size sum), after.eq_max]
  rw [rawIpv4Hdr_words srcSize, len] at before ⊢
  rw [UInt16.toNat_zero] at before
  have swapped := swapped_checks before checks rfl
  omega

/-- **Raw reply checksums.** The header of a packet that is handed to `sendto` verifies exactly when the sum of its
words without the checksum, `34093` plus the length of the payload plus the words of the two addresses, is divisible by
257. -/
theorem raw_reply_checksum_iff {env : ReplyEnv} {srcEp : Endpoint} {addr : Bytes} {dst : SockaddrStorage} {dstLen : Nat}
    (req : RawRequest env srcEp addr dst dstLen) {data packet : Bytes} {rc : Except Errno Unit}
    (sent : datagramRawSendUdpIpv4 env true srcEp dst.bytes dstLen data = (some packet, rc)) :
    onesSum (words (packet.take 20)) = 0xffff ↔
      257 ∣ 34093 + data.length + (words addr).sum + (words (sinAddr dst.bytes)).sum := by
  rw [datagramRawSend_eq req] at sent
  split at sent
  · cases sent
  split at sent
  · cases sent
  rename_i fits memory
  cases sent
  have source := req.source.1
  have header := @rawUdpIpv4Packet_header (rawSource srcEp addr).bytes dst.bytes data (by rw [source, req.sized])
    (RawRequest.target dst).1 (by omega)
  rwa [source] at header

/-- A payload of 103 bytes between these addresses makes the sum divisible. -/
theorem raw_reply_checksum_fits :
    ∃ packet, datagramRawSendUdpIpv4 lanReplyEnv true lanUpstream lanClient.bytes 16 (List.replicate 103 0) =
      (some packet, .ok ()) ∧ onesSum (words (packet.take 20)) = 0xffff := by
  have sent := @datagramRawSend_eq lanReplyEnv lanUpstream [10, 0, 1, 1] lanClient 16 (List.replicate 103 0) lanRequest
  rw [if_neg (by decide), if_neg (by decide)] at sent
  exact ⟨_, sent, (raw_reply_checksum_iff lanRequest sent).2 (by decide +kernel)⟩

/-- With 3 bytes the header does not verify. -/
theorem raw_reply_checksum_swapped :
    ∃ packet, datagramRawSendUdpIpv4 lanReplyEnv true lanUpstream lanClient.bytes 16 [1, 2, 3] =
      (some packet, .ok ()) ∧ onesSum (words (packet.take 20)) ≠ 0xffff := by
  refine ⟨_, datagramRawSend_eq lanRequest, ?_⟩
  decide +kernel

end Tinyproxy
