import Tinyproxy.Net.ProxyProtoV2

/-!
# Reading PROXY protocol v2 headers

A decoder for the protocol, written from its own layout and not from
`proxy_v2_build`: the signature, version 2 with the command `PROXY`, the family and the
transport in one byte, the length of the address block, the block itself and whatever
follows it. `decode_header` is the round trip for one header, and `build_header` says
that both branches of `proxy_v2_build` write such a header.
-/

namespace Tinyproxy

namespace ProxyV2

/-- The address families with a block of addresses and ports. -/
inductive Family where
  | inet
  | inet6
  deriving DecidableEq

inductive Transport where
  | stream
  | dgram
  deriving DecidableEq

/-- The size of one address. -/
def Family.addrSize : Family → Nat
  | .inet => 4
  | .inet6 => 16

/-- The size of the address block: two addresses and two ports. -/
def Family.blockSize (f : Family) : Nat := 2 * f.addrSize + 4

/-- What a header says, and what follows it. -/
structure Decoded where
  family : Family
  transport : Transport
  length : Nat
  srcAddr : Bytes
  dstAddr : Bytes
  srcPort : Nat
  dstPort : Nat
  payload : Bytes
  deriving DecidableEq

/-- The protocol's signature, `\r\n\r\n\0\r\nQUIT\n`. -/
def signature : Bytes := [13, 10, 13, 10, 0, 13, 10, 81, 85, 73, 84, 10]

/-- The high four bits of the byte after the version. -/
def decodeFamily (b : UInt8) : Option Family :=
  match b.toNat / 16 with
  | 1 => some .inet
  | 2 => some .inet6
  | _ => none

/-- The low four bits of the same byte. -/
def decodeTransport (b : UInt8) : Option Transport :=
  match b.toNat % 16 with
  | 1 => some .stream
  | 2 => some .dgram
  | _ => none

/-- The number in the first two bytes. -/
def portOf (b : Bytes) : Nat := Lib.be16 (b.getD 0 0) (b.getD 1 0)

/-- The address block of a header, and what follows it. -/
def decodeBlock (f : Family) (t : Transport) (length : Nat) (body : Bytes) : Option Decoded :=
  if body.length < length ∨ length < f.blockSize then none else
  let block := body.take length
  some
    { family := f
      transport := t
      length := length
      srcAddr := block.take f.addrSize
      dstAddr := (block.drop f.addrSize).take f.addrSize
      srcPort := portOf (block.drop (2 * f.addrSize))
      dstPort := portOf (block.drop (2 * f.addrSize + 2))
      payload := body.drop length }

/-- A packet with a PROXY v2 header in front. -/
def decode (packet : Bytes) : Option Decoded :=
  if packet.take 12 ≠ signature then none else
  match packet.drop 12 with
  | verCmd :: famProto :: hi :: lo :: body =>
    if verCmd ≠ 0x21 then none else
    match decodeFamily famProto, decodeTransport famProto with
    | some f, some t => decodeBlock f t (Lib.be16 hi lo) body
    | _, _ => none
  | _ => none

/-! ## The header of two socket addresses -/

/-- `AF_INET` and `AF_INET6`. -/
def Family.af : Family → Nat
  | .inet => afInet
  | .inet6 => afInet6

/-- The size of the family's `struct sockaddr`. -/
def Family.sockaddrSize : Family → Nat
  | .inet => sizeofSockaddrIn
  | .inet6 => sizeofSockaddrIn6

/-- `sin_addr` or `sin6_addr`. -/
def Family.addrOf : Family → Bytes → Bytes
  | .inet => sinAddr
  | .inet6 => sin6Addr

def Transport.sockType : Transport → SockType
  | .stream => .stream
  | .dgram => .dgram

/-- The byte that names family and transport. -/
def famByte : Family → Transport → UInt8
  | .inet, .stream => 0x11
  | .inet, .dgram => 0x12
  | .inet6, .stream => 0x21
  | .inet6, .dgram => 0x22

/-- The address block of two socket addresses. -/
def block (f : Family) (src dst : Bytes) : Bytes := f.addrOf src ++ f.addrOf dst ++ sinPort src ++ sinPort dst

/-- The header for a connection or a packet from `src` to `dst`. -/
def header (f : Family) (t : Transport) (src dst : Bytes) : Bytes :=
  signature ++ [0x21, famByte f t, 0, UInt8.ofNat f.blockSize] ++ block f src dst

/-- What the header for `src` and `dst` in front of `payload` says. -/
def meaning (f : Family) (t : Transport) (src dst payload : Bytes) : Decoded where
  family := f
  transport := t
  length := f.blockSize
  srcAddr := f.addrOf src
  dstAddr := f.addrOf dst
  srcPort := portOf (sinPort src)
  dstPort := portOf (sinPort dst)
  payload := payload

variable {f : Family} {t : Transport} {src dst payload : Bytes}

theorem addrOf_length {sa : Bytes} (size : f.sockaddrSize ≤ sa.length) : (f.addrOf sa).length = f.addrSize := by
  cases f with
  | inet => exact sinAddr_length size
  | inet6 =>
    simp only [Family.sockaddrSize, sizeofSockaddrIn6] at size
    simp only [Family.addrOf, sin6Addr, Family.addrSize, List.length_take, List.length_drop]
    omega

theorem port_length {sa : Bytes} (size : f.sockaddrSize ≤ sa.length) : (sinPort sa).length = 2 := by
  apply sinPort_length
  cases f with
  | inet => exact size
  | inet6 => exact Nat.le_trans (by decide) size

theorem block_length (srcSize : f.sockaddrSize ≤ src.length) (dstSize : f.sockaddrSize ≤ dst.length) :
    (block f src dst).length = f.blockSize := by
  simp only [block, List.length_append, addrOf_length srcSize, addrOf_length dstSize, port_length srcSize,
    port_length dstSize, Family.blockSize]
  omega

theorem header_length (srcSize : f.sockaddrSize ≤ src.length) (dstSize : f.sockaddrSize ≤ dst.length) :
    (header f t src dst).length = 16 + f.blockSize := by
  simp only [header, List.length_append, block_length srcSize dstSize]
  rfl

/-- A port is read from its own two bytes. -/
theorem portOf_append {a b : Bytes} (size : a.length = 2) : portOf (a ++ b) = portOf a := by
  match a, size with
  | [hi, lo], _ => rfl

/-- Reading a block back. -/
theorem decodeBlock_block (srcSize : f.sockaddrSize ≤ src.length) (dstSize : f.sockaddrSize ≤ dst.length) :
    decodeBlock f t f.blockSize (block f src dst ++ payload) = some (meaning f t src dst payload) := by
  have size := block_length srcSize dstSize
  have whole : (block f src dst ++ payload).take f.blockSize = block f src dst := by
    rw [← size, List.take_left]
  have rest : (block f src dst ++ payload).drop f.blockSize = payload := by
    rw [← size, List.drop_left]
  have enough : ¬ ((block f src dst ++ payload).length < f.blockSize ∨ f.blockSize < f.blockSize) := by
    rw [List.length_append]
    omega
  have srcAddr : (block f src dst).take f.addrSize = f.addrOf src := by
    rw [← addrOf_length srcSize]
    simp only [block, List.append_assoc, List.take_left]
  have dstAddr : ((block f src dst).drop f.addrSize).take f.addrSize = f.addrOf dst := by
    simp only [block, List.append_assoc]
    exact Lib.take_drop_mid (addrOf_length srcSize) (addrOf_length dstSize)
  have both : (f.addrOf src ++ f.addrOf dst).length = 2 * f.addrSize := by
    rw [List.length_append, addrOf_length srcSize, addrOf_length dstSize]
    omega
  have srcPort : (block f src dst).drop (2 * f.addrSize) = sinPort src ++ sinPort dst := by
    rw [← both]
    simp only [block, List.append_assoc]
    rw [← List.append_assoc, List.drop_left]
  have dstPort : (block f src dst).drop (2 * f.addrSize + 2) = sinPort dst := by
    rw [← List.drop_drop, srcPort, ← port_length srcSize, List.drop_left]
  simp only [decodeBlock, if_neg enough, whole, rest, srcAddr, dstAddr, srcPort, dstPort,
    portOf_append (port_length srcSize), meaning]

theorem decodeFamily_famByte (f : Family) (t : Transport) : decodeFamily (famByte f t) = some f := by
  cases f <;> cases t <;> decide

theorem decodeTransport_famByte (f : Family) (t : Transport) : decodeTransport (famByte f t) = some t := by
  cases f <;> cases t <;> decide

theorem be16_blockSize (f : Family) : Lib.be16 0 (UInt8.ofNat f.blockSize) = f.blockSize := by
  cases f <;> decide

/-- **The round trip.** Whatever follows the header, the decoder reads back what it was built from. -/
theorem decode_header (srcSize : f.sockaddrSize ≤ src.length) (dstSize : f.sockaddrSize ≤ dst.length) :
    decode (header f t src dst ++ payload) = some (meaning f t src dst payload) := by
  have sig : (header f t src dst ++ payload).take 12 = signature := by
    simp [header, signature]
  have rest : (header f t src dst ++ payload).drop 12 =
      0x21 :: famByte f t :: 0 :: UInt8.ofNat f.blockSize :: (block f src dst ++ payload) := by
    simp [header, signature]
  simp only [decode, sig, rest, ne_eq, not_true_eq_false, if_false, decodeFamily_famByte, decodeTransport_famByte,
    be16_blockSize]
  exact decodeBlock_block srcSize dstSize

/-! ## What `proxy_v2_build` writes -/

/-- The writes of either branch, one after another, are the header. -/
theorem fields_header (f : Family) (t : Transport) (src dst : Bytes) :
    (proxyV2Fields (famByte f t) (UInt16.ofNat f.blockSize)
      [f.addrOf src, f.addrOf dst, sinPort src, sinPort dst]).flatten = header f t src dst := by
  have len : putU16 (UInt16.ofNat f.blockSize) = [0, UInt8.ofNat f.blockSize] := by
    cases f <;> decide
  simp only [proxyV2Fields, header, block, len, proxyV2Sig, pp2VersionCmdProxy, signature]
  simp

/-- A build for two addresses of one family, with a buffer that is large enough, writes their header. -/
theorem build_header {out : HeaderOut} {srcLen dstLen : Nat} (srcFamily : saFamily src = f.af)
    (dstFamily : saFamily dst = f.af) (srcSize : f.sockaddrSize ≤ src.length) (dstSize : f.sockaddrSize ≤ dst.length)
    (srcEnough : f.sockaddrSize ≤ srcLen) (dstEnough : f.sockaddrSize ≤ dstLen)
    (room : 16 + f.blockSize ≤ out.buf.length) :
    ∃ done, proxyV2Build out src srcLen dst dstLen t.sockType = (done, .ok ()) ∧
      done.outLen = 16 + f.blockSize ∧ done.buf.take done.outLen = header f t src dst := by
  have written := fields_header f t src dst
  have size := header_length (t := t) srcSize dstSize
  have fits : 0 + (proxyV2Fields (famByte f t) (UInt16.ofNat f.blockSize)
      [f.addrOf src, f.addrOf dst, sinPort src, sinPort dst]).flatten.length ≤ out.buf.length := by
    rw [written, size]
    omega
  have laid := Lib.take_putAll fits List.take_zero
  rw [written, size, Nat.zero_add, List.nil_append] at laid
  refine ⟨{ buf := _, outLen := 16 + f.blockSize }, ?_, rfl, laid⟩
  have sizes : ¬ (srcLen < f.sockaddrSize ∨ dstLen < f.sockaddrSize) := by omega
  have roomy : ¬ out.buf.length < 16 + f.blockSize := by omega
  cases f with
  | inet =>
    have branch : Family.inet.af = afInet := rfl
    simp only [Family.sockaddrSize] at sizes
    simp only [Family.blockSize, Family.addrSize] at roomy
    cases t <;> simp only [proxyV2Build, srcFamily, dstFamily, branch, Transport.sockType, ne_eq, not_true_eq_false,
      if_false, if_true, if_neg sizes, if_neg roomy] <;> rfl
  | inet6 =>
    have branch : Family.inet6.af = afInet6 := rfl
    have other : ¬ afInet6 = afInet := by decide
    simp only [Family.sockaddrSize] at sizes
    simp only [Family.blockSize, Family.addrSize] at roomy
    cases t <;> simp only [proxyV2Build, srcFamily, dstFamily, branch, Transport.sockType, ne_eq, not_true_eq_false,
      if_false, if_true, if_neg other, if_neg sizes, if_neg roomy] <;> rfl

/-- A build that fails leaves both out-parameters alone. -/
theorem build_error {out done : HeaderOut} {srcLen dstLen : Nat} {sockType : SockType} {err : Errno}
    (failed : proxyV2Build out src srcLen dst dstLen sockType = (done, .error err)) : done = out := by
  unfold proxyV2Build at failed
  split at failed
  · cases failed
    rfl
  · dsimp only at failed
    split at failed
    · cases failed
      rfl
    · split at failed
      · split at failed
        · cases failed
          rfl
        · split at failed
          · cases failed
            rfl
          · cases failed
      · split at failed
        · split at failed
          · cases failed
            rfl
          · split at failed
            · cases failed
              rfl
            · cases failed
        · cases failed
          rfl

end ProxyV2

end Tinyproxy
