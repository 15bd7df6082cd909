import Tinyproxy.Net.Sockaddr

/-!
# PROXY protocol v2 headers

`proxy_v2_build` writes a header into the caller's buffer and its length into
`*out_len`; both out-parameters are passed through explicitly, so that a failed
call visibly leaves them alone. `ProxyV2.inetStreamHeader` is the header as the protocol
lays it out, and `build_inet` says the IPv4 branch writes exactly that.
-/

namespace Tinyproxy

/-- `PROXY_V2_SIG`. -/
def proxyV2Sig : Bytes := [0x0d, 0x0a, 0x0d, 0x0a, 0x00, 0x0d, 0x0a, 0x51, 0x55, 0x49, 0x54, 0x0a]

def pp2VersionCmdProxy : UInt8 := 0x21
def pp2FamInet : UInt8 := 0x10
def pp2FamInet6 : UInt8 := 0x20
def pp2TransStream : UInt8 := 0x01
def pp2TransDgram : UInt8 := 0x02

/-- `put_u16`. -/
def putU16 (v : UInt16) : Bytes := [(v >>> 8).toUInt8, v.toUInt8]

/-- The out-parameters of `proxy_v2_build`. -/
structure HeaderOut where
  buf : Bytes
  outLen : Nat
  deriving DecidableEq

/-- A header buffer of the callers, all zero. -/
theorem length_zeroHdr : (List.replicate 256 (0 : UInt8)).length = 256 := List.length_replicate

/-- The header of either family: signature, version and command, family and
transport, length, then the address fields one after another. -/
def proxyV2Fields (famProto : UInt8) (addrLen : UInt16) (fields : List Bytes) : List Bytes :=
  [proxyV2Sig, [pp2VersionCmdProxy], [famProto], putU16 addrLen] ++ fields

/-- `proxy_v2_build`. -/
def proxyV2Build (out : HeaderOut) (src : Bytes) (srcLen : Nat) (dst : Bytes) (dstLen : Nat)
    (sockType : SockType) : HeaderOut × Except Errno Unit :=
  if saFamily src ≠ saFamily dst then (out, .error .eafnosupport) else
  let trans := match sockType with
    | .stream => some pp2TransStream
    | .dgram => some pp2TransDgram
    | .other _ => none
  match trans with
  | none => (out, .error .eprotonosupport)
  | some famProto =>
    if saFamily src = afInet then
      if srcLen < sizeofSockaddrIn ∨ dstLen < sizeofSockaddrIn then (out, .error .einval) else
      if out.buf.length < 16 + 12 then (out, .error .enospc) else
      let buf := Lib.putAll out.buf 0 (proxyV2Fields (pp2FamInet ||| famProto) 12
        [sinAddr src, sinAddr dst, sinPort src, sinPort dst])
      ({ buf := buf, outLen := 16 + 12 }, .ok ())
    else if saFamily src = afInet6 then
      if srcLen < sizeofSockaddrIn6 ∨ dstLen < sizeofSockaddrIn6 then (out, .error .einval) else
      if out.buf.length < 16 + 36 then (out, .error .enospc) else
      let buf := Lib.putAll out.buf 0 (proxyV2Fields (pp2FamInet6 ||| famProto) 36
        [sin6Addr src, sin6Addr dst, sinPort src, sinPort dst])
      ({ buf := buf, outLen := 16 + 36 }, .ok ())
    else (out, .error .eafnosupport)

namespace ProxyV2

/-- One PROXY v2 header for an IPv4 stream connection from `src` to `dst`, as the
protocol lays it out: the signature, `0x21`, `0x11`, the length 12 and the
address block. -/
def inetStreamHeader (src dst : Bytes) : Bytes :=
  proxyV2Sig ++ [0x21, 0x11, 0, 12] ++ (sinAddr src ++ sinAddr dst ++ sinPort src ++ sinPort dst)

theorem sinAddr_length {sa : Bytes} (size : sizeofSockaddrIn ≤ sa.length) : (sinAddr sa).length = 4 := by
  simp only [sinAddr, List.length_take, List.length_drop, sizeofSockaddrIn] at *
  omega

theorem sinPort_length {sa : Bytes} (size : sizeofSockaddrIn ≤ sa.length) : (sinPort sa).length = 2 := by
  simp only [sinPort, List.length_take, List.length_drop, sizeofSockaddrIn] at *
  omega

theorem inetStreamHeader_length {src dst : Bytes} (srcSize : sizeofSockaddrIn ≤ src.length)
    (dstSize : sizeofSockaddrIn ≤ dst.length) : (inetStreamHeader src dst).length = 28 := by
  simp [inetStreamHeader, proxyV2Sig, sinAddr_length, sinPort_length, srcSize, dstSize]

/-- A successful IPv4 stream build writes exactly one header and reports its length. -/
theorem build_inet {out done : HeaderOut} {src dst : Bytes} {srcLen dstLen : Nat}
    (srcSize : sizeofSockaddrIn ≤ src.length) (dstSize : sizeofSockaddrIn ≤ dst.length)
    (family : saFamily src = afInet)
    (built : proxyV2Build out src srcLen dst dstLen .stream = (done, .ok ())) :
    done.buf.take done.outLen = inetStreamHeader src dst := by
  have fields : (proxyV2Fields (pp2FamInet ||| pp2TransStream) 12
      [sinAddr src, sinAddr dst, sinPort src, sinPort dst]).flatten = inetStreamHeader src dst := by
    simp only [proxyV2Fields, inetStreamHeader, proxyV2Sig, putU16, pp2VersionCmdProxy, pp2FamInet,
      pp2TransStream]
    simp
    decide
  have size := inetStreamHeader_length srcSize dstSize
  simp only [proxyV2Build, family] at built
  split at built
  · cases built
  · simp only [if_true] at built
    split at built
    · cases built
    · split at built
      · cases built
      · rename_i room
        cases built
        have fits : 0 + (proxyV2Fields (pp2FamInet ||| pp2TransStream) 12
            [sinAddr src, sinAddr dst, sinPort src, sinPort dst]).flatten.length ≤ out.buf.length := by
          rw [fields, size]
          omega
        have laid := Lib.take_putAll fits List.take_zero
        rw [fields, size] at laid
        exact laid

end ProxyV2

end Tinyproxy
