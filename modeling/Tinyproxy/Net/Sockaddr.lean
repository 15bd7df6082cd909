import Tinyproxy.Lib.Octets

/-!
# Socket addresses and error numbers

A socket address is the memory it occupies: the family in the first two bytes
(little-endian, as on the Linux hosts the program is built for), then the fields
of `struct sockaddr_in` or `struct sockaddr_in6` at their offsets, ports and
addresses in network order.
-/

namespace Tinyproxy

/-- Memory, packets and C strings without their terminator. -/
abbrev Bytes := List UInt8

/-- The `errno` values the program returns or looks at. -/
inductive Errno where
  | einval | enomem | eio | enospc | enotsup | enametoolong | emsgsize | ecanceled
  | eafnosupport | eprotonosupport | econnreset | epipe | etimedout
  | other (code : Nat)
  deriving DecidableEq, Repr

/-- `SOCK_STREAM`, `SOCK_DGRAM` or any other socket type. -/
inductive SockType where
  | stream | dgram | other (type : Int)
  deriving DecidableEq, Repr

def afInet : Nat := 2
def afInet6 : Nat := 10

/-- `sizeof(struct sockaddr_in)` and `sizeof(struct sockaddr_in6)`. -/
def sizeofSockaddrIn : Nat := 16
def sizeofSockaddrIn6 : Nat := 28

/-- `sa_family` of the address stored at the start of `sa`. -/
def saFamily (sa : Bytes) : Nat := (sa.getD 0 0).toNat + 256 * (sa.getD 1 0).toNat

/-- `sin_port` and `sin6_port`, in network order. -/
def sinPort (sa : Bytes) : Bytes := (sa.drop 2).take 2

/-- `sin_addr`. -/
def sinAddr (sa : Bytes) : Bytes := (sa.drop 4).take 4

/-- `sin6_addr`, behind `sin6_flowinfo`. -/
def sin6Addr (sa : Bytes) : Bytes := (sa.drop 8).take 16

/-- `struct sockaddr_storage`: 128 bytes. -/
structure SockaddrStorage where
  bytes : Bytes
  size : bytes.length = 128
  deriving DecidableEq

/-- `ss_family`. -/
def SockaddrStorage.family (a : SockaddrStorage) : Nat := saFamily a.bytes

/-- A storage whose first bytes are `sa`, the rest zero (`memset` then a copy). -/
def SockaddrStorage.ofBytes (sa : Bytes) : SockaddrStorage where
  bytes := (sa ++ List.replicate 128 0).take 128
  size := by simp

/-- A part of the address that a storage was filled with. -/
theorem ofBytes_part {sa : Bytes} {i n : Nat} (inside : i + n ≤ sa.length) (small : i + n ≤ 128) :
    ((SockaddrStorage.ofBytes sa).bytes.drop i).take n = (sa.drop i).take n := by
  simp only [SockaddrStorage.ofBytes]
  rw [List.drop_take, List.take_take, List.drop_append_of_le_length (by omega),
    List.take_append_of_le_length (by simp; omega)]
  congr 1
  omega

/-- An IPv4 address as `accept` reports it: family, port, address, padding. -/
def sockaddrIn (addr : UInt8 × UInt8 × UInt8 × UInt8) (port : UInt8 × UInt8) : Bytes :=
  [2, 0, port.1, port.2, addr.1, addr.2.1, addr.2.2.1, addr.2.2.2] ++ List.replicate 8 0

end Tinyproxy
