import Tinyproxy.Conf.Conflicts
import Tinyproxy.Conf.Numbers
import Tinyproxy.Conf.Serve
import Tinyproxy.Lib.InetNtop
import Tinyproxy.Lib.Printf

/-!
# Peers in text

Where the program writes the address of a peer: for the builtin `client_addr`, once for
each kind of route, and `sockaddr_format` for the log. The answer of `client_addr` says
which address and port the peer has (`peers_named`). The text of the log is one that
`parse_endpoint` reads, and denotes the peer again; that of `client_addr` has an IPv6
address without its brackets, which `parse_endpoint` refuses.
-/

namespace Tinyproxy

open Lib (ascii cstr decimal decimalInt digitsValue inetNtop4 inetNtop6 inetPton4 inetPton6 putAt snprintf Filled)

/-- `ntohs`: a 16-bit number from network order. -/
def ntohs (v : Bytes) : UInt16 := UInt16.ofNat (256 * (v.getD 0 0).toNat + (v.getD 1 0).toNat)

/-! ## The builtin -/

/-- `inet_ntop(..., buf, size)` of an address whose text is `text`; `none` where `buf` has no room for it. -/
def inetNtop (text buf : Bytes) (size : Nat) : Option Bytes :=
  if text.length < size then some (putAt buf 0 (text ++ [0])) else none

/-- The text of a client's address in `buf`; the two functions that write it print the port in their own ways. -/
def clientAddrString (portText : UInt16 → Bytes) (addr : SockaddrStorage) (buf : Bytes) : Option Bytes :=
  let appendPort := fun buf =>
    let n := (cstr buf).length
    snprintf buf n (buf.length - n) (ascii ":" ++ portText (ntohs (sinPort addr.bytes)))
  if addr.family = afInet then (inetNtop (inetNtop4 (sinAddr addr.bytes)) buf buf.length).map appendPort else
  if addr.family = afInet6 then (inetNtop (inetNtop6 (sin6Addr addr.bytes)) buf buf.length).map appendPort else
  some (snprintf buf 0 buf.length (ascii "unknown"))

/-- `stream_client_addr_string`; `peer` is what `getpeername` reports, if it does. -/
def streamClientAddrString (peer : Option SockaddrStorage) (buf : Bytes) : Option Bytes :=
  peer.bind fun ss => clientAddrString (fun port => decimalInt port.toNat) ss buf

/-- `datagram_client_addr_string`. -/
def datagramClientAddrString (c : DatagramClient) (buf : Bytes) : Option Bytes :=
  clientAddrString (fun port => decimal port.toNat) c.clientAddr buf

/-- `sizeof(client_addr)` in the callers of both. -/
def clientAddrSize : Nat := 128

/-! ## The log -/

/-- `AF_UNIX`, `INET_ADDRSTRLEN` and `INET6_ADDRSTRLEN`. -/
def afUnix : Nat := 1
def inetAddrstrlen : Nat := 16
def inet6Addrstrlen : Nat := 46

/-- What `sockaddr_format` prints. -/
def sockaddrText (addr : SockaddrStorage) (addrLen : Nat) : Bytes :=
  let port := decimal (ntohs (sinPort addr.bytes)).toNat
  if addrLen = 0 then ascii "<null>" else
  if addr.family = afInet then
    if addrLen < sizeofSockaddrIn then ascii "inet:<short:" ++ decimal addrLen ++ ascii ">" else
    let ip := inetNtop4 (sinAddr addr.bytes)
    if ip.length < inetAddrstrlen then ip ++ ascii ":" ++ port else ascii "inet:<invalid>:" ++ port
  else if addr.family = afInet6 then
    if addrLen < sizeofSockaddrIn6 then ascii "inet6:<short:" ++ decimal addrLen ++ ascii ">" else
    let ip := inetNtop6 (sin6Addr addr.bytes)
    if ip.length < inet6Addrstrlen then ascii "[" ++ ip ++ ascii "]:" ++ port else ascii "inet6:<invalid>:" ++ port
  else if addr.family = afUnix then
    if addrLen < 2 then ascii "unix:<short:" ++ decimal addrLen ++ ascii ">" else
    if addr.bytes.getD 2 0 = 0 then ascii "unix:<abstract-or-empty>" else ascii "unix:" ++ cstr (addr.bytes.drop 2)
  else ascii "family:" ++ decimal addr.family ++ ascii " len:" ++ decimal addrLen

/-- `sockaddr_format` into a buffer that is not empty. -/
def sockaddrFormat (addr : SockaddrStorage) (addrLen : Nat) (buf : Bytes) : Bytes :=
  snprintf (putAt buf 0 [0]) 0 buf.length (sockaddrText addr addrLen)

/-! ## What a reader makes of it -/

/-- The family, the address and the port that an answer `address:port` names, with the newline at its end. -/
def readAnswer (answer : Bytes) : Option (Nat × Bytes × Nat) :=
  let text := answer.dropLast
  let host := (text.rdropWhile (· != 0x3a)).dropLast
  let port := digitsValue (text.rtakeWhile (· != 0x3a))
  match inetPton4 host with
  | some addr => some (afInet, addr, port)
  | none => (inetPton6 host).map fun addr => (afInet6, addr, port)

/-- The address of an IP peer as `inet_ntop` writes it. -/
def ipText (peer : SockaddrStorage) : Bytes :=
  if peer.family = afInet6 then inetNtop6 (sin6Addr peer.bytes) else inetNtop4 (sinAddr peer.bytes)

/-- `peer.ss_family` is `AF_INET` or `AF_INET6`. -/
def SockaddrStorage.Ip (peer : SockaddrStorage) : Prop := peer.family = afInet ∨ peer.family = afInet6

/-- The port of a peer. -/
def SockaddrStorage.port (peer : SockaddrStorage) : UInt16 := ntohs (sinPort peer.bytes)

/-! ## Addresses and ports -/

theorem length_sinAddr (peer : SockaddrStorage) : (sinAddr peer.bytes).length = 4 := by
  simp [sinAddr, peer.size]

theorem length_sin6Addr (peer : SockaddrStorage) : (sin6Addr peer.bytes).length = 16 := by
  simp [sin6Addr, peer.size]

theorem length_sinPort (peer : SockaddrStorage) : (sinPort peer.bytes).length = 2 := by
  simp [sinPort, peer.size]

theorem htons_ntohs {v : Bytes} (two : v.length = 2) : htons (ntohs v) = v := by
  obtain ⟨high, low, rfl⟩ := List.length_eq_two.1 two
  have value : (ntohs [high, low]).toNat = 256 * high.toNat + low.toNat := by
    have := high.toNat_lt
    have := low.toNat_lt
    simp only [ntohs, List.getD_cons_zero, List.getD_cons_succ]
    rw [UInt16.toNat_ofNat_of_lt' (by simp only [UInt16.size]; omega)]
  have := low.toNat_lt
  have := high.toNat_lt
  simp only [htons, List.cons.injEq, and_true, ← UInt8.toNat_inj, UInt16.toNat_toUInt8, UInt16.toNat_shiftRight, value]
  simp only [Nat.shiftRight_eq_div_pow, UInt16.reduceToNat, Nat.reduceMod, Nat.reducePow]
  omega

theorem htons_port (peer : SockaddrStorage) : htons peer.port = sinPort peer.bytes := htons_ntohs (length_sinPort peer)

theorem length_ipText (peer : SockaddrStorage) : (ipText peer).length ≤ 40 := by
  unfold ipText
  split
  · exact Lib.length_inetNtop6 (length_sin6Addr peer)
  · have := Lib.length_inetNtop4 (length_sinAddr peer)
    omega

/-- The characters of an address. -/
theorem notMem_ipText {x : UInt8} (other : Lib.hexDigit x = none) (colon : x ≠ 0x3a) (dot : x ≠ 0x2e)
    (peer : SockaddrStorage) : x ∉ ipText peer := by
  unfold ipText
  split
  · exact Lib.notMem_inetNtop6 other colon dot _
  · exact Lib.notMem_inetNtop4 (Lib.isdigit_of_hexDigit other) dot _

theorem length_decimal_port (port : UInt16) : (decimal port.toNat).length ≤ 5 := by
  have small := port.toNat_lt
  rw [decimal, List.length_map, Nat.length_toDigits_le_iff (by decide) (by decide)]
  omega

/-! ## What is written -/

/-- The text of a peer for `client_addr`. -/
def peerText (peer : SockaddrStorage) : Bytes := ipText peer ++ 0x3a :: decimal peer.port.toNat

theorem peerText_ne_zero (peer : SockaddrStorage) : ∀ c ∈ peerText peer, c ≠ 0 := by
  rintro c inside rfl
  rcases List.mem_append.1 inside with address | port
  · exact notMem_ipText (by decide) (by decide) (by decide) peer address
  · rcases List.mem_cons.1 port with colon | digits
    · cases colon
    · exact Lib.decimal_ne_zero _ 0 digits rfl

theorem length_peerText (peer : SockaddrStorage) : (peerText peer).length ≤ 46 := by
  have address := length_ipText peer
  have port := length_decimal_port peer.port
  rw [peerText, List.length_append, List.length_cons]
  omega

/-- A buffer that has room for it holds the whole text. -/
theorem clientAddrString_text {peer : SockaddrStorage} {buf : Bytes} (ip : peer.Ip) (size : buf.length = clientAddrSize) :
    (clientAddrString (fun port => decimal port.toNat) peer buf).map cstr = some (peerText peer) := by
  have short := length_ipText peer
  have whole := length_peerText peer
  have plain : ∀ c ∈ ipText peer, c ≠ 0 := fun c inside =>
    peerText_ne_zero peer c (List.mem_append_left _ inside)
  rw [clientAddrSize] at size
  have filled : Filled buf buf.length (ipText peer) (putAt buf 0 (ipText peer ++ [0])) :=
    Lib.filled_put (by omega) le_rfl
  have printed := filled.snprintf le_rfl (0x3a :: decimal peer.port.toNat)
  rw [← peerText, List.take_of_length_le (by omega)] at printed
  have string := printed.cstr (peerText_ne_zero peer)
  have placed : inetNtop (ipText peer) buf buf.length = some (putAt buf 0 (ipText peer ++ [0])) :=
    if_pos (by omega)
  have colon : ascii ":" = [0x3a] := by decide
  have result : ((inetNtop (ipText peer) buf buf.length).map fun buf =>
      snprintf buf (cstr buf).length (buf.length - (cstr buf).length) (ascii ":" ++ decimal peer.port.toNat)).map cstr =
        some (peerText peer) := by
    simp only [placed, Option.map_some, filled.cstr plain, filled.length, colon, List.singleton_append, string]
  rcases ip with family | family
  · have other : afInet ≠ afInet6 := by decide
    simp only [ipText, family, if_neg other] at result
    simp only [clientAddrString, family, if_true]
    exact result
  · have other : afInet6 ≠ afInet := by decide
    simp only [ipText, family, if_true] at result
    simp only [clientAddrString, family, if_neg other, if_true]
    exact result

/-- Both functions write the same. -/
theorem streamClientAddrString_eq (peer : SockaddrStorage) (buf : Bytes) :
    streamClientAddrString (some peer) buf = clientAddrString (fun port => decimal port.toNat) peer buf := by
  have same : (fun port : UInt16 => decimalInt port.toNat) = fun port => decimal port.toNat := by
    funext port
    rw [decimalInt, if_neg (by omega), Int.natAbs_natCast]
  rw [streamClientAddrString, Option.bind_some, same]

/-- The answer has room for the text. -/
theorem xBuiltinHandle_peerText (peer : SockaddrStorage) :
    xBuiltinHandle .clientAddr (some (peerText peer)) = .ok { action := .close, data := peerText peer ++ [0x0a] } := by
  have short : ¬ (peerText peer ++ [0x0a]).length ≥ xBuiltinDataSize := by
    have := length_peerText peer
    rw [List.length_append, List.length_singleton, xBuiltinDataSize]
    omega
  simp only [xBuiltinHandle, if_neg short]

/-- The text of a peer for the log. -/
def loggedText (peer : SockaddrStorage) : Bytes :=
  if peer.family = afInet6 then 0x5b :: (ipText peer ++ 0x5d :: 0x3a :: decimal peer.port.toNat) else peerText peer

/-- The length `recvfrom` and `accept` report for the family. -/
def SockaddrStorage.fullLen (peer : SockaddrStorage) : Nat :=
  if peer.family = afInet6 then sizeofSockaddrIn6 else sizeofSockaddrIn

theorem sockaddrText_ip {peer : SockaddrStorage} {addrLen : Nat} (ip : peer.Ip) (given : peer.fullLen ≤ addrLen) :
    sockaddrText peer addrLen = loggedText peer := by
  rcases ip with family | family
  · have other : afInet ≠ afInet6 := by decide
    have fits : (inetNtop4 (sinAddr peer.bytes)).length < inetAddrstrlen := Lib.length_inetNtop4 (length_sinAddr peer)
    have full : sizeofSockaddrIn ≤ addrLen := by
      rwa [SockaddrStorage.fullLen, family, if_neg other] at given
    have some : addrLen ≠ 0 := by
      rw [sizeofSockaddrIn] at full
      omega
    simp only [sockaddrText, loggedText, peerText, ipText, family, if_true, if_neg other, if_neg some, if_neg full.not_gt,
      if_pos fits, List.append_assoc]
    rfl
  · have other : afInet6 ≠ afInet := by decide
    have fits : (inetNtop6 (sin6Addr peer.bytes)).length < inet6Addrstrlen := by
      have := Lib.length_inetNtop6 (length_sin6Addr peer)
      rw [inet6Addrstrlen]
      omega
    have full : sizeofSockaddrIn6 ≤ addrLen := by
      rwa [SockaddrStorage.fullLen, family, if_pos rfl] at given
    have some : addrLen ≠ 0 := by
      rw [sizeofSockaddrIn6] at full
      omega
    simp only [sockaddrText, loggedText, ipText, family, if_true, if_neg other, if_neg some, if_neg full.not_gt,
      if_pos fits, List.append_assoc]
    rfl

theorem loggedText_ne_zero (peer : SockaddrStorage) : ∀ c ∈ loggedText peer, c ≠ 0 := by
  unfold loggedText
  split
  · rintro c inside rfl
    simp only [List.mem_cons, List.mem_append] at inside
    rcases inside with bracket | address | bracket | colon | digits
    · cases bracket
    · exact notMem_ipText (by decide) (by decide) (by decide) peer address
    · cases bracket
    · cases colon
    · exact Lib.decimal_ne_zero _ 0 digits rfl
  · exact peerText_ne_zero peer

theorem length_loggedText (peer : SockaddrStorage) : (loggedText peer).length ≤ 48 := by
  have address := length_ipText peer
  have port := length_decimal_port peer.port
  unfold loggedText
  split
  · simp only [List.length_cons, List.length_append]
    omega
  · have := length_peerText peer
    omega

theorem sockaddrFormat_text {peer : SockaddrStorage} {addrLen : Nat} {buf : Bytes} (ip : peer.Ip)
    (given : peer.fullLen ≤ addrLen) (size : buf.length = clientAddrSize) :
    cstr (sockaddrFormat peer addrLen buf) = loggedText peer := by
  have short := length_loggedText peer
  have room : buf.length ≠ 0 := by
    rw [size]
    decide
  rw [sockaddrFormat, Lib.cstr_snprintf room, sockaddrText_ip ip given, size, clientAddrSize,
    List.take_of_length_le (by omega)]
  exact Lib.cstr_of_nonzero (loggedText_ne_zero peer)

/-! ## What is read -/

/-- What stands before and behind the last colon. -/
theorem last_colon {host port : Bytes} (plain : 0x3a ∉ port) :
    ((host ++ 0x3a :: port).rdropWhile (· != 0x3a)).dropLast = host ∧
      (host ++ 0x3a :: port).rtakeWhile (· != 0x3a) = port := by
  induction port using List.reverseRecOn with
  | nil =>
    rw [List.rdropWhile_concat_neg _ _ _ (by simp), List.rtakeWhile_concat_neg _ _ _ (by simp), List.dropLast_concat]
    exact ⟨rfl, rfl⟩
  | append_singleton port c ih =>
    rw [List.mem_append, not_or, List.mem_singleton] at plain
    have other : (c != 0x3a) = true := bne_iff_ne.2 (Ne.symm plain.2)
    obtain ⟨front, back⟩ := ih plain.1
    rw [← List.cons_append, ← List.append_assoc, List.rdropWhile_concat_pos (· != 0x3a) _ c other,
      List.rtakeWhile_concat_pos (· != 0x3a) _ c other, front, back]
    exact ⟨rfl, rfl⟩

theorem readAnswer_peerText {peer : SockaddrStorage} (ip : peer.Ip) :
    readAnswer (peerText peer ++ [0x0a]) = some (peer.bound.1, peer.bound.2.1, peer.port.toNat) := by
  have plain : 0x3a ∉ decimal peer.port.toNat := Lib.notMem_decimal (by decide) _
  obtain ⟨front, back⟩ := @last_colon (ipText peer) _ plain
  simp only [readAnswer, List.dropLast_concat, peerText, front, back, Lib.digitsValue_decimal]
  rcases ip with family | family
  · have other : afInet ≠ afInet6 := by decide
    simp only [SockaddrStorage.bound, ipText, family, if_neg other, Lib.inetPton4_inetNtop4 (length_sinAddr peer)]
  · simp only [SockaddrStorage.bound, ipText, family, if_true, Lib.inetPton4_inetNtop6 (length_sin6Addr peer),
      Lib.inetPton6_inetNtop6 (length_sin6Addr peer), Option.map_some]

/-- An endpoint with the address and the port of a peer. -/
def peerEndpoint (proto : EndpointProto) (peer : SockaddrStorage) : Endpoint :=
  { kind := if peer.family = afInet6 then .inet6 else .inet, host := ipText peer, port := peer.port, proto := proto }

theorem ipText_ne_nil {peer : SockaddrStorage} : ipText peer ≠ [] := by
  unfold ipText
  split
  · exact List.ne_nil_of_mem (Lib.inetNtop6_colon (length_sin6Addr peer))
  · intro empty
    have read := Lib.inetPton4_inetNtop4 (length_sinAddr peer)
    have unread : inetPton4 [] = none := by decide
    rw [empty, unread] at read
    cases read

theorem colon_ipText (peer : SockaddrStorage) : 0x3a ∈ ipText peer ↔ peer.family = afInet6 := by
  unfold ipText
  split
  · rename_i family
    exact iff_of_true (Lib.inetNtop6_colon (length_sin6Addr peer)) family
  · rename_i family
    exact iff_of_false (Lib.notMem_inetNtop4 (by decide) (by decide) _) family

theorem parseEndpoint_loggedText {peer : SockaddrStorage} {proto : EndpointProto}
    (transport : proto = .tcp ∨ proto = .udp) (used : peer.port ≠ 0) :
    parseEndpoint proto (loggedText peer) = some (peerEndpoint proto peer) := by
  have short : (ipText peer).length ≤ 255 := (length_ipText peer).trans (by decide)
  have bound : 1 ≤ peer.port.toNat := by
    have := mt UInt16.toNat_inj.1 used
    simp only [UInt16.toNat_zero] at this
    omega
  have split : splitHostPort (loggedText peer) endpointHostSize =
      some (ipText peer, peer.port, decide (peer.family = afInet6)) := by
    unfold loggedText
    split
    · rename_i family
      have bracket : 0x5d ∉ ipText peer := notMem_ipText (by decide) (by decide) (by decide) peer
      rw [splitHostPort_inet6 ipText_ne_nil bracket short bound]
      simp [family]
    · rename_i family
      have bracket : (ipText peer).head? ≠ some 0x5b := fun first =>
        notMem_ipText (by decide) (by decide) (by decide) peer (List.mem_of_mem_head? first)
      rw [peerText, splitHostPort_inet ipText_ne_nil (mt (colon_ipText peer).1 family) bracket short bound]
      simp [family]
  rcases transport with rfl | rfl <;> simp [parseEndpoint, split, peerEndpoint]

theorem endpointToSockaddr_peer {peer : SockaddrStorage} (proto : EndpointProto) (ip : peer.Ip) :
    ∃ sa len, endpointToSockaddr inetPton (peerEndpoint proto peer) = .ok (sa, len) ∧ sa.bound = peer.bound := by
  rcases ip with family | family
  · have other : afInet ≠ afInet6 := by decide
    have four := Lib.inetPton4_inetNtop4 (length_sinAddr peer)
    have read : inetPton afInet (inetNtop4 (sinAddr peer.bytes)) = some (sinAddr peer.bytes) := four
    refine ⟨.ofBytes ([2, 0] ++ htons peer.port ++ sinAddr peer.bytes), sizeofSockaddrIn, ?_, ?_⟩
    · simp only [endpointToSockaddr, peerEndpoint, ipText, family, if_neg other, read]
    · rw [bound_inet peer.port (length_sinAddr peer), htons_port]
      simp only [SockaddrStorage.bound, family, if_neg other]
  · have six : inetPton6 (ipText peer) = some (sin6Addr peer.bytes) := by
      rw [ipText, if_pos family, Lib.inetPton6_inetNtop6 (length_sin6Addr peer)]
    obtain ⟨sa, len, converted, bound⟩ := @endpointToSockaddr_inet6 (peerEndpoint proto peer) _ (if_pos family) six
    refine ⟨sa, len, converted, ?_⟩
    rw [bound]
    simp only [SockaddrStorage.bound, peerEndpoint, family, if_true, htons_port]

theorem parsed_peerText {peer : SockaddrStorage} {proto : EndpointProto} {ep : Endpoint}
    (transport : proto = .tcp ∨ proto = .udp) (parsed : parseEndpoint proto (peerText peer) = some ep) :
    peer.family ≠ afInet6 ∧ peer.port ≠ 0 := by
  have split : ∃ parts, splitHostPort (peerText peer) endpointHostSize = some parts := by
    rcases transport with rfl | rfl <;>
    · obtain ⟨parts, split, -⟩ := Option.map_eq_some_iff.1 parsed
      exact ⟨parts, split⟩
  obtain ⟨⟨host, v, six⟩, split⟩ := split
  obtain ⟨port, form, number⟩ := splitHostPort_iff.1 split
  generalize whole : peerText peer = text at form
  cases form with
  | bracketed nonempty fits close =>
    have first : (0x5b : UInt8) ∈ ipText peer := by
      have head := congrArg List.head? whole
      rw [peerText, List.head?_append_of_ne_nil _ ipText_ne_nil] at head
      exact List.mem_of_mem_head? head
    exact absurd first (notMem_ipText (by decide) (by decide) (by decide) peer)
  | @plain host port bracket fits before behind =>
    -- the only colon of the one text is the last of the other
    have digits : 0x3a ∉ decimal peer.port.toNat := Lib.notMem_decimal (by decide) _
    have front : ipText peer = host := by
      rw [← (@last_colon (ipText peer) _ digits).1, ← peerText, whole, (last_colon behind).1]
    have back : decimal peer.port.toNat = port := by
      rw [← (@last_colon (ipText peer) _ digits).2, ← peerText, whole, (last_colon behind).2]
    refine ⟨fun family => ?_, fun unused => ?_⟩
    · rw [← colon_ipText, front] at family
      exact before family
    · have refused : parsePort (decimal (0 : UInt16).toNat) = none := by decide
      rw [← back, unused, refused] at number
      cases number

/-! ## Peers -/

/-- `text` is what is written of a peer with an IP address. -/
structure PeerNamed (peer : SockaddrStorage) (text : Bytes) : Prop where
  /-- Both kinds of route write it, and nothing of it is cut off. -/
  stream : ∀ buf, buf.length = clientAddrSize → (streamClientAddrString (some peer) buf).map cstr = some text
  datagram : ∀ c : DatagramClient, c.clientAddr = peer → ∀ buf, buf.length = clientAddrSize →
    (datagramClientAddrString c buf).map cstr = some text
  /-- It is the answer to the peer. -/
  answer : xBuiltinHandle .clientAddr (some text) = .ok { action := .close, data := text ++ [0x0a] }
  /-- The peer finds its address and port in it. -/
  read : readAnswer (text ++ [0x0a]) = some (peer.bound.1, peer.bound.2.1, peer.port.toNat)
  /-- `parse_endpoint` reads it for IPv4 only. -/
  accepted : ∀ proto, proto = .tcp ∨ proto = .udp →
    ((parseEndpoint proto text).isSome = true ↔ peer.family = afInet ∧ peer.port ≠ 0)
  /-- What the log has of the peer is an endpoint that denotes the peer. -/
  logged : ∀ addrLen buf, peer.fullLen ≤ addrLen → buf.length = clientAddrSize → peer.port ≠ 0 →
    ∀ proto, proto = .tcp ∨ proto = .udp → ∃ ep sa len,
      parseEndpoint proto (cstr (sockaddrFormat peer addrLen buf)) = some ep ∧
        endpointToSockaddr inetPton ep = .ok (sa, len) ∧ sa.bound = peer.bound

/-- **A peer is named by its address and port.** -/
theorem peers_named (peer : SockaddrStorage) (ip : peer.family = afInet ∨ peer.family = afInet6) :
    ∃ text, PeerNamed peer text := by
  refine ⟨peerText peer, ?_, ?_, xBuiltinHandle_peerText peer, readAnswer_peerText ip, ?_, ?_⟩
  · intro buf size
    rw [streamClientAddrString_eq]
    exact clientAddrString_text ip size
  · rintro c rfl buf size
    exact clientAddrString_text ip size
  · intro proto transport
    constructor
    · intro parsed
      obtain ⟨ep, parsed⟩ := Option.isSome_iff_exists.1 parsed
      obtain ⟨family, used⟩ := parsed_peerText transport parsed
      exact ⟨ip.resolve_right family, used⟩
    · rintro ⟨family, used⟩
      have plain : loggedText peer = peerText peer := by
        have other : afInet ≠ afInet6 := by decide
        rw [loggedText, family, if_neg other]
      rw [← plain, parseEndpoint_loggedText transport used]
      rfl
  · intro addrLen buf given size used proto transport
    obtain ⟨sa, len, converted, bound⟩ := endpointToSockaddr_peer proto ip
    refine ⟨peerEndpoint proto peer, sa, len, ?_, converted, bound⟩
    rw [sockaddrFormat_text ip given size]
    exact parseEndpoint_loggedText transport used

/-- `::1` with port 80. -/
def loopbackPeer : SockaddrStorage := .ofBytes ([10, 0, 0, 80, 0, 0, 0, 0] ++ List.replicate 15 0 ++ [1] ++ [0, 0, 0, 0])

/-- An IPv6 peer. -/
theorem peers_named_loopback : loopbackPeer.family = afInet6 ∧ peerText loopbackPeer = ascii "::1:80" ∧
    ∃ text, PeerNamed loopbackPeer text :=
  ⟨by decide, by decide, peers_named loopbackPeer (.inr (by decide))⟩

end Tinyproxy
