import Tinyproxy.Conf.Load
import Tinyproxy.Lib.InetPton

/-!
# Listen conflicts

`find_conflicting_route` compares the listen endpoints as they are written, and the
socket layer compares addresses. The two agree on IPv4, where an address has one
spelling. An IPv6 address has many, so a text may listen on one address twice:
`listen_distinct_iff` says that this is the only way.
-/

namespace Tinyproxy

open Lib (ascii inetPton4 inetPton6)

/-- `inet_pton`. -/
def inetPton : InetPton := fun family host =>
  if family = afInet then inetPton4 host else
  if family = afInet6 then inetPton6 host else none

/-- What a socket is bound to: the family, the address bytes and the port. -/
def SockaddrStorage.bound (a : SockaddrStorage) : Nat × Bytes × Bytes :=
  (a.family, if a.family = afInet6 then sin6Addr a.bytes else sinAddr a.bytes, sinPort a.bytes)

/-- Listeners of one protocol on these endpoints, where both convert, have different addresses. -/
def DistinctListeners (a b : Endpoint) : Prop :=
  a.proto = b.proto → ∀ sa sa' len len', endpointToSockaddr inetPton a = .ok (sa, len) →
    endpointToSockaddr inetPton b = .ok (sa', len') → sa.bound ≠ sa'.bound

/-- Two spellings of one IPv6 address, under the same protocol and with the same port. -/
structure Respelled (a b : Endpoint) : Prop where
  bracketed : a.kind = .inet6 ∧ b.kind = .inet6
  proto : a.proto = b.proto
  port : a.port = b.port
  spelling : a.host ≠ b.host
  address : ∃ addr, inetPton6 a.host = some addr ∧ inetPton6 b.host = some addr

/-! ## What is bound -/

theorem htons_inj {v w : UInt16} (same : htons v = htons w) : v = w := by
  simp only [htons, List.cons.injEq, and_true] at same
  obtain ⟨high, low⟩ := same
  have high := congrArg UInt8.toNat high
  have low := congrArg UInt8.toNat low
  have bound := v.toNat_lt
  have bound' := w.toNat_lt
  simp only [UInt16.toNat_toUInt8, UInt16.toNat_shiftRight, Nat.shiftRight_eq_div_pow, UInt16.reduceToNat,
    Nat.reduceMod, Nat.reducePow] at high low bound bound'
  apply UInt16.toNat_inj.1
  omega

theorem bound_inet {addr : Bytes} (port : UInt16) (size : addr.length = 4) :
    (SockaddrStorage.ofBytes ([2, 0] ++ htons port ++ addr)).bound = (afInet, addr, htons port) := by
  have whole : ([2, 0] ++ htons port ++ addr).length = 8 := by
    simp [htons, size]
  have family : (SockaddrStorage.ofBytes ([2, 0] ++ htons port ++ addr)).family = afInet := rfl
  have all : addr.take 4 = addr := List.take_of_length_le (by omega)
  have other : afInet ≠ afInet6 := by decide
  simp only [SockaddrStorage.bound, family, if_neg other, sinAddr, sinPort]
  rw [ofBytes_part (by omega) (by omega), ofBytes_part (by omega) (by omega)]
  simp [htons, all]

theorem bound_inet6 {addr : Bytes} (port : UInt16) (size : addr.length = 16) :
    (SockaddrStorage.ofBytes ([10, 0] ++ htons port ++ [0, 0, 0, 0] ++ addr)).bound =
      (afInet6, addr, htons port) := by
  have whole : ([10, 0] ++ htons port ++ [0, 0, 0, 0] ++ addr).length = 24 := by
    simp [htons, size]
  have family : (SockaddrStorage.ofBytes ([10, 0] ++ htons port ++ [0, 0, 0, 0] ++ addr)).family = afInet6 := rfl
  have all : addr.take 16 = addr := List.take_of_length_le (by omega)
  simp only [SockaddrStorage.bound, family, if_true, sin6Addr, sinPort]
  rw [ofBytes_part (by omega) (by omega), ofBytes_part (by omega) (by omega)]
  simp [htons, all]

/-- What a listener on an endpoint that converts is bound to. -/
theorem endpointToSockaddr_bound {ep : Endpoint} {sa : SockaddrStorage} {len : Nat}
    (converted : endpointToSockaddr inetPton ep = .ok (sa, len)) :
    (ep.kind = .inet ∧ ∃ addr, inetPton4 ep.host = some addr ∧ sa.bound = (afInet, addr, htons ep.port)) ∨
      (ep.kind = .inet6 ∧ ∃ addr, inetPton6 ep.host = some addr ∧ sa.bound = (afInet6, addr, htons ep.port)) := by
  have four : inetPton afInet ep.host = inetPton4 ep.host := rfl
  have six : inetPton afInet6 ep.host = inetPton6 ep.host := rfl
  unfold endpointToSockaddr at converted
  rw [four, six] at converted
  split at converted
  · rename_i kind
    cases read : inetPton4 ep.host with
    | none =>
      rw [read] at converted
      cases converted
    | some addr =>
      rw [read] at converted
      cases converted
      exact .inl ⟨kind, addr, rfl, bound_inet ep.port (Lib.length_inetPton4 read)⟩
  · rename_i kind
    cases read : inetPton6 ep.host with
    | none =>
      rw [read] at converted
      cases converted
    | some addr =>
      rw [read] at converted
      cases converted
      exact .inr ⟨kind, addr, rfl, bound_inet6 ep.port (Lib.length_inetPton6 read)⟩
  · cases converted

theorem endpointToSockaddr_inet6 {ep : Endpoint} {addr : Bytes} (kind : ep.kind = .inet6)
    (read : inetPton6 ep.host = some addr) :
    ∃ sa len, endpointToSockaddr inetPton ep = .ok (sa, len) ∧ sa.bound = (afInet6, addr, htons ep.port) := by
  have six : inetPton afInet6 ep.host = some addr := read
  refine ⟨.ofBytes ([10, 0] ++ htons ep.port ++ [0, 0, 0, 0] ++ addr), sizeofSockaddrIn6, ?_, ?_⟩
  · simp only [endpointToSockaddr, kind, six]
  · exact bound_inet6 ep.port (Lib.length_inetPton6 read)

/-! ## What is compared -/

/-- Endpoints with an address are compared by host and port. -/
theorem sameListenEndpoint_inet {a b : Endpoint} (good : a.WellFormed) (kind : a.kind = .inet ∨ a.kind = .inet6)
    (proto : a.proto = b.proto) (host : a.host = b.host) (port : a.port = b.port) :
    sameListenEndpoint a b = true := by
  have transport : a.proto = .tcp ∨ a.proto = .udp := by
    cases good with
    | inet transport => exact transport
    | inet6 transport => exact transport
    | path kinds => rcases kinds with ⟨⟨⟩⟩ | ⟨⟨⟩⟩ | ⟨⟨⟩⟩ <;> simp at kind
    | builtin named => simp at kind
  unfold sameListenEndpoint
  rw [if_neg (not_not.2 proto)]
  rcases transport with transport | transport <;> simp [transport, host, port]

/-- Two spellings of one address are one listener twice. -/
theorem Respelled.shared {a b : Endpoint} (same : Respelled a b) : ¬ DistinctListeners a b := by
  intro distinct
  obtain ⟨addr, first, second⟩ := same.address
  obtain ⟨sa, len, converted, bound⟩ := endpointToSockaddr_inet6 same.bracketed.1 first
  obtain ⟨sa', len', converted', bound'⟩ := endpointToSockaddr_inet6 same.bracketed.2 second
  apply distinct same.proto sa sa' len len' converted converted'
  rw [bound, bound', same.port]

/-- Listeners that are not in conflict share an address only through two spellings of it. -/
theorem distinctListeners_iff {a b : Endpoint} (good : a.WellFormed) (apart : sameListenEndpoint a b = false) :
    DistinctListeners a b ↔ ¬ Respelled a b := by
  constructor
  · exact fun distinct same => same.shared distinct
  · intro spelled proto sa sa' len len' converted converted' bound
    have conflict : (a.kind = .inet ∨ a.kind = .inet6) → a.host = b.host → a.port ≠ b.port := by
      intro kind host port
      rw [sameListenEndpoint_inet good kind proto host port] at apart
      cases apart
    rcases endpointToSockaddr_bound converted with ⟨kind, addr, read, here⟩ | ⟨kind, addr, read, here⟩
    · rcases endpointToSockaddr_bound converted' with ⟨kind', addr', read', there⟩ | ⟨kind', addr', read', there⟩
      · rw [here, there, Prod.mk.injEq, Prod.mk.injEq] at bound
        obtain ⟨-, rfl, port⟩ := bound
        -- an IPv4 address has one spelling
        have host : a.host = b.host := (Lib.inetPton4_spelling read).trans (Lib.inetPton4_spelling read').symm
        exact conflict (.inl kind) host (htons_inj port)
      · rw [here, there] at bound
        cases (Prod.mk.inj bound).1
    · rcases endpointToSockaddr_bound converted' with ⟨kind', addr', read', there⟩ | ⟨kind', addr', read', there⟩
      · rw [here, there] at bound
        cases (Prod.mk.inj bound).1
      · rw [here, there, Prod.mk.injEq, Prod.mk.injEq] at bound
        obtain ⟨-, rfl, port⟩ := bound
        refine spelled ⟨⟨kind, kind'⟩, proto, htons_inj port, ?_, addr, read, read'⟩
        intro host
        exact conflict (.inr kind) host (htons_inj port)

/-- **When accepted routes listen on different addresses**: exactly when no two lines of the text spell one IPv6 address
in two ways, under the same protocol and with the same port. -/
theorem listen_distinct_iff (text : Bytes) (routes : List Route) (accepted : loadRoutesFromText text = .ok routes) :
    routes.Pairwise (fun r r' => DistinctListeners r.listen r'.listen) ↔
      (textLines text).Pairwise fun raw raw' =>
        ∀ a, lineListen raw = some a → ∀ b, lineListen raw' = some b → ¬ Respelled a b := by
  obtain ⟨new, read, rfl, apart, -⟩ := loadLines_eq_ok_iff.1 accepted
  have good := readLines_wellFormed read
  rw [← List.pairwise_filterMap, ← readLines_listen read, List.pairwise_map]
  constructor
  · intro distinct
    exact distinct.imp fun distinct same => same.shared distinct
  · intro spelled
    apply (apart.and spelled).imp_of_mem
    intro r r' mem _ ⟨apart, spelled⟩
    exact (distinctListeners_iff (good r mem).listen apart).2 spelled

/-- The route of `udp [::1]:53 udp 10.0.0.1:53` on the first line. -/
def loopback : Route where
  listen := { kind := .inet6, host := ascii "::1", port := 53, proto := .udp }
  upstream := { kind := .inet, host := ascii "10.0.0.1", port := 53, proto := .udp }
  lineNo := 1

/-- Two addresses of one prefix, on one port. -/
theorem listen_distinct_two :
    loadRoutesFromText (ascii "udp [::1]:53 udp 10.0.0.1:53\nudp [::2]:53 udp 10.0.0.1:53") =
        .ok [loopback, { loopback with listen := { loopback.listen with host := ascii "::2" }, lineNo := 2 }] ∧
      [loopback, { loopback with listen := { loopback.listen with host := ascii "::2" }, lineNo := 2 }].Pairwise
        fun r r' => DistinctListeners r.listen r'.listen := by
  have accepted : loadRoutesFromText (ascii "udp [::1]:53 udp 10.0.0.1:53\nudp [::2]:53 udp 10.0.0.1:53") =
      .ok [loopback, { loopback with listen := { loopback.listen with host := ascii "::2" }, lineNo := 2 }] := by
    decide +kernel
  have lines : (textLines (ascii "udp [::1]:53 udp 10.0.0.1:53\nudp [::2]:53 udp 10.0.0.1:53")).filterMap lineListen =
      [loopback.listen, { loopback.listen with host := ascii "::2" }] := by
    decide +kernel
  refine ⟨accepted, (listen_distinct_iff _ _ accepted).2 ?_⟩
  rw [← List.pairwise_filterMap, lines, List.pairwise_pair]
  rintro ⟨-, -, -, -, addr, first, second⟩
  rw [← first] at second
  revert second
  decide +kernel

/-- The same address, spelled out. -/
def loopbackAgain : Route where
  listen := { kind := .inet6, host := ascii "0:0:0:0:0:0:0:1", port := 53, proto := .udp }
  upstream := { kind := .inet, host := ascii "10.0.0.2", port := 53, proto := .udp }
  lineNo := 2

/-- A text that listens on the loopback address twice. -/
theorem listen_respelled :
    ¬ ∀ (text : Bytes) (routes : List Route), loadRoutesFromText text = .ok routes →
      routes.Pairwise fun r r' => DistinctListeners r.listen r'.listen := by
  intro distinct
  have accepted : loadRoutesFromText
      (ascii "udp [::1]:53 udp 10.0.0.1:53\nudp [0:0:0:0:0:0:0:1]:53 udp 10.0.0.2:53") =
      .ok [loopback, loopbackAgain] := by
    decide +kernel
  have respelled : Respelled loopback.listen loopbackAgain.listen := by
    refine ⟨⟨rfl, rfl⟩, rfl, rfl, by decide, List.replicate 15 0 ++ [1], ?_, ?_⟩
    · decide +kernel
    · decide +kernel
  exact respelled.shared (List.rel_of_pairwise_cons (distinct _ _ accepted) (List.mem_singleton_self _))

end Tinyproxy
