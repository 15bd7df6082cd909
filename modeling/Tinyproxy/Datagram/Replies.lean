import Tinyproxy.Datagram.Expiry

/-!
# Replies, one for one

What becomes of the datagrams queued on a client's upstream socket. Each run of
`upstream_read_cb` takes datagrams off the queue until one ends its loop, and the
level-triggered event runs it again as long as any are left. All of them are received
in the end; handed on are those that are not empty, for a `recv` of no bytes ends the
loop with the datagram in hand.
-/

namespace Tinyproxy

/-- A datagram queued on an upstream socket, and what the calls made to send it on return. -/
structure QueuedDatagram where
  data : Bytes
  env : ReplyEnv := {}

/-- `EAGAIN`. -/
def eagain : Errno := .other 11

/-- `recv` into a buffer of `UDP_MAX_PACKET` bytes: the first datagram of the queue, less what does not fit. -/
def recvQueued (d : QueuedDatagram) : RecvOutcome := .datagram (d.data.take udpMaxPacket) d.env

/-- What `recv` returns in one run of `upstream_read_cb`, up to the result that ends its loop, and the queue it leaves. -/
def upstreamRecvs (ctx : DatagramRouteCtx) (c : DatagramClient) :
    List QueuedDatagram → List RecvOutcome × List QueuedDatagram
  | [] => ([.failed eagain], [])
  | d :: rest =>
    if (recvQueued d).sentOn ctx c then
      let (results, left) := upstreamRecvs ctx c rest
      (recvQueued d :: results, left)
    else ([recvQueued d], rest)

/-- The event loop runs `upstream_read_cb` while its socket is readable, `fuel` times at most. -/
def dispatchUpstream (c : DatagramClient) : Nat → DatagramRouteCtx → List QueuedDatagram → Option DatagramRouteCtx
  | _, ctx, [] => some ctx
  | 0, _, _ :: _ => none
  | fuel + 1, ctx, d :: rest =>
    let (results, left) := upstreamRecvs ctx c (d :: rest)
    (upstreamReadCb ctx c results).bind fun after => dispatchUpstream c fuel after left

/-- `upstream_read_cb` on a queue until the socket would block. -/
def readUntilBlocked (ctx : DatagramRouteCtx) (c : DatagramClient) (queue : List QueuedDatagram) :
    Option DatagramRouteCtx :=
  dispatchUpstream c queue.length ctx queue

section

variable {ctx : DatagramRouteCtx} {c : DatagramClient}

/-- What is recorded of the traffic changes nothing about what is relayed. -/
theorem relayed_traffic (traffic : List Traffic) : relayed { ctx with traffic := traffic } c = relayed ctx c := by
  funext result
  cases result <;> rfl

/-- The loop goes on behind a datagram that is sent on. -/
theorem readLoop_sentOn {d : QueuedDatagram} {results : List RecvOutcome} (sent : (recvQueued d).sentOn ctx c = true) :
    upstreamReadLoop ctx c (recvQueued d :: results) =
      (upstreamReadLoop ctx c results).map (relayed ctx c (recvQueued d) ++ ·) := by
  simp only [recvQueued, RecvOutcome.sentOn, Bool.and_eq_true, bne_iff_ne] at sent
  simp only [recvQueued, upstreamReadLoop, relayed, if_neg sent.1]
  split
  · rename_i rc failed
    rw [failed] at sent
    cases sent.2
  · rfl

theorem readLoop_last (d : QueuedDatagram) :
    upstreamReadLoop ctx c [recvQueued d] = some (relayed ctx c (recvQueued d)) := by
  simp only [recvQueued, upstreamReadLoop, relayed]
  split
  · rfl
  · split
    · rfl
    · rfl

/-- One run of `upstream_read_cb` passes on what it received. -/
theorem upstreamRecvs_loop (queue : List QueuedDatagram) :
    upstreamReadLoop ctx c (upstreamRecvs ctx c queue).1 = some ((upstreamRecvs ctx c queue).1.flatMap (relayed ctx c)) := by
  induction queue with
  | nil => rfl
  | cons d rest ih =>
    unfold upstreamRecvs
    split
    · rename_i sent
      rw [readLoop_sentOn sent, ih, List.flatMap_cons]
      rfl
    · rw [readLoop_last, List.flatMap_singleton]

/-- What is received and what is left are the queue. -/
theorem upstreamRecvs_data (queue : List QueuedDatagram) :
    (upstreamRecvs ctx c queue).1.filterMap RecvOutcome.data ++
        (upstreamRecvs ctx c queue).2.map (fun d => d.data.take udpMaxPacket) =
      queue.map fun d => d.data.take udpMaxPacket := by
  induction queue with
  | nil => rfl
  | cons d rest ih =>
    unfold upstreamRecvs
    split
    · rw [List.map_cons, ← ih]
      rfl
    · rfl

/-- A run that finds a datagram takes one off the queue. -/
theorem upstreamRecvs_shorter (d : QueuedDatagram) (rest : List QueuedDatagram) :
    (upstreamRecvs ctx c (d :: rest)).2.length ≤ rest.length := by
  induction rest generalizing d with
  | nil =>
    unfold upstreamRecvs
    split
    · exact Nat.le_refl _
    · exact Nat.le_refl _
  | cons e rest ih =>
    unfold upstreamRecvs
    split
    · have shorter := ih e
      exact Nat.le_succ_of_le shorter
    · exact Nat.le_refl _

end

/-- **The socket is drained**: its whole queue is received, in order, and passed on as `upstream_read_cb` does. -/
theorem dispatchUpstream_drains (c : DatagramClient) (fuel : Nat) (ctx : DatagramRouteCtx) (queue : List QueuedDatagram)
    (enough : queue.length ≤ fuel) :
    ∃ results : List RecvOutcome, dispatchUpstream c fuel ctx queue =
        some { ctx with traffic := ctx.traffic ++ results.flatMap (relayed ctx c) } ∧
      results.filterMap RecvOutcome.data = queue.map fun d => d.data.take udpMaxPacket := by
  induction fuel generalizing ctx queue with
  | zero =>
    rw [List.length_eq_zero_iff.1 (Nat.le_zero.1 enough)]
    exact ⟨[], by simp [dispatchUpstream], rfl⟩
  | succ fuel ih =>
    cases queue with
    | nil => exact ⟨[], by simp [dispatchUpstream], rfl⟩
    | cons d rest =>
      have shorter := @upstreamRecvs_shorter ctx c d rest
      rw [List.length_cons] at enough
      obtain ⟨later, drained, received⟩ := ih
        { ctx with traffic := ctx.traffic ++ (upstreamRecvs ctx c (d :: rest)).1.flatMap (relayed ctx c) }
        (upstreamRecvs ctx c (d :: rest)).2 (by omega)
      refine ⟨(upstreamRecvs ctx c (d :: rest)).1 ++ later, ?_, ?_⟩
      · simp only [dispatchUpstream, upstreamReadCb, upstreamRecvs_loop, Option.map_some, Option.bind_some, drained,
          relayed_traffic, List.flatMap_append, List.append_assoc]
      · rw [List.filterMap_append, received, upstreamRecvs_data]

/-- A list is what a filter leaves of it exactly when the filter drops nothing. -/
theorem replies_filtered_iff {queue : List QueuedDatagram} :
    ((queue.map QueuedDatagram.data).filter fun data => data.length != 0) = queue.map QueuedDatagram.data ↔
      ∀ d ∈ queue, d.data ≠ [] := by
  rw [List.filter_eq_self]
  simp

/-- **Replies are relayed one for one, unless one is empty.** `upstream_read_cb`, run until the socket would block,
hands the queued datagrams to `send_datagram_payload_to_client` in order and unaltered, exactly when none of them has
length zero. -/
theorem datagram_replies_iff (ctx : DatagramRouteCtx) (c : DatagramClient) (queue : List QueuedDatagram)
    (sizes : ∀ d ∈ queue, d.data.length ≤ 65535) :
    ∃ passed, readUntilBlocked ctx c queue = some { ctx with traffic := ctx.traffic ++ passed } ∧
      (passed.filterMap (Traffic.handed c.fd) = queue.map QueuedDatagram.data ↔ ∀ d ∈ queue, d.data ≠ []) := by
  obtain ⟨results, drained, received⟩ := dispatchUpstream_drains c queue.length ctx queue (Nat.le_refl _)
  have whole : (queue.map fun d => d.data.take udpMaxPacket) = queue.map QueuedDatagram.data := by
    apply List.map_congr_left
    intro d mem
    exact List.take_of_length_le (sizes d mem)
  refine ⟨_, drained, ?_⟩
  rw [relayed_handed, if_pos rfl, received, whole]
  exact replies_filtered_iff

/-- The client of one peer of `udpCtx`. -/
def replyClient : DatagramClient :=
  { id := 0, base := 0, fd := 0, clientAddr := (packetFrom 7 []).peerAddr, clientAddrLen := sizeofSockaddrIn, lastSeen := 0 }

theorem datagram_replies_two :
    ∃ passed, readUntilBlocked udpCtx replyClient [⟨[1], {}⟩, ⟨[2, 3], {}⟩] =
        some { udpCtx with traffic := udpCtx.traffic ++ passed } ∧
      passed.filterMap (Traffic.handed replyClient.fd) = [[1], [2, 3]] := by
  obtain ⟨passed, drained, relayed⟩ := datagram_replies_iff udpCtx replyClient [⟨[1], {}⟩, ⟨[2, 3], {}⟩] (by decide)
  exact ⟨passed, drained, relayed.2 (by decide)⟩

/-- **An empty datagram between two others is dropped**, though every send to the client succeeds. -/
theorem datagram_replies_dropped :
    ¬ ∀ (ctx : DatagramRouteCtx) (c : DatagramClient) (queue : List QueuedDatagram),
      (∀ d ∈ queue, d.data.length ≤ 65535) →
      (∀ d ∈ queue, (sendDatagramPayloadToClient ctx c d.env d.data).2 = .ok ()) →
      ∃ passed, readUntilBlocked ctx c queue = some { ctx with traffic := ctx.traffic ++ passed } ∧
        passed.filterMap (Traffic.handed c.fd) = queue.map QueuedDatagram.data := by
  intro relayed
  obtain ⟨passed, drained, same⟩ := relayed udpCtx replyClient [⟨[1], {}⟩, ⟨[], {}⟩, ⟨[2], {}⟩] (by decide) (by decide)
  have handed : (readUntilBlocked udpCtx replyClient [⟨[1], {}⟩, ⟨[], {}⟩, ⟨[2], {}⟩]).map
      (fun after => after.traffic.filterMap (Traffic.handed replyClient.fd)) = some [[1], [2]] := by
    decide +kernel
  rw [drained, Option.map_some, Option.some.injEq] at handed
  have nothing : udpCtx.traffic = [] := rfl
  rw [nothing, List.nil_append, same] at handed
  revert handed
  decide

end Tinyproxy
