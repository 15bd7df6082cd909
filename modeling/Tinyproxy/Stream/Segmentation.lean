import Tinyproxy.Stream.Events
import Tinyproxy.Stream.SniffChunks

/-!
# Sniffing along the runs of a connection

The sniff state of a connection is what `sniffChunks` makes of the chunks its client
callbacks were given (`run_sniffChunks`), and every way of cutting a byte string is the
run of some client (`Ready.chunks`). So the byte strings whose sniff result depends on
how the client's data arrives are exactly those that are not `SegmentationSafe`.
-/

namespace Tinyproxy

/-- The part of a connection the sniffer reads and writes. -/
structure Intake where
  route : Route
  sniff : StreamSniff
  input : Bytes
  received : Bytes

def Conn.intake (c : Conn) : Intake := ⟨c.route, c.sniff, c.client.input, c.client.received⟩

/-- What a client read does to the intake of a sniffing connection. -/
def Intake.read (i : Intake) (chunk : Bytes) : Intake :=
  { i with sniff := streamSniffPeekClientInput i.sniff (i.input ++ chunk), input := [], received := i.received ++ chunk }

/-! ## Runs are chunk lists -/

theorem scheduleConnIdleTimer_intake (c : Conn) : (scheduleConnIdleTimer c).intake = c.intake := by
  unfold scheduleConnIdleTimer
  split
  · rfl
  · split <;> rfl

theorem startConnIdleTimer_intake (c : Conn) (timerOk : Bool) : (startConnIdleTimer c timerOk).intake = c.intake := by
  unfold startConnIdleTimer
  split
  · rfl
  · cases timerOk with
    | false => rfl
    | true =>
      dsimp only
      rw [if_neg (by decide), scheduleConnIdleTimer_intake]
      rfl

theorem drainClientThenClose_intake (c : Conn) : (drainClientThenClose c).intake = c.intake := by
  unfold drainClientThenClose
  dsimp only
  split <;> rfl

theorem streamUpstreamEventCb_intake (c : Conn) (events : BevEvents) (timerOk : Bool) :
    (streamUpstreamEventCb c events timerOk).conn.intake = c.intake := by
  unfold streamUpstreamEventCb
  split
  · exact startConnIdleTimer_intake (clearIdleTimeout { c with upstreamConnected := true }) timerOk
  · split
    · rfl
    · split
      · split
        · exact drainClientThenClose_intake c
        · rfl
      · split
        · exact drainClientThenClose_intake c
        · rfl

theorem fail_intake (c : Conn) (dir : Direction) : ({ c with client := c.client.fail dir } : Conn).intake = c.intake := by
  cases dir <;> rfl

theorem streamClientEventCb_intake (c : Conn) (events : BevEvents) :
    (streamClientEventCb c events).conn.intake = c.intake := by
  unfold streamClientEventCb
  split
  · rfl
  · split
    · rfl
    · split <;> rfl

/-- No event but a client read touches the intake. -/
theorem handle_intake (c : Conn) {e : ConnEvent} (other : ∀ chunk, e ≠ .clientRead chunk) :
    (c.handle e).conn.intake = c.intake := by
  cases e with
  | connected timerOk => exact streamUpstreamEventCb_intake _ _ _
  | clientRead chunk => exact absurd rfl (other chunk)
  | upstreamRead chunk =>
    simp only [Conn.handle, Session.conn, pipeUpstreamReadCb]
    split <;> rfl
  | clientWrite n =>
    simp only [Conn.handle, pipeClientWriteCb]
    split
    · split
      · rfl
      · split <;> rfl
    · rfl
  | upstreamWrite n =>
    simp only [Conn.handle, pipeUpstreamWriteCb]
    split
    · split <;> rfl
    · rfl
  | clientEvent dir cond => exact (streamClientEventCb_intake _ _).trans (fail_intake c dir)
  | upstreamEvent dir cond => exact streamUpstreamEventCb_intake _ _ _
  | idleTimeout =>
    simp only [Conn.handle, connIdleTimeoutCb]
    split
    · exact scheduleConnIdleTimer_intake _
    · rfl

theorem handle_clientRead_intake {c : Conn} (sniffing : c.route.opts.sniSniff = true) (chunk : Bytes) :
    (c.handle (.clientRead chunk)).conn.intake = c.intake.read chunk := by
  simp only [Conn.handle, Session.conn, pipeClientReadCb, Bufferevent.fill, sniffing, if_true]
  split <;> rfl

/-- **The sniff state of a run** is that of the chunks its client reads delivered. -/
theorem run_sniffChunks {c : Conn} {es : List ConnEvent} {s : Session} (sniffing : c.route.opts.sniSniff = true)
    (fresh : c.intake = ⟨c.route, {}, [], []⟩) (ran : connMachine.run (.live c) es = some s) :
    ∃ chunks : List Bytes, (∀ chunk ∈ chunks, chunk ≠ []) ∧
      s.conn.intake = ⟨c.route, sniffChunks {} chunks, [], chunks.flatten⟩ := by
  refine Lib.Machine.run_invariant (I := fun s : Session => ∃ chunks : List Bytes, (∀ chunk ∈ chunks, chunk ≠ []) ∧
    s.conn.intake = ⟨c.route, sniffChunks {} chunks, [], chunks.flatten⟩) (s := Session.live c) ?_ ?_ ran
  · rintro s e t ⟨chunks, filled, intake⟩ step
    cases s with
    | freed d => cases step
    | live d =>
      obtain ⟨ready, rfl⟩ := step_live.1 step
      by_cases read : ∃ chunk, e = .clientRead chunk
      · obtain ⟨chunk, rfl⟩ := read
        have route : d.route = c.route := congrArg Intake.route intake
        refine ⟨chunks ++ [chunk], ?_, ?_⟩
        · intro x mem
          rcases List.mem_append.1 mem with earlier | last
          · exact filled x earlier
          · rw [List.mem_singleton.1 last]
            rintro rfl
            simp [ConnEvent.enabled, Bufferevent.canRead] at ready
        · rw [handle_clientRead_intake (by rw [route, sniffing])]
          rw [show d.intake = _ from intake, List.flatten_append]
          simp [Intake.read, sniffChunks]
      · refine ⟨chunks, filled, ?_⟩
        rw [handle_intake d fun chunk same => read ⟨chunk, same⟩]
        exact intake
  · exact ⟨[], fun _ mem => absurd mem List.not_mem_nil, fresh⟩

/-! ## Chunk lists are runs -/

/-- A connection that has nothing queued for the upstream and can take the client's next chunk. -/
structure Ready (c : Conn) : Prop where
  reads : c.client.evRead = true
  input : c.client.input = []
  readHigh : c.client.readHigh = streamReadHighWater
  maxSingleRead : c.client.maxSingleRead = streamIoChunkSize
  output : c.upstream.output = []
  writes : c.upstream.evWrite = true
  connected : c.upstream.connecting = false
  maxSingleWrite : c.upstream.maxSingleWrite = streamIoChunkSize

namespace Ready

variable {c : Conn} {chunk : Bytes}

theorem canRead (ready : Ready c) (filled : chunk ≠ []) (small : chunk.length ≤ streamIoChunkSize) :
    c.client.canRead chunk = true := by
  have limit : c.client.readLimit = streamIoChunkSize := by
    rw [Bufferevent.readLimit, ready.readHigh, ready.maxSingleRead, ready.input]
    decide
  simp [Bufferevent.canRead, ready.reads, filled, limit, small]

/-- The connection between a client read and the write that flushes it. -/
theorem queued (ready : Ready c) (small : chunk.length ≤ streamIoChunkSize) :
    (pipeClientReadCb { c with client := c.client.fill chunk }).flow =
      { c.flow with
        upstream := { c.upstream with output := chunk }
        client := { c.client with input := [], received := c.client.received ++ chunk } } := by
  have room : decide (chunk.length < streamReadHighWater) = true := by
    have high : streamIoChunkSize < streamReadHighWater := by decide
    exact decide_eq_true (Nat.lt_of_le_of_lt small high)
  rw [pipeClientReadCb_flow]
  simp [Bufferevent.fill, Conn.flow, ready.input, ready.output, ready.reads, room]

/-- A chunk is read and flushed, and the connection is ready again. -/
theorem step (ready : Ready c) (sniffing : c.route.opts.sniSniff = true) (filled : chunk ≠ [])
    (small : chunk.length ≤ streamIoChunkSize) :
    ∃ c', connMachine.run (.live c) [.clientRead chunk, .upstreamWrite chunk.length] = some (.live c') ∧ Ready c' ∧
      c'.intake = c.intake.read chunk := by
  have flow := ready.queued small
  have intake := handle_clientRead_intake sniffing chunk
  generalize between : pipeClientReadCb { c with client := c.client.fill chunk } = d at flow
  have client : d.client = _ := congrArg Flow.client flow
  have upstream : d.upstream = _ := congrArg Flow.upstream flow
  have handled : c.handle (.clientRead chunk) = .live d := congrArg Session.live between
  have first : connMachine.step (.live c) (.clientRead chunk) = some (.live d) :=
    step_live.2 ⟨ready.canRead filled small, handled⟩
  have length : 0 < chunk.length := List.length_pos_iff.2 filled
  have can : d.upstream.canWrite chunk.length = true := by
    simp [Bufferevent.canWrite, upstream, ready.writes, ready.connected, ready.maxSingleWrite, small, Nat.ne_of_gt length]
  have empty : (d.upstream.drain chunk.length).output = [] := by
    simp [Bufferevent.drain, upstream]
  have second : d.handle (.upstreamWrite chunk.length) =
      .live { d with upstream := d.upstream.drain chunk.length, client := d.client.enable true false } := by
    simp [Conn.handle, pipeUpstreamWriteCb, empty, streamWriteResumeWater, streamIoChunkSize]
  have last : connMachine.step (.live d) (.upstreamWrite chunk.length) = some _ := step_live.2 ⟨can, second⟩
  refine ⟨_, Lib.Machine.run_cons.2 ⟨_, first, Lib.Machine.run_single.2 last⟩, ?_, ?_⟩
  · constructor <;> simp [Bufferevent.enable, Bufferevent.drain, client, upstream, ready.reads, ready.readHigh,
      ready.maxSingleRead, ready.writes, ready.connected, ready.maxSingleWrite]
  · rw [← intake, handled]
    rfl

/-- Every list of chunks the read limit allows is delivered by some run. -/
theorem chunks (ready : Ready c) (sniffing : c.route.opts.sniSniff = true) (chunks : List Bytes)
    (small : ∀ x ∈ chunks, x ≠ [] ∧ x.length ≤ streamIoChunkSize) :
    ∃ es c', connMachine.run (.live c) es = some (.live c') ∧
      c'.intake = { c.intake with
        sniff := sniffChunks c.sniff chunks
        input := []
        received := c.client.received ++ chunks.flatten } := by
  induction chunks generalizing c with
  | nil =>
    refine ⟨[], c, rfl, ?_⟩
    simp [Conn.intake, sniffChunks, ready.input]
  | cons chunk chunks ih =>
    obtain ⟨nonempty, limit⟩ := small chunk List.mem_cons_self
    obtain ⟨d, first, again, intake⟩ := ready.step sniffing nonempty limit
    have route : d.route = c.route := congrArg Intake.route intake
    have sniff : d.sniff = streamSniffPeekClientInput c.sniff (c.client.input ++ chunk) := congrArg Intake.sniff intake
    have received : d.client.received = c.client.received ++ chunk := congrArg Intake.received intake
    obtain ⟨es, c', rest, final⟩ := ih again (by rw [route, sniffing]) fun x mem => small x (List.mem_cons_of_mem _ mem)
    refine ⟨_, c', Lib.Machine.run_append.2 ⟨_, first, rest⟩, ?_⟩
    rw [final, intake, sniff, received, ready.input]
    simp [Intake.read, sniffChunks, Conn.intake]

end Ready

theorem FlowStep.connected_eq {f g : Flow} {timerOk : Bool} (moved : FlowStep f (.connected timerOk) g) :
    g.upstream = { f.upstream with connecting := false, timeoutRead := none, timeoutWrite := none } ∧
      g.client = { f.client with evRead := true, evWrite := true, timeoutRead := none, timeoutWrite := none } := by
  cases moved with
  | connected ready => exact ⟨rfl, rfl⟩

/-- A fresh connection gets ready by connecting and flushing its header. -/
theorem freshConn_ready (r : Route) (clientFd upstreamFd : Int) {header : Bytes} (short : header.length ≤ 28) :
    ∃ c, connMachine.run (.live (freshConn r clientFd upstreamFd header)) [.connected true, .upstreamWrite header.length] =
        some (.live c) ∧ Ready c ∧ c.intake = (freshConn r clientFd upstreamFd header).intake := by
  have intake := handle_intake (freshConn r clientFd upstreamFd header) (e := .connected true) fun _ => nofun
  generalize handled : (freshConn r clientFd upstreamFd header).handle (.connected true) = s at intake
  have first : connMachine.step (.live (freshConn r clientFd upstreamFd header)) (.connected true) = some s :=
    step_live.2 ⟨rfl, handled⟩
  cases s with
  | freed d => cases handled
  | live d =>
    obtain ⟨upstream, client⟩ := (step_flow first).connected_eq
    change d.upstream = _ at upstream
    change d.client = _ at client
    have chunk : header.length ≤ streamIoChunkSize := Nat.le_trans short (by decide)
    have can : d.upstream.canWrite header.length = true := by
      simp only [Bufferevent.canWrite, upstream, Conn.flow, freshConn, chunk, decide_true, Nat.le_refl, Bool.not_false,
        Bool.and_true, Bool.true_and, Bool.or_eq_true, bne_iff_ne, beq_iff_eq]
      exact (Decidable.em (header.length = 0)).symm
    have empty : (d.upstream.drain header.length).output = [] := by
      simp [Bufferevent.drain, upstream, Conn.flow, freshConn]
    have flushed : d.handle (.upstreamWrite header.length) =
        .live { d with upstream := d.upstream.drain header.length, client := d.client.enable true false } := by
      simp [Conn.handle, pipeUpstreamWriteCb, empty, streamWriteResumeWater, streamIoChunkSize]
    have last : connMachine.step (.live d) (.upstreamWrite header.length) = some _ := step_live.2 ⟨can, flushed⟩
    refine ⟨_, Lib.Machine.run_cons.2 ⟨_, first, Lib.Machine.run_single.2 last⟩, ?_, intake⟩
    constructor <;> simp [Bufferevent.enable, Bufferevent.drain, client, upstream, Conn.flow, freshConn]

/-- **When sniffing does not depend on segmentation.** The sniff result of every run that delivers `b` is that of one
read of its first `STREAM_SNIFF_MAX` bytes exactly when `b` is safe. -/
theorem sniff_segmentation_iff {env : AdoptEnv} {ac : WorkerStreamClientMsg} {c : Conn}
    (adopted : workerAdoptClientFd env ac = .piped c) (sniffing : ac.route.opts.sniSniff = true) (b : Bytes) :
    (∀ es s, connMachine.run (.live c) es = some s → s.conn.client.received = b →
      s.conn.sniff.report = (streamSniffPeekClientInput {} (b.take streamSniffMax)).report) ↔ SegmentationSafe b := by
  obtain ⟨fd, header, queued, rfl⟩ := adopted_piped adopted
  constructor
  · intro same
    apply SegmentationSafe.of_report_eq
    intro chunks small flat
    obtain ⟨d, start, ready, intake⟩ := freshConn_ready ac.route ac.fd fd (queuedHeader_length queued)
    have route : d.route = ac.route := congrArg Intake.route intake
    have sniff : d.sniff = {} := congrArg Intake.sniff intake
    have received : d.client.received = [] := congrArg Intake.received intake
    obtain ⟨es, e, rest, final⟩ := ready.chunks (by rw [route, sniffing]) chunks fun x mem =>
      ⟨(small x mem).1, Nat.le_trans (small x mem).2 (by decide)⟩
    have got : e.client.received = b := by
      have all := congrArg Intake.received final
      rwa [received, List.nil_append, flat] at all
    have state : e.sniff = sniffChunks {} chunks := by
      have all := congrArg Intake.sniff final
      rwa [sniff] at all
    rw [← state]
    exact same _ _ (Lib.Machine.run_append.2 ⟨_, start, rest⟩) got
  · intro safe es s ran received
    obtain ⟨chunks, filled, intake⟩ := run_sniffChunks (c := freshConn ac.route ac.fd fd header) sniffing rfl ran
    have state : s.conn.sniff = sniffChunks {} chunks := congrArg Intake.sniff intake
    have flat : s.conn.client.received = chunks.flatten := congrArg Intake.received intake
    rw [state]
    exact safe.report_eq filled (flat.symm.trans received)

/-- The ClientHello of a client that asks for the host `a.b`. -/
def clientHello : Bytes :=
  [0x16, 0x03, 0x01, 0x00, 0x3b, 0x01, 0x00, 0x00, 0x37, 0x03, 0x03] ++ List.replicate 32 0x5a ++
    [0x00, 0x00, 0x02, 0x13, 0x01, 0x01, 0x00, 0x00, 0x0c, 0x00, 0x00, 0x00, 0x08, 0x00, 0x06, 0x00, 0x00, 0x03,
      0x61, 0x2e, 0x62]

theorem sniff_segmentation_hello :
    headedMsg.route.opts.sniSniff = true ∧
      ((∀ es s, connMachine.run (.live headedConn) es = some s → s.conn.client.received = clientHello →
        s.conn.sniff.report = (streamSniffPeekClientInput {} (clientHello.take streamSniffMax)).report) ↔
        SegmentationSafe clientHello) :=
  ⟨rfl, sniff_segmentation_iff headedConn_adopted rfl clientHello⟩

/-- The ClientHello in two reads. -/
def splitHelloRun : List ConnEvent :=
  [.connected true, .clientRead (clientHello.take 20), .clientRead (clientHello.drop 20)]

/-- **A ClientHello in two reads is not recognised**: in one read it is `PARSED`, in two it ends as `NOT_TLS`. -/
theorem sniff_segmentation_differs :
    ¬ ∀ (env : AdoptEnv) (ac : WorkerStreamClientMsg) (c : Conn) (b : Bytes) (es : List ConnEvent) (s : Session),
      workerAdoptClientFd env ac = .piped c → ac.route.opts.sniSniff = true →
      connMachine.run (.live c) es = some s → s.conn.client.received = b →
      s.conn.sniff.report = (streamSniffPeekClientInput {} (b.take streamSniffMax)).report := by
  intro same
  have ran : connMachine.run (.live headedConn) splitHelloRun = some (.live (headedConn.after splitHelloRun)) := by
    decide +kernel
  have received : (headedConn.after splitHelloRun).client.received = clientHello := by decide +kernel
  have differs : (headedConn.after splitHelloRun).sniff.status = .notTls ∧
      (streamSniffPeekClientInput {} (clientHello.take streamSniffMax)).status = .parsed := by
    decide +kernel
  have equal := congrArg Prod.fst (same smoothEnv headedMsg headedConn clientHello splitHelloRun _ headedConn_adopted
    rfl ran received)
  change (headedConn.after splitHelloRun).sniff.status = _ at equal
  rw [differs.1] at equal
  exact absurd (equal.trans differs.2) (by decide)

end Tinyproxy
