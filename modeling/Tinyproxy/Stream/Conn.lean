import Tinyproxy.Stream.Bufferevent
import Tinyproxy.Stream.Sniff

/-!
# Piped connections

`conn_t` of a connection whose upstream is a socket, and the callbacks libevent
runs on it: the four of `stream_pipe.c`, the two event callbacks and the idle timer
of `stream_conn.c`. Both bufferevents of such a connection exist from
`worker_adopt_client_fd` to `free_conn`, so the `NULL` checks of the callbacks do
not show here. Log lines and the addresses they print are left out.

A callback either leaves the connection live or ends in `free_conn`; `Session`
keeps the connection as it was at that moment.
-/

namespace Tinyproxy

/-- `conn_t`; `idleEv` is `idle_ev != NULL` and `idlePending` whether it is scheduled. -/
structure Conn where
  route : Route
  client : Bufferevent
  upstream : Bufferevent
  sniff : StreamSniff := {}
  upstreamConnected : Bool := false
  closeAfterClientEof : Bool := false
  closeClientAfterDrain : Bool := false
  activitySeq : UInt64 := 1
  idleCheckSeq : UInt64 := 1
  idleEv : Bool := false
  idlePending : Bool := false
  deriving DecidableEq

/-- A connection, or what it was when `free_conn` ran on it. -/
inductive Session where
  | live (c : Conn)
  | freed (c : Conn)
  deriving DecidableEq

/-- The connection of a session, freed or not. -/
def Session.conn : Session → Conn
  | .live c => c
  | .freed c => c

/-! ## `stream_conn.c`: timers and the half-close -/

/-- `conn_touch`. -/
def connTouch (c : Conn) : Conn := { c with activitySeq := c.activitySeq + 1 }

/-- `free_conn`. -/
def freeConn (c : Conn) : Session := .freed { c with idleEv := false, idlePending := false }

/-- `set_connect_timeout`. -/
def setConnectTimeout (c : Conn) (r : Route) : Conn :=
  { c with upstream := c.upstream.setTimeouts none (some r.opts.connectTimeoutSec) }

/-- `clear_idle_timeout`. -/
def clearIdleTimeout (c : Conn) : Conn :=
  { c with client := c.client.setTimeouts none none, upstream := c.upstream.setTimeouts none none }

/-- `schedule_conn_idle_timer`. -/
def scheduleConnIdleTimer (c : Conn) : Conn :=
  if !c.idleEv then c else
  if c.route.opts.idleTimeoutSec ≤ 0 then c else
  { c with idlePending := true }

/-- `start_conn_idle_timer`; `timerOk` is whether `evtimer_new` succeeds. -/
def startConnIdleTimer (c : Conn) (timerOk : Bool) : Conn :=
  if c.route.opts.idleTimeoutSec ≤ 0 then c else
  let c := { c with activitySeq := 1, idleCheckSeq := 1, idleEv := timerOk }
  if !timerOk then c else scheduleConnIdleTimer c

/-- `conn_idle_timeout_cb`; both of its last branches free the connection. -/
def connIdleTimeoutCb (c : Conn) : Session :=
  if c.activitySeq ≠ c.idleCheckSeq then
    .live (scheduleConnIdleTimer { c with idleCheckSeq := c.activitySeq })
  else freeConn c

/-- `client_has_pending_output`. -/
def clientHasPendingOutput (c : Conn) : Bool := decide (0 < c.client.output.length)

/-- `finish_client_write`. -/
def finishClientWrite (c : Conn) : Conn :=
  let client := c.client.shutdownWrite
  let client := client.disable false true
  let client := client.enable true false
  { c with client := client.setTimeouts (some closeWaitTimeoutSec) none }

/-- The two flag updates that follow every call of `finish_client_write`. -/
def enterCloseWait (c : Conn) : Conn :=
  { finishClientWrite c with closeClientAfterDrain := false, closeAfterClientEof := true }

/-- `drain_client_then_close`. -/
def drainClientThenClose (c : Conn) : Conn :=
  let c := { c with closeClientAfterDrain := true, upstream := c.upstream.disable true true }
  if clientHasPendingOutput c then c else enterCloseWait c

/-! ## `stream_conn.c`: event callbacks -/

/-- `stream_client_event_cb`; every error number ends in `out_free`. -/
def streamClientEventCb (c : Conn) (events : BevEvents) : Session :=
  if events.timeout then freeConn c else
  if events.error then freeConn c else
  if events.eof then freeConn c else
  .live c

/-- `stream_upstream_event_cb`; past the pending-output test every error number
ends in `out_free`. -/
def streamUpstreamEventCb (c : Conn) (events : BevEvents) (timerOk : Bool) : Session :=
  if events.connected then
    let c := clearIdleTimeout { c with upstreamConnected := true }
    let c := startConnIdleTimer c timerOk
    .live { c with client := c.client.enable true true }
  else if events.timeout then freeConn c
  else if events.error then
    if clientHasPendingOutput c then .live (drainClientThenClose c) else freeConn c
  else if events.eof then .live (drainClientThenClose c)
  else freeConn c

/-! ## `stream_pipe.c` -/

/-- `pipe_client_read_cb`. -/
def pipeClientReadCb (c : Conn) : Conn :=
  let c := if c.route.opts.sniSniff then
      { c with sniff := streamSniffPeekClientInput c.sniff c.client.input }
    else c
  let c := connTouch c
  let moved := evbufferAddBuffer c.upstream.output c.client.input
  let c := { c with
    upstream := { c.upstream with output := moved.1 }
    client := { c.client with input := moved.2 } }
  if c.upstream.output.length ≥ streamReadHighWater then
    { c with client := c.client.disable true false }
  else c

/-- `pipe_upstream_read_cb`. -/
def pipeUpstreamReadCb (c : Conn) : Conn :=
  let c := connTouch c
  let moved := evbufferAddBuffer c.client.output c.upstream.input
  let c := { c with
    client := { c.client with output := moved.1 }
    upstream := { c.upstream with input := moved.2 } }
  if c.client.output.length ≥ streamReadHighWater then
    { c with upstream := c.upstream.disable true false }
  else c

/-- `pipe_client_write_cb`. -/
def pipeClientWriteCb (c : Conn) : Conn :=
  let outputLen := c.client.output.length
  if c.closeClientAfterDrain ∧ outputLen = 0 then enterCloseWait c
  else if outputLen < streamWriteResumeWater then { c with upstream := c.upstream.enable true false }
  else c

/-- `pipe_upstream_write_cb`. -/
def pipeUpstreamWriteCb (c : Conn) : Conn :=
  if c.upstream.output.length < streamWriteResumeWater then
    { c with client := c.client.enable true false }
  else c

end Tinyproxy
