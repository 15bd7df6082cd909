import Tinyproxy.Route

/-!
# Socket bufferevents

The part of libevent the stream path is written against. A `Bufferevent` is its
two buffers, its enabled directions, its timeouts and limits, together with what
has crossed the socket under it so far: the bytes read from it, the bytes written
to it and the number of times its write side was shut down.

What libevent does on its own between two callbacks is `fill` (one read),
`drain` (one write) and `fail` (the direction is disabled before an event callback
runs); `canRead`, `canWrite`, `canSignal` and `canConnect` say when it does so.
Output leaves only once the connect has completed, and a timeout is reported only
for a direction that has one. The write callback runs when the output has drained
to the default low watermark, 0 bytes, which includes a write event that finds
nothing to write.

A disabled direction produces no callback, with one exception: `bufferevent_disable`
leaves the write event armed while a connect is in progress, so the end of the
connect, good or bad or timed out, is reported even with `EV_WRITE` disabled.
-/

namespace Tinyproxy

/-- The direction an event flag belongs to (`BEV_EVENT_READING`, `BEV_EVENT_WRITING`). -/
inductive Direction where
  | reading | writing
  deriving DecidableEq, Repr

/-- Why an event callback runs, with the socket error behind `BEV_EVENT_ERROR`. -/
inductive Condition where
  | eof
  | error (err : Errno)
  | timeout
  deriving DecidableEq, Repr

/-- The `BEV_EVENT_*` bits an event callback is given. -/
structure BevEvents where
  reading : Bool := false
  writing : Bool := false
  eof : Bool := false
  error : Bool := false
  timeout : Bool := false
  connected : Bool := false
  deriving DecidableEq, Repr

/-- The bits libevent sets for a condition found while reading or writing. -/
def Condition.events (cond : Condition) (dir : Direction) : BevEvents where
  reading := dir == .reading
  writing := dir == .writing
  eof := match cond with | .eof => true | _ => false
  error := match cond with | .error _ => true | _ => false
  timeout := match cond with | .timeout => true | _ => false

/-- A socket bufferevent and the history of its socket. -/
structure Bufferevent where
  fd : Int
  input : Bytes := []
  output : Bytes := []
  evRead : Bool := false
  evWrite : Bool := true
  connecting : Bool := false
  timeoutRead : Option Int := none
  timeoutWrite : Option Int := none
  readHigh : Nat := 0
  maxSingleRead : Nat := 16384
  maxSingleWrite : Nat := 16384
  received : Bytes := []
  sent : Bytes := []
  shutdowns : Nat := 0
  deriving DecidableEq

/-- `bufferevent_socket_new`: writing is enabled from the start, reading is not. -/
def buffereventSocketNew (fd : Int) : Bufferevent := { fd := fd }

namespace Bufferevent

/-- `bufferevent_enable`. -/
def enable (b : Bufferevent) (read write : Bool) : Bufferevent :=
  { b with evRead := b.evRead || read, evWrite := b.evWrite || write }

/-- `bufferevent_disable`. -/
def disable (b : Bufferevent) (read write : Bool) : Bufferevent :=
  { b with evRead := b.evRead && !read, evWrite := b.evWrite && !write }

/-- `bufferevent_set_timeouts`. -/
def setTimeouts (b : Bufferevent) (read write : Option Int) : Bufferevent :=
  { b with timeoutRead := read, timeoutWrite := write }

/-- `bufferevent_setwatermark(bev, EV_READ, 0, high)`. -/
def setReadHigh (b : Bufferevent) (high : Nat) : Bufferevent := { b with readHigh := high }

/-- `bufferevent_set_max_single_read` and `bufferevent_set_max_single_write`. -/
def setMaxSingle (b : Bufferevent) (read write : Nat) : Bufferevent :=
  { b with maxSingleRead := read, maxSingleWrite := write }

/-- `bufferevent_write`. -/
def write (b : Bufferevent) (data : Bytes) : Bufferevent := { b with output := b.output ++ data }

/-- `bufferevent_socket_connect`, when it does not fail. -/
def socketConnect (b : Bufferevent) (fd : Int) : Bufferevent := { b with fd := fd, connecting := true }

/-- `shutdown(bufferevent_getfd(bev), SHUT_WR)`, where the descriptor is valid. -/
def shutdownWrite (b : Bufferevent) : Bufferevent :=
  { b with shutdowns := b.shutdowns + if 0 ≤ b.fd then 1 else 0 }

/-- How much one read may add: the single-read limit, cut at the high watermark. -/
def readLimit (b : Bufferevent) : Nat :=
  if b.readHigh = 0 then b.maxSingleRead else min b.maxSingleRead (b.readHigh - b.input.length)

/-- One read from the socket into the input buffer. -/
def fill (b : Bufferevent) (chunk : Bytes) : Bufferevent :=
  { b with input := b.input ++ chunk, received := b.received ++ chunk }

/-- One write of `n` bytes from the front of the output buffer to the socket. -/
def drain (b : Bufferevent) (n : Nat) : Bufferevent :=
  { b with output := b.output.drop n, sent := b.sent ++ b.output.take n }

/-- Before an event callback the direction it is about is disabled, and a failed connect is over. -/
def fail (b : Bufferevent) : Direction → Bufferevent
  | .reading => b.disable true false
  | .writing => { b.disable false true with connecting := false }

/-- Whether a read callback can deliver `chunk`. -/
def canRead (b : Bufferevent) (chunk : Bytes) : Bool :=
  b.evRead && chunk.length != 0 && decide (chunk.length ≤ b.readLimit)

/-- Whether a write of `n` bytes can happen; one of 0 bytes is a write event with nothing to write. -/
def canWrite (b : Bufferevent) (n : Nat) : Bool :=
  b.evWrite && !b.connecting && decide (n ≤ b.maxSingleWrite) && decide (n ≤ b.output.length) &&
    (n != 0 || b.output.length == 0)

/-- Whether an event callback for `cond` can run in direction `dir`. -/
def canSignal (b : Bufferevent) (dir : Direction) (cond : Condition) : Bool :=
  match dir with
  | .reading => b.evRead && (cond != .timeout || b.timeoutRead.isSome)
  | .writing => (b.evWrite || (b.connecting && cond != .eof)) && (cond != .timeout || b.timeoutWrite.isSome)

/-- Whether the connect can complete: `BEV_EVENT_CONNECTED` is delivered whatever is enabled. -/
def canConnect (b : Bufferevent) : Bool := b.connecting

end Bufferevent

/-- `evbuffer_add_buffer(dst, src)`: the whole of `src` moves to the end of `dst`. -/
def evbufferAddBuffer (dst src : Bytes) : Bytes × Bytes := (dst ++ src, [])

end Tinyproxy
