import Tinyproxy.Datagram.Client
import Tinyproxy.Lib.Hexadecimal
import Tinyproxy.Lib.Machine
import Mathlib.Logic.Function.Basic

/-!
# The local sockets of `unix-dgram` clients

A client of a `unix-dgram` upstream needs a socket with a name of its own for the
replies. `connect_datagram_upstream` binds it below the runtime directory, at a path
made from the process and the address of the client, after an `unlink` of what a
process with the same number may have left there; `free_datagram_client` closes the
socket and removes the path.

Here the clients of all routes of any number of processes that share the directory are
cut at their system calls. No lock is needed for the paths: an address is given out
again only after the `free` that follows the `unlink`. Strings stand without their
terminator.
-/

namespace Tinyproxy

open Lib (Machine ascii decimal pointer)

/-- `tinyproxy_runtime_dir`, by the value of `TINYPROXY_RUNTIME_DIR`. -/
def tinyproxyRuntimeDir : Option Bytes → Bytes
  | some v => if v ≠ [] then v else ascii "/tmp/tinyproxy"
  | none => ascii "/tmp/tinyproxy"

/-- `sizeof(c->unix_local_path)`. -/
def unixLocalPathSize : Nat := 108

/-- What is printed into `unix_local_path` for the client at address `p`. -/
def localPathText (dir : Bytes) (pid p : Nat) : Bytes :=
  dir ++ ascii "/udp-" ++ decimal pid ++ ascii "-" ++ pointer p ++ ascii ".sock"

/-- Where a client is with its socket: the phases up to `serving` are `connect_datagram_upstream` and the rest of
`create_datagram_client`, those from `closing` on are `free_datagram_client`. -/
inductive LocalPhase where
  | allocated
  /-- `socket` has returned a descriptor. -/
  | opened
  /-- The path is printed, and it fits. -/
  | named
  /-- After the `unlink` of the path, and whether that left nothing there. -/
  | cleared (ok : Bool)
  | bound
  /-- In the table of its route, with its event added. -/
  | serving
  | closing
  | closed
  | unlinked
  | freed
  deriving DecidableEq

/-- A `struct datagram_client`; `mine` is whether the file at its path is its socket, `abandoned` whether it was when
the client's process died or the last `unlink` failed. -/
structure LocalClient where
  pid : Nat
  pointer : Nat
  path : Bytes := []
  phase : LocalPhase := .allocated
  fd : Bool := false
  closes : Nat := 0
  mine : Bool := false
  abandoned : Bool := false
  deriving DecidableEq

/-- What a call does at the client's path. -/
inductive PathCall where
  | none
  | unlink
  | bind
  deriving DecidableEq

/-- `free_datagram_client` is called. -/
def LocalClient.close (c : LocalClient) : LocalClient := { c with phase := .closing }

/-- The next call of a client, which succeeds or fails as `ok` says; what cannot fail takes no notice of it. -/
def LocalClient.call (dir : Bytes) (c : LocalClient) (ok : Bool) : Option (PathCall × LocalClient) :=
  match c.phase with
  | .allocated => some (.none, if ok then { c with phase := .opened, fd := true } else c.close)
  | .opened =>
    let text := localPathText dir c.pid c.pointer
    let c := { c with path := text.take (unixLocalPathSize - 1) }
    some (.none, if text.length ≥ unixLocalPathSize then c.close else { c with phase := .named })
  | .named => some (if ok then .unlink else .none, { c with phase := .cleared ok })
  | .cleared _ => some (if ok then (.bind, { c with phase := .bound, mine := true }) else (.none, c.close))
  -- `connect`, `evutil_make_socket_nonblocking`, `event_new` and `event_add`
  | .bound => some (.none, if ok then { c with phase := .serving } else c.close)
  | .serving => some (.none, c.close)
  | .closing => some (.none, { c with phase := .closed, fd := false, closes := if c.fd then c.closes + 1 else c.closes })
  | .closed =>
    if c.path = [] then some (.none, { c with phase := .unlinked })
    else if ok then some (.unlink, { c with phase := .unlinked, mine := false })
    else some (.none, { c with phase := .unlinked, mine := false, abandoned := c.mine })
  | .unlinked => some (.none, { c with phase := .freed })
  | .freed => none

/-- The process of a client dies without a word. -/
def LocalClient.crash (c : LocalClient) : LocalClient :=
  { c with phase := .freed, fd := false, mine := false, abandoned := c.abandoned || c.mine }

/-- What a path names: the socket of a client, or something that no client of this run has made. -/
inductive LocalFile where
  | socket (client : Nat)
  | other
  deriving DecidableEq

/-- The files of the system, and every client there has been. -/
structure LocalWorld where
  files : Bytes → Option LocalFile
  clients : List LocalClient := []

/-- What happens: `calloc` in process `pid` returns `p`, a client makes its next call, a process dies, or another
program makes or removes a file. -/
inductive LocalEvent where
  | calloc (pid p : Nat)
  | call (i : Nat) (ok : Bool)
  | crash (pid : Nat)
  | other (path : Bytes) (made : Bool)
  deriving DecidableEq

/-- A call at `path` of client `i`; `bind` fails where there is a file. -/
def LocalWorld.pathCall (w : LocalWorld) (i : Nat) (path : Bytes) : PathCall → Option (Bytes → Option LocalFile)
  | .none => some w.files
  | .unlink => some (Function.update w.files path none)
  | .bind => if w.files path = none then some (Function.update w.files path (some (.socket i))) else none

/-- The processes that share the runtime directory `dir`. -/
def localMachine (dir : Bytes) : Machine LocalWorld LocalEvent where
  step w
    | .calloc pid p =>
      -- the block is none that the process still uses
      if ∀ c ∈ w.clients, c.phase ≠ .freed → ¬ (c.pid = pid ∧ c.pointer = p) then
        some { w with clients := w.clients ++ [{ pid := pid, pointer := p }] }
      else none
    | .call i ok => do
      let c ← w.clients[i]?
      let (call, c) ← c.call dir ok
      let files ← w.pathCall i c.path call
      return { files := files, clients := w.clients.set i c }
    | .crash pid => some { w with clients := w.clients.map fun c => if c.pid = pid then c.crash else c }
    | .other path made =>
      -- names that start as those of the clients are left to them
      if (dir ++ ascii "/udp-").isPrefixOf path then none
      else some { w with files := Function.update w.files path (if made then some .other else none) }

/-- The files before the first client. -/
def LocalWorld.start (present : Bytes → Bool) : LocalWorld := { files := fun path => if present path then some .other else none }

/-! ## Paths -/

/-- Two texts with the same first separator agree before it and behind it. -/
theorem split_at_separator {sep : UInt8} {a b x y : Bytes} (left : sep ∉ a) (right : sep ∉ b)
    (same : a ++ sep :: x = b ++ sep :: y) : a = b ∧ x = y := by
  have before := congrArg (List.takeWhile (· != sep)) same
  have behind := congrArg (List.dropWhile (· != sep)) same
  have passes : ∀ {s : Bytes}, sep ∉ s → ∀ c ∈ s, (c != sep) = true := by
    intro s absent c inside
    rw [bne_iff_ne]
    rintro rfl
    exact absent inside
  rw [List.takeWhile_append_of_pos (passes left), List.takeWhile_append_of_pos (passes right)] at before
  rw [List.dropWhile_append_of_pos (passes left), List.dropWhile_append_of_pos (passes right)] at behind
  simpa using And.intro before behind

/-- A path is the beginning of no path but itself: a number has no `-` and an address no `.`. -/
theorem localPathText_prefix {dir : Bytes} {pid p pid' p' : Nat}
    (extends_ : localPathText dir pid p <+: localPathText dir pid' p') : pid = pid' ∧ p = p' := by
  obtain ⟨rest, same⟩ := extends_
  have dash : ascii "-" = [0x2d] := by decide
  have dot : ascii ".sock" = [0x2e, 0x73, 0x6f, 0x63, 0x6b] := by decide
  simp only [localPathText, dash, dot, List.append_assoc, List.append_cancel_left_eq, List.cons_append,
    List.nil_append] at same
  have undashed : ∀ n, (0x2d : UInt8) ∉ decimal n := by
    intro n inside
    exact Lib.digit_ne (Lib.decimal_digits n _ inside) (by decide) rfl
  obtain ⟨pids, same⟩ := split_at_separator (undashed pid) (undashed pid') same
  have undotted : ∀ n, (0x2e : UInt8) ∉ pointer n := Lib.notMem_pointer (by decide) (by decide)
  obtain ⟨pointers, -⟩ := split_at_separator (undotted p) (undotted p') same
  have value := congrArg Lib.digitsValue pids
  rw [Lib.digitsValue_decimal, Lib.digitsValue_decimal] at value
  exact ⟨value, Lib.pointer_injective pointers⟩

theorem localPathText_ne_nil (dir : Bytes) (pid p : Nat) : localPathText dir pid p ≠ [] := by
  have dot : ascii ".sock" ≠ [] := by decide
  simp [localPathText, dot]

theorem localPathText_starts (dir : Bytes) (pid p : Nat) :
    (dir ++ ascii "/udp-").isPrefixOf (localPathText dir pid p) = true := by
  rw [List.isPrefixOf_iff_prefix]
  simp only [localPathText, List.append_assoc]
  rw [← List.append_assoc]
  exact List.prefix_append _ _

/-- What the calls of `create_datagram_client` return for a `unix-dgram` upstream; printing the path and the `unlink`
do not fail it. -/
def PacketEnv.localCalls (env : PacketEnv) : List Bool :=
  [env.socket.isNone, true, true, env.bind.isNone,
    env.connect.isNone && env.nonblockingOk && env.eventNewOk && env.eventAddOk]

/-- Five calls put a client into service if its path fits and those of them that can fail succeed. -/
theorem calls_serving (dir : Bytes) (pid p : Nat) (socket bind rest : Bool) :
    (∃ c, [socket, true, true, bind, rest].foldlM (fun (c : LocalClient) ok => (c.call dir ok).map Prod.snd)
        { pid := pid, pointer := p } = some c ∧ c.phase = .serving) ↔
      (localPathText dir pid p).length < unixLocalPathSize ∧ socket = true ∧ bind = true ∧ rest = true := by
  by_cases room : (localPathText dir pid p).length < unixLocalPathSize
  · have roomy : ¬ unixLocalPathSize ≤ (localPathText dir pid p).length := by omega
    cases socket <;> cases bind <;> cases rest <;> simp [LocalClient.call, LocalClient.close, room, roomy]
  · have full : unixLocalPathSize ≤ (localPathText dir pid p).length := by omega
    have some : ¬ (unixLocalPathSize - 1 = 0 ∨ localPathText dir pid p = []) := by
      simp [unixLocalPathSize, localPathText_ne_nil]
    cases socket <;> cases bind <;> simp [LocalClient.call, LocalClient.close, room, full, some]

/-- The calls of a client come to its service exactly where `create_datagram_client` returns it. -/
theorem created_iff_serving {ctx : DatagramRouteCtx} {env : PacketEnv} {dir : Bytes} {pid p base : Nat}
    {addr : SockaddrStorage} {len : Nat} (unix : ctx.route.upstream.kind = .unixDgram)
    (named : ctx.route.upstream.path ≠ [] ∧ ctx.route.upstream.path.length < sunPathSize)
    (allocated : env.callocOk = true)
    (fits : env.localPathFits = decide ((localPathText dir pid p).length < unixLocalPathSize)) :
    (createDatagramClient ctx base env addr len).2.isSome = true ↔
      ∃ c, env.localCalls.foldlM (fun (c : LocalClient) ok => (c.call dir ok).map Prod.snd)
        { pid := pid, pointer := p } = some c ∧ c.phase = .serving := by
  have short : ¬ ctx.route.upstream.path.length ≥ sunPathSize := by omega
  rw [PacketEnv.localCalls, calls_serving, ← decide_eq_true_iff (p := _ < unixLocalPathSize), ← fits]
  simp only [createDatagramClient, connectDatagramUpstream, unix, allocated, if_neg named.1, if_neg short]
  cases env.socket with
  | some err => simp
  | none =>
    cases env.localPathFits with
    | false => simp
    | true =>
      cases env.bind with
      | some err => simp
      | none =>
        cases env.connect with
        | some err => simp
        | none => cases env.nonblockingOk <;> cases env.eventNewOk <;> cases env.eventAddOk <;> simp

/-! ## Every state of the clients -/

/-- The phases in which a client's path is the whole of its text. -/
def LocalPhase.hasPath : LocalPhase → Bool
  | .named | .cleared _ | .bound | .serving => true
  | _ => false

/-- The phases in which its socket is open. -/
def LocalPhase.hasSocket : LocalPhase → Bool
  | .opened | .named | .cleared _ | .bound | .serving => true
  | _ => false

/-- The phases behind the `close` of `free_datagram_client`. -/
def LocalPhase.isShut : LocalPhase → Bool
  | .closed | .unlinked | .freed => true
  | _ => false

/-- One client: its path is empty or what fits of its text, and all of it where the client is in possession of it. -/
structure LocalClient.Sound (dir : Bytes) (c : LocalClient) : Prop where
  path : c.path = [] ∨ c.path = (localPathText dir c.pid c.pointer).take (unixLocalPathSize - 1)
  whole : c.phase.hasPath = true ∨ c.mine = true →
    c.path = localPathText dir c.pid c.pointer ∧ (localPathText dir c.pid c.pointer).length < unixLocalPathSize
  mine : c.phase = .bound ∨ c.phase = .serving → c.mine = true
  held : c.mine = true → c.phase = .bound ∨ c.phase = .serving ∨ c.phase = .closing ∨ c.phase = .closed
  abandoned : c.abandoned = true → c.phase = .unlinked ∨ c.phase = .freed
  fd : c.phase.hasSocket = true → c.fd = true
  shut : c.phase.isShut = true → c.fd = false
  closes : c.phase.isShut = false → c.closes = 0
  once : c.closes ≤ 1

namespace LocalClient.Sound

variable {dir : Bytes} {c : LocalClient}

theorem fresh (dir : Bytes) (pid p : Nat) : LocalClient.Sound dir { pid := pid, pointer := p } := by
  constructor <;> simp [LocalPhase.hasPath, LocalPhase.hasSocket, LocalPhase.isShut]

theorem crash (sound : c.Sound dir) : c.crash.Sound dir := by
  constructor
  · exact sound.path
  · simp [LocalClient.crash, LocalPhase.hasPath]
  · simp [LocalClient.crash]
  · simp [LocalClient.crash]
  · simp [LocalClient.crash]
  · simp [LocalClient.crash, LocalPhase.hasSocket]
  · simp [LocalClient.crash]
  · simp [LocalClient.crash, LocalPhase.isShut]
  · exact sound.once

theorem closing (sound : c.Sound dir) (busy : c.phase.isShut = false) : c.close.Sound dir := by
  constructor
  · exact sound.path
  · intro holds
    simp only [LocalClient.close, LocalPhase.hasPath, Bool.false_eq_true, false_or] at holds
    exact sound.whole (.inr holds)
  · simp [LocalClient.close]
  · simp [LocalClient.close]
  · intro abandoned
    rcases sound.abandoned abandoned with phase | phase <;> simp [phase, LocalPhase.isShut] at busy
  · simp [LocalClient.close, LocalPhase.hasSocket]
  · simp [LocalClient.close, LocalPhase.isShut]
  · exact fun _ => sound.closes busy
  · exact sound.once

theorem call {c' : LocalClient} {ok : Bool} {at_ : PathCall} (sound : c.Sound dir)
    (called : c.call dir ok = some (at_, c')) : c'.Sound dir := by
  obtain ⟨path, whole, mine, held, abandoned, fd, shut, closes, once⟩ := id sound
  unfold LocalClient.call at called
  split at called
  case h_1 phase =>
    cases called
    split
    · constructor <;> simp_all [LocalPhase.hasPath, LocalPhase.hasSocket, LocalPhase.isShut]
    · exact sound.closing (by rw [phase]; rfl)
  case h_2 phase =>
    have unheld : c.mine = false := by
      apply eq_false_of_ne_true
      intro mine
      simpa [phase] using held mine
    have printed : LocalClient.Sound dir
        { c with path := (localPathText dir c.pid c.pointer).take (unixLocalPathSize - 1) } := by
      refine { sound with path := .inr rfl, whole := ?_ }
      simp [phase, LocalPhase.hasPath, unheld]
    cases called
    split
    · exact printed.closing (by simp only [phase]; rfl)
    · rename_i fits
      have take : (localPathText dir c.pid c.pointer).take (unixLocalPathSize - 1) = localPathText dir c.pid c.pointer :=
        List.take_of_length_le (by simp only [unixLocalPathSize] at fits ⊢; omega)
      have short : (localPathText dir c.pid c.pointer).length < unixLocalPathSize := by omega
      constructor <;> simp_all [LocalPhase.hasPath, LocalPhase.hasSocket, LocalPhase.isShut]
  case h_3 phase =>
    cases called
    constructor <;> simp_all [LocalPhase.hasPath, LocalPhase.hasSocket, LocalPhase.isShut]
  case h_4 phase =>
    split at called
    · cases called
      constructor <;> simp_all [LocalPhase.hasPath, LocalPhase.hasSocket, LocalPhase.isShut]
    · cases called
      exact sound.closing (by rw [phase]; rfl)
  case h_5 phase =>
    cases called
    split
    · constructor <;> simp_all [LocalPhase.hasPath, LocalPhase.hasSocket, LocalPhase.isShut]
    · exact sound.closing (by rw [phase]; rfl)
  case h_6 phase =>
    cases called
    exact sound.closing (by rw [phase]; rfl)
  case h_7 phase =>
    cases called
    constructor <;> simp_all [LocalPhase.hasPath, LocalPhase.hasSocket, LocalPhase.isShut]
    split <;> simp
  case h_8 phase =>
    split at called
    · rename_i empty
      have unheld : c.mine = false := by
        apply eq_false_of_ne_true
        intro mine
        exact localPathText_ne_nil dir c.pid c.pointer ((whole (.inr mine)).1.symm.trans empty)
      cases called
      constructor <;> simp_all [LocalPhase.hasPath, LocalPhase.hasSocket, LocalPhase.isShut]
    · split at called <;> cases called <;> constructor <;>
        simp_all [LocalPhase.hasPath, LocalPhase.hasSocket, LocalPhase.isShut]
  case h_9 phase =>
    cases called
    constructor <;> simp_all [LocalPhase.hasPath, LocalPhase.hasSocket, LocalPhase.isShut]
  case h_10 phase => cases called

end LocalClient.Sound

/-- What a call means for the files: whose they are is decided by `mine` and `abandoned`. -/
structure LocalClient.Called (c : LocalClient) (at_ : PathCall) (c' : LocalClient) : Prop where
  pid : c'.pid = c.pid
  pointer : c'.pointer = c.pointer
  live : c.phase ≠ .freed
  somewhere : at_ ≠ .none → c'.path ≠ []
  quiet : at_ = .none → (c'.mine = true → c.mine = true) ∧ c'.phase ≠ .cleared true
  kept : at_ = .none → c.mine = true ∨ c.abandoned = true →
    c'.path = c.path ∧ (c'.mine = true ∨ c'.abandoned = true)
  unlinked : at_ = .unlink → c'.path = c.path ∧ c'.mine = false
  bound : at_ = .bind → c'.path = c.path ∧ c'.mine = true ∧ c'.phase = .bound

theorem LocalClient.Sound.called {dir : Bytes} {c c' : LocalClient} {ok : Bool} {at_ : PathCall} (sound : c.Sound dir)
    (called : c.call dir ok = some (at_, c')) : c.Called at_ c' := by
  have held := sound.held
  have abandoned := sound.abandoned
  have named : c.phase.hasPath = true → c.path ≠ [] := by
    intro holds
    rw [(sound.whole (.inl holds)).1]
    exact localPathText_ne_nil dir c.pid c.pointer
  unfold LocalClient.call at called
  split at called
  case h_1 phase =>
    cases called
    split <;> constructor <;> simp_all [LocalClient.close]
  case h_2 phase =>
    cases called
    split <;> constructor <;> simp_all [LocalClient.close]
  case h_3 phase =>
    cases called
    cases ok <;> constructor <;> simp_all [LocalPhase.hasPath]
  case h_4 phase =>
    split at called <;> cases called <;> constructor <;> simp_all [LocalClient.close, LocalPhase.hasPath]
  case h_5 phase =>
    cases called
    split <;> constructor <;> simp_all [LocalClient.close]
  case h_6 phase =>
    cases called
    constructor <;> simp_all [LocalClient.close]
  case h_7 phase =>
    cases called
    constructor <;> simp_all
  case h_8 phase =>
    split at called
    · cases called
      constructor <;> simp_all
    · split at called <;> cases called <;> constructor <;> simp_all
  case h_9 phase =>
    cases called
    constructor <;> simp_all
  case h_10 phase => cases called

/-- Every client and every file: a live client's address is its own, its socket is at its path until it removes it,
and a path that was cleared stays free for it. -/
structure LocalWorld.Sound (dir : Bytes) (w : LocalWorld) : Prop where
  each : ∀ (i : Nat) (c : LocalClient), w.clients[i]? = some c → c.Sound dir
  distinct : ∀ (i j : Nat) (c d : LocalClient), i ≠ j → w.clients[i]? = some c → w.clients[j]? = some d → c.phase ≠ .freed →
    d.phase ≠ .freed → ¬ (c.pid = d.pid ∧ c.pointer = d.pointer)
  own : ∀ (i : Nat) (c : LocalClient), w.clients[i]? = some c → c.mine = true → w.files c.path = some (.socket i)
  vacant : ∀ (i : Nat) (c : LocalClient), w.clients[i]? = some c → c.phase = .cleared true → w.files c.path = none
  only : ∀ (path : Bytes) (i : Nat), w.files path = some (.socket i) →
    ∃ c, w.clients[i]? = some c ∧ c.path = path ∧ (c.mine = true ∨ c.abandoned = true)

namespace LocalWorld.Sound

variable {dir : Bytes} {w : LocalWorld}

theorem start (dir : Bytes) (present : Bytes → Bool) : (LocalWorld.start present).Sound dir := by
  constructor
  · simp [LocalWorld.start]
  · simp [LocalWorld.start]
  · simp [LocalWorld.start]
  · simp [LocalWorld.start]
  · intro path i found
    simp only [LocalWorld.start] at found
    split at found <;> cases found

/-- **No client has the path that another possesses.** -/
theorem apart (sound : w.Sound dir) {i j : Nat} {c d : LocalClient} (other : i ≠ j) (first : w.clients[i]? = some c)
    (second : w.clients[j]? = some d) (live : c.phase ≠ .freed)
    (holds : d.phase = .cleared true ∨ d.mine = true) : d.path ≠ c.path := by
  intro same
  have theirs := sound.each j d second
  have whole := theirs.whole (by
    rcases holds with cleared | mine
    · exact .inl (by rw [cleared]; rfl)
    · exact .inr mine)
  have alive : d.phase ≠ .freed := by
    rcases holds with cleared | mine
    · rw [cleared]
      exact LocalPhase.noConfusion
    · rcases theirs.held mine with phase | phase | phase | phase <;> rw [phase] <;> exact LocalPhase.noConfusion
  rcases (sound.each i c first).path with empty | taken
  · rw [empty] at same
    exact localPathText_ne_nil dir d.pid d.pointer (whole.1.symm.trans same)
  · have longer : localPathText dir d.pid d.pointer <+: localPathText dir c.pid c.pointer := by
      rw [← whole.1, same, taken]
      exact List.take_prefix _ _
    obtain ⟨pids, pointers⟩ := localPathText_prefix longer
    exact sound.distinct i j c d other first second live alive ⟨pids.symm, pointers.symm⟩

theorem calloc (sound : w.Sound dir) {pid p : Nat}
    (fresh : ∀ c ∈ w.clients, c.phase ≠ .freed → ¬ (c.pid = pid ∧ c.pointer = p)) :
    LocalWorld.Sound dir { w with clients := w.clients ++ [{ pid := pid, pointer := p }] } := by
  -- a client at index `k` was there before, or is the new one
  have found : ∀ {k : Nat} {c : LocalClient}, (w.clients ++ [{ pid := pid, pointer := p }])[k]? = some c →
      w.clients[k]? = some c ∨ (k = w.clients.length ∧ c = { pid := pid, pointer := p }) := by
    intro k c at_
    rcases Nat.lt_or_ge k w.clients.length with old | new
    · exact .inl (by rwa [List.getElem?_append_left old] at at_)
    · rw [List.getElem?_append_right new] at at_
      obtain ⟨inside, rfl⟩ := List.getElem?_eq_some_iff.1 at_
      simp only [List.length_singleton] at inside
      exact .inr ⟨by omega, by simp⟩
  constructor
  · intro k c at_
    rcases found at_ with old | ⟨-, rfl⟩
    · exact sound.each k c old
    · exact .fresh dir pid p
  · intro i j c d other first second live alive same
    rcases found first with old | ⟨rfl, rfl⟩ <;> rcases found second with old' | ⟨rfl, rfl⟩
    · exact sound.distinct i j c d other old old' live alive same
    · exact fresh c (List.mem_of_getElem? old) live same
    · exact fresh d (List.mem_of_getElem? old') alive ⟨same.1.symm, same.2.symm⟩
    · exact other rfl
  · intro k c at_ mine
    rcases found at_ with old | ⟨-, rfl⟩
    · exact sound.own k c old mine
    · cases mine
  · intro k c at_ cleared
    rcases found at_ with old | ⟨-, rfl⟩
    · exact sound.vacant k c old cleared
    · cases cleared
  · intro path k file
    obtain ⟨c, old, rest⟩ := sound.only path k file
    have inside := (List.getElem?_eq_some_iff.1 old).1
    exact ⟨c, by rwa [List.getElem?_append_left inside], rest⟩

theorem crash (sound : w.Sound dir) (pid : Nat) :
    LocalWorld.Sound dir { w with clients := w.clients.map fun c => if c.pid = pid then c.crash else c } := by
  -- whoever is not `freed` now is as it was
  have found : ∀ {k : Nat} {c : LocalClient}, (w.clients.map fun c => if c.pid = pid then c.crash else c)[k]? = some c →
      w.clients[k]? = some c ∨ ∃ d, w.clients[k]? = some d ∧ c = d.crash := by
    intro k c at_
    rw [List.getElem?_map, Option.map_eq_some_iff] at at_
    obtain ⟨d, old, rfl⟩ := at_
    split
    · exact .inr ⟨d, old, rfl⟩
    · exact .inl old
  constructor
  · intro k c at_
    rcases found at_ with old | ⟨d, old, rfl⟩
    · exact sound.each k c old
    · exact (sound.each k d old).crash
  · intro i j c d other first second live alive same
    rcases found first with old | ⟨_, _, rfl⟩
    · rcases found second with old' | ⟨_, _, rfl⟩
      · exact sound.distinct i j c d other old old' live alive same
      · exact alive rfl
    · exact live rfl
  · intro k c at_ mine
    rcases found at_ with old | ⟨_, _, rfl⟩
    · exact sound.own k c old mine
    · cases mine
  · intro k c at_ cleared
    rcases found at_ with old | ⟨_, _, rfl⟩
    · exact sound.vacant k c old cleared
    · cases cleared
  · intro path k file
    obtain ⟨c, old, named, holds⟩ := sound.only path k file
    refine ⟨_, by rw [List.getElem?_map, old]; rfl, ?_, ?_⟩
    · dsimp only
      split <;> exact named
    · dsimp only
      split
      · right
        simp only [LocalClient.crash]
        rcases holds with mine | abandoned <;> simp [*]
      · exact holds

theorem other (sound : w.Sound dir) {path : Bytes} {file : Option LocalFile}
    (foreign : (dir ++ ascii "/udp-").isPrefixOf path = false) (unowned : ∀ i, file ≠ some (.socket i)) :
    LocalWorld.Sound dir { w with files := Function.update w.files path file } := by
  have elsewhere : ∀ {k : Nat} {c : LocalClient}, w.clients[k]? = some c → c.phase.hasPath = true ∨ c.mine = true →
      c.path ≠ path := by
    rintro k c at_ holds rfl
    rw [((sound.each k c at_).whole holds).1, localPathText_starts] at foreign
    cases foreign
  constructor
  · exact sound.each
  · exact sound.distinct
  · intro k c at_ mine
    show Function.update w.files path file c.path = _
    rw [Function.update_of_ne (elsewhere at_ (.inr mine))]
    exact sound.own k c at_ mine
  · intro k c at_ cleared
    show Function.update w.files path file c.path = _
    rw [Function.update_of_ne (elsewhere at_ (.inl (by rw [cleared]; rfl)))]
    exact sound.vacant k c at_ cleared
  · intro named k found
    dsimp only at found
    by_cases same : named = path
    · rw [same, Function.update_self] at found
      exact absurd found (unowned k)
    · rw [Function.update_of_ne same] at found
      exact sound.only named k found

theorem call (sound : w.Sound dir) {i : Nat} {c c' : LocalClient} {ok : Bool} {at_ : PathCall}
    {files : Bytes → Option LocalFile} (at_i : w.clients[i]? = some c) (called : c.call dir ok = some (at_, c'))
    (changed : w.pathCall i c'.path at_ = some files) :
    LocalWorld.Sound dir { files := files, clients := w.clients.set i c' } := by
  have effect := (sound.each i c at_i).called called
  have found : ∀ {k : Nat} {d : LocalClient}, (w.clients.set i c')[k]? = some d →
      (k = i ∧ d = c') ∨ (k ≠ i ∧ w.clients[k]? = some d) := by
    intro k d at_k
    by_cases own : k = i
    · subst own
      rw [List.getElem?_set_self (List.getElem?_eq_some_iff.1 at_i).1] at at_k
      exact .inl ⟨rfl, (Option.some.inj at_k).symm⟩
    · rw [List.getElem?_set_ne (Ne.symm own)] at at_k
      exact .inr ⟨own, at_k⟩
  have set_self : (w.clients.set i c')[i]? = some c' := List.getElem?_set_self (List.getElem?_eq_some_iff.1 at_i).1
  -- the file at the path that another client possesses is not touched
  have untouched : ∀ {k : Nat} {d : LocalClient}, k ≠ i → w.clients[k]? = some d →
      d.phase = .cleared true ∨ d.mine = true → files d.path = w.files d.path := by
    intro k d other at_k holds
    have apart := sound.apart (Ne.symm other) at_i at_k effect.live holds
    cases at_ with
    | none =>
      cases changed
      rfl
    | unlink =>
      rw [← (effect.unlinked rfl).1] at apart
      cases changed
      exact Function.update_of_ne apart _ _
    | bind =>
      rw [← (effect.bound rfl).1] at apart
      obtain ⟨-, rfl⟩ := Lib.guard_some changed
      exact Function.update_of_ne apart _ _
  -- what is left of the other files
  have others : ∀ {path : Bytes} {k : Nat}, k ≠ i → w.files path = some (.socket k) →
      ∃ d, (w.clients.set i c')[k]? = some d ∧ d.path = path ∧ (d.mine = true ∨ d.abandoned = true) := by
    intro path k other file
    obtain ⟨d, at_k, rest⟩ := sound.only path k file
    exact ⟨d, by rwa [List.getElem?_set_ne (Ne.symm other)], rest⟩
  constructor
  · intro k d at_k
    rcases found at_k with ⟨rfl, rfl⟩ | ⟨-, old⟩
    · exact (sound.each k c at_i).call called
    · exact sound.each k d old
  · intro j k d e other first second live alive same
    rcases found first with ⟨rfl, rfl⟩ | ⟨unlike, old⟩ <;> rcases found second with ⟨rfl, rfl⟩ | ⟨unlike', old'⟩
    · exact other rfl
    · rw [effect.pid, effect.pointer] at same
      exact sound.distinct j k c e other at_i old' effect.live alive same
    · rw [effect.pid, effect.pointer] at same
      exact sound.distinct j k d c other old at_i live effect.live same
    · exact sound.distinct j k d e other old old' live alive same
  · intro k d at_k mine
    rcases found at_k with ⟨rfl, rfl⟩ | ⟨other, old⟩
    · cases at_ with
      | none =>
        cases changed
        have before := (effect.quiet rfl).1 mine
        show w.files d.path = _
        rw [(effect.kept rfl (.inl before)).1]
        exact sound.own k c at_i before
      | unlink =>
        rw [(effect.unlinked rfl).2] at mine
        cases mine
      | bind =>
        obtain ⟨-, rfl⟩ := Lib.guard_some changed
        exact Function.update_self _ _ _
    · show files d.path = _
      rw [untouched other old (.inr mine)]
      exact sound.own k d old mine
  · intro k d at_k cleared
    rcases found at_k with ⟨rfl, rfl⟩ | ⟨other, old⟩
    · cases at_ with
      | none => exact absurd cleared (effect.quiet rfl).2
      | unlink =>
        cases changed
        exact Function.update_self _ _ _
      | bind =>
        rw [(effect.bound rfl).2.2] at cleared
        cases cleared
    · show files d.path = _
      rw [untouched other old (.inl cleared)]
      exact sound.vacant k d old cleared
  · intro path k file
    dsimp only at file
    by_cases own : k = i
    · subst own
      cases at_ with
      | none =>
        cases changed
        obtain ⟨d, at_k, named, holds⟩ := sound.only path k file
        obtain rfl : c = d := Option.some.inj (at_i.symm.trans at_k)
        obtain ⟨same, still⟩ := effect.kept rfl holds
        exact ⟨c', set_self, same.trans named, still⟩
      | unlink =>
        cases changed
        by_cases here : path = c'.path
        · rw [here, Function.update_self] at file
          cases file
        · rw [Function.update_of_ne here] at file
          obtain ⟨d, at_k, named, -⟩ := sound.only path k file
          obtain rfl : c = d := Option.some.inj (at_i.symm.trans at_k)
          exact absurd (named.symm.trans (effect.unlinked rfl).1.symm) here
      | bind =>
        obtain ⟨-, rfl⟩ := Lib.guard_some changed
        by_cases here : path = c'.path
        · exact ⟨c', set_self, here.symm, .inl (effect.bound rfl).2.1⟩
        · rw [Function.update_of_ne here] at file
          obtain ⟨d, at_k, named, -⟩ := sound.only path k file
          obtain rfl : c = d := Option.some.inj (at_i.symm.trans at_k)
          exact absurd (named.symm.trans (effect.bound rfl).1.symm) here
    · apply others own
      cases at_ with
      | none =>
        cases changed
        exact file
      | unlink =>
        cases changed
        by_cases here : path = c'.path
        · rw [here, Function.update_self] at file
          cases file
        · rwa [Function.update_of_ne here] at file
      | bind =>
        obtain ⟨-, rfl⟩ := Lib.guard_some changed
        by_cases here : path = c'.path
        · rw [here, Function.update_self] at file
          cases file
          exact absurd rfl own
        · rwa [Function.update_of_ne here] at file

theorem step (sound : w.Sound dir) {w' : LocalWorld} {e : LocalEvent} (step : (localMachine dir).step w e = some w') :
    w'.Sound dir := by
  cases e with
  | calloc pid p =>
    obtain ⟨fresh, rfl⟩ := Lib.guard_some step
    exact sound.calloc fresh
  | call i ok =>
    simp only [localMachine, Option.bind_eq_bind, Option.bind_eq_some_iff, Option.pure_def, Option.some.injEq] at step
    obtain ⟨c, at_i, ⟨at_, c'⟩, called, files, changed, rfl⟩ := step
    exact sound.call at_i called changed
  | crash pid =>
    cases step
    exact sound.crash pid
  | other path made =>
    simp only [localMachine] at step
    split at step
    · cases step
    · rename_i foreign
      cases step
      refine sound.other (eq_false_of_ne_true foreign) fun i => ?_
      split <;> exact nofun

end LocalWorld.Sound

/-- A path that no client's text begins with, up to the size of `unix_local_path`, is left to other programs. -/
theorem local_step_spares {dir : Bytes} {w w' : LocalWorld} {e : LocalEvent} (sound : w.Sound dir)
    (step : (localMachine dir).step w e = some w') {path : Bytes} (unnamed : ∀ made, e ≠ .other path made)
    (foreign : ∀ pid p, path ≠ (localPathText dir pid p).take (unixLocalPathSize - 1)) :
    w'.files path = w.files path := by
  cases e with
  | calloc pid p =>
    obtain ⟨-, rfl⟩ := Lib.guard_some step
    rfl
  | crash pid =>
    cases step
    rfl
  | other named made =>
    simp only [localMachine] at step
    split at step
    · cases step
    · cases step
      have unlike : path ≠ named := by
        rintro rfl
        exact unnamed made rfl
      exact Function.update_of_ne unlike _ _
  | call i ok =>
    simp only [localMachine, Option.bind_eq_bind, Option.bind_eq_some_iff, Option.pure_def, Option.some.injEq] at step
    obtain ⟨c, at_i, ⟨at_, c'⟩, called, files, changed, rfl⟩ := step
    have before := sound.each i c at_i
    have effect := before.called called
    have elsewhere : at_ ≠ .none → path ≠ c'.path := by
      rintro acts rfl
      rcases (before.call called).path with empty | taken
      · exact effect.somewhere acts empty
      · exact foreign _ _ taken
    cases at_ with
    | none =>
      cases changed
      rfl
    | unlink =>
      cases changed
      exact Function.update_of_ne (elsewhere nofun) _ _
    | bind =>
      obtain ⟨-, rfl⟩ := Lib.guard_some changed
      exact Function.update_of_ne (elsewhere nofun) _ _

/-- What the clients' sockets promise after the events `es`. -/
structure LocalPathsKept (dir : Bytes) (present : Bytes → Bool) (es : List LocalEvent) (w : LocalWorld) : Prop where
  /-- A client in service has an open socket, and its own path still names that socket. -/
  served : ∀ (i : Nat) (c : LocalClient), w.clients[i]? = some c → c.phase = .serving →
    c.fd = true ∧ c.path = localPathText dir c.pid c.pointer ∧ w.files c.path = some (.socket i)
  /-- Once a path is cleared nothing appears there before the `bind`. -/
  bindable : ∀ (i : Nat) (c : LocalClient), w.clients[i]? = some c → c.phase = .cleared true → w.files c.path = none
  /-- A socket outlives its client only where the process died or the `unlink` failed. -/
  leftOver : ∀ (path : Bytes) (i : Nat), w.files path = some (.socket i) →
    ∃ c, w.clients[i]? = some c ∧ c.path = path ∧
      (c.abandoned = true ∨ (c.phase ≠ .unlinked ∧ c.phase ≠ .freed))
  /-- Descriptors are closed at most once, and none is open behind `free_datagram_client`. -/
  closed : ∀ (i : Nat) (c : LocalClient), w.clients[i]? = some c → c.closes ≤ 1 ∧ (c.phase = .freed → c.fd = false)
  /-- A name that is not what fits of some client's text is as other programs leave it. -/
  spared : ∀ path, (∀ made, .other path made ∉ es) →
    (∀ pid p, path ≠ (localPathText dir pid p).take (unixLocalPathSize - 1)) →
    w.files path = (LocalWorld.start present).files path

/-- **The local sockets of clients**, for every number of routes, workers and processes that share a runtime directory
and in every order of their calls, whatever was in the directory before and whichever calls fail. -/
theorem local_paths_kept {dir : Bytes} {present : Bytes → Bool} {es : List LocalEvent} {w : LocalWorld}
    (ran : (localMachine dir).run (LocalWorld.start present) es = some w) : LocalPathsKept dir present es w := by
  have traced : w.Sound dir ∧ ∀ path, (∀ made, .other path made ∉ es) →
      (∀ pid p, path ≠ (localPathText dir pid p).take (unixLocalPathSize - 1)) →
      w.files path = (LocalWorld.start present).files path := by
    refine Machine.run_traced (P := fun es (w : LocalWorld) => w.Sound dir ∧
      ∀ path, (∀ made, .other path made ∉ es) →
        (∀ pid p, path ≠ (localPathText dir pid p).take (unixLocalPathSize - 1)) →
        w.files path = (LocalWorld.start present).files path) ?_ ?_ ran
    · exact ⟨.start dir present, fun _ _ _ => rfl⟩
    · rintro ds u e v - ⟨sound, spared⟩ step
      refine ⟨sound.step step, fun path unnamed foreign => ?_⟩
      have earlier : ∀ made, .other path made ∉ ds := fun made inside => unnamed made (List.mem_append_left _ inside)
      have last : ∀ made, e ≠ .other path made := by
        rintro made rfl
        exact unnamed made (List.mem_append_right _ List.mem_cons_self)
      rw [local_step_spares sound step last foreign]
      exact spared path earlier foreign
  obtain ⟨sound, spared⟩ := traced
  constructor
  · intro i c at_ phase
    have client := sound.each i c at_
    refine ⟨client.fd (by rw [phase]; rfl), (client.whole (.inl (by rw [phase]; rfl))).1, ?_⟩
    exact sound.own i c at_ (client.mine (.inr phase))
  · exact sound.vacant
  · intro path i file
    obtain ⟨c, at_, named, holds⟩ := sound.only path i file
    refine ⟨c, at_, named, ?_⟩
    rcases holds with mine | abandoned
    · right
      rcases (sound.each i c at_).held mine with phase | phase | phase | phase <;> simp [phase]
    · exact .inl abandoned
  · intro i c at_
    have client := sound.each i c at_
    exact ⟨client.once, fun phase => client.shut (by rw [phase]; rfl)⟩
  · exact spared

/-- Process 7 dies while its client at address 16 is in service; a new process with the same number is given the same
address, beside a process 8 that has it too. -/
def sharedDirRun : List LocalEvent :=
  [.calloc 7 16, .call 0 true, .call 0 true, .call 0 true, .call 0 true, .call 0 true, .crash 7,
    .calloc 8 16, .calloc 7 16, .call 1 true, .call 2 true, .call 1 true, .call 2 true, .call 2 true, .call 1 true,
    .call 1 true, .call 2 true, .call 2 true, .call 1 false, .call 1 true, .call 1 true]

theorem local_paths_kept_shared :
    ∃ w, (localMachine (tinyproxyRuntimeDir none)).run (LocalWorld.start fun _ => false) sharedDirRun = some w ∧
      w.clients.map LocalClient.phase = [.freed, .unlinked, .serving] ∧
      LocalPathsKept (tinyproxyRuntimeDir none) (fun _ => false) sharedDirRun w := by
  have seen : ((localMachine (tinyproxyRuntimeDir none)).run (LocalWorld.start fun _ => false) sharedDirRun).map
      (fun w => w.clients.map LocalClient.phase) = some [.freed, .unlinked, .serving] := by
    decide +kernel
  obtain ⟨w, ran, phases⟩ := Option.map_eq_some_iff.1 seen
  exact ⟨w, ran, phases, local_paths_kept ran⟩

end Tinyproxy
