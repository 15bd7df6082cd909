import Tinyproxy.Stream.Sniff

/-!
# The parser on byte strings

The sniffer's parser works on positions in one buffer. `sniOn` is the same parser on
byte strings: each of its parts takes the bytes it is about and nothing else, and each
length in front of a part is compared with the bytes that are left. `sniOf_eq` says
that the two agree on every buffer, so that what is accepted, and how the rest is
refused, can be read off by cases on lists.
-/

namespace Tinyproxy

open Lib (Shows be16 be24)

/-! ## The parts -/

/-- The bytes `valid_sni_name` lets pass. -/
def sniNameByte (c : UInt8) : Bool := isalnum c || c == 0x2d || c == 0x2e

/-- The entry of a host name. -/
def hostOn (outLen : Nat) (name : Bytes) : SniResult :=
  if name.length > streamSniMax then { status := .nameTooLong } else
  if name.length = 0 ∨ name.all sniNameByte = false then { status := .parseError } else
  if outLen < name.length + 1 then { status := .nameTooLong } else
  { status := .parsed, copied := some name }

/-- A server name list. -/
def namesOn (outLen : Nat) : Bytes → SniResult
  | type :: hi :: lo :: rest =>
    if rest.length < be16 hi lo then { status := .parseError } else
    if type = 0 then hostOn outLen (rest.take (be16 hi lo)) else
    namesOn outLen (rest.drop (be16 hi lo))
  -- whatever is left of an entry that is not there in full
  | _ => { status := .missing }
termination_by l => l.length
decreasing_by
  simp only [List.length_drop, List.length_cons]
  omega

/-- The value of a server name extension. -/
def serverNameOn (outLen : Nat) : Bytes → SniResult
  | hi :: lo :: list => if be16 hi lo = list.length then namesOn outLen list else { status := .parseError }
  | _ => { status := .parseError }

/-- The extensions. -/
def extensionsOn (outLen : Nat) : Bytes → SniResult
  | typeHi :: typeLo :: hi :: lo :: rest =>
    if rest.length < be16 hi lo then { status := .parseError } else
    if be16 typeHi typeLo = 0 then serverNameOn outLen (rest.take (be16 hi lo)) else
    extensionsOn outLen (rest.drop (be16 hi lo))
  | [] => { status := .missing }
  | _ => { status := .parseError }
termination_by e => e.length
decreasing_by
  simp only [List.length_drop, List.length_cons]
  omega

/-- What ends a ClientHello behind its compression methods. -/
def tailOn (outLen : Nat) : Bytes → SniResult
  | [] => { status := .missing }
  | hi :: lo :: block => if be16 hi lo = block.length then extensionsOn outLen block else { status := .parseError }
  | _ => { status := .parseError }

/-- From the compression methods on. -/
def compressionOn (outLen : Nat) : Bytes → SniResult
  | len :: rest =>
    if len = 0 ∨ rest.length < len.toNat then { status := .parseError } else tailOn outLen (rest.drop len.toNat)
  | [] => { status := .parseError }

/-- From the cipher suites on. -/
def suitesOn (outLen : Nat) : Bytes → SniResult
  | hi :: lo :: rest =>
    if be16 hi lo = 0 ∨ be16 hi lo % 2 ≠ 0 ∨ rest.length < be16 hi lo then { status := .parseError } else
    compressionOn outLen (rest.drop (be16 hi lo))
  | _ => { status := .parseError }

/-- From the session id on. -/
def sessionOn (outLen : Nat) : Bytes → SniResult
  | len :: rest => if rest.length < len.toNat then { status := .parseError } else suitesOn outLen (rest.drop len.toNat)
  | [] => { status := .parseError }

/-- The body of a ClientHello. -/
def bodyOn (outLen : Nat) (body : Bytes) : SniResult := sessionOn outLen (body.drop (2 + 32))

/-- The first handshake message of a record. -/
def handshakeOn (outLen : Nat) : Bytes → SniResult
  | type :: hi :: mid :: lo :: rest =>
    if type ≠ 0x01 then { status := .notTls } else
    if be24 hi mid lo = 0 ∨ rest.length < be24 hi mid lo then { status := .parseError } else
    bodyOn outLen (rest.take (be24 hi mid lo))
  | _ => { status := .parseError }

/-- A record behind its content type. -/
def recordOn (outLen : Nat) : Bytes → SniResult
  | major :: _ :: hi :: lo :: rest =>
    if major ≠ 0x03 then { status := .parseError } else
    if be16 hi lo = 0 then { status := .parseError } else
    if rest.length < be16 hi lo then { status := .needMore, needMore := true } else
    handshakeOn outLen (rest.take (be16 hi lo))
  | _ => { status := .needMore, needMore := true }

/-- The whole buffer. -/
def sniOn (outLen : Nat) : Bytes → SniResult
  | [] => { status := .needMore, needMore := true }
  | type :: tail => if type ≠ 0x16 then { status := .notTls } else recordOn outLen tail

/-! ## Reading at a position -/

theorem addSz_eq {x y : Nat} (fits : x + y < 2 ^ 64) : addSz x y = some (x + y) := if_pos fits

section Reading

variable {rd : Reader} {seg : Bytes} {pos : Nat}

theorem readU16Be_shows {hi lo : UInt8} (shows : Shows rd pos (hi :: lo :: seg)) :
    readU16Be rd pos = some (be16 hi lo) := by
  simp [readU16Be, shows.head, shows.tail.head]

theorem readU24Be_shows {hi mid lo : UInt8} (shows : Shows rd pos (hi :: mid :: lo :: seg)) :
    readU24Be rd pos = some (be24 hi mid lo) := by
  simp [readU24Be, shows.head, shows.tail.head, shows.tail.tail.head]

theorem copyBytes_shows (shows : Shows rd pos seg) : copyBytes rd pos seg.length = some seg := by
  induction seg generalizing pos with
  | nil => rfl
  | cons c seg ih => simp [copyBytes, shows.head, ih shows.tail]

theorem validSniBytes_shows (shows : Shows rd pos seg) :
    validSniBytes rd pos seg.length = some (seg.all sniNameByte) := by
  induction seg generalizing pos with
  | nil => rfl
  | cons c seg ih =>
    simp only [validSniBytes, List.length_cons, shows.head, Option.bind_eq_bind, Option.bind_some, List.all_cons]
    by_cases good : sniNameByte c = true
    · rw [good, Bool.true_and, ← ih shows.tail]
      exact if_pos good
    · rw [eq_false_of_ne_true good, Bool.false_and]
      exact if_neg good

theorem three_front {l : Bytes} (long : 3 ≤ l.length) : ∃ x y z rest, l = x :: y :: z :: rest := by
  match l, long with
  | x :: y :: z :: rest, _ => exact ⟨x, y, z, rest, rfl⟩

theorem four_front {l : Bytes} (long : 4 ≤ l.length) : ∃ w x y z rest, l = w :: x :: y :: z :: rest := by
  match l, long with
  | w :: x :: y :: z :: rest, _ => exact ⟨w, x, y, z, rest, rfl⟩

end Reading

/-! ## The two parsers agree -/

section Agree

variable {rd : Reader} {outLen : Nat}

theorem bind_some_eq {α β : Type} {x : Option α} {f : α → Option β} {a : α} (first : x = some a) : (x >>= f) = f a := by
  rw [first]
  rfl

theorem validSniName_shows {seg : Bytes} {pos : Nat} (shows : Shows rd pos seg) (short : seg.length ≤ streamSniMax) :
    validSniName rd pos seg.length = some (seg.length != 0 && seg.all sniNameByte) := by
  unfold validSniName
  by_cases empty : seg.length = 0
  · simp [empty]
  · have size : ¬ (seg.length = 0 ∨ seg.length > streamSniMax) := by omega
    rw [if_neg size, validSniBytes_shows shows]
    simp [empty]

/-- The host name entry. -/
theorem parseHost_on {value : Bytes} {pos : Nat} (shows : Shows rd pos value) (small : value.length < 65536) :
    (do
      if value.length > streamSniMax then return { status := .nameTooLong }
      let valid ← validSniName rd pos value.length
      if !valid then return { status := .parseError }
      let need ← addSz value.length 1
      if outLen < need then return { status := .nameTooLong }
      let name ← copyBytes rd pos value.length
      return { status := .parsed, copied := some name }) = some (hostOn outLen value) := by
  unfold hostOn
  by_cases long : value.length > streamSniMax
  · rw [if_pos long, if_pos long]
    rfl
  rw [if_neg long, if_neg long, bind_some_eq (validSniName_shows shows (by omega))]
  by_cases bad : value.length = 0 ∨ value.all sniNameByte = false
  · rw [if_pos bad, if_pos (by simpa using bad)]
    rfl
  have need : addSz value.length 1 = some (value.length + 1) := addSz_eq (by omega)
  rw [if_neg bad, if_neg (by simpa using bad), bind_some_eq need, bind_some_eq (copyBytes_shows shows)]
  split <;> rfl

theorem namesOn_short {l : Bytes} (short : l.length < 3) : namesOn outLen l = { status := .missing } := by
  unfold namesOn
  split
  · simp only [List.length_cons] at short
    omega
  · rfl

/-- Each entry moves the position on by three at least, so the fuel lasts. -/
theorem parseNames_on {l : Bytes} {pos fuel : Nat} (shows : Shows rd pos l) (small : pos + l.length < 131072)
    (enough : l.length < fuel) :
    parseNames rd outLen (pos + l.length) fuel pos = some (namesOn outLen l) := by
  induction fuel generalizing pos l with
  | zero => omega
  | succ fuel ih =>
    have next : addSz pos 3 = some (pos + 3) := addSz_eq (by omega)
    rw [parseNames, bind_some_eq next]
    by_cases short : l.length < 3
    · rw [if_pos (by omega), namesOn_short short]
      rfl
    obtain ⟨type, hi, lo, rest, rfl⟩ := three_front (show 3 ≤ l.length by omega)
    simp only [List.length_cons] at small enough short ⊢
    have bound := Lib.be16_lt hi lo
    have behind : Shows rd (pos + 3) rest := shows.tail.tail.tail
    have nameEnd : addSz (pos + 3) (be16 hi lo) = some (pos + 3 + be16 hi lo) := addSz_eq (by omega)
    rw [if_neg (by omega), bind_some_eq shows.head, bind_some_eq (readU16Be_shows shows.tail), bind_some_eq nameEnd, namesOn]
    by_cases long : rest.length < be16 hi lo
    · rw [if_pos (by omega), if_pos long]
      rfl
    obtain ⟨value, list, rfl, length⟩ := Lib.split_at (show be16 hi lo ≤ rest.length by omega)
    rw [if_neg (by omega), if_neg long, length, List.take_left, List.drop_left]
    simp only [List.length_append] at small enough short ⊢
    by_cases kind : type = 0
    · rw [if_pos kind, if_pos kind]
      exact parseHost_on behind.left (by omega)
    · have ends : pos + (value.length + list.length + 1 + 1 + 1) = pos + 3 + value.length + list.length := by omega
      rw [if_neg kind, if_neg kind, ends]
      exact ih behind.skip (by omega) (by omega)

theorem parseServerName_on {value : Bytes} {pos : Nat} (shows : Shows rd pos value)
    (small : pos + value.length < 131072) :
    parseServerName rd outLen pos value.length (pos + value.length) = some (serverNameOn outLen value) := by
  unfold parseServerName
  match value, shows, small with
  | [], _, _ => rfl
  | [_], _, _ => rfl
  | hi :: lo :: list, shows, small =>
    simp only [List.length_cons] at small ⊢
    have bound := Lib.be16_lt hi lo
    have listPos : addSz pos 2 = some (pos + 2) := addSz_eq (by omega)
    have listEnd : addSz (pos + 2) (be16 hi lo) = some (pos + 2 + be16 hi lo) := addSz_eq (by omega)
    rw [if_neg (by omega), bind_some_eq (readU16Be_shows shows), bind_some_eq listPos, bind_some_eq listEnd, serverNameOn]
    by_cases fills : be16 hi lo = list.length
    · rw [if_neg (by omega), if_pos fills, fills]
      exact parseNames_on shows.tail.tail (by omega) (by omega)
    · rw [if_pos (by omega), if_neg fills]
      rfl

theorem extensionsOn_short {e : Bytes} (short : e.length < 4) :
    extensionsOn outLen e = { status := if e = [] then .missing else .parseError } := by
  unfold extensionsOn
  split
  · simp only [List.length_cons] at short
    omega
  · rfl
  · rename_i filled
    rw [if_neg filled]

/-- Each extension moves the position on by four at least, so the fuel lasts. -/
theorem parseExtensions_on {e : Bytes} {pos fuel : Nat} (shows : Shows rd pos e) (small : pos + e.length < 131072)
    (enough : e.length < fuel) :
    parseExtensions rd outLen (pos + e.length) fuel pos = some (extensionsOn outLen e) := by
  induction fuel generalizing pos e with
  | zero => omega
  | succ fuel ih =>
    have extData : addSz pos 4 = some (pos + 4) := addSz_eq (by omega)
    rw [parseExtensions, bind_some_eq extData]
    by_cases short : e.length < 4
    · rw [if_pos (by omega), extensionsOn_short short]
      by_cases empty : e = []
      · rw [if_pos empty, empty]
        simp
      · have filled := List.length_pos_iff.2 empty
        rw [if_neg empty, if_pos (by omega)]
        rfl
    obtain ⟨typeHi, typeLo, hi, lo, rest, rfl⟩ := four_front (show 4 ≤ e.length by omega)
    simp only [List.length_cons] at small enough short ⊢
    have bound := Lib.be16_lt hi lo
    have behind : Shows rd (pos + 4) rest := shows.tail.tail.tail.tail
    have extEnd : addSz (pos + 4) (be16 hi lo) = some (pos + 4 + be16 hi lo) := addSz_eq (by omega)
    rw [if_neg (by omega), bind_some_eq (readU16Be_shows shows), bind_some_eq (readU16Be_shows shows.tail.tail),
      bind_some_eq extEnd, extensionsOn]
    by_cases long : rest.length < be16 hi lo
    · rw [if_pos (by omega), if_pos long]
      rfl
    obtain ⟨value, block, rfl, length⟩ := Lib.split_at (show be16 hi lo ≤ rest.length by omega)
    rw [if_neg (by omega), if_neg long, length, List.take_left, List.drop_left]
    simp only [List.length_append] at small enough short ⊢
    by_cases kind : be16 typeHi typeLo = 0
    · rw [if_pos kind, if_pos kind]
      exact parseServerName_on behind.left (by omega)
    · have ends : pos + (value.length + block.length + 1 + 1 + 1 + 1) = pos + 4 + value.length + block.length := by omega
      rw [if_neg kind, if_neg kind, ends]
      exact ih behind.skip (by omega) (by omega)

/-- The extensions block that ends the ClientHello, behind the compression methods. -/
theorem parseTail_on {tail : Bytes} {pos : Nat} (shows : Shows rd pos tail) (small : pos + tail.length < 131072) :
    (do
      if pos = pos + tail.length then return { status := .missing }
      let next ← addSz pos 2
      if next > pos + tail.length then return { status := .parseError }
      let extensionsLen ← readU16Be rd pos
      let extensionsEnd ← addSz next extensionsLen
      if extensionsEnd ≠ pos + tail.length then return { status := .parseError }
      parseExtensions rd outLen extensionsEnd (extensionsEnd + 1) next) = some (tailOn outLen tail) := by
  have next : addSz pos 2 = some (pos + 2) := addSz_eq (by omega)
  match tail, shows, small with
  | [], _, _ =>
    rw [if_pos (by simp)]
    rfl
  | [_], _, _ =>
    rw [if_neg (by simp), bind_some_eq next, if_pos (by simp)]
    rfl
  | hi :: lo :: block, shows, small =>
    simp only [List.length_cons] at small ⊢
    have bound := Lib.be16_lt hi lo
    have ends : addSz (pos + 2) (be16 hi lo) = some (pos + 2 + be16 hi lo) := addSz_eq (by omega)
    rw [if_neg (by omega), bind_some_eq next, if_neg (by omega), bind_some_eq (readU16Be_shows shows), bind_some_eq ends,
      tailOn]
    by_cases fills : be16 hi lo = block.length
    · rw [if_neg (by omega), if_pos fills, fills]
      exact parseExtensions_on shows.tail.tail (by omega) (by omega)
    · rw [if_pos (by omega), if_neg fills]
      rfl

theorem parseCompression_on {seg : Bytes} {pos : Nat} (shows : Shows rd pos seg) (small : pos + seg.length < 131072) :
    parseCompression rd outLen (pos + seg.length) pos = some (compressionOn outLen seg) := by
  have next : addSz pos 1 = some (pos + 1) := addSz_eq (by omega)
  rw [parseCompression, bind_some_eq next]
  match seg, shows, small with
  | [], _, _ =>
    rw [if_pos (by simp)]
    rfl
  | len :: rest, shows, small =>
    simp only [List.length_cons] at small ⊢
    have bound := len.toNat_lt
    have methodsEnd : addSz (pos + 1) len.toNat = some (pos + 1 + len.toNat) := addSz_eq (by omega)
    rw [if_neg (by omega), bind_some_eq shows.head, compressionOn]
    by_cases zero : len = 0
    · rw [if_pos zero, if_pos (.inl zero)]
      rfl
    rw [if_neg zero, bind_some_eq methodsEnd]
    by_cases long : rest.length < len.toNat
    · rw [if_pos (by omega), if_pos (.inr long)]
      rfl
    obtain ⟨methods, tail, rfl, length⟩ := Lib.split_at (show len.toNat ≤ rest.length by omega)
    have neither : ¬ (len = 0 ∨ (methods ++ tail).length < len.toNat) := not_or.2 ⟨zero, long⟩
    rw [if_neg (by omega), if_neg neither, length, List.drop_left]
    simp only [List.length_append] at small ⊢
    have ends : pos + (methods.length + tail.length + 1) = pos + 1 + methods.length + tail.length := by omega
    rw [ends]
    exact parseTail_on shows.tail.skip (by omega)

/-- The cipher suites and what follows them, up to the end of the ClientHello. -/
theorem parseSuites_on {seg : Bytes} {pos : Nat} (shows : Shows rd pos seg) (small : pos + seg.length < 131072) :
    (do
      let next ← addSz pos 2
      if next > pos + seg.length then return { status := .parseError }
      let cipherSuitesLen ← readU16Be rd pos
      if cipherSuitesLen = 0 ∨ cipherSuitesLen % 2 ≠ 0 then return { status := .parseError }
      let pos' ← addSz next cipherSuitesLen
      if pos' > pos + seg.length then return { status := .parseError }
      parseCompression rd outLen (pos + seg.length) pos') = some (suitesOn outLen seg) := by
  have next : addSz pos 2 = some (pos + 2) := addSz_eq (by omega)
  rw [bind_some_eq next]
  match seg, shows, small with
  | [], _, _ =>
    rw [if_pos (by simp)]
    rfl
  | [_], _, _ =>
    rw [if_pos (by simp)]
    rfl
  | hi :: lo :: rest, shows, small =>
    simp only [List.length_cons] at small ⊢
    have bound := Lib.be16_lt hi lo
    have ends : addSz (pos + 2) (be16 hi lo) = some (pos + 2 + be16 hi lo) := addSz_eq (by omega)
    rw [if_neg (by omega), bind_some_eq (readU16Be_shows shows), suitesOn]
    by_cases odd : be16 hi lo = 0 ∨ be16 hi lo % 2 ≠ 0
    · rw [if_pos odd, if_pos (by omega)]
      rfl
    rw [if_neg odd, bind_some_eq ends]
    by_cases long : rest.length < be16 hi lo
    · rw [if_pos (by omega), if_pos (by omega)]
      rfl
    rw [if_neg (by omega), if_neg (by omega)]
    obtain ⟨suites, rest, rfl, length⟩ := Lib.split_at (show be16 hi lo ≤ rest.length by omega)
    rw [length, List.drop_left]
    simp only [List.length_append] at small ⊢
    have total : pos + (suites.length + rest.length + 1 + 1) = pos + 2 + suites.length + rest.length := by omega
    rw [total]
    exact parseCompression_on shows.tail.tail.skip (by omega)

theorem parseHello_on {seg : Bytes} {pos : Nat} (shows : Shows rd pos seg) (small : pos + seg.length < 131072) :
    parseHello rd outLen (pos + seg.length) pos = some (bodyOn outLen seg) := by
  have fixedEnd : addSz pos (2 + 32 + 1) = some (pos + 2 + 32 + 1) := addSz_eq (by omega)
  rw [parseHello, bind_some_eq fixedEnd, bodyOn]
  by_cases short : seg.length < 2 + 32 + 1
  · rw [if_pos (by omega), List.drop_of_length_le (by omega)]
    rfl
  obtain ⟨fixed, behind, rfl, length⟩ := Lib.split_at (show 2 + 32 ≤ seg.length by omega)
  rw [length, List.drop_left]
  have from34 := shows.skip
  rw [← length] at from34
  match behind with
  | [] =>
    rw [List.append_nil] at short
    omega
  | len :: rest =>
    have bound := len.toNat_lt
    have read : rd (pos + 2 + 32) = some len := from34.head
    simp only [List.length_append, List.length_cons, ← length] at small short ⊢
    have sessionEnd : addSz (pos + 2 + 32 + 1) len.toNat = some (pos + 2 + 32 + 1 + len.toNat) := addSz_eq (by omega)
    rw [if_neg (by omega), bind_some_eq read, bind_some_eq sessionEnd, sessionOn]
    by_cases long : rest.length < len.toNat
    · rw [if_pos (by omega), if_pos long]
      rfl
    rw [if_neg (by omega), if_neg long]
    obtain ⟨session, rest, rfl, own⟩ := Lib.split_at (show len.toNat ≤ rest.length by omega)
    rw [own, List.drop_left]
    simp only [List.length_append] at small ⊢
    have total : pos + (2 + 32 + (session.length + rest.length + 1)) =
        pos + 2 + 32 + 1 + session.length + rest.length := by omega
    rw [total]
    exact parseSuites_on from34.tail.skip (by omega)

theorem handshakeOn_short {record : Bytes} (short : record.length < 4) :
    handshakeOn outLen record = { status := .parseError } := by
  unfold handshakeOn
  split
  · simp only [List.length_cons] at short
    omega
  · rfl

theorem parseHandshake_on {record : Bytes} (shows : Shows rd 5 record) (small : record.length < 65536) :
    parseHandshake rd outLen (5 + record.length) = some (handshakeOn outLen record) := by
  have next : addSz 5 4 = some 9 := addSz_eq (by omega)
  rw [parseHandshake, bind_some_eq next]
  by_cases short : record.length < 4
  · rw [if_pos (by omega), handshakeOn_short short]
    rfl
  obtain ⟨type, hi, mid, lo, rest, rfl⟩ := four_front (show 4 ≤ record.length by omega)
  simp only [List.length_cons] at small ⊢
  have bound := Lib.be24_lt hi mid lo
  have hsEnd : addSz 9 (be24 hi mid lo) = some (9 + be24 hi mid lo) := addSz_eq (by omega)
  rw [if_neg (by omega), bind_some_eq shows.head, handshakeOn]
  by_cases other : type ≠ 0x01
  · rw [if_pos other, if_pos other]
    rfl
  rw [if_neg other, if_neg other, bind_some_eq (readU24Be_shows shows.tail), bind_some_eq hsEnd]
  by_cases bad : be24 hi mid lo = 0 ∨ rest.length < be24 hi mid lo
  · rw [if_pos bad, if_pos (by omega)]
    rfl
  rw [if_neg bad, if_neg (by omega)]
  obtain ⟨body, rest, rfl, length⟩ := Lib.split_at (show be24 hi mid lo ≤ rest.length by omega)
  rw [length, List.take_left]
  simp only [List.length_append] at small
  exact parseHello_on shows.tail.tail.tail.tail.left (by omega)

theorem recordOn_short {tail : Bytes} (short : tail.length < 4) :
    recordOn outLen tail = { status := .needMore, needMore := true } := by
  unfold recordOn
  split
  · simp only [List.length_cons] at short
    omega
  · rfl

end Agree

/-- How many bytes of `b` the parser needs: the record, if it is there in full, and the record header otherwise. -/
def readExtent (b : Bytes) : Nat :=
  match b with
  | _ :: _ :: _ :: hi :: lo :: rest => if rest.length < be16 hi lo then 5 else 5 + be16 hi lo
  | _ => b.length

theorem readExtent_pos (type : UInt8) (tail : Bytes) : 0 < readExtent (type :: tail) := by
  unfold readExtent
  split
  · split <;> omega
  · exact Nat.succ_pos _

theorem readExtent_header {type major minor hi lo : UInt8} {rest : Bytes} :
    5 ≤ readExtent (type :: major :: minor :: hi :: lo :: rest) := by
  simp only [readExtent]
  split <;> omega

/-- **The parser on positions is the parser on byte strings**, on every reader that has the bytes it needs. -/
theorem parse_eq {rd : Reader} {b : Bytes} (outLen : Nat) (same : ∀ i, i < readExtent b → rd i = b[i]?) :
    parseSniFromClientHello rd b.length outLen = some (sniOn outLen b) := by
  match b, same with
  | [], _ => rfl
  | type :: tail, same =>
    have first : rd 0 = some type := same 0 (readExtent_pos type tail)
    rw [parseSniFromClientHello, if_neg (by simp), bind_some_eq first, sniOn]
    by_cases other : type ≠ 0x16
    · rw [if_pos other, if_pos other]
      rfl
    rw [if_neg other, if_neg other]
    by_cases short : tail.length < 4
    · rw [if_pos (by rw [List.length_cons]; omega), recordOn_short short]
      rfl
    obtain ⟨major, minor, hi, lo, rest, rfl⟩ := four_front (show 4 ≤ tail.length by omega)
    have header := @readExtent_header type major minor hi lo rest
    have second : rd 1 = some major := same 1 (by omega)
    have length : readU16Be rd 3 = some (be16 hi lo) := by
      have fourth : rd 3 = some hi := same 3 (by omega)
      have fifth : rd 4 = some lo := same 4 (by omega)
      simp [readU16Be, fourth, fifth]
    have bound := Lib.be16_lt hi lo
    have ends : addSz 5 (be16 hi lo) = some (5 + be16 hi lo) := addSz_eq (by omega)
    simp only [List.length_cons] at short ⊢
    rw [if_neg (by omega), bind_some_eq second, recordOn]
    by_cases version : major ≠ 0x03
    · rw [if_pos version, if_pos version]
      rfl
    rw [if_neg version, if_neg version, bind_some_eq length, bind_some_eq ends]
    by_cases zero : be16 hi lo = 0
    · rw [if_pos zero, if_pos zero]
      rfl
    rw [if_neg zero, if_neg zero]
    by_cases cut : rest.length < be16 hi lo
    · rw [if_pos (by omega), if_pos cut]
      rfl
    rw [if_neg (by omega), if_neg cut]
    obtain ⟨record, rest, rfl, size⟩ := Lib.split_at (show be16 hi lo ≤ rest.length by omega)
    have extent : readExtent (type :: major :: minor :: hi :: lo :: (record ++ rest)) = 5 + record.length := by
      rw [readExtent, if_neg cut, size]
    rw [size, List.take_left]
    apply parseHandshake_on _ (by omega)
    intro i inside
    rw [same (5 + i) (by omega), Nat.add_comm 5 i]
    exact List.getElem?_append_left inside

/-- The parser on the whole of `b`, with `outLen` bytes of output. -/
def sniOf (b : Bytes) (outLen : Nat) : Option SniResult := parseSniFromClientHello (fun i => b[i]?) b.length outLen

theorem sniOf_eq (b : Bytes) (outLen : Nat) : sniOf b outLen = some (sniOn outLen b) := parse_eq outLen fun _ _ => rfl

end Tinyproxy
