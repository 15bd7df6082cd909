import Tinyproxy.Stream.SniffSegments

/-!
# The grammar of the sniffer

What `parse_sni_from_client_hello` accepts, written as a grammar over byte strings and
not as a parser: a TLS record that holds a ClientHello whose extensions carry a server
name. `parse_sni_iff` says that the parser returns `PARSED` with a name exactly on the
strings of the grammar for that name.

Each part of the parser on byte strings (`sniOn`) is compared with the part of the
grammar for the same bytes.
-/

namespace Tinyproxy

open Lib (Prefixed be16 be24)

/-! ## The grammar -/

namespace ClientHello

/-- `[A-Za-z0-9.-]`. -/
def NameByte (c : UInt8) : Prop :=
  (0x41 ≤ c ∧ c ≤ 0x5a) ∨ (0x61 ≤ c ∧ c ≤ 0x7a) ∨ (0x30 ≤ c ∧ c ≤ 0x39) ∨ c = 0x2e ∨ c = 0x2d

/-- A host name: 1 to 253 of these bytes. -/
def HostName (n : Bytes) : Prop := 1 ≤ n.length ∧ n.length ≤ 253 ∧ ∀ c ∈ n, NameByte c

/-- A server name list in which `n` is the first host name: entries of other types, then its own, then anything. -/
inductive NameList (n : Bytes) : Bytes → Prop where
  | host {hi lo : UInt8} {rest : Bytes} (length : be16 hi lo = n.length) (name : HostName n) :
      NameList n (0 :: hi :: lo :: (n ++ rest))
  | other {type hi lo : UInt8} {value list : Bytes} (kind : type ≠ 0) (length : be16 hi lo = value.length)
      (more : NameList n list) : NameList n (type :: hi :: lo :: (value ++ list))

/-- An extensions block whose first server name extension names `n`: extensions of other types, then that one,
filled by its list exactly, then anything. -/
inductive Extensions (n : Bytes) : Bytes → Prop where
  | serverName {hi lo listHi listLo : UInt8} {list rest : Bytes} (length : be16 hi lo = 2 + list.length)
      (listLength : be16 listHi listLo = list.length) (names : NameList n list) :
      Extensions n (0 :: 0 :: hi :: lo :: listHi :: listLo :: (list ++ rest))
  | other {typeHi typeLo hi lo : UInt8} {value block : Bytes} (kind : be16 typeHi typeLo ≠ 0)
      (length : be16 hi lo = value.length) (more : Extensions n block) :
      Extensions n (typeHi :: typeLo :: hi :: lo :: (value ++ block))

/-- From the compression methods to the end of the body: they are not empty, and the extensions end it. -/
inductive Compression (n : Bytes) : Bytes → Prop where
  | mk {len hi lo : UInt8} {methods block : Bytes} (length : len.toNat = methods.length) (nonempty : methods ≠ [])
      (blockLength : be16 hi lo = block.length) (extensions : Extensions n block) :
      Compression n (len :: (methods ++ (hi :: lo :: block)))

/-- From the cipher suites on: they have a non-zero even length. -/
inductive Suites (n : Bytes) : Bytes → Prop where
  | mk {hi lo : UInt8} {suites rest : Bytes} (length : be16 hi lo = suites.length) (nonempty : suites ≠ [])
      (even : suites.length % 2 = 0) (compression : Compression n rest) : Suites n (hi :: lo :: (suites ++ rest))

/-- From the session id on. -/
inductive SessionId (n : Bytes) : Bytes → Prop where
  | mk {len : UInt8} {session rest : Bytes} (length : len.toNat = session.length) (suites : Suites n rest) :
      SessionId n (len :: (session ++ rest))

/-- The body of a ClientHello: two version bytes, 32 random bytes, and the rest. -/
inductive Body (n : Bytes) : Bytes → Prop where
  | mk {version random rest : Bytes} (versionLength : version.length = 2) (randomLength : random.length = 32)
      (session : SessionId n rest) : Body n (version ++ random ++ rest)

/-- A handshake message that is a ClientHello, and what follows it in the record. -/
inductive Handshake (n : Bytes) : Bytes → Prop where
  | mk {hi mid lo : UInt8} {body rest : Bytes} (length : be24 hi mid lo = body.length) (nonempty : body ≠ [])
      (hello : Body n body) : Handshake n (0x01 :: hi :: mid :: lo :: (body ++ rest))

/-- A TLS record of content type handshake, and what follows it in the buffer. -/
inductive Record (n : Bytes) : Bytes → Prop where
  | mk {minor hi lo : UInt8} {record rest : Bytes} (length : be16 hi lo = record.length) (nonempty : record ≠ [])
      (handshake : Handshake n record) : Record n (0x16 :: 0x03 :: minor :: hi :: lo :: (record ++ rest))

end ClientHello

open ClientHello

/-! ## Accepting a name -/

/-- The parser returned `PARSED` and copied `n`. -/
def Accepts (n : Bytes) (o : Option SniResult) : Prop := o = some { status := .parsed, copied := some n }

namespace Accepts

variable {n : Bytes}

/-- A return without a name. -/
theorem refused {status : StreamSniffStatus} {more : Bool} :
    ¬Accepts n (some { status := status, needMore := more }) := by
  intro accepted
  cases accepted

/-- A check that ends the parse without a name where it fails. -/
theorem guard {c : Prop} [Decidable c] {status : StreamSniffStatus} {more : Bool} {r : SniResult} :
    Accepts n (some (if c then { status := status, needMore := more } else r)) ↔ ¬ c ∧ Accepts n (some r) := by
  by_cases holds : c
  · simp only [holds, if_true, not_true_eq_false, false_and, iff_false]
    exact refused
  · simp only [holds, if_false, not_false_eq_true, true_and]

theorem parsed {name : Bytes} : Accepts n (some { status := .parsed, copied := some name }) ↔ n = name := by
  constructor
  · intro accepted
    cases accepted
    rfl
  · intro same
    rw [same]
    rfl

end Accepts

theorem nameByte_iff (c : UInt8) : sniNameByte c = true ↔ NameByte c := by
  simp only [sniNameByte, isalnum, NameByte, Bool.or_eq_true, Bool.and_eq_true, decide_eq_true_eq, beq_iff_eq]
  tauto

/-! ## The name list -/

/-- An entry, and what it leaves to the rest of the list. -/
theorem nameList_prefixed {n tail : Bytes} {type hi lo : UInt8} :
    NameList n (type :: hi :: lo :: tail) ↔ Prefixed (be16 hi lo) (fun value list =>
      (type = 0 ∧ n = value ∧ HostName value) ∨ (type ≠ 0 ∧ NameList n list)) tail := by
  constructor
  · intro names
    cases names with
    | host length name => exact ⟨n, _, rfl, length, .inl ⟨rfl, rfl, name⟩⟩
    | other kind length more => exact ⟨_, _, rfl, length, .inr ⟨kind, more⟩⟩
  · rintro ⟨value, list, rfl, length, ⟨rfl, rfl, name⟩ | ⟨kind, more⟩⟩
    · exact .host length name
    · exact .other kind length more

/-- The host name entry: it is copied exactly when it is a host name. -/
theorem hostOn_iff {n value : Bytes} {outLen : Nat} (room : streamSniMax + 1 ≤ outLen) :
    Accepts n (some (hostOn outLen value)) ↔ n = value ∧ HostName value := by
  have bytes : ¬ (value.length = 0 ∨ value.all sniNameByte = false) ↔ 1 ≤ value.length ∧ ∀ c ∈ value, NameByte c := by
    rw [not_or, Bool.not_eq_false, List.all_eq_true, Nat.one_le_iff_ne_zero]
    simp only [nameByte_iff, ne_eq]
  simp only [hostOn, Accepts.guard, Accepts.parsed, bytes]
  simp only [streamSniMax] at room ⊢
  constructor
  · rintro ⟨short, ⟨filled, good⟩, -, rfl⟩
    exact ⟨rfl, filled, by omega, good⟩
  · rintro ⟨rfl, filled, short, good⟩
    exact ⟨by omega, ⟨filled, good⟩, by omega, rfl⟩

theorem namesOn_iff {n l : Bytes} {outLen : Nat} (room : streamSniMax + 1 ≤ outLen) :
    Accepts n (some (namesOn outLen l)) ↔ NameList n l := by
  induction l using namesOn.induct with
  | case1 type hi lo rest long =>
    rw [namesOn, if_pos long]
    exact iff_of_false Accepts.refused fun names => Lib.not_prefixed long (nameList_prefixed.1 names)
  | case2 hi lo rest fits =>
    obtain ⟨value, list, rfl, length⟩ := Lib.split_at (Nat.not_lt.1 fits)
    rw [namesOn, if_neg fits, if_pos rfl, nameList_prefixed, Lib.prefixed_append length, length, List.take_left,
      hostOn_iff room]
    simp
  | case3 type hi lo rest fits kind ih =>
    obtain ⟨value, list, rfl, length⟩ := Lib.split_at (Nat.not_lt.1 fits)
    rw [length, List.drop_left] at ih
    rw [namesOn, if_neg fits, if_neg kind, nameList_prefixed, Lib.prefixed_append length, length, List.drop_left, ih]
    simp [kind]
  | case4 l short =>
    refine iff_of_false ?_ ?_
    · rw [namesOn]
      · exact Accepts.refused
      · exact short
    · intro names
      cases names with
      | host length name => exact short _ _ _ _ rfl
      | other kind length more => exact short _ _ _ _ rfl

/-! ## The extensions -/

/-- The value of a server name extension: one list that fills it. -/
inductive ClientHello.ServerName (n : Bytes) : Bytes → Prop where
  | mk {hi lo : UInt8} {list : Bytes} (length : be16 hi lo = list.length) (names : NameList n list) :
      ServerName n (hi :: lo :: list)

theorem serverNameOn_iff {n value : Bytes} {outLen : Nat} (room : streamSniMax + 1 ≤ outLen) :
    Accepts n (some (serverNameOn outLen value)) ↔ ServerName n value := by
  match value with
  | [] => exact iff_of_false Accepts.refused fun part => by cases part
  | [_] => exact iff_of_false Accepts.refused fun part => by cases part
  | hi :: lo :: list =>
    rw [serverNameOn]
    by_cases fills : be16 hi lo = list.length
    · rw [if_pos fills, namesOn_iff room]
      constructor
      · exact .mk fills
      · intro name
        cases name with
        | mk length names => exact names
    · rw [if_neg fills]
      refine iff_of_false Accepts.refused ?_
      intro name
      cases name with
      | mk length names => exact fills length

theorem be16_eq_zero {hi lo : UInt8} : be16 hi lo = 0 ↔ hi = 0 ∧ lo = 0 := by
  have zero : (0 : UInt8).toNat = 0 := rfl
  rw [Lib.be16_eq, ← UInt8.toNat_inj, ← UInt8.toNat_inj, zero]
  omega

/-- An extension, and what it leaves to the rest of the block. -/
theorem extensions_prefixed {n tail : Bytes} {typeHi typeLo hi lo : UInt8} :
    Extensions n (typeHi :: typeLo :: hi :: lo :: tail) ↔ Prefixed (be16 hi lo) (fun value block =>
      (be16 typeHi typeLo = 0 ∧ ServerName n value) ∨ (be16 typeHi typeLo ≠ 0 ∧ Extensions n block)) tail := by
  constructor
  · intro extensions
    cases extensions with
    | @serverName _ _ listHi listLo list rest length listLength names =>
      refine ⟨listHi :: listLo :: list, rest, rfl, ?_, .inl ⟨rfl, .mk listLength names⟩⟩
      simp only [List.length_cons]
      omega
    | other kind length more => exact ⟨_, _, rfl, length, .inr ⟨kind, more⟩⟩
  · rintro ⟨value, block, rfl, length, ⟨zero, name⟩ | ⟨kind, more⟩⟩
    · obtain ⟨rfl, rfl⟩ := be16_eq_zero.1 zero
      cases name with
      | mk listLength names =>
        simp only [List.length_cons] at length
        exact .serverName (by omega) listLength names
    · exact .other kind length more

theorem extensionsOn_iff {n e : Bytes} {outLen : Nat} (room : streamSniMax + 1 ≤ outLen) :
    Accepts n (some (extensionsOn outLen e)) ↔ Extensions n e := by
  induction e using extensionsOn.induct with
  | case1 typeHi typeLo hi lo rest long =>
    rw [extensionsOn, if_pos long]
    exact iff_of_false Accepts.refused fun block => Lib.not_prefixed long (extensions_prefixed.1 block)
  | case2 typeHi typeLo hi lo rest fits kind =>
    obtain ⟨value, block, rfl, length⟩ := Lib.split_at (Nat.not_lt.1 fits)
    rw [extensionsOn, if_neg fits, if_pos kind, extensions_prefixed, Lib.prefixed_append length, length, List.take_left,
      serverNameOn_iff room]
    simp [kind]
  | case3 typeHi typeLo hi lo rest fits kind ih =>
    obtain ⟨value, block, rfl, length⟩ := Lib.split_at (Nat.not_lt.1 fits)
    rw [length, List.drop_left] at ih
    rw [extensionsOn, if_neg fits, if_neg kind, extensions_prefixed, Lib.prefixed_append length, length, List.drop_left, ih]
    simp [kind]
  | case4 =>
    rw [extensionsOn]
    exact iff_of_false Accepts.refused fun part => by cases part
  | case5 e short filled =>
    refine iff_of_false ?_ ?_
    · rw [extensionsOn]
      · exact Accepts.refused
      · exact short
      · exact filled
    · intro extensions
      cases extensions with
      | serverName length listLength names => exact short _ _ _ _ _ rfl
      | other kind length more => exact short _ _ _ _ _ rfl

/-! ## The ClientHello -/

/-- The methods and what follows them. -/
theorem compression_prefixed {n tail : Bytes} {len : UInt8} :
    Compression n (len :: tail) ↔ Prefixed len.toNat (fun methods rest =>
      methods ≠ [] ∧ ∃ hi lo block, rest = hi :: lo :: block ∧ be16 hi lo = block.length ∧ Extensions n block) tail := by
  constructor
  · intro compression
    cases compression with
    | mk length nonempty blockLength extensions =>
      exact ⟨_, _, rfl, length, nonempty, _, _, _, rfl, blockLength, extensions⟩
  · rintro ⟨methods, _, rfl, length, nonempty, hi, lo, block, rfl, blockLength, extensions⟩
    exact .mk length nonempty blockLength extensions

theorem tailOn_iff {n tail : Bytes} {outLen : Nat} (room : streamSniMax + 1 ≤ outLen) :
    Accepts n (some (tailOn outLen tail)) ↔
      ∃ hi lo block, tail = hi :: lo :: block ∧ be16 hi lo = block.length ∧ Extensions n block := by
  match tail with
  | [] =>
    refine iff_of_false Accepts.refused ?_
    rintro ⟨hi, lo, block, same, -⟩
    cases same
  | [_] =>
    refine iff_of_false Accepts.refused ?_
    rintro ⟨hi, lo, block, same, -⟩
    cases same
  | hi :: lo :: block =>
    rw [tailOn]
    by_cases fills : be16 hi lo = block.length
    · rw [if_pos fills, extensionsOn_iff room]
      constructor
      · intro extensions
        exact ⟨hi, lo, block, rfl, fills, extensions⟩
      · rintro ⟨hi', lo', block', same, -, extensions⟩
        cases same
        exact extensions
    · rw [if_neg fills]
      refine iff_of_false Accepts.refused ?_
      rintro ⟨hi', lo', block', same, length, -⟩
      cases same
      exact fills length

theorem compressionOn_iff {n seg : Bytes} {outLen : Nat} (room : streamSniMax + 1 ≤ outLen) :
    Accepts n (some (compressionOn outLen seg)) ↔ Compression n seg := by
  match seg with
  | [] => exact iff_of_false Accepts.refused fun part => by cases part
  | len :: rest =>
    rw [compressionOn, Accepts.guard, compression_prefixed, not_or]
    by_cases long : rest.length < len.toNat
    · exact iff_of_false (fun accepted => accepted.1.2 long) (Lib.not_prefixed long)
    obtain ⟨methods, tail, rfl, length⟩ := Lib.split_at (Nat.not_lt.1 long)
    have zero : len = 0 ↔ methods = [] := by
      rw [← UInt8.toNat_inj, length]
      exact List.length_eq_zero_iff
    rw [Lib.prefixed_append length, zero, tailOn_iff room, length, List.drop_left]
    constructor
    · rintro ⟨⟨nonempty, -⟩, tail⟩
      exact ⟨nonempty, tail⟩
    · rintro ⟨nonempty, tail⟩
      exact ⟨⟨nonempty, by rw [List.length_append]; omega⟩, tail⟩

/-- The suites and what follows them. -/
theorem suites_prefixed {n tail : Bytes} {hi lo : UInt8} :
    Suites n (hi :: lo :: tail) ↔ Prefixed (be16 hi lo) (fun suites rest =>
      suites ≠ [] ∧ suites.length % 2 = 0 ∧ Compression n rest) tail := by
  constructor
  · intro block
    cases block with
    | mk length nonempty even compression => exact ⟨_, _, rfl, length, nonempty, even, compression⟩
  · rintro ⟨suites, rest, rfl, length, nonempty, even, compression⟩
    exact .mk length nonempty even compression

/-- The session id and what follows it. -/
theorem sessionId_prefixed {n tail : Bytes} {len : UInt8} :
    SessionId n (len :: tail) ↔ Prefixed len.toNat (fun _ rest => Suites n rest) tail := by
  constructor
  · intro block
    cases block with
    | mk length suites => exact ⟨_, _, rfl, length, suites⟩
  · rintro ⟨session, rest, rfl, length, suites⟩
    exact .mk length suites

/-- The version, the random bytes and what follows them. -/
theorem body_append {n fixed rest : Bytes} (length : fixed.length = 2 + 32) :
    Body n (fixed ++ rest) ↔ SessionId n rest := by
  constructor
  · intro body
    generalize whole : fixed ++ rest = b at body
    cases body with
    | mk versionLength randomLength session =>
      obtain ⟨-, rfl⟩ := List.append_inj whole (by rw [List.length_append]; omega)
      exact session
  · intro session
    have front : fixed = fixed.take 2 ++ fixed.drop 2 := (List.take_append_drop 2 fixed).symm
    rw [front]
    exact .mk (by rw [List.length_take]; omega) (by rw [List.length_drop]; omega) session

theorem suitesOn_iff {n seg : Bytes} {outLen : Nat} (room : streamSniMax + 1 ≤ outLen) :
    Accepts n (some (suitesOn outLen seg)) ↔ Suites n seg := by
  match seg with
  | [] => exact iff_of_false Accepts.refused fun part => by cases part
  | [_] => exact iff_of_false Accepts.refused fun part => by cases part
  | hi :: lo :: rest =>
    rw [suitesOn, Accepts.guard, suites_prefixed]
    by_cases long : rest.length < be16 hi lo
    · exact iff_of_false (fun accepted => accepted.1 (.inr (.inr long))) (Lib.not_prefixed long)
    obtain ⟨suites, rest, rfl, length⟩ := Lib.split_at (Nat.not_lt.1 long)
    rw [Lib.prefixed_append length, compressionOn_iff room, length, List.drop_left, ← List.length_pos_iff]
    constructor
    · rintro ⟨sizes, compression⟩
      exact ⟨by omega, by omega, compression⟩
    · rintro ⟨nonempty, even, compression⟩
      exact ⟨by rw [List.length_append]; omega, compression⟩

theorem sessionOn_iff {n seg : Bytes} {outLen : Nat} (room : streamSniMax + 1 ≤ outLen) :
    Accepts n (some (sessionOn outLen seg)) ↔ SessionId n seg := by
  match seg with
  | [] => exact iff_of_false Accepts.refused fun part => by cases part
  | len :: rest =>
    rw [sessionOn, Accepts.guard, sessionId_prefixed]
    by_cases long : rest.length < len.toNat
    · exact iff_of_false (fun accepted => accepted.1 long) (Lib.not_prefixed long)
    obtain ⟨session, rest, rfl, length⟩ := Lib.split_at (Nat.not_lt.1 long)
    rw [Lib.prefixed_append length, suitesOn_iff room, length, List.drop_left, ← length]
    exact and_iff_right long

theorem body_length {n seg : Bytes} (body : Body n seg) : 2 + 32 + 1 ≤ seg.length := by
  cases body with
  | mk versionLength randomLength session =>
    cases session with
    | mk length suites =>
      simp only [List.length_append, List.length_cons]
      omega

theorem bodyOn_iff {n seg : Bytes} {outLen : Nat} (room : streamSniMax + 1 ≤ outLen) :
    Accepts n (some (bodyOn outLen seg)) ↔ Body n seg := by
  rw [bodyOn, sessionOn_iff room]
  by_cases short : seg.length < 2 + 32
  · rw [List.drop_of_length_le (by omega)]
    refine iff_of_false (fun session => by cases session) ?_
    intro body
    have long := body_length body
    omega
  · obtain ⟨fixed, rest, rfl, length⟩ := Lib.split_at (show 2 + 32 ≤ seg.length by omega)
    rw [length, List.drop_left, body_append length.symm]

/-! ## The record -/

/-- The message and what follows it. -/
theorem handshake_prefixed {n tail : Bytes} {type hi mid lo : UInt8} :
    Handshake n (type :: hi :: mid :: lo :: tail) ↔ Prefixed (be24 hi mid lo) (fun body _ =>
      type = 0x01 ∧ body ≠ [] ∧ Body n body) tail := by
  constructor
  · intro message
    cases message with
    | mk length nonempty hello => exact ⟨_, _, rfl, length, rfl, nonempty, hello⟩
  · rintro ⟨body, rest, rfl, length, rfl, nonempty, hello⟩
    exact .mk length nonempty hello

theorem handshake_length {n record : Bytes} (message : Handshake n record) : 4 ≤ record.length := by
  cases message
  simp

theorem handshakeOn_iff {n record : Bytes} {outLen : Nat} (room : streamSniMax + 1 ≤ outLen) :
    Accepts n (some (handshakeOn outLen record)) ↔ Handshake n record := by
  by_cases short : record.length < 4
  · refine iff_of_false ?_ ?_
    · rw [handshakeOn_short short]
      exact Accepts.refused
    · intro message
      have long := handshake_length message
      omega
  obtain ⟨type, hi, mid, lo, rest, rfl⟩ := four_front (show 4 ≤ record.length by omega)
  rw [handshakeOn, Accepts.guard, Accepts.guard, handshake_prefixed]
  by_cases long : rest.length < be24 hi mid lo
  · exact iff_of_false (fun accepted => accepted.2.1 (.inr long)) (Lib.not_prefixed long)
  obtain ⟨body, rest, rfl, length⟩ := Lib.split_at (Nat.not_lt.1 long)
  rw [Lib.prefixed_append length, length, List.take_left, bodyOn_iff room, ← List.length_pos_iff]
  constructor
  · rintro ⟨type, sizes, hello⟩
    exact ⟨not_not.1 type, by omega, hello⟩
  · rintro ⟨type, nonempty, hello⟩
    exact ⟨not_not.2 type, by rw [List.length_append]; omega, hello⟩

/-- The record and what follows it. -/
theorem record_prefixed {n tail : Bytes} {type major minor hi lo : UInt8} :
    Record n (type :: major :: minor :: hi :: lo :: tail) ↔ Prefixed (be16 hi lo) (fun record _ =>
      type = 0x16 ∧ major = 0x03 ∧ record ≠ [] ∧ Handshake n record) tail := by
  constructor
  · intro tls
    cases tls with
    | mk length nonempty handshake => exact ⟨_, _, rfl, length, rfl, rfl, nonempty, handshake⟩
  · rintro ⟨record, rest, rfl, length, rfl, rfl, nonempty, handshake⟩
    exact .mk length nonempty handshake

/-- **The parser accepts exactly its grammar**: it returns `PARSED` with the name `n` on the buffers that are a
record of the grammar for `n`, and on no others. -/
theorem parse_sni_iff (buf n : Bytes) (outLen : Nat) (room : streamSniMax + 1 ≤ outLen) :
    parseSniFromClientHello (fun i => buf[i]?) buf.length outLen = some { status := .parsed, copied := some n } ↔
      Record n buf := by
  change Accepts n (sniOf buf outLen) ↔ _
  rw [sniOf_eq]
  match buf with
  | [] => exact iff_of_false Accepts.refused fun part => by cases part
  | type :: tail =>
    rw [sniOn, Accepts.guard]
    by_cases short : tail.length < 4
    · refine iff_of_false ?_ ?_
      · rw [recordOn_short short]
        rintro ⟨-, accepted⟩
        exact Accepts.refused accepted
      · intro tls
        cases tls
        simp only [List.length_cons] at short
        omega
    obtain ⟨major, minor, hi, lo, behind, rfl⟩ := four_front (show 4 ≤ tail.length by omega)
    rw [recordOn, Accepts.guard, Accepts.guard, Accepts.guard, record_prefixed]
    by_cases long : behind.length < be16 hi lo
    · exact iff_of_false (fun accepted => accepted.2.2.2.1 long) (Lib.not_prefixed long)
    obtain ⟨record, rest, rfl, length⟩ := Lib.split_at (Nat.not_lt.1 long)
    rw [Lib.prefixed_append length, length, List.take_left, handshakeOn_iff room, ← List.length_pos_iff]
    constructor
    · rintro ⟨type, major, nonempty, -, handshake⟩
      exact ⟨not_not.1 type, not_not.1 major, by omega, handshake⟩
    · rintro ⟨type, major, nonempty, handshake⟩
      exact ⟨not_not.2 type, not_not.2 major, by omega, by rw [List.length_append]; omega, handshake⟩

/-- A ClientHello with a session id, two cipher suites, another extension before the name and bytes after the record. -/
def namedHello : Bytes :=
  [0x16, 0x03, 0x01, 0x00, 0x43, 0x01, 0x00, 0x00, 0x3f, 0x03, 0x03] ++ List.replicate 32 0x5a ++
    [0x01, 0xaa, 0x00, 0x04, 0x13, 0x01, 0x13, 0x02, 0x01, 0x00, 0x00, 0x11, 0x00, 0x17, 0x00, 0x01, 0xff,
      0x00, 0x00, 0x00, 0x08, 0x00, 0x06, 0x00, 0x00, 0x03, 0x61, 0x2e, 0x62, 0x16, 0x03]

theorem parse_sni_named :
    (parseSniFromClientHello (fun i => namedHello[i]?) namedHello.length (streamSniMax + 1) =
        some { status := .parsed, copied := some [0x61, 0x2e, 0x62] } ↔ Record [0x61, 0x2e, 0x62] namedHello) ∧
      Record [0x61, 0x2e, 0x62] namedHello :=
  have accepts := parse_sni_iff namedHello [0x61, 0x2e, 0x62] (streamSniMax + 1) (by decide)
  ⟨accepts, accepts.1 (by decide +kernel)⟩

end Tinyproxy
