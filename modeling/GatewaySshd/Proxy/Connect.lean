import GatewaySshd.Lib.Segments
import GatewaySshd.Text

/-! # Tunnels through the http proxy

The server reads a request through a buffer, which it hands over together with
the connection when a handler takes the connection from it. The handler of
CONNECT goes on with the connection alone.
-/
namespace GatewaySshd.Proxy.Connect
set_option autoImplicit false

open Segments

/-- A connection of the server: what its reader has read beyond the request, and
what is still to come. -/
structure Conn where
  reader : Str
  raw : Stream UInt8

/-- The reader reads until it holds the head of the request, one segment at a time. -/
def fillHead (ending : Ending) (head : Nat) : Str → List Str → Option Conn
  | read, [] => if head ≤ read.length then some ⟨read.drop head, ⟨[], ending⟩⟩ else none
  | read, segment :: rest =>
    if head ≤ read.length then some ⟨read.drop head, ⟨segment :: rest, ending⟩⟩
    else fillHead ending head (read ++ segment) rest

def readRequest (head : Nat) (stream : Stream UInt8) : Option Conn :=
  fillHead stream.ending head [] stream.segments

/-- While the handler runs, the server waits for one more byte, to notice a client
that leaves. -/
def Conn.backgroundRead (conn : Conn) : Conn :=
  match conn.raw.readFull 1 with
  | (.ok byte, raw) => ⟨conn.reader ++ byte, raw⟩
  | (.error _, raw) => ⟨conn.reader, raw⟩

inductive Answer where
  | badRequest
  | badGateway
  | internalServerError
  | established
deriving DecidableEq

/-- What the client is told, and the stream that is bridged to the tunnel. -/
structure Connected where
  answer : Option Answer
  bridged : Option (Stream UInt8)

def Conn.hijack (conn : Conn) : Stream UInt8 × Str := (conn.raw, conn.reader)

/-- Whether the connection can be taken from the server, whether that succeeds, and
whether the answer can be written, is given. -/
def handleHttpConnect (target : Option (Str × UInt16))
    (openServiceTunnel : Str → UInt16 → Bool) (isHijacker hijacks sends : Bool) (conn : Conn) :
    Connected :=
  match target with
  | none => ⟨some .badRequest, none⟩
  | some (host, port) =>
    if openServiceTunnel host port = false then ⟨some .badGateway, none⟩
    else if isHijacker = false then ⟨some .internalServerError, none⟩
    else if hijacks = false then ⟨none, none⟩
    else
      let (clientConn, _) := conn.hijack
      if sends then ⟨some .established, some clientConn⟩ else ⟨none, none⟩

/-- The connection as the handler takes it over. -/
def serve (head : Nat) (background : Bool) (stream : Stream UInt8) : Option Conn :=
  (readRequest head stream).map fun conn => if background then conn.backgroundRead else conn

/-- The reader stops at the segment in which the head of the request ends, and keeps
the rest of it. -/
theorem fillHead_of_complete (ending : Ending) {head : Nat} (read : Str) {reads : List Str}
    {last : Str} (hBefore : (read ++ reads.flatten).length < head)
    (hComplete : head ≤ (read ++ reads.flatten ++ last).length) (after : List Str) :
    fillHead ending head read (reads ++ last :: after) =
      some ⟨(read ++ reads.flatten ++ last).drop head, ⟨after, ending⟩⟩ := by
  induction reads generalizing read with
  | nil =>
    rw [List.flatten_nil, List.append_nil] at hBefore hComplete ⊢
    rw [List.nil_append, fillHead, if_neg (Nat.not_le.mpr hBefore)]
    cases after with
    | nil => rw [fillHead, if_pos hComplete]
    | cons segment rest => rw [fillHead, if_pos hComplete]
  | cons segment rest ih =>
    rw [List.flatten_cons, ← List.append_assoc] at hBefore hComplete ⊢
    have hShort : ¬ head ≤ read.length := by
      simp only [List.length_append] at hBefore
      omega
    rw [List.cons_append, fillHead, if_neg hShort, ih _ hBefore hComplete]

section Request

variable {head : Nat} {reads : List Str} {last : Str}

theorem readRequest_of_complete (hBefore : reads.flatten.length < head)
    (hComplete : head ≤ reads.flatten.length + last.length) (after : List Str) (ending : Ending) :
    readRequest head ⟨reads ++ last :: after, ending⟩ =
      some ⟨(reads.flatten ++ last).drop head, ⟨after, ending⟩⟩ := by
  rw [← List.length_append] at hComplete
  exact fillHead_of_complete ending [] hBefore hComplete after

theorem payload_of_complete (hComplete : head ≤ reads.flatten.length + last.length)
    (after : List Str) :
    (reads ++ last :: after).flatten.drop head =
      (reads.flatten ++ last).drop head ++ after.flatten := by
  rw [List.flatten_append, List.flatten_cons, ← List.append_assoc,
    List.drop_append_of_le_length (by rwa [List.length_append])]

end Request

theorem bridged_eq {target : Option (Str × UInt16)} {openServiceTunnel : Str → UInt16 → Bool}
    {isHijacker hijacks sends : Bool} {conn : Conn} {clientConn : Stream UInt8}
    (h : (handleHttpConnect target openServiceTunnel isHijacker hijacks sends conn).bridged =
      some clientConn) : clientConn = conn.raw := by
  unfold handleHttpConnect at h
  split at h
  · cases h
  · split at h
    · cases h
    · split at h
      · cases h
      · split at h
        · cases h
        · dsimp only at h
          split at h
          · cases h
            rfl
          · cases h

theorem backgroundRead_cons (reader : Str) (byte : UInt8) (rest : Str) (ending : Ending) :
    (Conn.backgroundRead ⟨reader, ⟨[byte :: rest], ending⟩⟩).raw.items = rest := by
  have hItems : (Stream.mk [byte :: rest] ending).items = [byte] ++ rest := by
    simp [Stream.items]
  have hOne : [byte].length = 1 := rfl
  obtain ⟨left, hRead, hLeft, _⟩ := readFull_of_append hItems hOne
  rw [Conn.backgroundRead, hRead]
  exact hLeft

/-- What is left on the connection when two bytes follow the request. -/
theorem serve_followed {head : Nat} {reads : List Str} {last : Str}
    (hBefore : reads.flatten.length < head)
    (hComplete : head ≤ reads.flatten.length + last.length) (background : Bool)
    (first second : UInt8) :
    ∃ conn, serve head background ⟨reads ++ last :: [[first, second]], .stalled⟩ = some conn ∧
      conn.raw.items = if background then [second] else [first, second] := by
  rw [serve, readRequest_of_complete hBefore hComplete]
  refine ⟨_, rfl, ?_⟩
  cases background with
  | false => rfl
  | true =>
    simp only [if_true]
    exact backgroundRead_cons _ _ _ _

theorem exists_other_byte (byte : UInt8) : ∃ other, other ≠ byte := by
  by_cases hZero : byte = 0
  · exact ⟨1, by rw [hZero]; decide⟩
  · exact ⟨0, Ne.symm hZero⟩

/-- The tunnel gets what the client sends after its request, from the first byte on,
exactly if the server has read nothing of it: the last read of the request ends
with its head, and no byte arrives before the connection is taken over. -/
theorem connect_keeps_client_bytes_iff (head : Nat) (reads : List Str) (last : Str)
    (background : Bool) (hBefore : reads.flatten.length < head)
    (hComplete : head ≤ reads.flatten.length + last.length) :
    (∀ after ending conn, serve head background ⟨reads ++ last :: after, ending⟩ = some conn →
      ∀ target openServiceTunnel isHijacker hijacks sends clientConn,
        (handleHttpConnect target openServiceTunnel isHijacker hijacks sends conn).bridged =
            some clientConn →
        ∀ copied, clientConn.items.take copied <+: (reads ++ last :: after).flatten.drop head) ↔
    reads.flatten.length + last.length = head ∧ background = false := by
  constructor
  · intro h
    have hFirst : ∀ first second : UInt8, [if background then second else first] <+:
        (reads.flatten ++ last).drop head ++ [first, second] := by
      intro first second
      obtain ⟨conn, hConn, hRaw⟩ := serve_followed hBefore hComplete background first second
      have hPrefix := h _ _ conn hConn (some ([], 0)) (fun _ _ => true) true true true conn.raw
        rfl 1
      rw [hRaw, payload_of_complete hComplete] at hPrefix
      cases background <;> exact hPrefix
    cases hBuffered : (reads.flatten ++ last).drop head with
    | nil =>
      have hExact : reads.flatten.length + last.length ≤ head := by
        rwa [List.drop_eq_nil_iff, List.length_append] at hBuffered
      refine ⟨Nat.le_antisymm hExact hComplete, ?_⟩
      cases background with
      | false => rfl
      | true =>
        have hOne := hFirst 0 1
        rw [hBuffered] at hOne
        exact absurd hOne (by decide)
    | cons kept rest =>
      -- the next byte need not be the one that the reader keeps
      obtain ⟨other, hOther⟩ := exists_other_byte kept
      have hNext := hFirst other other
      rw [hBuffered, ite_self, List.cons_append, List.cons_prefix_cons] at hNext
      exact absurd hNext.1 hOther
  · rintro ⟨hExact, rfl⟩ after ending conn hServe target openServiceTunnel isHijacker hijacks
      sends clientConn hBridged copied
    have hNone : (reads.flatten ++ last).drop head = [] := by
      rw [List.drop_eq_nil_iff, List.length_append]
      omega
    rw [serve, readRequest_of_complete hBefore hComplete, hNone] at hServe
    cases hServe
    rw [bridged_eq hBridged, payload_of_complete hComplete, hNone]
    exact List.take_prefix copied after.flatten

def requestHead : Str := ascii "CONNECT bob:80 HTTP/1.1\r\n\r\n"

/-- A client that waits for the answer before it sends anything else. -/
theorem connect_keeps_client_bytes_patient :
    serve requestHead.length false ⟨[requestHead, ascii "hello"], .stalled⟩ =
        some ⟨[], ⟨[ascii "hello"], .stalled⟩⟩ ∧
      (ascii "hello").take 3 <+: [requestHead, ascii "hello"].flatten.drop requestHead.length := by
  have hServe : serve requestHead.length false ⟨[] ++ requestHead :: [ascii "hello"], .stalled⟩ =
      some ⟨[], ⟨[ascii "hello"], .stalled⟩⟩ := by
    rw [serve, readRequest_of_complete (by decide) (by simp), List.flatten_nil, List.nil_append,
      List.drop_length]
    rfl
  refine ⟨hServe, ?_⟩
  exact (connect_keeps_client_bytes_iff requestHead.length [] requestHead false
    (by decide) (Nat.le_add_left _ _)).mpr ⟨Nat.zero_add _, rfl⟩ [ascii "hello"] .stalled _
    hServe (some (ascii "bob", 80)) (fun _ _ => true) true true true _ rfl 3

/-- A client that sends the first bytes for the tunnel together with its request. -/
theorem early_bytes_dropped :
    (serve requestHead.length false
        ⟨[requestHead ++ ascii "hello", ascii "world"], .stalled⟩).map (fun conn =>
      (handleHttpConnect (some (ascii "bob", 80)) (fun _ _ => true) true true true
        conn).bridged.map Stream.items) = some (some (ascii "world")) ∧
    ¬ ascii "world" <+: ascii "hello" ++ ascii "world" := by
  constructor
  · have hRead : readRequest requestHead.length
          ⟨[] ++ (requestHead ++ ascii "hello") :: [ascii "world"], .stalled⟩ = _ :=
      readRequest_of_complete (by decide) (by simp) _ _
    rw [List.nil_append] at hRead
    rw [serve, hRead]
    rfl
  · decide

end GatewaySshd.Proxy.Connect
