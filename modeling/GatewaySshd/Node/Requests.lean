import GatewaySshd.Node.Connection
import GatewaySshd.Ssh.Wire
import GatewaySshd.Lib.Runs
import Mathlib.Data.List.Enum

/-! # Global requests on a connection

The loop of a connection handles its requests one after the other. A client
matches the replies to its requests by their order alone. An error of the handler
ends the loop, which closes the connection.
-/
namespace GatewaySshd.Node
set_option autoImplicit false

open Ssh Runs

structure ForwardRequest where
  host : Str
  port : UInt32
deriving DecidableEq

inductive RequestError where
  | malformed
  | invalidForwardRequest
  | outOfRange (port : UInt32)
  | serviceAlreadyRegistered
  -- the reply could not be sent
  | reply
deriving DecidableEq

/-- The payload as a client encodes it. -/
def marshalForwardRequest (request : ForwardRequest) : Str :=
  stringBytes request.host ++ (uint32Bytes request.port ++ [])

def parseForwardRequest (payload : Str) : Option ForwardRequest :=
  (parseString payload).bind fun (host, rest) =>
  (parseUint32 rest).bind fun (port, rest) =>
    if rest = [] then some ⟨host, port⟩ else none

def unmarshalForwardRequest (payload : Str) : Except RequestError ForwardRequest :=
  match parseForwardRequest payload with
  | none => .error .malformed
  | some request => if 65535 < request.port then .error .invalidForwardRequest else .ok request

theorem parse_marshalForward {request : ForwardRequest}
    (hLength : request.host.length + 4 < 4294967296) :
    parseForwardRequest (marshalForwardRequest request) = some request := by
  have hHost : parseString (marshalForwardRequest request) =
      some (request.host, uint32Bytes request.port ++ []) := by
    apply parseString_append
    rwa [List.length_append, length_uint32Bytes]
  refine Option.bind_eq_some_iff.mpr ⟨_, hHost, ?_⟩
  exact Option.bind_eq_some_iff.mpr ⟨_, parseUint32_append _ _, if_pos rfl⟩

theorem unmarshal_marshalForward {host : Str} {port : UInt32}
    (hLength : host.length + 4 < 4294967296) (hPort : port ≤ 65535) :
    unmarshalForwardRequest (marshalForwardRequest ⟨host, port⟩) = .ok ⟨host, port⟩ := by
  rw [unmarshalForwardRequest, parse_marshalForward hLength]
  exact if_neg (UInt32.not_lt.mpr hPort)

theorem small_of_unmarshalForward {payload : Str} {request : ForwardRequest}
    (h : unmarshalForwardRequest payload = .ok request) : ¬ 65535 < request.port := by
  rw [unmarshalForwardRequest] at h
  split at h
  · cases h
  · split at h
    · cases h
    · rename_i hSmall
      cases h
      exact hSmall

/-- The port follows the host in the payload, whose length counts in 32 bits. -/
theorem length_of_unmarshalForward {payload : Str} {request : ForwardRequest}
    (h : unmarshalForwardRequest payload = .ok request) : request.host.length + 4 < 4294967296 := by
  rw [unmarshalForwardRequest] at h
  split at h
  · cases h
  · rename_i parsed hParsed
    split at h
    · cases h
    · cases h
      obtain ⟨⟨host, rest⟩, hHost, hPort⟩ := Option.bind_eq_some_iff.mp hParsed
      obtain ⟨⟨port, left⟩, hRest, hLeft⟩ := Option.bind_eq_some_iff.mp hPort
      dsimp only at hLeft
      split at hLeft
      · rename_i hEnd
        cases hLeft
        have hFour := length_of_parseUint32 hRest
        rw [hEnd, List.length_nil, Nat.zero_add] at hFour
        have hTotal := length_of_parseString hHost
        rw [hFour] at hTotal
        exact hTotal (by decide) (by decide)
      · cases hLeft

inductive RequestType where
  | tcpipForward
  | cancelTcpipForward
  | other (name : Str)
deriving DecidableEq

structure GlobalRequest where
  requestType : RequestType
  wantReply : Bool
  payload : Str
deriving DecidableEq

/-- What the handler leaves behind: the connection, the reply that it sent and the
error that it returns. -/
structure Handled where
  connection : Connection
  reply : Option Bool
  error : Option RequestError

def Handled.failed (connection : Connection) (error : RequestError) : Handled :=
  ⟨connection, none, some error⟩

/-- The end of the handler, which replies if the client asked for it. -/
def Handled.done (connection : Connection) (ok : Bool) (request : GlobalRequest) (sends : Bool) :
    Handled :=
  if !request.wantReply then ⟨connection, none, none⟩
  else if sends then ⟨connection, some ok, none⟩
  else .failed connection .reply

def handleRequest (connection : Connection) (request : GlobalRequest) (sends : Bool) : Handled :=
  match request.requestType with
  | .tcpipForward =>
    match unmarshalForwardRequest request.payload with
    | .error error => .failed connection error
    | .ok forward =>
      -- what is returned here is the error of the decoding, of which there was none
      if forward.port = 0 then ⟨connection, none, none⟩
      else if 65535 < forward.port then .failed connection (.outOfRange forward.port)
      else match connection.registerService forward.host forward.port.toUInt16 with
        | .error _ => .failed connection .serviceAlreadyRegistered
        | .ok registered => .done registered true request sends
  | .cancelTcpipForward =>
    match unmarshalForwardRequest request.payload with
    | .error error => .failed connection error
    | .ok forward =>
      if 65535 < forward.port then .failed connection (.outOfRange forward.port)
      else
        .done (connection.deregisterService forward.host forward.port.toUInt16) true request sends
  | .other _ => .done connection false request sends

/-- The request that the handler drops without an error. -/
def GlobalRequest.forwardsPortZero (request : GlobalRequest) : Bool :=
  match request.requestType, unmarshalForwardRequest request.payload with
  | .tcpipForward, .ok forward => forward.port == 0
  | _, _ => false

theorem reply_done (connection : Connection) (ok : Bool) (request : GlobalRequest) (sends : Bool) :
    (Handled.done connection ok request sends).reply.isSome =
      (request.wantReply && (Handled.done connection ok request sends).error.isNone) := by
  unfold Handled.done
  cases request.wantReply <;> cases sends <;> rfl

/-- A reply is sent exactly for a request that asked for one, was handled without
an error and is not the one that is dropped. -/
theorem reply_handleRequest (connection : Connection) (request : GlobalRequest) (sends : Bool) :
    (handleRequest connection request sends).reply.isSome =
      (request.wantReply && (handleRequest connection request sends).error.isNone &&
        !request.forwardsPortZero) := by
  unfold handleRequest GlobalRequest.forwardsPortZero
  cases hType : request.requestType with
  | tcpipForward =>
    cases hForward : unmarshalForwardRequest request.payload with
    | error error => simp [Handled.failed]
    | ok forward =>
      by_cases hZero : forward.port = 0
      · simp [hZero]
      · dsimp only
        rw [if_neg hZero]
        have hKept : (!forward.port == 0) = true := by simpa using hZero
        rw [hKept, Bool.and_true]
        split
        · simp [Handled.failed]
        · split
          · simp [Handled.failed]
          · exact reply_done _ _ _ _
  | cancelTcpipForward =>
    cases hForward : unmarshalForwardRequest request.payload with
    | error error => simp [Handled.failed]
    | ok forward =>
      dsimp only
      rw [Bool.not_false, Bool.and_true]
      split
      · simp [Handled.failed]
      · exact reply_done _ _ _ _
  | other name =>
    dsimp only
    rw [Bool.not_false, Bool.and_true]
    exact reply_done _ _ _ _

theorem handleRequest_portZero {connection : Connection} {request : GlobalRequest} {sends : Bool}
    (h : request.forwardsPortZero = true) :
    handleRequest connection request sends = ⟨connection, none, none⟩ := by
  unfold GlobalRequest.forwardsPortZero at h
  split at h
  · rename_i forward hType hForward
    simp only [handleRequest, hType, hForward]
    exact if_pos (by simpa using h)
  · cases h

theorem connection_done (connection : Connection) (ok : Bool) (request : GlobalRequest)
    (sends : Bool) : (Handled.done connection ok request sends).connection = connection := by
  unfold Handled.done
  split
  · rfl
  · split <;> rfl

/-- What a request can do to its connection. -/
inductive Serves (connection : Connection) (request : GlobalRequest) : Connection → Prop where
  | stays : Serves connection request connection
  | registers {forward : ForwardRequest} {registered : Connection}
      (hType : request.requestType = .tcpipForward)
      (hForward : unmarshalForwardRequest request.payload = .ok forward)
      (hZero : forward.port ≠ 0) (hSmall : ¬ 65535 < forward.port)
      (hRegistered :
        connection.registerService forward.host forward.port.toUInt16 = .ok registered) :
      Serves connection request registered
  | deregisters {forward : ForwardRequest} (hType : request.requestType = .cancelTcpipForward)
      (hForward : unmarshalForwardRequest request.payload = .ok forward) :
      Serves connection request
        (connection.deregisterService forward.host forward.port.toUInt16)

theorem handleRequest_serves (connection : Connection) (request : GlobalRequest) (sends : Bool) :
    Serves connection request (handleRequest connection request sends).connection := by
  unfold handleRequest
  split
  · rename_i hType
    split
    · exact .stays
    · rename_i forward hForward
      split
      · exact .stays
      · rename_i hZero
        split
        · exact .stays
        · rename_i hSmall
          split
          · exact .stays
          · rename_i registered hRegistered
            rw [connection_done]
            exact .registers hType hForward hZero hSmall hRegistered
  · rename_i hType
    split
    · exact .stays
    · rename_i forward hForward
      split
      · exact .stays
      · rw [connection_done]
        exact .deregisters hType hForward
  · rw [connection_done]
    exact .stays

theorem handleRequest_registers {connection registered : Connection} {request : GlobalRequest}
    {forward : ForwardRequest} (sends : Bool) (hType : request.requestType = .tcpipForward)
    (hForward : unmarshalForwardRequest request.payload = .ok forward) (hZero : forward.port ≠ 0)
    (hSmall : ¬ 65535 < forward.port)
    (hRegistered : connection.registerService forward.host forward.port.toUInt16 = .ok registered) :
    (handleRequest connection request sends).connection = registered := by
  rw [handleRequest, hType, hForward]
  dsimp only
  rw [if_neg hZero, if_neg hSmall, hRegistered]
  exact connection_done registered true request sends

/-- Only the services of a connection change. -/
theorem Serves.identity {connection changed : Connection} {request : GlobalRequest}
    (h : Serves connection request changed) :
    changed = { connection with services := changed.services } := by
  cases h with
  | stays => rfl
  | registers _ _ _ _ hRegistered =>
    rw [Connection.registerService] at hRegistered
    split at hRegistered
    · cases hRegistered
    · cases hRegistered
      rfl
  | deregisters _ _ =>
    unfold Connection.deregisterService
    split <;> rfl

/-- The loop with what it has handled so far, each request with the error of its
handler, and the replies it sent, each with the number of its request. -/
structure RequestLoop where
  connection : Connection
  handled : List (GlobalRequest × Option RequestError)
  replies : List (Nat × Bool)
  running : Bool

namespace RequestLoop

inductive Action where
  | request (request : GlobalRequest) (sends : Bool)
  | channel (fails : Bool)
  -- the connection is closed from this side, or the client is gone
  | stop

def start (connection : Connection) : RequestLoop := ⟨connection, [], [], true⟩

def handle (s : RequestLoop) (request : GlobalRequest) (sends : Bool) : RequestLoop :=
  let result := handleRequest s.connection request sends
  { connection := result.connection
    handled := s.handled ++ [(request, result.error)]
    replies := s.replies ++ (result.reply.map fun ok => (s.handled.length, ok)).toList
    running := result.error.isNone }

def step (s : RequestLoop) : Action → Option RequestLoop
  | .request request sends => if s.running then some (s.handle request sends) else none
  | .channel fails => if s.running then some { s with running := !fails } else none
  | .stop => if s.running then some { s with running := false } else none

/-- The numbers of the requests that are to be replied to: those that ask for it
and did not end the loop. -/
def expected (handled : List (GlobalRequest × Option RequestError)) : List Nat :=
  (handled.zipIdx.filter fun entry => entry.1.1.wantReply && entry.1.2.isNone).map Prod.snd

/-- Replies come in the order of the requests, one for each that asks for it, and
a request whose handling failed was the last. -/
structure Answered (s : RequestLoop) : Prop where
  inOrder : s.replies.map Prod.fst = expected s.handled
  ends : ∀ entry ∈ s.handled, entry.2.isSome = true → s.running = false

/-- No client asks for the port zero and for a reply. -/
def NoPortZero (_ : RequestLoop) : Action → Prop
  | .request request _ => request.wantReply = true → request.forwardsPortZero = false
  | _ => True

/-- No more replies than were asked for, and none after an error. -/
structure Sparse (s : RequestLoop) : Prop where
  fewer : (s.replies.map Prod.fst).length ≤ (expected s.handled).length
  ends : ∀ entry ∈ s.handled, entry.2.isSome = true → s.running = false

theorem expected_append (handled : List (GlobalRequest × Option RequestError))
    (request : GlobalRequest) (error : Option RequestError) :
    expected (handled ++ [(request, error)]) =
      expected handled ++ if request.wantReply && error.isNone then [handled.length] else [] := by
  simp only [expected, List.zipIdx_append, List.zipIdx_singleton, List.filter_append,
    List.map_append, Nat.zero_add]
  split <;> simp_all

theorem replies_handle (s : RequestLoop) (request : GlobalRequest) (sends : Bool) :
    (s.handle request sends).replies.map Prod.fst = s.replies.map Prod.fst ++
      if (handleRequest s.connection request sends).reply.isSome then [s.handled.length]
      else [] := by
  simp only [handle, List.map_append]
  cases (handleRequest s.connection request sends).reply <;> simp

theorem ends_handle {s : RequestLoop} (hRunning : s.running = true)
    (h : ∀ entry ∈ s.handled, entry.2.isSome = true → s.running = false) (request : GlobalRequest)
    (sends : Bool) : ∀ entry ∈ (s.handle request sends).handled, entry.2.isSome = true →
      (s.handle request sends).running = false := by
  intro entry hEntry hError
  rcases List.mem_append.mp hEntry with hOld | hNew
  · rw [h entry hOld hError] at hRunning
    cases hRunning
  · cases List.mem_singleton.mp hNew
    simpa [handle] using hError

theorem answered_iff {s : RequestLoop}
    (hEnds : ∀ entry ∈ s.handled, entry.2.isSome = true → s.running = false) :
    s.Answered ↔ s.replies.map Prod.fst = expected s.handled :=
  ⟨fun h => h.inOrder, fun hInOrder => ⟨hInOrder, hEnds⟩⟩

/-- A dropped request is handled without an error, so a reply to it was owed. -/
theorem noPortZero_iff (s : RequestLoop) (request : GlobalRequest) (sends : Bool) :
    NoPortZero s (.request request sends) ↔
      ((request.wantReply && (handleRequest s.connection request sends).error.isNone) = true →
        request.forwardsPortZero = false) := by
  cases hZero : request.forwardsPortZero with
  | false => simp [NoPortZero, hZero]
  | true => simp [NoPortZero, hZero, handleRequest_portZero hZero]

theorem length_append_owed {sent asked : List Nat} (h : sent.length ≤ asked.length)
    (owed dropped : Bool) (number : Nat) :
    (sent ++ if owed && !dropped then [number] else []).length ≤
      (asked ++ if owed then [number] else []).length := by
  rw [List.length_append, List.length_append]
  refine Nat.add_le_add h ?_
  cases owed <;> cases dropped <;> simp

/-- Once a reply is missing, the later ones do not make up for it. -/
theorem append_owed_iff {sent asked : List Nat} (h : sent.length ≤ asked.length)
    (owed dropped : Bool) (number : Nat) :
    (sent ++ if owed && !dropped then [number] else []) =
        (asked ++ if owed then [number] else []) ↔
      sent = asked ∧ (owed = true → dropped = false) := by
  cases owed with
  | false => simp
  | true =>
    cases dropped with
    | false => simp
    | true =>
      refine iff_of_false ?_ (by simp)
      intro hSame
      have hLength := congrArg List.length hSame
      simp only [Bool.not_true, Bool.and_false, Bool.false_eq_true, if_false, if_true,
        List.append_nil, List.length_append, List.length_singleton] at hLength
      omega

theorem answered_handle_iff {s : RequestLoop} (hRunning : s.running = true) (h : s.Sparse)
    (request : GlobalRequest) (sends : Bool) :
    (s.handle request sends).Sparse ∧
      ((s.handle request sends).Answered ↔ s.Answered ∧ NoPortZero s (.request request sends)) := by
  have hEnds := ends_handle hRunning h.ends request sends
  have hReplies := replies_handle s request sends
  have hExpected : expected (s.handle request sends).handled = _ :=
    expected_append s.handled request _
  rw [reply_handleRequest] at hReplies
  refine ⟨⟨?_, hEnds⟩, ?_⟩
  · rw [hReplies, hExpected]
    exact length_append_owed h.fewer _ _ _
  · rw [answered_iff hEnds, answered_iff h.ends, noPortZero_iff, hReplies, hExpected]
    exact append_owed_iff h.fewer _ _ _

theorem step_answered_iff {s next : RequestLoop} {action : Action} (h : s.Sparse)
    (hStep : step s action = some next) :
    next.Sparse ∧ (next.Answered ↔ s.Answered ∧ NoPortZero s action) := by
  cases action with
  | request request sends =>
    rw [step] at hStep
    split at hStep
    · rename_i hRunning
      cases hStep
      exact answered_handle_iff hRunning h request sends
    · cases hStep
  | channel fails =>
    rw [step] at hStep
    split at hStep
    · rename_i hRunning
      cases hStep
      have hClean : ∀ entry ∈ s.handled, entry.2.isSome = true → (!fails) = false := by
        intro entry hEntry hError
        rw [h.ends entry hEntry hError] at hRunning
        cases hRunning
      exact ⟨⟨h.fewer, hClean⟩, fun hNext => ⟨⟨hNext.inOrder, h.ends⟩, trivial⟩,
        fun hBefore => ⟨hBefore.1.inOrder, hClean⟩⟩
    · cases hStep
  | stop =>
    rw [step] at hStep
    split at hStep
    · cases hStep
      exact ⟨⟨h.fewer, fun _ _ _ => rfl⟩, fun hNext => ⟨⟨hNext.inOrder, h.ends⟩, trivial⟩,
        fun hBefore => ⟨hBefore.1.inOrder, fun _ _ _ => rfl⟩⟩
    · cases hStep

theorem answered_start (connection : Connection) : (start connection).Answered :=
  ⟨rfl, nofun⟩

/-- Every request that asks for a reply gets exactly one, in order, or ends the
connection, exactly in the runs in which no client asks to forward the port zero
and wants a reply: that request is dropped and the loop goes on. -/
theorem requests_answered_iff (connection : Connection) (actions : List Action)
    (final : RequestLoop) (hRun : run step (start connection) actions = some final) :
    final.Answered ↔ Along step NoPortZero (start connection) actions := by
  have hStep : ∀ s a next, Sparse s → step s a = some next →
      next.Sparse ∧ (next.Answered ↔ s.Answered ∧ NoPortZero s a) :=
    fun _ _ _ h hNext => step_answered_iff h hNext
  rw [run_iff_along hStep hRun ⟨Nat.le_refl _, nofun⟩]
  exact and_iff_right (answered_start connection)

def forwards (port : UInt32) (wantReply : Bool) : GlobalRequest :=
  ⟨.tcpipForward, wantReply, marshalForwardRequest ⟨ascii "web", port⟩⟩

def alice : Connection := ⟨ascii "alice", [], true, false, fun _ => none⟩

def answeredRun : List Action :=
  [.request (forwards 80 true) true, .channel false, .request (forwards 0 false) true,
    .request ⟨.other (ascii "keepalive"), true, []⟩ true, .request (forwards 80 true) true]

theorem answeredRun_isSome : (run step (start alice) answeredRun).isSome = true := by decide

/-- The last request registers the same service again, which ends the connection. -/
theorem requests_answered_alice :
    ((run step (start alice) answeredRun).get answeredRun_isSome).replies =
      [(0, true), (2, false)] ∧
    ((run step (start alice) answeredRun).get answeredRun_isSome).running = false ∧
    ((run step (start alice) answeredRun).get answeredRun_isSome).Answered := by
  refine ⟨by decide, by decide, (requests_answered_iff alice answeredRun _
    (Option.some_get _).symm).mpr ?_⟩
  refine .cons (fun _ => by decide) rfl (.cons trivial rfl (.cons nofun rfl ?_))
  exact .cons (fun _ => by decide) rfl (.cons (fun _ => by decide) rfl trivial)

def droppedRun : List Action :=
  [.request (forwards 0 true) true, .request ⟨.other (ascii "keepalive"), true, []⟩ true]

theorem droppedRun_isSome : (run step (start alice) droppedRun).isSome = true := by decide

/-- The only reply belongs to the second request, and the client takes it for the
reply to the first. -/
theorem port_zero_not_answered :
    ((run step (start alice) droppedRun).get droppedRun_isSome).running = true ∧
    ((run step (start alice) droppedRun).get droppedRun_isSome).replies = [(1, false)] ∧
    ¬ ((run step (start alice) droppedRun).get droppedRun_isSome).Answered := by
  refine ⟨by decide, by decide, ?_⟩
  rintro ⟨hInOrder, _⟩
  revert hInOrder
  decide

end RequestLoop

end GatewaySshd.Node
