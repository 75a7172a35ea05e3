import GatewaySshd.Proxy.Socks

/-! # Replies of the SOCKS proxy

A request is answered by the parser, if it finds the command wanting, and else by
the handler once it knows whether there is a tunnel. Other exits of the parser
close the socket without an answer.
-/
namespace GatewaySshd.Proxy.Socks
set_option autoImplicit false

open Segments

/-- How the handler ends: with the socket as it closes it or hands it to the bridge. -/
structure Served where
  socket : Socket
  opened : Bool
  bridged : Bool

/-- The outcome of opening a tunnel to a host and a port is given. -/
def handleSocksConnection (ipString : Str → Str) (openServiceTunnel : Str → UInt16 → Bool)
    (socket : Socket) : Served :=
  match authenticate socket with
  | (.error _, socket) => ⟨socket, false, false⟩
  | (.ok _, socket) => match parseRequest ipString socket with
    | (.error _, socket) => ⟨socket, false, false⟩
    | (.ok (host, port), socket) =>
      if openServiceTunnel host port then
        match sendReply .succeeded socket with
        | (true, socket) => ⟨socket, true, true⟩
        | (false, socket) => ⟨socket, true, false⟩
      else ⟨(sendReply .hostUnreachable socket).2, false, false⟩

def Supported (addressType : UInt8) : Prop :=
  addressType = ipv4AddressType ∨ addressType = domainNameAddressType ∨
    addressType = ipv6AddressType

instance (addressType : UInt8) : Decidable (Supported addressType) :=
  inferInstanceAs (Decidable (_ ∨ _ ∨ _))

theorem Address.supported (address : Address) : Supported address.type := by
  cases address <;> simp [Supported, Address.type]

/-- What a client sends from its request on: all of a request with an address that
is known, or whatever follows an address type that is not. -/
inductive Complete : UInt8 → UInt8 → Str → Prop where
  | known (request : Request) (rest : Str) :
      Complete request.command request.address.type (request.encode ++ rest)
  | unknown (command reserved addressType : UInt8) (rest : Str)
      (hUnknown : ¬ Supported addressType) :
      Complete command addressType ([socksVersion, command, reserved, addressType] ++ rest)

/-- The reply that tells a client why there is no tunnel. -/
inductive Explains (command addressType : UInt8) (opened : Bool) : Reply → Prop where
  | command (hCommand : command ≠ connectCommand) :
      Explains command addressType opened .commandNotSupported
  | address (hAddress : ¬ Supported addressType) :
      Explains command addressType opened .addressTypeNotSupported
  | host (hCommand : command = connectCommand) (hAddress : Supported addressType)
      (hNone : opened = false) : Explains command addressType opened .hostUnreachable

/-- One reply after the negotiation, which says whether there is a tunnel. -/
def Answered (socket : Socket) (command addressType : UInt8) (served : Served) : Prop :=
  ∃ reply : Reply, served.socket.written =
      socket.written ++ [[socksVersion, noAuthRequired], reply.bytes] ∧
    (reply = .succeeded ↔ served.opened = true ∧ served.bridged = true) ∧
    (reply ≠ .succeeded → Explains command addressType served.opened reply)

theorem not_answered_of_written {socket : Socket} {served : Served}
    (h : served.socket.written = socket.written ++ [[socksVersion, noAuthRequired]])
    (command addressType : UInt8) : ¬ Answered socket command addressType served := by
  rintro ⟨reply, hWritten, _⟩
  rw [h, List.append_cancel_left_eq] at hWritten
  cases hWritten

/-- An exit that sends a reply answers the request exactly if the reply is sent. -/
theorem answered_iff_sent {socket : Socket} (negotiated : Socket) {command addressType : UInt8}
    (hNegotiated : negotiated.written = socket.written ++ [[socksVersion, noAuthRequired]])
    (reply : Reply) {opened bridged : Bool}
    (hTunnel : negotiated.accepts = true →
      (reply = .succeeded ↔ opened = true ∧ bridged = true) ∧
        (reply ≠ .succeeded → Explains command addressType opened reply)) :
    Answered socket command addressType ⟨(sendReply reply negotiated).2, opened, bridged⟩ ↔
      negotiated.accepts = true := by
  cases hAccepts : negotiated.accepts with
  | false =>
    refine iff_of_false ?_ nofun
    apply not_answered_of_written
    rw [sendReply, Socket.write_of_refuses hAccepts, hNegotiated]
  | true =>
    refine iff_of_true ⟨reply, ?_, hTunnel hAccepts⟩ rfl
    rw [sendReply, Socket.write_of_accepts _ hAccepts, hNegotiated, List.append_assoc]
    rfl

theorem parseRequest_unknown {socket : Socket} {command reserved addressType : UInt8} {rest : Str}
    (h : socket.stream.items = [socksVersion, command, reserved, addressType] ++ rest)
    (hUnknown : ¬ Supported addressType) (ipString : Str → Str) :
    ∃ stream : Stream UInt8,
      parseRequest ipString socket =
        (.error .unsupportedAddress, { socket with stream := stream }) := by
  obtain ⟨stream, _, hHeader⟩ := andThen_readFull (β := Str × UInt16) socket 4 _ h rfl
  simp only [Supported, not_or] at hUnknown
  obtain ⟨hIpv4, hDomain, hIpv6⟩ := hUnknown
  refine ⟨stream, ?_⟩
  rw [parseRequest, hHeader]
  simp only [List.getD_cons_zero, List.getD_cons_succ, ne_eq, not_true_eq_false, if_false]
  rw [readAddress, if_neg hDomain, if_neg hIpv4, if_neg hIpv6]
  rfl

/-- A request is answered once and truthfully exactly if its address type is known
and the reply can be written. -/
theorem every_request_answered_iff (ipString : Str → Str)
    (openServiceTunnel : Str → UInt16 → Bool) (socket : Socket) (greeting : Greeting)
    (command addressType : UInt8) (body : Str)
    (hItems : socket.stream.items = greeting.encode ++ body)
    (hMethod : noAuthRequired ∈ greeting.methods) (hAccepts : socket.accepts = true)
    (hComplete : Complete command addressType body) :
    Answered socket command addressType
        (handleSocksConnection ipString openServiceTunnel socket) ↔
      Supported addressType ∧ socket.sends.tail.headD true = true := by
  obtain ⟨negotiated, hAuthenticated, hBody, hSends, hWritten⟩ :=
    authenticate_of_greeting hItems hMethod hAccepts
  rw [handleSocksConnection, hAuthenticated, ← hSends]
  cases hComplete with
  | unknown command reserved addressType rest hUnknown =>
    obtain ⟨stream, hParsed⟩ := parseRequest_unknown hBody hUnknown ipString
    dsimp only
    rw [hParsed]
    refine iff_of_false ?_ fun h => hUnknown h.1
    exact not_answered_of_written hWritten _ _
  | known request rest =>
    have hKnown := request.address.supported
    obtain ⟨stream, _, hParsed⟩ := parseRequest_of_request hBody ipString
    dsimp only
    rw [hParsed, and_iff_right hKnown]
    by_cases hCommand : request.command = connectCommand
    · rw [if_neg (not_not.mpr hCommand)]
      dsimp only
      split
      · -- the tunnel is bridged once the reply has been sent
        have hServed : ∀ sent : Bool × Socket, (match sent with
            | (true, socket) => (⟨socket, true, true⟩ : Served)
            | (false, socket) => ⟨socket, true, false⟩) = ⟨sent.2, true, sent.1⟩ := by
          rintro ⟨_ | _, _⟩ <;> rfl
        rw [hServed]
        refine answered_iff_sent { negotiated with stream := stream } hWritten
          .succeeded fun hSent => ⟨?_, fun h => absurd rfl h⟩
        exact iff_of_true rfl ⟨rfl, hSent⟩
      · exact answered_iff_sent { negotiated with stream := stream } hWritten
          .hostUnreachable fun _ => ⟨by simp, fun _ => .host hCommand hKnown rfl⟩
    · rw [if_pos hCommand]
      exact answered_iff_sent { negotiated with stream := stream } hWritten
        .commandNotSupported fun _ => ⟨by simp, fun _ => .command hCommand⟩

/-- A client that sends everything at once, and goes on sending. -/
def eagerClient : Socket :=
  ⟨⟨[[5, 1, 0, 5, 1, 0, 3, 3, 98, 111, 98, 0, 80, 71, 69, 84]], .stalled⟩, [], []⟩

def requestForBob : Request :=
  ⟨connectCommand, 0, .domainName (ascii "bob") (by decide), 80⟩

theorem every_request_answered_eager :
    Answered eagerClient connectCommand domainNameAddressType
      (handleSocksConnection id (fun host port => host = ascii "bob" && port = 80)
        eagerClient) :=
  (every_request_answered_iff id (fun host port => host = ascii "bob" && port = 80) eagerClient
    ⟨[noAuthRequired], by decide⟩ connectCommand domainNameAddressType
    (requestForBob.encode ++ ascii "GET") (by decide) (by decide) rfl
    (.known requestForBob _)).mpr ⟨by decide, rfl⟩

/-- A client that offers no authentication, and then asks for an address of a type
that does not exist. -/
def strangeAddress : Socket := ⟨⟨[[5, 1, 0], [5, 1, 0, 2, 9, 9, 0, 80]], .stalled⟩, [], []⟩

theorem strange_address_unanswered :
    strangeAddress.stream.items = (⟨[noAuthRequired], by decide⟩ : Greeting).encode ++
        ([socksVersion, connectCommand, 0, 2] ++ [9, 9, 0, 80]) ∧
    (handleSocksConnection id (fun _ _ => true) strangeAddress).socket.written =
      [[socksVersion, noAuthRequired]] ∧
    (handleSocksConnection id (fun _ _ => true) strangeAddress).bridged = false ∧
    ¬ Answered strangeAddress connectCommand 2
      (handleSocksConnection id (fun _ _ => true) strangeAddress) :=
  ⟨rfl, rfl, rfl, not_answered_of_written rfl connectCommand 2⟩

end GatewaySshd.Proxy.Socks
