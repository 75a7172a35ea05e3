import GatewaySshd.Lib.Segments
import GatewaySshd.Text

/-! # The SOCKS proxy

A client negotiates a method and sends one request; what it sends after that
belongs to the tunnel. The server reads both from the socket itself, and replies
on some of its exits.
-/
namespace GatewaySshd.Proxy.Socks
set_option autoImplicit false

open Segments

def socksVersion : UInt8 := 5
def noAuthRequired : UInt8 := 0
def noAcceptableMethod : UInt8 := 255
def connectCommand : UInt8 := 1
def ipv4AddressType : UInt8 := 1
def domainNameAddressType : UInt8 := 3
def ipv6AddressType : UInt8 := 4

inductive Reply where
  | succeeded
  | serverFailure
  | notAllowed
  | networkUnreachable
  | hostUnreachable
  | connectionRefused
  | ttlExpired
  | commandNotSupported
  | addressTypeNotSupported
deriving DecidableEq

def Reply.code : Reply → UInt8
  | .succeeded => 0
  | .serverFailure => 1
  | .notAllowed => 2
  | .networkUnreachable => 3
  | .hostUnreachable => 4
  | .connectionRefused => 5
  | .ttlExpired => 6
  | .commandNotSupported => 7
  | .addressTypeNotSupported => 8

def Reply.bytes (reply : Reply) : Str :=
  [socksVersion, reply.code, 0, ipv4AddressType, 0, 0, 0, 0, 0, 0]

inductive SocksError where
  | read (error : ReadError)
  | write
  | unsupportedVersion
  | unsupportedAuth
  | unsupportedAddress
  | unsupportedCommand
deriving DecidableEq

/-- The connection to a client, with the writes that have been made to it. -/
structure Socket where
  stream : Stream UInt8
  -- whether the next writes succeed; those beyond the list do
  sends : List Bool
  written : List Str

def Socket.readFull (count : Nat) (socket : Socket) : Except SocksError Str × Socket :=
  ((socket.stream.readFull count).1.mapError .read,
    { socket with stream := (socket.stream.readFull count).2 })

def Socket.accepts (socket : Socket) : Bool := socket.sends.headD true

def Socket.write (bytes : Str) (socket : Socket) : Bool × Socket :=
  (socket.accepts,
    { socket with
      sends := socket.sends.tail
      written := if socket.accepts then socket.written ++ [bytes] else socket.written })

/-- Goes on after a call that has succeeded, and else returns its error. -/
def andThen {α β : Type} (result : Except SocksError α × Socket)
    (next : α → Socket → Except SocksError β × Socket) : Except SocksError β × Socket :=
  match result with
  | (.error error, socket) => (.error error, socket)
  | (.ok value, socket) => next value socket

def authenticate (socket : Socket) : Except SocksError Unit × Socket :=
  andThen (socket.readFull 2) fun header socket =>
  if header.getD 0 0 ≠ socksVersion then (.error .unsupportedVersion, socket)
  else
    andThen (socket.readFull (header.getD 1 0).toNat) fun methods socket =>
    if noAuthRequired ∈ methods then
      match socket.write [socksVersion, noAuthRequired] with
      | (true, socket) => (.ok (), socket)
      | (false, socket) => (.error .write, socket)
    else (.error .unsupportedAuth, (socket.write [socksVersion, noAcceptableMethod]).2)

def sendReply (reply : Reply) (socket : Socket) : Bool × Socket := socket.write reply.bytes

/-- The address of a request, in the text form that is looked up. The text of an ip
address is left to the library. -/
def readAddress (ipString : Str → Str) (addressType : UInt8) (socket : Socket) :
    Except SocksError Str × Socket :=
  if addressType = domainNameAddressType then
    andThen (socket.readFull 1) fun length socket => socket.readFull (length.getD 0 0).toNat
  else if addressType = ipv4AddressType then
    andThen (socket.readFull 4) fun bytes socket => (.ok (ipString bytes), socket)
  else if addressType = ipv6AddressType then
    andThen (socket.readFull 16) fun bytes socket => (.ok (ipString bytes), socket)
  else (.error .unsupportedAddress, socket)

def joinPort (high low : UInt8) : UInt16 := high.toUInt16 <<< 8 ||| low.toUInt16

def parseRequest (ipString : Str → Str) (socket : Socket) :
    Except SocksError (Str × UInt16) × Socket :=
  andThen (socket.readFull 4) fun header socket =>
  if header.getD 0 0 ≠ socksVersion then (.error .unsupportedVersion, socket)
  else
    andThen (readAddress ipString (header.getD 3 0) socket) fun address socket =>
    andThen (socket.readFull 2) fun port socket =>
    if header.getD 1 0 ≠ connectCommand then
      (.error .unsupportedCommand, (sendReply .commandNotSupported socket).2)
    else (.ok (address, joinPort (port.getD 0 0) (port.getD 1 0)), socket)

def negotiate (ipString : Str → Str) (socket : Socket) :
    Except SocksError (Str × UInt16) × Socket :=
  andThen (authenticate socket) fun _ socket => parseRequest ipString socket

/-- A greeting that announces methods. -/
structure Greeting where
  methods : Str
  isShort : methods.length < 256

def Greeting.encode (greeting : Greeting) : Str :=
  socksVersion :: UInt8.ofNat greeting.methods.length :: greeting.methods

inductive Address where
  | ipv4 (bytes : Str) (isFour : bytes.length = 4)
  | domainName (name : Str) (isShort : name.length < 256)
  | ipv6 (bytes : Str) (isSixteen : bytes.length = 16)

def Address.encode : Address → Str
  | .ipv4 bytes _ => ipv4AddressType :: bytes
  | .domainName name _ => domainNameAddressType :: UInt8.ofNat name.length :: name
  | .ipv6 bytes _ => ipv6AddressType :: bytes

def Address.host (ipString : Str → Str) : Address → Str
  | .ipv4 bytes _ => ipString bytes
  | .domainName name _ => name
  | .ipv6 bytes _ => ipString bytes

def portBytes (port : UInt16) : Str := [(port >>> 8).toUInt8, port.toUInt8]

structure Request where
  command : UInt8
  reserved : UInt8
  address : Address
  port : UInt16

def Request.encode (request : Request) : Str :=
  [socksVersion, request.command, request.reserved] ++
    (request.address.encode ++ portBytes request.port)

theorem eight_mod : (8 : UInt16).toNat % 16 = 8 := rfl

theorem toNat_joinPort (high low : UInt8) :
    (joinPort high low).toNat = high.toNat * 256 + low.toNat := by
  have hHigh := high.toNat_lt
  have hOr := (Nat.shiftLeft_add_eq_or_of_lt low.toNat_lt high.toNat).symm
  rw [Nat.shiftLeft_eq] at hOr
  have hShift : (high.toUInt16 <<< 8).toNat = high.toNat * 2 ^ 8 := by
    rw [UInt16.toNat_shiftLeft, UInt8.toNat_toUInt16, Nat.shiftLeft_eq, eight_mod]
    omega
  rw [joinPort, UInt16.toNat_or, hShift, UInt8.toNat_toUInt16, hOr]

theorem joinPort_portBytes (port : UInt16) :
    joinPort (port >>> 8).toUInt8 port.toUInt8 = port := by
  have hPort := port.toNat_lt
  rw [← UInt16.toNat_inj, toNat_joinPort, UInt16.toNat_toUInt8, UInt16.toNat_toUInt8,
    UInt16.toNat_shiftRight, Nat.shiftRight_eq_div_pow, eight_mod]
  omega

theorem portBytes_joinPort (high low : UInt8) : portBytes (joinPort high low) = [high, low] := by
  have hHigh := high.toNat_lt
  have hLow := low.toNat_lt
  have hFirst : (joinPort high low >>> 8).toUInt8 = high := by
    rw [← UInt8.toNat_inj, UInt16.toNat_toUInt8, UInt16.toNat_shiftRight, toNat_joinPort,
      Nat.shiftRight_eq_div_pow, eight_mod]
    omega
  have hSecond : (joinPort high low).toUInt8 = low := by
    rw [← UInt8.toNat_inj, UInt16.toNat_toUInt8, toNat_joinPort]
    omega
  rw [portBytes, hFirst, hSecond]

section Reading

variable {socket left : Socket} {back : Str}

theorem andThen_eq_ok {α β : Type} {result : Except SocksError α × Socket}
    {next : α → Socket → Except SocksError β × Socket} {value : β} {final : Socket} :
    andThen result next = (.ok value, final) ↔
      ∃ first middle, result = (.ok first, middle) ∧ next first middle = (.ok value, final) := by
  obtain ⟨_ | first, middle⟩ := result
  · simp [andThen]
  · simp [andThen]

/-- A read of what stands at the front of the stream succeeds, and leaves the rest. -/
theorem Socket.readFull_of_append (socket : Socket) (count : Nat) (front : Str)
    (h : socket.stream.items = front ++ back) (hCount : front.length = count) :
    ∃ stream : Stream UInt8, stream.items = back ∧
      socket.readFull count = (.ok front, { socket with stream := stream }) := by
  obtain ⟨stream, hRead, hItems, _⟩ := Segments.readFull_of_append h hCount
  refine ⟨stream, hItems, ?_⟩
  rw [Socket.readFull, hRead]
  rfl

theorem andThen_readFull {β : Type} (socket : Socket) (count : Nat) (front : Str)
    (h : socket.stream.items = front ++ back) (hCount : front.length = count) :
    ∃ stream : Stream UInt8, stream.items = back ∧
      ∀ next : Str → Socket → Except SocksError β × Socket,
        andThen (socket.readFull count) next = next front { socket with stream := stream } := by
  obtain ⟨stream, hItems, hRead⟩ := socket.readFull_of_append count front h hCount
  refine ⟨stream, hItems, fun next => ?_⟩
  rw [hRead]
  rfl

theorem Socket.append_of_readFull {count : Nat} {front : Str}
    (h : socket.readFull count = (.ok front, left)) :
    socket.stream.items = front ++ left.stream.items ∧ front.length = count ∧
      left = { socket with stream := left.stream } := by
  obtain ⟨hResult, hLeft⟩ := Prod.mk.inj h
  cases hRead : socket.stream.readFull count with
  | mk result stream =>
    rw [hRead] at hResult hLeft
    cases result with
    | error error => cases hResult
    | ok read =>
      cases hResult
      cases hLeft
      obtain ⟨hItems, hLength⟩ := Segments.append_of_readFull hRead
      exact ⟨hItems, hLength, rfl⟩

end Reading

theorem Socket.write_of_accepts (socket : Socket) (h : socket.accepts = true) (bytes : Str) :
    socket.write bytes =
      (true, ⟨socket.stream, socket.sends.tail, socket.written ++ [bytes]⟩) := by
  rw [Socket.write, h, if_pos rfl]

theorem Socket.write_of_refuses {socket : Socket} (h : socket.accepts = false) (bytes : Str) :
    socket.write bytes = (false, ⟨socket.stream, socket.sends.tail, socket.written⟩) := by
  rw [Socket.write, h, if_neg nofun]

theorem ofNat_toNat_length {bytes : Str} {length : UInt8} (h : bytes.length = length.toNat) :
    UInt8.ofNat bytes.length = length := by
  rw [h, UInt8.ofNat_toNat]

theorem toNat_ofNat_length {bytes : Str} (h : bytes.length < 256) :
    (UInt8.ofNat bytes.length).toNat = bytes.length := by
  rw [UInt8.toNat_ofNat']
  omega

/-- The negotiation succeeds on a greeting that announces the method, if the answer
can be written. -/
theorem authenticate_of_greeting {socket : Socket} {greeting : Greeting} {rest : Str}
    (h : socket.stream.items = greeting.encode ++ rest)
    (hMethod : noAuthRequired ∈ greeting.methods) (hSends : socket.accepts = true) :
    ∃ negotiated : Socket, authenticate socket = (.ok (), negotiated) ∧
      negotiated.stream.items = rest ∧ negotiated.sends = socket.sends.tail ∧
      negotiated.written = socket.written ++ [[socksVersion, noAuthRequired]] := by
  obtain ⟨first, hFirst, hHeader⟩ := andThen_readFull (β := Unit) socket 2
    [socksVersion, UInt8.ofNat greeting.methods.length] h rfl
  obtain ⟨second, hSecond, hMethods⟩ := andThen_readFull (β := Unit)
    { socket with stream := first } _ _ hFirst (toNat_ofNat_length greeting.isShort).symm
  refine ⟨⟨second, socket.sends.tail, socket.written ++ [[socksVersion, noAuthRequired]]⟩, ?_,
    hSecond, rfl, rfl⟩
  rw [authenticate, hHeader]
  simp only [List.getD_cons_zero, List.getD_cons_succ, ne_eq, not_true_eq_false, if_false]
  rw [hMethods, if_pos hMethod]
  rw [Socket.write_of_accepts { socket with stream := second } hSends]

theorem greeting_of_authenticate {socket left : Socket}
    (h : authenticate socket = (.ok (), left)) :
    ∃ greeting : Greeting, socket.stream.items = greeting.encode ++ left.stream.items ∧
      noAuthRequired ∈ greeting.methods ∧ socket.accepts = true ∧
      left.sends = socket.sends.tail ∧
      left.written = socket.written ++ [[socksVersion, noAuthRequired]] := by
  obtain ⟨header, first, hHeader, h⟩ := andThen_eq_ok.mp h
  obtain ⟨hItems, hTwo, hFirst⟩ := Socket.append_of_readFull hHeader
  obtain ⟨version, length, rfl⟩ := List.length_eq_two.mp hTwo
  split at h
  · cases h
  · rename_i hVersion
    rw [not_not] at hVersion
    obtain ⟨methods, second, hMethods, h⟩ := andThen_eq_ok.mp h
    obtain ⟨hRest, hLength, hSecond⟩ := Socket.append_of_readFull hMethods
    split at h
    · rename_i hMethod
      have hShort : methods.length < 256 := by
        rw [hLength]
        exact length.toNat_lt
      have hAccepts : second.accepts = socket.accepts := by
        rw [hSecond, hFirst]
        rfl
      cases hSends : socket.accepts with
      | false =>
        rw [Socket.write_of_refuses (hAccepts.trans hSends)] at h
        cases h
      | true =>
        rw [Socket.write_of_accepts _ (hAccepts.trans hSends)] at h
        cases h
        refine ⟨⟨methods, hShort⟩, ?_, hMethod, rfl, ?_, ?_⟩
        · rw [hItems, hRest, Greeting.encode, ofNat_toNat_length hLength]
          rw [show version = socksVersion from hVersion]
          rfl
        · rw [hSecond, hFirst]
        · rw [hSecond, hFirst]
    · cases h

theorem readAddress_of_append (socket : Socket) {addressType : UInt8} {address : Address}
    {back : Str} (h : addressType :: socket.stream.items = address.encode ++ back)
    (ipString : Str → Str) :
    ∃ stream : Stream UInt8, stream.items = back ∧
      readAddress ipString addressType socket =
        (.ok (address.host ipString), { socket with stream := stream }) := by
  cases address with
  | ipv4 bytes isFour =>
    obtain ⟨rfl, hItems⟩ := List.cons.inj h
    obtain ⟨stream, hBack, hRead⟩ := andThen_readFull (β := Str) socket _ _ hItems isFour
    refine ⟨stream, hBack, ?_⟩
    rw [readAddress, if_neg (by decide), if_pos rfl, hRead]
    rfl
  | domainName name isShort =>
    obtain ⟨rfl, hItems⟩ := List.cons.inj h
    obtain ⟨first, hFirst, hLength⟩ := andThen_readFull (β := Str) socket 1
      [UInt8.ofNat name.length] hItems rfl
    obtain ⟨second, hSecond, hName⟩ := Socket.readFull_of_append
      { socket with stream := first } _ _ hFirst (toNat_ofNat_length isShort).symm
    refine ⟨second, hSecond, ?_⟩
    rw [readAddress, if_pos rfl, hLength]
    exact hName
  | ipv6 bytes isSixteen =>
    obtain ⟨rfl, hItems⟩ := List.cons.inj h
    obtain ⟨stream, hBack, hRead⟩ := andThen_readFull (β := Str) socket _ _ hItems isSixteen
    refine ⟨stream, hBack, ?_⟩
    rw [readAddress, if_neg (by decide), if_neg (by decide), if_pos rfl, hRead]
    rfl

theorem address_of_readAddress {ipString : Str → Str} {addressType : UInt8}
    {socket left : Socket} {host : Str}
    (h : readAddress ipString addressType socket = (.ok host, left)) :
    ∃ address : Address, addressType :: socket.stream.items = address.encode ++ left.stream.items ∧
      address.host ipString = host ∧ left = { socket with stream := left.stream } := by
  rw [readAddress] at h
  split at h
  · rename_i hType
    obtain ⟨prefixed, first, hFirst, hName⟩ := andThen_eq_ok.mp h
    obtain ⟨hItems, hOne, hKept⟩ := Socket.append_of_readFull hFirst
    obtain ⟨length, rfl⟩ := List.length_eq_one_iff.mp hOne
    obtain ⟨hRest, hLength, hLeft⟩ := Socket.append_of_readFull hName
    have hShort : host.length < 256 := by
      rw [hLength]
      exact length.toNat_lt
    refine ⟨.domainName host hShort, ?_, rfl, ?_⟩
    · rw [Address.encode, ofNat_toNat_length hLength, hType, hItems, hRest]
      rfl
    · rw [hLeft, hKept]
  · split at h
    · rename_i hType
      obtain ⟨bytes, first, hBytes, hHost⟩ := andThen_eq_ok.mp h
      obtain ⟨hItems, hLength, hKept⟩ := Socket.append_of_readFull hBytes
      cases hHost
      exact ⟨.ipv4 bytes hLength, by rw [hType, hItems]; rfl, rfl, hKept⟩
    · split at h
      · rename_i hType
        obtain ⟨bytes, first, hBytes, hHost⟩ := andThen_eq_ok.mp h
        obtain ⟨hItems, hLength, hKept⟩ := Socket.append_of_readFull hBytes
        cases hHost
        exact ⟨.ipv6 bytes hLength, by rw [hType, hItems]; rfl, rfl, hKept⟩
      · cases h

def Address.type : Address → UInt8
  | .ipv4 _ _ => ipv4AddressType
  | .domainName _ _ => domainNameAddressType
  | .ipv6 _ _ => ipv6AddressType

theorem Address.exists_body (address : Address) :
    ∃ body, address.encode = address.type :: body := by
  cases address <;> exact ⟨_, rfl⟩

/-- A complete request is read to its end, whatever it asks for. -/
theorem parseRequest_of_request {socket : Socket} {request : Request} {rest : Str}
    (h : socket.stream.items = request.encode ++ rest) (ipString : Str → Str) :
    ∃ stream : Stream UInt8, stream.items = rest ∧
      parseRequest ipString socket =
        if request.command ≠ connectCommand then (.error .unsupportedCommand,
          (sendReply .commandNotSupported { socket with stream := stream }).2)
        else (.ok (request.address.host ipString, request.port),
          { socket with stream := stream }) := by
  obtain ⟨body, hAddress⟩ := request.address.exists_body
  have hItems : socket.stream.items =
      [socksVersion, request.command, request.reserved, request.address.type] ++
        (body ++ (portBytes request.port ++ rest)) := by
    rw [h, Request.encode, hAddress]
    simp
  obtain ⟨first, hFirst, hHeader⟩ := andThen_readFull (β := Str × UInt16) socket 4 _ hItems rfl
  have hEncoded : request.address.type :: first.items =
      request.address.encode ++ (portBytes request.port ++ rest) := by
    rw [hFirst, hAddress]
    rfl
  obtain ⟨second, hSecond, hHost⟩ := readAddress_of_append
    { socket with stream := first } hEncoded ipString
  obtain ⟨third, hThird, hPort⟩ := andThen_readFull (β := Str × UInt16)
    { socket with stream := second } 2 _ hSecond rfl
  refine ⟨third, hThird, ?_⟩
  rw [parseRequest, hHeader]
  simp only [List.getD_cons_zero, List.getD_cons_succ, ne_eq, not_true_eq_false, if_false]
  rw [hHost, andThen]
  dsimp only
  rw [hPort]
  simp only [portBytes, List.getD_cons_zero, List.getD_cons_succ, joinPort_portBytes]

theorem request_of_parseRequest {ipString : Str → Str} {socket left : Socket} {host : Str}
    {port : UInt16} (h : parseRequest ipString socket = (.ok (host, port), left)) :
    ∃ request : Request, socket.stream.items = request.encode ++ left.stream.items ∧
      request.command = connectCommand ∧ request.address.host ipString = host ∧
      request.port = port ∧ left = { socket with stream := left.stream } := by
  obtain ⟨header, first, hHeader, h⟩ := andThen_eq_ok.mp h
  obtain ⟨hItems, hFour, hFirst⟩ := Socket.append_of_readFull hHeader
  obtain ⟨version, body, rfl⟩ := List.exists_cons_of_length_eq_add_one hFour
  obtain ⟨command, reserved, addressType, rfl⟩ := List.length_eq_three.mp (Nat.succ.inj hFour)
  split at h
  · cases h
  · rename_i hVersion
    rw [not_not] at hVersion
    obtain ⟨found, second, hAddress, h⟩ := andThen_eq_ok.mp h
    obtain ⟨address, hEncoded, hHost, hSecond⟩ := address_of_readAddress hAddress
    obtain ⟨bytes, third, hPort, h⟩ := andThen_eq_ok.mp h
    obtain ⟨hRest, hTwo, hThird⟩ := Socket.append_of_readFull hPort
    obtain ⟨high, low, rfl⟩ := List.length_eq_two.mp hTwo
    split at h
    · cases h
    · rename_i hCommand
      rw [not_not] at hCommand
      cases h
      refine ⟨⟨command, reserved, address, joinPort high low⟩, ?_, hCommand, hHost, rfl, ?_⟩
      · calc socket.stream.items
            = [version, command, reserved] ++ (addressType :: first.stream.items) := hItems
          _ = [socksVersion, command, reserved] ++ (address.encode ++ second.stream.items) := by
              rw [show version = socksVersion from hVersion]
              exact congrArg _ hEncoded
          _ = _ := by
              rw [hRest, Request.encode, portBytes_joinPort, List.append_assoc, List.append_assoc]
      · rw [hThird, hSecond, hFirst]

/-- Two sockets that differ only in how the stream of the client is cut. -/
structure Socket.Same (socket other : Socket) : Prop where
  stream : Segments.Same socket.stream other.stream
  sends : socket.sends = other.sends
  written : socket.written = other.written

def Alike {α : Type} (result other : Except SocksError α × Socket) : Prop :=
  result.1 = other.1 ∧ result.2.Same other.2

theorem Alike.andThen {α β : Type} {result other : Except SocksError α × Socket}
    (h : Alike result other) {next : α → Socket → Except SocksError β × Socket}
    (hNext : ∀ value socket cut, Socket.Same socket cut →
      Alike (next value socket) (next value cut)) :
    Alike (andThen result next) (andThen other next) := by
  obtain ⟨result, socket⟩ := result
  obtain ⟨other, cut⟩ := other
  obtain ⟨hResult, hSame⟩ := h
  cases hResult
  cases result with
  | error error => exact ⟨rfl, hSame⟩
  | ok value => exact hNext value socket cut hSame

section Cuts

variable {socket cut : Socket}

theorem Socket.Same.readFull (h : socket.Same cut) (count : Nat) :
    Alike (socket.readFull count) (cut.readFull count) := by
  obtain ⟨hRead, hLeft⟩ := h.stream.readFull count
  exact ⟨congrArg (Except.mapError SocksError.read) hRead, hLeft, h.sends, h.written⟩

theorem Socket.Same.write (h : socket.Same cut) (bytes : Str) :
    (socket.write bytes).1 = (cut.write bytes).1 ∧
      (socket.write bytes).2.Same (cut.write bytes).2 := by
  have hAccepts : socket.accepts = cut.accepts := congrArg (List.headD · true) h.sends
  refine ⟨hAccepts, h.stream, congrArg List.tail h.sends, ?_⟩
  simp only [Socket.write, hAccepts, h.written]

theorem Socket.Same.authenticate (h : socket.Same cut) :
    Alike (authenticate socket) (Socks.authenticate cut) := by
  refine (h.readFull 2).andThen ?_
  intro header socket cut h
  split
  · exact ⟨rfl, h⟩
  · refine (h.readFull _).andThen ?_
    intro methods socket cut h
    split
    · obtain ⟨hSends, hSame⟩ := h.write [socksVersion, noAuthRequired]
      revert hSends hSame
      generalize socket.write [socksVersion, noAuthRequired] = result
      generalize cut.write [socksVersion, noAuthRequired] = other
      rintro hSends hSame
      obtain ⟨sent, socket⟩ := result
      obtain ⟨other, cut⟩ := other
      cases hSends
      cases sent <;> exact ⟨rfl, hSame⟩
    · exact ⟨rfl, (h.write _).2⟩

theorem Socket.Same.readAddress (h : socket.Same cut) (ipString : Str → Str)
    (addressType : UInt8) :
    Alike (readAddress ipString addressType socket)
      (Socks.readAddress ipString addressType cut) := by
  unfold Socks.readAddress
  split
  · exact (h.readFull 1).andThen fun _ _ _ h => h.readFull _
  · split
    · exact (h.readFull 4).andThen fun _ _ _ h => ⟨rfl, h⟩
    · split
      · exact (h.readFull 16).andThen fun _ _ _ h => ⟨rfl, h⟩
      · exact ⟨rfl, h⟩

theorem Socket.Same.parseRequest (h : socket.Same cut) (ipString : Str → Str) :
    Alike (parseRequest ipString socket) (Socks.parseRequest ipString cut) := by
  refine (h.readFull 4).andThen ?_
  intro header socket cut h
  split
  · exact ⟨rfl, h⟩
  · refine (h.readAddress ipString _).andThen ?_
    intro address socket cut h
    refine (h.readFull 2).andThen ?_
    intro port socket cut h
    split
    · exact ⟨rfl, (h.write _).2⟩
    · exact ⟨rfl, h⟩

theorem Socket.Same.negotiate (h : socket.Same cut) (ipString : Str → Str) :
    Alike (negotiate ipString socket) (Socks.negotiate ipString cut) :=
  h.authenticate.andThen fun _ _ _ h => h.parseRequest ipString

end Cuts

/-- The negotiation and the request are read from the front of the stream. -/
theorem negotiate_of_append {socket : Socket} {greeting : Greeting} {request : Request}
    {rest : Str} (h : socket.stream.items = greeting.encode ++ (request.encode ++ rest))
    (hMethod : noAuthRequired ∈ greeting.methods) (hCommand : request.command = connectCommand)
    (hSends : socket.accepts = true) (ipString : Str → Str) :
    ∃ left : Socket, negotiate ipString socket =
        (.ok (request.address.host ipString, request.port), left) ∧
      left.stream.items = rest ∧
      left.written = socket.written ++ [[socksVersion, noAuthRequired]] := by
  obtain ⟨negotiated, hAuthenticated, hItems, _, hWritten⟩ :=
    authenticate_of_greeting h hMethod hSends
  obtain ⟨stream, hRest, hParsed⟩ := parseRequest_of_request hItems ipString
  refine ⟨{ negotiated with stream := stream }, ?_, hRest, hWritten⟩
  rw [negotiate, hAuthenticated, andThen, hParsed, if_neg (not_not.mpr hCommand)]

/-- A greeting that announces the method and a complete request to connect are all
that the server accepts, and it takes them off the stream and nothing more,
however the stream is cut. -/
theorem negotiation_exact (ipString : Str → Str) (socket : Socket) :
    (∀ host port, (negotiate ipString socket).1 = .ok (host, port) ↔
      ∃ (greeting : Greeting) (request : Request) (rest : Str),
        socket.stream.items = greeting.encode ++ (request.encode ++ rest) ∧
        noAuthRequired ∈ greeting.methods ∧ request.command = connectCommand ∧
        request.address.host ipString = host ∧ request.port = port ∧ socket.accepts = true) ∧
    (∀ (greeting : Greeting) (request : Request) (rest : Str),
      socket.stream.items = greeting.encode ++ (request.encode ++ rest) →
      noAuthRequired ∈ greeting.methods → request.command = connectCommand →
      socket.accepts = true →
      (negotiate ipString socket).2.stream.items = rest ∧
      (negotiate ipString socket).2.written =
        socket.written ++ [[socksVersion, noAuthRequired]]) ∧
    (∀ (greeting : Greeting) (reserved : UInt8) (name : Str) (isShort : name.length < 256)
      (port : UInt16) (rest : Str),
      socket.stream.items = greeting.encode ++ ((⟨connectCommand, reserved,
        .domainName name isShort, port⟩ : Request).encode ++ rest) →
      noAuthRequired ∈ greeting.methods → socket.accepts = true →
      (negotiate ipString socket).1 = .ok (name, port)) ∧
    ∀ cut : Socket, cut.stream.items = socket.stream.items →
      cut.stream.ending = socket.stream.ending → cut.sends = socket.sends →
      cut.written = socket.written →
      (negotiate ipString cut).1 = (negotiate ipString socket).1 ∧
      (negotiate ipString cut).2.written = (negotiate ipString socket).2.written ∧
      (negotiate ipString cut).2.stream.items = (negotiate ipString socket).2.stream.items := by
  refine ⟨fun host port => ⟨?_, ?_⟩, ?_, ?_, ?_⟩
  · intro h
    obtain ⟨_, middle, hAuthenticated, hParsed⟩ :=
      andThen_eq_ok.mp (show negotiate ipString socket = (.ok (host, port), _) from Prod.ext h rfl)
    obtain ⟨greeting, hGreeting, hMethod, hSends, _⟩ := greeting_of_authenticate hAuthenticated
    obtain ⟨request, hRequest, hCommand, hHost, hPort, _⟩ := request_of_parseRequest hParsed
    exact ⟨greeting, request, _, hRequest ▸ hGreeting, hMethod, hCommand, hHost, hPort, hSends⟩
  · rintro ⟨greeting, request, rest, hItems, hMethod, hCommand, rfl, rfl, hSends⟩
    obtain ⟨_, hResult, _⟩ := negotiate_of_append hItems hMethod hCommand hSends ipString
    rw [hResult]
  · intro greeting request rest hItems hMethod hCommand hSends
    obtain ⟨_, hResult, hLeft⟩ := negotiate_of_append hItems hMethod hCommand hSends ipString
    rw [hResult]
    exact hLeft
  · intro greeting reserved name isShort port rest hItems hMethod hSends
    obtain ⟨_, hResult, _⟩ := negotiate_of_append hItems hMethod rfl hSends ipString
    rw [hResult]
    rfl
  · intro cut hItems hEnding hSends hWritten
    have hCut : cut.Same socket := ⟨⟨hItems, hEnding⟩, hSends, hWritten⟩
    obtain ⟨hResult, hSame⟩ := hCut.negotiate ipString
    exact ⟨hResult, hSame.written, hSame.stream.items⟩

end GatewaySshd.Proxy.Socks
