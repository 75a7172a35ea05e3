import GatewaySshd.Ssh.Wire

/-! # Packets of the transport

Whatever asks for a channel travels in one packet. The writer pads every packet,
writes its length before it and sets no limit; the reader refuses a length above
the largest packet, and with it the connection.
-/
namespace GatewaySshd.Ssh
set_option autoImplicit false

def maxPacket : Nat := 262144

/-- With the byte that tells the padding, a packet is filled up to a multiple of 16
bytes, by at least four. -/
def paddingLength (length : Nat) : Nat :=
  let padding := 16 - (1 + length) % 16
  if padding < 4 then padding + 16 else padding

def packetLength (message : Str) : Nat := message.length + paddingLength message.length + 1

def channelOpenMessage (channelType : Str) (peersId : UInt32) (payload : Str) : Str :=
  90 :: (stringBytes channelType ++ (uint32Bytes peersId ++ (uint32Bytes 2097152 ++
    (uint32Bytes 32768 ++ payload))))

/-- A request for a tunnel with the payload can be read by a peer. -/
def FitsPacket (payload : Str) : Prop :=
  ∀ peersId, packetLength (channelOpenMessage (ascii "direct-tcpip") peersId payload) ≤ maxPacket

theorem length_channelOpenMessage (peersId : UInt32) (payload : Str) :
    (channelOpenMessage (ascii "direct-tcpip") peersId payload).length = 29 + payload.length := by
  have hType : (ascii "direct-tcpip").length = 12 := by decide
  simp only [channelOpenMessage, List.length_cons, List.length_append, length_stringBytes,
    length_uint32Bytes, hType]
  omega

theorem fitsPacket_iff {payload : Str} : FitsPacket payload ↔ payload.length ≤ 262110 := by
  simp only [FitsPacket, packetLength, length_channelOpenMessage, forall_const, paddingLength,
    maxPacket]
  split <;> omega

instance (payload : Str) : Decidable (FitsPacket payload) := decidable_of_iff _ fitsPacket_iff.symm

theorem FitsPacket.lt {payload : Str} (h : FitsPacket payload) : payload.length < 4294967296 :=
  Nat.lt_of_le_of_lt (fitsPacket_iff.mp h) (by decide)

end GatewaySshd.Ssh
