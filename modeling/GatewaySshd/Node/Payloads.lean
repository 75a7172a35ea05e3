import GatewaySshd.Db.Dial
import GatewaySshd.Node.Channel
import GatewaySshd.Node.Requests

/-! # Payloads on the wire

Encoding and decoding undo each other: every request that fits is decoded to
itself, and only its encoding is decoded to it. A node that passes a request on to
a peer encodes what it has decoded.
-/
namespace GatewaySshd.Node
set_option autoImplicit false

open TtlCache (Time)
open Ssh

theorem marshal_of_parse {payload : Str} {data : TunnelData}
    (h : parseTunnelData payload = some data) : marshalTunnelData data = payload := by
  obtain ⟨⟨host, first⟩, hHost, h⟩ := Option.bind_eq_some_iff.mp h
  obtain ⟨⟨port, second⟩, hPort, h⟩ := Option.bind_eq_some_iff.mp h
  obtain ⟨⟨originAddress, third⟩, hAddress, h⟩ := Option.bind_eq_some_iff.mp h
  obtain ⟨⟨originPort, fourth⟩, hOrigin, h⟩ := Option.bind_eq_some_iff.mp h
  dsimp only at hPort hAddress hOrigin h
  split at h
  · rename_i hEnd
    cases h
    rw [marshalTunnelData, eq_of_parseString hHost, eq_of_parseUint32 hPort,
      eq_of_parseString hAddress, eq_of_parseUint32 hOrigin, hEnd]
  · cases h

theorem marshal_of_unmarshal {payload : Str} {data : TunnelData}
    (h : unmarshalTunnelData payload = .ok data) : marshalTunnelData data = payload := by
  rw [unmarshalTunnelData] at h
  split at h
  · cases h
  · rename_i hParsed
    split at h
    · cases h
    · split at h
      · cases h
      · cases h
        exact marshal_of_parse hParsed

theorem unmarshal_marshal {data : TunnelData}
    (hLength : (marshalTunnelData data).length < 4294967296) :
    unmarshalTunnelData (marshalTunnelData data) =
      if data.port ≤ 65535 ∧ data.originPort ≤ 65535 then .ok data
      else .error .invalidTunnelData := by
  rw [unmarshalTunnelData, parse_marshal hLength]
  dsimp only
  by_cases hPort : 65535 < data.port
  · rw [if_pos hPort, if_neg fun h => UInt32.not_lt.mpr h.1 hPort]
  · rw [if_neg hPort]
    by_cases hOrigin : 65535 < data.originPort
    · rw [if_pos hOrigin, if_neg fun h => UInt32.not_lt.mpr h.2 hOrigin]
    · rw [if_neg hOrigin, if_pos ⟨UInt32.not_lt.mp hPort, UInt32.not_lt.mp hOrigin⟩]

theorem marshalForward_of_parse {payload : Str} {request : ForwardRequest}
    (h : parseForwardRequest payload = some request) : marshalForwardRequest request = payload := by
  obtain ⟨⟨host, first⟩, hHost, h⟩ := Option.bind_eq_some_iff.mp h
  obtain ⟨⟨port, second⟩, hPort, h⟩ := Option.bind_eq_some_iff.mp h
  dsimp only at hPort h
  split at h
  · rename_i hEnd
    cases h
    rw [marshalForwardRequest, eq_of_parseString hHost, eq_of_parseUint32 hPort, hEnd]
  · cases h

theorem marshalForward_of_unmarshal {payload : Str} {request : ForwardRequest}
    (h : unmarshalForwardRequest payload = .ok request) :
    marshalForwardRequest request = payload := by
  rw [unmarshalForwardRequest] at h
  split at h
  · cases h
  · rename_i hParsed
    split at h
    · cases h
    · cases h
      exact marshalForward_of_parse hParsed

theorem unmarshal_marshalForward_eq {request : ForwardRequest}
    (hLength : (marshalForwardRequest request).length < 4294967296) :
    unmarshalForwardRequest (marshalForwardRequest request) =
      if request.port ≤ 65535 then .ok request else .error .invalidForwardRequest := by
  have hHost : request.host.length + 4 < 4294967296 := by
    simp only [marshalForwardRequest, List.length_append, length_stringBytes,
      length_uint32Bytes] at hLength
    omega
  rw [unmarshalForwardRequest, parse_marshalForward hHost]
  dsimp only
  by_cases hPort : 65535 < request.port
  · rw [if_pos hPort, if_neg fun h => UInt32.not_lt.mpr h hPort]
  · rw [if_neg hPort, if_pos (UInt32.not_lt.mp hPort)]

variable {ι ρ : Type}

/-- What is passed on to a peer is what the user sent. -/
theorem handleTunnelChannel_forwards {gateway : Gateway ι ρ} {connection : Connection}
    {now : Time} {database : NodeLookup} {accepts : Bool} {payload forwarded host : Str}
    {peer : Peer ι}
    (h : (handleTunnelChannel gateway connection now database accepts payload).1 =
      .tunnel host (.peer peer forwarded)) :
    forwarded = payload ∧ ∃ data, unmarshalTunnelData forwarded = .ok data ∧ data.host = host := by
  obtain ⟨data, hData, hDecides⟩ := handleTunnelChannel_tunnel h
  cases hDecides
  have hSame := marshal_of_unmarshal hData
  exact ⟨hSame, data, hSame.symm ▸ hData, rfl⟩

/-- Encoding and decoding are exact in both directions, for tunnels and for forward
requests; the request for the database decodes as it is meant, and a request that
is passed on is what was received. -/
theorem payload_codecs_exact :
    (∀ data, (marshalTunnelData data).length < 4294967296 →
      unmarshalTunnelData (marshalTunnelData data) =
        if data.port ≤ 65535 ∧ data.originPort ≤ 65535 then .ok data
        else .error .invalidTunnelData) ∧
    (∀ payload data, unmarshalTunnelData payload = .ok data →
      marshalTunnelData data = payload) ∧
    (∀ request, (marshalForwardRequest request).length < 4294967296 →
      unmarshalForwardRequest (marshalForwardRequest request) =
        if request.port ≤ 65535 then .ok request else .error .invalidForwardRequest) ∧
    (∀ payload request, unmarshalForwardRequest payload = .ok request →
      marshalForwardRequest request = payload) ∧
    unmarshalTunnelData Db.Dial.postgresTunnel.marshal =
      .ok ⟨ascii "postgres", 5432, ascii "localhost", 0⟩ ∧
    ∀ (gateway : Gateway ι ρ) connection now database accepts payload host peer forwarded,
      (handleTunnelChannel gateway connection now database accepts payload).1 =
          .tunnel host (.peer peer forwarded) →
        forwarded = payload ∧
          ∃ data, unmarshalTunnelData forwarded = .ok data ∧ data.host = host := by
  refine ⟨fun _ => unmarshal_marshal, fun _ _ => marshal_of_unmarshal,
    fun _ => unmarshal_marshalForward_eq, fun _ _ => marshalForward_of_unmarshal, ?_, ?_⟩
  · -- the two packages write the fields in the same order
    have hSame : Db.Dial.postgresTunnel.marshal = marshalTunnelData postgresTunnel := rfl
    rw [hSame, unmarshal_marshal (by rw [length_marshalTunnelData]; decide)]
    exact if_pos (by decide)
  · intro gateway connection now database accepts payload host peer forwarded h
    exact handleTunnelChannel_forwards h

end GatewaySshd.Node
