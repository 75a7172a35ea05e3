import GatewaySshd.Auth.Authenticate
import GatewaySshd.Node.Connection

/-! # What each certificate authority can make of a connection

The permissions that the callback returns are decoded again in the gateway, by
the presence of extensions. Peer status and user status are shown to exclude
each other for every certificate, whatever extensions it carries.
-/
namespace GatewaySshd.Auth
set_option autoImplicit false

open Ssh Db Node

theorem mem_peerPermissions (name keyId : Str) :
    name ∈ (peerPermissions keyId).extensions ↔ name = ascii "peer" ∨ name = ascii "identity" := by
  rw [peerPermissions, AList.mem_insert, AList.mem_keys, AList.keys_singleton, List.mem_singleton]

theorem newConnection_peer (user keyId : Str) :
    (newConnection user (peerPermissions keyId)).nodeId = keyId ∧
    (newConnection user (peerPermissions keyId)).user = [] ∧
    (newConnection user (peerPermissions keyId)).permitPortForwarding = false ∧
    (newConnection user (peerPermissions keyId)).administrator = false := by
  have hPeer : ascii "peer" ∈ (peerPermissions keyId).extensions :=
    (mem_peerPermissions _ keyId).mpr (Or.inl rfl)
  have hIdentity : (peerPermissions keyId).extensions.lookup (ascii "identity") = some keyId := by
    rw [peerPermissions, AList.lookup_insert_ne (by decide), ← AList.insert_empty,
      AList.lookup_insert]
  have hForward : ascii "permit-port-forwarding" ∉ (peerPermissions keyId).extensions := by
    rw [mem_peerPermissions]
    decide
  have hAdministrator : ascii "administrator" ∉ (peerPermissions keyId).extensions := by
    rw [mem_peerPermissions]
    decide
  simp only [newConnection, hPeer, hIdentity, hForward, hAdministrator, if_true,
    Option.getD_some, decide_false, and_self]

theorem peer_not_mem_granted (flags : UserFlags) (permissions : Permissions) :
    ascii "peer" ∉ (granted flags (scrubbed permissions)).extensions := by
  have hScrubbed : ascii "peer" ∉ (scrubbed permissions).extensions := by
    simp [scrubbed, AList.mem_erase]
  unfold granted
  split
  · intro h
    rcases (AList.mem_insert _).mp h with hEq | hMem
    · revert hEq
      decide
    · exact hScrubbed hMem
  · exact hScrubbed

theorem newConnection_user (user : Str) (flags : UserFlags) (permissions : Permissions) :
    (newConnection user (granted flags (scrubbed permissions))).nodeId = [] ∧
    (newConnection user (granted flags (scrubbed permissions))).user = user := by
  simp only [newConnection, peer_not_mem_granted, if_false, and_self]

theorem accepts_signed_by {env : Env} {authorities : List Str} {user : Str}
    {certificate : Certificate} (h : (checker env authorities).Accepts user certificate) :
    certificate.signatureKey ∈ authorities := by
  have hAuthority := h.authority
  simpa [checker] using hAuthority

/-- A connection is a peer exactly when the reserved user presented a user
certificate with a key id that the checker accepts under the peer authorities.
Then its node is that key id and it has no user, no port forwarding and no
administrator rights. Any other connection carries the login name, which is not
the reserved one, on a certificate accepted under the user authorities. -/
theorem connection_capabilities (settings : Settings) (env : Env) (metadata : Metadata)
    (key : PublicKey) (permissions : Permissions)
    (h : (authenticate settings env metadata key).result = .ok permissions) :
    ((newConnection metadata.user permissions).nodeId ≠ [] ↔
      metadata.user = peerUser ∧ ∃ certificate, key = .certificate certificate ∧
        (checker env settings.peerCAPublicKeys).Accepts metadata.user certificate ∧
        certificate.signatureKey ∈ settings.peerCAPublicKeys ∧ certificate.keyId ≠ []) ∧
    (∀ certificate, key = .certificate certificate →
      (newConnection metadata.user permissions).nodeId ≠ [] →
      (newConnection metadata.user permissions).nodeId = certificate.keyId ∧
      (newConnection metadata.user permissions).user = [] ∧
      (newConnection metadata.user permissions).permitPortForwarding = false ∧
      (newConnection metadata.user permissions).administrator = false) ∧
    ((newConnection metadata.user permissions).nodeId = [] →
      (∃ certificate, key = .certificate certificate ∧
        (checker env settings.caPublicKeys).Accepts metadata.user certificate ∧
        certificate.signatureKey ∈ settings.caPublicKeys) ∧
      (newConnection metadata.user permissions).user = metadata.user ∧
      metadata.user ≠ peerUser) := by
  by_cases hUser : metadata.user = peerUser
  · have hPeer : authenticatePeer settings env metadata key = .ok permissions := by
      rw [authenticate, if_pos hUser] at h
      exact h
    obtain ⟨certificate, rfl, hAccepts, hKeyId, rfl⟩ := authenticatePeer_ok hPeer
    obtain ⟨hNode, hNobody, hForward, hAdministrator⟩ :=
      newConnection_peer metadata.user certificate.keyId
    refine ⟨?_, ?_, ?_⟩
    · rw [hNode]
      exact ⟨fun _ => ⟨hUser, certificate, rfl, hAccepts, accepts_signed_by hAccepts, hKeyId⟩,
        fun _ => hKeyId⟩
    · rintro other ⟨rfl⟩ _
      exact ⟨hNode, hNobody, hForward, hAdministrator⟩
    · intro hNone
      rw [hNode] at hNone
      exact absurd hNone hKeyId
  · obtain ⟨certificate, flags, rfl, hAccepts, _, rfl⟩ := authenticate_user_ok hUser h
    obtain ⟨hNode, hName⟩ := newConnection_user metadata.user flags certificate.permissions
    refine ⟨?_, ?_, ?_⟩
    · rw [hNode]
      exact ⟨fun hNe => absurd rfl hNe, fun hPeer => absurd hPeer.1 hUser⟩
    · intro _ _ hNe
      exact absurd hNode hNe
    · intro _
      exact ⟨⟨certificate, rfl, hAccepts, accepts_signed_by hAccepts⟩, hName, hUser⟩

/-- A node certificate whose issuer also put a user extension on it. -/
def nodeCertificate : Certificate where
  key := [7]
  certType := userCert
  keyId := ascii "node-b"
  validPrincipals := [peerUser]
  validAfter := 0
  validBefore := certTimeInfinity
  permissions := ⟨∅, AList.singleton (ascii "administrator") []⟩
  signatureKey := [1]
  signature := []

def quietEnv : Env where
  unixNow := 0
  verify := fun certificate => certificate.signatureKey == [1]
  flags := ∅
  users := fun _ => none
  databaseFails := false
  readAt := 0
  statementAt := 0
  cleanAt := 0
  storeAt := 0

theorem connection_capabilities_node :
    (newConnection peerUser (peerPermissions (ascii "node-b"))).nodeId = ascii "node-b" ∧
    (newConnection peerUser (peerPermissions (ascii "node-b"))).user = [] ∧
    (newConnection peerUser (peerPermissions (ascii "node-b"))).permitPortForwarding = false ∧
    (newConnection peerUser (peerPermissions (ascii "node-b"))).administrator = false :=
  (connection_capabilities ⟨[], [[1]], ascii "node-a"⟩ quietEnv ⟨peerUser, [], []⟩
    (.certificate nodeCertificate) (peerPermissions (ascii "node-b")) (by rfl)).2.1
    nodeCertificate rfl (by decide)

end GatewaySshd.Auth
