import GatewaySshd.Auth.Capabilities
import GatewaySshd.Node.Service

/-! # Administrators

The flags of an account add the administrator marker to the permissions of a
login. The certificate's own extensions are passed on too, without the peer
markers only, and the gateway reads the marker by its presence.
-/
namespace GatewaySshd.Auth
set_option autoImplicit false

open Ssh Node

theorem administrator_mem_scrubbed (permissions : Permissions) :
    ascii "administrator" ∈ (scrubbed permissions).extensions ↔
      ascii "administrator" ∈ permissions.extensions := by
  have hPeer : ascii "administrator" ≠ ascii "peer" := by decide
  have hIdentity : ascii "administrator" ≠ ascii "identity" := by decide
  simp only [scrubbed, AList.mem_erase, ne_eq, hPeer, hIdentity, not_false_eq_true, true_and]

theorem administrator_granted_iff (user : Str) (flags : UserFlags) (permissions : Permissions) :
    (newConnection user (granted flags (scrubbed permissions))).administrator = true ↔
      flags.administrator = true ∨ ascii "administrator" ∈ permissions.extensions := by
  simp only [newConnection, decide_eq_true_eq]
  unfold granted
  split
  · rename_i hFlag
    exact ⟨fun _ => Or.inl hFlag, fun _ => (AList.mem_insert _).mpr (Or.inl rfl)⟩
  · rename_i hFlag
    rw [administrator_mem_scrubbed, or_iff_right hFlag]

/-- A session is an administrator's exactly by the flags that decided its login,
and only such sessions kick, unless the certificate brings the marker along. -/
theorem administrator_from_flags_iff (settings : Settings) (env : Env) (metadata : Metadata)
    (certificate : Certificate) (permissions : Permissions) (hUser : metadata.user ≠ peerUser)
    (h : (authenticate settings env metadata (.certificate certificate)).result =
      .ok permissions) :
    (((newConnection metadata.user permissions).administrator = true ↔
        (decidingFlags settings env metadata).administrator = true) ∧
      ∀ command lines userId,
        .command (.kickUser userId) ∈
          runService (newConnection metadata.user permissions) command lines →
        (decidingFlags settings env metadata).administrator = true) ↔
    (ascii "administrator" ∈ certificate.permissions.extensions →
      (decidingFlags settings env metadata).administrator = true) := by
  obtain ⟨_, ⟨rfl⟩, _, _, rfl⟩ := authenticate_user_decided hUser h
  have hMarked := administrator_granted_iff metadata.user (decidingFlags settings env metadata)
    certificate.permissions
  constructor
  · rintro ⟨hExact, _⟩ hExtension
    exact hExact.mp (hMarked.mpr (Or.inr hExtension))
  · intro hCovered
    have hExact := hMarked.trans (or_iff_left_of_imp hCovered)
    exact ⟨hExact, fun _ _ _ hKick => hExact.mp (runService_kickUser hKick)⟩

def aliceCertificate (extensions : List (Str × Str)) : Certificate :=
  { nodeCertificate with
    validPrincipals := [ascii "alice"]
    permissions := ⟨∅, (extensions.map fun e => ⟨e.1, e.2⟩).toAList⟩ }

theorem administrator_from_flags_alice :
    ((newConnection (ascii "alice") ⟨∅, AList.singleton (ascii "permit-port-forwarding") []⟩
        ).administrator = true ↔
      (decidingFlags ⟨[[1]], [], ascii "node-a"⟩ quietEnv
        ⟨ascii "alice", [], []⟩).administrator = true) :=
  ((administrator_from_flags_iff ⟨[[1]], [], ascii "node-a"⟩ quietEnv ⟨ascii "alice", [], []⟩
    (aliceCertificate [(ascii "permit-port-forwarding", [])])
    ⟨∅, AList.singleton (ascii "permit-port-forwarding") []⟩ (by decide) (by rfl)).mpr
    (by decide)).1

/-- No row marks alice as an administrator; their certificate does, and they kick bob. -/
theorem administrator_by_certificate :
    ∃ permissions, (authenticate ⟨[[1]], [], ascii "node-a"⟩ quietEnv ⟨ascii "alice", [], []⟩
      (.certificate (aliceCertificate [(ascii "permit-port-forwarding", []),
        (ascii "administrator", [])]))).result = .ok permissions ∧
    (decidingFlags ⟨[[1]], [], ascii "node-a"⟩ quietEnv
      ⟨ascii "alice", [], []⟩).administrator = false ∧
    (newConnection (ascii "alice") permissions).administrator = true ∧
    runService (newConnection (ascii "alice") permissions) (ascii "kickUser bob") [] =
      [.command (.kickUser (ascii "bob"))] :=
  ⟨_, rfl, by decide, by decide, by decide⟩

end GatewaySshd.Auth
