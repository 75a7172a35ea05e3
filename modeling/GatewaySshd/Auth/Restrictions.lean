import GatewaySshd.Auth.Handshake

/-! # What a certificate restricts

A certificate can name the principals it is good for and the addresses it may be
used from. The checker of the library passes an empty list of principals, and it
leaves addresses to the server loop, which only sees the permissions that the
callback returns. So the two restrictions hold under conditions.
-/
namespace GatewaySshd.Auth
set_option autoImplicit false

open Ssh Runs

theorem principalAllowed_of_accepts {checker : CertChecker} {user : Str} {certificate : Certificate}
    (h : checker.Accepts user certificate) : principalAllowed user certificate = true := by
  have hChecked := h.checked
  unfold CertChecker.checkCert at hChecked
  split at hChecked
  · cases hChecked
  · split at hChecked
    · cases hChecked
    · rename_i hAllowed
      simpa using hAllowed

theorem listed_iff_of_accepts {checker : CertChecker} {user : Str} {certificate : Certificate}
    (h : checker.Accepts user certificate) :
    user ∈ certificate.validPrincipals ↔ certificate.validPrincipals ≠ [] := by
  have hAllowed := principalAllowed_of_accepts h
  simp only [principalAllowed, Bool.or_eq_true, List.isEmpty_iff, List.contains_iff_mem] at hAllowed
  constructor
  · exact List.ne_nil_of_mem
  · exact hAllowed.resolve_left

theorem authenticate_accepts {settings : Settings} {env : Env} {metadata : Metadata}
    {key : PublicKey} {permissions : Permissions}
    (h : (authenticate settings env metadata key).result = .ok permissions) :
    ∃ certificate authorities, key = .certificate certificate ∧
      (checker env authorities).Accepts metadata.user certificate := by
  by_cases hUser : metadata.user = peerUser
  · rw [authenticate, if_pos hUser] at h
    obtain ⟨certificate, rfl, hAccepts, _⟩ := authenticatePeer_ok h
    exact ⟨certificate, _, rfl, hAccepts⟩
  · obtain ⟨certificate, _, rfl, hAccepts, _⟩ := authenticate_user_ok hUser h
    exact ⟨certificate, _, rfl, hAccepts⟩

/-- Whoever is let in, as a user or as a node, is listed on their certificate
exactly if the certificate lists anybody. -/
theorem login_listed_iff (settings : Settings) (env : Env) (metadata : Metadata)
    (certificate : Certificate) (permissions : Permissions)
    (h : (authenticate settings env metadata (.certificate certificate)).result =
      .ok permissions) :
    metadata.user ∈ certificate.validPrincipals ↔ certificate.validPrincipals ≠ [] := by
  obtain ⟨_, authorities, ⟨rfl⟩, hAccepts⟩ := authenticate_accepts h
  exact listed_iff_of_accepts hAccepts

theorem login_listed_node :
    peerUser ∈ nodeCertificate.validPrincipals ↔ nodeCertificate.validPrincipals ≠ [] :=
  login_listed_iff ⟨[], [[1]], ascii "node-a"⟩ quietEnv ⟨peerUser, [], []⟩ nodeCertificate
    (peerPermissions (ascii "node-b")) (by rfl)

def unlistedCertificate : Certificate := { nodeCertificate with validPrincipals := [] }

/-- A certificate without principals lets its holder in as any user and as a node. -/
theorem unlisted_login :
    (∃ permissions, (authenticate ⟨[[1]], [[1]], ascii "node-a"⟩ quietEnv ⟨ascii "alice", [], []⟩
      (.certificate unlistedCertificate)).result = .ok permissions) ∧
    (∃ permissions, (authenticate ⟨[[1]], [[1]], ascii "node-a"⟩ quietEnv ⟨peerUser, [], []⟩
      (.certificate unlistedCertificate)).result = .ok permissions) ∧
    ascii "alice" ∉ unlistedCertificate.validPrincipals ∧
    peerUser ∉ unlistedCertificate.validPrincipals :=
  ⟨⟨_, rfl⟩, ⟨_, rfl⟩, List.not_mem_nil, List.not_mem_nil⟩

section Addresses

def AddressHolds (certificate : Certificate) (allowed : Str → Bool) : Prop :=
  ∀ addresses, certificate.permissions.criticalOptions.lookup sourceAddressCriticalOption =
    some addresses → addresses ≠ [] → allowed addresses = true

def Restricted (certificate : Certificate) : Prop :=
  ∃ addresses, certificate.permissions.criticalOptions.lookup sourceAddressCriticalOption =
    some addresses ∧ addresses ≠ []

/-- The server of a client at an address that the given lists admit. -/
def serverFor (settings : Settings) (library : Library) (allowed : Str → Bool) :
    ServerConfig World :=
  newConfig settings { library with sourceAllowed := allowed }

/-- A handshake goes on from these events to a signed request that logs the user
in by this certificate. -/
structure LogsIn (config : ServerConfig World) (user : Str) (certificate : Certificate)
    (events : List (Event World)) (session : Session World) (turn : Turn World)
    (request : Request) : Prop where
  reached : run (serverAuthenticate config) connected events = some session
  user : request.user = user
  offers : ∃ algo pubKeyData rest,
    Offers config request false algo pubKeyData (.certificate certificate) rest
  signsIn : ∃ permissions, SignsIn config session turn request permissions

def Accepted (config : ServerConfig World) (user : Str) (certificate : Certificate) : Prop :=
  ∃ events session turn request, LogsIn config user certificate events session turn request

variable {settings : Settings} {library : Library} {allowed : Str → Bool} {user : Str}
  {certificate : Certificate}

theorem criticalOptions_granted (flags : UserFlags) (permissions : Permissions) :
    (granted flags (scrubbed permissions)).criticalOptions = permissions.criticalOptions := by
  unfold granted
  split
  · rfl
  · rfl

theorem addressHolds_of_admitted {permissions : Permissions}
    (hOptions : permissions.criticalOptions = certificate.permissions.criticalOptions)
    (h : (serverFor settings library allowed).sourceAdmitted permissions = true) :
    AddressHolds certificate allowed := by
  intro addresses hAddresses hNonempty
  rw [ServerConfig.sourceAdmitted, hOptions, hAddresses] at h
  have hAllowed : (serverFor settings library allowed).sourceAllowed addresses = true := by
    simpa [hNonempty] using h
  exact hAllowed

/-- What is left of a login: the callback has let the user in on this very
certificate, and the address was checked against what it returned. -/
theorem Accepted.approved (h : Accepted (serverFor settings library allowed) user certificate) :
    ∃ (world : World) (permissions : Permissions),
      (authenticate settings world.env (world.metadata user) (.certificate certificate)).result =
        .ok permissions ∧
      (serverFor settings library allowed).sourceAdmitted permissions = true := by
  obtain ⟨events, session, turn, request, hReached, rfl, ⟨algo, pubKeyData, rest, hOffers⟩,
    permissions, hSignsIn⟩ := h
  cases hSignsIn.judged with
  | @passed _ _ _ key _ _ hOffers' _ _ _ hApproval hAdmitted =>
    have hSame := hOffers.offer.symm.trans hOffers'.offer
    cases hSame
    obtain ⟨world, hConsult⟩ := (traced_of_run hReached).approval
      ⟨turn.world, request.user, .certificate certificate⟩
      (parsePublicKey_of_offered hOffers.offer)
    have hApproved := consult_approved (hConsult.trans hApproval)
    exact ⟨world, permissions, publicKeyCallback_eq_some hApproved.1, hAdmitted⟩

theorem Accepted.addressHolds (hUser : user ≠ peerUser)
    (h : Accepted (serverFor settings library allowed) user certificate) :
    AddressHolds certificate allowed := by
  obtain ⟨world, permissions, hOk, hAdmitted⟩ := h.approved
  obtain ⟨_, flags, ⟨rfl⟩, _, _, rfl⟩ := authenticate_user_ok hUser hOk
  exact addressHolds_of_admitted (criticalOptions_granted flags certificate.permissions) hAdmitted

theorem sourceAdmitted_peer (keyId : Str) :
    (serverFor settings library allowed).sourceAdmitted (peerPermissions keyId) = true := rfl

theorem consult_peer {world : World} {permissions : Permissions}
    (h : (authenticate settings world.env (world.metadata peerUser)
      (.certificate certificate)).result = .ok permissions) :
    (serverFor settings library allowed).consult
      ⟨world, peerUser, .certificate certificate⟩ = .approved permissions := by
  have hCallback : (serverFor settings library allowed).publicKeyCallback world peerUser
      (.certificate certificate) = some permissions := by
    show (authenticate _ _ _ _).result.toOption = some permissions
    rw [h]
    rfl
  have hPeer : authenticatePeer settings world.env (world.metadata peerUser)
      (.certificate certificate) = .ok permissions := by
    rw [authenticate, if_pos (show (world.metadata peerUser).user = peerUser from rfl)] at h
    exact h
  obtain ⟨_, _, _, _, rfl⟩ := authenticatePeer_ok hPeer
  rw [ServerConfig.consult, hCallback]
  exact if_pos (sourceAdmitted_peer _)

/-- Nodes get in from anywhere: the permissions built for them carry no options. -/
theorem Accepted.anywhere
    (h : Accepted (serverFor settings library allowed) peerUser certificate)
    (other : Str → Bool) : Accepted (serverFor settings library other) peerUser certificate := by
  obtain ⟨events, session, turn, request, hReached, hUser, ⟨algo, pubKeyData, rest, hOffers⟩,
    permissions, hSignsIn⟩ := h
  cases hSignsIn.judged with
  | @passed _ _ _ key signature _ hOffers' hSignature hFits hVerifies hApproval _ =>
    cases hOffers.offer.symm.trans hOffers'.offer
    obtain ⟨world, hConsult⟩ := (traced_of_run hReached).approval
      ⟨turn.world, request.user, .certificate certificate⟩
      (parsePublicKey_of_offered hOffers.offer)
    have hCallback := (consult_approved (hConsult.trans hApproval)).1
    rw [hUser] at hCallback
    have hElsewhere : (serverFor settings library other).consult
        ⟨world, request.user, .certificate certificate⟩ = .approved permissions := by
      rw [hUser]
      exact consult_peer (publicKeyCallback_eq_some hCallback)
    -- one signed request is enough: the callback answers as it did before
    refine ⟨[], connected, ⟨some request, true, world⟩, request, rfl, hUser,
      ⟨algo, pubKeyData, rest, ⟨hOffers.service, hOffers.method, hOffers.offer⟩⟩, permissions, ?_,
      rfl⟩
    have hAdmitted := (consult_approved hElsewhere).2
    exact .passed ⟨hOffers.service, hOffers.method, hOffers.offer⟩ hSignature
      ⟨hFits.key, hFits.accepted, hFits.format⟩ hVerifies hElsewhere hAdmitted

/-- A certificate that gets its holder in at all keeps them to its addresses,
wherever they come from, exactly if they log in as a user or it names none. -/
theorem address_restriction_iff (settings : Settings) (library : Library) (user : Str)
    (certificate : Certificate)
    (h : Accepted (serverFor settings library fun _ => true) user certificate) :
    (∀ allowed, Accepted (serverFor settings library allowed) user certificate →
      AddressHolds certificate allowed) ↔ user ≠ peerUser ∨ ¬ Restricted certificate := by
  constructor
  · intro hHolds
    by_cases hUser : user = peerUser
    · subst hUser
      refine Or.inr ?_
      rintro ⟨addresses, hAddresses, hNonempty⟩
      have hElsewhere := hHolds (fun _ => false) (h.anywhere fun _ => false)
      cases hElsewhere addresses hAddresses hNonempty
    · exact Or.inl hUser
  · rintro (hUser | hFree) allowed hAccepted
    · exact hAccepted.addressHolds hUser
    · intro addresses hAddresses hNonempty
      exact absurd ⟨addresses, hAddresses, hNonempty⟩ hFree

def boundCertificate (principal : Str) : Certificate :=
  { nodeCertificate with
    validPrincipals := [principal]
    permissions := ⟨fromElsewhere, ∅⟩ }

def boundLibrary (principal : Str) : Library :=
  { bobLibrary ∅ true with
    parsePublicKey := fun _ => some (.certificate (boundCertificate principal)) }

def signedRequest (user : Str) : Request :=
  ⟨user, serviceSSH, ascii "publickey", 1 :: bobKey ++ bobSignature⟩

theorem accepted_of_consult {settings : Settings} {allowed : Str → Bool} {user : Str}
    {permissions : Permissions}
    (h : (serverFor settings (boundLibrary user) allowed).consult
      ⟨quietWorld, user, .certificate (boundCertificate user)⟩ = .approved permissions) :
    Accepted (serverFor settings (boundLibrary user) allowed) user (boundCertificate user) := by
  have hOffers : Offers (serverFor settings (boundLibrary user) allowed) (signedRequest user) false
      (ascii "ssh-ed25519-cert-v01@openssh.com") [7] (.certificate (boundCertificate user))
      bobSignature := offers_bob rfl rfl 1 rfl (by decide +kernel)
  have hAdmitted := (consult_approved h).2
  refine ⟨[], connected, ⟨some (signedRequest user), true, quietWorld⟩, signedRequest user, rfl,
    rfl, ⟨_, _, _, hOffers⟩, permissions, ?_, rfl⟩
  exact .passed hOffers parseSignature_bob (fits_bob rfl rfl) rfl h hAdmitted

theorem address_restriction_bob :
    Restricted (boundCertificate bob) ∧
    ∀ allowed, Accepted (serverFor bobSettings (boundLibrary bob) allowed) bob
      (boundCertificate bob) → AddressHolds (boundCertificate bob) allowed :=
  ⟨⟨ascii "10.0.0.1", rfl, by decide⟩,
    (address_restriction_iff bobSettings (boundLibrary bob) bob (boundCertificate bob)
      (accepted_of_consult rfl)).mpr (Or.inl (by decide))⟩

/-- A node logs in from an address that its certificate does not admit. -/
theorem node_from_elsewhere :
    Accepted (serverFor ⟨[], [[1]], ascii "node-a"⟩ (boundLibrary peerUser) fun _ => false)
      peerUser (boundCertificate peerUser) ∧
    ¬ AddressHolds (boundCertificate peerUser) fun _ => false := by
  refine ⟨accepted_of_consult rfl, ?_⟩
  intro h
  cases h (ascii "10.0.0.1") rfl (by decide)

end Addresses

end GatewaySshd.Auth
