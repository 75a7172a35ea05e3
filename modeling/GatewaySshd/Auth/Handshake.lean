import GatewaySshd.Auth.Capabilities
import GatewaySshd.Node.Gateway
import GatewaySshd.Ssh.Login

/-! # Presence over a whole handshake

The callback writes presence when it accepts a key, but the server calls it on
mere queries and before it has seen a signature or the address of the client.
So presence is recorded for logged in users only as long as every client whose
key was accepted goes on to log in.
-/
namespace GatewaySshd.Auth
set_option autoImplicit false

open TtlCache (Time)
open Ssh Db Node Runs

/-- What one call of the callback meets, up to its detached write. -/
structure World where
  env : Env
  ip : Str
  location : Location
  laterFails : Bool
  laterAt : Time
  laterUsers : UserTable

def World.metadata (world : World) (user : Str) : Metadata := ⟨user, world.ip, world.location⟩

structure Library where
  parsePublicKey : Str → Option PublicKey
  keyType : PublicKey → Str
  verify : PublicKey → Bool → Request → Str → Str → Signature → Bool
  sourceAllowed : Str → Bool

/-- NewConfig, with the defaults that NewServerConn puts in. -/
def newConfig (settings : Settings) (library : Library) : ServerConfig World where
  maxAuthTries := 6
  publicKeyAuthAlgorithms := defaultPubKeyAuthAlgos
  publicKeyCallback := fun world user key =>
    (authenticate settings world.env (world.metadata user) key).result.toOption
  parsePublicKey := library.parsePublicKey
  keyType := library.keyType
  verify := library.verify
  sourceAllowed := library.sourceAllowed

def upserts (settings : Settings) (env : Env) (metadata : Metadata) (key : PublicKey) : Bool :=
  metadata.user ≠ peerUser &&
    ((checker env settings.caPublicKeys).authenticate metadata.user key).isOk &&
    (getUserFlags env.readAt metadata.user env.flags).1.isNone && !env.databaseFails

def loginWrites (settings : Settings) (call : Call World) : List UserTable :=
  let metadata := call.world.metadata call.user
  (if upserts settings call.world.env metadata call.key then [call.world.env.users] else []) ++
    if (authenticate settings call.world.env metadata call.key).recordsLater &&
      !call.world.laterFails then [call.world.laterUsers] else []

/-- The call writes node_id and online_at of its user. -/
def RecordsPresence (settings : Settings) (call : Call World) : Prop :=
  ∃ users ∈ loginWrites settings call, isDisabled users call.user = false

def handleConnection {ι ρ : Type} [DecidableEq ρ] (gateway : Gateway ι ρ) (reference : ρ) :
    Phase → Gateway ι ρ
  | .loggedIn user permissions => gateway.publish reference (newConnection user permissions)
  | _ => gateway

theorem RecordsPresence.user_ne_peer {settings : Settings} {call : Call World}
    (h : RecordsPresence settings call) : call.user ≠ peerUser := by
  obtain ⟨users, hUsers, _⟩ := h
  intro hPeer
  have hNone : loginWrites settings call = [] := by
    simp [loginWrites, upserts, authenticate, World.metadata, hPeer]
  rw [hNone] at hUsers
  cases hUsers

theorem publicKeyCallback_eq_some {settings : Settings} {library : Library} {world : World}
    {user : Str} {key : PublicKey} {permissions : Permissions}
    (h : (newConfig settings library).publicKeyCallback world user key = some permissions) :
    (authenticate settings world.env (world.metadata user) key).result = .ok permissions := by
  change (authenticate settings world.env (world.metadata user) key).result.toOption = _ at h
  revert h
  cases (authenticate settings world.env (world.metadata user) key).result with
  | error error => exact nofun
  | ok granted => exact fun h => congrArg _ (Option.some.inj h)

theorem connectionsOf_handleConnection {ι ρ : Type} [DecidableEq ρ] {settings : Settings}
    {library : Library} {final : Session World} {events : List (Event World)}
    (gateway : Gateway ι ρ) (reference : ρ) {user : Str} {permissions : Permissions}
    (hRun : run (serverAuthenticate (newConfig settings library)) connected events = some final)
    (hPhase : final.phase = .loggedIn user permissions) (hUser : user ≠ peerUser) :
    reference ∈ (handleConnection gateway reference final.phase).connectionsOf user := by
  obtain ⟨call, _, rfl, hCallback⟩ := callback_of_loggedIn hRun hPhase
  have hOk := publicKeyCallback_eq_some hCallback
  obtain ⟨certificate, flags, _, _, _, rfl⟩ := authenticate_user_ok hUser hOk
  rw [hPhase, handleConnection, Gateway.connectionsOf_publish, if_pos]
  · exact List.mem_cons_self
  · exact (newConnection_user call.user flags certificate.permissions).2.symm

/-- Presence is recorded for logged in users only, and each of them has a
connection, exactly when nothing but their login ends a handshake in which
presence has been recorded. -/
theorem presence_for_logins_iff {ι ρ : Type} [DecidableEq ρ] (settings : Settings)
    (library : Library) (gateway : Gateway ι ρ) (reference : ρ) (events : List (Event World))
    (final : Session World)
    (hRun : run (serverAuthenticate (newConfig settings library)) connected events = some final)
    (hOver : final.phase ≠ .authenticating) :
    (∀ call ∈ final.calls, RecordsPresence settings call →
      (∃ permissions, final.phase = .loggedIn call.user permissions) ∧
        reference ∈ (handleConnection gateway reference final.phase).connectionsOf call.user) ↔
      Along (serverAuthenticate (newConfig settings library))
        (Completing (newConfig settings library) (RecordsPresence settings)) connected events := by
  rw [← loggedIn_iff_completing rfl hRun hOver]
  constructor
  · exact fun h call hCall hRecords => (h call hCall hRecords).1
  · intro h call hCall hRecords
    obtain ⟨permissions, hPhase⟩ := h call hCall hRecords
    refine ⟨⟨permissions, hPhase⟩, ?_⟩
    exact connectionsOf_handleConnection gateway reference hRun hPhase hRecords.user_ne_peer

section Bob

def bob : Str := ascii "bob"

def bobCertificate (criticalOptions : Options) : Certificate where
  key := [7]
  certType := userCert
  keyId := bob
  validPrincipals := [bob]
  validAfter := 0
  validBefore := certTimeInfinity
  permissions := ⟨criticalOptions, ∅⟩
  signatureKey := [1]
  signature := []

def fromElsewhere : Options := AList.singleton sourceAddressCriticalOption (ascii "10.0.0.1")

def bobLibrary (criticalOptions : Options) (valid : Bool) : Library where
  parsePublicKey := fun _ => some (.certificate (bobCertificate criticalOptions))
  keyType := fun _ => ascii "ssh-ed25519-cert-v01@openssh.com"
  verify := fun _ _ _ _ _ _ => valid
  sourceAllowed := fun _ => false

def bobSettings : Settings := ⟨[[1]], [], ascii "node-a"⟩

def quietWorld : World := ⟨quietEnv, [], [], false, 0, fun _ => none⟩

def bobRequest (payload : Str) : Event World :=
  .packet ⟨some ⟨bob, serviceSSH, ascii "publickey", payload⟩, true, quietWorld⟩

def bobKey : Str := stringBytes (ascii "ssh-ed25519-cert-v01@openssh.com") ++ stringBytes [7]

def bobSignature : Str := stringBytes (stringBytes (ascii "ssh-ed25519") ++ stringBytes [9])

def bobQuery : Event World := bobRequest (0 :: bobKey)

def bobSigned : Event World := bobRequest (1 :: bobKey ++ bobSignature)

def bobHandshake (criticalOptions : Options) (valid : Bool) (events : List (Event World)) :
    Option (Session World) :=
  run (serverAuthenticate (newConfig bobSettings (bobLibrary criticalOptions valid))) connected
    events

theorem underlyingAlgo_bob :
    underlyingAlgo (ascii "ssh-ed25519-cert-v01@openssh.com") = ascii "ssh-ed25519" := by
  decide +kernel

theorem offers_bob {config : ServerConfig World} {key : PublicKey}
    (hAlgos : config.publicKeyAuthAlgorithms = defaultPubKeyAuthAlgos)
    (hKey : config.parsePublicKey [7] = some key) {user payload : Str} (first : UInt8)
    {rest : Str} (hPayload : payload = first :: (bobKey ++ rest)) (hRest : rest.length < 1000) :
    Offers config ⟨user, serviceSSH, ascii "publickey", payload⟩ (first == 0)
      (ascii "ssh-ed25519-cert-v01@openssh.com") [7] key rest := by
  have hAlgo : (ascii "ssh-ed25519-cert-v01@openssh.com").length = 32 := by decide +kernel
  have hKnown : ¬ ascii "ssh-ed25519" ∉ defaultPubKeyAuthAlgos := not_not.mpr List.mem_cons_self
  refine ⟨rfl, rfl, ?_⟩
  rw [hPayload, bobKey, List.append_assoc, ServerConfig.parseOffer,
    parseString_append (by simp [hAlgo]; omega)]
  dsimp only
  rw [hAlgos, underlyingAlgo_bob, if_neg hKnown, parseString_append (by simp; omega)]
  dsimp only
  rw [hKey]

theorem parseSignature_bob :
    parseSignature bobSignature = some (⟨ascii "ssh-ed25519", [9], []⟩, []) := by
  rfl

theorem fits_bob {config : ServerConfig World} {key : PublicKey}
    (hAlgos : config.publicKeyAuthAlgorithms = defaultPubKeyAuthAlgos)
    (hType : config.keyType key = ascii "ssh-ed25519-cert-v01@openssh.com") :
    Fits config (ascii "ssh-ed25519-cert-v01@openssh.com") key
      ⟨ascii "ssh-ed25519", [9], []⟩ where
  key := by
    rw [hType]
    decide +kernel
  accepted := by
    rw [hAlgos]
    exact List.mem_cons_self
  format := by simp [isAlgoCompatible, underlyingAlgo_bob]

section Requests

variable (criticalOptions : Options) (valid : Bool)

def bobConfig : ServerConfig World := newConfig bobSettings (bobLibrary criticalOptions valid)

def bobAsk (payload : Str) : Request := ⟨bob, serviceSSH, ascii "publickey", payload⟩

def bobTurn (payload : Str) : Turn World := ⟨some (bobAsk payload), true, quietWorld⟩

def signedPayload : Str := 1 :: bobKey ++ bobSignature

def bobCall : Call World := ⟨quietWorld, bob, .certificate (bobCertificate criticalOptions)⟩

/-- The first request of a handshake. -/
def afterFirst (payload : Str) : Session World :=
  connected.handle (bobConfig criticalOptions valid) (bobTurn payload) (bobAsk payload)

theorem offers_query :
    Offers (bobConfig criticalOptions valid) (bobAsk (0 :: bobKey)) true
      (ascii "ssh-ed25519-cert-v01@openssh.com") [7] (bobCall criticalOptions).key [] := by
  refine offers_bob rfl rfl 0 ?_ (by decide)
  rw [List.append_nil]

theorem offers_signed :
    Offers (bobConfig criticalOptions valid) (bobAsk signedPayload) false
      (ascii "ssh-ed25519-cert-v01@openssh.com") [7] (bobCall criticalOptions).key
      bobSignature := by
  refine offers_bob rfl rfl 1 rfl ?_
  decide +kernel

theorem consult_bob : ∃ permissions, (bobConfig ∅ valid).consult (bobCall ∅) =
    .approved permissions ∧ (bobConfig ∅ valid).sourceAdmitted permissions = true :=
  ⟨_, rfl, rfl⟩

theorem continues_query :
    Continues (bobConfig ∅ valid) connected (bobTurn (0 :: bobKey)) (bobAsk (0 :: bobKey)) := by
  obtain ⟨permissions, hApproved, _⟩ := consult_bob valid
  exact .query (.okay (offers_query ∅ valid) hApproved) rfl (by decide)

end Requests

def afterLogin : Session World :=
  (afterFirst ∅ true (0 :: bobKey)).handle (bobConfig ∅ true) (bobTurn signedPayload)
    (bobAsk signedPayload)

theorem signsIn_bob :
    ∃ permissions, SignsIn (bobConfig ∅ true) (afterFirst ∅ true (0 :: bobKey))
      (bobTurn signedPayload) (bobAsk signedPayload) permissions := by
  obtain ⟨permissions, hApproved, hAdmitted⟩ := consult_bob true
  have hCache := (handle_connected (offers_query ∅ true) (bobTurn (0 :: bobKey))).2
  have hApproval := (handle_cached (offers_signed ∅ true) (bobTurn signedPayload) hCache).1
  exact ⟨permissions, .passed (offers_signed ∅ true) parseSignature_bob (fits_bob rfl rfl) rfl
    (hApproval.trans hApproved) hAdmitted, rfl⟩

theorem calls_afterLogin : afterLogin.calls = [bobCall ∅] := by
  obtain ⟨hCalls, hCache⟩ := handle_connected (offers_query ∅ true) (bobTurn (0 :: bobKey))
  exact (handle_cached (offers_signed ∅ true) _ hCache).2.trans hCalls

theorem bobHandshake_login :
    bobHandshake ∅ true [bobQuery, bobSigned] = some afterLogin := by
  have hPhase := phase_handle_authenticating.mpr (continues_query true)
  refine run_cons_eq_some.mpr ⟨_, serverAuthenticate_packet rfl rfl, ?_⟩
  exact run_cons_eq_some.mpr ⟨_, serverAuthenticate_packet hPhase rfl, rfl⟩

theorem bobLogin_isSome : (bobHandshake ∅ true [bobQuery, bobSigned]).isSome = true := by
  rw [bobHandshake_login, Option.isSome_some]

def bobLogin : Session World := (bobHandshake ∅ true [bobQuery, bobSigned]).get bobLogin_isSome

theorem bobLogin_eq : bobLogin = afterLogin :=
  Option.some.inj ((Option.some_get _).trans bobHandshake_login)

def idleGateway : Gateway Unit Nat where
  settings := ⟨ascii "node-a", []⟩
  connections := fun _ => newConnection [] ⟨∅, ∅⟩
  connectionsIndex := ∅
  connectionsList := []
  peers := fun _ => none
  routes := ∅

theorem bobLogin_completing :
    Along (serverAuthenticate (newConfig bobSettings (bobLibrary ∅ true)))
      (Completing (newConfig bobSettings (bobLibrary ∅ true)) (RecordsPresence bobSettings))
      connected [bobQuery, bobSigned] := by
  have hPhase := phase_handle_authenticating.mpr (continues_query true)
  refine .cons (fun _ _ _ => Or.inl (continues_query true)) (serverAuthenticate_packet rfl rfl)
    (.cons ?_ (serverAuthenticate_packet hPhase rfl) trivial)
  intro call hCall _
  have hMem : call ∈ afterLogin.calls := hCall
  rw [calls_afterLogin] at hMem
  obtain rfl := List.mem_singleton.mp hMem
  exact Or.inr ⟨rfl, signsIn_bob⟩

/-- A query followed by a good signature: presence is recorded, and Bob logs in. -/
theorem presence_for_logins_bob :
    bobLogin.calls.map Call.user = [bob] ∧
    ∀ call ∈ bobLogin.calls, RecordsPresence bobSettings call →
      (∃ permissions, bobLogin.phase = .loggedIn call.user permissions) ∧
        0 ∈ (handleConnection idleGateway 0 bobLogin.phase).connectionsOf call.user := by
  obtain ⟨permissions, hSignsIn⟩ := signsIn_bob
  have hOver : bobLogin.phase ≠ .authenticating := by
    rw [bobLogin_eq, afterLogin, phase_handle_loggedIn.mpr ⟨rfl, hSignsIn⟩]
    exact nofun
  refine ⟨by rw [bobLogin_eq, calls_afterLogin]; rfl, ?_⟩
  exact (presence_for_logins_iff bobSettings (bobLibrary ∅ true) idleGateway 0
    [bobQuery, bobSigned] bobLogin (Option.some_get _).symm hOver).mpr bobLogin_completing

def RecordedInVain (handshake : Option (Session World)) : Prop :=
  ∃ final, handshake = some final ∧ final.phase = .refused ∧
    ∃ call ∈ final.calls, RecordsPresence bobSettings call

theorem recordsPresence_bob (criticalOptions : Options)
    (h : criticalOptions = ∅ ∨ criticalOptions = fromElsewhere) :
    RecordsPresence bobSettings (bobCall criticalOptions) := by
  refine ⟨fun _ => none, ?_, rfl⟩
  rcases h with rfl | rfl
  · exact List.mem_cons_self
  · exact List.mem_cons_self

theorem recordedInVain_bob {handshake : Option (Session World)} {final : Session World}
    {criticalOptions : Options} (hRun : handshake = some final) (hPhase : final.phase = .refused)
    (hCalls : final.calls = [bobCall criticalOptions])
    (hOptions : criticalOptions = ∅ ∨ criticalOptions = fromElsewhere) :
    RecordedInVain handshake := by
  refine ⟨final, hRun, hPhase, bobCall criticalOptions, ?_, recordsPresence_bob _ hOptions⟩
  rw [hCalls]
  exact List.mem_singleton_self _

theorem judged_badSignature :
    Judged (bobConfig ∅ false) connected (bobTurn signedPayload) (bobAsk signedPayload)
      .fatal := by
  refine .forged (offers_signed ∅ false) parseSignature_bob (fits_bob rfl rfl) ?_
  exact Bool.false_ne_true

theorem continues_wrongAddress :
    Continues (bobConfig fromElsewhere true) connected (bobTurn signedPayload)
      (bobAsk signedPayload) := by
  have hMisplaced : ∃ permissions, (bobConfig fromElsewhere true).consult (bobCall fromElsewhere) =
      .misplaced permissions := ⟨_, rfl⟩
  obtain ⟨_, hApproval⟩ := hMisplaced
  refine .failure (.disapproved (offers_signed fromElsewhere true) parseSignature_bob
    (fits_bob rfl rfl) rfl fun permissions hApproved => ?_) rfl (by decide) (by decide)
  cases hApproval.symm.trans hApproved

/-- A client that only asks whether a key would do, one with a bad signature and
one that is not where its certificate says are all recorded as present. -/
theorem presence_without_login :
    RecordedInVain (bobHandshake ∅ true [bobQuery, .gone]) ∧
    RecordedInVain (bobHandshake ∅ false [bobSigned]) ∧
    RecordedInVain (bobHandshake fromElsewhere true [bobSigned, .gone]) := by
  refine ⟨?_, ?_, ?_⟩
  · have hPhase := phase_handle_authenticating.mpr (continues_query true)
    have hRun : bobHandshake ∅ true [bobQuery, .gone] =
        some (afterFirst ∅ true (0 :: bobKey)).refuse :=
      run_cons_eq_some.mpr ⟨_, serverAuthenticate_packet rfl rfl,
        run_cons_eq_some.mpr ⟨_, serverAuthenticate_gone hPhase, rfl⟩⟩
    have hCalls := (handle_connected (offers_query ∅ true) (bobTurn (0 :: bobKey))).1
    exact recordedInVain_bob hRun rfl hCalls (Or.inl rfl)
  · have hRun : bobHandshake ∅ false [bobSigned] =
        some (afterFirst ∅ false signedPayload) :=
      run_cons_eq_some.mpr ⟨_, serverAuthenticate_packet rfl rfl, rfl⟩
    have hCalls := (handle_connected (offers_signed ∅ false) (bobTurn signedPayload)).1
    exact recordedInVain_bob hRun (phase_handle_fatal judged_badSignature) hCalls (Or.inl rfl)
  · have hPhase := phase_handle_authenticating.mpr continues_wrongAddress
    have hRun : bobHandshake fromElsewhere true [bobSigned, .gone] =
        some (afterFirst fromElsewhere true signedPayload).refuse :=
      run_cons_eq_some.mpr ⟨_, serverAuthenticate_packet rfl rfl,
        run_cons_eq_some.mpr ⟨_, serverAuthenticate_gone hPhase, rfl⟩⟩
    have hCalls := (handle_connected (offers_signed fromElsewhere true) (bobTurn signedPayload)).1
    exact recordedInVain_bob hRun rfl hCalls (Or.inr rfl)

end Bob

end GatewaySshd.Auth
