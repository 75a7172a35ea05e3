import GatewaySshd.Lib.Runs
import GatewaySshd.Ssh.Certs
import GatewaySshd.Ssh.Wire

/-! # The authentication loop of the ssh server

The loop is embedded as vendored, for a server that offers public keys only. It
asks the callback about a key before it looks at the signature, and again about
the address of the client afterwards. Signatures, keys and addresses are left to
the caller. The callback sees the world as it is when it is called.
-/
namespace GatewaySshd.Ssh
set_option autoImplicit false

open Runs

structure Request where
  user : Str
  service : Str
  method : Str
  payload : Str

structure Signature where
  format : Str
  blob : Str
  rest : Str

def serviceSSH : Str := ascii "ssh-connection"

def maxAuthServerAttempts : Nat := 128

def certKeyAlgoNames : List (Str × Str) :=
  [(ascii "ssh-rsa-cert-v01@openssh.com", ascii "ssh-rsa"),
    (ascii "rsa-sha2-256-cert-v01@openssh.com", ascii "rsa-sha2-256"),
    (ascii "rsa-sha2-512-cert-v01@openssh.com", ascii "rsa-sha2-512"),
    (ascii "ssh-dss-cert-v01@openssh.com", ascii "ssh-dss"),
    (ascii "ecdsa-sha2-nistp256-cert-v01@openssh.com", ascii "ecdsa-sha2-nistp256"),
    (ascii "ecdsa-sha2-nistp384-cert-v01@openssh.com", ascii "ecdsa-sha2-nistp384"),
    (ascii "ecdsa-sha2-nistp521-cert-v01@openssh.com", ascii "ecdsa-sha2-nistp521"),
    (ascii "sk-ecdsa-sha2-nistp256-cert-v01@openssh.com",
      ascii "sk-ecdsa-sha2-nistp256@openssh.com"),
    (ascii "ssh-ed25519-cert-v01@openssh.com", ascii "ssh-ed25519"),
    (ascii "sk-ssh-ed25519-cert-v01@openssh.com", ascii "sk-ssh-ed25519@openssh.com")]

def defaultPubKeyAuthAlgos : List Str :=
  [ascii "ssh-ed25519", ascii "sk-ssh-ed25519@openssh.com",
    ascii "sk-ecdsa-sha2-nistp256@openssh.com", ascii "ecdsa-sha2-nistp256",
    ascii "ecdsa-sha2-nistp384", ascii "ecdsa-sha2-nistp521", ascii "rsa-sha2-256",
    ascii "rsa-sha2-512", ascii "ssh-rsa", ascii "ssh-dss"]

def underlyingAlgo (algo : Str) : Str := (certKeyAlgoNames.lookup algo).getD algo

def algorithmsForKeyFormat (keyFormat : Str) : List Str :=
  if keyFormat = ascii "ssh-rsa" then
    [ascii "rsa-sha2-256", ascii "rsa-sha2-512", ascii "ssh-rsa"]
  else if keyFormat = ascii "ssh-rsa-cert-v01@openssh.com" then
    [ascii "rsa-sha2-256-cert-v01@openssh.com", ascii "rsa-sha2-512-cert-v01@openssh.com",
      ascii "ssh-rsa-cert-v01@openssh.com"]
  else [keyFormat]

def isRSA (algo : Str) : Bool :=
  (algorithmsForKeyFormat (ascii "ssh-rsa")).contains (underlyingAlgo algo)

def isAlgoCompatible (algo sigFormat : Str) : Bool :=
  (isRSA algo && isRSA sigFormat) || underlyingAlgo algo == sigFormat

def securityKeyFormats : List Str :=
  [ascii "sk-ecdsa-sha2-nistp256@openssh.com",
    ascii "sk-ecdsa-sha2-nistp256-cert-v01@openssh.com", ascii "sk-ssh-ed25519@openssh.com",
    ascii "sk-ssh-ed25519-cert-v01@openssh.com"]

def parseSignatureBody (input : Str) : Option (Signature × Str) :=
  (parseString input).bind fun (format, input) =>
    (parseString input).map fun (blob, input) =>
      if format ∈ securityKeyFormats then (⟨format, blob, input⟩, [])
      else (⟨format, blob, []⟩, input)

def parseSignature (input : Str) : Option (Signature × Str) :=
  (parseString input).bind fun (body, rest) =>
    (parseSignatureBody body).bind fun (signature, trailing) =>
      if trailing = [] then some (signature, rest) else none

def noTouchRequiredExtension : Str := ascii "no-touch-required"

def noTouchAllowed (key : PublicKey) (permissions : Option Permissions) : Bool :=
  permissions.any (fun permissions => decide (noTouchRequiredExtension ∈ permissions.extensions)) ||
    match key with
    | .plain _ => false
    | .certificate certificate => noTouchRequiredExtension ∈ certificate.permissions.extensions

universe u

structure ServerConfig (τ : Type u) where
  maxAuthTries : Int
  publicKeyAuthAlgorithms : List Str
  publicKeyCallback : τ → Str → PublicKey → Option Permissions
  parsePublicKey : Str → Option PublicKey
  keyType : PublicKey → Str
  -- the key, whether touch is waived, and what was signed: the request, its algorithm and key
  verify : PublicKey → Bool → Request → Str → Str → Signature → Bool
  sourceAllowed : Str → Bool

structure Call (τ : Type u) where
  world : τ
  user : Str
  key : PublicKey

inductive Approval where
  | refused
  -- accepted by the callback, but not from this address
  | misplaced (permissions : Permissions)
  | approved (permissions : Permissions)

structure CachedPubKey where
  user : Str
  pubKeyData : Str
  approval : Approval

inductive Phase where
  | authenticating
  | refused
  | loggedIn (user : Str) (permissions : Permissions)

structure Session (τ : Type u) where
  phase : Phase
  authFailures : Nat
  authAttempts : Nat
  noneAuthCount : Nat
  -- at most one key is cached
  cache : Option CachedPubKey
  calls : List (Call τ)

/-- A packet, none if it could not be decoded, and whether its reply could be sent. -/
structure Turn (τ : Type u) where
  request : Option Request
  delivered : Bool
  world : τ

inductive Event (τ : Type u) where
  | packet (turn : Turn τ)
  | gone

variable {τ : Type u} (config : ServerConfig τ)

def Approval.permissions : Approval → Option Permissions
  | .refused => none
  | .misplaced permissions => some permissions
  | .approved permissions => some permissions

def ServerConfig.sourceAdmitted (permissions : Permissions) : Bool :=
  match permissions.criticalOptions.lookup sourceAddressCriticalOption with
  | none => true
  | some addresses => addresses == [] || config.sourceAllowed addresses

def ServerConfig.consult (call : Call τ) : Approval :=
  match config.publicKeyCallback call.world call.user call.key with
  | none => .refused
  | some permissions =>
    if config.sourceAdmitted permissions then .approved permissions else .misplaced permissions

def Session.cached (session : Session τ) (user pubKeyData : Str) : Option Approval :=
  match session.cache with
  | none => none
  | some entry =>
    if entry.user = user ∧ entry.pubKeyData = pubKeyData then some entry.approval else none

def Session.approval (session : Session τ) (call : Call τ) (pubKeyData : Str) : Approval :=
  (session.cached call.user pubKeyData).getD (config.consult call)

inductive Offer where
  | malformed
  | notAccepted
  | offered (isQuery : Bool) (algo pubKeyData : Str) (key : PublicKey) (rest : Str)

def ServerConfig.parseOffer : Str → Offer
  | [] => .malformed
  | first :: payload =>
    match parseString payload with
    | none => .malformed
    | some (algo, payload) =>
      if underlyingAlgo algo ∉ config.publicKeyAuthAlgorithms then .notAccepted
      else match parseString payload with
        | none => .malformed
        | some (pubKeyData, rest) =>
          match config.parsePublicKey pubKeyData with
          | none => .malformed
          | some key => .offered (first == 0) algo pubKeyData key rest

inductive Verdict where
  -- the loop returns an error
  | fatal
  -- a key query is answered
  | okay
  | failed
  | passed (permissions : Permissions)

def judgeQuery (approval : Approval) (rest : Str) : Verdict :=
  if rest ≠ [] then .fatal
  else match approval with
    | .approved _ => .okay
    | _ => .failed

/-- After the signature, the address is checked once more. -/
def ServerConfig.judgeVerified : Approval → Verdict
  | .approved permissions =>
    if config.sourceAdmitted permissions then .passed permissions else .failed
  | _ => .failed

def ServerConfig.judgeSigned (request : Request) (approval : Approval) (algo pubKeyData : Str)
    (key : PublicKey) (rest : Str) : Verdict :=
  match parseSignature rest with
  | none => .fatal
  | some (signature, trailing) =>
    if trailing ≠ [] then .fatal
    else if algo ∉ algorithmsForKeyFormat (config.keyType key) then .failed
    else if signature.format ∉ config.publicKeyAuthAlgorithms then .failed
    else if !isAlgoCompatible algo signature.format then .failed
    else if !config.verify key (noTouchAllowed key approval.permissions) request algo pubKeyData
        signature then .fatal
    else config.judgeVerified approval

def Session.verdict (session : Session τ) (turn : Turn τ) (request : Request) : Verdict :=
  if request.service ≠ serviceSSH then .fatal
  else if request.method = ascii "none" then .failed
  else if request.method = ascii "publickey" then
    match config.parseOffer request.payload with
    | .malformed => .fatal
    | .notAccepted => .failed
    | .offered isQuery algo pubKeyData key rest =>
      let approval := session.approval config ⟨turn.world, request.user, key⟩ pubKeyData
      if isQuery then judgeQuery approval rest
      else config.judgeSigned request approval algo pubKeyData key rest
  -- password, keyboard-interactive and gssapi-with-mic are not configured
  else .failed

/-- The key that a request is about, if it gets that far. -/
def ServerConfig.asked (turn : Turn τ) (request : Request) : Option (Call τ × Str) :=
  if request.service = serviceSSH ∧ request.method = ascii "publickey" then
    match config.parseOffer request.payload with
    | .offered _ _ pubKeyData key _ => some (⟨turn.world, request.user, key⟩, pubKeyData)
    | _ => none
  else none

/-- The calls of the callback: one if the key asked about is not cached. -/
def Session.consults (session : Session τ) (turn : Turn τ) (request : Request) : List (Call τ) :=
  match config.asked turn request with
  | none => []
  | some (call, pubKeyData) =>
    match session.cached call.user pubKeyData with
    | none => [call]
    | some _ => []

def Session.remember (session : Session τ) (turn : Turn τ) (request : Request) :
    Option CachedPubKey :=
  match config.asked turn request with
  | none => session.cache
  | some (call, pubKeyData) =>
    some ⟨call.user, pubKeyData, session.approval config call pubKeyData⟩

/-- The failures after one more; an initial attempt of none is without penalty. -/
def Session.penalty (session : Session τ) (request : Request) : Nat :=
  if 0 < session.authFailures ∨ request.method ≠ ascii "none" ∨ session.noneAuthCount ≠ 0 then
    session.authFailures + 1
  else session.authFailures

def ServerConfig.exhausted (failures : Nat) : Bool :=
  0 < config.maxAuthTries && config.maxAuthTries ≤ failures

def Session.goesOn (session : Session τ) (turn : Turn τ) (request : Request) : Verdict → Bool
  | .okay => turn.delivered && session.authAttempts + 1 < maxAuthServerAttempts
  | .failed => turn.delivered && !config.exhausted (session.penalty request) &&
      session.authAttempts + 1 < maxAuthServerAttempts
  | _ => false

def Session.phaseAfter (session : Session τ) (turn : Turn τ) (request : Request)
    (verdict : Verdict) : Phase :=
  match verdict with
  | .passed permissions => if turn.delivered then .loggedIn request.user permissions else .refused
  | verdict => if session.goesOn config turn request verdict then .authenticating else .refused

def Session.refuse (session : Session τ) : Session τ := { session with phase := .refused }

def Session.handle (session : Session τ) (turn : Turn τ) (request : Request) : Session τ :=
  let verdict := session.verdict config turn request
  { phase := session.phaseAfter config turn request verdict
    authFailures := match verdict with
      | .failed => session.penalty request
      | _ => session.authFailures
    authAttempts := session.authAttempts + 1
    noneAuthCount := if request.service = serviceSSH ∧ request.method = ascii "none" then
        session.noneAuthCount + 1
      else session.noneAuthCount
    cache := session.remember config turn request
    calls := session.consults config turn request ++ session.calls }

/-- One iteration of serverAuthenticate, as long as it has not returned. -/
def serverAuthenticate (session : Session τ) (event : Event τ) : Option (Session τ) :=
  match session.phase with
  | .authenticating =>
    match event with
    | .packet turn =>
      match turn.request with
      | none => some session.refuse
      | some request => some (session.handle config turn request)
    | .gone => some session.refuse
  | _ => none

def connected : Session τ := ⟨.authenticating, 0, 0, 0, none, []⟩

end GatewaySshd.Ssh
