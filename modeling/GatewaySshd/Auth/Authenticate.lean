import GatewaySshd.Ssh.Certs
import GatewaySshd.Db.Users

/-! # The public key callback

One call of the callback, run to completion: what it answers, what it leaves
in the cache of account flags and in the user table, and whether it started a
goroutine that records the login later.
-/
namespace GatewaySshd.Auth
set_option autoImplicit false

open TtlCache (Time Cache)
open Ssh Db

def peerUser : Str := ascii "peer"

structure Settings where
  caPublicKeys : List Str
  peerCAPublicKeys : List Str
  nodeID : Str

structure UserFlags where
  administrator : Bool
  disabled : Bool
deriving DecidableEq

abbrev FlagsCache := Cache Str UserFlags

def userFlagsTimeToLive : Time := 60000000000

def userFlagsMaxEntries : Nat := 4096

def getUserFlags (now : Time) (userId : Str) (cache : FlagsCache) : Option UserFlags × FlagsCache :=
  TtlCache.getDropping now userId cache

def User.flags (user : User) : UserFlags := ⟨user.administrator, user.disabled⟩

def putUserFlags (cleanAt storeAt : Time) (userId : Str) (user : User) (cache : FlagsCache) :
    FlagsCache :=
  TtlCache.put userFlagsMaxEntries userFlagsTimeToLive cleanAt storeAt userId (User.flags user)
    cache

def revokeUserFlags (userId : Str) (cache : FlagsCache) : FlagsCache := cache.erase userId

inductive AuthError where
  | invalidCredentials
  | certificate (error : CertError)
  | database
deriving DecidableEq

structure Metadata where
  user : Str
  ip : Str
  location : Location
deriving DecidableEq

/-- Everything one call reads: the certificate clock and signatures, the two
stores, whether the statement of the call fails, and its clock readings. -/
structure Env where
  unixNow : Int
  verify : Certificate → Bool
  flags : FlagsCache
  users : UserTable
  databaseFails : Bool
  readAt : Time
  statementAt : Time
  cleanAt : Time
  storeAt : Time

structure Outcome where
  result : Except AuthError Permissions
  flags : FlagsCache
  users : UserTable
  recordsLater : Bool

def Env.refuse (env : Env) (flags : FlagsCache) (error : AuthError) : Outcome :=
  ⟨.error error, flags, env.users, false⟩

def checker (env : Env) (authorities : List Str) : CertChecker where
  supportedCriticalOptions := []
  isUserAuthority key := authorities.contains key
  unixNow := env.unixNow
  verify := env.verify

def peerPermissions (keyId : Str) : Permissions where
  criticalOptions := ∅
  extensions := (AList.singleton (ascii "identity") keyId).insert (ascii "peer") []

def authenticatePeer (settings : Settings) (env : Env) (metadata : Metadata) (key : PublicKey) :
    Except AuthError Permissions :=
  if settings.peerCAPublicKeys = [] then .error .invalidCredentials
  else match (checker env settings.peerCAPublicKeys).authenticate metadata.user key with
    | .error e => .error (.certificate e)
    | .ok _ => match key with
      | .plain _ => .error .invalidCredentials
      | .certificate certificate =>
        if certificate.keyId = [] then .error .invalidCredentials
        else .ok (peerPermissions certificate.keyId)

def scrubbed (permissions : Permissions) : Permissions :=
  { permissions with
    extensions := (permissions.extensions.erase (ascii "peer")).erase (ascii "identity") }

def granted (flags : UserFlags) (permissions : Permissions) : Permissions :=
  if flags.administrator then
    { permissions with extensions := permissions.extensions.insert (ascii "administrator") [] }
  else permissions

def upsertLogin (settings : Settings) (env : Env) (metadata : Metadata) : User × UserTable :=
  upsertUserOnConnect env.statementAt metadata.user metadata.ip metadata.location settings.nodeID
    env.users

def authenticate (settings : Settings) (env : Env) (metadata : Metadata) (key : PublicKey) :
    Outcome :=
  if metadata.user = peerUser then
    ⟨authenticatePeer settings env metadata key, env.flags, env.users, false⟩
  else match (checker env settings.caPublicKeys).authenticate metadata.user key with
    | .error e => env.refuse env.flags (.certificate e)
    | .ok permissions =>
      match getUserFlags env.readAt metadata.user env.flags with
      | (some flags, cache) =>
        if flags.disabled then env.refuse cache .invalidCredentials
        else ⟨.ok (granted flags (scrubbed permissions)), cache, env.users, true⟩
      | (none, cache) =>
        if env.databaseFails then env.refuse cache .database
        else
          let (user, users) := upsertLogin settings env metadata
          let cache := putUserFlags env.cleanAt env.storeAt metadata.user user cache
          if user.disabled then ⟨.error .invalidCredentials, cache, users, false⟩
          else ⟨.ok (granted (User.flags user) (scrubbed permissions)), cache, users, false⟩

theorem authenticatePeer_ok {settings : Settings} {env : Env} {metadata : Metadata}
    {key : PublicKey} {permissions : Permissions}
    (h : authenticatePeer settings env metadata key = .ok permissions) :
    ∃ certificate, key = .certificate certificate ∧
      (checker env settings.peerCAPublicKeys).Accepts metadata.user certificate ∧
      certificate.keyId ≠ [] ∧ permissions = peerPermissions certificate.keyId := by
  unfold authenticatePeer at h
  split at h
  · cases h
  · split at h
    · cases h
    · rename_i accepted hAccepted
      obtain ⟨certificate, rfl, hAccepts, _⟩ :=
        (CertChecker.authenticate_ok_iff _ _ _ _).mp hAccepted
      dsimp only at h
      split at h
      · cases h
      · rename_i hKeyId
        cases h
        exact ⟨certificate, rfl, hAccepts, hKeyId, rfl⟩

/-- The flags a regular login is decided by: those in the cache, or else those of
the row that the statement of the call returns. -/
def decidingFlags (settings : Settings) (env : Env) (metadata : Metadata) : UserFlags :=
  match (getUserFlags env.readAt metadata.user env.flags).1 with
  | some flags => flags
  | none => User.flags (upsertLogin settings env metadata).1

theorem authenticate_user_decided {settings : Settings} {env : Env} {metadata : Metadata}
    {key : PublicKey} {permissions : Permissions} (hUser : metadata.user ≠ peerUser)
    (h : (authenticate settings env metadata key).result = .ok permissions) :
    ∃ certificate, key = .certificate certificate ∧
      (checker env settings.caPublicKeys).Accepts metadata.user certificate ∧
      (decidingFlags settings env metadata).disabled = false ∧
      permissions =
        granted (decidingFlags settings env metadata) (scrubbed certificate.permissions) := by
  unfold authenticate at h
  rw [if_neg hUser] at h
  split at h
  · cases h
  · rename_i certified hCertified
    obtain ⟨certificate, rfl, hAccepts, rfl⟩ :=
      (CertChecker.authenticate_ok_iff _ _ _ _).mp hCertified
    refine ⟨certificate, rfl, hAccepts, ?_⟩
    unfold decidingFlags
    split at h
    · rename_i flags cache hCached
      rw [hCached]
      split at h
      · cases h
      · rename_i hEnabled
        cases h
        exact ⟨by simpa using hEnabled, rfl⟩
    · rename_i cache hMissed
      rw [hMissed]
      split at h
      · cases h
      · dsimp only at h
        split at h
        · cases h
        · rename_i hEnabled
          cases h
          exact ⟨by simpa [User.flags] using hEnabled, rfl⟩

/-- A regular login is granted on an accepted certificate and on flags that are
not disabled; its permissions are those of the certificate without the peer
markers, and the administrator marker added by those flags. -/
theorem authenticate_user_ok {settings : Settings} {env : Env} {metadata : Metadata}
    {key : PublicKey} {permissions : Permissions} (hUser : metadata.user ≠ peerUser)
    (h : (authenticate settings env metadata key).result = .ok permissions) :
    ∃ certificate flags, key = .certificate certificate ∧
      (checker env settings.caPublicKeys).Accepts metadata.user certificate ∧
      flags.disabled = false ∧ permissions = granted flags (scrubbed certificate.permissions) := by
  obtain ⟨certificate, hKey, hAccepts, hEnabled, hPermissions⟩ := authenticate_user_decided hUser h
  exact ⟨certificate, _, hKey, hAccepts, hEnabled, hPermissions⟩

end GatewaySshd.Auth
