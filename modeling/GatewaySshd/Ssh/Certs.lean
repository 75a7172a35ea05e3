import GatewaySshd.Text
import Mathlib.Data.List.AList

/-! # The certificate checker of the ssh library

The checker is embedded as vendored. Keys are compared by their wire encoding,
so a key is that encoding. Whether a certificate carries a valid signature of
its signature key is left to the caller: cryptography is not modelled.
-/
namespace GatewaySshd.Ssh
set_option autoImplicit false

abbrev Options := AList (fun _ : Str => Str)

structure Permissions where
  criticalOptions : Options
  extensions : Options
deriving DecidableEq

structure Certificate where
  key : Str
  certType : UInt32
  keyId : Str
  validPrincipals : List Str
  validAfter : UInt64
  validBefore : UInt64
  permissions : Permissions
  signatureKey : Str
  signature : Str
deriving DecidableEq

inductive PublicKey where
  | plain (encoding : Str)
  | certificate (certificate : Certificate)
deriving DecidableEq

def userCert : UInt32 := 1

def certTimeInfinity : UInt64 := 0xffffffffffffffff

def sourceAddressCriticalOption : Str := ascii "source-address"

inductive CertError where
  | normalKeyPair
  | wrongType (certType : UInt32)
  | unrecognizedAuthority
  | unsupportedCriticalOption
  | principalNotListed (principal : Str)
  | notYetValid
  | expired
  | badSignature
deriving DecidableEq

structure CertChecker where
  supportedCriticalOptions : List Str
  isUserAuthority : Str → Bool
  unixNow : Int
  verify : Certificate → Bool

def int64 (n : UInt64) : Int := n.toInt64.toInt

def CertChecker.supports (checker : CertChecker) (option : Str) : Bool :=
  option == sourceAddressCriticalOption || checker.supportedCriticalOptions.contains option

/-- An empty list of principals admits every principal. -/
def principalAllowed (principal : Str) (certificate : Certificate) : Bool :=
  certificate.validPrincipals.isEmpty || certificate.validPrincipals.contains principal

def CertChecker.checkCert (checker : CertChecker) (principal : Str) (certificate : Certificate) :
    Except CertError Unit :=
  if !certificate.permissions.criticalOptions.keys.all checker.supports then
    .error .unsupportedCriticalOption
  else if !principalAllowed principal certificate then
    .error (.principalNotListed principal)
  else if int64 certificate.validAfter < 0 ∨ checker.unixNow < int64 certificate.validAfter then
    .error .notYetValid
  else if certificate.validBefore ≠ certTimeInfinity ∧
      (int64 certificate.validBefore ≤ checker.unixNow ∨ int64 certificate.validBefore < 0) then
    .error .expired
  else if !checker.verify certificate then
    .error .badSignature
  else .ok ()

def CertChecker.authenticate (checker : CertChecker) (user : Str) :
    PublicKey → Except CertError Permissions
  | .plain _ => .error .normalKeyPair
  | .certificate certificate =>
    if certificate.certType ≠ userCert then .error (.wrongType certificate.certType)
    else if !checker.isUserAuthority certificate.signatureKey then .error .unrecognizedAuthority
    else match checker.checkCert user certificate with
      | .error e => .error e
      | .ok () => .ok certificate.permissions

/-- The presented key is a user certificate that the checker accepts. -/
structure CertChecker.Accepts (checker : CertChecker) (user : Str) (certificate : Certificate) :
    Prop where
  type : certificate.certType = userCert
  authority : checker.isUserAuthority certificate.signatureKey = true
  checked : checker.checkCert user certificate = .ok ()

theorem CertChecker.authenticate_ok_iff (checker : CertChecker) (user : Str) (key : PublicKey)
    (permissions : Permissions) :
    checker.authenticate user key = .ok permissions ↔
      ∃ certificate, key = .certificate certificate ∧ checker.Accepts user certificate ∧
        permissions = certificate.permissions := by
  constructor
  · intro h
    cases key with
    | plain encoding => cases h
    | certificate certificate =>
      rw [CertChecker.authenticate] at h
      split at h
      · cases h
      · rename_i hType
        split at h
        · cases h
        · rename_i hAuthority
          split at h
          · cases h
          · rename_i hChecked
            cases h
            exact ⟨certificate, rfl, ⟨not_not.mp hType, by simpa using hAuthority, hChecked⟩, rfl⟩
  · rintro ⟨certificate, rfl, ⟨hType, hAuthority, hChecked⟩, rfl⟩
    simp [CertChecker.authenticate, hType, hAuthority, hChecked]

end GatewaySshd.Ssh
