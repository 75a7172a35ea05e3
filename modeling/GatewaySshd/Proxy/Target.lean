import GatewaySshd.Lib.HostPort
import GatewaySshd.Text

/-! # The target of a request to the http proxy

The host of a request is split into a host and a port. Whether the port is only
missing is read off the text of the error, and that text repeats the address.
-/
namespace GatewaySshd.Proxy
set_option autoImplicit false

open HostPort (Fault NumberError NoBrackets Numeral Written colon decimal parseUint)

def faultText : Fault → Str
  | .missingPort => ascii "missing port in address"
  | .tooManyColons => ascii "too many colons in address"
  | .missingClosing => ascii "missing ']' in address"
  | .unexpectedOpening => ascii "unexpected '[' in address"
  | .unexpectedClosing => ascii "unexpected ']' in address"

/-- The text of an AddrError. -/
def addressError (address : Str) (fault : Fault) : Str :=
  if address = [] then faultText fault
  else ascii "address " ++ address ++ ascii ": " ++ faultText fault

inductive TargetError where
  | address (text : Str)
  | port (error : NumberError)
deriving DecidableEq

def splitHostPort (hostPort : Str) (defaultPort : UInt16) : Except TargetError (Str × UInt16) :=
  match HostPort.splitHostPort hostPort with
  | .error fault =>
    if ascii "missing port" <:+: addressError hostPort fault then .ok (hostPort, defaultPort)
    else .error (.address (addressError hostPort fault))
  | .ok (host, portString) =>
    match parseUint 16 portString with
    | .error error => .error (.port error)
    | .ok port => .ok (host, port.toUInt16)

/-- The text of an error has the words in it if it is about them, or if the address
has them. -/
theorem missing_port_in_error_iff (address : Str) (fault : Fault) :
    ascii "missing port" <:+: addressError address fault ↔
      fault = .missingPort ∨ ascii "missing port" <:+: address := by
  have hText : ascii "missing port" <:+: faultText fault ↔ fault = .missingPort := by
    cases fault <;> decide
  unfold addressError
  split
  · rename_i hEmpty
    subst hEmpty
    rw [hText, or_iff_left (by decide)]
  · -- the words have no colon, and nothing of what stands before the address starts them
    have hColon : ascii "address " ++ address ++ ascii ": " ++ faultText fault =
        (ascii "address " ++ address) ++ colon :: (ascii " " ++ faultText fault) := by
      simp only [List.append_assoc]
      rfl
    have hFront : ascii "missing port" <:+: ascii "address " ++ address ↔
        ascii "missing port" <:+: address := HostPort.infix_behind (by decide)
    have hBack : ascii "missing port" <:+: ascii " " ++ faultText fault ↔
        ascii "missing port" <:+: faultText fault := HostPort.infix_behind (by decide)
    rw [hColon, HostPort.infix_around (by decide) (by decide), hFront, hBack, hText, or_comm]

/-- The address has no port, in the sense of package net. -/
def NoPort (hostPort : Str) : Prop := HostPort.splitHostPort hostPort = .error .missingPort

/-- The targets an address can be read as. -/
inductive Target (hostPort : Str) (defaultPort : UInt16) : Str → UInt16 → Prop where
  | defaulted (hMissing : NoPort hostPort) : Target hostPort defaultPort hostPort defaultPort
  | written {host portString : Str} {port : UInt16} (hWritten : Written host portString hostPort)
      (hNumeral : Numeral portString port.toNat) : Target hostPort defaultPort host port

/-- Exactly the targets are returned, and writing out the default port changes nothing. -/
structure ReadsTarget (hostPort : Str) (defaultPort : UInt16) : Prop where
  exact : ∀ host port, splitHostPort hostPort defaultPort = .ok (host, port) ↔
    Target hostPort defaultPort host port
  explicit : NoPort hostPort →
    splitHostPort (hostPort ++ colon :: decimal defaultPort.toNat) defaultPort =
      splitHostPort hostPort defaultPort

section Split

variable {hostPort host portString : Str} {port defaultPort : UInt16} {fault : Fault}

theorem splitHostPort_written (h : Written host portString hostPort) :
    splitHostPort hostPort defaultPort = .ok (host, port) ↔ Numeral portString port.toNat := by
  rw [splitHostPort, h.splitHostPort]
  dsimp only
  constructor
  · intro hOk
    split at hOk
    · cases hOk
    · rename_i value hParse
      obtain ⟨hNumeral, hFits⟩ := HostPort.parseUint_eq_ok_iff.mp hParse
      cases hOk
      rw [Nat.toUInt16, UInt16.toNat_ofNat_of_lt' (Nat.lt_of_le_of_lt hFits (by decide))]
      exact hNumeral
  · intro hNumeral
    have hParse := HostPort.parseUint_eq_ok_iff.mpr
      ⟨hNumeral, (Nat.le_of_lt_succ port.toNat_lt : port.toNat ≤ 1 <<< 16 - 1)⟩
    rw [hParse]
    exact congrArg (fun value => Except.ok (host, value)) UInt16.ofNat_toNat

theorem splitHostPort_fault (h : HostPort.splitHostPort hostPort = .error fault) :
    splitHostPort hostPort defaultPort =
      if fault = .missingPort ∨ ascii "missing port" <:+: hostPort then .ok (hostPort, defaultPort)
      else .error (.address (addressError hostPort fault)) := by
  simp only [splitHostPort, h, missing_port_in_error_iff]

theorem splitHostPort_missing (h : NoPort hostPort) :
    splitHostPort hostPort defaultPort = .ok (hostPort, defaultPort) := by
  rw [splitHostPort_fault h, if_pos (Or.inl rfl)]

/-- What is returned was taken whole, or was written with a port. -/
theorem splitHostPort_eq_ok (h : splitHostPort hostPort defaultPort = .ok (host, port)) :
    (host = hostPort ∧ port = defaultPort ∧
        ∃ fault, HostPort.splitHostPort hostPort = .error fault ∧
          (fault = .missingPort ∨ ascii "missing port" <:+: hostPort)) ∨
      ∃ portString, Written host portString hostPort ∧ Numeral portString port.toNat := by
  cases hSplit : HostPort.splitHostPort hostPort with
  | error fault =>
    rw [splitHostPort_fault hSplit] at h
    split at h
    · rename_i hTaken
      cases h
      exact Or.inl ⟨rfl, rfl, fault, rfl, hTaken⟩
    · cases h
  | ok result =>
    obtain ⟨found, portString⟩ := result
    have hWritten := HostPort.splitHostPort_eq_ok_iff.mp hSplit
    have hHost : found = host := by
      simp only [splitHostPort, hSplit] at h
      split at h
      · cases h
      · cases h
        rfl
    subst hHost
    exact Or.inr ⟨portString, hWritten, (splitHostPort_written hWritten).mp h⟩

theorem Target.splitHostPort (h : Target hostPort defaultPort host port) :
    splitHostPort hostPort defaultPort = .ok (host, port) := by
  cases h with
  | defaulted hMissing => exact splitHostPort_missing hMissing
  | written hWritten hNumeral => exact (splitHostPort_written hWritten).mpr hNumeral

end Split

/-- An address that is wrong in another way must not have the words of the error in
it, and an address without a port must not have brackets. -/
theorem target_parsing_exact_iff (hostPort : Str) (defaultPort : UInt16) :
    ReadsTarget hostPort defaultPort ↔
      (NoPort hostPort → NoBrackets hostPort) ∧
        ∀ fault, HostPort.splitHostPort hostPort = .error fault → fault ≠ .missingPort →
          ¬ ascii "missing port" <:+: hostPort := by
  constructor
  · intro h
    refine ⟨?_, ?_⟩
    · -- only a host without brackets is found again in front of the port
      intro hMissing
      have hExplicit := h.explicit hMissing
      rw [splitHostPort_missing hMissing] at hExplicit
      rcases splitHostPort_eq_ok hExplicit with ⟨hWhole, _⟩ | ⟨portString, hWritten, _⟩
      · exact absurd hWhole (by simp)
      · exact hWritten.noBrackets
    · intro fault hFault hOther hWords
      have hOk : splitHostPort hostPort defaultPort = .ok (hostPort, defaultPort) := by
        rw [splitHostPort_fault hFault, if_pos (Or.inr hWords)]
      cases (h.exact hostPort defaultPort).mp hOk with
      | defaulted hMissing => exact hOther (Except.error.inj (hFault.symm.trans hMissing))
      | written hWritten _ =>
        have := hFault.symm.trans hWritten.splitHostPort
        cases this
  · rintro ⟨hBrackets, hWords⟩
    refine ⟨fun host port => ⟨?_, Target.splitHostPort⟩, ?_⟩
    · intro hOk
      rcases splitHostPort_eq_ok hOk with ⟨rfl, rfl, fault, hFault, hTaken⟩ | ⟨_, hWritten, hPort⟩
      · by_cases hMissing : fault = .missingPort
        · subst hMissing
          exact .defaulted hFault
        · exact absurd (hTaken.resolve_left hMissing) (hWords fault hFault hMissing)
      · exact .written hWritten hPort
    intro hMissing
    have hPlain := hBrackets hMissing
    have hColon : colon ∉ hostPort := by
      rcases HostPort.splitHostPort_eq_missingPort_iff.mp hMissing with hColon | hBare
      · exact hColon
      · obtain ⟨inner, rest, rfl, _⟩ := hBare
        exact absurd (by simp) hPlain.1
    have hNumeral := HostPort.numeral_decimal defaultPort.toNat
    have hWritten := Written.plain hColon hPlain hNumeral.colon_not_mem hNumeral.noBrackets
    rw [splitHostPort_missing hMissing]
    exact (splitHostPort_written hWritten).mpr hNumeral

/-- An address with too many colons is taken whole, and a host in brackets keeps them
unless its port is written out. -/
theorem target_misread :
    (HostPort.splitHostPort (ascii "missing port:1:2") = .error .tooManyColons ∧
        splitHostPort (ascii "missing port:1:2") 443 = .ok (ascii "missing port:1:2", 443) ∧
        ¬ ReadsTarget (ascii "missing port:1:2") 443) ∧
      splitHostPort (ascii "[::1]") 443 = .ok (ascii "[::1]", 443) ∧
        splitHostPort (ascii "[::1]:443") 443 = .ok (ascii "::1", 443) ∧
        ¬ ReadsTarget (ascii "[::1]") 443 := by
  have hColons : HostPort.splitHostPort (ascii "missing port:1:2") = .error .tooManyColons := by
    decide
  have hWhole : splitHostPort (ascii "missing port:1:2") 443 =
      .ok (ascii "missing port:1:2", 443) := by decide
  have hMissing : HostPort.splitHostPort (ascii "[::1]") = .error .missingPort := by decide
  have hBare : splitHostPort (ascii "[::1]") 443 = .ok (ascii "[::1]", 443) := by decide
  have hExplicit : splitHostPort (ascii "[::1]:443") 443 = .ok (ascii "::1", 443) := by decide
  refine ⟨⟨hColons, hWhole, ?_⟩, hBare, hExplicit, ?_⟩
  · intro h
    cases (h.exact _ _).mp hWhole with
    | defaulted hNoPort =>
      have := Except.error.inj (hColons.symm.trans hNoPort)
      cases this
    | written hWritten _ =>
      have := hColons.symm.trans hWritten.splitHostPort
      cases this
  · intro h
    have hSame : (Except.ok (ascii "::1", 443) : Except TargetError (Str × UInt16)) =
        .ok (ascii "[::1]", 443) := (hExplicit.symm.trans (h.explicit hMissing)).trans hBare
    exact absurd hSame (by decide)

end GatewaySshd.Proxy
