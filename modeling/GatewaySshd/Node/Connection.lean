import GatewaySshd.Ssh.Certs
import Mathlib.Logic.Function.Basic

/-! # An ssh connection held by a node

The part of a connection that routing and authorization read: who is on the
other end, what they may do, and the services they advertise.
-/
namespace GatewaySshd.Node
set_option autoImplicit false

open Ssh

abbrev Services := Str → Option (UInt16 → Bool)

structure Connection where
  user : Str
  nodeId : Str
  permitPortForwarding : Bool
  administrator : Bool
  services : Services

/-- The record built by handleConnection for an authenticated client. -/
def newConnection (user : Str) (permissions : Permissions) : Connection where
  user := if ascii "peer" ∈ permissions.extensions then [] else user
  nodeId := if ascii "peer" ∈ permissions.extensions then
      (permissions.extensions.lookup (ascii "identity")).getD []
    else []
  permitPortForwarding := decide (ascii "permit-port-forwarding" ∈ permissions.extensions)
  administrator := decide (ascii "administrator" ∈ permissions.extensions)
  services := fun _ => none

def Connection.lookupService (connection : Connection) (host : Str) (port : UInt16) : Bool :=
  match connection.services host with
  | none => false
  | some ports => ports port

inductive RegisterError where
  | serviceAlreadyRegistered
deriving DecidableEq

def Connection.registerService (connection : Connection) (host : Str) (port : UInt16) :
    Except RegisterError Connection :=
  let ports := (connection.services host).getD fun _ => false
  if ports port then .error .serviceAlreadyRegistered
  else .ok { connection with
    services := Function.update connection.services host
      (some (Function.update ports port true)) }

def Connection.deregisterService (connection : Connection) (host : Str) (port : UInt16) :
    Connection :=
  match connection.services host with
  | none => connection
  | some ports => { connection with
    services := Function.update connection.services host
      (some (Function.update ports port false)) }

theorem lookupService_registerService {connection registered : Connection} {host : Str}
    {port : UInt16} (h : connection.registerService host port = .ok registered) (service : Str)
    (served : UInt16) :
    registered.lookupService service served = true ↔
      (service = host ∧ served = port) ∨ connection.lookupService service served = true := by
  rw [Connection.registerService] at h
  split at h
  · cases h
  · cases h
    unfold Connection.lookupService
    by_cases hHost : service = host
    · subst hHost
      by_cases hPort : served = port
      · simp [hPort]
      · cases connection.services service <;> simp [hPort]
    · simp [hHost]

theorem lookupService_deregisterService (connection : Connection) (host : Str) (port : UInt16)
    (service : Str) (served : UInt16) :
    (connection.deregisterService host port).lookupService service served = true ↔
      connection.lookupService service served = true ∧ ¬ (service = host ∧ served = port) := by
  unfold Connection.lookupService Connection.deregisterService
  cases hPorts : connection.services host with
  | none =>
    by_cases hHost : service = host
    · simp [hHost, hPorts]
    · simp [hHost]
  | some ports =>
    by_cases hHost : service = host
    · subst hHost
      by_cases hPort : served = port
      · simp [hPort]
      · simp [hPort, hPorts]
    · simp [hHost]

end GatewaySshd.Node
