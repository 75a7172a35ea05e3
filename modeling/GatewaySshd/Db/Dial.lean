import GatewaySshd.Ssh.Wire

/-! # Reaching the database through a peer

A node that is not beside the database asks a peer for a tunnel to it. The package
of the database cannot use the structure of the gateway package, and has its own.
-/
namespace GatewaySshd.Db.Dial
set_option autoImplicit false

open Ssh

structure TunnelData where
  host : Str
  port : UInt32
  originAddress : Str
  originPort : UInt32

def TunnelData.marshal (data : TunnelData) : Str :=
  stringBytes data.host ++ (uint32Bytes data.port ++
    (stringBytes data.originAddress ++ (uint32Bytes data.originPort ++ [])))

def postgresTunnel : TunnelData := ⟨ascii "postgres", 5432, ascii "localhost", 0⟩

end GatewaySshd.Db.Dial
