import Mathlib.Data.List.Basic

/-! # Strings as the program sees them

User names, hosts and node ids are sequences of bytes: nothing on the wire or
in a certificate restricts them further.
-/
namespace GatewaySshd
set_option autoImplicit false

abbrev Str := List UInt8

-- Membership in a list of strings is decided by this equality.
instance : LawfulBEq Str := List.instLawfulBEq

/-- The bytes of a string literal of the source, all of which are ascii. -/
def ascii (literal : String) : Str := literal.toList.map fun c => c.toNat.toUInt8

def dot : UInt8 := 46

end GatewaySshd
