import Mathlib.Data.List.Basic

/-! # The texts of json values

A value is kept with its layout: the white space between its parts, the digits of
its numbers and the escapes of its strings. What it is written as is a function of
that, and every valid text of a value is written so.
-/
namespace GatewaySshd.Json
set_option autoImplicit false

def IsBlank (byte : UInt8) : Prop := byte = 9 ∨ byte = 10 ∨ byte = 13 ∨ byte = 32

instance (byte : UInt8) : Decidable (IsBlank byte) :=
  inferInstanceAs (Decidable (byte = 9 ∨ byte = 10 ∨ byte = 13 ∨ byte = 32))

structure Blank where
  bytes : List UInt8
  blank : ∀ byte ∈ bytes, IsBlank byte

structure Digits where
  bytes : List UInt8
  nonempty : bytes ≠ []
  digits : ∀ byte ∈ bytes, 48 ≤ byte ∧ byte ≤ 57

/-- An integer has no leading zero. -/
structure Number where
  negative : Bool
  integer : Digits
  leading : integer.bytes.head? = some 48 → integer.bytes.length = 1
  fraction : Option Digits
  -- with an upper case letter or not, and with which sign
  exponent : Option (Bool × Option Bool × Digits)

inductive Character where
  | plain (byte : UInt8) (h : 32 ≤ byte ∧ byte ≠ 34 ∧ byte ≠ 92)
  | escaped (byte : UInt8) (h : byte ∈ [34, 47, 92, 98, 102, 110, 114, 116])
  | unicode (digits : List UInt8) (length : digits.length = 4)
      (h : ∀ byte ∈ digits, (48 ≤ byte ∧ byte ≤ 57) ∨ (65 ≤ byte ∧ byte ≤ 70) ∨
        (97 ≤ byte ∧ byte ≤ 102))

mutual

inductive Value where
  | null
  | boolean (value : Bool)
  | number (number : Number)
  | string (characters : List Character)
  | emptyArray (inside : Blank)
  | array (elements : Elements)
  | emptyObject (inside : Blank)
  | object (members : Members)

inductive Elements where
  | last (before : Blank) (value : Value) (after : Blank)
  | more (before : Blank) (value : Value) (after : Blank) (rest : Elements)

inductive Members where
  | last (before : Blank) (name : List Character) (named : Blank) (colon : Blank) (value : Value)
      (after : Blank)
  | more (before : Blank) (name : List Character) (named : Blank) (colon : Blank) (value : Value)
      (after : Blank) (rest : Members)

end

def Character.text : Character → List UInt8
  | .plain byte _ => [byte]
  | .escaped byte _ => [92, byte]
  | .unicode digits _ _ => 92 :: 117 :: digits

def stringText (characters : List Character) : List UInt8 :=
  34 :: (characters.flatMap Character.text ++ [34])

def exponentText : Bool × Option Bool × Digits → List UInt8
  | (upper, sign, digits) =>
    (if upper then 69 else 101) ::
      ((sign.map fun negative => if negative then 45 else 43).toList ++ digits.bytes)

def Number.text (number : Number) : List UInt8 :=
  (if number.negative then [45] else []) ++ number.integer.bytes ++
    (number.fraction.elim [] fun digits => 46 :: digits.bytes) ++
    number.exponent.elim [] exponentText

mutual

def Value.text : Value → List UInt8
  | .null => [110, 117, 108, 108]
  | .boolean true => [116, 114, 117, 101]
  | .boolean false => [102, 97, 108, 115, 101]
  | .number number => number.text
  | .string characters => stringText characters
  | .emptyArray inside => 91 :: (inside.bytes ++ [93])
  | .array elements => 91 :: (elements.text ++ [93])
  | .emptyObject inside => 123 :: (inside.bytes ++ [125])
  | .object members => 123 :: (members.text ++ [125])

def Elements.text : Elements → List UInt8
  | .last before value after => before.bytes ++ value.text ++ after.bytes
  | .more before value after rest =>
    before.bytes ++ value.text ++ after.bytes ++ 44 :: rest.text

def Members.text : Members → List UInt8
  | .last before name named colon value after =>
    before.bytes ++ stringText name ++ named.bytes ++
      58 :: (colon.bytes ++ value.text ++ after.bytes)
  | .more before name named colon value after rest =>
    before.bytes ++ stringText name ++ named.bytes ++
      58 :: (colon.bytes ++ value.text ++ after.bytes ++ 44 :: rest.text)

end

/-- An object or an array. -/
def Value.isContainer : Value → Bool
  | .emptyArray _ => true
  | .array _ => true
  | .emptyObject _ => true
  | .object _ => true
  | _ => false

theorem Value.head_text {value : Value} (h : value.isContainer = true) :
    ∃ byte rest, value.text = byte :: rest ∧ (byte = 91 ∨ byte = 123) := by
  cases value with
  | emptyArray inside => exact ⟨91, _, by rw [text], Or.inl rfl⟩
  | array elements => exact ⟨91, _, by rw [text], Or.inl rfl⟩
  | emptyObject inside => exact ⟨123, _, by rw [text], Or.inr rfl⟩
  | object members => exact ⟨123, _, by rw [text], Or.inr rfl⟩
  | null => cases h
  | boolean value => cases h
  | number number => cases h
  | string characters => cases h

end GatewaySshd.Json
