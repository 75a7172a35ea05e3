import Mathlib.Data.List.Basic

/-! # Base64

Three bytes are written as four digits of six bits, and a text that ends early is
padded. A reader skips line ends and does not look at the bits that are left over
before the padding.
-/
namespace GatewaySshd.Base64
set_option autoImplicit false

def padding : UInt8 := 61

def encodeDigit (n : Nat) : UInt8 :=
  if n < 26 then .ofNat (n + 65)
  else if n < 52 then .ofNat (n + 71)
  else if n < 62 then .ofNat (n - 4)
  else if n = 62 then 43
  else 47

def decodeDigit (byte : UInt8) : Option Nat :=
  if 65 ≤ byte ∧ byte ≤ 90 then some (byte.toNat - 65)
  else if 97 ≤ byte ∧ byte ≤ 122 then some (byte.toNat - 71)
  else if 48 ≤ byte ∧ byte ≤ 57 then some (byte.toNat + 4)
  else if byte = 43 then some 62
  else if byte = 47 then some 63
  else none

def encode : List UInt8 → List UInt8
  | [] => []
  | [a] => [encodeDigit (a.toNat / 4), encodeDigit (a.toNat % 4 * 16), padding, padding]
  | [a, b] =>
    [encodeDigit (a.toNat / 4), encodeDigit (a.toNat % 4 * 16 + b.toNat / 16),
      encodeDigit (b.toNat % 16 * 4), padding]
  | a :: b :: c :: rest =>
    encodeDigit (a.toNat / 4) :: encodeDigit (a.toNat % 4 * 16 + b.toNat / 16) ::
      encodeDigit (b.toNat % 16 * 4 + c.toNat / 64) :: encodeDigit (c.toNat % 64) :: encode rest

def firstByte (x y : Nat) : UInt8 := .ofNat (x * 4 + y / 16)

def secondByte (y z : Nat) : UInt8 := .ofNat (y % 16 * 16 + z / 4)

def thirdByte (z w : Nat) : UInt8 := .ofNat (z % 4 * 64 + w)

def decodeQuanta : List UInt8 → Option (List UInt8)
  | [] => some []
  | a :: b :: c :: d :: rest =>
    (decodeDigit a).bind fun x => (decodeDigit b).bind fun y =>
      if c = padding then
        -- nothing may follow the padding
        if d = padding ∧ rest = [] then some [firstByte x y] else none
      else (decodeDigit c).bind fun z =>
        if d = padding then
          if rest = [] then some [firstByte x y, secondByte y z] else none
        else (decodeDigit d).bind fun w => (decodeQuanta rest).map fun bytes =>
          firstByte x y :: secondByte y z :: thirdByte z w :: bytes
  | _ => none

def isLineEnd (byte : UInt8) : Bool := byte == 10 || byte == 13

def decode (text : List UInt8) : Option (List UInt8) :=
  decodeQuanta (text.filter fun byte => !isLineEnd byte)

theorem decodeDigit_encodeDigit {n : Nat} (h : n < 64) :
    decodeDigit (encodeDigit n) = some n := by
  have hAll : ∀ i : Fin 64, decodeDigit (encodeDigit i) = some i.val := by decide
  exact hAll ⟨n, h⟩

theorem encodeDigit_ne_padding {n : Nat} (h : n < 64) : encodeDigit n ≠ padding := by
  intro hPadding
  have hDigit := decodeDigit_encodeDigit h
  rw [hPadding] at hDigit
  cases hDigit

theorem firstByte_of (a : UInt8) {y : Nat} (h : y / 16 = a.toNat % 4) :
    firstByte (a.toNat / 4) y = a := by
  rw [firstByte, h, Nat.div_add_mod' a.toNat 4, UInt8.ofNat_toNat]

theorem secondByte_of (b : UInt8) {y z : Nat} (hHigh : y % 16 = b.toNat / 16)
    (hLow : z / 4 = b.toNat % 16) : secondByte y z = b := by
  rw [secondByte, hHigh, hLow, Nat.div_add_mod' b.toNat 16, UInt8.ofNat_toNat]

theorem thirdByte_of (c : UInt8) {z : Nat} (h : z % 4 = c.toNat / 64) :
    thirdByte z (c.toNat % 64) = c := by
  rw [thirdByte, h, Nat.div_add_mod' c.toNat 64, UInt8.ofNat_toNat]

theorem decodeQuanta_encode (bytes : List UInt8) :
    decodeQuanta (encode bytes) = some bytes := by
  fun_induction encode bytes with
  | case1 => rfl
  | case2 a =>
    have ha := a.toNat_lt
    rw [decodeQuanta, decodeDigit_encodeDigit (by omega), Option.bind_some,
      decodeDigit_encodeDigit (by omega), Option.bind_some, if_pos rfl, if_pos ⟨rfl, rfl⟩,
      firstByte_of a (by omega)]
  | case3 a b =>
    have ha := a.toNat_lt
    have hb := b.toNat_lt
    rw [decodeQuanta, decodeDigit_encodeDigit (by omega), Option.bind_some,
      decodeDigit_encodeDigit (by omega), Option.bind_some,
      if_neg (encodeDigit_ne_padding (by omega)), decodeDigit_encodeDigit (by omega),
      Option.bind_some, if_pos rfl, if_pos rfl, firstByte_of a (by omega),
      secondByte_of b (by omega) (by omega)]
  | case4 a b c rest ih =>
    have ha := a.toNat_lt
    have hb := b.toNat_lt
    have hc := c.toNat_lt
    rw [decodeQuanta, decodeDigit_encodeDigit (by omega), Option.bind_some,
      decodeDigit_encodeDigit (by omega), Option.bind_some,
      if_neg (encodeDigit_ne_padding (by omega)), decodeDigit_encodeDigit (by omega),
      Option.bind_some, if_neg (encodeDigit_ne_padding (by omega)),
      decodeDigit_encodeDigit (by omega), Option.bind_some, ih, Option.map_some,
      firstByte_of a (by omega), secondByte_of b (by omega) (by omega),
      thirdByte_of c (by omega)]

/-- A byte that is printed, and is not white space. -/
def Visible (byte : UInt8) : Prop := 33 ≤ byte ∧ byte ≤ 126

instance (byte : UInt8) : Decidable (Visible byte) := inferInstanceAs (Decidable (_ ∧ _))

theorem visible_encodeDigit {n : Nat} (h : n < 64) : Visible (encodeDigit n) := by
  have hAll : ∀ i : Fin 64, Visible (encodeDigit i) := by decide
  exact hAll ⟨n, h⟩

theorem visible_encode (bytes : List UInt8) : ∀ byte ∈ encode bytes, Visible byte := by
  have hPadding : Visible padding := by decide
  fun_induction encode bytes with
  | case1 => exact fun _ hByte => absurd hByte List.not_mem_nil
  | case2 a =>
    have ha := a.toNat_lt
    simp only [List.forall_mem_cons]
    exact ⟨visible_encodeDigit (by omega), visible_encodeDigit (by omega), hPadding, hPadding,
      fun _ hByte => absurd hByte List.not_mem_nil⟩
  | case3 a b =>
    have ha := a.toNat_lt
    have hb := b.toNat_lt
    simp only [List.forall_mem_cons]
    exact ⟨visible_encodeDigit (by omega), visible_encodeDigit (by omega),
      visible_encodeDigit (by omega), hPadding, fun _ hByte => absurd hByte List.not_mem_nil⟩
  | case4 a b c rest ih =>
    have ha := a.toNat_lt
    have hb := b.toNat_lt
    have hc := c.toNat_lt
    simp only [List.forall_mem_cons]
    exact ⟨visible_encodeDigit (by omega), visible_encodeDigit (by omega),
      visible_encodeDigit (by omega), visible_encodeDigit (by omega), ih⟩

theorem Visible.not_isLineEnd {byte : UInt8} (h : Visible byte) : isLineEnd byte = false := by
  obtain ⟨hLow, _⟩ := h
  rw [isLineEnd, Bool.or_eq_false_iff, beq_eq_false_iff_ne, beq_eq_false_iff_ne]
  constructor
  · rintro rfl
    exact absurd hLow (by decide)
  · rintro rfl
    exact absurd hLow (by decide)

theorem decode_encode (bytes : List UInt8) : decode (encode bytes) = some bytes := by
  have hKept : (encode bytes).filter (fun byte => !isLineEnd byte) = encode bytes := by
    refine List.filter_eq_self.mpr fun byte hByte => ?_
    rw [(visible_encode bytes byte hByte).not_isLineEnd, Bool.not_false]
  rw [decode, hKept, decodeQuanta_encode]

theorem encode_eq_nil {bytes : List UInt8} (h : encode bytes = []) : bytes = [] := by
  have hBytes := decodeQuanta_encode bytes
  rw [h, decodeQuanta] at hBytes
  exact (Option.some.inj hBytes).symm

end GatewaySshd.Base64
