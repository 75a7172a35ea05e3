import GatewaySshd.Text

/-! # Strings and integers on the wire

The ssh library writes a string as its length in four bytes, most significant
first, followed by its bytes, and an integer as four bytes alone.
-/
namespace GatewaySshd.Ssh
set_option autoImplicit false

def uint32Bytes (n : UInt32) : Str :=
  [UInt8.ofNat (n.toNat / 16777216), UInt8.ofNat (n.toNat / 65536), UInt8.ofNat (n.toNat / 256),
    UInt8.ofNat n.toNat]

def stringBytes (text : Str) : Str := uint32Bytes (UInt32.ofNat text.length) ++ text

def parseUint32 : Str → Option (UInt32 × Str)
  | a :: b :: c :: d :: rest =>
    some (UInt32.ofNat (a.toNat * 16777216 + b.toNat * 65536 + c.toNat * 256 + d.toNat), rest)
  | _ => none

/-- The remaining length is compared after truncation to 32 bits. -/
def parseString (input : Str) : Option (Str × Str) :=
  (parseUint32 input).bind fun (length, rest) =>
    if UInt32.ofNat rest.length < length then none
    else some (rest.take length.toNat, rest.drop length.toNat)

@[simp] theorem length_uint32Bytes (n : UInt32) : (uint32Bytes n).length = 4 := rfl

@[simp] theorem length_stringBytes (text : Str) :
    (stringBytes text).length = 4 + text.length := by
  simp [stringBytes]

@[simp] theorem parseUint32_append (n : UInt32) (rest : Str) :
    parseUint32 (uint32Bytes n ++ rest) = some (n, rest) := by
  have hBound : n.toNat < 4294967296 := n.toNat_lt
  simp only [uint32Bytes, List.cons_append, List.nil_append, parseUint32, UInt8.toNat_ofNat']
  have hValue : n.toNat / 16777216 % 2 ^ 8 * 16777216 + n.toNat / 65536 % 2 ^ 8 * 65536 +
      n.toNat / 256 % 2 ^ 8 * 256 + n.toNat % 2 ^ 8 = n.toNat := by omega
  rw [hValue, UInt32.ofNat_toNat]

theorem parseString_append {text rest : Str} (h : text.length + rest.length < 4294967296) :
    parseString (stringBytes text ++ rest) = some (text, rest) := by
  have hLength : (UInt32.ofNat text.length).toNat = text.length := by
    rw [UInt32.toNat_ofNat']
    omega
  have hRest : ¬ UInt32.ofNat (text ++ rest).length < UInt32.ofNat text.length := by
    rw [UInt32.lt_iff_toNat_lt, UInt32.toNat_ofNat', hLength, List.length_append]
    omega
  rw [stringBytes, List.append_assoc, parseString, parseUint32_append, Option.bind_some]
  simp only [hRest, if_false, hLength, List.take_left, List.drop_left]

theorem uint32Bytes_ofNat (a b c d : UInt8) :
    uint32Bytes (UInt32.ofNat (a.toNat * 16777216 + b.toNat * 65536 + c.toNat * 256 + d.toNat)) =
      [a, b, c, d] := by
  have ha := a.toNat_lt
  have hb := b.toNat_lt
  have hc := c.toNat_lt
  have hd := d.toNat_lt
  have hByte : ∀ (byte : UInt8) (n : Nat), n % 256 = byte.toNat → UInt8.ofNat n = byte := by
    intro byte n hn
    rw [← UInt8.toNat_inj, UInt8.toNat_ofNat']
    exact hn
  simp only [uint32Bytes, UInt32.toNat_ofNat', List.cons.injEq, and_true]
  refine ⟨hByte a _ ?_, hByte b _ ?_, hByte c _ ?_, hByte d _ ?_⟩ <;> omega

/-- The bytes of an integer are the only ones that are read as it. -/
theorem eq_of_parseUint32 {input rest : Str} {n : UInt32} (h : parseUint32 input = some (n, rest)) :
    input = uint32Bytes n ++ rest := by
  unfold parseUint32 at h
  split at h
  · cases h
    rw [uint32Bytes_ofNat]
    rfl
  · cases h

theorem eq_of_parseString {input text rest : Str} (h : parseString input = some (text, rest)) :
    input = stringBytes text ++ rest := by
  obtain ⟨⟨length, body⟩, hLength, hBody⟩ := Option.bind_eq_some_iff.mp h
  dsimp only at hBody
  split at hBody
  · cases hBody
  · rename_i hReaches
    cases hBody
    have hBound : length.toNat ≤ body.length := by
      rw [UInt32.lt_iff_toNat_lt, UInt32.toNat_ofNat'] at hReaches
      have := Nat.mod_le body.length (2 ^ 32)
      omega
    have hText : UInt32.ofNat (body.take length.toNat).length = length := by
      rw [List.length_take, Nat.min_eq_left hBound, UInt32.ofNat_toNat]
    rw [stringBytes, hText, List.append_assoc, List.take_append_drop]
    exact eq_of_parseUint32 hLength

theorem length_of_parseUint32 {input rest : Str} {n : UInt32}
    (h : parseUint32 input = some (n, rest)) : input.length = rest.length + 4 := by
  unfold parseUint32 at h
  split at h
  · cases h
    rfl
  · cases h

/-- A string that leaves something behind it was announced with its length, which
the remaining bytes, counted in 32 bits, had to reach. -/
theorem length_of_parseString {input text rest : Str} (h : parseString input = some (text, rest))
    (hRest : 0 < rest.length) (hShort : rest.length < 4294967296) :
    text.length + rest.length < 4294967296 := by
  obtain ⟨⟨length, body⟩, _, hBody⟩ := Option.bind_eq_some_iff.mp h
  dsimp only at hBody
  split at hBody
  · cases hBody
  · rename_i hReaches
    cases hBody
    rw [UInt32.lt_iff_toNat_lt, UInt32.toNat_ofNat'] at hReaches
    have hBound : length.toNat < 4294967296 := length.toNat_lt
    simp only [List.length_drop, List.length_take] at hRest hShort ⊢
    omega

end GatewaySshd.Ssh
