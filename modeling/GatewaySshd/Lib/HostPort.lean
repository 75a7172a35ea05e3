import Mathlib.Data.List.Basic
import Mathlib.Data.List.Infix

/-! # Addresses with a port

An address is a host and a port with a colon between them. A host that itself has
colons stands in brackets. The port is what follows the last colon; whether it is
a number is looked at in a second step.
-/
namespace GatewaySshd.HostPort
set_option autoImplicit false

universe u

section Cut

variable {α : Type u} [DecidableEq α]

def lastIndex (wanted : α) (text : List α) : Option Nat :=
  (text.reverse.idxOf? wanted).map fun index => text.length - 1 - index

theorem idxOf?_append {wanted : α} {before : List α} (h : wanted ∉ before) (after : List α) :
    (before ++ wanted :: after).idxOf? wanted = some before.length := by
  rw [List.idxOf?_eq_some_iff]
  refine ⟨by simp, by simp, ?_⟩
  intro earlier hEarlier hFound
  rw [List.getElem_append_left hEarlier] at hFound
  exact h (hFound ▸ List.getElem_mem hEarlier)

theorem lastIndex_eq_none {wanted : α} {text : List α} (h : wanted ∉ text) :
    lastIndex wanted text = none := by
  rw [lastIndex, Option.map_eq_none_iff, List.idxOf?_eq_none_iff, List.mem_reverse]
  exact h

theorem lastIndex_append {wanted : α} (before : List α) {after : List α} (h : wanted ∉ after) :
    lastIndex wanted (before ++ wanted :: after) = some before.length := by
  have hReverse : (before ++ wanted :: after).reverse =
      after.reverse ++ wanted :: before.reverse := by simp
  have hIndex := idxOf?_append (by simpa using h : wanted ∉ after.reverse) before.reverse
  rw [lastIndex, hReverse, hIndex, Option.map_some, List.length_append, List.length_cons,
    List.length_reverse]
  congr 1
  omega

omit [DecidableEq α] in
/-- A member stands last somewhere. -/
theorem exists_last {wanted : α} {text : List α} (h : wanted ∈ text) :
    ∃ before after, text = before ++ wanted :: after ∧ wanted ∉ after := by
  obtain ⟨after, before, hText, hAfter⟩ :=
    List.eq_append_cons_of_mem (List.mem_reverse.mpr h)
  refine ⟨before.reverse, after.reverse, ?_, by simpa using hAfter⟩
  rw [← List.reverse_reverse text, hText]
  simp

omit [DecidableEq α] in
/-- What starts with something that is not in front is found behind it. -/
theorem infix_behind {first : α} {rest before after : List α} (h : first ∉ before) :
    first :: rest <:+: before ++ after ↔ first :: rest <:+: after := by
  rw [List.infix_append_iff]
  constructor
  · rintro (hBefore | hAfter | ⟨front, back, hSplit, hFront, hBack⟩)
    · exact absurd (hBefore.subset List.mem_cons_self) h
    · exact hAfter
    · cases front with
      | nil =>
        rw [hSplit]
        exact hBack.isInfix
      | cons head front =>
        cases hSplit
        exact absurd (hFront.subset List.mem_cons_self) h
  · exact fun hAfter => Or.inr (Or.inl hAfter)

omit [DecidableEq α] in
/-- What has no separator lies on one side of it. -/
theorem infix_around {separator : α} {wanted before after : List α} (h : separator ∉ wanted)
    (hNonempty : wanted ≠ []) :
    wanted <:+: before ++ separator :: after ↔ wanted <:+: before ∨ wanted <:+: after := by
  rw [List.infix_append_iff, List.infix_cons_iff]
  constructor
  · rintro (hBefore | (hPrefix | hAfter) | ⟨front, back, rfl, hFront, hBack⟩)
    · exact Or.inl hBefore
    · obtain ⟨head, rest, rfl⟩ := List.exists_cons_of_ne_nil hNonempty
      rw [List.cons_prefix_cons] at hPrefix
      exact absurd (hPrefix.1 ▸ List.mem_cons_self) h
    · exact Or.inr hAfter
    · cases back with
      | nil =>
        rw [List.append_nil]
        exact Or.inl hFront.isInfix
      | cons head back =>
        rw [List.cons_prefix_cons] at hBack
        exact absurd (by simp [hBack.1]) h
  · rintro (hBefore | hAfter)
    · exact Or.inl hBefore
    · exact Or.inr (Or.inl (Or.inr hAfter))

end Cut

def colon : UInt8 := 58
def opening : UInt8 := 91
def closing : UInt8 := 93

/-- What is wrong with an address that cannot be split. -/
inductive Fault where
  | missingPort
  | tooManyColons
  | missingClosing
  | unexpectedOpening
  | unexpectedClosing
deriving DecidableEq

/-- The host has been found. No bracket may follow the places where one was expected. -/
def unbracketed (address host : List UInt8) (j k i : Nat) :
    Except Fault (List UInt8 × List UInt8) :=
  if opening ∈ address.drop j then .error .unexpectedOpening
  else if closing ∈ address.drop k then .error .unexpectedClosing
  else .ok (host, address.drop (i + 1))

def splitHostPort (address : List UInt8) : Except Fault (List UInt8 × List UInt8) :=
  match lastIndex colon address with
  | none => .error .missingPort
  | some i =>
    if address.head? = some opening then
      match address.idxOf? closing with
      | none => .error .missingClosing
      | some last =>
        if last + 1 = address.length then .error .missingPort
        else if last + 1 = i then
          unbracketed address ((address.take last).drop 1) 1 (last + 1) i
        else if address[last + 1]? = some colon then .error .tooManyColons
        else .error .missingPort
    else if colon ∈ address.take i then .error .tooManyColons
    else unbracketed address (address.take i) 0 0 i

section Shapes

variable {address host inner rest port : List UInt8}

theorem splitHostPort_no_colon (h : colon ∉ address) :
    splitHostPort address = .error .missingPort := by
  rw [splitHostPort, lastIndex_eq_none h]

theorem closing_not_mem_cons (h : closing ∉ inner) : closing ∉ opening :: inner := by
  rw [List.mem_cons, not_or]
  exact ⟨by decide, h⟩

theorem splitHostPort_unclosed (hColon : colon ∈ inner) (hClosing : closing ∉ inner) :
    splitHostPort (opening :: inner) = .error .missingClosing := by
  obtain ⟨before, after, rfl, hAfter⟩ := exists_last hColon
  have hClosed := closing_not_mem_cons hClosing
  rw [splitHostPort, ← List.cons_append, lastIndex_append _ hAfter]
  dsimp only
  rw [List.cons_append, List.head?_cons, if_pos rfl, List.idxOf?_eq_none_iff.mpr hClosed]

/-- Behind the closing bracket comes no colon. -/
theorem splitHostPort_bracketed_bare (hInner : closing ∉ inner) (hRest : rest.head? ≠ some colon) :
    splitHostPort (opening :: inner ++ closing :: rest) = .error .missingPort := by
  by_cases hColon : colon ∈ opening :: inner ++ closing :: rest
  · obtain ⟨before, after, hText, hAfter⟩ := exists_last hColon
    have hLast : lastIndex colon (opening :: inner ++ closing :: rest) = some before.length := by
      rw [hText, lastIndex_append _ hAfter]
    have hNext : (opening :: inner ++ closing :: rest)[inner.length + 2]? = rest.head? := by
      rw [List.getElem?_append_right (by simp)]
      simp [List.head?_eq_getElem?]
    have hNotHere : (opening :: inner ++ closing :: rest)[inner.length + 2]? ≠ some colon := by
      rw [hNext]
      exact hRest
    have hApart : inner.length + 1 + 1 ≠ before.length := by
      intro hEq
      apply hNotHere
      rw [hText, hEq]
      simp
    rw [splitHostPort, hLast]
    dsimp only
    rw [idxOf?_append (closing_not_mem_cons hInner), List.cons_append, List.head?_cons, if_pos rfl]
    dsimp only
    rw [← List.cons_append, List.length_cons, if_neg hApart, if_neg hNotHere]
    split <;> rfl
  · exact splitHostPort_no_colon hColon

/-- The colon behind the closing bracket need not be the last one. -/
theorem splitHostPort_bracketed (hInner : closing ∉ inner) :
    splitHostPort (opening :: inner ++ closing :: colon :: port) =
      if colon ∈ port then .error .tooManyColons
      else if opening ∈ inner ++ port then .error .unexpectedOpening
      else if closing ∈ port then .error .unexpectedClosing
      else .ok (inner, port) := by
  have hClosing := idxOf?_append (closing_not_mem_cons hInner) (colon :: port)
  have hLength : inner.length + 1 + 1 ≠ (opening :: inner ++ closing :: colon :: port).length := by
    simp
  have hNext : (opening :: inner ++ closing :: colon :: port)[inner.length + 1 + 1]? =
      some colon := by
    rw [List.getElem?_append_right (by simp)]
    simp
  have hHead : (opening :: inner ++ closing :: colon :: port).head? = some opening := rfl
  by_cases hPort : colon ∈ port
  · obtain ⟨before, after, rfl, hAfter⟩ := exists_last hPort
    have hLast :
        lastIndex colon (opening :: inner ++ closing :: colon :: (before ++ colon :: after)) =
          some (opening :: inner ++ closing :: colon :: before).length := by
      rw [← lastIndex_append _ hAfter]
      simp
    have hApart : inner.length + 1 + 1 ≠
        (opening :: inner ++ closing :: colon :: before).length := by
      simp
    rw [if_pos hPort, splitHostPort, hLast, hClosing]
    dsimp only
    rw [if_pos hHead, List.length_cons, if_neg hLength, if_neg hApart, if_pos hNext]
  · have hLast : lastIndex colon (opening :: inner ++ closing :: colon :: port) =
        some (inner.length + 1 + 1) := by
      have := lastIndex_append (opening :: inner ++ [closing]) hPort
      simpa using this
    have hDrop : (opening :: inner ++ closing :: colon :: port).drop (inner.length + 1 + 1) =
        colon :: port := by
      simp
    have hPortText :
        (opening :: inner ++ closing :: colon :: port).drop (inner.length + 1 + 1 + 1) = port := by
      simp
    rw [if_neg hPort, splitHostPort, hLast, hClosing]
    dsimp only
    rw [if_pos hHead, List.length_cons, if_neg hLength, if_pos rfl, unbracketed, hDrop, hPortText]
    have hHost : ((opening :: inner ++ closing :: colon :: port).take (inner.length + 1)).drop 1 =
        inner := by
      simp
    have hOpening : opening ∈ (opening :: inner ++ closing :: colon :: port).drop 1 ↔
        opening ∈ inner ++ port := by
      simp [(by decide : opening ≠ closing), (by decide : opening ≠ colon)]
    have hBehind : closing ∈ colon :: port ↔ closing ∈ port := by
      simp [(by decide : closing ≠ colon)]
    simp only [hHost, hOpening, hBehind]

theorem splitHostPort_plain (hHead : host.head? ≠ some opening) (hPort : colon ∉ port) :
    splitHostPort (host ++ colon :: port) =
      if colon ∈ host then .error .tooManyColons
      else if opening ∈ host ++ port then .error .unexpectedOpening
      else if closing ∈ host ++ port then .error .unexpectedClosing
      else .ok (host, port) := by
  have hFirst : (host ++ colon :: port).head? ≠ some opening := by
    cases host with
    | nil => exact (by decide : some colon ≠ some opening)
    | cons byte rest => exact hHead
  rw [splitHostPort, lastIndex_append host hPort]
  dsimp only
  rw [if_neg hFirst, List.take_left]
  have hPortText : (host ++ colon :: port).drop (host.length + 1) = port := by
    simp
  have hOpening : opening ∈ (host ++ colon :: port).drop 0 ↔ opening ∈ host ++ port := by
    simp [(by decide : opening ≠ colon)]
  have hClosing : closing ∈ (host ++ colon :: port).drop 0 ↔ closing ∈ host ++ port := by
    simp [(by decide : closing ≠ colon)]
  simp only [unbracketed, hPortText, hOpening, hClosing]

/-- Every address has one of the shapes that are told apart. -/
inductive Shape : List UInt8 → Prop where
  | noColon {address : List UInt8} (hColon : colon ∉ address) : Shape address
  | unclosed {inner : List UInt8} (hColon : colon ∈ inner) (hClosing : closing ∉ inner) :
      Shape (opening :: inner)
  | bare {inner rest : List UInt8} (hInner : closing ∉ inner) (hRest : rest.head? ≠ some colon) :
      Shape (opening :: inner ++ closing :: rest)
  | bracketed {inner port : List UInt8} (hInner : closing ∉ inner) :
      Shape (opening :: inner ++ closing :: colon :: port)
  | plain {host port : List UInt8} (hHead : host.head? ≠ some opening) (hPort : colon ∉ port) :
      Shape (host ++ colon :: port)

theorem shape_opening (inner : List UInt8) : Shape (opening :: inner) := by
  by_cases hClosing : closing ∈ inner
  · obtain ⟨front, rest, rfl, hFront⟩ := List.eq_append_cons_of_mem hClosing
    by_cases hRest : rest.head? = some colon
    · obtain ⟨port, rfl⟩ := List.head?_eq_some_iff.mp hRest
      exact .bracketed hFront
    · exact .bare hFront hRest
  · by_cases hColon : colon ∈ inner
    · exact .unclosed hColon hClosing
    · refine .noColon ?_
      rw [List.mem_cons, not_or]
      exact ⟨by decide, hColon⟩

theorem shape (address : List UInt8) : Shape address := by
  by_cases hHead : address.head? = some opening
  · obtain ⟨inner, rfl⟩ := List.head?_eq_some_iff.mp hHead
    exact shape_opening inner
  · by_cases hColon : colon ∈ address
    · obtain ⟨host, port, rfl, hPort⟩ := exists_last hColon
      refine .plain ?_ hPort
      intro hHost
      obtain ⟨rest, rfl⟩ := List.head?_eq_some_iff.mp hHost
      exact hHead rfl
    · exact .noColon hColon

def NoBrackets (text : List UInt8) : Prop := opening ∉ text ∧ closing ∉ text

/-- The ways to write an address with a port. -/
inductive Written (host port : List UInt8) : List UInt8 → Prop where
  | plain (hColon : colon ∉ host) (hHost : NoBrackets host) (hPort : colon ∉ port)
      (hPlain : NoBrackets port) : Written host port (host ++ colon :: port)
  | bracketed (hHost : NoBrackets host) (hPort : colon ∉ port) (hPlain : NoBrackets port) :
      Written host port (opening :: host ++ closing :: colon :: port)

theorem Written.splitHostPort (h : Written host port address) :
    splitHostPort address = .ok (host, port) := by
  cases h with
  | plain hColon hHost hPort hPlain =>
    have hHead : host.head? ≠ some opening := fun hHead => hHost.1 (List.mem_of_head? hHead)
    rw [splitHostPort_plain hHead hPort, if_neg hColon, if_neg, if_neg]
    · simpa using ⟨hHost.2, hPlain.2⟩
    · simpa using ⟨hHost.1, hPlain.1⟩
  | bracketed hHost hPort hPlain =>
    rw [splitHostPort_bracketed hHost.2, if_neg hPort, if_neg, if_neg hPlain.2]
    simpa using ⟨hHost.1, hPlain.1⟩

theorem Written.noBrackets (h : Written host port address) : NoBrackets host := by
  cases h with
  | plain _ hHost _ _ => exact hHost
  | bracketed hHost _ _ => exact hHost

theorem splitHostPort_eq_ok_iff :
    splitHostPort address = .ok (host, port) ↔ Written host port address := by
  refine ⟨?_, Written.splitHostPort⟩
  intro h
  cases shape address with
  | noColon hColon => rw [splitHostPort_no_colon hColon] at h; cases h
  | unclosed hColon hClosing => rw [splitHostPort_unclosed hColon hClosing] at h; cases h
  | bare hInner hRest => rw [splitHostPort_bracketed_bare hInner hRest] at h; cases h
  | bracketed hInner =>
    rw [splitHostPort_bracketed hInner] at h
    split at h
    · cases h
    split at h
    · cases h
    split at h
    · cases h
    rename_i hPort hOpening hClosing
    cases h
    rw [List.mem_append, not_or] at hOpening
    exact .bracketed ⟨hOpening.1, hInner⟩ hPort ⟨hOpening.2, hClosing⟩
  | plain hHead hPort =>
    rw [splitHostPort_plain hHead hPort] at h
    split at h
    · cases h
    split at h
    · cases h
    split at h
    · cases h
    rename_i hColon hOpening hClosing
    cases h
    rw [List.mem_append, not_or] at hOpening hClosing
    exact .plain hColon ⟨hOpening.1, hClosing.1⟩ hPort ⟨hOpening.2, hClosing.2⟩

/-- An address has no port when it has no colon, or none behind the bracketed host. -/
theorem splitHostPort_eq_missingPort_iff :
    splitHostPort address = .error .missingPort ↔
      colon ∉ address ∨ ∃ inner rest, address = opening :: inner ++ closing :: rest ∧
        closing ∉ inner ∧ rest.head? ≠ some colon := by
  constructor
  · intro h
    cases shape address with
    | noColon hColon => exact Or.inl hColon
    | unclosed hColon hClosing => rw [splitHostPort_unclosed hColon hClosing] at h; cases h
    | bare hInner hRest => exact Or.inr ⟨_, _, rfl, hInner, hRest⟩
    | bracketed hInner =>
      rw [splitHostPort_bracketed hInner] at h
      split at h
      · cases h
      split at h
      · cases h
      split at h <;> cases h
    | plain hHead hPort =>
      rw [splitHostPort_plain hHead hPort] at h
      split at h
      · cases h
      split at h
      · cases h
      split at h <;> cases h
  · rintro (hColon | ⟨inner, rest, rfl, hInner, hRest⟩)
    · exact splitHostPort_no_colon hColon
    · exact splitHostPort_bracketed_bare hInner hRest

end Shapes

section Numerals

def IsDigit (byte : UInt8) : Prop := 48 ≤ byte ∧ byte ≤ 57

instance (byte : UInt8) : Decidable (IsDigit byte) :=
  inferInstanceAs (Decidable (48 ≤ byte ∧ byte ≤ 57))

inductive NumberError where
  | invalid
  | outOfRange
deriving DecidableEq

def parseDigits (most : Nat) : Nat → List UInt8 → Except NumberError Nat
  | value, [] => .ok value
  | value, byte :: rest =>
    if IsDigit byte then
      let next := value * 10 + (byte.toNat - 48)
      if most < next then .error .outOfRange else parseDigits most next rest
    else .error .invalid

/-- An unsigned number in base ten that has to fit into the given bits. -/
def parseUint (bits : Nat) (text : List UInt8) : Except NumberError Nat :=
  if text = [] then .error .invalid else parseDigits (1 <<< bits - 1) 0 text

def decimalValue (value : Nat) (text : List UInt8) : Nat :=
  text.foldl (fun value byte => value * 10 + (byte.toNat - 48)) value

structure Numeral (text : List UInt8) (value : Nat) : Prop where
  nonempty : text ≠ []
  digits : ∀ byte ∈ text, IsDigit byte
  value : decimalValue 0 text = value

def decimal (value : Nat) : List UInt8 := (Nat.toDigits 10 value).map fun c => c.toNat.toUInt8

theorem le_decimalValue (value : Nat) (text : List UInt8) : value ≤ decimalValue value text := by
  induction text generalizing value with
  | nil => exact Nat.le_refl _
  | cons byte rest ih => exact Nat.le_trans (by omega) (ih (value * 10 + (byte.toNat - 48)))

theorem parseDigits_eq_ok_iff {most value result : Nat} {text : List UInt8} (h : value ≤ most) :
    parseDigits most value text = .ok result ↔
      (∀ byte ∈ text, IsDigit byte) ∧ decimalValue value text = result ∧ result ≤ most := by
  induction text generalizing value with
  | nil =>
    simp only [parseDigits, Except.ok.injEq, decimalValue, List.foldl_nil, List.not_mem_nil,
      false_implies, implies_true, true_and]
    constructor
    · rintro rfl
      exact ⟨rfl, h⟩
    · rintro ⟨rfl, _⟩
      rfl
  | cons byte rest ih =>
    simp only [parseDigits, decimalValue, List.foldl_cons, List.forall_mem_cons]
    split
    · rename_i hDigit
      split
      · rename_i hLarge
        refine iff_of_false (by simp) ?_
        rintro ⟨_, rfl, hFits⟩
        exact absurd (Nat.le_trans (le_decimalValue _ rest) hFits) (by omega)
      · rename_i hSmall
        rw [ih (by omega), decimalValue]
        simp only [hDigit, true_and]
    · rename_i hDigit
      refine iff_of_false (by simp) ?_
      rintro ⟨⟨hByte, _⟩, _⟩
      exact hDigit hByte

theorem parseUint_eq_ok_iff {bits value : Nat} {text : List UInt8} :
    parseUint bits text = .ok value ↔ Numeral text value ∧ value ≤ 1 <<< bits - 1 := by
  unfold parseUint
  split
  · rename_i hEmpty
    refine iff_of_false (by simp) ?_
    rintro ⟨hNumeral, _⟩
    exact hNumeral.nonempty hEmpty
  · rename_i hNonempty
    rw [parseDigits_eq_ok_iff (Nat.zero_le _)]
    constructor
    · rintro ⟨hDigits, hValue, hFits⟩
      exact ⟨⟨hNonempty, hDigits, hValue⟩, hFits⟩
    · rintro ⟨hNumeral, hFits⟩
      exact ⟨hNumeral.digits, hNumeral.value, hFits⟩

theorem digit_toUInt8 {c : Char} (h : c.isDigit = true) :
    c.toNat.toUInt8.toNat = c.toNat ∧ IsDigit c.toNat.toUInt8 := by
  have hRange : 48 ≤ c.toNat ∧ c.toNat ≤ 57 := by
    simp only [Char.isDigit, Bool.and_eq_true, decide_eq_true_eq] at h
    exact h
  have hSame : c.toNat.toUInt8.toNat = c.toNat := by
    rw [Nat.toUInt8, UInt8.toNat_ofNat_of_lt' (by simp [UInt8.size]; omega)]
  refine ⟨hSame, ?_⟩
  rw [IsDigit, UInt8.le_iff_toNat_le, UInt8.le_iff_toNat_le, hSame]
  exact hRange

theorem decimalValue_map {digits : List Char} (h : ∀ c ∈ digits, c.isDigit = true) (value : Nat) :
    decimalValue value (digits.map fun c => c.toNat.toUInt8) =
      Nat.ofDigitChars 10 digits value := by
  induction digits generalizing value with
  | nil => rfl
  | cons c rest ih =>
    rw [List.forall_mem_cons] at h
    have hNext : 10 * value + (c.toNat - '0'.toNat) =
        value * 10 + (c.toNat.toUInt8.toNat - 48) := by
      rw [(digit_toUInt8 h.1).1, Nat.mul_comm]
      rfl
    rw [Nat.ofDigitChars_cons, hNext, ← ih h.2]
    rfl

theorem numeral_decimal (value : Nat) : Numeral (decimal value) value := by
  have hDigits : ∀ c ∈ Nat.toDigits 10 value, c.isDigit = true :=
    fun c hMem => Nat.isDigit_of_mem_toDigits (by decide) (by decide) hMem
  refine ⟨?_, ?_, ?_⟩
  · rw [decimal, ne_eq, List.map_eq_nil_iff]
    exact Nat.toDigits_ne_nil
  · intro byte hMem
    obtain ⟨c, hChar, rfl⟩ := List.mem_map.mp hMem
    exact (digit_toUInt8 (hDigits c hChar)).2
  · rw [decimal, decimalValue_map hDigits, Nat.ofDigitChars_toDigits (by decide) (by decide)]

theorem Numeral.colon_not_mem {text : List UInt8} {value : Nat} (h : Numeral text value) :
    colon ∉ text := fun hMem => absurd (h.digits colon hMem) (by decide)

theorem Numeral.noBrackets {text : List UInt8} {value : Nat} (h : Numeral text value) :
    NoBrackets text :=
  ⟨fun hMem => absurd (h.digits opening hMem) (by decide),
    fun hMem => absurd (h.digits closing hMem) (by decide)⟩

end Numerals

end GatewaySshd.HostPort
