import Mathlib.Data.Bool.AllAny
import Mathlib.Data.List.TakeWhile
import GatewaySshd.Lib.Base64
import GatewaySshd.Lib.Space
import GatewaySshd.Ssh.Certs
import GatewaySshd.Ssh.Wire

/-! # Keys in authorized key format

A text of keys has one key to a line: its type, its wire encoding in base64 and a
comment, with options in front if the key is bound by some. Lines that hold no key
are passed over.
-/
namespace GatewaySshd.Ssh
set_option autoImplicit false

open Space

inductive KeyError where
  | corruptInput
  | shortRead
  | malformed
  | trailingJunk
  | notKeyFormat (algo : Str)
  | unknownAlgorithm (algo : Str)
deriving DecidableEq

def plainAlgorithms : List Str :=
  [ascii "ssh-rsa", ascii "ssh-dss", ascii "ecdsa-sha2-nistp256", ascii "ecdsa-sha2-nistp384",
    ascii "ecdsa-sha2-nistp521", ascii "sk-ecdsa-sha2-nistp256@openssh.com",
    ascii "ssh-ed25519", ascii "sk-ssh-ed25519@openssh.com"]

def certAlgorithms : List Str :=
  [ascii "ssh-rsa-cert-v01@openssh.com", ascii "ssh-dss-cert-v01@openssh.com",
    ascii "ecdsa-sha2-nistp256-cert-v01@openssh.com",
    ascii "ecdsa-sha2-nistp384-cert-v01@openssh.com",
    ascii "ecdsa-sha2-nistp521-cert-v01@openssh.com",
    ascii "sk-ecdsa-sha2-nistp256-cert-v01@openssh.com",
    ascii "ssh-ed25519-cert-v01@openssh.com", ascii "sk-ssh-ed25519-cert-v01@openssh.com"]

/-- What `keyFormatForAlgorithm` knows and is no format of a key. -/
def signatureAlgorithms : List Str :=
  [ascii "rsa-sha2-256", ascii "rsa-sha2-512", ascii "rsa-sha2-256-cert-v01@openssh.com",
    ascii "rsa-sha2-512-cert-v01@openssh.com"]

/-- The parsers of the single formats, which are cryptography. One for a plain key
answers the wire encoding of the key, with its algorithm, and what is left. -/
structure KeyFormats where
  parsePlain : Str → Str → Option (Str × Str)
  parseCert : Str → Str → Option Certificate
  marshalCert : Certificate → Str

def KeyFormats.parsePubKey (formats : KeyFormats) (input algo : Str) :
    Except KeyError (PublicKey × Str) :=
  if algo ∈ plainAlgorithms then
    match formats.parsePlain algo input with
    | none => .error .malformed
    | some (encoding, rest) => .ok (.plain encoding, rest)
  else if algo ∈ certAlgorithms then
    match formats.parseCert algo input with
    | none => .error .malformed
    | some certificate => .ok (.certificate certificate, [])
  else if algo ∈ signatureAlgorithms then .error (.notKeyFormat algo)
  else .error (.unknownAlgorithm algo)

def KeyFormats.parsePublicKey (formats : KeyFormats) (input : Str) : Except KeyError PublicKey :=
  match parseString input with
  | none => .error .shortRead
  | some (algo, body) =>
    match formats.parsePubKey body algo with
    | .error e => .error e
    | .ok (key, rest) => if rest = [] then .ok key else .error .trailingJunk

def KeyFormats.marshal (formats : KeyFormats) : PublicKey → Str
  | .plain encoding => encoding
  | .certificate certificate => formats.marshalCert certificate

structure AuthorizedKey where
  key : PublicKey
  comment : Str
  options : List Str
deriving DecidableEq

def isBlank (byte : UInt8) : Bool := byte == 32 || byte == 9

/-- What stands before the first blank, and what stands from there. -/
def word (text : Str) : Str := text.takeWhile fun byte => !isBlank byte

def afterWord (text : Str) : Str := text.dropWhile fun byte => !isBlank byte

namespace Entry

/-- A key and its comment, once options and type have been removed. -/
def parseAuthorizedKey (formats : KeyFormats) (input : Str) : Except KeyError (PublicKey × Str) :=
  match Base64.decode (word (trimSpace input)) with
  | none => .error .corruptInput
  | some bytes =>
    match formats.parsePublicKey bytes with
    | .error e => .error e
    | .ok key => .ok (key, trimSpace (afterWord (trimSpace input)))

end Entry

/-- The options in front of a key, and the rest of the line from the blank that ends
them. A line that ends inside of a quotation leaves its last byte. -/
def scanOptions (candidates : List Str) (option : Str) (inQuote : Bool)
    (previous : Option UInt8) : Str → List Str × Str
  | [] => (candidates, [])
  | byte :: rest =>
    let isEnd := !inQuote && isBlank byte
    let stops := (byte == 44 && !inQuote) || isEnd
    let candidates := if stops && !option.isEmpty then candidates ++ [option] else candidates
    if isEnd then (candidates, byte :: rest)
    else
      let inQuote := if byte == 34 && previous != some 92 then !inQuote else inQuote
      match rest with
      | [] => (candidates, [byte])
      | _ :: _ =>
        scanOptions candidates (if stops then [] else option ++ [byte]) inQuote (some byte) rest

/-- The key of a line. A line without one may have left an error. -/
def readLine (formats : KeyFormats) (line : Str) : Except (Option KeyError) AuthorizedKey :=
  let text := trimSpace (line.takeWhile fun byte => byte != 13)
  if text = [] ∨ text.head? = some 35 then .error none
  else if afterWord text = [] then .error none
  else match Entry.parseAuthorizedKey formats (afterWord text) with
    | .ok (key, comment) => .ok ⟨key, comment, []⟩
    | .error e =>
      -- maybe there are options in front of the type
      let (options, rest) := scanOptions [] [] false none text
      let entry := rest.dropWhile isBlank
      if entry = [] then .error (some e)
      else if afterWord entry = [] then .error (some e)
      else match Entry.parseAuthorizedKey formats (afterWord entry) with
        | .ok (key, comment) => .ok ⟨key, comment, options⟩
        | .error e => .error (some e)

def firstLine (text : Str) : Str := text.takeWhile fun byte => byte != 10

def afterLine (text : Str) : Str := (text.dropWhile fun byte => byte != 10).tail

/-- A text is shorter after each line, so as many rounds as it has bytes are enough. -/
def parseAuthorizedKeyFrom (formats : KeyFormats) :
    Nat → Option KeyError → Str → Except (Option KeyError) (AuthorizedKey × Str)
  | _, lastErr, [] => .error lastErr
  | 0, lastErr, _ => .error lastErr
  | rounds + 1, lastErr, text =>
    match readLine formats (firstLine text) with
    | .ok key => .ok (key, afterLine text)
    | .error e => parseAuthorizedKeyFrom formats rounds (e.or lastErr) (afterLine text)

/-- The first key of a text and the lines after it, or the last error of a line. -/
def parseAuthorizedKey (formats : KeyFormats) (text : Str) :
    Except (Option KeyError) (AuthorizedKey × Str) :=
  parseAuthorizedKeyFrom formats text.length none text

/-- The type of a key that is no certificate is the algorithm its encoding names. -/
def keyType (encoding : Str) : Str := ((parseString encoding).map Prod.fst).getD []

def marshalAuthorizedKey (encoding : Str) : Str :=
  keyType encoding ++ [32] ++ Base64.encode encoding ++ [10]

/-- The lines of a text, where an end of line ends the line before it. -/
def lines : Str → List Str
  | [] => []
  | byte :: rest =>
    if byte = 10 then [] :: lines rest
    else match lines rest with
      | [] => [[byte]]
      | line :: more => (byte :: line) :: more

theorem lines_eq_cons {text : Str} (h : text ≠ []) :
    lines text = firstLine text :: lines (afterLine text) := by
  induction text with
  | nil => exact absurd rfl h
  | cons byte rest ih =>
    rw [lines]
    split
    · rename_i hEnd
      rw [hEnd]
      rfl
    · rename_i hByte
      have hKept : (byte != 10) = true := bne_iff_ne.mpr hByte
      rw [firstLine, afterLine, List.takeWhile_cons_of_pos (p := fun byte => byte != 10) hKept,
        List.dropWhile_cons_of_pos (p := fun byte => byte != 10) hKept]
      cases rest with
      | nil => rfl
      | cons next more =>
        rw [ih (List.cons_ne_nil next more)]
        rfl

theorem lines_eq_nil {text : Str} : lines text = [] ↔ text = [] := by
  constructor
  · intro h
    apply by_contra
    intro hText
    rw [lines_eq_cons hText] at h
    cases h
  · rintro rfl
    rfl

theorem length_afterLine {text : Str} (h : text ≠ []) : (afterLine text).length < text.length := by
  have hPositive := List.length_pos_iff.mpr h
  have hDropped := (List.dropWhile_suffix (l := text) fun byte => byte != 10).length_le
  rw [afterLine, List.length_tail]
  omega

/-- The line holds a key. -/
def HoldsKey (formats : KeyFormats) (line : Str) : Prop :=
  ∃ entry, readLine formats line = .ok entry

theorem not_holdsKey {formats : KeyFormats} {line : Str} {e : Option KeyError}
    (h : readLine formats line = .error e) : ¬ HoldsKey formats line := by
  rintro ⟨entry, hEntry⟩
  rw [h] at hEntry
  cases hEntry

/-- What one call finds: the first line with a key. -/
structure FirstKey (formats : KeyFormats) (text : Str) (entry : AuthorizedKey) (rest : Str) :
    Prop where
  shorter : rest.length < text.length
  found : ∃ skipped line, lines text = skipped ++ line :: lines rest ∧
    (∀ other ∈ skipped, ¬ HoldsKey formats other) ∧ readLine formats line = .ok entry

theorem FirstKey.skip {formats : KeyFormats} {text rest : Str} {entry : AuthorizedKey}
    (hText : text ≠ []) (hLine : ¬ HoldsKey formats (firstLine text))
    (h : FirstKey formats (afterLine text) entry rest) : FirstKey formats text entry rest where
  shorter := Nat.lt_trans h.shorter (length_afterLine hText)
  found := by
    obtain ⟨skipped, line, hLines, hSkipped, hEntry⟩ := h.found
    refine ⟨firstLine text :: skipped, line, ?_, ?_, hEntry⟩
    · rw [lines_eq_cons hText, hLines]
      rfl
    · exact List.forall_mem_cons.mpr ⟨hLine, hSkipped⟩

theorem parseAuthorizedKeyFrom_nil (formats : KeyFormats) (rounds : Nat)
    (lastErr : Option KeyError) :
    parseAuthorizedKeyFrom formats rounds lastErr [] = .error lastErr := by
  cases rounds with
  | zero => rfl
  | succ rounds => rfl

theorem parseAuthorizedKeyFrom_spec (formats : KeyFormats) (rounds : Nat)
    (lastErr : Option KeyError) (text : Str) (h : text.length ≤ rounds) :
    (∀ entry rest, parseAuthorizedKeyFrom formats rounds lastErr text = .ok (entry, rest) →
      FirstKey formats text entry rest) ∧
    ∀ e, parseAuthorizedKeyFrom formats rounds lastErr text = .error e →
      ∀ line ∈ lines text, ¬ HoldsKey formats line := by
  -- the induction is on the rounds; each takes one line off the text
  induction rounds generalizing lastErr text with
  | zero =>
    cases List.eq_nil_of_length_eq_zero (Nat.le_zero.mp h)
    rw [parseAuthorizedKeyFrom_nil]
    constructor
    · intro entry rest hParsed
      cases hParsed
    · intro _ _ line hLine
      cases hLine
  | succ rounds ih =>
    cases text with
    | nil =>
      rw [parseAuthorizedKeyFrom_nil]
      constructor
      · intro entry rest hParsed
        cases hParsed
      · intro _ _ line hLine
        cases hLine
    | cons byte more =>
      have hText : byte :: more ≠ [] := List.cons_ne_nil byte more
      have hShorter := length_afterLine hText
      rw [parseAuthorizedKeyFrom.eq_3 formats lastErr (byte :: more) rounds hText]
      cases hLine : readLine formats (firstLine (byte :: more)) with
      | ok key =>
        constructor
        · rintro entry rest ⟨rfl⟩
          exact ⟨hShorter, [], firstLine (byte :: more), lines_eq_cons hText,
            fun _ hOther => absurd hOther List.not_mem_nil, hLine⟩
        · intro e hParsed
          cases hParsed
      | error e =>
        have hSkip := not_holdsKey hLine
        obtain ⟨hFound, hNone⟩ := ih (e.or lastErr) (afterLine (byte :: more)) (by omega)
        constructor
        · intro entry rest hParsed
          exact (hFound entry rest hParsed).skip hText hSkip
        · intro last hParsed
          rw [lines_eq_cons hText, List.forall_mem_cons]
          exact ⟨hSkip, hNone last hParsed⟩

theorem parseAuthorizedKey_ok {formats : KeyFormats} {text rest : Str} {entry : AuthorizedKey}
    (h : parseAuthorizedKey formats text = .ok (entry, rest)) : FirstKey formats text entry rest :=
  (parseAuthorizedKeyFrom_spec formats text.length none text le_rfl).1 entry rest h

theorem parseAuthorizedKey_error {formats : KeyFormats} {text : Str} {e : Option KeyError}
    (h : parseAuthorizedKey formats text = .error e) :
    ∀ line ∈ lines text, ¬ HoldsKey formats line :=
  (parseAuthorizedKeyFrom_spec formats text.length none text le_rfl).2 e h

section Marshal

open Base64 (Visible)

theorem not_visible_of_mem_spaces :
    ∀ space ∈ spaces, space ≠ [] ∧ ∀ byte ∈ space, ¬ Visible byte := by
  have hAll : ∀ space ∈ spaces,
      space ≠ [] ∧ (space.all fun byte => decide (¬ Visible byte)) = true := by decide
  exact fun space hSpace => (hAll space hSpace).imp_right List.all_iff_forall_prop.mp

/-- Nothing is dropped in front of a byte that no text to drop holds. -/
theorem dropAll_of_head {texts : List Str} {byte : UInt8} {rest : Str} (rounds : Nat)
    (h : ∀ text ∈ texts, text ≠ [] ∧ byte ∉ text) :
    dropAll texts rounds (byte :: rest) = byte :: rest := by
  have hNone : (texts.find? fun text => text.isPrefixOf (byte :: rest)) = none := by
    refine List.find?_eq_none.mpr fun text hText hPrefix => ?_
    obtain ⟨hSome, hByte⟩ := h text hText
    cases text with
    | nil => exact hSome rfl
    | cons first more =>
      have hFirst : first = byte :=
        (List.cons_prefix_cons.mp (List.isPrefixOf_iff_prefix.mp hPrefix)).1
      exact hByte (hFirst ▸ List.mem_cons_self)
  cases rounds with
  | zero => rfl
  | succ rounds => rw [dropAll, hNone]

theorem trimLeft_of_visible {byte : UInt8} {rest : Str} (h : Visible byte) :
    trimLeft (byte :: rest) = byte :: rest :=
  dropAll_of_head _ fun space hSpace =>
    ⟨(not_visible_of_mem_spaces space hSpace).1,
      fun hByte => (not_visible_of_mem_spaces space hSpace).2 byte hByte h⟩

theorem trimRight_of_visible {byte : UInt8} {front : Str} (h : Visible byte) :
    trimRight (front ++ [byte]) = front ++ [byte] := by
  have hKept : ∀ rounds, dropAll (spaces.map List.reverse) rounds (byte :: front.reverse) =
      byte :: front.reverse := by
    intro rounds
    refine dropAll_of_head rounds fun text hText => ?_
    obtain ⟨space, hSpace, rfl⟩ := List.mem_map.mp hText
    obtain ⟨hSome, hBytes⟩ := not_visible_of_mem_spaces space hSpace
    exact ⟨mt List.reverse_eq_nil_iff.mp hSome,
      fun hByte => hBytes byte (List.mem_reverse.mp hByte) h⟩
  rw [trimRight, List.reverse_append, List.reverse_singleton, List.singleton_append, hKept,
    List.reverse_cons, List.reverse_reverse]

/-- A text that begins and ends visibly is kept. -/
theorem trimSpace_of_visible {text : Str} (hText : text ≠ [])
    (hHead : ∀ byte, text.head? = some byte → Visible byte)
    (hLast : ∀ byte, text.getLast? = some byte → Visible byte) : trimSpace text = text := by
  have hLeft : trimLeft text = text := by
    cases text with
    | nil => exact absurd rfl hText
    | cons byte rest => exact trimLeft_of_visible (hHead byte rfl)
  obtain ⟨front, byte, hFront⟩ := List.eq_nil_or_concat text |>.resolve_left hText
  rw [trimSpace, hLeft]
  rw [hFront, List.concat_eq_append] at hLast ⊢
  exact trimRight_of_visible (hLast byte List.getLast?_concat)

theorem not_isBlank_of_visible {byte : UInt8} (h : Visible byte) : isBlank byte = false := by
  rw [isBlank, Bool.or_eq_false_iff, beq_eq_false_iff_ne, beq_eq_false_iff_ne]
  constructor
  · rintro rfl
    exact absurd h (by decide)
  · rintro rfl
    exact absurd h (by decide)

theorem word_of_visible {text : Str} (h : ∀ byte ∈ text, Visible byte) :
    word text = text ∧ afterWord text = [] := by
  have hKept : ∀ byte ∈ text, (!isBlank byte) = true := by
    intro byte hByte
    rw [not_isBlank_of_visible (h byte hByte), Bool.not_false]
  exact ⟨List.takeWhile_eq_self_iff.mpr hKept, List.dropWhile_eq_nil_iff.mpr hKept⟩

theorem afterWord_append {first : Str} (h : ∀ byte ∈ first, Visible byte) (rest : Str) :
    afterWord (first ++ 32 :: rest) = 32 :: rest := by
  have hKept : ∀ byte ∈ first, (!isBlank byte) = true := by
    intro byte hByte
    rw [not_isBlank_of_visible (h byte hByte), Bool.not_false]
  rw [afterWord, List.dropWhile_append_of_pos hKept]
  rfl

theorem trimSpace_blank_cons {text : Str} (hText : text ≠ []) (h : ∀ byte ∈ text, Visible byte) :
    trimSpace (32 :: text) = text := by
  have hLeft : trimLeft (32 :: text) = trimLeft text := by
    rw [trimLeft, List.length_cons, dropAll]
    rfl
  rw [trimSpace, hLeft]
  exact trimSpace_of_visible hText (fun byte hByte => h byte (List.mem_of_head? hByte))
    fun byte hByte => h byte (List.mem_of_getLast? hByte)

/-- The names of the algorithms are visible, and no comments. -/
theorem visible_of_plainAlgorithm : ∀ algo ∈ plainAlgorithms,
    algo ≠ [] ∧ algo.head? ≠ some 35 ∧ ∀ byte ∈ algo, Visible byte := by
  have hAll : ∀ algo ∈ plainAlgorithms, algo ≠ [] ∧ algo.head? ≠ some 35 ∧
      (algo.all fun byte => decide (Visible byte)) = true := by decide
  intro algo hAlgo
  obtain ⟨hSome, hHead, hVisible⟩ := hAll algo hAlgo
  exact ⟨hSome, hHead, List.all_iff_forall_prop.mp hVisible⟩

theorem mem_plainAlgorithms_of_parsePubKey {formats : KeyFormats} {body algo encoding rest : Str}
    (h : formats.parsePubKey body algo = .ok (.plain encoding, rest)) :
    algo ∈ plainAlgorithms := by
  unfold KeyFormats.parsePubKey at h
  split at h
  · assumption
  · split at h
    · split at h
      · cases h
      · cases h
    · split at h
      · cases h
      · cases h

theorem keyType_mem_plainAlgorithms {formats : KeyFormats} {input encoding : Str}
    (h : formats.parsePublicKey input = .ok (.plain encoding)) :
    keyType input ∈ plainAlgorithms := by
  unfold KeyFormats.parsePublicKey at h
  split at h
  · cases h
  · rename_i algo body hString
    rw [keyType, hString]
    split at h
    · cases h
    · rename_i key rest hKey
      split at h
      · cases h
        exact mem_plainAlgorithms_of_parsePubKey hKey
      · cases h

theorem ne_nil_of_parsePublicKey {formats : KeyFormats} {input : Str} {key : PublicKey}
    (h : formats.parsePublicKey input = .ok key) : input ≠ [] := by
  rintro rfl
  cases h

/-- The line that a key is written to. -/
def keyLine (encoding : Str) : Str := keyType encoding ++ 32 :: Base64.encode encoding

theorem visible_of_mem_keyLine {formats : KeyFormats} {encoding : Str}
    (h : formats.parsePublicKey encoding = .ok (.plain encoding)) :
    ∀ byte ∈ keyLine encoding, byte = 32 ∨ Visible byte := by
  intro byte hByte
  obtain hType | hRest := List.mem_append.mp hByte
  · exact Or.inr ((visible_of_plainAlgorithm _ (keyType_mem_plainAlgorithms h)).2.2 byte hType)
  · obtain hBlank | hDigit := List.mem_cons.mp hRest
    · exact Or.inl hBlank
    · exact Or.inr (Base64.visible_encode encoding byte hDigit)

theorem trimSpace_keyLine {formats : KeyFormats} {encoding : Str}
    (h : formats.parsePublicKey encoding = .ok (.plain encoding)) :
    trimSpace (keyLine encoding) = keyLine encoding := by
  obtain ⟨hType, _, hVisible⟩ := visible_of_plainAlgorithm _ (keyType_mem_plainAlgorithms h)
  have hEncoded : Base64.encode encoding ≠ [] :=
    mt Base64.encode_eq_nil (ne_nil_of_parsePublicKey h)
  refine trimSpace_of_visible (List.append_ne_nil_of_left_ne_nil hType _) ?_ ?_
  · intro byte hByte
    rw [keyLine, List.head?_append_of_ne_nil _ hType] at hByte
    exact hVisible byte (List.mem_of_head? hByte)
  · intro byte hByte
    rw [keyLine, List.append_cons, List.getLast?_append_of_ne_nil _ hEncoded] at hByte
    exact Base64.visible_encode encoding byte (List.mem_of_getLast? hByte)

theorem Entry.parseAuthorizedKey_encode {formats : KeyFormats} {encoding : Str}
    (h : formats.parsePublicKey encoding = .ok (.plain encoding)) :
    Entry.parseAuthorizedKey formats (32 :: Base64.encode encoding) =
      .ok (.plain encoding, []) := by
  have hDigits := Base64.visible_encode encoding
  obtain ⟨hWord, hAfter⟩ := word_of_visible hDigits
  have hTrim := trimSpace_blank_cons (mt Base64.encode_eq_nil (ne_nil_of_parsePublicKey h)) hDigits
  rw [Entry.parseAuthorizedKey, hTrim, hWord, hAfter, Base64.decode_encode]
  dsimp only
  rw [h]
  rfl

theorem readLine_keyLine {formats : KeyFormats} {encoding : Str}
    (h : formats.parsePublicKey encoding = .ok (.plain encoding)) :
    readLine formats (keyLine encoding) = .ok ⟨.plain encoding, [], []⟩ := by
  obtain ⟨hType, hComment, hVisible⟩ :=
    visible_of_plainAlgorithm _ (keyType_mem_plainAlgorithms h)
  have hReturn : ((keyLine encoding).takeWhile fun byte => byte != 13) = keyLine encoding := by
    refine List.takeWhile_eq_self_iff.mpr fun byte hByte => bne_iff_ne.mpr ?_
    rintro rfl
    exact absurd (visible_of_mem_keyLine h 13 hByte) (by decide)
  have hKey : ¬ (keyLine encoding = [] ∨ (keyLine encoding).head? = some 35) := by
    rw [keyLine, List.head?_append_of_ne_nil _ hType]
    rintro (hNil | hSharp)
    · exact hType (List.append_eq_nil_iff.mp hNil).1
    · exact hComment hSharp
  have hAfter : afterWord (keyLine encoding) = 32 :: Base64.encode encoding :=
    afterWord_append hVisible _
  rw [readLine, hReturn, trimSpace_keyLine h, if_neg hKey, hAfter,
    if_neg (List.cons_ne_nil _ _), Entry.parseAuthorizedKey_encode h]

/-- What is written for a key is read as that key, without options or a comment. -/
theorem parseAuthorizedKey_marshal {formats : KeyFormats} {encoding : Str}
    (h : formats.parsePublicKey encoding = .ok (.plain encoding)) :
    parseAuthorizedKey formats (marshalAuthorizedKey encoding) =
      .ok (⟨.plain encoding, [], []⟩, []) := by
  have hText : marshalAuthorizedKey encoding = keyLine encoding ++ [10] := by
    rw [marshalAuthorizedKey, keyLine, List.append_assoc (keyType encoding), List.singleton_append]
  have hKept : ∀ byte ∈ keyLine encoding, (byte != 10) = true := by
    intro byte hByte
    rw [bne_iff_ne]
    rintro rfl
    exact absurd (visible_of_mem_keyLine h 10 hByte) (by decide)
  have hFirst : firstLine (keyLine encoding ++ [10]) = keyLine encoding := by
    rw [firstLine, List.takeWhile_append_of_pos hKept]
    exact List.append_nil _
  have hAfter : afterLine (keyLine encoding ++ [10]) = [] := by
    rw [afterLine, List.dropWhile_append_of_pos hKept]
    rfl
  rw [parseAuthorizedKey, hText, List.length_append, List.length_singleton,
    parseAuthorizedKeyFrom.eq_3 _ _ _ _ (List.append_ne_nil_of_right_ne_nil _ (by simp)), hFirst,
    readLine_keyLine h, hAfter]

end Marshal

end GatewaySshd.Ssh
