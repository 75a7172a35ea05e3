import Mathlib.Data.Bool.AllAny
import Mathlib.Data.List.AList
import Mathlib.Data.List.TakeWhile
import GatewaySshd.Lib.HostPort
import GatewaySshd.Text

/-! # The connection string of the database

The settings of the database are written into one text of keywords and values,
without quotation, and the driver takes the text apart again.
-/
namespace GatewaySshd.Db
set_option autoImplicit false

structure ConnectionSettings where
  host : Str
  port : UInt16
  user : Str
  password : Str
  databaseName : Str
  sslMode : Str
deriving DecidableEq

def ConnectionSettings.sslModeOrDefault (settings : ConnectionSettings) : Str :=
  if settings.sslMode = [] then ascii "disable" else settings.sslMode

def dsn (settings : ConnectionSettings) : Str :=
  ascii "host=" ++ settings.host ++ ascii " port=" ++ HostPort.decimal settings.port.toNat ++
    ascii " user=" ++ settings.user ++ ascii " password=" ++ settings.password ++
    ascii " dbname=" ++ settings.databaseName ++ ascii " sslmode=" ++ settings.sslModeOrDefault

namespace Dsn

inductive ParseError where
  | invalidKeyword
  | invalidBackslash
  | unterminated
  -- the driver panics
  | outOfRange
deriving DecidableEq

abbrev Values := AList (fun _ : Str => Str)

def isSpace (byte : UInt8) : Bool := byte == 32 || (9 ≤ byte && byte ≤ 13)

def trimLeft (text : Str) : Str := text.dropWhile isSpace

def trim (text : Str) : Str := (trimLeft (trimLeft text).reverse).reverse

/-- Replaces every occurrence of two bytes, from the left. -/
def replacePair (first second by_ : UInt8) : Str → Str
  | a :: b :: rest =>
    if a = first ∧ b = second then by_ :: replacePair first second by_ rest
    else a :: replacePair first second by_ (b :: rest)
  | text => text

def unescape (text : Str) : Str := replacePair 92 39 39 (replacePair 92 92 92 text)

/-- A value ends at white space, unless that follows a backslash. -/
def scanBare (escaped : Bool) : Str → Except ParseError (Str × Str)
  | [] => if escaped then .error .invalidBackslash else .ok ([], [])
  | byte :: rest =>
    if !escaped && isSpace byte then .ok ([], byte :: rest)
    else (scanBare (!escaped && byte == 92) rest).map fun scanned =>
      (byte :: scanned.1, scanned.2)

def scanQuoted (escaped : Bool) : Str → Except ParseError (Str × Str)
  | [] => if escaped then .error .outOfRange else .error .unterminated
  | byte :: rest =>
    if !escaped && byte == 39 then .ok ([], rest)
    else (scanQuoted (!escaped && byte == 92) rest).map fun scanned =>
      (byte :: scanned.1, scanned.2)

def readValue (text : Str) : Except ParseError (Str × Str) :=
  match text with
  | [] => .ok ([], [])
  | byte :: rest =>
    (if byte = 39 then scanQuoted false rest else scanBare false text).map fun scanned =>
      (unescape scanned.1, trimLeft scanned.2)

def canonicalConnStringKey (key : Str) : Str :=
  if key = ascii "dbname" then ascii "database" else key

/-- A text is shorter after each value, so as many rounds as it has bytes are enough. -/
def parseFrom : Nat → Values → Str → Except ParseError Values
  | _, values, [] => .ok values
  | 0, _, _ => .error .invalidKeyword
  | rounds + 1, values, text =>
    if 61 ∈ text then
      match readValue (trimLeft (text.dropWhile fun byte => byte != 61).tail) with
      | .error e => .error e
      | .ok (value, rest) =>
        let key := canonicalConnStringKey (trim (text.takeWhile fun byte => byte != 61))
        if key = [] then .error .invalidKeyword
        else if key = ascii "user" ∧ value = [] then parseFrom rounds values rest
        else parseFrom rounds (values.insert key value) rest
    else .error .invalidKeyword

def parseKeywordValueSettings (text : Str) : Except ParseError Values :=
  parseFrom text.length ∅ (trimLeft text)

/-- Every backslash stands before a byte that is no backslash and no quote. -/
def unescaped (escaped : Bool) : Str → Bool
  | [] => !escaped
  | byte :: rest => (!escaped || (byte != 92 && byte != 39)) && unescaped (byte == 92) rest

/-- The value can stand in the text as it is. -/
structure Plain (value : Str) : Prop where
  nonempty : value ≠ []
  spaceless : ∀ byte ∈ value, isSpace byte = false
  unquoted : value.head? ≠ some 39
  unescaped : unescaped false value = true

/-- What ends a value: the end of the text, or white space. -/
def Ends (rest : Str) : Prop := ∀ byte, rest.head? = some byte → isSpace byte = true

theorem replacePair_of_unescaped {second by_ : UInt8} (hSecond : second = 92 ∨ second = 39)
    (escaped : Bool) (value : Str) (h : unescaped escaped value = true) :
    replacePair 92 second by_ value = value := by
  fun_induction replacePair 92 second by_ value generalizing escaped with
  | case1 a b rest hPair ih =>
    obtain ⟨rfl, rfl⟩ := hPair
    obtain rfl | rfl := hSecond
    · simp [unescaped] at h
    · simp [unescaped] at h
  | case2 a b rest hPair ih =>
    rw [ih (a == 92) (Bool.and_eq_true_iff.mp h).2]
  | case3 => rfl

theorem unescape_of_unescaped {value : Str} (h : unescaped false value = true) :
    unescape value = value := by
  rw [unescape, replacePair_of_unescaped (Or.inl rfl) false value h,
    replacePair_of_unescaped (Or.inr rfl) false value h]

theorem scanBare_of_ends {rest : Str} (h : Ends rest) : scanBare false rest = .ok ([], rest) := by
  cases rest with
  | nil => rfl
  | cons byte more => rw [scanBare, h byte rfl, Bool.not_false, Bool.and_self, if_pos rfl]

theorem scanBare_append {rest : Str} (hRest : Ends rest) (escaped : Bool) (value : Str)
    (hSpaceless : ∀ byte ∈ value, isSpace byte = false)
    (hValue : unescaped escaped value = true) :
    scanBare escaped (value ++ rest) = .ok (value, rest) := by
  induction value generalizing escaped with
  | nil =>
    have hPlain : escaped = false := by simpa [unescaped] using hValue
    rw [hPlain]
    exact scanBare_of_ends hRest
  | cons byte more ih =>
    obtain ⟨hByte, hMore⟩ := Bool.and_eq_true_iff.mp hValue
    obtain ⟨hSpace, hSpaces⟩ := List.forall_mem_cons.mp hSpaceless
    -- a byte that is escaped is no backslash
    have hFlag : (!escaped && byte == 92) = (byte == 92) := by
      cases escaped with
      | false => rfl
      | true =>
        have hNot : (byte == 92) = false := by
          rw [beq_eq_false_iff_ne]
          exact bne_iff_ne.mp (Bool.and_eq_true_iff.mp hByte).1
        rw [hNot]
        rfl
    rw [List.cons_append, scanBare, hSpace, Bool.and_false, if_neg Bool.false_ne_true, hFlag,
      ih (byte == 92) hSpaces hMore]
    rfl

/-- A plain value is read as it stands. -/
theorem readValue_append {value rest : Str} (hValue : Plain value) (hRest : Ends rest) :
    readValue (value ++ rest) = .ok (value, trimLeft rest) := by
  cases value with
  | nil => exact absurd rfl hValue.nonempty
  | cons byte more =>
    have hQuote : byte ≠ 39 := by
      rintro rfl
      exact hValue.unquoted rfl
    have hScan := scanBare_append hRest false (byte :: more) hValue.spaceless hValue.unescaped
    rw [List.cons_append] at hScan ⊢
    rw [readValue, if_neg hQuote, hScan]
    simp only [Except.map, unescape_of_unescaped hValue.unescaped]

/-- Nothing is trimmed in front of a text that begins with no white space. -/
theorem trimLeft_append {first : Str} (hSome : first ≠ [])
    (h : ∀ byte ∈ first, isSpace byte = false) (rest : Str) :
    trimLeft (first ++ rest) = first ++ rest := by
  cases first with
  | nil => exact absurd rfl hSome
  | cons byte more =>
    have hSpace : ¬ isSpace byte = true := by simp [h byte List.mem_cons_self]
    exact List.dropWhile_cons_of_neg hSpace

/-- A keyword that the settings are written with. -/
structure Keyword (key : Str) : Prop where
  nonempty : key ≠ []
  spaceless : ∀ byte ∈ key, isSpace byte = false
  noEquals : 61 ∉ key

theorem Keyword.trim {key : Str} (h : Keyword key) : trim key = key := by
  have hLeft := trimLeft_append h.nonempty h.spaceless []
  have hRight := trimLeft_append (mt List.reverse_eq_nil_iff.mp h.nonempty)
    (fun byte hByte => h.spaceless byte (List.mem_reverse.mp hByte)) []
  rw [List.append_nil] at hLeft hRight
  rw [Dsn.trim, hLeft, hRight, List.reverse_reverse]

/-- One round, on a keyword and whatever is read as its value. -/
theorem parseFrom_assign {key text value rest : Str} (rounds : Nat) (values : Values)
    (hKey : Keyword key) (hCanonical : canonicalConnStringKey key ≠ []) (hValue : value ≠ [])
    (hRead : readValue (trimLeft text) = .ok (value, rest)) :
    parseFrom (rounds + 1) values (key ++ 61 :: text) =
      parseFrom rounds (values.insert (canonicalConnStringKey key) value) rest := by
  have hKept : ∀ byte ∈ key, (byte != 61) = true := by
    intro byte hByte
    rw [bne_iff_ne]
    rintro rfl
    exact hKey.noEquals hByte
  have hBefore : ((key ++ 61 :: text).takeWhile fun byte => byte != 61) = key := by
    rw [List.takeWhile_append_of_pos hKept]
    exact List.append_nil key
  have hAfter : ((key ++ 61 :: text).dropWhile fun byte => byte != 61).tail = text := by
    rw [List.dropWhile_append_of_pos hKept]
    rfl
  have hEquals : 61 ∈ key ++ 61 :: text := List.mem_append_right _ List.mem_cons_self
  rw [parseFrom.eq_3 _ _ _ (List.append_ne_nil_of_left_ne_nil hKey.nonempty _), if_pos hEquals,
    hBefore, hAfter, hRead, hKey.trim]
  dsimp only
  rw [if_neg hCanonical, if_neg fun hSkip => hValue hSkip.2]

/-- One round, on a keyword and a plain value. -/
theorem parseFrom_plain {key value rest : Str} (rounds : Nat) (values : Values)
    (hKey : Keyword key) (hCanonical : canonicalConnStringKey key ≠ []) (hValue : Plain value)
    (hRest : Ends rest) :
    parseFrom (rounds + 1) values (key ++ 61 :: (value ++ rest)) =
      parseFrom rounds (values.insert (canonicalConnStringKey key) value) (trimLeft rest) := by
  refine parseFrom_assign rounds values hKey hCanonical hValue.nonempty ?_
  rw [trimLeft_append hValue.nonempty hValue.spaceless]
  exact readValue_append hValue hRest

/-- Assignments, each with a blank after it, in front of a text. -/
def assignments : List (Str × Str) → Str → Str
  | [], text => text
  | (key, value) :: rest, text => key ++ 61 :: (value ++ 32 :: assignments rest text)

def insertAll (fields : List (Str × Str)) (values : Values) : Values :=
  fields.foldl (fun values field => values.insert (canonicalConnStringKey field.1) field.2) values

/-- The keyword is one of those of the settings, and the value is plain. -/
structure Assigned (field : Str × Str) : Prop where
  key : Keyword field.1
  canonical : canonicalConnStringKey field.1 ≠ []
  value : Plain field.2

theorem trimLeft_assignments {fields : List (Str × Str)} (h : ∀ field ∈ fields, Assigned field)
    {text : Str} (hText : trimLeft text = text) :
    trimLeft (assignments fields text) = assignments fields text := by
  cases fields with
  | nil => exact hText
  | cons field rest =>
    have hKey := (h field List.mem_cons_self).key
    exact trimLeft_append hKey.nonempty hKey.spaceless _

theorem insertAll_append (first second : List (Str × Str)) (values : Values) :
    insertAll (first ++ second) values = insertAll second (insertAll first values) :=
  List.foldl_append

theorem ends_blank (text : Str) : Ends (32 :: text) := by
  rintro byte ⟨rfl⟩
  rfl

theorem parseFrom_assignments {text : Str} (hText : trimLeft text = text) (rounds : Nat)
    (fields : List (Str × Str)) (values : Values) (h : ∀ field ∈ fields, Assigned field) :
    parseFrom (rounds + fields.length) values (assignments fields text) =
      parseFrom rounds (insertAll fields values) text := by
  induction fields generalizing values with
  | nil => rfl
  | cons field rest ih =>
    obtain ⟨hField, hRest⟩ := List.forall_mem_cons.mp h
    have hTrim : trimLeft (32 :: assignments rest text) = assignments rest text :=
      trimLeft_assignments hRest hText
    rw [List.length_cons, ← Nat.add_assoc, assignments,
      parseFrom_plain _ values hField.key hField.canonical hField.value (ends_blank _), hTrim,
      ih _ hRest]
    rfl

theorem parseFrom_last {key value : Str} (rounds : Nat) (values : Values)
    (h : Assigned (key, value)) :
    parseFrom (rounds + 1) values (key ++ 61 :: value) =
      .ok (values.insert (canonicalConnStringKey key) value) := by
  have hEnds : Ends [] := by
    intro byte hByte
    cases hByte
  have hRound := parseFrom_plain rounds values h.key h.canonical h.value hEnds
  rw [List.append_nil] at hRound
  rw [hRound, show trimLeft [] = [] from rfl]
  cases rounds with
  | zero => rfl
  | succ rounds => rfl

theorem plain_of_digits {text : Str} (hText : text ≠ [])
    (h : ∀ byte ∈ text, HostPort.IsDigit byte) : Plain text where
  nonempty := hText
  spaceless byte hByte := by
    obtain ⟨hLow, hHigh⟩ := h byte hByte
    have hBlank : byte ≠ 32 := by
      rintro rfl
      exact absurd hLow (by decide)
    have hOther : ¬ byte ≤ 13 := fun hSmall => absurd (UInt8.le_trans hLow hSmall) (by decide)
    simp [isSpace, hBlank, hOther]
  unquoted hQuote := absurd (h 39 (List.mem_of_head? hQuote)) (by decide)
  unescaped := by
    induction text with
    | nil => rfl
    | cons byte more ih =>
      obtain ⟨hByte, hMore⟩ := List.forall_mem_cons.mp h
      have hBackslash : (byte == 92) = false := by
        rw [beq_eq_false_iff_ne]
        rintro rfl
        exact absurd hByte (by decide)
      rw [Dsn.unescaped, hBackslash]
      cases more with
      | nil => rfl
      | cons next rest => exact ih (List.cons_ne_nil next rest) hMore

theorem plain_port (port : UInt16) : Plain (HostPort.decimal port.toNat) := by
  have hNumeral := HostPort.numeral_decimal port.toNat
  exact plain_of_digits hNumeral.nonempty hNumeral.digits

theorem plain_dbname {name : Str} (h : Plain name) : Plain (ascii "dbname" ++ 61 :: name) where
  nonempty := by simp [ascii]
  spaceless byte hByte := by
    obtain hKey | hRest := List.mem_append.mp hByte
    · have hAll : ∀ byte ∈ ascii "dbname", isSpace byte = false :=
        List.all_iff_forall_prop.mp (by decide)
      exact hAll byte hKey
    · obtain rfl | hName := List.mem_cons.mp hRest
      · rfl
      · exact h.spaceless byte hName
  unquoted hQuote := absurd (Option.some.inj hQuote) (by decide)
  unescaped := h.unescaped

theorem keyword_of_mem : ∀ key ∈ [ascii "host", ascii "port", ascii "user", ascii "password",
      ascii "dbname", ascii "sslmode"],
    (key ≠ [] ∧ (key.all fun byte => decide (isSpace byte = false)) = true ∧ 61 ∉ key) ∧
      canonicalConnStringKey key ≠ [] := by
  decide

theorem assigned {key value : Str} (hKey : key ∈ [ascii "host", ascii "port", ascii "user",
      ascii "password", ascii "dbname", ascii "sslmode"]) (hValue : Plain value) :
    Assigned (key, value) := by
  obtain ⟨⟨hSome, hSpaceless, hEquals⟩, hCanonical⟩ := keyword_of_mem key hKey
  exact ⟨⟨hSome, List.all_iff_forall_prop.mp hSpaceless, hEquals⟩, hCanonical, hValue⟩

section Settings

variable (settings : ConnectionSettings)

/-- The fields in front of the password. -/
def front : List (Str × Str) :=
  [(ascii "host", settings.host), (ascii "port", HostPort.decimal settings.port.toNat),
    (ascii "user", settings.user)]

def sslField : Str × Str := (ascii "sslmode", settings.sslModeOrDefault)

theorem dsn_eq : dsn settings = assignments (front settings) (ascii "password" ++ 61 ::
    (settings.password ++ 32 :: (ascii "dbname" ++ 61 :: (settings.databaseName ++
      32 :: (ascii "sslmode" ++ 61 :: settings.sslModeOrDefault))))) := by
  have hHost : ascii "host=" = ascii "host" ++ [61] := rfl
  have hPort : ascii " port=" = 32 :: (ascii "port" ++ [61]) := rfl
  have hUser : ascii " user=" = 32 :: (ascii "user" ++ [61]) := rfl
  have hPassword : ascii " password=" = 32 :: (ascii "password" ++ [61]) := rfl
  have hName : ascii " dbname=" = 32 :: (ascii "dbname" ++ [61]) := rfl
  have hMode : ascii " sslmode=" = 32 :: (ascii "sslmode" ++ [61]) := rfl
  simp only [dsn, hHost, hPort, hUser, hPassword, hName, hMode, front, assignments,
    List.append_assoc, List.cons_append, List.nil_append]

theorem length_dsn : ∃ rounds, (dsn settings).length = rounds + 6 := by
  have hHost : (ascii "host=").length = 5 := rfl
  have hPort : (ascii " port=").length = 6 := rfl
  refine Nat.exists_eq_add_of_le' ?_
  simp only [dsn, List.length_append, hHost, hPort]
  omega

theorem plain_sslMode (h : settings.sslMode = [] ∨ Plain settings.sslMode) :
    Plain settings.sslModeOrDefault := by
  unfold ConnectionSettings.sslModeOrDefault
  split
  · exact ⟨by decide, List.all_iff_forall_prop.mp (by decide), by decide, by decide⟩
  · rename_i hSome
    exact h.resolve_left hSome

theorem assigned_front (hHost : Plain settings.host) (hUser : Plain settings.user) :
    ∀ field ∈ front settings, Assigned field := by
  simp only [front, List.forall_mem_cons]
  exact ⟨assigned (by simp) hHost, assigned (by simp) (plain_port settings.port),
    assigned (by simp) hUser, fun _ hField => absurd hField List.not_mem_nil⟩

end Settings

end Dsn

open Dsn

def trustedSettings : ConnectionSettings :=
  ⟨ascii "db", 5432, ascii "u", [], ascii "gw", []⟩

end GatewaySshd.Db
