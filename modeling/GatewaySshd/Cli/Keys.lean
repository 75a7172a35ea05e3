import GatewaySshd.Auth.Authenticate
import GatewaySshd.Ssh.AuthorizedKeys

/-! # The authorities that the process is started with

The certificate authorities are read from files of keys, one for users and, where it
is given, one for peer nodes.
-/
namespace GatewaySshd.Cli
set_option autoImplicit false

open Ssh

def parsePublicKeysFrom (formats : KeyFormats) :
    Nat → List PublicKey → Str → Except (Option KeyError) (List PublicKey)
  | _, publicKeys, [] => .ok publicKeys
  | 0, _, _ => .error none
  | rounds + 1, publicKeys, raw =>
    match parseAuthorizedKey formats raw with
    | .error e => .error e
    | .ok (entry, rest) => parsePublicKeysFrom formats rounds (publicKeys ++ [entry.key]) rest

/-- Each round takes a line off the text, so as many as it has bytes are enough. -/
def parsePublicKeys (formats : KeyFormats) (raw : Str) :
    Except (Option KeyError) (List PublicKey) :=
  parsePublicKeysFrom formats raw.length [] raw

/-- The settings of authentication. No file for peers leaves no authority for them. -/
def authSettings (formats : KeyFormats) (ca : Str) (peerCa : Option Str) (nodeID : Str) :
    Except (Option KeyError) Auth.Settings :=
  match parsePublicKeys formats ca with
  | .error e => .error e
  | .ok caPublicKeys =>
    match peerCa with
    | none => .ok ⟨caPublicKeys.map formats.marshal, [], nodeID⟩
    | some raw =>
      match parsePublicKeys formats raw with
      | .error e => .error e
      | .ok peerCaPublicKeys =>
        .ok ⟨caPublicKeys.map formats.marshal, peerCaPublicKeys.map formats.marshal, nodeID⟩

section Keys

variable {formats : KeyFormats}

/-- The keys of lines, in order. -/
def keysOf (formats : KeyFormats) (rows : List Str) : List PublicKey :=
  rows.filterMap fun line => (readLine formats line).toOption.map AuthorizedKey.key

/-- The last line of the text, if there is any line, holds a key. -/
def EndsWithKey (formats : KeyFormats) (text : Str) : Prop :=
  ∀ line, (lines text).getLast? = some line → HoldsKey formats line

theorem keysOf_append (first second : List Str) :
    keysOf formats (first ++ second) = keysOf formats first ++ keysOf formats second :=
  List.filterMap_append

theorem keysOf_cons_of_ok {line : Str} {entry : AuthorizedKey}
    (h : readLine formats line = .ok entry) (rows : List Str) :
    keysOf formats (line :: rows) = entry.key :: keysOf formats rows := by
  rw [keysOf, List.filterMap_cons, h]
  rfl

theorem keysOf_eq_nil {rows : List Str} (h : ∀ line ∈ rows, ¬ HoldsKey formats line) :
    keysOf formats rows = [] := by
  refine List.filterMap_eq_nil_iff.mpr fun line hLine => ?_
  cases hRead : readLine formats line with
  | error e => rfl
  | ok entry => exact absurd ⟨entry, hRead⟩ (h line hLine)

theorem mem_keysOf {rows : List Str} {key : PublicKey} :
    key ∈ keysOf formats rows ↔
      ∃ line ∈ rows, ∃ entry, readLine formats line = .ok entry ∧ entry.key = key := by
  rw [keysOf, List.mem_filterMap]
  refine exists_congr fun line => and_congr_right fun _ => ?_
  cases hRead : readLine formats line with
  | error e =>
    constructor
    · intro hKey
      cases hKey
    · rintro ⟨entry, hEntry, _⟩
      cases hEntry
  | ok entry =>
    constructor
    · rintro ⟨rfl⟩
      exact ⟨entry, rfl, rfl⟩
    · rintro ⟨found, hFound, rfl⟩
      cases hFound
      rfl

/-- The keys of a text are those of its first line with a key and of what follows it. -/
theorem keysOf_of_firstKey {text rest : Str} {entry : AuthorizedKey}
    (h : FirstKey formats text entry rest) :
    keysOf formats (lines text) = entry.key :: keysOf formats (lines rest) := by
  obtain ⟨skipped, line, hLines, hSkipped, hRead⟩ := h.found
  rw [hLines, keysOf_append, keysOf_eq_nil hSkipped, List.nil_append, keysOf_cons_of_ok hRead]

theorem endsWithKey_of_firstKey {text rest : Str} {entry : AuthorizedKey}
    (h : FirstKey formats text entry rest) :
    EndsWithKey formats text ↔ EndsWithKey formats rest := by
  obtain ⟨skipped, line, hLines, _, hRead⟩ := h.found
  unfold EndsWithKey
  rw [hLines, List.getLast?_append, List.getLast?_cons]
  -- the line with the key is the last one exactly if no line follows it
  cases hRest : (lines rest).getLast? with
  | none =>
    constructor
    · intro _ last hLast
      cases hLast
    · rintro _ last ⟨rfl⟩
      exact ⟨entry, hRead⟩
  | some last => rfl

theorem not_endsWithKey {text : Str} (hText : text ≠ [])
    (h : ∀ line ∈ lines text, ¬ HoldsKey formats line) : ¬ EndsWithKey formats text := by
  have hLines : lines text ≠ [] := mt lines_eq_nil.mp hText
  intro hEnds
  exact h _ (List.getLast_mem hLines) (hEnds _ (List.getLast?_eq_some_getLast hLines))

theorem parsePublicKeysFrom_nil (rounds : Nat) (publicKeys final : List PublicKey) :
    parsePublicKeysFrom formats rounds publicKeys [] = .ok final ↔
      EndsWithKey formats [] ∧ final = publicKeys ++ keysOf formats (lines []) := by
  have hEnds : EndsWithKey formats [] := by
    intro line hLine
    cases hLine
  have hParsed : parsePublicKeysFrom formats rounds publicKeys [] = .ok publicKeys := by
    cases rounds with
    | zero => rfl
    | succ rounds => rfl
  rw [hParsed, Except.ok.injEq, eq_comm, and_iff_right hEnds, lines, keysOf, List.filterMap_nil,
    List.append_nil]

theorem parsePublicKeysFrom_eq_ok_iff (rounds : Nat) (publicKeys final : List PublicKey)
    (raw : Str) (h : raw.length ≤ rounds) :
    parsePublicKeysFrom formats rounds publicKeys raw = .ok final ↔
      EndsWithKey formats raw ∧ final = publicKeys ++ keysOf formats (lines raw) := by
  -- the induction is on the rounds; each appends one key
  induction rounds generalizing publicKeys raw with
  | zero =>
    cases List.eq_nil_of_length_eq_zero (Nat.le_zero.mp h)
    exact parsePublicKeysFrom_nil 0 publicKeys final
  | succ rounds ih =>
    cases raw with
    | nil => exact parsePublicKeysFrom_nil (rounds + 1) publicKeys final
    | cons byte more =>
      have hText : byte :: more ≠ [] := List.cons_ne_nil byte more
      rw [parsePublicKeysFrom.eq_3 formats publicKeys (byte :: more) rounds hText]
      cases hParsed : parseAuthorizedKey formats (byte :: more) with
      | error e =>
        have hNone := not_endsWithKey hText (parseAuthorizedKey_error hParsed)
        constructor
        · intro hFinal
          cases hFinal
        · rintro ⟨hEnds, _⟩
          exact absurd hEnds hNone
      | ok found =>
        obtain ⟨entry, rest⟩ := found
        have hFirst := parseAuthorizedKey_ok hParsed
        have hShorter := hFirst.shorter
        dsimp only
        rw [ih (publicKeys ++ [entry.key]) rest (by omega), endsWithKey_of_firstKey hFirst,
          keysOf_of_firstKey hFirst, List.append_assoc, List.singleton_append]

theorem parsePublicKeys_eq_ok_iff (raw : Str) (publicKeys : List PublicKey) :
    parsePublicKeys formats raw = .ok publicKeys ↔
      EndsWithKey formats raw ∧ publicKeys = keysOf formats (lines raw) :=
  parsePublicKeysFrom_eq_ok_iff raw.length [] publicKeys raw le_rfl

theorem authSettings_eq_ok_iff (ca : Str) (peerCa : Option Str) (nodeID : Str)
    (settings : Auth.Settings) :
    authSettings formats ca peerCa nodeID = .ok settings ↔
      EndsWithKey formats ca ∧ (∀ raw, peerCa = some raw → EndsWithKey formats raw) ∧
      settings = ⟨(keysOf formats (lines ca)).map formats.marshal,
        (keysOf formats (peerCa.elim [] lines)).map formats.marshal, nodeID⟩ := by
  unfold authSettings
  split
  · rename_i hCa
    constructor
    · intro h
      cases h
    · rintro ⟨hEnds, _⟩
      rw [(parsePublicKeys_eq_ok_iff ca _).mpr ⟨hEnds, rfl⟩] at hCa
      cases hCa
  · rename_i caPublicKeys hCa
    obtain ⟨hEnds, rfl⟩ := (parsePublicKeys_eq_ok_iff ca caPublicKeys).mp hCa
    rw [and_iff_right hEnds]
    cases peerCa with
    | none =>
      rw [Except.ok.injEq, eq_comm]
      refine (and_iff_right ?_).symm
      intro _ hRaw
      cases hRaw
    | some raw =>
      dsimp only
      split
      · rename_i hPeer
        constructor
        · intro h
          cases h
        · rintro ⟨hEndsPeer, _⟩
          rw [(parsePublicKeys_eq_ok_iff raw _).mpr ⟨hEndsPeer raw rfl, rfl⟩] at hPeer
          cases hPeer
      · rename_i peerCaPublicKeys hPeer
        obtain ⟨hEndsPeer, rfl⟩ := (parsePublicKeys_eq_ok_iff raw peerCaPublicKeys).mp hPeer
        rw [Except.ok.injEq, eq_comm]
        refine (and_iff_right ?_).symm
        rintro _ ⟨rfl⟩
        exact hEndsPeer

/-- A line of the text holds a key with this wire encoding. -/
def Holds (formats : KeyFormats) (text key : Str) : Prop :=
  ∃ line ∈ lines text, ∃ entry, readLine formats line = .ok entry ∧
    formats.marshal entry.key = key

theorem mem_keysOf_lines {text key : Str} :
    key ∈ (keysOf formats (lines text)).map formats.marshal ↔ Holds formats text key := by
  rw [List.mem_map]
  constructor
  · rintro ⟨publicKey, hKey, rfl⟩
    obtain ⟨line, hLine, entry, hRead, rfl⟩ := mem_keysOf.mp hKey
    exact ⟨line, hLine, entry, hRead, rfl⟩
  · rintro ⟨line, hLine, entry, hRead, rfl⟩
    exact ⟨entry.key, mem_keysOf.mpr ⟨line, hLine, entry, hRead, rfl⟩, rfl⟩

end Keys

/-- The process starts with the given files of authorities exactly if each of them is
empty or ends in a line with a key. Then a key is an authority exactly if a line of
the file holds it: lines without a key before the last one go unnoticed. -/
theorem authorities_are_keys_held (formats : KeyFormats) (ca : Str) (peerCa : Option Str)
    (nodeID : Str) :
    ((∃ settings, authSettings formats ca peerCa nodeID = .ok settings) ↔
      EndsWithKey formats ca ∧ ∀ raw, peerCa = some raw → EndsWithKey formats raw) ∧
    ∀ settings, authSettings formats ca peerCa nodeID = .ok settings →
      ∀ (env : Auth.Env) (key : Str),
        ((Auth.checker env settings.caPublicKeys).isUserAuthority key = true ↔
          Holds formats ca key) ∧
        ((Auth.checker env settings.peerCAPublicKeys).isUserAuthority key = true ↔
          ∃ raw, peerCa = some raw ∧ Holds formats raw key) := by
  constructor
  · constructor
    · rintro ⟨settings, hSettings⟩
      obtain ⟨hEnds, hPeer, _⟩ := (authSettings_eq_ok_iff ca peerCa nodeID settings).mp hSettings
      exact ⟨hEnds, hPeer⟩
    · rintro ⟨hEnds, hPeer⟩
      exact ⟨_, (authSettings_eq_ok_iff ca peerCa nodeID _).mpr ⟨hEnds, hPeer, rfl⟩⟩
  · intro settings hSettings env key
    obtain ⟨_, _, rfl⟩ := (authSettings_eq_ok_iff ca peerCa nodeID settings).mp hSettings
    have hChecks : ∀ authorities,
        (Auth.checker env authorities).isUserAuthority key = true ↔ key ∈ authorities :=
      fun _ => List.contains_iff_mem
    rw [hChecks, hChecks, mem_keysOf_lines, and_iff_right Iff.rfl]
    cases peerCa with
    | none =>
      constructor
      · intro hKey
        cases hKey
      · rintro ⟨_, hRaw, _⟩
        cases hRaw
    | some raw =>
      rw [Option.elim_some, mem_keysOf_lines]
      constructor
      · intro hHolds
        exact ⟨raw, rfl, hHolds⟩
      · rintro ⟨_, ⟨rfl⟩, hHolds⟩
        exact hHolds

end GatewaySshd.Cli
