import GatewaySshd.Lib.Json
import GatewaySshd.Node.Confinement

/-! # Status reports in the older form

A client may send its status as the command itself. The text is first read as a
command line, by a csv reader that skips blank lines, ends a field at a space and
takes quotes for its own; only if no command comes out of that is it taken for a
report.
-/
namespace GatewaySshd.Node
set_option autoImplicit false

open Db Space
open Json (Blank IsBlank)

section Csv

/-- The lines that are left when the blank ones in front are skipped. -/
def recordLines (text : Str) : List Str :=
  ((readLines text).map normalizeLine).dropWhile fun line => line == [] || line == [newline]

theorem readRecord_of_recordLines {text line : Str} {lines : List Str} (comma : UInt8)
    (h : recordLines text = line :: lines) :
    readRecord comma text = readFields comma .start [] (line ++ lines.flatten) := by
  unfold recordLines at h
  simp only [readRecord, h, List.flatten_cons]

theorem readLines_cons {byte : UInt8} (h : byte ≠ newline) (rest : Str) :
    readLines (byte :: rest) =
      (byte :: (readLines rest).headD []) :: (readLines rest).tail := by
  simp only [readLines, if_neg h]
  cases readLines rest <;> rfl

theorem recordLines_kept (byte : UInt8) (hNewline : byte ≠ newline) (hReturn : byte ≠ 13)
    (rest : Str) : ∃ line lines, recordLines (byte :: rest) = (byte :: line) :: lines := by
  have hNormal : ∀ line, normalizeLine (byte :: line) = byte :: normalizeLine line := by
    intro line
    rw [normalizeLine, if_neg fun h => hReturn h.1]
  rw [recordLines, readLines_cons hNewline, List.map_cons, hNormal, List.dropWhile_cons_of_neg]
  · exact ⟨_, _, rfl⟩
  · simp [hNewline]

/-- A carriage return is dropped with its line if it ends one, and kept otherwise. -/
theorem recordLines_return (rest : Str) :
    recordLines (13 :: rest) = recordLines rest ∨
      ∃ line lines, recordLines (13 :: rest) = (13 :: line) :: lines := by
  have hReturn : (13 : UInt8) ≠ newline := by decide
  rw [recordLines, recordLines, readLines_cons hReturn, List.map_cons, normalizeLine]
  cases readLines rest with
  | nil => exact Or.inl rfl
  | cons line lines =>
    rw [List.headD_cons, List.tail_cons, List.map_cons]
    by_cases hBlank : line = [] ∨ line = [newline]
    · rw [if_pos ⟨rfl, hBlank⟩]
      rcases hBlank with rfl | rfl
      · exact Or.inl rfl
      · exact Or.inl rfl
    · rw [if_neg fun h => hBlank h.2, List.dropWhile_cons_of_neg]
      · exact Or.inr ⟨_, _, rfl⟩
      · simp [hReturn]

/-- What the first line kept of a report starts with. -/
def IsLead (byte : UInt8) : Prop := byte = 9 ∨ byte = 13 ∨ byte = 32 ∨ byte = 91 ∨ byte = 123

theorem recordLines_report {byte : UInt8} (hByte : byte = 91 ∨ byte = 123) (rest : Str)
    {before : List UInt8} (hBefore : ∀ b ∈ before, IsBlank b) :
    ∃ lead line lines, recordLines (before ++ byte :: rest) = (lead :: line) :: lines ∧
      IsLead lead := by
  induction before with
  | nil =>
    have hKept : byte ≠ newline ∧ byte ≠ 13 := by
      rcases hByte with rfl | rfl <;> decide
    obtain ⟨line, lines, hLines⟩ := recordLines_kept byte hKept.1 hKept.2 rest
    exact ⟨byte, line, lines, hLines, Or.inr (Or.inr (Or.inr hByte))⟩
  | cons blank before ih =>
    have hRest := ih fun b hMem => hBefore b (List.mem_cons_of_mem _ hMem)
    rw [List.cons_append]
    rcases hBefore blank List.mem_cons_self with rfl | rfl | rfl | rfl
    · obtain ⟨line, lines, hLines⟩ :=
        recordLines_kept 9 (by decide) (by decide) (before ++ byte :: rest)
      exact ⟨9, line, lines, hLines, Or.inl rfl⟩
    · -- a line that is only a newline is skipped
      exact hRest
    · rcases recordLines_return (before ++ byte :: rest) with hSame | ⟨line, lines, hLines⟩
      · rw [hSame]
        exact hRest
      · exact ⟨13, line, lines, hLines, Or.inr (Or.inl rfl)⟩
    · obtain ⟨line, lines, hLines⟩ :=
        recordLines_kept 32 (by decide) (by decide) (before ++ byte :: rest)
      exact ⟨32, line, lines, hLines, Or.inr (Or.inr (Or.inl rfl))⟩

/-- What has been read of a bare field stays in front of it. -/
theorem readFields_bare {comma : UInt8} {text field : Str} {fields : List Str}
    (h : readFields comma .bare field text = some fields) :
    ∃ tail more, fields = (field ++ tail) :: more := by
  induction text generalizing field with
  | nil =>
    cases h
    exact ⟨[], [], by rw [List.append_nil]⟩
  | cons byte rest ih =>
    simp only [readFields] at h
    split_ifs at h with _ hComma hNewline
    · obtain ⟨more, _, rfl⟩ := Option.map_eq_some_iff.mp h
      exact ⟨[], more, by rw [List.append_nil]⟩
    · cases h
      exact ⟨[], [], by rw [List.append_nil]⟩
    · obtain ⟨tail, more, rfl⟩ := ih h
      exact ⟨byte :: tail, more, by rw [List.append_assoc]; rfl⟩

theorem readFields_lead {lead : UInt8} (hLead : IsLead lead) {rest : Str} {fields : List Str}
    (h : readFields 32 .start [] (lead :: rest) = some fields) :
    ∃ name more, fields = name :: more ∧ ∀ byte ∈ name.head?, IsLead byte := by
  have hOther : lead ≠ quote ∧ lead ≠ newline := by
    rcases hLead with rfl | rfl | rfl | rfl | rfl <;> decide
  simp only [readFields, if_neg hOther.1, if_neg hOther.2] at h
  split_ifs at h with hSpace
  · obtain ⟨more, _, rfl⟩ := Option.map_eq_some_iff.mp h
    exact ⟨[], more, rfl, by simp⟩
  · obtain ⟨tail, more, rfl⟩ := readFields_bare h
    refine ⟨_, more, rfl, ?_⟩
    intro byte hByte
    cases hByte
    exact hLead

end Csv

section Names

def startsLower (name : Str) : Bool := name.head?.any fun byte => 97 ≤ byte && byte ≤ 122

theorem not_startsLower {name : Str} (h : ∀ byte ∈ name.head?, IsLead byte) :
    startsLower name = false := by
  cases name with
  | nil => rfl
  | cons byte rest => rcases h byte rfl with rfl | rfl | rfl | rfl | rfl <;> rfl

theorem startsLower_of_lookup {commands : List (Str × Command)} {name : Str} {command : Command}
    (hNames : ∀ entry ∈ commands, startsLower entry.1 = true)
    (h : commands.lookup name = some command) : startsLower name = true := by
  obtain ⟨before, after, rfl, _⟩ := List.lookup_eq_some_iff.mp h
  exact hNames (name, command) (by simp)

/-- Every command has a name, and its name starts with a lower case letter. -/
theorem startsLower_of_handleCommand {connection : Connection} {command : List Str}
    {found : Command} (h : handleCommand connection command = some found) :
    ∃ name arguments, command = name :: arguments ∧ startsLower name = true := by
  unfold handleCommand at h
  split at h
  · refine ⟨_, _, rfl, ?_⟩
    split at h
    · rename_i hOpen
      exact startsLower_of_lookup (by decide) hOpen
    · split at h
      · exact startsLower_of_lookup (by decide) h
      · cases h
  · refine ⟨_, _, rfl, ?_⟩
    split_ifs at h with _ hStatus hGetUser _ hKickUser
    · rw [hStatus]
      decide
    · rw [hGetUser]
      decide
    · rw [hKickUser]
      decide
  · cases h

end Names

/-- An object or an array with white space around it. -/
structure LegacyReport where
  before : Blank
  value : Json.Value
  container : value.isContainer = true
  after : Blank

def LegacyReport.text (report : LegacyReport) : Str :=
  report.before.bytes ++ report.value.text ++ report.after.bytes

theorem handleCommand_report (report : LegacyReport) (connection : Connection) :
    handleCommand connection (splitCommand report.text) = none := by
  obtain ⟨byte, rest, hText, hByte⟩ := Json.Value.head_text report.container
  obtain ⟨lead, line, lines, hLines, hLead⟩ :=
    recordLines_report hByte (rest ++ report.after.bytes) report.before.blank
  have hRecord : readRecord 32 report.text =
      readFields 32 .start [] (lead :: (line ++ lines.flatten)) := by
    rw [LegacyReport.text, hText, List.append_assoc, List.cons_append]
    exact readRecord_of_recordLines 32 hLines
  rw [Option.eq_none_iff_forall_ne_some]
  intro found hFound
  obtain ⟨name, arguments, hCommand, hLower⟩ := startsLower_of_handleCommand hFound
  rw [splitCommand, hRecord] at hCommand
  -- a reader that fails leaves no field, and no command is without a name
  cases hFields : readFields 32 .start [] (lead :: (line ++ lines.flatten)) with
  | none =>
    rw [hFields] at hCommand
    cases hCommand
  | some fields =>
    obtain ⟨first, more, rfl, hFirst⟩ := readFields_lead hLead hFields
    rw [hFields] at hCommand
    cases hCommand
    rw [not_startsLower hFirst] at hLower
    cases hLower

theorem LegacyReport.value_ne_nil (report : LegacyReport) : report.value.text ≠ [] := by
  obtain ⟨byte, rest, hText, _⟩ := Json.Value.head_text report.container
  rw [hText]
  exact List.cons_ne_nil byte rest

theorem LegacyReport.text_ne_nil (report : LegacyReport) : report.text ≠ [] := by
  intro hNil
  rw [LegacyReport.text, List.append_eq_nil_iff, List.append_eq_nil_iff] at hNil
  exact report.value_ne_nil hNil.1.2

section Service

variable {ι ρ : Type} [DecidableEq ρ]

/-- The text runs no command, whatever the connection may do, and as a service it does
nothing but store the status for the user of the connection, or fail to. -/
structure StoredAs (codec : Codec) (w : World ι ρ) (reference : ρ) (moment : Moment)
    (text status : Str) : Prop where
  ignored : ∀ connection, handleCommand connection (splitCommand text) = none
  invalid : w.handleCommand codec moment reference false (splitCommand text) =
    w.fail .invalidCommand
  stored : ∀ row, moment.databaseError = none →
    w.users (w.gateway.connections reference).user = some row →
      w.runService codec reference moment text =
        ⟨{ w with users := fun id =>
            if id = (w.gateway.connections reference).user then
              some { row with status := some status, modifiedAt := some moment.now }
            else w.users id }, [], [], some .success⟩
  missing : moment.databaseError = none →
    w.users (w.gateway.connections reference).user = none →
      w.runService codec reference moment text =
        ⟨w, [], [.recordNotFound], some (.failure .recordNotFound)⟩
  failed : ∀ error, moment.databaseError = some error →
    w.runService codec reference moment text =
      ⟨w, [], [.other error], some (.failure (.other error))⟩

omit [DecidableEq ρ] in
theorem saveStatus_eq (w : World ι ρ) (reference : ρ) (moment : Moment) {status : Str}
    (hStatus : status ≠ []) :
    w.saveStatus moment reference status =
      w.report moment (updateUserColumn moment.now (w.gateway.connections reference).user
        fun row => { row with status := some status }) := by
  unfold World.saveStatus
  congr 1
  funext users
  rw [updateUserStatus, if_neg hStatus]

/-- Of a text that is no command, all that a service does is its report. -/
theorem runService_of_invalid {codec : Codec} {w : World ι ρ} {reference : ρ} {moment : Moment}
    {text status : Str} (hText : text ≠ [])
    (hInvalid : w.handleCommand codec moment reference false (splitCommand text) =
      w.fail .invalidCommand)
    (hUnmarshal : codec.unmarshal text = .ok status) :
    w.runService codec reference moment text =
      ⟨(w.saveStatus moment reference status).world,
        (w.saveStatus moment reference status).written.map .stdout,
        (w.saveStatus moment reference status).error.toList,
        some (.ofError (w.saveStatus moment reference status).error)⟩ := by
  have hLegacy : w.legacyStatus codec reference moment text =
      w.saveStatus moment reference status := by
    rw [World.legacyStatus, hUnmarshal]
  rw [World.runService, if_neg hText]
  simp only [hInvalid, World.fail, if_true, hLegacy, List.nil_append]

theorem legacy_report_is_stored (codec : Codec) (w : World ι ρ) (reference : ρ) (moment : Moment)
    (report : LegacyReport) (hUnmarshal : codec.unmarshal report.text = .ok report.value.text) :
    StoredAs codec w reference moment report.text report.value.text := by
  have hInvalid : w.handleCommand codec moment reference false (splitCommand report.text) =
      w.fail .invalidCommand := by
    rw [World.handleCommand, handleCommand_report]
  have hRun := runService_of_invalid report.text_ne_nil hInvalid hUnmarshal
  rw [saveStatus_eq w reference moment report.value_ne_nil] at hRun
  refine ⟨handleCommand_report report, hInvalid, ?_, ?_, ?_⟩
  · intro row hDatabase hRow
    rw [hRun, World.report, hDatabase, updateUserColumn, hRow]
    rfl
  · intro hDatabase hRow
    rw [hRun, World.report, hDatabase, updateUserColumn, hRow]
    rfl
  · intro error hDatabase
    rw [hRun, World.report, hDatabase]
    rfl

end Service

/-- An object with one member, laid out over several lines. -/
def linesReport : LegacyReport where
  before := ⟨[13, 10, 32, 9], by simp [IsBlank]⟩
  value := .object (.last ⟨[10], by simp [IsBlank]⟩ [.plain 97 (by decide)] ⟨[], by simp⟩
    ⟨[32], by simp [IsBlank]⟩ (.emptyArray ⟨[9], by simp [IsBlank]⟩) ⟨[10], by simp [IsBlank]⟩)
  container := rfl
  after := ⟨[10], by simp [IsBlank]⟩

def trimmingCodec : Codec := { plainCodec with unmarshal := fun text => .ok (trimSpace text) }

theorem legacy_report_is_stored_lines :
    linesReport.text = ascii "\r\n \t\x7b\n\"a\": [\t]\n\x7d\n" ∧
    StoredAs trimmingCodec aliceStored () ⟨7, none, none, ⟨[], none⟩⟩ linesReport.text
      (ascii "\x7b\n\"a\": [\t]\n\x7d") ∧
    ((aliceStored.runService trimmingCodec () ⟨7, none, none, ⟨[], none⟩⟩
      linesReport.text).world.users (ascii "alice")).bind UserRow.status =
        some (ascii "\x7b\n\"a\": [\t]\n\x7d") :=
  ⟨by decide, legacy_report_is_stored trimmingCodec aliceStored () ⟨7, none, none, ⟨[], none⟩⟩
    linesReport (congrArg Except.ok (by decide)), by decide⟩

end GatewaySshd.Node
