import GatewaySshd.Node.Session

/-! # What an exit status tells

A command fails when something that it depends on does. The service drops every
error of a command but that of an invalid one, and a shell shows the errors of its
lines and goes on, so both end with an exit status of zero.
-/
namespace GatewaySshd.Node
set_option autoImplicit false

open TtlCache (Time)
open Ssh Db Space

section Works

variable {ι ρ : Type}

def Moment.Writable (moment : Moment) : Prop := moment.writeError = none

def Codec.Encodes (codec : Codec) (value : Response) : Prop :=
  ∃ output, codec.marshalIndent value = .ok output

/-- The row of the user of the connection is there and can be written. -/
def World.Writes (w : World ι ρ) (moment : Moment) (reference : ρ) : Prop :=
  moment.databaseError = none ∧ w.users (w.gateway.connections reference).user ≠ none

/-- Nothing that the command depends on fails. -/
def Works (codec : Codec) (w : World ι ρ) (moment : Moment) (reference : ρ) (shell : Bool) :
    Command → Prop
  | .help => moment.Writable
  | .ping => (∃ text, codec.timeText moment.now = .ok text) ∧ moment.Writable
  | .version => moment.Writable
  | .reportStatus => shell = false ∧
      (∃ raw status, codec.gunzip moment.stdin = .ok raw ∧ codec.unmarshal raw = .ok status) ∧
      w.Writes moment reference
  | .reportScreenshot => shell = false ∧ moment.stdin.failure = none ∧ w.Writes moment reference
  | .status user => codec.Encodes
      (if (w.gateway.connections reference).permitPortForwarding then
        .status (w.gatherStatus codec moment.now user)
      else .connection (w.gatherConnectionStatus codec moment.now reference)) ∧ moment.Writable
  | .listUsers => moment.databaseError = none ∧ codec.Encodes (w.listUsers moment.now) ∧
      moment.Writable
  | .listOnlineUsers => moment.databaseError = none ∧
      codec.Encodes (w.listOnlineUsers moment.now) ∧ moment.Writable
  | .listLocalOnlineUsers =>
      (w.gateway.connectedUserIds = [] ∨ moment.databaseError = none) ∧
      codec.Encodes w.listLocalOnlineUsers ∧ moment.Writable
  | .getUser userId => moment.databaseError = none ∧
      codec.Encodes (w.getUser codec moment.now userId) ∧ moment.Writable
  | .kickUser _ => True

variable {codec : Codec} {w : World ι ρ} {moment : Moment} {reference : ρ} {shell : Bool}

theorem error_write (data : Str) : (w.write moment data).error = none ↔ moment.Writable :=
  Option.map_eq_none_iff

theorem error_marshal (value : Response) :
    (w.marshal codec moment value).error = none ↔ codec.Encodes value ∧ moment.Writable := by
  unfold World.marshal Codec.Encodes
  cases codec.marshalIndent value with
  | error text => simp [World.fail]
  | ok output => simp [error_write]

theorem error_query (asks : Bool) (value : Response) :
    (w.query codec moment asks value).error = none ↔
      (asks = false ∨ moment.databaseError = none) ∧ codec.Encodes value ∧ moment.Writable := by
  unfold World.query
  cases asks with
  | false => simp [error_marshal]
  | true =>
    cases hError : moment.databaseError with
    | none => simp [error_marshal]
    | some text => simp [World.fail]

theorem error_report (update : UserTable → Option UserTable) :
    (w.report moment update).error = none ↔
      moment.databaseError = none ∧ update w.users ≠ none := by
  unfold World.report
  cases moment.databaseError with
  | some text => simp [World.fail]
  | none => cases update w.users <;> simp [World.fail]

theorem updateUserColumn_ne_none (now : Time) (userId : Str) (change : UserRow → UserRow)
    (users : UserTable) :
    updateUserColumn now userId change users ≠ none ↔ users userId ≠ none := by
  simp [updateUserColumn]

variable [DecidableEq ρ]

/-- A command returns no error exactly when what it depends on is there. -/
theorem error_perform (command : Command) :
    (w.perform codec moment reference shell command).error = none ↔
      Works codec w moment reference shell command := by
  cases command with
  | help => exact error_write _
  | ping =>
    simp only [World.perform, World.ping, Works, Moment.Writable]
    cases codec.timeText moment.now with
    | error text => simp [World.fail]
    | ok text => cases moment.writeError <;> simp
  | version => exact error_write _
  | reportStatus =>
    simp only [World.perform, World.reportStatus, Works, World.Writes]
    cases shell with
    | true => simp [World.fail]
    | false =>
      cases hRaw : codec.gunzip moment.stdin with
      | error text => simp [World.fail]
      | ok raw =>
        cases hStatus : codec.unmarshal raw with
        | error text => simp [World.fail, hStatus]
        | ok status =>
          simp [World.saveStatus, error_report, updateUserStatus, updateUserColumn_ne_none, hStatus]
  | reportScreenshot =>
    simp only [World.perform, World.reportScreenshot, Works, World.Writes]
    cases shell with
    | true => simp [World.fail]
    | false =>
      cases moment.stdin.failure with
      | some text => simp [World.fail]
      | none => simp [error_report, updateUserScreenshot, updateUserColumn_ne_none]
  | status user => exact error_marshal _
  | listUsers => simp [World.perform, error_query, Works]
  | listOnlineUsers => simp [World.perform, error_query, Works]
  | listLocalOnlineUsers => simp [World.perform, error_query, Works]
  | getUser userId => simp [World.perform, error_query, Works]
  | kickUser userId => simp [World.perform, World.kickUser, Works]

omit [DecidableEq ρ] in
theorem marshal_ne_invalidCommand (value : Response) :
    (w.marshal codec moment value).error ≠ some .invalidCommand := by
  unfold World.marshal
  split
  · simp [World.fail]
  · simp [World.write]

omit [DecidableEq ρ] in
theorem query_ne_invalidCommand (asks : Bool) (value : Response) :
    (w.query codec moment asks value).error ≠ some .invalidCommand := by
  unfold World.query
  split
  · simp [World.fail]
  · exact marshal_ne_invalidCommand value

omit [DecidableEq ρ] in
theorem report_ne_invalidCommand (update : UserTable → Option UserTable) :
    (w.report moment update).error ≠ some .invalidCommand := by
  unfold World.report
  split
  · simp [World.fail]
  · split <;> simp [World.fail]

/-- Only an unknown command is answered as an invalid one. -/
theorem perform_ne_invalidCommand (command : Command) :
    (w.perform codec moment reference shell command).error ≠ some .invalidCommand := by
  cases command with
  | help => simp [World.perform, World.help, World.write]
  | ping =>
    simp only [World.perform, World.ping]
    split
    · simp [World.fail]
    · split <;> simp
  | version => simp [World.perform, World.showVersion, World.write]
  | reportStatus =>
    simp only [World.perform, World.reportStatus]
    split
    · simp [World.fail]
    · split
      · simp [World.fail]
      · split
        · simp [World.fail]
        · exact report_ne_invalidCommand _
  | reportScreenshot =>
    simp only [World.perform, World.reportScreenshot]
    split
    · simp [World.fail]
    · split
      · simp [World.fail]
      · exact report_ne_invalidCommand _
  | status user => exact marshal_ne_invalidCommand _
  | listUsers => exact query_ne_invalidCommand _ _
  | listOnlineUsers => exact query_ne_invalidCommand _ _
  | listLocalOnlineUsers => exact query_ne_invalidCommand _ _
  | getUser userId => exact query_ne_invalidCommand _ _
  | kickUser userId => simp [World.perform, World.kickUser]

/-- What a shell leaves of the world: only a kick changes anything. -/
structure Shelled (before after : World ι ρ) : Prop where
  intro :: (same : after = { before with loginFlags := after.loginFlags, isOpen := after.isOpen })

omit [DecidableEq ρ] in
theorem Shelled.works {after : World ι ρ} (h : Shelled w after) (command : Command) :
    Works codec after moment reference shell command ↔
      Works codec w moment reference shell command := by
  rw [h.same]
  cases command <;> exact Iff.rfl

theorem Effect.shelled {command : Command} {after : World ι ρ}
    (h : Effect w moment reference true command after) : Shelled w after := by
  cases h with
  | nothing => exact ⟨rfl⟩
  | report hExec _ _ => cases hExec
  | kick => exact ⟨rfl⟩

theorem handleCommand_shelled (command : List Str) :
    Shelled w (w.handleCommand codec moment reference true command).world := by
  unfold World.handleCommand
  split
  · exact ⟨rfl⟩
  · exact (perform_effect _).shelled

theorem error_handleCommand (command : List Str) :
    (w.handleCommand codec moment reference shell command).error = none ↔
      ∃ found, handleCommand (w.gateway.connections reference) command = some found ∧
        Works codec w moment reference shell found := by
  unfold World.handleCommand
  split
  · rename_i hNone
    simp [World.fail, hNone]
  · rename_i found hFound
    simp [hFound, error_perform]

theorem handleCommand_invalid (command : List Str) :
    (w.handleCommand codec moment reference shell command).error = some .invalidCommand ↔
      handleCommand (w.gateway.connections reference) command = none := by
  unfold World.handleCommand
  split
  · rename_i hNone
    simp [World.fail, hNone]
  · rename_i found hFound
    simp [hFound, perform_ne_invalidCommand]

end Works

section Shell

variable {ι ρ : Type} [DecidableEq ρ] {codec : Codec} {w : World ι ρ} {reference : ρ}

def leaves (line : Str) : Bool :=
  trimSpace line = ascii "exit" || trimSpace line = ascii "quit"

/-- The lines that a shell runs: blank ones are skipped, and it is left at the first
that says so. -/
def entered : List (Str × Moment) → List (Str × Moment)
  | [] => []
  | (line, moment) :: rest =>
    if trimSpace line = [] then entered rest
    else if leaves line then []
    else (line, moment) :: entered rest

/-- The line is a command that works in a shell. -/
def Runs (codec : Codec) (w : World ι ρ) (reference : ρ) (entry : Str × Moment) : Prop :=
  ∃ command,
    handleCommand (w.gateway.connections reference) (splitCommand (trimSpace entry.1)) =
      some command ∧
    Works codec w entry.2 reference true command

/-- The shell is not left but ends: reading fails, or the error of a line cannot be
shown. -/
def CutOff (codec : Codec) (w : World ι ρ) (reference : ρ) (input : List (Str × Moment))
    (failure : Option Str) : Prop :=
  (failure ≠ none ∧ ∀ entry ∈ input, leaves entry.1 = false) ∨
    ∃ entry ∈ entered input, ¬ Runs codec w reference entry ∧ ¬ entry.2.Writable

def SessionChannel.Shown (channel : SessionChannel) (error : ServiceError) : Prop :=
  .stderr (ascii "ERROR: " ++ error.text ++ ascii "\r\n") ∈ channel.sent ∨
    .terminal (ascii "ERROR: " ++ error.text ++ [newline]) ∈ channel.sent

/-- How a service that is over leaves the channel. -/
structure Finished (before after : SessionChannel) (clean failed : Prop) : Prop where
  zero : .exitStatus 0 ∈ after.sent ↔ .exitStatus 0 ∈ before.sent ∨ ¬ failed
  one : .exitStatus 1 ∈ after.sent ↔ .exitStatus 1 ∈ before.sent ∨ failed
  errors : after.errors = [] ↔ before.errors = [] ∧ clean
  shown : failed → (∀ error ∈ before.errors, before.Shown error) →
    ∀ error ∈ after.errors, after.Shown error

omit [DecidableEq ρ] in
theorem Shelled.runs {after : World ι ρ} (h : Shelled w after) (entry : Str × Moment) :
    Runs codec after reference entry ↔ Runs codec w reference entry := by
  have hSame : after.gateway = w.gateway := by rw [h.same]
  simp only [Runs, h.works, hSame]

omit [DecidableEq ρ] in
theorem Shelled.cutOff {after : World ι ρ} (h : Shelled w after) (input : List (Str × Moment))
    (failure : Option Str) :
    CutOff codec after reference input failure ↔ CutOff codec w reference input failure := by
  simp only [CutOff, h.runs]

/-- What a line makes of the shell. -/
inductive Reads (codec : Codec) (w : World ι ρ) (reference : ρ) (line : Str) (moment : Moment) :
    Turn ι ρ → Prop where
  | blank (hBlank : trimSpace line = []) :
      Reads codec w reference line moment ⟨w, [.prompt], [], none⟩
  | left (hLine : trimSpace line ≠ []) (hLeaves : leaves line = true) :
      Reads codec w reference line moment ⟨w, [], [], some .success⟩
  | ran {after : World ι ρ} {written : List Str} (hLine : trimSpace line ≠ [])
      (hStays : leaves line = false) (hShelled : Shelled w after)
      (hRuns : Runs codec w reference (line, moment)) :
      Reads codec w reference line moment
        ⟨after, written.map .terminal ++ [.prompt], [], none⟩
  | showed {after : World ι ρ} {written : List Str} {error : ServiceError}
      (hLine : trimSpace line ≠ []) (hStays : leaves line = false) (hShelled : Shelled w after)
      (hRuns : ¬ Runs codec w reference (line, moment)) (hWritable : moment.Writable) :
      Reads codec w reference line moment
        ⟨after, written.map .terminal ++ [.terminal (ascii "ERROR: " ++ error.text ++ [newline])] ++
          [.prompt], [error], none⟩
  | broke {after : World ι ρ} {written : List Str} {error : ServiceError} {text : Str}
      (hLine : trimSpace line ≠ []) (hStays : leaves line = false)
      (hRuns : ¬ Runs codec w reference (line, moment)) (hBroken : ¬ moment.Writable) :
      Reads codec w reference line moment
        ⟨after, written.map .terminal ++ [.terminal (ascii "ERROR: " ++ error.text ++ [newline])],
          [error], some (.failure (.other text))⟩

theorem shellLine_reads (line : Str) (moment : Moment) :
    Reads codec w reference line moment (w.shellLine codec reference line moment) := by
  unfold World.shellLine
  dsimp only
  split
  · rename_i hBlank
    exact .blank hBlank
  · rename_i hLine
    split
    · rename_i hLeaves
      exact .left hLine (by simpa [leaves] using hLeaves)
    · rename_i hStays
      have hStays : leaves line = false := by simpa [leaves] using hStays
      have hShelled : Shelled w
          (w.handleCommand codec moment reference true (splitCommand (trimSpace line))).world :=
        handleCommand_shelled _
      split
      · rename_i hDone
        exact .ran hLine hStays hShelled (error_handleCommand _ |>.mp hDone)
      · rename_i error hError
        have hRuns : ¬ Runs codec w reference (line, moment) := by
          intro hRuns
          cases hError.symm.trans ((error_handleCommand _).mpr hRuns)
        split
        · rename_i text hBroken
          exact .broke hLine hStays hRuns (by simp [Moment.Writable, hBroken])
        · rename_i hWritable
          exact .showed hLine hStays hShelled hRuns hWritable

theorem exitStatus_report (ending : Ending) :
    (.exitStatus 0 ∈ ending.report ↔ ending = .success) ∧
      (.exitStatus 1 ∈ ending.report ↔ ending ≠ .success) := by
  cases ending <;> simp [Ending.report]

omit [DecidableEq ρ] in
theorem shown_take {channel : SessionChannel} {turn : Turn ι ρ} {error : ServiceError}
    (h : channel.Shown error) : (channel.take turn).Shown error :=
  h.imp (fun hOut => List.mem_append_left _ (List.mem_append_left _ hOut))
    fun hOut => List.mem_append_left _ (List.mem_append_left _ hOut)

omit [DecidableEq ρ] in
/-- Exit statuses are only sent by the end of a service. -/
theorem exitStatus_take {channel : SessionChannel} {turn : Turn ι ρ}
    (hQuiet : ∀ status, .exitStatus status ∉ turn.sent) (status : UInt32) :
    .exitStatus status ∈ (channel.take turn).sent ↔ .exitStatus status ∈ channel.sent ∨
      ∃ ending, turn.ending = some ending ∧ .exitStatus status ∈ ending.report := by
  cases hEnding : turn.ending <;> simp [SessionChannel.take, hEnding, hQuiet]

omit [DecidableEq ρ] in
/-- A turn that ends the service. -/
theorem Finished.of_ending {channel : SessionChannel} {turn : Turn ι ρ} {ending : Ending}
    (hEnding : turn.ending = some ending) (hQuiet : ∀ status, .exitStatus status ∉ turn.sent)
    (hShown : ∀ error ∈ turn.errors, ending ≠ .success → ending = .failure error ∨
      .terminal (ascii "ERROR: " ++ error.text ++ [newline]) ∈ turn.sent) :
    Finished channel (channel.take turn) (turn.errors = []) (ending ≠ .success) where
  zero := by
    rw [exitStatus_take hQuiet]
    simp [hEnding, exitStatus_report]
  one := by
    rw [exitStatus_take hQuiet]
    simp [hEnding, exitStatus_report]
  errors := List.append_eq_nil_iff
  shown hFailed hBefore error hError := by
    rcases List.mem_append.mp hError with hOld | hNew
    · exact shown_take (hBefore error hOld)
    · rcases hShown error hNew hFailed with rfl | hTerminal
      · left
        simp [SessionChannel.take, hEnding, Ending.report]
      · exact Or.inr (List.mem_append_left _ (List.mem_append_right _ hTerminal))

omit [DecidableEq ρ] in
/-- A turn after which the shell reads on. -/
theorem Finished.cons {channel after : SessionChannel} {turn : Turn ι ρ} {clean failed : Prop}
    (hEnding : turn.ending = none) (hQuiet : ∀ status, .exitStatus status ∉ turn.sent)
    (hShown : ∀ error ∈ turn.errors,
      .terminal (ascii "ERROR: " ++ error.text ++ [newline]) ∈ turn.sent)
    (h : Finished (channel.take turn) after clean failed) :
    Finished channel after (turn.errors = [] ∧ clean) failed where
  zero := by
    rw [h.zero, exitStatus_take hQuiet]
    simp [hEnding]
  one := by
    rw [h.one, exitStatus_take hQuiet]
    simp [hEnding]
  errors := by
    rw [h.errors, ← and_assoc]
    exact and_congr_left' List.append_eq_nil_iff
  shown hFailed hBefore := by
    refine h.shown hFailed fun error hError => ?_
    rcases List.mem_append.mp hError with hOld | hNew
    · exact shown_take (hBefore error hOld)
    · exact Or.inr (List.mem_append_left _ (List.mem_append_right _ (hShown error hNew)))

theorem Finished.congr {before after : SessionChannel} {clean failed clean' failed' : Prop}
    (h : Finished before after clean failed) (hClean : clean ↔ clean')
    (hFailed : failed ↔ failed') : Finished before after clean' failed' := by
  rwa [← propext hClean, ← propext hFailed]

/-- What a shell is given to read. -/
def shellInput (input : List (Str × Moment)) (failure : Option Str) : List Sessions.Action :=
  input.map (fun entry => .line 0 entry.1 entry.2) ++ [.input 0 failure]

/-- Nobody reads from a channel without a shell. -/
theorem serve_unread {channel : SessionChannel} (h : channel.phase ≠ .shell)
    (input : List (Str × Moment)) (failure : Option Str) :
    Sessions.serve codec reference ⟨w, [channel]⟩ (shellInput input failure) = ⟨w, [channel]⟩ := by
  induction input with
  | nil => simp [shellInput, Sessions.serve, Sessions.step, h]
  | cons entry rest ih =>
    refine Eq.trans ?_ ih
    simp [shellInput, Sessions.serve, Sessions.step, h]

theorem entered_cons (entry : Str × Moment) (rest : List (Str × Moment)) :
    entered (entry :: rest) =
      if trimSpace entry.1 = [] then entered rest
      else if leaves entry.1 then [] else entry :: entered rest :=
  rfl

theorem entered_stays {line : Str} {moment : Moment} {rest : List (Str × Moment)}
    (hLine : trimSpace line ≠ []) (hStays : leaves line = false) :
    entered ((line, moment) :: rest) = (line, moment) :: entered rest := by
  rw [entered_cons, if_neg hLine, if_neg (by simp [hStays])]

theorem leaves_of_blank {line : Str} (h : trimSpace line = []) : leaves line = false := by
  simp [leaves, h, ascii]

omit [DecidableEq ρ] in
theorem cutOff_skip {entry : Str × Moment} {rest : List (Str × Moment)} {failure : Option Str}
    (hStays : leaves entry.1 = false)
    (hEntered : entered (entry :: rest) = entered rest ∨
      entered (entry :: rest) = entry :: entered rest ∧
        (Runs codec w reference entry ∨ entry.2.Writable)) :
    CutOff codec w reference (entry :: rest) failure ↔ CutOff codec w reference rest failure := by
  unfold CutOff
  simp only [List.forall_mem_cons, hStays, true_and]
  refine or_congr_right ?_
  rcases hEntered with hSame | ⟨hMore, hGood⟩
  · rw [hSame]
  · rw [hMore, List.exists_mem_cons_iff, or_iff_right]
    rintro ⟨hRuns, hBroken⟩
    exact hGood.elim hRuns hBroken

omit [DecidableEq ρ] in
theorem phase_take {channel : SessionChannel} {turn : Turn ι ρ} {ending : Ending}
    (h : turn.ending = some ending) : (channel.take turn).phase ≠ .shell := by
  cases ending <;> simp [SessionChannel.take, h]

section Line

variable {line : Str} {moment : Moment} {turn : Turn ι ρ}

omit [DecidableEq ρ] in
theorem Reads.quiet (h : Reads codec w reference line moment turn) (status : UInt32) :
    .exitStatus status ∉ turn.sent := by
  cases h <;> simp

omit [DecidableEq ρ] in
theorem Reads.shown (h : Reads codec w reference line moment turn) :
    ∀ error ∈ turn.errors, .terminal (ascii "ERROR: " ++ error.text ++ [newline]) ∈ turn.sent := by
  cases h <;> simp

omit [DecidableEq ρ] in
/-- While the shell reads on, its lines work as they did before the line. -/
theorem Reads.clean_of_open (h : Reads codec w reference line moment turn)
    (hOpen : turn.ending = none) (rest : List (Str × Moment)) :
    (turn.errors = [] ∧ ∀ entry ∈ entered rest, Runs codec turn.world reference entry) ↔
      ∀ entry ∈ entered ((line, moment) :: rest), Runs codec w reference entry := by
  cases h with
  | blank hBlank =>
    rw [entered_cons, if_pos hBlank]
    simp
  | left _ _ => cases hOpen
  | ran hLine hStays hShelled hRuns =>
    rw [entered_stays hLine hStays]
    simp [hShelled.runs, hRuns]
  | showed hLine hStays _ hRuns _ =>
    rw [entered_stays hLine hStays]
    simp [hRuns]
  | broke _ _ _ _ => cases hOpen

omit [DecidableEq ρ] in
theorem Reads.cutOff_of_open (h : Reads codec w reference line moment turn)
    (hOpen : turn.ending = none) (rest : List (Str × Moment)) (failure : Option Str) :
    CutOff codec turn.world reference rest failure ↔
      CutOff codec w reference ((line, moment) :: rest) failure := by
  cases h with
  | blank hBlank =>
    have hEntered : entered ((line, moment) :: rest) = entered rest := by
      rw [entered_cons, if_pos hBlank]
    exact (cutOff_skip (leaves_of_blank hBlank) (Or.inl hEntered)).symm
  | left _ _ => cases hOpen
  | ran hLine hStays hShelled hRuns =>
    rw [hShelled.cutOff]
    exact (cutOff_skip hStays (Or.inr ⟨entered_stays hLine hStays, Or.inl hRuns⟩)).symm
  | showed hLine hStays hShelled _ hWritable =>
    rw [hShelled.cutOff]
    exact (cutOff_skip hStays (Or.inr ⟨entered_stays hLine hStays, Or.inr hWritable⟩)).symm
  | broke _ _ _ _ => cases hOpen

omit [DecidableEq ρ] in
/-- The line that ends the shell is the last that counts. -/
theorem Reads.of_ending (h : Reads codec w reference line moment turn) {ending : Ending}
    (hEnding : turn.ending = some ending) (rest : List (Str × Moment)) (failure : Option Str) :
    (turn.errors = [] ↔
        ∀ entry ∈ entered ((line, moment) :: rest), Runs codec w reference entry) ∧
      (ending ≠ .success ↔ CutOff codec w reference ((line, moment) :: rest) failure) := by
  cases h with
  | left hLine hLeaves =>
    cases hEnding
    have hEntered : entered ((line, moment) :: rest) = [] := by
      rw [entered_cons, if_neg hLine, if_pos hLeaves]
    simp [CutOff, hEntered, hLeaves]
  | broke hLine hStays hRuns hBroken =>
    cases hEnding
    rw [CutOff, entered_stays hLine hStays]
    refine ⟨by simp [hRuns], iff_of_true (by simp) (Or.inr ?_)⟩
    exact ⟨(line, moment), List.mem_cons_self, hRuns, hBroken⟩
  | blank _ => cases hEnding
  | ran _ _ _ _ => cases hEnding
  | showed _ _ _ _ _ => cases hEnding

end Line

theorem serve_line {channel : SessionChannel} (hShell : channel.phase = .shell) {line : Str}
    {moment : Moment} (rest : List (Str × Moment)) (failure : Option Str) :
    Sessions.serve codec reference ⟨w, [channel]⟩ (shellInput ((line, moment) :: rest) failure) =
      Sessions.serve codec reference
        ⟨(w.shellLine codec reference line moment).world,
          [channel.take (w.shellLine codec reference line moment)]⟩ (shellInput rest failure) := by
  simp [shellInput, Sessions.serve, Sessions.step, Sessions.settle, hShell]

/-- A shell ends without a failed line exactly when every line it runs works, and
with an error exactly when it is cut off. -/
theorem serve_shell {channel : SessionChannel} (hShell : channel.phase = .shell)
    (input : List (Str × Moment)) (failure : Option Str) :
    ∃ world after,
      Sessions.serve codec reference ⟨w, [channel]⟩ (shellInput input failure) = ⟨world, [after]⟩ ∧
      Finished channel after (∀ entry ∈ entered input, Runs codec w reference entry)
        (CutOff codec w reference input failure) := by
  induction input generalizing w channel with
  | nil =>
    refine ⟨w, channel.take ⟨w, [], [], some (.ofError (failure.map .other))⟩, ?_, ?_⟩
    · simp [shellInput, Sessions.serve, Sessions.step, Sessions.settle, hShell]
    · refine (Finished.of_ending rfl (by simp) (by simp)).congr (by simp [entered]) ?_
      cases failure <;> simp [CutOff, entered, Ending.ofError]
  | cons entry rest ih =>
    obtain ⟨line, moment⟩ := entry
    have hReads : Reads codec w reference line moment (w.shellLine codec reference line moment) :=
      shellLine_reads line moment
    rw [serve_line hShell]
    generalize w.shellLine codec reference line moment = turn at hReads ⊢
    cases hEnding : turn.ending with
    | none =>
      obtain ⟨world, after, hServe, hAfter⟩ :=
        @ih turn.world (channel.take turn) (by simp [SessionChannel.take, hEnding])
      refine ⟨world, after, hServe, ?_⟩
      exact (Finished.cons hEnding hReads.quiet hReads.shown hAfter).congr
        (hReads.clean_of_open hEnding rest) (hReads.cutOff_of_open hEnding rest failure)
    | some ending =>
      obtain ⟨hClean, hFailed⟩ := hReads.of_ending hEnding rest failure
      refine ⟨turn.world, _, serve_unread (phase_take hEnding) rest failure, ?_⟩
      exact (Finished.of_ending hEnding hReads.quiet
        fun error hError _ => Or.inr (hReads.shown error hError)).congr hClean hFailed

end Shell

section Truthful

variable {ι ρ : Type} [DecidableEq ρ]

/-- A zero exit status is only sent when no command and no older report has returned
an error, and an error is shown to the client next to another exit status. -/
structure SessionChannel.Truthful (channel : SessionChannel) : Prop where
  zero : .exitStatus 0 ∈ channel.sent → channel.errors = []
  errors : ∀ error ∈ channel.errors, .exitStatus 1 ∈ channel.sent ∧ channel.Shown error

theorem Finished.truthful {before after : SessionChannel} {clean failed : Prop}
    (h : Finished before after clean failed) (hZero : .exitStatus 0 ∉ before.sent)
    (hErrors : before.errors = []) : after.Truthful ↔ clean ∨ failed := by
  have hClean : after.errors = [] ↔ clean := by rw [h.errors, and_iff_right hErrors]
  by_cases hFailed : failed
  · refine iff_of_true ⟨fun hIn => ?_, fun error hError => ⟨h.one.mpr (Or.inr hFailed), ?_⟩⟩
      (Or.inr hFailed)
    · exact absurd hFailed ((h.zero.mp hIn).resolve_left hZero)
    · exact h.shown hFailed (by simp [hErrors]) error hError
  · rw [or_iff_left hFailed, ← hClean]
    constructor
    · intro hTruthful
      exact hTruthful.zero (h.zero.mpr (Or.inr hFailed))
    · intro hNone
      exact ⟨fun _ => hNone, by simp [hNone]⟩

/-- A session channel that is asked for one command, and what its client then types
until nothing more can be read. -/
def Sessions.exec (codec : Codec) (w : World ι ρ) (reference : ρ) (request : SessionRequest)
    (input : List (Str × Moment)) (failure : Option Str) : Sessions ι ρ :=
  Sessions.serve codec reference ⟨w, [.opened]⟩ (.request 0 request :: shellInput input failure)

/-- Every line of the shell works, or the shell cannot even be opened, or it ends
without being left. -/
def ShellHealthy (codec : Codec) (w : World ι ρ) (reference : ρ) (moment : Moment)
    (input : List (Str × Moment)) (failure : Option Str) : Prop :=
  ¬ moment.Writable ∨ (∀ entry ∈ entered input, Runs codec w reference entry) ∨
    CutOff codec w reference input failure

/-- The text is no command, or one that works. The empty text is a shell. -/
def Healthy (codec : Codec) (w : World ι ρ) (reference : ρ) (moment : Moment)
    (input : List (Str × Moment)) (failure : Option Str) (text : Str) : Prop :=
  if text = [] then ShellHealthy codec w reference moment input failure
  else ∀ command,
    handleCommand (w.gateway.connections reference) (splitCommand text) = some command →
    Works codec w moment reference false command

variable {codec : Codec} {w : World ι ρ} {reference : ρ}

/-- The service drops the error of a command that it knows. -/
theorem runService_known (codec : Codec) {moment : Moment} {text : Str} {command : Command}
    (hText : text ≠ [])
    (hFound : handleCommand (w.gateway.connections reference) (splitCommand text) = some command)
    (channel : SessionChannel) :
    (w.runService codec reference moment text).ending = some .success ∧
      Finished channel (channel.take (w.runService codec reference moment text))
        (Works codec w moment reference false command) False := by
  have hValid : (w.handleCommand codec moment reference false (splitCommand text)).error ≠
      some .invalidCommand := by
    rw [Ne, handleCommand_invalid, hFound]
    nofun
  rw [World.runService, if_neg hText, if_neg hValid]
  refine ⟨rfl, (Finished.of_ending rfl (by simp) (by simp)).congr ?_ (by simp)⟩
  rw [Option.toList_eq_nil_iff, error_handleCommand]
  simp [hFound]

/-- A text that is no command fails with the error of the older report. -/
theorem runService_unknown {moment : Moment} {text : Str} (hText : text ≠ [])
    (hNone : handleCommand (w.gateway.connections reference) (splitCommand text) = none)
    (channel : SessionChannel) :
    ∃ error, (w.runService codec reference moment text).ending = some (.ofError error) ∧
      Finished channel (channel.take (w.runService codec reference moment text))
        (error = none) (error ≠ none) := by
  have hInvalid : (w.handleCommand codec moment reference false (splitCommand text)).error =
      some .invalidCommand := (handleCommand_invalid _).mpr hNone
  rw [World.runService, if_neg hText, if_pos hInvalid]
  generalize (World.handleCommand codec w moment reference false
    (splitCommand text)).world.legacyStatus codec reference moment text = legacy
  refine ⟨legacy.error, rfl, (Finished.of_ending rfl (by simp) ?_).congr (by simp) ?_⟩
  · intro error hError _
    rw [Option.mem_toList.mp hError]
    exact Or.inl rfl
  · cases legacy.error <;> simp [Ending.ofError]

theorem runService_shell {moment : Moment} (channel : SessionChannel)
    (input : List (Str × Moment)) (failure : Option Str) :
    ∃ world after clean failed,
      Sessions.serve codec reference ⟨(w.runService codec reference moment []).world,
        [channel.take (w.runService codec reference moment [])]⟩ (shellInput input failure) =
          ⟨world, [after]⟩ ∧
      Finished channel after clean failed ∧
      (clean ∨ failed ↔ ShellHealthy codec w reference moment input failure) := by
  rw [World.runService, if_pos rfl, World.openShell]
  split
  · rename_i text hBroken
    refine ⟨w, _, _, _, serve_unread (phase_take rfl) input failure,
      Finished.of_ending rfl (by simp) (by simp), ?_⟩
    simp [ShellHealthy, Moment.Writable, hBroken]
  · rename_i hWritable
    obtain ⟨world, after, hServe, hAfter⟩ :=
      @serve_shell ι ρ _ codec w reference
        (channel.take ⟨w, [.terminal w.welcome, .prompt], [], none⟩) rfl input failure
    refine ⟨world, after, _, _, hServe, Finished.cons rfl (by simp) (by simp) hAfter, ?_⟩
    simp [ShellHealthy, Moment.Writable, hWritable]

/-- Whatever the text is, the service ends, and it is known how. -/
theorem runService_finished {moment : Moment} (text : Str) (channel : SessionChannel)
    (input : List (Str × Moment)) (failure : Option Str) :
    ∃ world after clean failed,
      Sessions.serve codec reference ⟨(w.runService codec reference moment text).world,
        [channel.take (w.runService codec reference moment text)]⟩ (shellInput input failure) =
          ⟨world, [after]⟩ ∧
      Finished channel after clean failed ∧
      (clean ∨ failed ↔ Healthy codec w reference moment input failure text) := by
  unfold Healthy
  by_cases hText : text = []
  · subst hText
    rw [if_pos rfl]
    exact runService_shell channel input failure
  · rw [if_neg hText]
    cases hCommand : handleCommand (w.gateway.connections reference) (splitCommand text) with
    | some command =>
      obtain ⟨hEnding, hFinished⟩ := runService_known codec hText hCommand channel
      refine ⟨_, _, _, _, serve_unread (phase_take hEnding) input failure, hFinished, ?_⟩
      simp
    | none =>
      obtain ⟨error, hEnding, hFinished⟩ := runService_unknown hText hCommand channel
      refine ⟨_, _, _, _, serve_unread (phase_take hEnding) input failure, hFinished, ?_⟩
      simp [em]

/-- The channel once the request has been answered. -/
def answered (request : SessionRequest) : SessionChannel := ⟨.serving, request.reply, []⟩

theorem exec_of_command {request : SessionRequest} {text : Str} (hReplied : request.replied = true)
    (hRuns : request.runs = true) (hText : request.command = some text)
    (input : List (Str × Moment)) (failure : Option Str) :
    Sessions.exec codec w reference request input failure =
      Sessions.serve codec reference
        ⟨(w.runService codec reference request.moment text).world,
          [(answered request).take (w.runService codec reference request.moment text)]⟩
        (shellInput input failure) := by
  simp [Sessions.exec, Sessions.serve, Sessions.step, SessionChannel.opened,
    Sessions.handleRequest, hReplied, hRuns, hText, Sessions.settle, answered]

/-- Without a command to run there is no error, and no exit status but a failed one. -/
theorem exec_of_none (codec : Codec) (w : World ι ρ) (reference : ρ) {request : SessionRequest}
    (h : ∀ text, request.replied = true → request.runs = true → request.command ≠ some text)
    (input : List (Str × Moment)) (failure : Option Str) :
    ∃ after, Sessions.exec codec w reference request input failure = ⟨w, [after]⟩ ∧
      after.errors = [] := by
  have hUnread : ∀ channel : SessionChannel, channel.phase ≠ .shell →
      Sessions.handleRequest codec reference ⟨w, [.opened]⟩ 0 .opened request = ⟨w, [channel]⟩ →
      Sessions.exec codec w reference request input failure = ⟨w, [channel]⟩ := by
    intro channel hPhase hFirst
    have hRest : Sessions.serve codec reference ⟨w, [channel]⟩ (shellInput input failure) =
        ⟨w, [channel]⟩ := serve_unread hPhase input failure
    rw [← hRest, ← hFirst]
    rfl
  by_cases hReplied : request.replied = true
  · by_cases hRuns : request.runs = true
    · have hNone : request.command = none := by
        rw [Option.eq_none_iff_forall_ne_some]
        exact fun text => h text hReplied hRuns
      refine ⟨(answered request).take (⟨w, [], [], some .undecodable⟩ : Turn ι ρ),
        hUnread _ (phase_take rfl) ?_, rfl⟩
      simp [Sessions.handleRequest, hReplied, hRuns, hNone, Sessions.settle, answered,
        SessionChannel.opened]
    · refine ⟨answered request, hUnread _ (by simp [answered]) ?_, rfl⟩
      simp [Sessions.handleRequest, hReplied, hRuns, answered, SessionChannel.opened]
  · refine ⟨{ answered request with phase := .ended }, hUnread _ (by simp) ?_, rfl⟩
    simp [Sessions.handleRequest, hReplied, answered, SessionChannel.opened]

/-- The exit status of a session is truthful exactly when the command that it is
asked for, if there is one, meets with nothing that fails. -/
theorem exit_status_truthful_iff (codec : Codec) (w : World ι ρ) (reference : ρ)
    (request : SessionRequest) (input : List (Str × Moment)) (failure : Option Str) :
    (∀ channel ∈ (Sessions.exec codec w reference request input failure).channels,
      channel.Truthful) ↔
    (∀ text, request.replied = true → request.runs = true → request.command = some text →
      Healthy codec w reference request.moment input failure text) := by
  by_cases hCommand : ∃ text, request.replied = true ∧ request.runs = true ∧
      request.command = some text
  · obtain ⟨text, hReplied, hRuns, hText⟩ := hCommand
    obtain ⟨world, after, clean, failed, hServe, hFinished, hHealthy⟩ :=
      @runService_finished ι ρ _ codec w reference request.moment text (answered request) input
        failure
    have hZero : .exitStatus 0 ∉ (answered request).sent := by
      simp only [answered, SessionRequest.reply]
      split <;> simp
    rw [exec_of_command hReplied hRuns hText, hServe]
    simp only [List.mem_singleton, forall_eq, hFinished.truthful hZero rfl, hHealthy, hReplied,
      hRuns, hText, Option.some.injEq, true_implies, forall_eq']
  · have hNone : ∀ text, request.replied = true → request.runs = true →
        request.command ≠ some text :=
      fun text hReplied hRuns hText => hCommand ⟨text, hReplied, hRuns, hText⟩
    obtain ⟨after, hExec, hErrors⟩ := exec_of_none codec w reference hNone input failure
    refine iff_of_true ?_ fun text hReplied hRuns hText =>
      absurd hText (hNone text hReplied hRuns)
    rw [hExec]
    simp only [List.mem_singleton, forall_eq]
    exact ⟨fun _ => hErrors, by simp [hErrors]⟩

end Truthful

/-- A library to which no stream looks compressed. The header that it looks for has ten
bytes. -/
def plainCodec : Codec where
  gunzip stdin := .error
    (if 10 ≤ stdin.content.length then ascii "gzip: invalid header"
    else stdin.failure.getD
      (if stdin.content = [] then ascii "EOF" else ascii "unexpected EOF"))
  unmarshal raw := .ok raw
  timeText _ := .ok []
  quoted text := text
  marshalIndent _ := .ok []
  seconds _ := 0

def aliceAlone : World Unit Unit where
  version := ascii "1.0"
  revokesLoginFlags := true
  gateway := Gateway.publish (.opened ⟨[], []⟩ fun _ => newConnection [] ⟨∅, ∅⟩) ()
    (newConnection (ascii "alice") ⟨∅, ∅⟩)
  usage _ := ⟨[], [], 0, 0, [], 0, 0, 0, 0⟩
  isOpen _ := true
  loginFlags := ∅
  users _ := none
  nodes := []

def uncompressedReport : SessionRequest where
  type := .exec
  wantReply := true
  sends := true
  payload := stringBytes (ascii "reportStatus")
  moment := ⟨0, none, none, ⟨ascii "hello world", none⟩⟩

/-- A report that cannot be decompressed is lost, and nothing tells its client. -/
theorem bad_gzip_exits_zero :
    ∃ channel ∈ (Sessions.exec plainCodec aliceAlone () uncompressedReport [] none).channels,
      channel.errors = [.other (ascii "gzip: invalid header")] ∧
      channel.sent = [.reply true, .closeWrite, .exitStatus 0, .close] ∧ ¬ channel.Truthful := by
  refine ⟨⟨.serving, [.reply true, .closeWrite, .exitStatus 0, .close],
    [.other (ascii "gzip: invalid header")]⟩, ?_, rfl, rfl, ?_⟩
  · exact List.mem_singleton.mpr rfl
  · intro hTruthful
    cases hTruthful.zero (by simp)

end GatewaySshd.Node
