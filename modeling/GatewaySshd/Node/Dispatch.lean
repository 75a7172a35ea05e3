import GatewaySshd.Node.ExitStatus

/-! # What a session runs

The operations that a text and the lines of a shell stand for are those that the
session performs, in their order. They are all performed unless the client can no
longer be written to.
-/
namespace GatewaySshd.Node
set_option autoImplicit false

open Space

variable {ι ρ : Type} [DecidableEq ρ]

def World.operate (codec : Codec) (reference : ρ) (shell : Bool) (w : World ι ρ)
    (done : Operation × Moment) : World ι ρ :=
  match done.1 with
  | .command command => (w.perform codec done.2 reference shell command).world
  | .legacyStatus text => (w.legacyStatus codec reference done.2 text).world

/-- The second world comes about from the first by the operations up to some point, each
at its own moment, and by all of them under the condition. -/
def Performs (codec : Codec) (reference : ρ) (shell : Bool) (w after : World ι ρ)
    (operations : List Operation) (condition : Prop) : Prop :=
  ∃ done : List (Operation × Moment), done.map Prod.fst <+: operations ∧
    (condition → done.map Prod.fst = operations) ∧
    after = done.foldl (World.operate codec reference shell) w

section Performs

variable {codec : Codec} {reference : ρ} {shell : Bool} {w after : World ι ρ}
  {operations : List Operation} {condition : Prop}

theorem Performs.stop (h : condition → operations = []) :
    Performs codec reference shell w w operations condition :=
  ⟨[], List.nil_prefix, fun hCondition => (h hCondition).symm, rfl⟩

theorem Performs.cons {operation : Operation} (moment : Moment)
    (h : Performs codec reference shell (w.operate codec reference shell (operation, moment)) after
      operations condition) :
    Performs codec reference shell w after (operation :: operations) condition := by
  obtain ⟨done, hPrefix, hAll, rfl⟩ := h
  refine ⟨(operation, moment) :: done, ?_, ?_, rfl⟩
  · exact List.cons_prefix_cons.mpr ⟨rfl, hPrefix⟩
  · intro hCondition
    rw [List.map_cons, hAll hCondition]

theorem Performs.imp {other : Prop}
    (h : Performs codec reference shell w after operations condition) (hOther : other → condition) :
    Performs codec reference shell w after operations other := by
  obtain ⟨done, hPrefix, hAll, hAfter⟩ := h
  exact ⟨done, hPrefix, fun h => hAll (hOther h), hAfter⟩

end Performs

section Sessions

variable {codec : Codec} {w : World ι ρ} {reference : ρ} {line text : Str} {moment : Moment}

/-- A line that is run as a command. -/
theorem shellLine_command (hLine : trimSpace line ≠ []) (hStays : leaves line = false) :
    (w.shellLine codec reference line moment).world =
        (w.handleCommand codec moment reference true (splitCommand (trimSpace line))).world ∧
      (moment.Writable → (w.shellLine codec reference line moment).ending = none) := by
  have hGoes : ¬ (trimSpace line = ascii "exit" ∨ trimSpace line = ascii "quit") := by
    simpa [leaves] using hStays
  unfold World.shellLine
  simp only [if_neg hLine, if_neg hGoes]
  split
  · exact ⟨rfl, fun _ => rfl⟩
  · split
    · rename_i hBroken
      refine ⟨rfl, fun hWritable => ?_⟩
      cases hWritable.symm.trans hBroken
    · exact ⟨rfl, fun _ => rfl⟩

theorem handleCommand_performs {shell : Bool} (command : List Str) {after : World ι ρ}
    {operations : List Operation} {condition : Prop}
    (h : Performs codec reference shell
      (w.handleCommand codec moment reference shell command).world after operations condition) :
    Performs codec reference shell w after
      ((handleCommand (w.gateway.connections reference) command).toList.map .command ++ operations)
      condition := by
  unfold World.handleCommand at h
  split at h <;> rename_i hFound <;> rw [hFound]
  · exact h
  · exact h.cons moment

/-- The lines that follow are read unless the turn has ended the shell. -/
theorem performs_rest {turn : Turn ι ρ} {channel : SessionChannel} {rest : List (Str × Moment)}
    {failure : Option Str} {operations : List Operation} {condition : Prop}
    (hLater : turn.ending = none → Performs codec reference true turn.world
      (Sessions.serve codec reference ⟨turn.world, [channel.take turn]⟩
        (shellInput rest failure)).world operations condition)
    (hOpen : condition → turn.ending = none) :
    Performs codec reference true turn.world
      (Sessions.serve codec reference ⟨turn.world, [channel.take turn]⟩
        (shellInput rest failure)).world operations condition := by
  cases hEnding : turn.ending with
  | none => exact hLater hEnding
  | some ending =>
    rw [serve_unread (phase_take hEnding)]
    refine .stop fun h => ?_
    cases (hOpen h).symm.trans hEnding

/-- A shell performs what its lines stand for, as long as its errors can be shown. -/
theorem serve_performs {channel : SessionChannel} (hShell : channel.phase = .shell)
    (input : List (Str × Moment)) (failure : Option Str) :
    Performs codec reference true w
      (Sessions.serve codec reference ⟨w, [channel]⟩ (shellInput input failure)).world
      ((handleShell (w.gateway.connections reference) (input.map Prod.fst)).map .command)
      (∀ entry ∈ input, entry.2.Writable) := by
  induction input generalizing w channel with
  | nil =>
    have hServe : Sessions.serve codec reference ⟨w, [channel]⟩ (shellInput [] failure) =
        ⟨w, [channel.take ⟨w, [], [], some (.ofError (failure.map .other))⟩]⟩ := by
      simp [shellInput, Sessions.serve, Sessions.step, Sessions.settle, hShell]
    rw [hServe]
    exact .stop fun _ => rfl
  | cons entry rest ih =>
    obtain ⟨line, moment⟩ := entry
    rw [serve_line hShell]
    have hRest : ∀ turn : Turn ι ρ, turn.world.gateway = w.gateway →
        (moment.Writable → turn.ending = none) →
        Performs codec reference true turn.world
          (Sessions.serve codec reference ⟨turn.world, [channel.take turn]⟩
            (shellInput rest failure)).world
          ((handleShell (w.gateway.connections reference) (rest.map Prod.fst)).map .command)
          (∀ entry ∈ (line, moment) :: rest, entry.2.Writable) := by
      intro turn hGateway hOpen
      refine performs_rest (fun hEnding => ?_) fun h => hOpen (List.forall_mem_cons.mp h).1
      rw [← hGateway]
      refine (ih ?_).imp fun h => (List.forall_mem_cons.mp h).2
      simp [SessionChannel.take, hEnding]
    simp only [List.map_cons, handleShell]
    split
    · rename_i hBlank
      have hTurn : w.shellLine codec reference line moment = ⟨w, [.prompt], [], none⟩ := by
        simp only [World.shellLine, if_pos hBlank]
      rw [hTurn]
      exact hRest ⟨w, [.prompt], [], none⟩ rfl fun _ => rfl
    · rename_i hLine
      split
      · rename_i hLeaves
        have hTurn : w.shellLine codec reference line moment = ⟨w, [], [], some .success⟩ := by
          simp only [World.shellLine, if_neg hLine, if_pos hLeaves]
        rw [hTurn, serve_unread (phase_take rfl)]
        exact .stop fun _ => rfl
      · rename_i hGoes
        obtain ⟨hWorld, hOpen⟩ :=
          @shellLine_command ι ρ _ codec w reference line moment hLine
            (by simpa [leaves] using hGoes)
        have hShelled : Shelled w (w.shellLine codec reference line moment).world :=
          hWorld ▸ handleCommand_shelled _
        have hLater := hRest _ (by rw [hShelled.same]) hOpen
        rw [List.map_append]
        generalize (Sessions.serve codec reference _ (shellInput rest failure)).world = after
          at hLater ⊢
        rw [hWorld] at hLater
        exact handleCommand_performs _ hLater

/-- A text that is not empty stands for one operation. -/
theorem runService_performs (hText : text ≠ []) (lines : List Str) (condition : Prop) :
    Performs codec reference false w (w.runService codec reference moment text).world
      (runService (w.gateway.connections reference) text lines) condition := by
  rw [World.runService, if_neg hText, runService, if_neg hText]
  cases hFound : handleCommand (w.gateway.connections reference) (splitCommand text) with
  | some command =>
    have hValid : (w.handleCommand codec moment reference false (splitCommand text)).error ≠
        some .invalidCommand := by
      rw [Ne, handleCommand_invalid, hFound]
      exact Option.some_ne_none command
    rw [if_neg hValid]
    refine .cons moment ?_
    simp only [World.handleCommand, hFound]
    exact .stop fun _ => rfl
  | none =>
    rw [if_pos ((handleCommand_invalid _).mpr hFound)]
    refine .cons moment ?_
    simp only [World.handleCommand, hFound]
    exact .stop fun _ => rfl

/-- What a request and the lines that follow it stand for is what the session performs,
all of it if the client can be written to. -/
theorem exec_performs {request : SessionRequest} (hReplied : request.replied = true)
    (hRuns : request.runs = true) (hText : request.command = some text)
    (input : List (Str × Moment)) (failure : Option Str) :
    Performs codec reference (decide (text = [])) w
      (Sessions.exec codec w reference request input failure).world
      (runService (w.gateway.connections reference) text (input.map Prod.fst))
      (request.moment.Writable ∧ ∀ entry ∈ input, entry.2.Writable) := by
  rw [exec_of_command hReplied hRuns hText]
  by_cases hShell : text = []
  · subst hShell
    rw [World.runService, if_pos rfl, World.openShell, runService, if_pos rfl, decide_eq_true rfl]
    split
    · rename_i hBroken
      rw [serve_unread (phase_take rfl)]
      refine .stop fun h => ?_
      cases h.1.symm.trans hBroken
    · exact (serve_performs rfl input failure).imp And.right
  · obtain ⟨ending, hEnding⟩ : ∃ ending,
        (w.runService codec reference request.moment text).ending = some ending := by
      rw [World.runService, if_neg hShell]
      dsimp only
      split <;> exact ⟨_, rfl⟩
    rw [serve_unread (phase_take hEnding), decide_eq_false hShell]
    exact runService_performs hShell _ _

end Sessions

end GatewaySshd.Node
