import GatewaySshd.Node.ExitStatus

/-! # What the sessions of a user can change and see

A user without both flags only ever writes to two columns of their own row. A user
who may not forward ports is answered from the version of the gateway, their own
flags and whether their own row can be written.
-/
namespace GatewaySshd.Node
set_option autoImplicit false

open TtlCache (Time)
open Ssh Db Space

variable {ι ρ : Type}

section Integrity

/-- Only the reported columns of the row of the user have changed. -/
structure Confined (user : Str) (before after : World ι ρ) : Prop where
  same : after = { before with users := after.users }
  others : ∀ id, id ≠ user → after.users id = before.users id
  own : ∃ status screenshot modifiedAt, after.users user = (before.users user).map fun row =>
    { row with status := status, screenshot := screenshot, modifiedAt := modifiedAt }

theorem Confined.refl (user : Str) (w : World ι ρ) : Confined user w w where
  same := rfl
  others _ _ := rfl
  own := by
    cases w.users user with
    | none => exact ⟨none, none, none, rfl⟩
    | some row => exact ⟨row.status, row.screenshot, row.modifiedAt, rfl⟩

theorem Confined.trans {user : Str} {before middle after : World ι ρ}
    (h : Confined user before middle) (hLater : Confined user middle after) :
    Confined user before after where
  same := by
    rw [hLater.same, h.same]
  others id hId := (hLater.others id hId).trans (h.others id hId)
  own := by
    obtain ⟨_, _, _, hFirst⟩ := h.own
    obtain ⟨status, screenshot, modifiedAt, hSecond⟩ := hLater.own
    refine ⟨status, screenshot, modifiedAt, ?_⟩
    rw [hSecond, hFirst, Option.map_map]
    rfl

theorem Confined.gateway {user : Str} {before after : World ι ρ} (h : Confined user before after) :
    after.gateway = before.gateway := by
  rw [h.same]

theorem Confined.of_update {w : World ι ρ} {now : Time} {user : Str} {change : UserRow → UserRow}
    {users : UserTable}
    (hColumns : ∀ row, ∃ status screenshot, change row =
      { row with status := status, screenshot := screenshot })
    (hUsers : updateUserColumn now user change w.users = some users) :
    Confined user w { w with users := users } := by
  obtain ⟨row, hRow, rfl⟩ := Option.map_eq_some_iff.mp hUsers
  obtain ⟨status, screenshot, hChange⟩ := hColumns row
  refine ⟨rfl, fun id hId => if_neg hId, status, screenshot, some now, ?_⟩
  simp only [if_true, hRow, Option.map_some, hChange]

variable [DecidableEq ρ] {codec : Codec} {w : World ι ρ} {moment : Moment} {reference : ρ}
  {shell : Bool}

/-- The connection may not do everything. -/
def Lacking (w : World ι ρ) (reference : ρ) : Prop :=
  (w.gateway.connections reference).permitPortForwarding = false ∨
    (w.gateway.connections reference).administrator = false

/-- Only a kick reaches beyond the row of the user. -/
theorem Effect.confined {command : Command} {after : World ι ρ}
    (h : Effect w moment reference shell command after)
    (hKick : ∀ userId, command ≠ .kickUser userId) :
    Confined (w.gateway.connections reference).user w after := by
  cases h with
  | nothing => exact .refl _ w
  | report _ hColumns hUsers => exact .of_update hColumns hUsers
  | kick => exact absurd rfl (hKick _)

theorem handleCommand_confined (h : Lacking w reference) (command : List Str) :
    Confined (w.gateway.connections reference).user w
      (w.handleCommand codec moment reference shell command).world := by
  unfold World.handleCommand
  split
  · exact .refl _ w
  · rename_i found hFound
    refine (perform_effect found).confined ?_
    rintro userId rfl
    obtain ⟨hForward, hAdministrator⟩ := handleCommand_kickUser hFound
    rcases h with h | h
    · cases h.symm.trans hForward
    · cases h.symm.trans hAdministrator

theorem legacyStatus_confined (text : Str) :
    Confined (w.gateway.connections reference).user w
      (w.legacyStatus codec reference moment text).world := by
  unfold World.legacyStatus
  split
  · exact .refl _ w
  · rename_i status _
    have hEffect : Effect w moment reference false .reportStatus
        (w.saveStatus moment reference status).world :=
      report_effect rfl fun row => ⟨_, row.screenshot, rfl⟩
    exact hEffect.confined nofun

theorem runService_confined (h : Lacking w reference) (text : Str) :
    Confined (w.gateway.connections reference).user w
      (w.runService codec reference moment text).world := by
  have hCommand : Confined (w.gateway.connections reference).user w
      (w.handleCommand codec moment reference false (splitCommand text)).world :=
    handleCommand_confined h _
  unfold World.runService
  dsimp only
  split
  · unfold World.openShell
    split <;> exact .refl _ w
  · split
    · refine hCommand.trans ?_
      rw [← hCommand.gateway]
      exact legacyStatus_confined text
    · exact hCommand

theorem shellLine_confined (h : Lacking w reference) (line : Str) :
    Confined (w.gateway.connections reference).user w
      (w.shellLine codec reference line moment).world := by
  have hCommand : Confined (w.gateway.connections reference).user w
      (w.handleCommand codec moment reference true (splitCommand (trimSpace line))).world :=
    handleCommand_confined h _
  unfold World.shellLine
  dsimp only
  split
  · exact .refl _ w
  · split
    · exact .refl _ w
    · split
      · exact hCommand
      · split <;> exact hCommand

theorem step_confined {s : Sessions ι ρ} (h : Lacking s.world reference)
    (action : Sessions.Action) :
    Confined (s.world.gateway.connections reference).user s.world
      (s.step codec reference action).world := by
  cases action with
  | channel extraData =>
    simp only [Sessions.step]
    split <;> exact .refl _ _
  | request index request =>
    simp only [Sessions.step]
    split
    · split
      · unfold Sessions.handleRequest
        dsimp only
        split
        · exact .refl _ _
        · split
          · exact .refl _ _
          · split
            · exact .refl _ _
            · exact runService_confined h _
      · exact .refl _ _
    · exact .refl _ _
  | line index line moment =>
    simp only [Sessions.step]
    split
    · split
      · exact shellLine_confined h line
      · exact .refl _ _
    · exact .refl _ _
  | input index failure =>
    simp only [Sessions.step]
    split
    · split <;> exact .refl _ _
    · exact .refl _ _

/-- Whatever the sessions of a connection that lacks one of the two flags are asked,
only the reported columns of the row of its user change. -/
theorem session_integrity (codec : Codec) (reference : ρ) (s : Sessions ι ρ)
    (h : Lacking s.world reference) (actions : List Sessions.Action) :
    Confined (s.world.gateway.connections reference).user s.world
      (s.serve codec reference actions).world := by
  induction actions generalizing s with
  | nil => exact .refl _ _
  | cons action rest ih =>
    have hStep : Confined _ s.world (s.step codec reference action).world :=
      step_confined h action
    have hRest := ih (s.step codec reference action) (by rwa [Lacking, hStep.gateway])
    rw [hStep.gateway] at hRest
    exact hStep.trans hRest

end Integrity

def aliceRow : UserRow := newUserRow 0 [] [] []

/-- The gateway of one user, who is also in the database. -/
def aliceStored : World Unit Unit :=
  { aliceAlone with users := fun id => if id = ascii "alice" then some aliceRow else none }

def execRequest (text : Str) : SessionRequest where
  type := .exec
  wantReply := true
  sends := true
  payload := stringBytes text
  moment := ⟨7, none, none, ⟨[], none⟩⟩

/-- A shell is opened next to a status in the older form. -/
def aliceActions : List Sessions.Action :=
  [.channel [], .channel [], .request 0 (execRequest []),
    .request 1 (execRequest (ascii "\x7b\x7d")),
    .line 0 (ascii "kickUser bob") ⟨8, none, none, ⟨[], none⟩⟩, .input 0 none]

theorem session_integrity_alice :
    Confined (ascii "alice") aliceStored
      ((Sessions.mk aliceStored []).serve plainCodec () aliceActions).world ∧
    ((((Sessions.mk aliceStored []).serve plainCodec () aliceActions).world.users
      (ascii "alice")).bind UserRow.status) = some (ascii "\x7b\x7d") :=
  ⟨session_integrity plainCodec () (Sessions.mk aliceStored []) (Or.inl rfl) aliceActions,
    by decide⟩

section Confidentiality

/-- The two worlds look the same to the connection: the version, what it may do, and
the row of its user. -/
structure Agree (reference : ρ) (first second : World ι ρ) : Prop where
  version : first.version = second.version
  user : (first.gateway.connections reference).user = (second.gateway.connections reference).user
  permitPortForwarding : (first.gateway.connections reference).permitPortForwarding =
    (second.gateway.connections reference).permitPortForwarding
  administrator : (first.gateway.connections reference).administrator =
    (second.gateway.connections reference).administrator
  row : first.users (first.gateway.connections reference).user =
    second.users (second.gateway.connections reference).user

/-- The same is written and returned, in worlds that look the same afterwards. -/
structure Alike (reference : ρ) (first second : Outcome ι ρ) : Prop where
  written : first.written = second.written
  error : first.error = second.error
  world : Agree reference first.world second.world

/-- The same is sent, in worlds that look the same afterwards. -/
structure Turn.Alike (reference : ρ) (first second : Turn ι ρ) : Prop where
  sent : first.sent = second.sent
  errors : first.errors = second.errors
  ending : first.ending = second.ending
  world : Agree reference first.world second.world

variable {codec : Codec} {w v : World ι ρ} {moment : Moment} {reference : ρ} {shell : Bool}

theorem Agree.fail (h : Agree reference w v) (error : ServiceError) :
    Alike reference (w.fail error) (v.fail error) :=
  ⟨rfl, rfl, h⟩

theorem Agree.write (h : Agree reference w v) {first second : Str} (hSame : first = second) :
    Alike reference (w.write moment first) (v.write moment second) :=
  ⟨by rw [World.write, World.write, hSame], rfl, h⟩

theorem Agree.report (h : Agree reference w v) (change : UserRow → UserRow) :
    Alike reference
      (w.report moment (updateUserColumn moment.now (w.gateway.connections reference).user change))
      (v.report moment
        (updateUserColumn moment.now (v.gateway.connections reference).user change)) := by
  unfold World.report updateUserColumn
  cases moment.databaseError with
  | some text => exact h.fail _
  | none =>
    rw [h.row]
    cases v.users (v.gateway.connections reference).user with
    | none => exact h.fail _
    | some row =>
      refine ⟨rfl, rfl, h.version, h.user, h.permitPortForwarding, h.administrator, ?_⟩
      simp

theorem Agree.legacyStatus (h : Agree reference w v) (text : Str) :
    Alike reference (w.legacyStatus codec reference moment text)
      (v.legacyStatus codec reference moment text) := by
  unfold World.legacyStatus
  split
  · exact h.fail _
  · exact h.report _

variable [DecidableEq ρ]

theorem Agree.perform (h : Agree reference w v) {command : Command}
    (hOpen : command ∈ openCommands.map Prod.snd) :
    Alike reference (w.perform codec moment reference shell command)
      (v.perform codec moment reference shell command) := by
  cases command with
  | help =>
    refine h.write ?_
    rw [World.helpLines, World.helpLines, h.permitPortForwarding, h.administrator]
  | ping =>
    simp only [World.perform, World.ping, h.version]
    split
    · exact h.fail _
    · split <;> exact ⟨rfl, rfl, h⟩
  | version => exact h.write (by rw [h.version])
  | reportStatus =>
    simp only [World.perform, World.reportStatus]
    split
    · exact h.fail _
    · split
      · exact h.fail _
      · split
        · exact h.fail _
        · exact h.report _
  | reportScreenshot =>
    simp only [World.perform, World.reportScreenshot]
    split
    · exact h.fail _
    · split
      · exact h.fail _
      · exact h.report _
  | _ => simp [openCommands] at hOpen

theorem Agree.handleCommand (h : Agree reference w v)
    (hForward : (v.gateway.connections reference).permitPortForwarding = false)
    (command : List Str) :
    Alike reference (w.handleCommand codec moment reference shell command)
      (v.handleCommand codec moment reference shell command) := by
  have hSame : Node.handleCommand (w.gateway.connections reference) command =
      Node.handleCommand (v.gateway.connections reference) command := by
    rw [handleCommand_open (h.permitPortForwarding.trans hForward), handleCommand_open hForward]
  unfold World.handleCommand
  rw [hSame]
  split
  · exact h.fail _
  · rename_i found hFound
    exact h.perform (mem_open_of_handleCommand hForward hFound)

theorem Agree.runService (h : Agree reference w v)
    (hForward : (v.gateway.connections reference).permitPortForwarding = false) (text : Str) :
    Turn.Alike reference (w.runService codec reference moment text)
      (v.runService codec reference moment text) := by
  have hCommand : Alike reference
      (w.handleCommand codec moment reference false (splitCommand text))
      (v.handleCommand codec moment reference false (splitCommand text)) :=
    h.handleCommand hForward _
  have hLegacy : Alike reference
      (World.legacyStatus codec
        (w.handleCommand codec moment reference false (splitCommand text)).world reference moment
        text)
      (World.legacyStatus codec
        (v.handleCommand codec moment reference false (splitCommand text)).world reference moment
        text) := hCommand.world.legacyStatus text
  unfold World.runService
  dsimp only
  rw [hCommand.error]
  split
  · simp only [World.openShell, World.welcome, h.version]
    split <;> exact ⟨rfl, rfl, rfl, h⟩
  · split
    · rw [hCommand.written, hLegacy.written, hLegacy.error]
      exact ⟨rfl, rfl, rfl, hLegacy.world⟩
    · rw [hCommand.written]
      exact ⟨rfl, rfl, rfl, hCommand.world⟩

theorem Agree.shellLine (h : Agree reference w v)
    (hForward : (v.gateway.connections reference).permitPortForwarding = false) (line : Str) :
    Turn.Alike reference (w.shellLine codec reference line moment)
      (v.shellLine codec reference line moment) := by
  have hCommand : Alike reference
      (w.handleCommand codec moment reference true (splitCommand (trimSpace line)))
      (v.handleCommand codec moment reference true (splitCommand (trimSpace line))) :=
    h.handleCommand hForward _
  unfold World.shellLine
  dsimp only
  rw [hCommand.error, hCommand.written]
  split
  · exact ⟨rfl, rfl, rfl, h⟩
  · split
    · exact ⟨rfl, rfl, rfl, h⟩
    · split
      · exact ⟨rfl, rfl, rfl, hCommand.world⟩
      · split <;> exact ⟨rfl, rfl, rfl, hCommand.world⟩

/-- The channels are the same, and the worlds look the same. -/
structure Indistinguishable (reference : ρ) (first second : Sessions ι ρ) : Prop where
  channels : first.channels = second.channels
  world : Agree reference first.world second.world

variable {s t : Sessions ι ρ}

omit [DecidableEq ρ] in
theorem Indistinguishable.settle (h : Indistinguishable reference s t) (index : Nat)
    (channel : SessionChannel) {first second : Turn ι ρ}
    (hTurn : Turn.Alike reference first second) :
    Indistinguishable reference (s.settle index channel first) (t.settle index channel second) where
  channels := by
    simp only [Sessions.settle, SessionChannel.take, h.channels, hTurn.sent, hTurn.errors,
      hTurn.ending]
  world := hTurn.world

omit [DecidableEq ρ] in
theorem Indistinguishable.set (h : Indistinguishable reference s t)
    {first second : List SessionChannel} (hSame : first = second) :
    Indistinguishable reference { s with channels := first } { t with channels := second } :=
  ⟨hSame, h.world⟩

theorem Indistinguishable.handleRequest (h : Indistinguishable reference s t)
    (hForward : (t.world.gateway.connections reference).permitPortForwarding = false)
    (index : Nat) (channel : SessionChannel) (request : SessionRequest) :
    Indistinguishable reference (s.handleRequest codec reference index channel request)
      (t.handleRequest codec reference index channel request) := by
  unfold Sessions.handleRequest
  dsimp only
  rw [h.channels]
  split
  · exact h.set rfl
  · split
    · exact h.set rfl
    · split
      · exact h.settle index _ ⟨rfl, rfl, rfl, h.world⟩
      · exact h.settle index _ (h.world.runService hForward _)

theorem Indistinguishable.step (h : Indistinguishable reference s t)
    (hForward : (t.world.gateway.connections reference).permitPortForwarding = false)
    (action : Sessions.Action) :
    Indistinguishable reference (s.step codec reference action)
      (t.step codec reference action) := by
  cases action with
  | channel extraData =>
    simp only [Sessions.step]
    split
    · exact h.set (by rw [h.channels])
    · exact h
  | request index request =>
    simp only [Sessions.step, h.channels]
    split
    · split
      · exact h.handleRequest hForward index _ request
      · exact h
    · exact h
  | line index line moment =>
    simp only [Sessions.step, h.channels]
    split
    · split
      · exact h.settle index _ (h.world.shellLine hForward line)
      · exact h
    · exact h
  | input index failure =>
    simp only [Sessions.step, h.channels]
    split
    · split
      · exact h.settle index _ ⟨rfl, rfl, rfl, h.world⟩
      · exact h
    · exact h

theorem Indistinguishable.serve (h : Indistinguishable reference s t)
    (hForward : (t.world.gateway.connections reference).permitPortForwarding = false)
    (actions : List Sessions.Action) :
    Indistinguishable reference (s.serve codec reference actions)
      (t.serve codec reference actions) := by
  induction actions generalizing s t with
  | nil => exact h
  | cons action rest ih =>
    have hStep : Confined _ t.world (t.step codec reference action).world :=
      step_confined (Or.inl hForward) action
    exact ih (h.step hForward action) (by rwa [hStep.gateway])

/-- A connection that may not forward ports is sent the same from any two worlds that
agree on the version, on its own flags and on the row of its user. -/
theorem session_confidentiality (codec : Codec) (reference : ρ) {first second : World ι ρ}
    (h : Agree reference first second)
    (hForward : (first.gateway.connections reference).permitPortForwarding = false)
    (channels : List SessionChannel) (actions : List Sessions.Action) :
    ((Sessions.mk first channels).serve codec reference actions).channels =
      ((Sessions.mk second channels).serve codec reference actions).channels := by
  have hStart : Indistinguishable reference (Sessions.mk first channels)
      (Sessions.mk second channels) := ⟨rfl, h⟩
  exact (hStart.serve (h.permitPortForwarding.symm.trans hForward) actions).channels

end Confidentiality

/-- The same gateway among other users and nodes. -/
def aliceCrowded : World Unit Unit :=
  { aliceStored with
    revokesLoginFlags := false
    users := fun id => some (if id = ascii "alice" then aliceRow else newUserRow 5 id [] [])
    nodes := [⟨ascii "b", none, none, some true, some 5⟩] }

theorem session_confidentiality_alice :
    ((Sessions.mk aliceStored []).serve plainCodec () aliceActions).channels =
      ((Sessions.mk aliceCrowded []).serve plainCodec () aliceActions).channels ∧
    ((Sessions.mk aliceStored []).serve plainCodec () aliceActions).channels.length = 2 :=
  ⟨session_confidentiality plainCodec () ⟨rfl, rfl, rfl, rfl, rfl⟩ rfl [] aliceActions, by decide⟩

end GatewaySshd.Node
