import GatewaySshd.Presence.System
import GatewaySshd.Node.Directory
import GatewaySshd.Node.Service

/-! # Sessions

A session channel takes requests one after another. One that starts a command or a
shell occupies it until the service has returned; the exit status is then sent and
the channel closed, and the requests still waiting are taken only if it was zero.
Sessions of one connection run side by side.
-/
namespace GatewaySshd.Node
set_option autoImplicit false

open TtlCache (Time)
open Ssh Db Auth Space ThreeValued
open Presence (onlineStaleThreshold)

structure TunnelStatus where
  type : Str
  metadata : Str → Option Str

/-- What a connection counts while it is in use. -/
structure Usage where
  id : Str
  address : Str
  createdAt : Time
  usedAt : Time
  tunnels : List TunnelStatus
  tunnelsOpened : UInt64
  tunnelsClosed : UInt64
  bytesRead : UInt64
  bytesWritten : UInt64

structure ConnectionStatus where
  id : Str
  createdAt : Time
  usedAt : Time
  user : Str
  administrator : Bool
  permitPortForwarding : Bool
  address : Str
  tunnels : List TunnelStatus
  tunnelsActive : Nat
  tunnelsOpened : UInt64
  tunnelsClosed : UInt64
  upTime : UInt64
  idleTime : UInt64
  bytesRead : UInt64
  bytesWritten : UInt64
  services : Services

/-- The values that are marshalled for a client. The users of a listing come in the
order of the database, each with whether they are online. -/
inductive Response where
  | connection (status : ConnectionStatus)
  | status (connections : List ConnectionStatus)
  | users (users : Str → Option (User × Bool))
  | user (user : User) (status : Option Str) (online : Bool) (connections : List ConnectionStatus)
  | null

/-- What a client sends to a command, up to its end or the error of a read. -/
structure Stdin where
  content : Str
  failure : Option Str

/-- What is left to the standard library. -/
structure Codec where
  gunzip : Stdin → Except Str Str
  unmarshal : Str → Except Str Str
  timeText : Time → Except Str Str
  quoted : Str → Str
  marshalIndent : Response → Except Str Str
  seconds : Time → UInt64

/-- What the world answers to a command while it runs. -/
structure Moment where
  now : Time
  databaseError : Option Str
  writeError : Option Str
  stdin : Stdin

inductive ServiceError where
  | invalidCommand
  | notInShell
  | recordNotFound
  | other (text : Str)
deriving DecidableEq

def ServiceError.text : ServiceError → Str
  | .invalidCommand => ascii "gateway: invalid command"
  | .notInShell => ascii "gateway: this command cannot be run in shell"
  | .recordNotFound => ascii "record not found"
  | .other text => text

structure World (ι ρ : Type) where
  version : Str
  revokesLoginFlags : Bool
  gateway : Gateway ι ρ
  usage : ρ → Usage
  isOpen : ρ → Bool
  loginFlags : FlagsCache
  users : UserTable
  nodes : NodeTable

structure Outcome (ι ρ : Type) where
  world : World ι ρ
  written : List Str
  error : Option ServiceError

namespace World

variable {ι ρ : Type}

section Gather

variable (codec : Codec) (w : World ι ρ) (now : Time)

def gatherConnectionStatus (reference : ρ) : ConnectionStatus :=
  let connection := w.gateway.connections reference
  let usage := w.usage reference
  { id := usage.id
    createdAt := usage.createdAt
    usedAt := usage.usedAt
    user := connection.user
    administrator := connection.administrator
    permitPortForwarding := connection.permitPortForwarding
    address := usage.address
    tunnels := usage.tunnels
    tunnelsActive := usage.tunnels.length
    tunnelsOpened := usage.tunnelsOpened
    tunnelsClosed := usage.tunnelsClosed
    upTime := codec.seconds (now - usage.createdAt)
    idleTime := codec.seconds (now - usage.usedAt)
    bytesRead := usage.bytesRead
    bytesWritten := usage.bytesWritten
    services := connection.services }

def gatherStatus (user : Str) : List ConnectionStatus :=
  (w.gateway.gatherStatus user).map (w.gatherConnectionStatus codec now)

def isHeartbeatFresh (onlineAt : Option Time) : Bool :=
  onlineAt.any fun seen => now - seen < onlineStaleThreshold

def listUsers : Response :=
  .users fun id => (w.users id).map fun row =>
    (row.scan id, decide (id ∈ w.gateway.connectedUserIds) || isHeartbeatFresh now row.onlineAt)

def listOnlineUsers : Response :=
  .users fun id => (w.users id).bind fun row =>
    if holds (sqlCompare (fun x y => decide (y < x)) row.onlineAt
      (some (now - onlineStaleThreshold))) then some (row.scan id, true) else none

def listLocalOnlineUsers : Response :=
  .users fun id =>
    if id ∈ w.gateway.connectedUserIds then (w.users id).map fun row => (row.scan id, true)
    else none

def getUser (userId : Str) : Response :=
  match w.gateway.getUser w.users userId with
  | none => .null
  | some (user, references) =>
    .user user ((w.users userId).bind UserRow.status)
      (!references.isEmpty || isHeartbeatFresh now user.onlineAt)
      (references.map (w.gatherConnectionStatus codec now))

end Gather

section Commands

variable (codec : Codec) (w : World ι ρ) (moment : Moment)

def fail (error : ServiceError) : Outcome ι ρ := ⟨w, [], some error⟩

def write (data : Str) : Outcome ι ρ := ⟨w, [data], moment.writeError.map .other⟩

def marshal (value : Response) : Outcome ι ρ :=
  match codec.marshalIndent value with
  | .error text => w.fail (.other text)
  | .ok output => w.write moment (output ++ [newline])

def helpLines (connection : Connection) : List Str :=
  [ascii "Available commands:", []] ++
    (if connection.permitPortForwarding then
      [ascii "    status [username] - show gateway status, optionally filter by username",
        ascii "    listUsers - list all users in database",
        ascii "    listOnlineUsers - list users that are currently online",
        ascii "    listLocalOnlineUsers - list users that are connected to this node",
        ascii "    getUser <username> - get details about a user from database", []]
    else []) ++
    (if connection.administrator then
      [ascii "    kickUser <username> - close connections from a user", []]
    else []) ++
    [ascii "    exit - exit shell", ascii "    quit - same as exit",
      ascii "    help - display this help message", ascii "    version - show server version",
      ascii "    ping - ping server", [], []]

def help (reference : ρ) : Outcome ι ρ :=
  w.write moment ((helpLines (w.gateway.connections reference)).intersperse [newline]).flatten

/-- The keys of a map are marshalled in their order. -/
def pingText (version now : Str) : Str :=
  ascii "\x7b\"now\":" ++ now ++
    ascii ",\"services\":[\"ping\",\"reportStatus\",\"reportScreenshot\"],\"version\":" ++
    version ++ ascii "\x7d"

def ping : Outcome ι ρ :=
  match codec.timeText moment.now with
  | .error text => w.fail (.other text)
  | .ok now =>
    let data := pingText (codec.quoted w.version) now
    match moment.writeError with
    | some text => ⟨w, [data], some (.other text)⟩
    | none => ⟨w, [data, [newline]], none⟩

def showVersion : Outcome ι ρ := w.write moment (w.version ++ [newline])

/-- The statement of a report, as the connection makes it. -/
def report (update : UserTable → Option UserTable) : Outcome ι ρ :=
  match moment.databaseError with
  | some text => w.fail (.other text)
  | none =>
    match update w.users with
    | none => w.fail .recordNotFound
    | some users => ⟨{ w with users := users }, [], none⟩

def saveStatus (reference : ρ) (status : Str) : Outcome ι ρ :=
  w.report moment (updateUserStatus moment.now (w.gateway.connections reference).user status)

def reportStatus (reference : ρ) (shell : Bool) : Outcome ι ρ :=
  if shell then w.fail .notInShell
  else match codec.gunzip moment.stdin with
    | .error text => w.fail (.other text)
    | .ok raw =>
      match codec.unmarshal raw with
      | .error text => w.fail (.other text)
      | .ok status => w.saveStatus moment reference status

def reportScreenshot (reference : ρ) (shell : Bool) : Outcome ι ρ :=
  if shell then w.fail .notInShell
  else match moment.stdin.failure with
    | some text => w.fail (.other text)
    | none => w.report moment (updateUserScreenshot moment.now
        (w.gateway.connections reference).user moment.stdin.content)

def status (reference : ρ) (user : Str) : Outcome ι ρ :=
  w.marshal codec moment
    (if (w.gateway.connections reference).permitPortForwarding then
      .status (w.gatherStatus codec moment.now user)
    else .connection (w.gatherConnectionStatus codec moment.now reference))

/-- A response made from what a query returned. -/
def query (asks : Bool) (value : Response) : Outcome ι ρ :=
  match if asks then moment.databaseError else none with
  | some text => w.fail (.other text)
  | none => w.marshal codec moment value

def kickUser [DecidableEq ρ] (userId : Str) : Outcome ι ρ where
  world := { w with
    loginFlags := if w.revokesLoginFlags then revokeUserFlags userId w.loginFlags else w.loginFlags
    isOpen := fun reference => w.isOpen reference && reference ∉ w.gateway.kickUser userId }
  written := []
  error := none

def perform [DecidableEq ρ] (reference : ρ) (shell : Bool) : Command → Outcome ι ρ
  | .help => w.help moment reference
  | .ping => w.ping codec moment
  | .version => w.showVersion moment
  | .reportStatus => w.reportStatus codec moment reference shell
  | .reportScreenshot => w.reportScreenshot moment reference shell
  | .status user => w.status codec moment reference user
  | .listUsers => w.query codec moment true (w.listUsers moment.now)
  | .listOnlineUsers => w.query codec moment true (w.listOnlineUsers moment.now)
  | .listLocalOnlineUsers =>
    -- no query is made for an empty set of ids
    w.query codec moment (!w.gateway.connectedUserIds.isEmpty) w.listLocalOnlineUsers
  | .getUser userId => w.query codec moment true (w.getUser codec moment.now userId)
  | .kickUser userId => w.kickUser userId

def handleCommand [DecidableEq ρ] (reference : ρ) (shell : Bool) (command : List Str) :
    Outcome ι ρ :=
  match Node.handleCommand (w.gateway.connections reference) command with
  | none => w.fail .invalidCommand
  | some command => w.perform codec moment reference shell command

end Commands

end World

/-- What a session sends to its client. The terminal turns what is written to it,
its prompts and the lines it reads into the bytes of a screen. -/
inductive Output where
  | reply (ok : Bool)
  | stdout (data : Str)
  | terminal (data : Str)
  | prompt
  | stderr (data : Str)
  | closeWrite
  | exitStatus (status : UInt32)
  | close
deriving DecidableEq

/-- How a request for a command or a shell is over. -/
inductive Ending where
  | success
  | failure (error : ServiceError)
  | undecodable
deriving DecidableEq

def Ending.ofError : Option ServiceError → Ending
  | none => .success
  | some error => .failure error

def Ending.report : Ending → List Output
  | .success => [.closeWrite, .exitStatus 0, .close]
  | .failure error =>
    [.stderr (ascii "ERROR: " ++ error.text ++ ascii "\r\n"), .closeWrite, .exitStatus 1, .close]
  | .undecodable => [.closeWrite, .exitStatus 1, .close]

/-- A stretch of work of a service: what it sends, the errors that commands and
older reports have returned to it, and how it is over, if it is. -/
structure Turn (ι ρ : Type) where
  world : World ι ρ
  sent : List Output
  errors : List ServiceError
  ending : Option Ending

namespace World

variable {ι ρ : Type} [DecidableEq ρ]

section Service

variable (codec : Codec) (w : World ι ρ) (reference : ρ)

def welcome : Str :=
  ascii "Welcome to gatewaysshd version " ++ w.version ++
    ascii "! Type \"help\" to get a list of available commands.\n"

def openShell (moment : Moment) : Turn ι ρ :=
  match moment.writeError with
  | some text => ⟨w, [.terminal w.welcome], [], some (.failure (.other text))⟩
  | none => ⟨w, [.terminal w.welcome, .prompt], [], none⟩

/-- A line of a shell. A failed command is shown and the next line is read. -/
def shellLine (line : Str) (moment : Moment) : Turn ι ρ :=
  let line := trimSpace line
  if line = [] then ⟨w, [.prompt], [], none⟩
  else if line = ascii "exit" ∨ line = ascii "quit" then ⟨w, [], [], some .success⟩
  else
    let done := w.handleCommand codec moment reference true (splitCommand line)
    match done.error with
    | none => ⟨done.world, done.written.map .terminal ++ [.prompt], [], none⟩
    | some error =>
      let shown := done.written.map .terminal ++
        [.terminal (ascii "ERROR: " ++ error.text ++ [newline])]
      match moment.writeError with
      | some text => ⟨done.world, shown, [error], some (.failure (.other text))⟩
      | none => ⟨done.world, shown ++ [.prompt], [error], none⟩

/-- The older form: the text itself is a status. -/
def legacyStatus (moment : Moment) (command : Str) : Outcome ι ρ :=
  match codec.unmarshal command with
  | .error text => w.fail (.other text)
  | .ok status => w.saveStatus moment reference status

/-- Of the errors of a command only that of an invalid one is looked at. -/
def runService (moment : Moment) (command : Str) : Turn ι ρ :=
  if command = [] then w.openShell moment
  else
    let done := w.handleCommand codec moment reference false (splitCommand command)
    if done.error = some .invalidCommand then
      let legacy := done.world.legacyStatus codec reference moment command
      ⟨legacy.world, (done.written ++ legacy.written).map .stdout, legacy.error.toList,
        some (.ofError legacy.error)⟩
    else ⟨done.world, done.written.map .stdout, done.error.toList, some .success⟩

end Service

end World

inductive SessionRequestType where
  | env
  | shell
  | exec
  | ptyReq
  | other
deriving DecidableEq

structure SessionRequest where
  type : SessionRequestType
  wantReply : Bool
  -- whether the reply can be sent
  sends : Bool
  payload : Str
  moment : Moment

def unmarshalExec (payload : Str) : Option Str :=
  (parseString payload).bind fun (command, rest) => if rest = [] then some command else none

/-- The command of a request that runs one; the empty command is a shell. -/
def SessionRequest.command (request : SessionRequest) : Option Str :=
  if request.type = .exec then unmarshalExec request.payload else some []

def SessionRequest.reply (request : SessionRequest) : List Output :=
  if request.wantReply then [.reply (decide (request.type ≠ .other))] else []

def SessionRequest.replied (request : SessionRequest) : Bool :=
  !request.wantReply || request.sends

def SessionRequest.runs (request : SessionRequest) : Bool :=
  request.type = .shell || request.type = .exec

inductive ChannelPhase where
  | serving
  | shell
  | ended
deriving DecidableEq

structure SessionChannel where
  phase : ChannelPhase
  sent : List Output
  -- the errors that commands and older reports have returned
  errors : List ServiceError

def SessionChannel.opened : SessionChannel := ⟨.serving, [], []⟩

def SessionChannel.take {ι ρ : Type} (channel : SessionChannel) (turn : Turn ι ρ) :
    SessionChannel where
  phase := match turn.ending with
    | none => .shell
    | some .success => .serving
    | some _ => .ended
  sent := channel.sent ++ turn.sent ++ (turn.ending.map Ending.report).getD []
  errors := channel.errors ++ turn.errors

/-- The sessions of one connection. -/
structure Sessions (ι ρ : Type) where
  world : World ι ρ
  channels : List SessionChannel

namespace Sessions

variable {ι ρ : Type}

inductive Action where
  | channel (extraData : Str)
  | request (channel : Nat) (request : SessionRequest)
  | line (channel : Nat) (line : Str) (moment : Moment)
  -- the end of what a shell can read
  | input (channel : Nat) (failure : Option Str)

def settle (s : Sessions ι ρ) (index : Nat) (channel : SessionChannel) (turn : Turn ι ρ) :
    Sessions ι ρ :=
  ⟨turn.world, s.channels.set index (channel.take turn)⟩

variable [DecidableEq ρ] (codec : Codec) (reference : ρ)

def handleRequest (s : Sessions ι ρ) (index : Nat) (channel : SessionChannel)
    (request : SessionRequest) : Sessions ι ρ :=
  let answered := { channel with sent := channel.sent ++ request.reply }
  if !request.replied then
    { s with channels := s.channels.set index { answered with phase := .ended } }
  else if !request.runs then { s with channels := s.channels.set index answered }
  else match request.command with
    | none => s.settle index answered ⟨s.world, [], [], some .undecodable⟩
    | some command =>
      s.settle index answered (s.world.runService codec reference request.moment command)

/-- A step that the channel is not ready for is left for later. -/
def step (s : Sessions ι ρ) : Action → Sessions ι ρ
  | .channel extraData =>
    if extraData = [] then { s with channels := s.channels ++ [.opened] } else s
  | .request index request =>
    match s.channels[index]? with
    | some channel =>
      if channel.phase = .serving then s.handleRequest codec reference index channel request else s
    | none => s
  | .line index line moment =>
    match s.channels[index]? with
    | some channel =>
      if channel.phase = .shell then
        s.settle index channel (s.world.shellLine codec reference line moment)
      else s
    | none => s
  | .input index failure =>
    match s.channels[index]? with
    | some channel =>
      if channel.phase = .shell then
        s.settle index channel ⟨s.world, [], [], some (.ofError (failure.map .other))⟩
      else s
    | none => s

def serve (s : Sessions ι ρ) (actions : List Action) : Sessions ι ρ :=
  actions.foldl (step codec reference) s

end Sessions

section Effects

variable {ι ρ : Type} {codec : Codec} {w : World ι ρ} {moment : Moment} {reference : ρ}
  {shell : Bool}

theorem world_marshal (value : Response) : (w.marshal codec moment value).world = w := by
  unfold World.marshal
  split <;> rfl

theorem world_query (asks : Bool) (value : Response) :
    (w.query codec moment asks value).world = w := by
  unfold World.query
  split
  · rfl
  · exact world_marshal value

variable [DecidableEq ρ]

/-- What a command can do to the world. -/
inductive Effect (w : World ι ρ) (moment : Moment) (reference : ρ) (shell : Bool) :
    Command → World ι ρ → Prop where
  | nothing {command : Command} : Effect w moment reference shell command w
  | report {command : Command} {users : UserTable} {change : UserRow → UserRow}
      (hExec : shell = false)
      (hColumns : ∀ row, ∃ status screenshot, change row =
        { row with status := status, screenshot := screenshot })
      (hUsers : updateUserColumn moment.now (w.gateway.connections reference).user change w.users =
        some users) :
      Effect w moment reference shell command { w with users := users }
  | kick {userId : Str} :
      Effect w moment reference shell (.kickUser userId) (w.kickUser userId).world

theorem report_effect {command : Command} {change : UserRow → UserRow} (hExec : shell = false)
    (hColumns : ∀ row, ∃ status screenshot, change row =
      { row with status := status, screenshot := screenshot }) :
    Effect w moment reference shell command (w.report moment
      (updateUserColumn moment.now (w.gateway.connections reference).user change)).world := by
  unfold World.report
  split
  · exact .nothing
  · split
    · exact .nothing
    · rename_i users hUsers
      exact .report hExec hColumns hUsers

theorem perform_effect (command : Command) :
    Effect w moment reference shell command
      (w.perform codec moment reference shell command).world := by
  have hQuery : ∀ {asks value}, Effect w moment reference shell command
      (w.query codec moment asks value).world := by
    intro asks value
    rw [world_query]
    exact .nothing
  cases command with
  | help => exact .nothing
  | ping =>
    simp only [World.perform, World.ping]
    split
    · exact .nothing
    · split <;> exact .nothing
  | version => exact .nothing
  | reportStatus =>
    simp only [World.perform, World.reportStatus]
    split
    · exact .nothing
    · rename_i hExec
      split
      · exact .nothing
      · split
        · exact .nothing
        · exact report_effect (Bool.not_eq_true _ ▸ hExec) fun row => ⟨_, row.screenshot, rfl⟩
  | reportScreenshot =>
    simp only [World.perform, World.reportScreenshot]
    split
    · exact .nothing
    · rename_i hExec
      split
      · exact .nothing
      · exact report_effect (Bool.not_eq_true _ ▸ hExec) fun row => ⟨row.status, _, rfl⟩
  | status user =>
    simp only [World.perform, World.status, world_marshal]
    exact .nothing
  | listUsers => exact hQuery
  | listOnlineUsers => exact hQuery
  | listLocalOnlineUsers => exact hQuery
  | getUser userId => exact hQuery
  | kickUser userId => exact .kick

end Effects

end GatewaySshd.Node
