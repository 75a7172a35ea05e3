import GatewaySshd.Lib.Space
import GatewaySshd.Node.Connection

/-! # The commands of a session

A command line is one record of a csv reader whose delimiter is the space. What
a session may run is decided by two flags of its connection. A text that is no
command is taken for a status report in the older form.
-/
namespace GatewaySshd.Node
set_option autoImplicit false

open Space

section Csv

def quote : UInt8 := 34

def newline : UInt8 := 10

def readLines : Str → List Str
  | [] => []
  | byte :: rest =>
    if byte = newline then [newline] :: readLines rest
    else match readLines rest with
      | [] => [[byte]]
      | line :: lines => (byte :: line) :: lines

/-- The end of a line is a newline; a carriage return before it, or before the
end of the text, is dropped. -/
def normalizeLine : Str → Str
  | [] => []
  | byte :: rest =>
    if byte = 13 ∧ (rest = [] ∨ rest = [newline]) then rest else byte :: normalizeLine rest

inductive FieldState where
  | start
  | bare
  | quoted
  -- after a quote that ends the field unless another one follows
  | closing

/-- The fields of the record that the text starts with, from within a field of
which some bytes have been read. A quote in a bare field and whatever follows a
closing quote are errors, and so is the end of the text in a quoted field. -/
def readFields (comma : UInt8) : FieldState → Str → Str → Option (List Str)
  | .start, field, [] => some [field]
  | .bare, field, [] => some [field]
  | .closing, field, [] => some [field]
  | .quoted, _, [] => none
  | .quoted, field, byte :: rest =>
    if byte = quote then readFields comma .closing field rest
    else readFields comma .quoted (field ++ [byte]) rest
  | .closing, field, byte :: rest =>
    if byte = quote then readFields comma .quoted (field ++ [quote]) rest
    else if byte = comma then (readFields comma .start [] rest).map (field :: ·)
    else if byte = newline then some [field]
    else none
  | .start, field, byte :: rest =>
    if byte = quote then readFields comma .quoted [] rest
    else if byte = comma then (readFields comma .start [] rest).map (field :: ·)
    else if byte = newline then some [field]
    else readFields comma .bare [byte] rest
  | .bare, field, byte :: rest =>
    if byte = quote then none
    else if byte = comma then (readFields comma .start [] rest).map (field :: ·)
    else if byte = newline then some [field]
    else readFields comma .bare (field ++ [byte]) rest

def readRecord (comma : UInt8) (text : Str) : Option (List Str) :=
  match ((readLines text).map normalizeLine).dropWhile fun line =>
      line == [] || line == [newline] with
  | [] => none
  | lines => readFields comma .start [] lines.flatten

end Csv

def splitCommand (command : Str) : List Str := (readRecord 32 command).getD []

example : splitCommand (ascii "kickUser \"bob \"\"b\"\" smith\"\r\n") =
    [ascii "kickUser", ascii "bob \"b\" smith"] := by decide

inductive Command where
  | help
  | ping
  | version
  | reportStatus
  | reportScreenshot
  | status (user : Str)
  | listUsers
  | listOnlineUsers
  | listLocalOnlineUsers
  | getUser (userId : Str)
  | kickUser (userId : Str)
deriving DecidableEq

def openCommands : List (Str × Command) :=
  [(ascii "help", .help), (ascii "ping", .ping), (ascii "version", .version),
    (ascii "reportStatus", .reportStatus), (ascii "reportScreenshot", .reportScreenshot)]

def forwarderCommands : List (Str × Command) :=
  [(ascii "status", .status []), (ascii "listUsers", .listUsers),
    (ascii "listOnlineUsers", .listOnlineUsers),
    (ascii "listLocalOnlineUsers", .listLocalOnlineUsers)]

/-- Nothing is returned for an invalid command. -/
def handleCommand (connection : Connection) : List Str → Option Command
  | [name] =>
    match openCommands.lookup name with
    | some command => some command
    | none => if connection.permitPortForwarding then forwarderCommands.lookup name else none
  | [name, argument] =>
    if !connection.permitPortForwarding then none
    else if name = ascii "status" then some (.status argument)
    else if name = ascii "getUser" then some (.getUser argument)
    else if !connection.administrator then none
    else if name = ascii "kickUser" then some (.kickUser argument)
    else none
  | _ => none

/-- The lines typed into a shell, and what is run for them. -/
def handleShell (connection : Connection) : List Str → List Command
  | [] => []
  | line :: lines =>
    let line := trimSpace line
    if line = [] then handleShell connection lines
    else if line = ascii "exit" ∨ line = ascii "quit" then []
    else (handleCommand connection (splitCommand line)).toList ++ handleShell connection lines

inductive Operation where
  | command (command : Command)
  -- the text itself is unmarshalled and stored
  | legacyStatus (text : Str)
deriving DecidableEq

def runService (connection : Connection) (command : Str) (lines : List Str) : List Operation :=
  if command = [] then (handleShell connection lines).map .command
  else match handleCommand connection (splitCommand command) with
    | some command => [.command command]
    | none => [.legacyStatus command]

theorem mem_of_lookup {commands : List (Str × Command)} {name : Str} {command : Command}
    (h : commands.lookup name = some command) : command ∈ commands.map Prod.snd := by
  obtain ⟨before, after, hSplit, _⟩ := List.lookup_eq_some_iff.mp h
  simp [hSplit]

theorem handleCommand_kickUser {connection : Connection} {command : List Str} {userId : Str}
    (h : handleCommand connection command = some (.kickUser userId)) :
    connection.permitPortForwarding = true ∧ connection.administrator = true := by
  unfold handleCommand at h
  split at h
  · split at h
    · rename_i found hFound
      cases h
      simpa [openCommands] using mem_of_lookup hFound
    · split at h
      · simpa [forwarderCommands] using mem_of_lookup h
      · cases h
  · split_ifs at h with hForward _ _ hAdministrator
    · cases h
    · cases h
    · exact ⟨by simpa using hForward, by simpa using hAdministrator⟩
  · cases h

/-- Without the permission to forward ports only the open commands are known. -/
theorem handleCommand_open {connection : Connection}
    (h : connection.permitPortForwarding = false) (command : List Str) :
    handleCommand connection command =
      match command with
      | [name] => openCommands.lookup name
      | _ => none := by
  unfold handleCommand
  split
  · rw [h]
    split
    · rename_i hFound
      exact hFound.symm
    · rename_i hNone
      simp [hNone]
  · rw [h]
    rfl
  · rename_i hOne _
    split
    · exact absurd rfl (hOne _)
    · rfl

theorem mem_open_of_handleCommand {connection : Connection}
    (h : connection.permitPortForwarding = false) {command : List Str} {found : Command}
    (hFound : handleCommand connection command = some found) :
    found ∈ openCommands.map Prod.snd := by
  rw [handleCommand_open h] at hFound
  split at hFound
  · exact mem_of_lookup hFound
  · cases hFound

theorem handleShell_kickUser {connection : Connection} {lines : List Str} {userId : Str}
    (h : .kickUser userId ∈ handleShell connection lines) : connection.administrator = true := by
  induction lines with
  | nil => cases h
  | cons line lines ih =>
    simp only [handleShell] at h
    split at h
    · exact ih h
    · split at h
      · cases h
      · rcases List.mem_append.mp h with hHere | hLater
        · exact (handleCommand_kickUser (Option.mem_toList.mp hHere)).2
        · exact ih hLater

theorem runService_kickUser {connection : Connection} {command : Str} {lines : List Str}
    {userId : Str} (h : .command (.kickUser userId) ∈ runService connection command lines) :
    connection.administrator = true := by
  unfold runService at h
  split at h
  · obtain ⟨_, hShell, ⟨rfl⟩⟩ := List.mem_map.mp h
    exact handleShell_kickUser hShell
  · split at h
    · rename_i found hFound
      cases List.mem_singleton.mp h
      exact (handleCommand_kickUser hFound).2
    · cases List.mem_singleton.mp h

end GatewaySshd.Node
