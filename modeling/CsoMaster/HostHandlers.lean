import CsoMaster.RoomHandlers

/-! `Packet_HostManager`: what the host of a room reports of its match. -/
namespace CsoMaster.State
open Reader

def SAVEDATA_MAX_SIZE : Nat := 51200
def USERSTATUS_INGAME : UInt8 := 1

-- The room a user hosts and its match, for the handlers that ask for these statuses.
def hostMatch (s : State) (u : UserRef) (statuses : List UserStatus) : Option (RoomRef × GameMatch) :=
  match s.currentRoom u statuses with
  | none => none
  | some r =>
    match (s.lobby.room r).gameMatch with
    | none => none
    | some m => if (s.lobby.room r).roomHostUser = u then some (r,m) else none

def parsePacket_Host_ServerIsActivated (s : State) (u : UserRef) : State :=
  match s.currentRoom u [.InRoom,.InGame] with
  | none => s
  | some r =>
    if (s.lobby.room r).roomHostUser ≠ u then s
    else if (s.lobby.room r).gameMatch = none then s.startMatch r
    else s

def parsePacket_Host_SaveData (s : State) (u : UserRef) (p : Packet) : State :=
  match s.hostMatch u [.InGame] with
  | none => s
  | some (r,m) =>
    let saveSize := p.readUInt16 .little
    if saveSize.1 = 0 ∨ saveSize.1.toNat > SAVEDATA_MAX_SIZE then s
    else
      let saveData := (saveSize.2.readArrayUInt8 saveSize.1.toNat).1
      s.setLobby (s.lobby.setRoom r { s.lobby.room r with gameMatch := some { m with saveData := saveData } })

-- The user a status report is about, where the report stands.
def reported (s : State) (r : RoomRef) (m : GameMatch) (p : Packet) : Option UserRef :=
  let userID := p.readUInt32 .little
  match s.lobby.getUserByUserID userID.1 with
  | none => none
  | some target =>
    if (s.lobby.user target).isInRoom ∧ s.lobby.getRoomByRoomID (s.lobby.user target).currentRoomID = some r ∧
        userID.2.readUInt8.1 = USERSTATUS_INGAME ∧ m.getGameMatchUserByUser target = none then some target
    else none

def parsePacket_Host_SendUserStatus (s : State) (u : UserRef) (p : Packet) : State :=
  match s.hostMatch u [.InRoom,.InGame] with
  | none => s
  | some (r,m) =>
    match s.reported r m p with
    | none => s
    | some target => s.setLobby (s.lobby.sendUserStatus r m target)

def parsePacket_Host_EndGame (s : State) (u : UserRef) : State :=
  match s.hostMatch u [.InGame] with
  | none => s
  | some (r,m) =>
    let s := m.participants.foldl
      (fun s v => ((s.setUserStatus v .InRoom).sendTo v .hostEndSession).sendTo v .gameResult) s
    s.endMatch r

-- `rejoinFailUserIDs[rejoinFailUserIDs.size() - 1]`, also where nobody is listed.
def parsePacket_Host_RejoinFail (s : State) (u : UserRef) (p : Packet) : State :=
  match s.hostMatch u [.InGame] with
  | none => s
  | some _ => if p.readUInt8.1 = 0 then s.fault else s

def readTeam (team : UInt8) : Option Team :=
  if team = 1 then some .Terrorist else if team = 2 then some .CounterTerrorist else none

def parsePacket_Host_SelectTeam (s : State) (u : UserRef) (p : Packet) : State :=
  match s.hostMatch u [.InGame] with
  | none => s
  | some (r,m) =>
    let userID := p.readUInt32 .little
    match s.lobby.getUserByUserID userID.1 with
    | none => s
    | some target =>
      if m.getGameMatchUserByUser target = none then s
      else
        match readTeam userID.2.readUInt8.1 with
        | none => s
        | some team =>
          s.setLobby (s.lobby.setRoom r { s.lobby.room r with gameMatch := some (m.setTeam target team) })

-- PlayerKilled, AddKill, AddDeath and RoundResult are only logged.
def parsePacket_Host (s : State) (c : ConnectionRef) (p : Packet) : State :=
  match s.loggedIn c with
  | none => s
  | some u =>
    let type := p.readUInt8
    match type.1 with
    | 0 => s.parsePacket_Host_ServerIsActivated u
    | 1 => s.parsePacket_Host_SaveData u type.2
    | 2 => s.parsePacket_Host_SendUserStatus u type.2
    | 5 => s.parsePacket_Host_EndGame u
    | 6 => s.parsePacket_Host_RejoinFail u type.2
    | 10 => s.parsePacket_Host_SelectTeam u type.2
    | _ => s

section Lobby
variable {s : State} {u target : UserRef} {r : RoomRef} {m : GameMatch} {statuses : List UserStatus}

theorem hostMatchSome (found : s.hostMatch u statuses = some (r,m)) :
    s.currentRoom u statuses = some r ∧ (s.lobby.room r).gameMatch = some m ∧
      (s.lobby.room r).roomHostUser = u := by
  unfold hostMatch at found
  split at found
  · cases found
  · rename_i q current
    split at found
    · cases found
    · rename_i n playing
      split at found
      · rename_i host
        cases found
        exact ⟨current,playing,host⟩
      · cases found

theorem reportedSome {p : Packet} (found : s.reported r m p = some target) :
    target ∈ s.lobby.users ∧ (s.lobby.user target).isInRoom ∧
      s.lobby.getRoomByRoomID (s.lobby.user target).currentRoomID = some r ∧
        m.getGameMatchUserByUser target = none := by
  dsimp only [reported] at found
  split at found
  · cases found
  · rename_i v known
    split at found
    · rename_i stands
      cases found
      exact ⟨Lobby.getUserByUserIDSome known,stands.1,stands.2.1,stands.2.2.2⟩
    · cases found

end Lobby
end CsoMaster.State
