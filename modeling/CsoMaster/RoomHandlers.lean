import CsoMaster.LoginHandlers

/-! `Packet_RoomManager`: what users do with rooms. The guards of a handler stand apart from
what it does once they have let the packet through. -/
namespace CsoMaster.State
open DatabaseManager
open Reader

-- Original, Bot, Official and Official_TieBreak; DeathMatch and BotDM.
def freezingModes : List UInt8 := [0,3,6,7]
def deathMatchModes : List UInt8 := [1,4]

-- The room a user is in, for the handlers that ask for these statuses.
def currentRoom (s : State) (u : UserRef) (statuses : List UserStatus) : Option RoomRef :=
  if (s.lobby.user u).userStatus ∈ statuses then s.lobby.getRoomByRoomID (s.lobby.user u).currentRoomID else none

section CreateRoom

def readCreateRoom (settings : RoomSettings) : Reader (RoomSettings × Bool) := do
  let roomName ← string
  let _unk2 ← uint8
  let maxPlayers ← uint8
  let gameModeID ← uint8
  let mapID ← uint8
  let winLimit ← uint8
  let killLimit ← uint16
  let timeLimit ← uint8
  let roundTime ← uint8
  let password ← string
  let _unk11 ← uint8
  let _unk12 ← uint8
  let fastStart ← bool
  return ({ settings with
    roomName := roomName, maxPlayers := maxPlayers, gameModeID := gameModeID, mapID := mapID
    winLimit := winLimit, killLimit := killLimit, timeLimit := timeLimit, roundTime := roundTime
    password := password, hostagePenalty := 3
    freezeTime := if freezingModes.contains gameModeID then 6 else settings.freezeTime
    buyTime := 90, nickNameDisplay := 1
    friendlyFire := if deathMatchModes.contains gameModeID then true else settings.friendlyFire
    flashLight := true, footSteps := true, voiceChat := true },fastStart)

def admitCreateRoom (s : State) (u : UserRef) : Option UserCharacter × State :=
  if (s.lobby.user u).userStatus = .InRoom then (none,s)
  else if s.lobby.getFreeRoomID = 0 then (none,s)
  else
    let userCharacter := s.getUserCharacter u USERCHARACTER_FLAG_ALL
    if userCharacter.1.result ≤ 0 then (none,userCharacter.2.sendTo u (.reply .SysError))
    else (some userCharacter.1.userCharacter,userCharacter.2)

def openRoom (s : State) (u : UserRef) (userCharacter : UserCharacter) (settings : RoomSettings)
    (fastStart : Bool) : State :=
  let roomID := s.lobby.getFreeRoomID
  let newRoom := { (Room.new roomID u).addRoomUser u with roomSettings := settings }
  let s := s.setLobby (s.lobby.setUser u ((s.lobby.user u).enterRoom roomID))
  let s := s.sendRemoveUserPacketToAll u
  let added := s.sql (addRoom (s.roomRow newRoom))
  let s := added.2
  if added.1 ≤ 0 then
    let s := (s.setLobby (s.lobby.backToLobby u)).sendAddUserPacketToAll u
    (s.sendTo u (.reply .SysError)).destroyRoom newRoom.roomUsers
  else
    let r := s.lobby.fresh
    let s := (s.setLobby (s.lobby.addRoom newRoom)).sendAddRoomPacketToAll r ROOMLIST_FLAG_ALL
    let userID := (s.lobby.user u).userID
    let s := s.tell u r (.replyCreateAndJoin userID roomID settings [s.gameUser u userCharacter])
    if fastStart then s.sendTo u (.hostStart userID) else s

def parsePacket_Room_CreateRoom (s : State) (u : UserRef) (p : Packet) : State :=
  match (s.admitCreateRoom u).1 with
  | none => (s.admitCreateRoom u).2
  | some userCharacter =>
    let created := (readCreateRoom (Room.new s.lobby.getFreeRoomID u).roomSettings p).1
    (s.admitCreateRoom u).2.openRoom u userCharacter created.1 created.2

end CreateRoom

section JoinRoom

def admitJoinRoom (s : State) (u : UserRef) (p : Packet) : Option (RoomRef × UserCharacter) × State :=
  if (s.lobby.user u).userStatus = .InRoom then (none,s)
  else
    let roomID := p.readUInt16 .little
    let password := roomID.2.readString
    match s.lobby.getRoomByRoomID roomID.1 with
    | none => (none,s.warn (s.lobby.user u).connection "ROOM_JOIN_FAILED_CLOSED")
    | some r =>
      let room := s.lobby.room r
      if room.roomSettings.password ≠ [] ∧ password.1 ≠ room.roomSettings.password then
        (none,s.warn (s.lobby.user u).connection "ROOM_JOIN_FAILED_INVALID_PASSWD")
      else if room.roomUsers.length ≥ room.roomSettings.maxPlayers.toNat then
        (none,s.warn (s.lobby.user u).connection "ROOM_JOIN_FAILED_FULL")
      else
        let userCharacter := s.getUserCharacter u USERCHARACTER_FLAG_ALL
        if userCharacter.1.result ≤ 0 then (none,userCharacter.2.sendTo u (.reply .SysError))
        else if u ∈ room.roomUsers then (none,userCharacter.2)
        else (some (r,userCharacter.1.userCharacter),userCharacter.2)

-- The other users are told of the new one, and it of those whose character can be had.
def introduce (s : State) (r : RoomRef) (newcomer : GameUser) : List UserRef → List GameUser × State
  | [] => ([],s)
  | v :: roomUsers =>
    let userCharacter := s.getUserCharacter v USERCHARACTER_FLAG_ALL
    let told := (userCharacter.2.tell v r (.userJoin newcomer)).tell v r (.userReady newcomer.userID 0)
    let rest := told.introduce r newcomer roomUsers
    (if userCharacter.1.result > 0 then s.gameUser v userCharacter.1.userCharacter :: rest.1 else rest.1,rest.2)

def enterRoom (s : State) (u : UserRef) (r : RoomRef) (userCharacter : UserCharacter) : State :=
  let s := (s.setLobby (s.lobby.joinRoom u r)).updateRoom r
  let s := s.sendRemoveUserPacketToAll u
  let s := s.sendUpdateRoomPacketToAll r ROOMLIST_FLAG_CURRENTPLAYERS
  let newcomer := s.gameUser u userCharacter
  let room := s.lobby.room r
  let introduced := s.introduce r newcomer (room.roomUsers.filter (· ≠ u))
  let s := introduced.2
  let s := s.tell u r (.replyCreateAndJoin (s.lobby.user room.roomHostUser).userID room.roomID room.roomSettings
    (introduced.1 ++ [newcomer]))
  s.tell u r (.userReady newcomer.userID 0)

def parsePacket_Room_JoinRoom (s : State) (u : UserRef) (p : Packet) : State :=
  match (s.admitJoinRoom u p).1 with
  | none => (s.admitJoinRoom u p).2
  | some (r,userCharacter) => (s.admitJoinRoom u p).2.enterRoom u r userCharacter

end JoinRoom

section InRoom

def parsePacket_Room_LeaveRoom (s : State) (u : UserRef) : State :=
  match s.currentRoom u [.InRoom,.InGame] with
  | none => s
  | some r => (s.removeRoomUser r u).showLobby u

def parsePacket_Room_StartGame (s : State) (u : UserRef) : State :=
  match s.currentRoom u [.InRoom] with
  | none => s
  | some r =>
    if (s.lobby.user u).userNetwork.networkSet ≠ 0x3 then
      s.warn (s.lobby.user u).connection "ROOM_JOIN_FAILED_INVALID_GAME_IP"
    else
      let roomHostUser := (s.lobby.room r).roomHostUser
      if roomHostUser = u then s.sendTo u (.hostStart (s.lobby.user u).userID)
      else s.sendTo u (.hostJoin (s.lobby.user roomHostUser).userID)

def parsePacket_Room_UpdateRoomSettings (s : State) (u : UserRef) (p : Packet) : State :=
  match s.currentRoom u [.InRoom] with
  | none => s
  | some r =>
    if (s.lobby.room r).roomHostUser ≠ u then s
    else
      let roomSettings := (readRoomSettings p).1
      let s := (s.setLobby (s.lobby.setRoom r ((s.lobby.room r).updateRoomSettings roomSettings))).updateRoom r
      let s := s.sendUpdateRoomPacketToAll r (roomListFlag roomSettings).toUInt16
      s.tellAll (s.lobby.room r).roomUsers r (.replyUpdateRoomSettings roomSettings)

def parsePacket_Room_ResultConfirm (s : State) (u : UserRef) : State :=
  match s.currentRoom u [.InRoom] with
  | none => s
  | some _ => s.sendTo u .resultClose

-- The room and the match of a user that may return to its room.
def returning (s : State) (u : UserRef) : Option (RoomRef × GameMatch) :=
  match s.currentRoom u [.InRoom,.InGame] with
  | none => none
  | some r => (s.lobby.room r).gameMatch.map (r,·)

def hostReturned (s : State) (r : RoomRef) (m : GameMatch) : State :=
  match m.gameMatchUsers with
  | [] => s.endMatch r
  | next :: _ => s.migrate r m next.user

def parsePacket_Room_ReturnToRoom (s : State) (u : UserRef) : State :=
  match s.returning u with
  | none => s
  | some (r,m) =>
    let m := m.removeGameMatchUser u
    let s := s.setLobby (s.lobby.setRoom r { s.lobby.room r with gameMatch := some m })
    let s := if u = (s.lobby.room r).roomHostUser then s.hostReturned r m else s
    s.setUserStatus u .InRoom

end InRoom

-- The user, the type and the rest of a room packet.
def roomPacket (s : State) (c : ConnectionRef) (p : Packet) : Option (UserRef × UInt8 × Packet) :=
  (s.loggedIn c).map fun u => (u,p.readUInt8.1,p.readUInt8.2)

def parsePacket_Room (s : State) (c : ConnectionRef) (p : Packet) : State :=
  match s.roomPacket c p with
  | none => s
  | some (u,type,p) =>
    match type with
    | 0 => s.parsePacket_Room_CreateRoom u p
    | 1 => s.parsePacket_Room_JoinRoom u p
    | 2 => s.parsePacket_Room_LeaveRoom u
    | 4 => s.parsePacket_Room_StartGame u
    | 5 => s.parsePacket_Room_UpdateRoomSettings u p
    | 6 => s.parsePacket_Room_ResultConfirm u
    | 11 => s.parsePacket_Room_ReturnToRoom u
    | _ => s

section Lobby
variable (s : State) (u : UserRef) (r : RoomRef) (p : Packet)

theorem currentRoomSome {s : State} {u : UserRef} {r : RoomRef} {statuses : List UserStatus}
    (found : s.currentRoom u statuses = some r) :
    (s.lobby.user u).userStatus ∈ statuses ∧ s.lobby.getRoomByRoomID (s.lobby.user u).currentRoomID = some r := by
  unfold currentRoom at found
  split at found
  · rename_i status
    exact ⟨status,found⟩
  · cases found

theorem admitCreateRoomSome (admitted : (s.admitCreateRoom u).1.isSome) :
    (s.lobby.user u).userStatus ≠ .InRoom ∧ s.lobby.getFreeRoomID ≠ 0 := by
  dsimp only [admitCreateRoom] at admitted
  split at admitted
  · cases admitted
  · rename_i status
    split at admitted
    · cases admitted
    · rename_i given
      exact ⟨status,given⟩

theorem readCreateRoomState (settings : RoomSettings) :
    (readCreateRoom settings p).1.1.roomState = settings.roomState := rfl

theorem openRoomLobby (userCharacter : UserCharacter) (settings : RoomSettings) (fastStart : Bool) :
    ∃ added, (s.openRoom u userCharacter settings fastStart).lobby = s.lobby.createRoom u settings added := by
  have left (roomID : UInt16) :
      ((s.lobby.setUser u ((s.lobby.user u).enterRoom roomID)).backToLobby u).backToLobby u = s.lobby.backToLobby u := by
    simp [Lobby.backToLobby,Lobby.setUser,User.backToLobby,User.enterRoom]
  dsimp only [openRoom]
  split
  · refine ⟨false,?_⟩
    simp [Room.addRoomUser,Room.new,left,Lobby.createRoom]
  · refine ⟨true,?_⟩
    split <;> simp [Lobby.createRoom]

theorem admitJoinRoomSome {userCharacter : UserCharacter} {s : State} {u : UserRef} {r : RoomRef} {p : Packet}
    (admitted : (s.admitJoinRoom u p).1 = some (r,userCharacter)) :
    (s.lobby.user u).userStatus ≠ .InRoom ∧ r ∈ s.lobby.rooms ∧
      (s.lobby.room r).roomUsers.length < (s.lobby.room r).roomSettings.maxPlayers.toNat ∧
        u ∉ (s.lobby.room r).roomUsers := by
  dsimp only [admitJoinRoom] at admitted
  split at admitted
  · cases admitted
  · rename_i status
    split at admitted
    · cases admitted
    · rename_i q found
      split at admitted
      · cases admitted
      · split at admitted
        · cases admitted
        · rename_i seats
          split at admitted
          · cases admitted
          · split at admitted
            · cases admitted
            · rename_i absent
              cases admitted
              exact ⟨status,(Lobby.getRoomByRoomIDSome found).1,Nat.not_le.mp seats,absent⟩

theorem admitJoinRoomNamed {userCharacter : UserCharacter} {s : State} {u : UserRef} {r : RoomRef} {p : Packet}
    (admitted : (s.admitJoinRoom u p).1 = some (r,userCharacter)) :
    s.lobby.getRoomByRoomID (p.readUInt16 .little).1 = some r := by
  dsimp only [admitJoinRoom] at admitted
  split at admitted
  · cases admitted
  · cases named : s.lobby.getRoomByRoomID (p.readUInt16 .little).1 with
    | none =>
      rw [named] at admitted
      cases admitted
    | some q =>
      simp only [named] at admitted
      repeat' split at admitted
      all_goals cases admitted
      rfl

@[simp] theorem introduceLobby (newcomer : GameUser) (roomUsers : List UserRef) :
    (s.introduce r newcomer roomUsers).2.lobby = s.lobby := by
  induction roomUsers generalizing s with
  | nil => rfl
  | cons v roomUsers ih =>
    dsimp only [introduce]
    rw [ih,tellLobby,tellLobby,getUserCharacterLobby]

@[simp] theorem enterRoomLobby (userCharacter : UserCharacter) :
    (s.enterRoom u r userCharacter).lobby = s.lobby.joinRoom u r := by
  simp [enterRoom]

theorem returningSome {m : GameMatch} {s : State} {u : UserRef} {r : RoomRef} (found : s.returning u = some (r,m)) :
    s.currentRoom u [.InRoom,.InGame] = some r ∧ (s.lobby.room r).gameMatch = some m := by
  unfold returning at found
  split at found
  · cases found
  · rename_i q current
    obtain ⟨n,playing,same⟩ := Option.map_eq_some_iff.mp found
    cases same
    exact ⟨current,playing⟩

theorem hostReturnedLobby {m : GameMatch} (playing : (s.lobby.room r).gameMatch = some m) :
    (s.hostReturned r m).lobby = s.lobby.setRoom r ((s.lobby.room r).hostReturned m) := by
  unfold hostReturned Room.hostReturned
  cases m.gameMatchUsers with
  | nil => exact endMatchLobby s r
  | cons next rest => exact migrateLobby s r next.user playing

end Lobby
end CsoMaster.State
