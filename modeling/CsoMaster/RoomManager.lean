import CsoMaster.ServerState

/-! Broadcasts to the lobby, and what becomes of a room as it is updated, left and removed.
Each function changes the lobby as the operation of its name does, whatever it sends and
writes meanwhile. -/
namespace CsoMaster.State
open DatabaseManager

section UserList

def sendFullUserListPacket (s : State) (c : ConnectionRef) : State :=
  let list := s.gameUsers s.usersInLobby
  list.2.send c (.fullUserList list.1)

def sendAddUserPacketToAll (s : State) (u : UserRef) : State :=
  let userCharacter := s.getUserCharacter u USERCHARACTER_FLAG_ALL
  if userCharacter.1.result ≤ 0 then userCharacter.2
  else userCharacter.2.sendAll (s.usersInLobby.filter (· ≠ u)) (.addUser (s.gameUser u userCharacter.1.userCharacter))

def sendRemoveUserPacketToAll (s : State) (u : UserRef) : State :=
  s.sendAll (s.usersInLobby.filter (· ≠ u)) (.removeUser (s.lobby.user u).userID)

end UserList

section RoomList

def sendFullRoomListPacket (s : State) (c : ConnectionRef) : State :=
  s.send c (.fullRoomList (s.lobby.rooms.map s.roomInfo) ROOMLIST_FLAG_ALL)

def sendAddRoomPacketToAll (s : State) (r : RoomRef) (flag : UInt16) : State :=
  s.sendAll s.usersInLobby (.addRoom (s.roomInfo r) flag)

def sendRemoveRoomPacketToAll (s : State) (roomID : UInt16) : State :=
  s.sendAll s.usersInLobby (.removeRoom roomID)

def sendUpdateRoomPacketToAll (s : State) (r : RoomRef) (flag : UInt16) : State :=
  s.sendAll s.usersInLobby (.updateRoom (s.roomInfo r) flag)

end RoomList

section Room

def updateRoom (s : State) (r : RoomRef) : State := s.exec (DatabaseManager.updateRoom (s.roomRow (s.lobby.room r)))

-- Users that leave a room are shown the lobby, and shown in it.
def showLobby (s : State) (u : UserRef) : State :=
  let s := s.sendAddUserPacketToAll u
  let s := s.sendTo u .leaveRoomInGame
  let s := s.sendFullUserListPacket (s.lobby.user u).connection
  s.sendFullRoomListPacket (s.lobby.user u).connection

-- `~Room`
def destroyRoom (s : State) (roomUsers : List UserRef) : State :=
  roomUsers.foldl (fun s u => (s.setLobby (s.lobby.backToLobby u)).showLobby u) s

def removeRoom (s : State) (r : RoomRef) : State :=
  let roomID := (s.lobby.room r).roomID
  let s := s.sendRemoveRoomPacketToAll roomID
  let s := s.exec (DatabaseManager.removeRoom s.serverConfig.place roomID)
  let s := s.erasing (r ∈ s.lobby.rooms)
  let s := s.setLobby { s.lobby with rooms := s.lobby.rooms.erase r }
  s.destroyRoom (s.lobby.room r).roomUsers

def removeAllRooms (s : State) : State :=
  s.lobby.rooms.foldl
    (fun s r => (s.sendRemoveRoomPacketToAll (s.lobby.room r).roomID).destroyRoom (s.lobby.room r).roomUsers)
    (s.setLobby { s.lobby with rooms := [] })

def announceRoomState (s : State) (r : RoomRef) (roomState : RoomState) : State :=
  let s := s.sendUpdateRoomPacketToAll r ROOMLIST_FLAG_ROOMSTATE
  (s.lobby.room r).roomUsers.foldl
    (fun s v => (s.tell v r (.replyUpdateRoomSettings (.ofRoomState roomState))).tell v r
      (.updateRoom (s.roomInfo r) ROOMLIST_FLAG_ROOMSTATE)) s

def startMatch (s : State) (r : RoomRef) : State :=
  (s.setLobby (s.lobby.setRoom r (s.lobby.room r).startMatch)).announceRoomState r .Playing

def endMatch (s : State) (r : RoomRef) : State :=
  (s.setLobby (s.lobby.setRoom r (s.lobby.room r).endMatch)).announceRoomState r .Waiting

def updateRoomHostUser (s : State) (r : RoomRef) (u : UserRef) : State :=
  let s := s.setLobby (s.lobby.setRoom r { s.lobby.room r with roomHostUser := u })
  s.tellAll (s.lobby.room r).roomUsers r (.updateRoom (s.roomInfo r) ROOMLIST_FLAG_ROOMHOST)

def sendHostRestart (s : State) (m : GameMatch) (newRoomHostUser : UserRef) : State :=
  let others := m.participants.filter (· ≠ newRoomHostUser)
  let newRoomHostUserID := (s.lobby.user newRoomHostUser).userID
  let s := s.sendTo newRoomHostUser
    (.hostRestart newRoomHostUserID (others.map fun v => (s.lobby.user v).userID) m.saveData)
  others.foldl (fun s v => (s.sendTo v (.guestRestart newRoomHostUserID)).sendTo v (.hostJoin newRoomHostUserID)) s

-- The first participant becomes the host; an unsaved match is deleted under it.
def migrate (s : State) (r : RoomRef) (m : GameMatch) (newRoomHostUser : UserRef) : State :=
  let s := (s.updateRoomHostUser r newRoomHostUser).sendHostRestart m newRoomHostUser
  if m.saveData = [] then s.setLobby (s.lobby.setRoom r { s.lobby.room r with gameMatch := none }) else s

def hostLeft (s : State) (r : RoomRef) (first : UserRef) : State :=
  match (s.lobby.room r).gameMatch with
  | none => s.updateRoomHostUser r first
  | some m =>
    match m.gameMatchUsers with
    | [] => (s.endMatch r).updateRoomHostUser r first
    | next :: _ => s.migrate r m next.user

def removeRoomUser (s : State) (r : RoomRef) (u : UserRef) : State :=
  let s := s.erasing (u ∈ (s.lobby.room r).roomUsers)
  let s := s.setLobby (s.lobby.setRoom r ((s.lobby.room r).withoutUser u))
  let s := s.sendUpdateRoomPacketToAll r ROOMLIST_FLAG_CURRENTPLAYERS
  let s := s.setLobby (s.lobby.backToLobby u)
  match (s.lobby.room r).roomUsers with
  | [] => s.removeRoom r
  | first :: rest =>
    let s := (s.updateRoom r).tellAll (first :: rest) r (.userLeave (s.lobby.user u).userID)
    if (s.lobby.room r).roomHostUser = u then s.hostLeft r first else s

end Room

section Lobby
variable (s : State) (r : RoomRef) (u : UserRef)

@[simp] theorem sendFullUserListPacketLobby (c : ConnectionRef) : (s.sendFullUserListPacket c).lobby = s.lobby := by
  simp [sendFullUserListPacket]

@[simp] theorem sendAddUserPacketToAllLobby : (s.sendAddUserPacketToAll u).lobby = s.lobby := by
  dsimp only [sendAddUserPacketToAll]
  split <;> simp

@[simp] theorem sendRemoveUserPacketToAllLobby : (s.sendRemoveUserPacketToAll u).lobby = s.lobby := by
  simp [sendRemoveUserPacketToAll]

@[simp] theorem sendFullRoomListPacketLobby (c : ConnectionRef) : (s.sendFullRoomListPacket c).lobby = s.lobby := by
  simp [sendFullRoomListPacket]

@[simp] theorem sendAddRoomPacketToAllLobby (flag : UInt16) : (s.sendAddRoomPacketToAll r flag).lobby = s.lobby := by
  simp [sendAddRoomPacketToAll]

@[simp] theorem sendRemoveRoomPacketToAllLobby (roomID : UInt16) :
    (s.sendRemoveRoomPacketToAll roomID).lobby = s.lobby := by
  simp [sendRemoveRoomPacketToAll]

@[simp] theorem sendUpdateRoomPacketToAllLobby (flag : UInt16) :
    (s.sendUpdateRoomPacketToAll r flag).lobby = s.lobby := by
  simp [sendUpdateRoomPacketToAll]

@[simp] theorem updateRoomLobby : (s.updateRoom r).lobby = s.lobby := rfl

@[simp] theorem showLobbyLobby : (s.showLobby u).lobby = s.lobby := by
  simp [showLobby]

@[simp] theorem destroyRoomLobby (roomUsers : List UserRef) :
    (s.destroyRoom roomUsers).lobby = roomUsers.foldl Lobby.backToLobby s.lobby := by
  unfold destroyRoom
  induction roomUsers generalizing s with
  | nil => rfl
  | cons u us ih => rw [List.foldl_cons,List.foldl_cons,ih,showLobbyLobby,setLobbyLobby]

@[simp] theorem removeRoomLobby : (s.removeRoom r).lobby = s.lobby.removeRoom r := by
  simp [removeRoom,Lobby.removeRoom,Lobby.destroyRoom]

@[simp] theorem removeAllRoomsLobby : s.removeAllRooms.lobby = s.lobby.removeAllRooms := by
  have each (rooms : List RoomRef) (t : State) :
      (rooms.foldl (fun s r =>
        (s.sendRemoveRoomPacketToAll (s.lobby.room r).roomID).destroyRoom (s.lobby.room r).roomUsers) t).lobby =
          rooms.foldl Lobby.destroyRoom t.lobby := by
    induction rooms generalizing t with
    | nil => rfl
    | cons r rooms ih =>
      rw [List.foldl_cons,List.foldl_cons,ih,destroyRoomLobby,sendRemoveRoomPacketToAllLobby]
      rfl
  exact each s.lobby.rooms _

@[simp] theorem announceRoomStateLobby (roomState : RoomState) :
    (s.announceRoomState r roomState).lobby = s.lobby := by
  dsimp only [announceRoomState]
  rw [foldLobby _ (by simp),sendUpdateRoomPacketToAllLobby]

@[simp] theorem startMatchLobby : (s.startMatch r).lobby = s.lobby.setRoom r (s.lobby.room r).startMatch := by
  simp [startMatch]

@[simp] theorem endMatchLobby : (s.endMatch r).lobby = s.lobby.setRoom r (s.lobby.room r).endMatch := by
  simp [endMatch]

@[simp] theorem updateRoomHostUserLobby :
    (s.updateRoomHostUser r u).lobby = s.lobby.setRoom r { s.lobby.room r with roomHostUser := u } := by
  simp [updateRoomHostUser]

@[simp] theorem sendHostRestartLobby (m : GameMatch) : (s.sendHostRestart m u).lobby = s.lobby := by
  dsimp only [sendHostRestart]
  rw [foldLobby _ (by simp),sendToLobby]

theorem setRoomTwice (l : Lobby) (room other : Room) : (l.setRoom r room).setRoom r other = l.setRoom r other := by
  simp [Lobby.setRoom]

theorem roomSet (l : Lobby) (room : Room) : (l.setRoom r room).room r = room := by
  simp [Lobby.setRoom]

theorem migrateLobby {m : GameMatch} (playing : (s.lobby.room r).gameMatch = some m) :
    (s.migrate r m u).lobby = s.lobby.setRoom r ((s.lobby.room r).migrate m u) := by
  dsimp only [migrate]
  split
  · rename_i unsaved
    simp [setRoomTwice,roomSet,Room.migrate,unsaved]
  · rename_i saved
    simp [Room.migrate,saved,playing]

theorem hostLeftLobby (first : UserRef) :
    (s.hostLeft r first).lobby = s.lobby.setRoom r ((s.lobby.room r).hostLeft first) := by
  cases playing : (s.lobby.room r).gameMatch with
  | none => simp [hostLeft,Room.hostLeft,playing]
  | some m =>
    cases seats : m.gameMatchUsers with
    | nil => simp [hostLeft,Room.hostLeft,playing,seats,setRoomTwice,roomSet]
    | cons next rest => simp [hostLeft,Room.hostLeft,playing,seats,migrateLobby s r next.user playing]

theorem removeRoomUserLobby : (s.removeRoomUser r u).lobby = s.lobby.removeRoomUser r u := by
  have users : ((s.lobby.setRoom r ((s.lobby.room r).withoutUser u)).backToLobby u).room r =
      (s.lobby.room r).withoutUser u := roomSet r s.lobby _
  dsimp only [removeRoomUser,Lobby.removeRoomUser]
  cases left : ((s.lobby.room r).withoutUser u).roomUsers with
  | nil => simp [users,left]
  | cons first rest =>
    simp only [erasingLobby,setLobbyLobby,sendUpdateRoomPacketToAllLobby,users,left,tellAllLobby,updateRoomLobby]
    split
    · rw [hostLeftLobby]
      simp [users]
    · simp

end Lobby
end CsoMaster.State
