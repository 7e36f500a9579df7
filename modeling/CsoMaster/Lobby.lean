import CsoMaster.RoomSettings
import Mathlib.Logic.Function.Basic

/-! Users, rooms and matches of one channel server. Objects live at addresses and refer to
each other by address, as the source's pointers do; `user` and `room` are the contents, an
address taken from `fresh` is never given out twice. `Op` lists all the server can do to
them, each with the guard under which it does it. -/
namespace CsoMaster

abbrev ConnectionRef := Nat
abbrev UserRef := Nat
abbrev RoomRef := Nat

inductive UserStatus where
  | InLogin
  | InServerList
  | InLobby
  | InRoom
  | InGame
  deriving DecidableEq, Repr, Inhabited

inductive PortType where
  | Guest
  | Host
  deriving DecidableEq, Repr

structure UserNetwork where
  externalIP : UInt32
  externalHostPort : UInt16
  externalGuestPort : UInt16
  localIP : UInt32
  localHostPort : UInt16
  localGuestPort : UInt16
  lastHostHeartbeat : Nat
  lastGuestHeartbeat : Nat
  networkSet : UInt8
  deriving DecidableEq, Repr, Inhabited

structure User where
  connection : ConnectionRef
  userID : UInt32
  userName : Bytes
  userNetwork : UserNetwork
  userStatus : UserStatus
  currentRoomID : UInt16
  deriving DecidableEq, Repr, Inhabited

inductive Team where
  | None
  | Terrorist
  | CounterTerrorist
  deriving DecidableEq, Repr

structure GameMatchUser where
  user : UserRef
  team : Team
  deriving DecidableEq, Repr

structure GameMatch where
  saveData : Bytes
  gameMatchUsers : List GameMatchUser
  deriving DecidableEq, Repr

structure Room where
  roomID : UInt16
  roomHostUser : UserRef
  roomSettings : RoomSettings
  roomUsers : List UserRef
  gameMatch : Option GameMatch
  deriving DecidableEq, Repr, Inhabited

namespace UserNetwork

def setUserNetwork (n : UserNetwork) (portType : PortType) (externalIP : UInt32) (externalPort : UInt16)
    (localIP : UInt32) (localPort : UInt16) (currentTime : Nat) : UserNetwork :=
  match portType with
  | .Guest => { n with
      externalIP := externalIP, localIP := localIP, externalGuestPort := externalPort
      localGuestPort := localPort, lastGuestHeartbeat := currentTime, networkSet := n.networkSet ||| 0x1 }
  | .Host => { n with
      externalIP := externalIP, localIP := localIP, externalHostPort := externalPort
      localHostPort := localPort, lastHostHeartbeat := currentTime, networkSet := n.networkSet ||| 0x2 }

def setUserNetworkHeartbeat (n : UserNetwork) (portType : PortType) (currentTime : Nat) : UserNetwork :=
  match portType with
  | .Guest => { n with lastGuestHeartbeat := currentTime }
  | .Host => { n with lastHostHeartbeat := currentTime }

end UserNetwork

namespace User

def new (connection : ConnectionRef) (userID : UInt32) (userName : Bytes) : User :=
  ⟨connection,userID,userName,default,.InLogin,0⟩

def enterRoom (user : User) (roomID : UInt16) : User :=
  { user with userStatus := .InRoom, currentRoomID := roomID }

def backToLobby (user : User) : User := { user with userStatus := .InLobby, currentRoomID := 0 }

def isInRoom (user : User) : Prop := user.userStatus = .InRoom ∨ user.userStatus = .InGame

instance (user : User) : Decidable user.isInRoom := inferInstanceAs (Decidable (_ ∨ _))

end User

namespace GameMatch

def getGameMatchUserByUser (m : GameMatch) (u : UserRef) : Option GameMatchUser :=
  m.gameMatchUsers.find? (·.user = u)

def addGameMatchUser (m : GameMatch) (gameMatchUser : GameMatchUser) : GameMatch :=
  { m with gameMatchUsers := m.gameMatchUsers ++ [gameMatchUser] }

-- `RemoveGameMatchUser(GetGameMatchUserByUser(user))`, nothing where there is none.
def removeGameMatchUser (m : GameMatch) (u : UserRef) : GameMatch :=
  { m with gameMatchUsers := m.gameMatchUsers.eraseP (·.user = u) }

def setTeam (m : GameMatch) (u : UserRef) (team : Team) : GameMatch :=
  { m with gameMatchUsers := m.gameMatchUsers.map fun p => if p.user = u then { p with team := team } else p }

def participants (m : GameMatch) : List UserRef := m.gameMatchUsers.map GameMatchUser.user

end GameMatch

namespace Room

def new (roomID : UInt16) (roomHostUser : UserRef) : Room :=
  ⟨roomID,roomHostUser,{ (default : RoomSettings) with
    lowFlag := ROOMSETTINGS_LFLAG_ALL, highFlag := ROOMSETTINGS_HFLAG_ALL },[],none⟩

def addRoomUser (room : Room) (u : UserRef) : Room := { room with roomUsers := room.roomUsers ++ [u] }

def withoutUser (room : Room) (u : UserRef) : Room :=
  { room with
    gameMatch := room.gameMatch.map (·.removeGameMatchUser u)
    roomUsers := room.roomUsers.erase u }

def updateRoomSettings (room : Room) (s : RoomSettings) : Room :=
  { room with roomSettings := room.roomSettings.update s }

def startMatch (room : Room) : Room :=
  { room with gameMatch := some ⟨[],[]⟩ }.updateRoomSettings (.ofRoomState .Playing)

def endMatch (room : Room) : Room :=
  { room with gameMatch := none }.updateRoomSettings (.ofRoomState .Waiting)

-- The match goes on under a participant, or is dropped where nothing was saved of it.
def migrate (room : Room) (m : GameMatch) (newRoomHostUser : UserRef) : Room :=
  { room with
    roomHostUser := newRoomHostUser
    gameMatch := if m.saveData = [] then none else some m }

-- The host has been taken out of the room and out of its match.
def hostLeft (room : Room) (first : UserRef) : Room :=
  match room.gameMatch with
  | none => { room with roomHostUser := first }
  | some m =>
    match m.gameMatchUsers with
    | [] => { room.endMatch with roomHostUser := first }
    | next :: _ => room.migrate m next.user

-- The host has been taken out of the match only.
def hostReturned (room : Room) (m : GameMatch) : Room :=
  match m.gameMatchUsers with
  | [] => room.endMatch
  | next :: _ => room.migrate m next.user

def participants (room : Room) : List UserRef := (room.gameMatch.map GameMatch.participants).getD []

end Room

structure Lobby where
  users : List UserRef
  user : UserRef → User
  rooms : List RoomRef
  room : RoomRef → Room
  fresh : Nat

namespace Lobby

def start : Lobby := ⟨[],default,[],default,0⟩

def setUser (l : Lobby) (u : UserRef) (user : User) : Lobby := { l with user := Function.update l.user u user }
def setRoom (l : Lobby) (r : RoomRef) (room : Room) : Lobby := { l with room := Function.update l.room r room }

def setUserStatus (l : Lobby) (u : UserRef) (userStatus : UserStatus) : Lobby :=
  l.setUser u { l.user u with userStatus := userStatus }

def backToLobby (l : Lobby) (u : UserRef) : Lobby := l.setUser u (l.user u).backToLobby

def getUserByConnection (l : Lobby) (connection : ConnectionRef) : Option UserRef :=
  l.users.find? fun u => (l.user u).connection = connection

def getUserByUserID (l : Lobby) (userID : UInt32) : Option UserRef :=
  if userID = 0 then none else l.users.find? fun u => (l.user u).userID = userID

def getRoomByRoomID (l : Lobby) (roomID : UInt16) : Option RoomRef :=
  if roomID = 0 then none else l.rooms.find? fun r => (l.room r).roomID = roomID

-- The loop of `GetFreeRoomID` with its number of rounds.
def freeRoomIDFrom (l : Lobby) : Nat → UInt16 → UInt16
  | 0, _ => 0
  | left + 1, roomID =>
    if (l.getRoomByRoomID roomID).isSome then l.freeRoomIDFrom left (roomID + 1) else roomID

def getFreeRoomID (l : Lobby) : UInt16 := l.freeRoomIDFrom 65534 1

def addUser (l : Lobby) (user : User) : Lobby :=
  { l with users := l.users ++ [l.fresh], user := Function.update l.user l.fresh user, fresh := l.fresh + 1 }

def addRoom (l : Lobby) (room : Room) : Lobby :=
  { l with rooms := l.rooms ++ [l.fresh], room := Function.update l.room l.fresh room, fresh := l.fresh + 1 }

-- `~Room`
def destroyRoom (l : Lobby) (r : RoomRef) : Lobby := (l.room r).roomUsers.foldl backToLobby l

def removeRoom (l : Lobby) (r : RoomRef) : Lobby := { l with rooms := l.rooms.erase r }.destroyRoom r

def removeAllRooms (l : Lobby) : Lobby := l.rooms.foldl destroyRoom { l with rooms := [] }

def removeRoomUser (l : Lobby) (r : RoomRef) (u : UserRef) : Lobby :=
  let room := (l.room r).withoutUser u
  let l := (l.setRoom r room).backToLobby u
  match room.roomUsers with
  | [] => l.removeRoom r
  | first :: _ => if room.roomHostUser = u then l.setRoom r (room.hostLeft first) else l

def removeUser (l : Lobby) (u : UserRef) : Lobby :=
  let l :=
    match l.getRoomByRoomID (l.user u).currentRoomID with
    | none => l
    | some r => l.removeRoomUser r u
  { l with users := l.users.erase u }

-- A room under a free ID, registered unless its row could not be written.
def createRoom (l : Lobby) (u : UserRef) (s : RoomSettings) (added : Bool) : Lobby :=
  let roomID := l.getFreeRoomID
  if added then
    (l.setUser u ((l.user u).enterRoom roomID)).addRoom
      { (Room.new roomID u).addRoomUser u with roomSettings := s }
  else l.backToLobby u

def joinRoom (l : Lobby) (u : UserRef) (r : RoomRef) : Lobby :=
  (l.setRoom r ((l.room r).addRoomUser u)).setUser u ((l.user u).enterRoom (l.room r).roomID)

def sendUserStatus (l : Lobby) (r : RoomRef) (m : GameMatch) (target : UserRef) : Lobby :=
  (l.setRoom r { l.room r with gameMatch := some (m.addGameMatchUser ⟨target,.None⟩) }).setUserStatus target .InGame

def endGame (l : Lobby) (r : RoomRef) (m : GameMatch) : Lobby :=
  let l := m.participants.foldl (·.setUserStatus · .InRoom) l
  l.setRoom r (l.room r).endMatch

def returnToRoom (l : Lobby) (u : UserRef) (r : RoomRef) (m : GameMatch) : Lobby :=
  let m := m.removeGameMatchUser u
  let room := { l.room r with gameMatch := some m }
  (l.setRoom r (if u = room.roomHostUser then room.hostReturned m else room)).setUserStatus u .InRoom

inductive Op where
  | addUser (connection : ConnectionRef) (userID : UInt32) (userName : Bytes)
  | removeUser (u : UserRef)
  | setUserNetwork (u : UserRef) (userNetwork : UserNetwork)
  | enterServerList (u : UserRef)
  | enterLobby (u : UserRef)
  | createRoom (u : UserRef) (s : RoomSettings) (added : Bool)
  | joinRoom (u : UserRef) (r : RoomRef)
  | leaveRoom (u : UserRef) (r : RoomRef)
  | updateRoomSettings (u : UserRef) (r : RoomRef) (s : RoomSettings)
  | returnToRoom (u : UserRef) (r : RoomRef) (m : GameMatch)
  | serverIsActivated (u : UserRef) (r : RoomRef)
  | saveData (u : UserRef) (r : RoomRef) (m : GameMatch) (saveData : Bytes)
  | sendUserStatus (u : UserRef) (r : RoomRef) (m : GameMatch) (target : UserRef)
  | endGame (u : UserRef) (r : RoomRef) (m : GameMatch)
  | selectTeam (u : UserRef) (r : RoomRef) (m : GameMatch) (target : UserRef) (team : Team)
  | removeRoom (r : RoomRef)
  | removeAllRooms

def apply (l : Lobby) : Op → Lobby
  | .addUser connection userID userName => l.addUser (.new connection userID userName)
  | .removeUser u => l.removeUser u
  | .setUserNetwork u userNetwork => l.setUser u { l.user u with userNetwork := userNetwork }
  | .enterServerList u => l.setUserStatus u .InServerList
  | .enterLobby u => l.setUserStatus u .InLobby
  | .createRoom u s added => l.createRoom u s added
  | .joinRoom u r => l.joinRoom u r
  | .leaveRoom u r => l.removeRoomUser r u
  | .updateRoomSettings _ r s => l.setRoom r ((l.room r).updateRoomSettings s)
  | .returnToRoom u r m => l.returnToRoom u r m
  | .serverIsActivated _ r => l.setRoom r (l.room r).startMatch
  | .saveData _ r m saveData => l.setRoom r { l.room r with gameMatch := some { m with saveData := saveData } }
  | .sendUserStatus _ r m target => l.sendUserStatus r m target
  | .endGame _ r m => l.endGame r m
  | .selectTeam _ r m target team => l.setRoom r { l.room r with gameMatch := some (m.setTeam target team) }
  | .removeRoom r => l.removeRoom r
  | .removeAllRooms => l.removeAllRooms

-- The room a handler finds for its user.
def Occupies (l : Lobby) (u : UserRef) (r : RoomRef) : Prop :=
  u ∈ l.users ∧ (l.user u).isInRoom ∧ l.getRoomByRoomID (l.user u).currentRoomID = some r

def Plays (l : Lobby) (u : UserRef) (r : RoomRef) (m : GameMatch) : Prop :=
  l.Occupies u r ∧ (l.room r).gameMatch = some m

def HostPlays (l : Lobby) (u : UserRef) (r : RoomRef) (m : GameMatch) : Prop :=
  l.Plays u r m ∧ (l.room r).roomHostUser = u

def Admitted (l : Lobby) : Op → Prop
  | .addUser _ _ _ => True
  | .removeUser u => u ∈ l.users
  | .setUserNetwork u _ => u ∈ l.users
  | .enterServerList u => u ∈ l.users ∧ ((l.user u).userStatus = .InLogin ∨ (l.user u).userStatus = .InLobby)
  | .enterLobby u => u ∈ l.users ∧ ((l.user u).userStatus = .InLogin ∨ (l.user u).userStatus = .InServerList)
  | .createRoom u s _ =>
    u ∈ l.users ∧ (l.user u).userStatus ≠ .InLogin ∧ (l.user u).userStatus ≠ .InRoom ∧
      l.getFreeRoomID ≠ 0 ∧ s.roomState = .Waiting
  | .joinRoom u r =>
    u ∈ l.users ∧ (l.user u).userStatus ≠ .InLogin ∧ (l.user u).userStatus ≠ .InRoom ∧ r ∈ l.rooms ∧
      (l.room r).roomUsers.length < (l.room r).roomSettings.maxPlayers.toNat ∧ u ∉ (l.room r).roomUsers
  | .leaveRoom u r => l.Occupies u r
  | .updateRoomSettings u r _ =>
    l.Occupies u r ∧ (l.user u).userStatus = .InRoom ∧ (l.room r).roomHostUser = u
  | .returnToRoom u r m => l.Plays u r m
  | .serverIsActivated u r => l.Occupies u r ∧ (l.room r).roomHostUser = u ∧ (l.room r).gameMatch = none
  | .saveData u r m saveData => l.HostPlays u r m ∧ (l.user u).userStatus = .InGame ∧ saveData ≠ []
  | .sendUserStatus u r m target =>
    l.HostPlays u r m ∧ l.Occupies target r ∧ m.getGameMatchUserByUser target = none
  | .endGame u r m => l.HostPlays u r m ∧ (l.user u).userStatus = .InGame
  | .selectTeam u r m target _ =>
    l.HostPlays u r m ∧ (l.user u).userStatus = .InGame ∧ (m.getGameMatchUserByUser target).isSome
  | .removeRoom r => r ∈ l.rooms
  | .removeAllRooms => True

section Lookup
variable {l : Lobby} {roomID : UInt16} {r : RoomRef}

theorem getRoomByRoomIDSome (found : l.getRoomByRoomID roomID = some r) :
    r ∈ l.rooms ∧ (l.room r).roomID = roomID ∧ roomID ≠ 0 := by
  unfold getRoomByRoomID at found
  split at found
  · cases found
  · rename_i given
    exact ⟨List.mem_of_find?_eq_some found,by simpa using List.find?_some found,given⟩

theorem getRoomByRoomIDNone (absent : l.getRoomByRoomID roomID = none) (given : roomID ≠ 0) :
    ∀ r ∈ l.rooms, (l.room r).roomID ≠ roomID := by
  simpa [getRoomByRoomID,given] using absent

theorem getFreeRoomIDFree (given : l.getFreeRoomID ≠ 0) : ∀ r ∈ l.rooms, (l.room r).roomID ≠ l.getFreeRoomID := by
  have free (left : Nat) (roomID : UInt16) (given : l.freeRoomIDFrom left roomID ≠ 0) :
      l.getRoomByRoomID (l.freeRoomIDFrom left roomID) = none := by
    induction left generalizing roomID with
    | zero => exact absurd rfl given
    | succ left ih =>
      unfold freeRoomIDFrom at given ⊢
      cases found : l.getRoomByRoomID roomID with
      | none => simp only [found,Option.isSome_none,Bool.false_eq_true,if_false]
      | some r =>
        simp only [found,Option.isSome_some,if_true] at given ⊢
        exact ih _ given
  exact getRoomByRoomIDNone (free _ _ given) given

theorem getUserByConnectionSome {connection : ConnectionRef} {u : UserRef}
    (found : l.getUserByConnection connection = some u) : u ∈ l.users ∧ (l.user u).connection = connection :=
  ⟨List.mem_of_find?_eq_some found,by simpa using List.find?_some found⟩

theorem getUserByUserIDSome {userID : UInt32} {u : UserRef}
    (found : l.getUserByUserID userID = some u) : u ∈ l.users := by
  unfold getUserByUserID at found
  split at found
  · cases found
  · exact List.mem_of_find?_eq_some found

end Lookup

end Lobby
end CsoMaster
