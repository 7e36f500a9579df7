import CsoMaster.DatabaseManager

/-! One channel server: its lobby, its connections, its tables and what it has sent. A packet
counts as sent when it is handed to an open connection. `faulted` notes that a handler has
indexed outside a string or a list, `erasedEnd` that an `erase(find(..))` has not found its
element; what the program does from there on is not modelled. `told` keeps which of the packets
sent to a user are about a room it is in, and `characterMissed` that a character was asked for
in vain. No function reads any of these. -/
namespace CsoMaster

structure ChannelConfig extends ServerConfig where
  ip : UInt32
  port : UInt16
  udpAuthKey : Bytes
  defaultBuyMenus : List BuyMenu
  defaultInventory : List UInt8

structure Connection where
  ipAddress : UInt32
  isOpen : Bool
  versionReceived : Bool
  deriving DecidableEq, Repr, Inhabited

-- What the tables' server, bcrypt, OpenSSL and the C library answer during one event.
structure Environment where
  statements : List Statement
  bcrypt_checkpw : Bytes → Bytes → Int
  bcrypt_gensalt : Option Bytes
  setupEncryptCipher : Bool
  setupDecryptCipher : Bool
  dateStr : UInt32 → Bytes
  now : UInt32

structure State where
  lobby : Lobby
  connections : List ConnectionRef
  connection : ConnectionRef → Connection
  accepted : Nat
  serverConfig : ChannelConfig
  store : Store
  environment : Environment
  consoleTime : Nat
  secondCount : Nat
  currentTime : Nat
  sent : List (ConnectionRef × Message)
  told : List ((UserRef × RoomRef) × Message)
  characterMissed : Bool
  faulted : Bool
  erasedEnd : Bool

namespace State
open DatabaseManager

def fault (s : State) : State := { s with faulted := true }

def erasing (s : State) (found : Prop) [Decidable found] : State := { s with erasedEnd := s.erasedEnd || !decide found }

def setLobby (s : State) (lobby : Lobby) : State := { s with lobby := lobby }

def sql {α : Type} (s : State) (q : Sql α) : α × State := ((q s.store).1,{ s with store := (q s.store).2 })

def exec {α : Type} (s : State) (q : Sql α) : State := (s.sql q).2

def send (s : State) (c : ConnectionRef) (m : Message) : State :=
  if (s.connection c).isOpen then { s with sent := s.sent ++ [(c,m)] } else s

def sendTo (s : State) (u : UserRef) (m : Message) : State := s.send (s.lobby.user u).connection m

def sendAll (s : State) (us : List UserRef) (m : Message) : State := us.foldl (·.sendTo · m) s

-- `sendTo` about the user's room.
def tell (s : State) (u : UserRef) (r : RoomRef) (m : Message) : State :=
  if (s.connection (s.lobby.user u).connection).isOpen then
    { s with sent := s.sent ++ [((s.lobby.user u).connection,m)], told := s.told ++ [((u,r),m)] }
  else s

def tellAll (s : State) (us : List UserRef) (r : RoomRef) (m : Message) : State := us.foldl (·.tell · r m) s

def setConnection (s : State) (c : ConnectionRef) (connection : Connection) : State :=
  { s with connection := Function.update s.connection c connection }

-- `DisconnectClient`: a handler closes the socket only, the server also forgets the connection.
def disconnectClient (s : State) (c : ConnectionRef) (eraseConnection : Bool) : State :=
  let s := s.setConnection c { s.connection c with isOpen := false }
  if eraseConnection then { s with connections := s.connections.erase c } else s

def gameUser (s : State) (u : UserRef) (userCharacter : UserCharacter) : GameUser :=
  ⟨(s.lobby.user u).userID,(s.lobby.user u).userName,(s.lobby.user u).userNetwork,userCharacter⟩

def roomInfo (s : State) (r : RoomRef) : RoomInfo :=
  let room := s.lobby.room r
  let host := s.lobby.user room.roomHostUser
  ⟨room.roomID,room.roomSettings,room.roomUsers.length,host.userID,host.userNetwork⟩

def roomRow (s : State) (room : Room) : RoomRow :=
  ⟨s.serverConfig.place,room.roomID,false,room.roomSettings.password ≠ [],room.roomSettings.levelLimit,
    room.roomSettings.gameModeID,room.roomSettings.mapID,UInt8.ofNat room.roomUsers.length,
    room.roomSettings.maxPlayers⟩

def getUserCharacter (s : State) (u : UserRef) (flag : UInt16) : UserCharacterResult × State :=
  let found := s.sql (DatabaseManager.getUserCharacter (s.lobby.user u).userID flag)
  (found.1,{ found.2 with characterMissed := s.characterMissed || found.1.result ≤ 0 })

def isUserCharacterExists (s : State) (u : UserRef) : Int × State :=
  let found := s.sql (DatabaseManager.getUserCharacter (s.lobby.user u).userID 0)
  (found.1.result,found.2)

-- The characters of these users, those left out that cannot be had.
def gameUsers (s : State) : List UserRef → List GameUser × State
  | [] => ([],s)
  | u :: us =>
    let first := s.getUserCharacter u USERCHARACTER_FLAG_ALL
    let rest := first.2.gameUsers us
    (if first.1.result > 0 then s.gameUser u first.1.userCharacter :: rest.1 else rest.1,rest.2)

def usersInLobby (s : State) : List UserRef :=
  s.lobby.users.filter fun u => (s.lobby.user u).userStatus = .InLobby

section Frame
variable (s : State)

-- Folds of what leaves the lobby alone leave it alone.
theorem foldLobby {α : Type} {f : State → α → State} (same : ∀ s a, (f s a).lobby = s.lobby) (as : List α) :
    (as.foldl f s).lobby = s.lobby := by
  induction as generalizing s with
  | nil => rfl
  | cons a as ih => rw [List.foldl_cons,ih,same]

@[simp] theorem faultLobby : s.fault.lobby = s.lobby := rfl

@[simp] theorem erasingLobby (found : Prop) [Decidable found] : (s.erasing found).lobby = s.lobby := rfl

@[simp] theorem setLobbyLobby (lobby : Lobby) : (s.setLobby lobby).lobby = lobby := rfl

@[simp] theorem sqlLobby {α : Type} (q : Sql α) : (s.sql q).2.lobby = s.lobby := rfl

@[simp] theorem execLobby {α : Type} (q : Sql α) : (s.exec q).lobby = s.lobby := rfl

theorem sendStore (c : ConnectionRef) (m : Message) : (s.send c m).store = s.store := by
  unfold send
  split <;> rfl

theorem tellStore (u : UserRef) (r : RoomRef) (m : Message) : (s.tell u r m).store = s.store := by
  unfold tell
  split <;> rfl

theorem sendAllStore (us : List UserRef) (m : Message) : (s.sendAll us m).store = s.store := by
  unfold sendAll
  induction us generalizing s with
  | nil => rfl
  | cons u us ih => exact (ih _).trans (s.sendStore _ m)

@[simp] theorem sendLobby (c : ConnectionRef) (m : Message) : (s.send c m).lobby = s.lobby := by
  unfold send
  split <;> rfl

@[simp] theorem sendToLobby (u : UserRef) (m : Message) : (s.sendTo u m).lobby = s.lobby := s.sendLobby _ m

@[simp] theorem sendAllLobby (us : List UserRef) (m : Message) : (s.sendAll us m).lobby = s.lobby :=
  s.foldLobby (fun s u => s.sendToLobby u m) us

@[simp] theorem tellLobby (u : UserRef) (r : RoomRef) (m : Message) : (s.tell u r m).lobby = s.lobby := by
  unfold tell
  split <;> rfl

@[simp] theorem tellAllLobby (us : List UserRef) (r : RoomRef) (m : Message) : (s.tellAll us r m).lobby = s.lobby :=
  s.foldLobby (fun s u => s.tellLobby u r m) us

@[simp] theorem setConnectionLobby (c : ConnectionRef) (connection : Connection) :
    (s.setConnection c connection).lobby = s.lobby := rfl

@[simp] theorem disconnectClientLobby (c : ConnectionRef) (eraseConnection : Bool) :
    (s.disconnectClient c eraseConnection).lobby = s.lobby := by
  cases eraseConnection <;> rfl

@[simp] theorem getUserCharacterLobby (u : UserRef) (flag : UInt16) :
    (s.getUserCharacter u flag).2.lobby = s.lobby := rfl

@[simp] theorem isUserCharacterExistsLobby (u : UserRef) : (s.isUserCharacterExists u).2.lobby = s.lobby := rfl

@[simp] theorem gameUsersLobby (us : List UserRef) : (s.gameUsers us).2.lobby = s.lobby := by
  induction us generalizing s with
  | nil => rfl
  | cons u us ih => exact (ih (s.getUserCharacter u USERCHARACTER_FLAG_ALL).2).trans (getUserCharacterLobby s u _)

end Frame
end State
end CsoMaster
