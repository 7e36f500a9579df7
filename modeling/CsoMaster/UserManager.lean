import CsoMaster.RoomManager

/-! `UserManager`: the users of the server from the login on to the end of their connection. -/
namespace CsoMaster.State
open DatabaseManager

-- The error code a connection is given up with.
inductive ErrorCode where
  | bad_descriptor
  | other
  deriving DecidableEq, Repr

def getUserByConnection (s : State) (c : ConnectionRef) : Option UserRef := s.lobby.getUserByConnection c

def isUserLoggedIn (s : State) (u : UserRef) : Bool := (s.lobby.user u).userStatus ≠ .InLogin

-- The user a handler goes on with that asks for `IsUserLoggedIn`.
def loggedIn (s : State) (c : ConnectionRef) : Option UserRef := (s.getUserByConnection c).filter (s.isUserLoggedIn ·)

def setUserStatus (s : State) (u : UserRef) (userStatus : UserStatus) : State :=
  s.setLobby (s.lobby.setUserStatus u userStatus)

def updateChannelNumPlayers (s : State) : State :=
  match listed s.serverConfig.toServerConfig s.serverConfig.place with
  | none => s.fault
  | some _ => { s with serverConfig := { s.serverConfig with
      serverList := s.serverConfig.serverList.modify (s.serverConfig.place.serverID - 1).toNat fun server =>
        { server with
          channels := server.channels.modify (s.serverConfig.place.channelID - 1).toNat fun channel =>
            { channel with numPlayers := UInt16.ofNat s.lobby.users.length } } } }

def addUser (s : State) (user : User) : Int × State :=
  if s.lobby.users.length ≥ s.serverConfig.maxPlayers then (Packet_ReplyType.EXCEED_MAX_CONNECTION.code,s)
  else
    let result := s.sql (addUserSession s.serverConfig.toServerConfig user.userID)
    if result.1 > 0 then
      let s := result.2.setLobby (result.2.lobby.addUser user)
      (result.1,(s.exec (removeUserTransfer user.userID)).updateChannelNumPlayers)
    else result

-- `RemoveUser` up to the session row.
def leaveLobby (s : State) (u : UserRef) : State :=
  let s := if (s.lobby.user u).userStatus = .InLobby then s.sendRemoveUserPacketToAll u else s
  match s.lobby.getRoomByRoomID (s.lobby.user u).currentRoomID with
  | none => s
  | some r => s.removeRoomUser r u

def removeUser (s : State) (u : UserRef) : State :=
  let s := s.leaveLobby u
  let s := s.exec (removeUserSession (s.lobby.user u).userID)
  let s := s.erasing (u ∈ s.lobby.users)
  let s := s.setLobby { s.lobby with users := s.lobby.users.erase u }
  s.updateChannelNumPlayers

def disconnectUser (s : State) (u : UserRef) : State := s.disconnectClient (s.lobby.user u).connection false

def disconnectAllUsers (s : State) : State := s.lobby.users.foldl disconnectUser s

def disconnectUserByConnection (s : State) (c : ConnectionRef) (ec : Option ErrorCode) : State :=
  let s :=
    match s.getUserByConnection c with
    | none => s
    | some u => s.removeUser u
  match ec with
  | none => s.disconnectClient c false
  | some .bad_descriptor => s
  | some .other => s.disconnectClient c true

section Login

def enterLobby (s : State) (u : UserRef) : State :=
  let s := (s.setUserStatus u .InLobby).sendAddUserPacketToAll u
  let s := s.sendFullUserListPacket (s.lobby.user u).connection
  s.sendFullRoomListPacket (s.lobby.user u).connection

def enterServerList (s : State) (u : UserRef) : State :=
  let userID := (s.lobby.user u).userID
  let s := (s.setUserStatus u .InServerList).sendTo u (.serverList s.serverConfig.serverList)
  let userConfig := s.sql (getUserConfig userID)
  let s := if userConfig.1 = [] then userConfig.2 else userConfig.2.sendTo u (.userConfig userConfig.1)
  let userQuickStart := s.sql (getUserQuickStart userID)
  let s := userQuickStart.2.sendTo u (.userQuickStart userQuickStart.1)
  let userBuyMenus := s.sql (getUserBuyMenus userID)
  let s := if userBuyMenus.1 = [] then userBuyMenus.2 else userBuyMenus.2.sendTo u (.userBuyMenu userBuyMenus.1)
  let userBookMarks := s.sql (getUserBookMarks userID)
  if userBookMarks.1 = [] then userBookMarks.2 else userBookMarks.2.sendTo u (.userBookMark userBookMarks.1)

def sendUserStart (s : State) (u : UserRef) (userCharacter : UserCharacter) (reply : Packet_ReplyType) : State :=
  let s := if s.environment.setupEncryptCipher then s.sendTo u (.crypt .Encrypt) else s
  let s := if s.environment.setupDecryptCipher then s.sendTo u (.crypt .Decrypt) else s
  let s := if reply ≠ .NoReply then s.sendTo u (.reply reply) else s
  let s := s.sendTo u (.userStart (s.gameUser u userCharacter))
  let s := s.sendTo u (.updateInfo (s.gameUser u userCharacter))
  let userInventory := s.sql (getUserInventory (s.lobby.user u).userID)
  let s := if userInventory.1 = [] then userInventory.2 else userInventory.2.sendTo u (.inventory userInventory.1)
  s.sendTo u .clientCheck

def sendLoginPackets (s : State) (u : UserRef) (reply : Packet_ReplyType) : State :=
  let userCharacter := s.getUserCharacter u USERCHARACTER_FLAG_ALL
  if userCharacter.1.result ≤ 0 then (userCharacter.2.sendTo u (.reply .SysError)).disconnectUser u
  else
    let s := userCharacter.2.sendUserStart u userCharacter.1.userCharacter reply
    if reply ≠ .NoReply then s.enterServerList u else s.enterLobby u

-- `AddUser` with the replies of its callers, and the new user where it was added.
def addNewUser (s : State) (c : ConnectionRef) (userID : UInt32) (userName : Bytes) : Option UserRef × State :=
  let userResult := s.addUser (.new c userID userName)
  if userResult.1 ≤ 0 then
    (none,userResult.2.send c (.reply (if userResult.1 < 0 then .SysError else .Playing)))
  else if userResult.1 = Packet_ReplyType.EXCEED_MAX_CONNECTION.code then
    (none,userResult.2.send c (.reply .EXCEED_MAX_CONNECTION))
  else (some s.lobby.fresh,userResult.2)

end Login

section Lobby
variable (s : State) (u : UserRef)

@[simp] theorem setUserStatusLobby (userStatus : UserStatus) :
    (s.setUserStatus u userStatus).lobby = s.lobby.setUserStatus u userStatus := rfl

@[simp] theorem updateChannelNumPlayersLobby : s.updateChannelNumPlayers.lobby = s.lobby := by
  unfold updateChannelNumPlayers
  split <;> rfl

@[simp] theorem disconnectUserLobby : (s.disconnectUser u).lobby = s.lobby := by
  simp [disconnectUser]

theorem leaveLobbyLobby :
    (s.leaveLobby u).lobby =
      match s.lobby.getRoomByRoomID (s.lobby.user u).currentRoomID with
      | none => s.lobby
      | some r => s.lobby.removeRoomUser r u := by
  have told : (if (s.lobby.user u).userStatus = .InLobby then s.sendRemoveUserPacketToAll u else s).lobby = s.lobby := by
    split <;> simp
  dsimp only [leaveLobby]
  rw [told]
  cases s.lobby.getRoomByRoomID (s.lobby.user u).currentRoomID with
  | none => exact told
  | some r => exact (removeRoomUserLobby _ r u).trans (by rw [told])

@[simp] theorem removeUserLobby : (s.removeUser u).lobby = s.lobby.removeUser u := by
  cases found : s.lobby.getRoomByRoomID (s.lobby.user u).currentRoomID with
  | none => simp [removeUser,Lobby.removeUser,leaveLobbyLobby,found]
  | some r => simp [removeUser,Lobby.removeUser,leaveLobbyLobby,found]

theorem closeLobby (c : ConnectionRef) (ec : Option ErrorCode) :
    (match ec with
      | none => s.disconnectClient c false
      | some .bad_descriptor => s
      | some .other => s.disconnectClient c true).lobby = s.lobby := by
  split <;> simp

theorem disconnectSomebodyLobby {u : UserRef} {c : ConnectionRef}
    (found : s.getUserByConnection c = some u) (ec : Option ErrorCode) :
    (s.disconnectUserByConnection c ec).lobby = s.lobby.removeUser u := by
  simp only [disconnectUserByConnection,found]
  exact (closeLobby _ c ec).trans (s.removeUserLobby u)

theorem disconnectNobodyLobby {c : ConnectionRef} (absent : s.getUserByConnection c = none)
    (ec : Option ErrorCode) : (s.disconnectUserByConnection c ec).lobby = s.lobby := by
  simp only [disconnectUserByConnection,absent]
  exact closeLobby s c ec

theorem removeUserStore :
    (s.removeUser u).store = (removeUserSession ((s.leaveLobby u).lobby.user u).userID (s.leaveLobby u).store).2 := by
  dsimp only [removeUser,updateChannelNumPlayers]
  split <;> rfl

theorem disconnectSomebodyStore {u : UserRef} {c : ConnectionRef} (found : s.getUserByConnection c = some u)
    (ec : Option ErrorCode) : (s.disconnectUserByConnection c ec).store = (s.removeUser u).store := by
  simp only [disconnectUserByConnection,found]
  split <;> rfl

@[simp] theorem enterLobbyLobby : (s.enterLobby u).lobby = s.lobby.setUserStatus u .InLobby := by
  simp [enterLobby]

-- Either nobody is added, or the new user under the next address.
theorem addUserCases (user : User) :
    ((s.addUser user).2.lobby = s.lobby ∧
        ((s.addUser user).1 ≤ 0 ∨ (s.addUser user).1 = Packet_ReplyType.EXCEED_MAX_CONNECTION.code)) ∨
      (s.addUser user).2.lobby = s.lobby.addUser user ∧ 0 < (s.addUser user).1 ∧ (s.addUser user).1 ≤ 1 := by
  dsimp only [addUser]
  split
  · exact .inl ⟨rfl,.inr rfl⟩
  · split
    · rename_i added
      exact .inr ⟨by simp,added,addUserSessionBounded _ _ _⟩
    · rename_i refused
      exact .inl ⟨rfl,.inl (Int.not_lt.mp refused)⟩

theorem addNewUserCases (c : ConnectionRef) (userID : UInt32) (userName : Bytes) :
    ((s.addNewUser c userID userName).1 = none ∧ (s.addNewUser c userID userName).2.lobby = s.lobby) ∨
      (s.addNewUser c userID userName).1 = some s.lobby.fresh ∧
        (s.addNewUser c userID userName).2.lobby = s.lobby.addUser (.new c userID userName) := by
  dsimp only [addNewUser]
  rcases s.addUserCases (.new c userID userName) with ⟨same,refused⟩ | ⟨added,positive,least⟩
  · split
    · exact .inl ⟨rfl,by rw [sendLobby,same]⟩
    · rename_i more
      rw [if_pos (refused.resolve_left more)]
      exact .inl ⟨rfl,by rw [sendLobby,same]⟩
  · have below : (s.addUser (.new c userID userName)).1 ≠ Packet_ReplyType.EXCEED_MAX_CONNECTION.code := by
      intro same
      rw [same] at least
      exact absurd least (by decide)
    rw [if_neg (Int.not_le.mpr positive),if_neg below]
    exact .inr ⟨rfl,added⟩

end Lobby
end CsoMaster.State
