import CsoMaster.UserManager

/-! The packets that take a connection to a user, and a user to the server list and into the
lobby: Version, Login, TransferLogin, RecvCharacter, RequestTransfer, RequestServerList. -/
namespace CsoMaster.State
open DatabaseManager
open SqlText (ascii)

def LAUNCHER_VERSION : UInt8 := 67
def CLIENT_VERSION : UInt16 := 11
def CLIENT_BUILD_TIMESTAMP : Bytes := ascii "11.06.08"
def CLIENT_NAR_CHECKSUM : UInt32 := 1860010506

def warn (s : State) (c : ConnectionRef) (text : String) : State :=
  s.send c (.serverMessage .WarningMessage (ascii text) [])

def parsePacket_Version (s : State) (c : ConnectionRef) (p : Packet) : State :=
  if (s.connection c).versionReceived || (s.loggedIn c).isSome then s
  else
    let launcherVersion := p.readUInt8
    let clientVersion := launcherVersion.2.readUInt16 .little
    let clientBuildTimestamp := clientVersion.2.readUInt32 .little
    let clientNARChecksum := clientBuildTimestamp.2.readUInt32 .little
    if launcherVersion.1 ≠ LAUNCHER_VERSION || clientVersion.1 ≠ CLIENT_VERSION ||
        s.environment.dateStr clientBuildTimestamp.1 ≠ CLIENT_BUILD_TIMESTAMP ||
        clientNARChecksum.1 ≠ CLIENT_NAR_CHECKSUM then
      s.send c (.reply .INVALID_CLIENT_VERSION)
    else (s.setConnection c { s.connection c with versionReceived := true }).send c .version

section Login

-- `ParsePacket_Login` up to the new user.
def login (s : State) (c : ConnectionRef) (p : Packet) : Option UserRef × State :=
  if !(s.connection c).versionReceived || (s.loggedIn c).isSome then (none,s)
  else
    let userName := p.readString
    let password := userName.2.readString
    let loginResult := s.sql (DatabaseManager.login s.environment.bcrypt_checkpw userName.1 password.1)
    if loginResult.1.reply.code > Packet_ReplyType.LoginSuccess.code then
      (none,loginResult.2.send c (.reply loginResult.1.reply))
    else loginResult.2.addNewUser c loginResult.1.userID userName.1

def parsePacket_Login (s : State) (c : ConnectionRef) (p : Packet) : State :=
  match (s.login c p).1 with
  | none => (s.login c p).2
  | some newUser =>
    let userCharacterExistsResult := (s.login c p).2.isUserCharacterExists newUser
    let s := userCharacterExistsResult.2
    if userCharacterExistsResult.1 < 0 then (s.send c (.reply .SysError)).removeUser newUser
    else if userCharacterExistsResult.1 = 0 then (s.send c (.reply .LoginSuccess)).send c .character
    else s.sendLoginPackets newUser .LoginSuccess

-- `ParsePacket_TransferLogin` up to the new user; it does not ask for the version.
def transferLogin (s : State) (c : ConnectionRef) (p : Packet) : Option UserRef × State :=
  if (s.loggedIn c).isSome then (none,s)
  else
    let result := s.sql (DatabaseManager.transferLogin s.serverConfig.place p.readString.1)
    if result.1.reply.code > Packet_ReplyType.LoginSuccess.code then
      (none,result.2.send c (.reply result.1.reply))
    else result.2.addNewUser c result.1.userID result.1.userName

def parsePacket_TransferLogin (s : State) (c : ConnectionRef) (p : Packet) : State :=
  match (s.transferLogin c p).1 with
  | none => (s.transferLogin c p).2
  | some newUser => (s.transferLogin c p).2.sendLoginPackets newUser .NoReply

-- The three tables filled before the character's own row.
def createUserTables (s : State) (userID : UInt32) : Sql Bool := do
  if !(← createUserBuymenus s.serverConfig.defaultBuyMenus userID) then return false
  if !(← createUserBookmarks userID) then return false
  createUserInventory s.serverConfig.defaultInventory s.environment.now userID

def createCharacter (s : State) (c : ConnectionRef) (u : UserRef) (nickName : Bytes) : State :=
  let userID := (s.lobby.user u).userID
  let tables := s.sql (s.createUserTables userID)
  if !tables.1 then tables.2.send c (.reply .SysError)
  else
    let result := tables.2.sql (createUserCharacter userID nickName)
    if result.1 < 0 then result.2.send c (.reply .SysError)
    else if result.1 = 0 then result.2.send c (.reply .ALREADY_EXIST)
    else result.2.sendLoginPackets u .CreateCharacterSuccess

def parsePacket_RecvCharacter (s : State) (c : ConnectionRef) (p : Packet) : State :=
  match s.getUserByConnection c with
  | none => s
  | some u =>
    if (s.lobby.user u).userStatus ≠ .InLogin then s
    else
      let userCharacterExistsResult := s.isUserCharacterExists u
      let s := userCharacterExistsResult.2
      if userCharacterExistsResult.1 < 0 then s.send c (.reply .SysError)
      else if userCharacterExistsResult.1 ≠ 0 then s
      else
        match QueryText.nickNameReply s.serverConfig.prohibitedNames p.readString.1 with
        | some refused => s.send c (.reply refused.reply)
        | none => s.createCharacter c u p.readString.1

end Login

section Transfer

-- To a channel that is not this one.
def transferTo (s : State) (c : ConnectionRef) (u : UserRef) (destination : Place) (channel : Channel) : State :=
  if !channel.isOnline then s.warn c "SERVER_SELECT_FAIL_SERVER_DOWN"
  else if channel.numPlayers ≥ channel.maxPlayers then s.warn c "SERVER_SELECT_FAIL_LOBBY_FULL"
  else
    let userCharacter := s.getUserCharacter u USERCHARACTER_FLAG_LEVEL
    let s := userCharacter.2
    if userCharacter.1.result ≤ 0 then s.send c (.reply .SysError)
    else if (listed s.serverConfig.toServerConfig destination).any (·.1.type = .Newbie) &&
        userCharacter.1.userCharacter.level ≥ LIMIT_NEWBIE_LEVEL then
      s.warn c "SERVER_SELECT_FAIL_LEVEL_LIMIT"
    else
      match s.environment.bcrypt_gensalt with
      | none => s.send c (.reply .SysError)
      | some authToken =>
        let result := s.sql (addUserTransfer (s.lobby.user u).userID authToken destination s.consoleTime)
        if result.1 < 0 then result.2.send c (.reply .SysError)
        else if result.1 = 0 then result.2.send c (.reply .TRANSFER_ERR)
        else result.2.send c (.transfer destination authToken)

def parsePacket_RequestTransfer (s : State) (c : ConnectionRef) (p : Packet) : State :=
  match s.loggedIn c with
  | none => s
  | some u =>
    let serverID := p.readUInt8
    let channelID := serverID.2.readUInt8
    match s.serverConfig.channel ⟨serverID.1,channelID.1⟩ with
    | none => s.send c (.reply .InvalidServer)
    | some channel =>
      if s.serverConfig.place = ⟨serverID.1,channelID.1⟩ then
        if (s.lobby.user u).userStatus = .InServerList then s.enterLobby u else s
      else s.transferTo c u ⟨serverID.1,channelID.1⟩ channel

def parsePacket_RequestServerList (s : State) (c : ConnectionRef) (_ : Packet) : State :=
  match s.loggedIn c with
  | none => s
  | some u =>
    let s :=
      if (s.lobby.user u).userStatus = .InLobby then
        (s.setUserStatus u .InServerList).sendRemoveUserPacketToAll u
      else s
    if (s.lobby.user u).userStatus ≠ .InServerList then s else s.send c (.serverList s.serverConfig.serverList)

end Transfer

section Lobby
variable (s : State) (c : ConnectionRef)

@[simp] theorem warnLobby (text : String) : (s.warn c text).lobby = s.lobby := by
  simp [warn]

-- A login sends replies at most, or adds its user.
theorem loginCases (p : Packet) :
    ((s.login c p).1 = none ∧ (s.login c p).2.lobby = s.lobby) ∨
      (s.login c p).1 = some s.lobby.fresh ∧
        ∃ userID userName, (s.login c p).2.lobby = s.lobby.addUser (.new c userID userName) := by
  dsimp only [login]
  split
  · exact .inl ⟨rfl,rfl⟩
  · split
    · exact .inl ⟨rfl,by simp⟩
    · rcases addNewUserCases _ c _ _ with refused | ⟨added,lobby⟩
      · exact .inl refused
      · exact .inr ⟨added,_,_,lobby⟩

theorem transferLoginCases (p : Packet) :
    ((s.transferLogin c p).1 = none ∧ (s.transferLogin c p).2.lobby = s.lobby) ∨
      (s.transferLogin c p).1 = some s.lobby.fresh ∧
        ∃ userID userName, (s.transferLogin c p).2.lobby = s.lobby.addUser (.new c userID userName) := by
  dsimp only [transferLogin]
  split
  · exact .inl ⟨rfl,rfl⟩
  · split
    · exact .inl ⟨rfl,by simp⟩
    · rcases addNewUserCases _ c _ _ with refused | ⟨added,lobby⟩
      · exact .inl refused
      · exact .inr ⟨added,_,_,lobby⟩

end Lobby
end CsoMaster.State
