import CsoMaster.RoomRepresentation

/-! What a packet can make its handler do that C++ leaves undefined. Nothing is erased that is not
there; strings and lists are indexed out of bounds by exactly three kinds of packet, each
described by the state it meets. Where the source asks for NULL the handlers here match on
an `Option`, and all of them are total. -/
namespace CsoMaster.State
open DatabaseManager

section Faults

-- The server list has no entry for the own channel.
def Unlisted (s : State) : Prop := listed s.serverConfig.toServerConfig s.serverConfig.place = none

-- A RejoinFail of a host in game that names nobody.
def RejoinsNobody (s : State) (c : ConnectionRef) (p : Packet) : Prop :=
  p.readUInt8.1 = 6 ∧ p.readUInt8.2.readUInt8.1 = 0 ∧
    ∃ u ∈ s.loggedIn c, (s.hostMatch u [.InGame]).isSome = true

-- A search that no room here meets, with a row of the table that names an unlisted channel.
def FindsUnlisted (s : State) (c : ConnectionRef) (p : Packet) : Prop :=
  let gameModeID := p.readUInt8
  let mapID := gameModeID.2.readUInt8
  let levelLimit := mapID.2.readUInt8
  let clanBattle := levelLimit.2.readUInt8
  ∃ u ∈ s.loggedIn c, 0 < (s.getUserCharacter u USERCHARACTER_FLAG_LEVEL).1.result ∧
    (∀ r ∈ s.lobby.rooms, s.foundHere gameModeID.1 mapID.1 levelLimit.1 r = false) ∧
      ∃ rows ∈ (select (searchedRooms s.serverConfig.place gameModeID.1 mapID.1 levelLimit.1 clanBattle.1)
          (s.getUserCharacter u USERCHARACTER_FLAG_LEVEL).2.store).1,
        ∃ row ∈ rows, listed s.serverConfig.toServerConfig row.place = none

def Faults (s : State) (c : ConnectionRef) (packet : Packet) : Prop :=
  match packetID packet.readUInt8.1 with
  | some .Login | some .TransferLogin => s.logsIn c packet = true ∧ s.Unlisted
  | some .Host => s.RejoinsNobody c packet.readUInt8.2
  | some .SearchRoom => s.FindsUnlisted c packet.readUInt8.2
  | _ => False

end Faults

section Login
variable {s t : State} {c : ConnectionRef} {u : UserRef} {r : RoomRef} {p packet : Packet}

theorem Keeps.enterServerList (keeps : Keeps s t) (u : UserRef) : Keeps s (t.enterServerList u) :=
  ((keeps.setLobby _).trans ((Mails.refl _).sendTo u _).toKeeps).trans (quietServerList t u).toKeeps

theorem Keeps.sendLoginPackets (keeps : Keeps s t) (u : UserRef) (reply : Packet_ReplyType) :
    Keeps s (t.sendLoginPackets u reply) := by
  have asked := (Quiet.refl t).getUserCharacter u USERCHARACTER_FLAG_ALL
  dsimp only [State.sendLoginPackets]
  split
  · exact keeps.trans ((asked.sendTo rfl u).disconnectUser u).toKeeps
  · have started := asked.sendUserStart u (t.getUserCharacter u USERCHARACTER_FLAG_ALL).1.userCharacter reply
    split
    · exact (keeps.trans started.toKeeps).enterServerList u
    · exact (keeps.trans started.toKeeps).enterLobby u

theorem recvCharacterKeeps : Keeps s (s.parsePacket_RecvCharacter c p) := by
  dsimp only [parsePacket_RecvCharacter]
  split
  · exact .refl s
  · rename_i u found
    have asked := (Quiet.refl s).isUserCharacterExists u
    split
    · exact .refl s
    · split
      · exact (asked.send rfl c).toKeeps
      · split
        · exact asked.toKeeps
        · split
          · exact (asked.send rfl c).toKeeps
          · have tables := asked.createUserTables (s.isUserCharacterExists u).2
              ((s.isUserCharacterExists u).2.lobby.user u).userID
            have created := tables.sql (createUserCharacterRoomless
              ((s.isUserCharacterExists u).2.lobby.user u).userID p.readString.1)
            dsimp only [createCharacter]
            split
            · exact (tables.send rfl c).toKeeps
            · split
              · exact (created.send rfl c).toKeeps
              · split
                · exact (created.send rfl c).toKeeps
                · exact created.toKeeps.sendLoginPackets u _

theorem requestTransferKeeps : Keeps s (s.parsePacket_RequestTransfer c p) := by
  dsimp only [parsePacket_RequestTransfer]
  split
  · exact .refl s
  · split
    · exact ((Quiet.refl s).send rfl c).toKeeps
    · split
      · split
        · exact (Keeps.refl s).enterLobby _
        · exact .refl s
      · exact ((Quiet.refl s).transferTo _ _ _ _).toKeeps

theorem requestServerListKeeps : Keeps s (s.parsePacket_RequestServerList c p) := by
  dsimp only [parsePacket_RequestServerList]
  split
  · exact .refl s
  · rename_i u _
    have left : Keeps s (if (s.lobby.user u).userStatus = .InLobby then
        (s.setUserStatus u .InServerList).sendRemoveUserPacketToAll u else s) := by
      split
      · exact ((Keeps.refl s).setLobby _).trans ((Mails.refl _).sendRemoveUserPacketToAll u).toKeeps
      · exact .refl s
    have shown (t : State) (left : Keeps s t) : Keeps s
        (if (t.lobby.user u).userStatus ≠ .InServerList then t else t.send c (.serverList t.serverConfig.serverList)) := by
      split
      · exact left
      · exact left.trans ((Mails.refl t).send c _).toKeeps
    exact shown _ left

-- A new user is counted, in the entry of the own channel.
theorem addUserFaulted (sane : s.faulted = false) (user : User) :
    (s.addUser user).2.faulted = true ↔
      (0 < (s.addUser user).1 ∧ (s.addUser user).1 ≠ Packet_ReplyType.EXCEED_MAX_CONNECTION.code) ∧ s.Unlisted := by
  dsimp only [addUser]
  split
  · simp [sane]
  · split
    · rename_i added
      have least : ((s.sql (addUserSession s.serverConfig.toServerConfig user.userID)).1) ≤ 1 :=
        addUserSessionBounded _ _ _
      have below : (s.sql (addUserSession s.serverConfig.toServerConfig user.userID)).1 ≠
          Packet_ReplyType.EXCEED_MAX_CONNECTION.code := by
        intro same
        rw [same] at least
        exact absurd least (by decide)
      have counted (t : State) (config : t.serverConfig = s.serverConfig) (sane : t.faulted = false) :
          t.updateChannelNumPlayers.faulted = true ↔ s.Unlisted := by
        rcases t.updateChannelNumPlayersCases with ⟨here,quiet⟩ | ⟨unlisted,faulted⟩
        · rw [quiet.faulted,sane]
          rw [config] at here
          simpa [Unlisted] using here
        · rw [config] at unlisted
          rw [faulted]
          exact ⟨fun _ => unlisted,fun _ => rfl⟩
      refine (counted _ ?_ ?_).trans ⟨fun unlisted => ⟨⟨added,below⟩,unlisted⟩,And.right⟩
      · rfl
      · exact sane
    · rename_i refused
      exact ⟨fun faulted => absurd (sane.symm.trans faulted) (by decide),fun added => absurd added.1.1 refused⟩

theorem addNewUserFaulted (sane : s.faulted = false) (userID : UInt32) (userName : Bytes) :
    (s.addNewUser c userID userName).2.faulted = true ↔
      (s.addNewUser c userID userName).1.isSome = true ∧ s.Unlisted := by
  have added := addUserFaulted sane (.new c userID userName)
  have replied (t : State) (message : Message) : (t.send c message).faulted = t.faulted :=
    ((Mails.refl t).send c message).faulted
  dsimp only [addNewUser]
  split
  · rename_i refused
    rw [replied,added]
    exact ⟨fun both => absurd both.1.1 (Int.not_lt.mpr refused),fun both => absurd both.1 (by simp)⟩
  · rename_i positive
    split
    · rename_i exceeds
      rw [replied,added]
      exact ⟨fun both => absurd exceeds both.1.2,fun both => absurd both.1 (by simp)⟩
    · rename_i below
      rw [added]
      exact ⟨fun both => ⟨rfl,both.2⟩,fun both => ⟨⟨Int.not_le.mp positive,below⟩,both.2⟩⟩

theorem loginFaulted (sane : s.faulted = false) :
    (s.login c p).2.faulted = true ↔ (s.login c p).1.isSome = true ∧ s.Unlisted := by
  dsimp only [login]
  split
  · simp [sane]
  · split
    · rw [((Mails.refl _).send c _).faulted]
      exact ⟨fun faulted => absurd (sane.symm.trans faulted) (by decide),fun both => absurd both.1 (by simp)⟩
    · exact addNewUserFaulted (s := (s.sql _).2) sane _ _

theorem transferLoginFaulted (sane : s.faulted = false) :
    (s.transferLogin c p).2.faulted = true ↔ (s.transferLogin c p).1.isSome = true ∧ s.Unlisted := by
  dsimp only [transferLogin]
  split
  · simp [sane]
  · split
    · rw [((Mails.refl _).send c _).faulted]
      exact ⟨fun faulted => absurd (sane.symm.trans faulted) (by decide),fun both => absurd both.1 (by simp)⟩
    · exact addNewUserFaulted (s := (s.sql _).2) sane _ _

-- The count changes an entry, and leaves every place listed that was.
theorem updateChannelNumPlayersUnlisted (s : State) : s.updateChannelNumPlayers.Unlisted ↔ s.Unlisted := by
  unfold updateChannelNumPlayers
  cases here : listed s.serverConfig.toServerConfig s.serverConfig.place with
  | none => exact .rfl
  | some found =>
    simp only [Unlisted,here,reduceCtorEq,iff_false]
    unfold listed at here ⊢
    dsimp only
    rw [List.getElem?_modify_eq]
    split at here
    · cases here
    · rename_i server known
      rw [known]
      simp only [Option.map_eq_map,Option.map_some,List.getElem?_modify_eq,Option.map_map,Option.map_eq_none_iff]
      intro none
      rw [none] at here
      cases here

theorem sendUnlisted (s : State) (message : Message) : (s.send c message).Unlisted ↔ s.Unlisted := by
  unfold send
  split <;> exact .rfl

theorem addNewUserUnlisted (s : State) (userID : UInt32) (userName : Bytes) :
    (s.addNewUser c userID userName).2.Unlisted ↔ s.Unlisted := by
  have added : (s.addUser (.new c userID userName)).2.Unlisted ↔ s.Unlisted := by
    dsimp only [addUser]
    split
    · exact .rfl
    · split
      · exact updateChannelNumPlayersUnlisted _
      · exact .rfl
  dsimp only [addNewUser]
  split
  · exact (sendUnlisted _ _).trans added
  · split
    · exact (sendUnlisted _ _).trans added
    · exact added

theorem loginUnlisted (s : State) (p : Packet) : (s.login c p).2.Unlisted ↔ s.Unlisted := by
  dsimp only [login]
  split
  · exact .rfl
  · split
    · exact sendUnlisted _ _
    · exact addNewUserUnlisted _ _ _

theorem dropUserFaulted (s : State) (u : UserRef) :
    (s.dropUser u).faulted = true ↔ s.faulted = true ∨ s.Unlisted := by
  have counted (t : State) : t.updateChannelNumPlayers.faulted = true ↔ t.faulted = true ∨ t.Unlisted := by
    rcases t.updateChannelNumPlayersCases with ⟨here,quiet⟩ | ⟨unlisted,faulted⟩
    · rw [quiet.faulted]
      exact ⟨.inl,fun either => either.resolve_right here⟩
    · rw [faulted]
      exact ⟨fun _ => .inr unlisted,fun _ => rfl⟩
  exact counted _

theorem loginPacketFaulted (sane : s.faulted = false) :
    (s.parsePacket_Login c p).faulted = true ↔ (s.login c p).1.isSome = true ∧ s.Unlisted := by
  have logged := loginFaulted (c := c) (p := p) sane
  rw [← logged]
  unfold parsePacket_Login
  rcases s.loginCases c p with ⟨refused,-⟩ | ⟨added,userID,userName,lobby⟩
  · rw [refused]
  · rw [added] at logged ⊢
    dsimp only
    have asked := (Quiet.refl (s.login c p).2).isUserCharacterExists s.lobby.fresh
    split
    · -- The character could not be asked for: the user is removed again.
      have told : Quiet (s.login c p).2 (((s.login c p).2.isUserCharacterExists s.lobby.fresh).2.send c (.reply .SysError)) :=
        asked.send rfl c
      have user : (s.login c p).2.lobby.user s.lobby.fresh = .new c userID userName := by simp [lobby,Lobby.addUser]
      rw [removeUserEq]
      have outside : (((s.login c p).2.isUserCharacterExists s.lobby.fresh).2.send c (.reply .SysError)).leaveLobby s.lobby.fresh =
          ((s.login c p).2.isUserCharacterExists s.lobby.fresh).2.send c (.reply .SysError) := by
        rw [leaveLobbyOutside (by rw [told.lobby,user]; rfl),farewell,told.lobby,user]
        rfl
      rw [outside,dropUserFaulted,told.faulted]
      have same : (((s.login c p).2.isUserCharacterExists s.lobby.fresh).2.send c (.reply .SysError)).Unlisted ↔ s.Unlisted :=
        (sendUnlisted _ _).trans (loginUnlisted s p)
      rw [same]
      exact ⟨fun either => either.elim id fun unlisted => logged.mpr ⟨rfl,unlisted⟩,.inl⟩
    · split
      · rw [((asked.send rfl c).send rfl c).faulted]
      · rw [(asked.toKeeps.sendLoginPackets s.lobby.fresh .LoginSuccess).faulted]

theorem transferLoginPacketFaulted (sane : s.faulted = false) :
    (s.parsePacket_TransferLogin c p).faulted = true ↔ (s.transferLogin c p).1.isSome = true ∧ s.Unlisted := by
  rw [← transferLoginFaulted (c := c) (p := p) sane]
  unfold parsePacket_TransferLogin
  rcases s.transferLoginCases c p with ⟨refused,-⟩ | ⟨added,-⟩
  · rw [refused]
  · rw [added]
    dsimp only
    rw [((Keeps.refl _).sendLoginPackets s.lobby.fresh .NoReply).faulted]

end Login

section Room
variable {s t : State} {c : ConnectionRef} {u : UserRef} {r : RoomRef} {p packet : Packet}

theorem removeRoomFaulted (s : State) (r : RoomRef) : (s.removeRoom r).faulted = s.faulted := by
  have sent : (s.sendRemoveRoomPacketToAll (s.lobby.room r).roomID).faulted = s.faulted :=
    ((Mails.refl s).sendAll _ _).faulted
  dsimp only [removeRoom]
  exact ((Keeps.refl _).destroyRoom _).faulted.trans sent

theorem takeOutFaulted (s : State) (r : RoomRef) (u : UserRef) : (s.takeOut r u).faulted = s.faulted :=
  ((Mails.refl _).sendUpdateRoomPacketToAll r _).faulted

theorem removeRoomUserFaulted (s : State) (r : RoomRef) (u : UserRef) : (s.removeRoomUser r u).faulted = s.faulted := by
  cases left : (s.lobby.room r).roomUsers.erase u with
  | nil => rw [removeRoomUserLast left,removeRoomFaulted,takeOutFaulted]
  | cons first rest =>
    have seen : (s.seeOff r u).faulted = s.faulted :=
      ((Mails.refl _).tellAll _ r _).faulted.trans (takeOutFaulted s r u)
    rw [removeRoomUserOthers left]
    split
    · exact ((Keeps.refl _).hostLeft r first).faulted.trans seen
    · exact seen

theorem openRoomFaulted (userCharacter : UserCharacter) (settings : RoomSettings) (fastStart : Bool) :
    (s.openRoom u userCharacter settings fastStart).faulted = s.faulted := by
  have approached : (s.approachRoom u).faulted = s.faulted := ((Keeps.refl s).approachRoom u).faulted
  rw [openRoomEq]
  dsimp only
  split
  · exact ((Keeps.refl _).roomRefused u).faulted.trans approached
  · exact ((Keeps.refl _).roomAdded u _ _ _).faulted.trans approached

theorem enterRoomFaulted (userCharacter : UserCharacter) : (s.enterRoom u r userCharacter).faulted = s.faulted :=
  (((((Mails.refl _).sendRemoveUserPacketToAll _).sendUpdateRoomPacketToAll _ _).introduce _ _ _).tell _ _ _
    |>.tell _ _ _).faulted

theorem roomFaulted : (s.parsePacket_Room c p).faulted = s.faulted := by
  unfold parsePacket_Room
  split
  · rfl
  · rename_i u type p _
    split
    · have asked := (quietAdmitCreateRoom s u).faulted
      unfold parsePacket_Room_CreateRoom
      split
      · exact asked
      · exact (openRoomFaulted _ _ _).trans asked
    · have asked := (quietAdmitJoinRoom s u p).faulted
      unfold parsePacket_Room_JoinRoom
      split
      · exact asked
      · exact (enterRoomFaulted _).trans asked
    · unfold parsePacket_Room_LeaveRoom
      split
      · rfl
      · exact ((Mails.refl _).showLobby u).faulted.trans (removeRoomUserFaulted s _ u)
    · exact (quietStartGame s u).faulted
    · dsimp only [parsePacket_Room_UpdateRoomSettings]
      split
      · rfl
      · split
        · rfl
        · exact (((Mails.refl _).sendUpdateRoomPacketToAll _ _).tellAll _ _ _).faulted
    · exact (quietResultConfirm s u).faulted
    · unfold parsePacket_Room_ReturnToRoom
      split
      · rfl
      · rename_i r m _
        exact ((Keeps.refl s).returnUser u r m).faulted
    · rfl

end Room

section Host
variable {s : State} {c : ConnectionRef} {u : UserRef} {p : Packet}

theorem hostKeeps (other : p.readUInt8.1 ≠ 6) : Keeps s (s.parsePacket_Host c p) := by
  dsimp only [parsePacket_Host]
  split
  · exact .refl s
  · split
    · unfold parsePacket_Host_ServerIsActivated
      split
      · exact .refl s
      · split
        · exact .refl s
        · split
          · exact (Keeps.refl s).startMatch _
          · exact .refl s
    · dsimp only [parsePacket_Host_SaveData]
      split
      · exact .refl s
      · split
        · exact .refl s
        · exact (Keeps.refl s).setLobby _
    · unfold parsePacket_Host_SendUserStatus
      split
      · exact .refl s
      · split
        · exact .refl s
        · exact (Keeps.refl s).setLobby _
    · unfold parsePacket_Host_EndGame
      split
      · exact .refl s
      · rename_i r m _
        exact (Keeps.refl s).endGame r m
    · rename_i rejoin
      exact absurd rejoin other
    · dsimp only [parsePacket_Host_SelectTeam]
      split
      · exact .refl s
      · split
        · exact .refl s
        · split
          · exact .refl s
          · split
            · exact .refl s
            · exact (Keeps.refl s).setLobby _
    · exact .refl s

-- Of what a host reports, RejoinFail alone looks at a place that need not be there.
theorem hostFaulted (sane : s.faulted = false) : (s.parsePacket_Host c p).faulted = true ↔ s.RejoinsNobody c p := by
  by_cases rejoin : p.readUInt8.1 = 6
  · cases known : s.loggedIn c with
    | none => simp [parsePacket_Host,RejoinsNobody,known,sane]
    | some u =>
      simp only [parsePacket_Host,RejoinsNobody,known,rejoin,parsePacket_Host_RejoinFail]
      cases hosted : s.hostMatch u [.InGame] with
      | none => simp [sane,hosted]
      | some found =>
        by_cases nobody : p.readUInt8.2.readUInt8.1 = 0
        · simp [nobody,hosted,fault]
        · simp [nobody,sane]
  · rw [(hostKeeps rejoin).faulted,sane]
    exact ⟨fun faulted => absurd faulted (by decide),fun fails => absurd fails.1 rejoin⟩

theorem searchRowsNone (serverConfig : ServerConfig) (level : UInt8) (rows : List RoomRow) (result : SearchRoomResult) :
    searchRows serverConfig level result rows = none ↔ ∃ row ∈ rows, listed serverConfig row.place = none := by
  induction rows generalizing result with
  | nil => simp [searchRows]
  | cons row rows ih =>
    rw [searchRows]
    cases found : listed serverConfig row.place with
    | none => simp [found]
    | some pair =>
      obtain ⟨server,channel⟩ := pair
      simp only [List.mem_cons,exists_eq_or_imp,found,reduceCtorEq,false_or]
      split <;> exact ih _

theorem searchRoomNone (serverConfig : ServerConfig) (level gameModeID mapID levelLimit clanBattle : UInt8) (d : Store) :
    (DatabaseManager.searchRoom serverConfig level gameModeID mapID levelLimit clanBattle d).1 = none ↔
      ∃ rows ∈ (select (searchedRooms serverConfig.place gameModeID mapID levelLimit clanBattle) d).1,
        ∃ row ∈ rows, listed serverConfig row.place = none := by
  rcases asked : select (searchedRooms serverConfig.place gameModeID mapID levelLimit clanBattle) d with ⟨found,store⟩
  cases found with
  | none => simp [DatabaseManager.searchRoom,bind,StateT.bind,asked,pureRuns]
  | some rows => simp [DatabaseManager.searchRoom,bind,StateT.bind,asked,pureRuns,searchRowsNone]

theorem searchFaulted (sane : s.faulted = false) (level gameModeID mapID levelLimit clanBattle : UInt8) :
    (s.searchRoom level gameModeID mapID levelLimit clanBattle).2.faulted = true ↔
      (∀ r ∈ s.lobby.rooms, s.foundHere gameModeID mapID levelLimit r = false) ∧
        ∃ rows ∈ (select (searchedRooms s.serverConfig.place gameModeID mapID levelLimit clanBattle) s.store).1,
          ∃ row ∈ rows, listed s.serverConfig.toServerConfig row.place = none := by
  rw [← searchRoomNone s.serverConfig.toServerConfig level gameModeID mapID levelLimit clanBattle s.store]
  dsimp only [State.searchRoom]
  cases here : s.lobby.rooms.find? (s.foundHere gameModeID mapID levelLimit) with
  | some r =>
    have found : s.foundHere gameModeID mapID levelLimit r = true := List.find?_some here
    have mem := List.mem_of_find?_eq_some here
    refine ⟨fun faulted => absurd (sane.symm.trans faulted) (by decide),fun none => ?_⟩
    exact absurd (found.symm.trans (none.1 r mem)) (by decide)
  | none =>
    have absent : ∀ r ∈ s.lobby.rooms, s.foundHere gameModeID mapID levelLimit r = false := by simpa using here
    dsimp only
    split
    · rename_i found result
      refine ⟨fun faulted => absurd (sane.symm.trans faulted) (by decide),fun none => ?_⟩
      exact absurd (result.symm.trans none.2) (by simp)
    · rename_i none
      exact ⟨fun _ => ⟨absent,none⟩,fun _ => rfl⟩

theorem searchRoomFaulted (sane : s.faulted = false) :
    (s.parsePacket_SearchRoom c p).faulted = true ↔ s.FindsUnlisted c p := by
  have replied (t : State) (message : Message) : (t.send c message).faulted = t.faulted :=
    ((Mails.refl t).send c message).faulted
  cases known : s.loggedIn c with
  | none => simp [parsePacket_SearchRoom,FindsUnlisted,known,sane]
  | some u =>
    have asked : (s.getUserCharacter u USERCHARACTER_FLAG_LEVEL).2.faulted = false := sane
    simp only [parsePacket_SearchRoom,FindsUnlisted,known]
    split
    · rename_i missing
      rw [replied,asked]
      constructor
      · exact fun faulted => absurd faulted (by decide)
      · rintro ⟨v,same,positive,-⟩
        cases same
        exact absurd positive (Int.not_lt.mpr missing)
    · rename_i found
      rw [replied]
      refine (searchFaulted asked _ _ _ _ _).trans ⟨fun searched => ⟨u,rfl,Int.not_le.mp found,searched⟩,?_⟩
      rintro ⟨v,same,-,searched⟩
      cases same
      exact searched

theorem packetFaulted {packet : Packet} (sane : s.faulted = false) :
    (s.parsePacket c packet).faulted = true ↔ s.Faults c packet := by
  have never {t : State} (same : t.faulted = s.faulted) : t.faulted = true ↔ False := by
    rw [same,sane]
    decide
  unfold parsePacket Faults
  dsimp only
  cases kind : packetID packet.readUInt8.1 with
  | none => exact never rfl
  | some id =>
    cases id with
    | Version => exact never (quietVersion s c _).faulted
    | RecvCharacter => exact never recvCharacterKeeps.faulted
    | Login => simpa [logsIn,kind] using loginPacketFaulted (c := c) (p := packet.readUInt8.2) sane
    | TransferLogin => simpa [logsIn,kind] using transferLoginPacketFaulted (c := c) (p := packet.readUInt8.2) sane
    | RequestTransfer => exact never requestTransferKeeps.faulted
    | RequestServerList => exact never requestServerListKeeps.faulted
    | Room => exact never roomFaulted
    | UMsg => exact never (quietUMsg s c _).faulted
    | Host => exact hostFaulted sane
    | Udp => exact never (quietUdp s c _).faulted
    | Shop => exact never (quietShop s c _).faulted
    | Option => exact never (quietOption s c _).faulted
    | Favorite => exact never (quietFavorite s c _).faulted
    | SearchRoom => exact searchRoomFaulted sane
    | RecvCrypt => exact never rfl
    | ClientCheck => exact never rfl
    | UpdateInfo => exact never rfl
    | Item => exact never rfl
    | RecvReport => exact never rfl

end Host

section Run
open Runs

-- No index outside its list and no `end()` erased.
structure Unharmed (s : State) : Prop where
  indexed : s.faulted = false
  erased : s.erasedEnd = false

theorem handlersUnharmed (serverConfig : ChannelConfig) (database : Database) (environment : Environment) (time : Nat)
    (events : List Event) :
    Always step
      (fun s => s.faulted = false → ∀ c < s.accepted, ∀ packet environment,
        Unharmed (s.step ⟨.packet c packet,environment⟩) ↔ ¬ (s.enter environment).Faults c packet)
      (start serverConfig database environment time) events := by
  have begun : (start serverConfig database environment time).Standing := ⟨Lobby.startSound,Lobby.startPlaced,rfl⟩
  have standing : Always step Standing (start serverConfig database environment time) events :=
    alwaysOfEach (fun _ e standing _ => stepStanding standing e) begun (eachTrue _ events)
  refine alwaysMono (fun s standing sane c known packet environment => ?_) standing
  have parsed : s.step ⟨.packet c packet,environment⟩ = (s.enter environment).parsePacket c packet := if_pos known
  have harmed : ((s.enter environment).parsePacket c packet).faulted = true ↔ (s.enter environment).Faults c packet :=
    packetFaulted sane
  rw [← harmed,← parsed,Bool.not_eq_true]
  exact ⟨Unharmed.indexed,fun indexed => ⟨indexed,(stepStanding standing _).erased⟩⟩

-- The host of a match says that nobody failed to rejoin.
theorem rejoinFailOfNobody :
    ¬ ∀ serverConfig database environment time events,
      Always step (fun s => ∀ c < s.accepted, ∀ packet environment, Unharmed (s.step ⟨.packet c packet,environment⟩))
        (start serverConfig database environment time) events := by
  intro always
  have last := alwaysLast (always sampleChannel sampleTables sampleEnvironment 0 playing)
  have unharmed := last 0 (by decide +kernel) (received [68,6,0]) sampleEnvironment
  exact absurd unharmed.indexed (by decide +kernel)

end Run
end CsoMaster.State
