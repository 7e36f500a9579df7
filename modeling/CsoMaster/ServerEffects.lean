import CsoMaster.LobbyMembership
import CsoMaster.QuietSteps
import Mathlib.Logic.Relation

/-! Every event is a chain of effects. An effect is quiet, or it is one operation on the lobby
together with all that the server sends and writes because of it; `may` is what is known of
the operation where it is done. -/
namespace CsoMaster.State
open DatabaseManager

section Effects

-- What UpdateRoomSettings, ReturnToRoom and EndGame do past their guards, and the clock jump.
def changeRoomSettings (s : State) (r : RoomRef) (roomSettings : RoomSettings) : State :=
  let s := (s.setLobby (s.lobby.setRoom r ((s.lobby.room r).updateRoomSettings roomSettings))).updateRoom r
  let s := s.sendUpdateRoomPacketToAll r (roomListFlag roomSettings).toUInt16
  s.tellAll (s.lobby.room r).roomUsers r (.replyUpdateRoomSettings roomSettings)

def returnUser (s : State) (u : UserRef) (r : RoomRef) (m : GameMatch) : State :=
  let m := m.removeGameMatchUser u
  let s := s.setLobby (s.lobby.setRoom r { s.lobby.room r with gameMatch := some m })
  let s := if u = (s.lobby.room r).roomHostUser then s.hostReturned r m else s
  s.setUserStatus u .InRoom

def endGame (s : State) (r : RoomRef) (m : GameMatch) : State :=
  (m.participants.foldl
    (fun s v => ((s.setUserStatus v .InRoom).sendTo v .hostEndSession).sendTo v .gameResult) s).endMatch r

def recoverRooms (s : State) : State :=
  s.lobby.rooms.foldl recoverRoom (s.exec (DatabaseManager.removeAllRooms s.serverConfig.place))

theorem Keeps.returnUser {s t : State} (keeps : Keeps s t) (u : UserRef) (r : RoomRef) (m : GameMatch) :
    Keeps s (t.returnUser u r m) := by
  have left := keeps.setLobby (t.lobby.setRoom r { t.lobby.room r with gameMatch := some (m.removeGameMatchUser u) })
  dsimp only [State.returnUser]
  split
  · exact (left.hostReturned r _).setLobby _
  · exact left.setLobby _

theorem Keeps.endGame {s t : State} (keeps : Keeps s t) (r : RoomRef) (m : GameMatch) : Keeps s (t.endGame r m) := by
  refine Keeps.endMatch (keeps.fold (fun s v => ?_) _) r
  exact ((Keeps.refl s).setLobby _).trans (((Mails.refl _).sendTo v _).sendTo v _).toKeeps

-- CreateRoom until the room's row is written, and after that.
def approachRoom (s : State) (u : UserRef) : State :=
  (s.setLobby (s.lobby.setUser u ((s.lobby.user u).enterRoom s.lobby.getFreeRoomID))).sendRemoveUserPacketToAll u

def opened (s : State) (u : UserRef) (settings : RoomSettings) : Room :=
  { (Room.new s.lobby.getFreeRoomID u).addRoomUser u with roomSettings := settings }

def roomRefused (s : State) (u : UserRef) : State :=
  (((s.setLobby (s.lobby.backToLobby u)).sendAddUserPacketToAll u).sendTo u (.reply .SysError)).destroyRoom [u]

def roomAdded (s : State) (u : UserRef) (newRoom : Room) (userCharacter : UserCharacter) (fastStart : Bool) : State :=
  let r := s.lobby.fresh
  let s := (s.setLobby (s.lobby.addRoom newRoom)).sendAddRoomPacketToAll r ROOMLIST_FLAG_ALL
  let userID := (s.lobby.user u).userID
  let s := s.tell u r (.replyCreateAndJoin userID newRoom.roomID newRoom.roomSettings [s.gameUser u userCharacter])
  if fastStart then s.sendTo u (.hostStart userID) else s

theorem openRoomEq (s : State) (u : UserRef) (userCharacter : UserCharacter) (settings : RoomSettings) (fastStart : Bool) :
    s.openRoom u userCharacter settings fastStart =
      let added := (s.approachRoom u).sql (addRoom ((s.approachRoom u).roomRow (s.opened u settings)))
      if added.1 ≤ 0 then added.2.roomRefused u
      else added.2.roomAdded u (s.opened u settings) userCharacter fastStart := rfl

@[simp] theorem approachRoomLobby (s : State) (u : UserRef) :
    (s.approachRoom u).lobby = s.lobby.setUser u ((s.lobby.user u).enterRoom s.lobby.getFreeRoomID) := by
  simp [approachRoom]

@[simp] theorem roomAddedLobby (s : State) (u : UserRef) (newRoom : Room) (userCharacter : UserCharacter) (fastStart : Bool) :
    (s.roomAdded u newRoom userCharacter fastStart).lobby = s.lobby.addRoom newRoom := by
  dsimp only [roomAdded]
  split <;> simp

theorem Keeps.approachRoom {s t : State} (keeps : Keeps s t) (u : UserRef) : Keeps s (t.approachRoom u) :=
  (keeps.setLobby _).trans ((Mails.refl _).sendRemoveUserPacketToAll u).toKeeps

theorem Keeps.roomRefused {s t : State} (keeps : Keeps s t) (u : UserRef) : Keeps s (t.roomRefused u) :=
  ((keeps.setLobby _).trans (((Mails.refl _).sendAddUserPacketToAll u).sendTo u _).toKeeps).destroyRoom [u]

theorem Keeps.roomAdded {s t : State} (keeps : Keeps s t) (u : UserRef) (newRoom : Room)
    (userCharacter : UserCharacter) (fastStart : Bool) : Keeps s (t.roomAdded u newRoom userCharacter fastStart) := by
  have registered := keeps.setLobby (t.lobby.addRoom newRoom)
  dsimp only [State.roomAdded]
  split
  · exact registered.trans ((((Mails.refl _).sendAll _ _).tell u _ _).sendTo u _).toKeeps
  · exact registered.trans (((Mails.refl _).sendAll _ _).tell u _ _).toKeeps

-- `RemoveRoom` before the room is destroyed.
def closeRoom (s : State) (r : RoomRef) : State :=
  let roomID := (s.lobby.room r).roomID
  let s := s.sendRemoveRoomPacketToAll roomID
  let s := s.exec (DatabaseManager.removeRoom s.serverConfig.place roomID)
  let s := s.erasing (r ∈ s.lobby.rooms)
  s.setLobby { s.lobby with rooms := s.lobby.rooms.erase r }

theorem removeRoomCloses (s : State) (r : RoomRef) : s.removeRoom r = (s.closeRoom r).destroyRoom (s.lobby.room r).roomUsers := by
  simp [removeRoom,closeRoom]

-- `RemoveRoomUser` until it looks who is left.
def takeOut (s : State) (r : RoomRef) (u : UserRef) : State :=
  let s := s.erasing (u ∈ (s.lobby.room r).roomUsers)
  let s := s.setLobby (s.lobby.setRoom r ((s.lobby.room r).withoutUser u))
  let s := s.sendUpdateRoomPacketToAll r ROOMLIST_FLAG_CURRENTPLAYERS
  s.setLobby (s.lobby.backToLobby u)

@[simp] theorem takeOutLobby (s : State) (r : RoomRef) (u : UserRef) :
    (s.takeOut r u).lobby = (s.lobby.setRoom r ((s.lobby.room r).withoutUser u)).backToLobby u := by
  simp [takeOut]

theorem takeOutUsers (s : State) (r : RoomRef) (u : UserRef) :
    ((s.takeOut r u).lobby.room r).roomUsers = (s.lobby.room r).roomUsers.erase u := by
  simp [Lobby.backToLobby,Lobby.setUser,roomSet,Room.withoutUser]

theorem takeOutUserID (s : State) (r : RoomRef) (u : UserRef) :
    ((s.takeOut r u).lobby.user u).userID = (s.lobby.user u).userID := by
  simp [Lobby.backToLobby,Lobby.setUser,Lobby.setRoom,User.backToLobby]

theorem takeOutHost (s : State) (r : RoomRef) (u : UserRef) :
    ((s.takeOut r u).lobby.room r).roomHostUser = (s.lobby.room r).roomHostUser := by
  simp [Lobby.backToLobby,Lobby.setUser,roomSet,Room.withoutUser]

theorem removeRoomUserLast {s : State} {r : RoomRef} {u : UserRef} (last : (s.lobby.room r).roomUsers.erase u = []) :
    s.removeRoomUser r u = (s.takeOut r u).removeRoom r := by
  have users := (s.takeOutUsers r u).trans last
  rw [takeOut] at users
  dsimp only [removeRoomUser]
  rw [users]
  rfl

-- What is left of the room is told that the user is gone.
def seeOff (s : State) (r : RoomRef) (u : UserRef) : State :=
  let s := s.takeOut r u
  (s.updateRoom r).tellAll (s.lobby.room r).roomUsers r (.userLeave (s.lobby.user u).userID)

@[simp] theorem seeOffLobby (s : State) (r : RoomRef) (u : UserRef) : (s.seeOff r u).lobby = (s.takeOut r u).lobby := by
  simp [seeOff]

theorem removeRoomUserOthers {s : State} {r : RoomRef} {u first : UserRef} {rest : List UserRef}
    (left : (s.lobby.room r).roomUsers.erase u = first :: rest) :
    s.removeRoomUser r u =
      if (s.lobby.room r).roomHostUser = u then (s.seeOff r u).hostLeft r first else s.seeOff r u := by
  have users := (s.takeOutUsers r u).trans left
  have host : ((s.seeOff r u).lobby.room r).roomHostUser = (s.lobby.room r).roomHostUser := by
    rw [seeOffLobby,takeOutHost]
  have seen : ((s.takeOut r u).updateRoom r).tellAll (first :: rest) r (.userLeave ((s.takeOut r u).lobby.user u).userID) =
      s.seeOff r u := by
    dsimp only [seeOff]
    rw [users]
  have whole : s.removeRoomUser r u =
      if ((s.seeOff r u).lobby.room r).roomHostUser = u then (s.seeOff r u).hostLeft r first else s.seeOff r u := by
    rw [← seen]
    rw [takeOut] at users
    dsimp only [removeRoomUser]
    rw [users]
    rfl
  simp only [whole,host]

-- `RemoveUser` before and after the room.
def farewell (s : State) (u : UserRef) : State :=
  if (s.lobby.user u).userStatus = .InLobby then s.sendRemoveUserPacketToAll u else s

def dropUser (s : State) (u : UserRef) : State :=
  let s := s.exec (removeUserSession (s.lobby.user u).userID)
  let s := s.erasing (u ∈ s.lobby.users)
  let s := s.setLobby { s.lobby with users := s.lobby.users.erase u }
  s.updateChannelNumPlayers

theorem removeUserEq (s : State) (u : UserRef) : s.removeUser u = (s.leaveLobby u).dropUser u := rfl

theorem Mails.farewell {s t : State} (mails : Mails s t) (u : UserRef) : Mails s (t.farewell u) := by
  unfold State.farewell
  split
  · exact mails.sendRemoveUserPacketToAll u
  · exact mails

@[simp] theorem farewellLobby (s : State) (u : UserRef) : (s.farewell u).lobby = s.lobby :=
  ((Mails.refl s).farewell u).lobby

@[simp] theorem dropUserLobby (s : State) (u : UserRef) :
    (s.dropUser u).lobby = { s.lobby with users := s.lobby.users.erase u } :=
  updateChannelNumPlayersLobby _

theorem leaveLobbyOutside {s : State} {u : UserRef}
    (outside : s.lobby.getRoomByRoomID (s.lobby.user u).currentRoomID = none) : s.leaveLobby u = s.farewell u := by
  have same := s.farewellLobby u
  unfold farewell at same
  dsimp only [leaveLobby]
  rw [same,outside]
  rfl

theorem leaveLobbyInside {s : State} {u : UserRef} {r : RoomRef}
    (found : s.lobby.getRoomByRoomID (s.lobby.user u).currentRoomID = some r) :
    s.leaveLobby u = (s.farewell u).removeRoomUser r u := by
  have same := s.farewellLobby u
  unfold farewell at same
  dsimp only [leaveLobby]
  rw [same,found]
  rfl

inductive Effect (may : Lobby → Lobby.Op → Prop) (s : State) : State → Prop where
  | quiet {t : State} (quiet : Quiet s t) : Effect may s t
  | fault : Effect may s s.fault
  | connect (ipAddress : UInt32) : Effect may s (s.connect ipAddress)
  | showServers (c : ConnectionRef) : Effect may s (s.send c (.serverList s.serverConfig.serverList))
  | addUser {c : ConnectionRef} {userID : UInt32} {userName : Bytes} (known : c < s.accepted)
      (op : may s.lobby (.addUser c userID userName)) (seat : s.lobby.users.length < s.serverConfig.maxPlayers) :
      Effect may s (s.setLobby (s.lobby.addUser (.new c userID userName)))
  | removeUser {u : UserRef} (op : may s.lobby (.removeUser u)) : Effect may s (s.removeUser u)
  | setUserNetwork {u : UserRef} {userNetwork : UserNetwork} (op : may s.lobby (.setUserNetwork u userNetwork)) :
      Effect may s (s.setUserNetwork u userNetwork)
  | showServerList {u : UserRef} (op : may s.lobby (.enterServerList u))
      (new : (s.lobby.user u).userStatus = .InLogin) : Effect may s (s.setUserStatus u .InServerList)
  | leaveLobby {u : UserRef} (op : may s.lobby (.enterServerList u))
      (present : (s.lobby.user u).userStatus = .InLobby) :
      Effect may s ((s.setUserStatus u .InServerList).sendRemoveUserPacketToAll u)
  | enterLobby {u : UserRef} (op : may s.lobby (.enterLobby u)) : Effect may s (s.enterLobby u)
  | openRoom {u : UserRef} {userCharacter : UserCharacter} {settings : RoomSettings} {fastStart : Bool}
      (op : ∀ added, may s.lobby (.createRoom u settings added)) :
      Effect may s (s.openRoom u userCharacter settings fastStart)
  | enterRoom {u : UserRef} {r : RoomRef} {userCharacter : UserCharacter} (op : may s.lobby (.joinRoom u r)) :
      Effect may s (s.enterRoom u r userCharacter)
  | leaveRoom {u : UserRef} {r : RoomRef} (op : may s.lobby (.leaveRoom u r)) :
      Effect may s ((s.removeRoomUser r u).showLobby u)
  | changeRoomSettings {u : UserRef} {r : RoomRef} {settings : RoomSettings}
      (op : may s.lobby (.updateRoomSettings u r settings)) : Effect may s (s.changeRoomSettings r settings)
  | returnUser {u : UserRef} {r : RoomRef} {m : GameMatch} (op : may s.lobby (.returnToRoom u r m)) :
      Effect may s (s.returnUser u r m)
  | startMatch {u : UserRef} {r : RoomRef} (op : may s.lobby (.serverIsActivated u r)) : Effect may s (s.startMatch r)
  | saveData {u : UserRef} {r : RoomRef} {m : GameMatch} {saveData : Bytes}
      (op : may s.lobby (.saveData u r m saveData)) (small : saveData.length ≤ SAVEDATA_MAX_SIZE) :
      Effect may s (s.setLobby (s.lobby.setRoom r { s.lobby.room r with gameMatch := some { m with saveData := saveData } }))
  | sendUserStatus {u target : UserRef} {r : RoomRef} {m : GameMatch} (op : may s.lobby (.sendUserStatus u r m target)) :
      Effect may s (s.setLobby (s.lobby.sendUserStatus r m target))
  | endGame {u : UserRef} {r : RoomRef} {m : GameMatch} (op : may s.lobby (.endGame u r m)) :
      Effect may s (s.endGame r m)
  | selectTeam {u target : UserRef} {r : RoomRef} {m : GameMatch} {team : Team}
      (op : may s.lobby (.selectTeam u r m target team)) :
      Effect may s (s.setLobby (s.lobby.setRoom r { s.lobby.room r with gameMatch := some (m.setTeam target team) }))
  | recoverRooms (op : ∀ l r, r ∈ l.rooms → may l (.removeRoom r)) : Effect may s s.recoverRooms
  | removeAllRooms (op : may s.lobby .removeAllRooms) :
      Effect may s (s.removeAllRooms.exec (DatabaseManager.removeAllRooms s.serverConfig.place))

abbrev Effects (may : Lobby → Lobby.Op → Prop) : State → State → Prop := Relation.ReflTransGen (Effect may)

-- The operations of a handler that does one of `P` at most, in the state it begins with.
def Does (P : Lobby.Op → Prop) (s : State) : State → Prop :=
  Effects (fun l op => l = s.lobby ∧ l.Admitted op ∧ P op) s

theorem Effect.mono {may also : Lobby → Lobby.Op → Prop} {s t : State}
    (weaker : ∀ l op, (∀ c userID userName, op = .addUser c userID userName → c < s.accepted) → may l op → also l op)
    (effect : Effect may s t) : Effect also s t := by
  cases effect with
  | quiet quiet => exact .quiet quiet
  | fault => exact .fault
  | connect ipAddress => exact .connect ipAddress
  | showServers c => exact .showServers c
  | addUser known op seat =>
    refine .addUser known (weaker _ _ (fun c userID userName same => ?_) op) seat
    cases same
    exact known
  | removeUser op => exact .removeUser (weaker _ _ nofun op)
  | setUserNetwork op => exact .setUserNetwork (weaker _ _ nofun op)
  | showServerList op new => exact .showServerList (weaker _ _ nofun op) new
  | leaveLobby op present => exact .leaveLobby (weaker _ _ nofun op) present
  | enterLobby op => exact .enterLobby (weaker _ _ nofun op)
  | openRoom op => exact .openRoom fun added => weaker _ _ nofun (op added)
  | enterRoom op => exact .enterRoom (weaker _ _ nofun op)
  | leaveRoom op => exact .leaveRoom (weaker _ _ nofun op)
  | changeRoomSettings op => exact .changeRoomSettings (weaker _ _ nofun op)
  | returnUser op => exact .returnUser (weaker _ _ nofun op)
  | startMatch op => exact .startMatch (weaker _ _ nofun op)
  | saveData op small => exact .saveData (weaker _ _ nofun op) small
  | sendUserStatus op => exact .sendUserStatus (weaker _ _ nofun op)
  | endGame op => exact .endGame (weaker _ _ nofun op)
  | selectTeam op => exact .selectTeam (weaker _ _ nofun op)
  | recoverRooms op => exact .recoverRooms fun l r mem => weaker _ _ nofun (op l r mem)
  | removeAllRooms op => exact .removeAllRooms (weaker _ _ nofun op)

theorem Effects.mono {may also : Lobby → Lobby.Op → Prop} (weaker : ∀ l op, may l op → also l op) {s t : State}
    (effects : Effects may s t) : Effects also s t :=
  Relation.ReflTransGen.mono (fun _ _ effect => effect.mono fun l op _ => weaker l op) _ _ effects

-- The invariant rule for the effects of one event.
theorem Effects.invariant {may : Lobby → Lobby.Op → Prop} {P : State → Prop}
    (keeps : ∀ s t, P s → Effect may s t → P t) {s t : State} (effects : Effects may s t) (start : P s) : P t := by
  induction effects with
  | refl => exact start
  | tail _ effect ih => exact keeps _ _ ih effect

theorem quietEffects {may : Lobby → Lobby.Op → Prop} {s t : State} (quiet : Quiet s t) : Effects may s t :=
  .single (.quiet quiet)

theorem updateChannelNumPlayersEffects {may : Lobby → Lobby.Op → Prop} (s : State) :
    Effects may s s.updateChannelNumPlayers := by
  rcases s.updateChannelNumPlayersCases with ⟨-,quiet⟩ | ⟨-,faulted⟩
  · exact quietEffects quiet
  · rw [faulted]
    exact .single .fault

end Effects

section Walk
variable {s t : State} {c : ConnectionRef} {u : UserRef} {r : RoomRef} {p : Packet} {P : Lobby.Op → Prop}

theorem loggedInSome (found : s.loggedIn c = some u) :
    u ∈ s.lobby.users ∧ (s.lobby.user u).userStatus ≠ .InLogin := by
  obtain ⟨known,past⟩ := Option.filter_eq_some_iff.mp found
  exact ⟨(Lobby.getUserByConnectionSome known).1,by simpa [isUserLoggedIn] using past⟩

-- The room of a user that is in a room or in game.
theorem currentRoomOccupies {statuses : List UserStatus} (mem : u ∈ s.lobby.users)
    (found : s.currentRoom u statuses = some r) (inside : ∀ status ∈ statuses, status = .InRoom ∨ status = .InGame) :
    s.lobby.Occupies u r := by
  obtain ⟨status,room⟩ := currentRoomSome found
  exact ⟨mem,inside _ status,room⟩

theorem Does.mono {Q : Lobby.Op → Prop} (does : Does P s t) (weaker : ∀ op, P op → Q op) : Does Q s t :=
  Effects.mono (fun _ op done => ⟨done.1,done.2.1,weaker op done.2.2⟩) does

theorem doesNothing (quiet : Quiet s t) : Does P s t := quietEffects quiet

-- One effect, with sends and queries before it.
theorem doesOnce {m : State} (quiet : Quiet s m)
    (effect : Effect (fun l op => l = s.lobby ∧ l.Admitted op ∧ P op) m t) : Does P s t :=
  (quietEffects quiet).tail effect

section Login

theorem addedFresh {l l' : Lobby} {user : User} (lobby : l' = l.addUser user) :
    l.fresh ∈ l'.users ∧ l'.user l.fresh = user := by
  simp [lobby,Lobby.addUser]

-- What a login does with its new user.
def Newcomer (l : Lobby) (u : UserRef) (l' : Lobby) : Lobby.Op → Prop
  | .removeUser v | .enterServerList v | .enterLobby v =>
    l' = l ∧ v = u ∧ (l.user v).userStatus = .InLogin ∧ (l.user v).currentRoomID = 0
  | _ => False

-- What follows the server list.
theorem quietServerList (s : State) (u : UserRef) :
    Quiet ((s.setUserStatus u .InServerList).sendTo u (.serverList s.serverConfig.serverList)) (s.enterServerList u) := by
  dsimp only [enterServerList]
  exact .unless (.sql (.unless (.sql (.sendTo (.sql (.unless (.sql (.refl _) (getUserConfigRoomless _)) _ rfl u)
    (getUserQuickStartRoomless _)) rfl u) (getUserBuyMenusRoomless _)) _ rfl u) (getUserBookMarksRoomless _)) _ rfl u

-- `t` has sent and queried since `s`.
theorem sendLoginPacketsEffects {l : Lobby} {may : Lobby → Lobby.Op → Prop} (lobby : s.lobby = l)
    (new : (l.user u).userStatus = .InLogin) (next : ∀ op, op = .enterServerList u ∨ op = .enterLobby u → may l op)
    (reply : Packet_ReplyType) : Effects may s (s.sendLoginPackets u reply) := by
  have asked := (Quiet.refl s).getUserCharacter u USERCHARACTER_FLAG_ALL
  dsimp only [sendLoginPackets]
  split
  · exact quietEffects ((asked.sendTo rfl u).disconnectUser u)
  · have started := asked.sendUserStart u (s.getUserCharacter u USERCHARACTER_FLAG_ALL).1.userCharacter reply
    have here := started.lobby.trans lobby
    refine (quietEffects started).trans ?_
    split
    · refine .trans (.single (.showServerList ?_ ?_)) (.trans (.single (.showServers _)) (quietEffects (quietServerList _ u)))
      · rw [here]
        exact next _ (.inl rfl)
      · rw [here]
        exact new
    · refine .single (.enterLobby ?_)
      rw [here]
      exact next _ (.inr rfl)

theorem addUserEffects {may : Lobby → Lobby.Op → Prop} {userID : UInt32} {userName : Bytes} (known : c < s.accepted)
    (op : (s.addUser (.new c userID userName)).2.lobby = s.lobby.addUser (.new c userID userName) →
      may s.lobby (.addUser c userID userName)) :
    Effects may s (s.addUser (.new c userID userName)).2 := by
  have asked := (Quiet.refl s).sql (addUserSessionRoomless userID s.serverConfig.toServerConfig)
  dsimp only [addUser] at op ⊢
  split at op
  · rename_i full
    rw [if_pos full]
  · rename_i room
    rw [if_neg room]
    split at op
    · rename_i added
      rw [if_pos added]
      refine (quietEffects asked).trans (.trans (.single (.addUser known (op (by simp)) (Nat.lt_of_not_ge room))) ?_)
      exact (quietEffects ((Quiet.refl _).exec (removeUserTransferRoomless _))).trans (updateChannelNumPlayersEffects _)
    · rename_i refused
      rw [if_neg refused]
      exact quietEffects asked

theorem addNewUserEffects {may : Lobby → Lobby.Op → Prop} {userID : UInt32} {userName : Bytes}
    (known : c < s.accepted)
    (op : (s.addNewUser c userID userName).2.lobby = s.lobby.addUser (.new c userID userName) →
      may s.lobby (.addUser c userID userName)) :
    Effects may s (s.addNewUser c userID userName).2 := by
  have added : Effects may s (s.addUser (.new c userID userName)).2 := by
    refine addUserEffects known fun lobby => op ?_
    dsimp only [addNewUser]
    split
    · rw [sendLobby,lobby]
    · split
      · rw [sendLobby,lobby]
      · exact lobby
  dsimp only [addNewUser]
  split
  · exact added.trans (quietEffects ((Quiet.refl _).send rfl c))
  · split
    · exact added.trans (quietEffects ((Quiet.refl _).send rfl c))
    · exact added

theorem loginEffects {may : Lobby → Lobby.Op → Prop} (known : c < s.accepted)
    (op : ∀ userID userName, (s.login c p).2.lobby = s.lobby.addUser (.new c userID userName) →
      may s.lobby (.addUser c userID userName))
    (next : ∀ op, s.lobby.fresh ∈ (s.login c p).2.lobby.users →
      Newcomer (s.login c p).2.lobby s.lobby.fresh (s.login c p).2.lobby op → may (s.login c p).2.lobby op) :
    Effects may s (s.parsePacket_Login c p) := by
  have joined : Effects may s (s.login c p).2 := by
    dsimp only [login] at op ⊢
    split
    · exact quietEffects (.refl s)
    · rename_i asks
      rw [if_neg asks] at op
      have asked := (Quiet.refl s).sql
        (loginRoomless s.environment.bcrypt_checkpw p.readString.1 p.readString.2.readString.1)
      split
      · exact quietEffects (asked.send rfl c)
      · rename_i accepted
        rw [if_neg accepted] at op
        exact (quietEffects asked).trans (addNewUserEffects known (op _ _))
  unfold parsePacket_Login
  rcases s.loginCases c p with ⟨refused,same⟩ | ⟨added,userID,userName,lobby⟩
  · rw [refused]
    exact joined
  · obtain ⟨mem,new⟩ := addedFresh lobby
    rw [added]
    dsimp only
    have asked := (Quiet.refl (s.login c p).2).isUserCharacterExists s.lobby.fresh
    have status : ((s.login c p).2.lobby.user s.lobby.fresh).userStatus = .InLogin := by rw [new]; rfl
    have outside : ((s.login c p).2.lobby.user s.lobby.fresh).currentRoomID = 0 := by rw [new]; rfl
    split
    · refine joined.trans ((quietEffects (asked.send rfl c)).trans (.single (.removeUser ?_)))
      rw [sendLobby,asked.lobby]
      exact next _ mem ⟨rfl,rfl,status,outside⟩
    · split
      · exact joined.trans (quietEffects ((asked.send rfl c).send rfl c))
      · refine joined.trans ((quietEffects asked).trans (sendLoginPacketsEffects asked.lobby status (fun op which => ?_) _))
        rcases which with rfl | rfl <;> exact next _ mem ⟨rfl,rfl,status,outside⟩

theorem transferLoginEffects {may : Lobby → Lobby.Op → Prop} (known : c < s.accepted)
    (op : ∀ userID userName, (s.transferLogin c p).2.lobby = s.lobby.addUser (.new c userID userName) →
      may s.lobby (.addUser c userID userName))
    (next : ∀ op, s.lobby.fresh ∈ (s.transferLogin c p).2.lobby.users →
      Newcomer (s.transferLogin c p).2.lobby s.lobby.fresh (s.transferLogin c p).2.lobby op →
        may (s.transferLogin c p).2.lobby op) :
    Effects may s (s.parsePacket_TransferLogin c p) := by
  have joined : Effects may s (s.transferLogin c p).2 := by
    dsimp only [transferLogin] at op ⊢
    split
    · exact quietEffects (.refl s)
    · rename_i asks
      rw [if_neg asks] at op
      have asked := (Quiet.refl s).sql (transferLoginRoomless s.serverConfig.place p.readString.1)
      split
      · exact quietEffects (asked.send rfl c)
      · rename_i accepted
        rw [if_neg accepted] at op
        exact (quietEffects asked).trans (addNewUserEffects known (op _ _))
  unfold parsePacket_TransferLogin
  rcases s.transferLoginCases c p with ⟨refused,same⟩ | ⟨added,userID,userName,lobby⟩
  · rw [refused]
    exact joined
  · obtain ⟨mem,new⟩ := addedFresh lobby
    have status : ((s.transferLogin c p).2.lobby.user s.lobby.fresh).userStatus = .InLogin := by rw [new]; rfl
    have outside : ((s.transferLogin c p).2.lobby.user s.lobby.fresh).currentRoomID = 0 := by rw [new]; rfl
    rw [added]
    refine joined.trans (sendLoginPacketsEffects rfl status (fun op which => ?_) _)
    rcases which with rfl | rfl <;> exact next _ mem ⟨rfl,rfl,status,outside⟩

-- What a user does with its status once it has its character.
def Enters (s : State) : Lobby.Op → Prop
  | .enterServerList u | .enterLobby u => (s.lobby.user u).userStatus = .InLogin
  | _ => False

theorem recvCharacterEffects : Does s.Enters s (s.parsePacket_RecvCharacter c p) := by
  dsimp only [parsePacket_RecvCharacter]
  split
  · exact doesNothing (.refl s)
  · rename_i u found
    have mem := (Lobby.getUserByConnectionSome found).1
    have asked := (Quiet.refl s).isUserCharacterExists u
    split
    · exact doesNothing (.refl s)
    · rename_i new
      have status : (s.lobby.user u).userStatus = .InLogin := not_not.mp new
      split
      · exact doesNothing (asked.send rfl c)
      · split
        · exact doesNothing asked
        · split
          · exact doesNothing (asked.send rfl c)
          · dsimp only [createCharacter]
            have tables := asked.createUserTables (s.isUserCharacterExists u).2
              ((s.isUserCharacterExists u).2.lobby.user u).userID
            split
            · exact doesNothing (tables.send rfl c)
            · have created := tables.sql (createUserCharacterRoomless
                ((s.isUserCharacterExists u).2.lobby.user u).userID p.readString.1)
              split
              · exact doesNothing (created.send rfl c)
              · split
                · exact doesNothing (created.send rfl c)
                · refine (quietEffects created).trans (sendLoginPacketsEffects created.lobby status (fun op which => ?_) _)
                  rcases which with rfl | rfl <;> exact ⟨rfl,⟨mem,.inl status⟩,status⟩

theorem requestTransferEffects : Does (fun op => ∃ u, op = .enterLobby u) s (s.parsePacket_RequestTransfer c p) := by
  dsimp only [parsePacket_RequestTransfer]
  split
  · exact doesNothing (.refl s)
  · rename_i u found
    split
    · exact doesNothing ((Quiet.refl s).send rfl c)
    · split
      · split
        · rename_i status
          exact .single (.enterLobby ⟨rfl,⟨(loggedInSome found).1,.inr status⟩,u,rfl⟩)
        · exact doesNothing (.refl s)
      · exact doesNothing ((Quiet.refl s).transferTo _ _ _ _)

theorem requestServerListEffects :
    Does (fun op => ∃ u, s.loggedIn c = some u ∧ op = .enterServerList u) s (s.parsePacket_RequestServerList c p) := by
  dsimp only [parsePacket_RequestServerList]
  split
  · exact doesNothing (.refl s)
  · rename_i u found
    have left : Does (fun op => ∃ u, s.loggedIn c = some u ∧ op = .enterServerList u) s
        (if (s.lobby.user u).userStatus = .InLobby then (s.setUserStatus u .InServerList).sendRemoveUserPacketToAll u
          else s) := by
      split
      · rename_i status
        exact .single (.leaveLobby ⟨rfl,⟨(loggedInSome found).1,.inr status⟩,u,found,rfl⟩ status)
      · exact doesNothing (.refl s)
    have shown (t : State) (left : Does (fun op => ∃ u, s.loggedIn c = some u ∧ op = .enterServerList u) s t) :
        Does (fun op => ∃ u, s.loggedIn c = some u ∧ op = .enterServerList u) s
          (if (t.lobby.user u).userStatus ≠ .InServerList then t else t.send c (.serverList t.serverConfig.serverList)) := by
      split
      · exact left
      · exact left.tail (.showServers c)
    exact shown _ left

end Login

section Room

theorem createRoomEffects (mem : u ∈ s.lobby.users) (past : (s.lobby.user u).userStatus ≠ .InLogin) :
    Does (fun op => (s.admitCreateRoom u).1.isSome ∧ ∃ added,
      op = .createRoom u (readCreateRoom (Room.new s.lobby.getFreeRoomID u).roomSettings p).1.1 added) s
        (s.parsePacket_Room_CreateRoom u p) := by
  have asked := quietAdmitCreateRoom s u
  unfold parsePacket_Room_CreateRoom
  split
  · exact doesNothing asked
  · rename_i userCharacter admitted
    have open' : (s.admitCreateRoom u).1.isSome = true := by rw [admitted]; rfl
    obtain ⟨outside,given⟩ := s.admitCreateRoomSome u open'
    refine doesOnce asked (.openRoom fun added => ?_)
    rw [asked.lobby]
    exact ⟨rfl,⟨mem,past,outside,given,readCreateRoomState p _⟩,open',_,rfl⟩

theorem joinRoomEffects (mem : u ∈ s.lobby.users) (past : (s.lobby.user u).userStatus ≠ .InLogin) :
    Does (fun op => ∃ r, (s.admitJoinRoom u p).1.map Prod.fst = some r ∧ op = .joinRoom u r) s
      (s.parsePacket_Room_JoinRoom u p) := by
  have asked := quietAdmitJoinRoom s u p
  unfold parsePacket_Room_JoinRoom
  split
  · exact doesNothing asked
  · rename_i r userCharacter admitted
    obtain ⟨outside,registered,seats,absent⟩ := admitJoinRoomSome admitted
    refine doesOnce asked (.enterRoom (u := u) (r := r) ?_)
    rw [asked.lobby]
    exact ⟨rfl,⟨mem,past,outside,registered,seats,absent⟩,r,by rw [admitted]; rfl,rfl⟩

theorem leaveRoomEffects (mem : u ∈ s.lobby.users) :
    Does (fun op => ∃ r, s.currentRoom u [.InRoom,.InGame] = some r ∧ op = .leaveRoom u r) s
      (s.parsePacket_Room_LeaveRoom u) := by
  unfold parsePacket_Room_LeaveRoom
  split
  · exact doesNothing (.refl s)
  · rename_i r found
    exact .single (.leaveRoom ⟨rfl,currentRoomOccupies mem found (by simp),r,found,rfl⟩)

theorem updateRoomSettingsEffects (mem : u ∈ s.lobby.users) :
    Does (fun op => ∃ r, op = .updateRoomSettings u r (readRoomSettings p).1) s
      (s.parsePacket_Room_UpdateRoomSettings u p) := by
  dsimp only [parsePacket_Room_UpdateRoomSettings]
  split
  · exact doesNothing (.refl s)
  · rename_i r found
    split
    · exact doesNothing (.refl s)
    · rename_i host
      refine .single (Effect.changeRoomSettings (s := s) (u := u) ⟨rfl,⟨currentRoomOccupies mem found (by simp),?_,not_not.mp host⟩,r,rfl⟩)
      simpa using (currentRoomSome found).1

theorem returnToRoomEffects (mem : u ∈ s.lobby.users) :
    Does (fun op => ∃ r m, s.returning u = some (r,m) ∧ op = .returnToRoom u r m) s
      (s.parsePacket_Room_ReturnToRoom u) := by
  unfold parsePacket_Room_ReturnToRoom
  split
  · exact doesNothing (.refl s)
  · rename_i r m found
    obtain ⟨current,playing⟩ := returningSome found
    exact .single (Effect.returnUser (s := s)
      ⟨rfl,⟨currentRoomOccupies mem current (by simp),playing⟩,r,m,found,rfl⟩)

end Room

section Host

theorem hostMatchPlays {m : GameMatch} {statuses : List UserStatus} (mem : u ∈ s.lobby.users)
    (found : s.hostMatch u statuses = some (r,m)) (inside : ∀ status ∈ statuses, status = .InRoom ∨ status = .InGame) :
    s.lobby.HostPlays u r m ∧ (s.lobby.user u).userStatus ∈ statuses := by
  obtain ⟨current,playing,host⟩ := hostMatchSome found
  exact ⟨⟨⟨currentRoomOccupies mem current inside,playing⟩,host⟩,(currentRoomSome current).1⟩

-- What the host of a room reports.
def Reports (u : UserRef) : Lobby.Op → Prop
  | .serverIsActivated v _ | .saveData v _ _ _ | .sendUserStatus v _ _ _ | .endGame v _ _ | .selectTeam v _ _ _ _ => v = u
  | _ => False

theorem serverIsActivatedEffects (mem : u ∈ s.lobby.users) :
    Does (fun op => ∃ r, op = .serverIsActivated u r) s (s.parsePacket_Host_ServerIsActivated u) := by
  unfold parsePacket_Host_ServerIsActivated
  split
  · exact doesNothing (.refl s)
  · rename_i r found
    split
    · exact doesNothing (.refl s)
    · rename_i host
      split
      · rename_i idle
        exact .single (.startMatch ⟨rfl,⟨currentRoomOccupies mem found (by simp),not_not.mp host,idle⟩,r,rfl⟩)
      · exact doesNothing (.refl s)

theorem saveDataEffects (mem : u ∈ s.lobby.users) :
    Does (fun op => ∃ r m saveData, op = .saveData u r m saveData) s (s.parsePacket_Host_SaveData u p) := by
  dsimp only [parsePacket_Host_SaveData]
  split
  · exact doesNothing (.refl s)
  · rename_i r m found
    obtain ⟨plays,status⟩ := hostMatchPlays mem found (by simp)
    split
    · exact doesNothing (.refl s)
    · rename_i sized
      have small : (p.readUInt16 .little).1.toNat ≤ SAVEDATA_MAX_SIZE := Nat.le_of_not_gt (not_or.mp sized).2
      have given : (p.readUInt16 .little).1.toNat ≠ 0 := by
        intro zero
        exact sized (.inl (UInt16.toNat_inj.mp zero))
      exact .single (.saveData ⟨rfl,⟨plays,by simpa using status,Packet.readArrayUInt8Some _ given⟩,r,m,_,rfl⟩
        (by rwa [Packet.readArrayUInt8Length]))

theorem sendUserStatusEffects (mem : u ∈ s.lobby.users) :
    Does (fun op => ∃ r m target, op = .sendUserStatus u r m target) s (s.parsePacket_Host_SendUserStatus u p) := by
  unfold parsePacket_Host_SendUserStatus
  split
  · exact doesNothing (.refl s)
  · rename_i r m found
    split
    · exact doesNothing (.refl s)
    · rename_i target reported
      obtain ⟨there,inside,here,absent⟩ := reportedSome reported
      exact .single (.sendUserStatus
        ⟨rfl,⟨(hostMatchPlays mem found (by simp)).1,⟨there,inside,here⟩,absent⟩,r,m,target,rfl⟩)

theorem endGameEffects (mem : u ∈ s.lobby.users) : Does (fun op => ∃ r m, op = .endGame u r m) s (s.parsePacket_Host_EndGame u) := by
  unfold parsePacket_Host_EndGame
  split
  · exact doesNothing (.refl s)
  · rename_i r m found
    obtain ⟨plays,status⟩ := hostMatchPlays mem found (by simp)
    exact .single (Effect.endGame (s := s) (u := u) ⟨rfl,⟨plays,by simpa using status⟩,r,m,rfl⟩)

theorem rejoinFailEffects : Does (fun _ => False) s (s.parsePacket_Host_RejoinFail u p) := by
  unfold parsePacket_Host_RejoinFail
  split
  · exact doesNothing (.refl s)
  · split
    · exact .single .fault
    · exact doesNothing (.refl s)

theorem selectTeamEffects (mem : u ∈ s.lobby.users) :
    Does (fun op => ∃ r m target team, op = .selectTeam u r m target team) s (s.parsePacket_Host_SelectTeam u p) := by
  dsimp only [parsePacket_Host_SelectTeam]
  split
  · exact doesNothing (.refl s)
  · rename_i r m found
    obtain ⟨plays,status⟩ := hostMatchPlays mem found (by simp)
    split
    · exact doesNothing (.refl s)
    · split
      · exact doesNothing (.refl s)
      · rename_i target _ seated
        split
        · exact doesNothing (.refl s)
        · rename_i team _
          exact .single (.selectTeam
            ⟨rfl,⟨plays,by simpa using status,Option.isSome_iff_ne_none.mpr seated⟩,r,m,target,team,rfl⟩)

theorem hostEffects (known : s.loggedIn c = some u) : Does (Reports u) s (s.parsePacket_Host c p) := by
  have mem := (loggedInSome known).1
  simp only [parsePacket_Host,known]
  split
  · exact (serverIsActivatedEffects mem).mono (by rintro _ ⟨r,rfl⟩; rfl)
  · exact (saveDataEffects mem).mono (by rintro _ ⟨r,m,saveData,rfl⟩; rfl)
  · exact (sendUserStatusEffects mem).mono (by rintro _ ⟨r,m,target,rfl⟩; rfl)
  · exact (endGameEffects mem).mono (by rintro _ ⟨r,m,rfl⟩; rfl)
  · exact rejoinFailEffects.mono (by simp)
  · exact (selectTeamEffects mem).mono (by rintro _ ⟨r,m,target,team,rfl⟩; rfl)
  · exact doesNothing (.refl s)

end Host
end Walk

section Cause

-- The room request of a packet, where it is one and its user is logged in.
def roomRequest (s : State) (c : ConnectionRef) (packet : Packet) : Option (UserRef × UInt8 × Packet) :=
  if packetID packet.readUInt8.1 = some .Room then s.roomPacket c packet.readUInt8.2 else none

-- The user ID a packet logs in.
def addedUserID (s : State) (c : ConnectionRef) (packet : Packet) : Option UInt32 :=
  let p := packet.readUInt8.2
  match packetID packet.readUInt8.1 with
  | some .Login => (s.login c p).1.map fun u => ((s.login c p).2.lobby.user u).userID
  | some .TransferLogin => (s.transferLogin c p).1.map fun u => ((s.transferLogin c p).2.lobby.user u).userID
  | _ => none

def Asks (s : State) (action : Action) (u : UserRef) (type : UInt8) (p : Packet) : Prop :=
  ∃ c packet, action = .packet c packet ∧ s.roomRequest c packet = some (u,type,p)

-- The event that is behind an operation, as far as it began in `s`.
def Caused (s : State) (action : Action) (l : Lobby) : Lobby.Op → Prop
  | .addUser c userID _ => l = s.lobby ∧ ∃ packet, action = .packet c packet ∧ s.addedUserID c packet = some userID
  | .removeUser u =>
    (l = s.lobby ∧ ∃ c ec, action = .disconnect c ec ∧ s.getUserByConnection c = some u) ∨
      (∃ c packet, action = .packet c packet) ∧ (l.user u).currentRoomID = 0 ∧ (l.user u).userStatus = .InLogin
  | .setUserNetwork _ _ => ∃ ipAddress port buffer, action = .clientDatagram ipAddress port buffer
  | .enterServerList u =>
    (∃ c packet, action = .packet c packet) ∧ (l.user u).userStatus = .InLogin ∨
      l = s.lobby ∧ ∃ c packet, action = .packet c packet ∧ packetID packet.readUInt8.1 = some .RequestServerList ∧
        s.loggedIn c = some u
  | .enterLobby _ => ∃ c packet, action = .packet c packet
  | .createRoom u settings _ =>
    l = s.lobby ∧ (∃ p, s.Asks action u 0 p ∧ settings = (readCreateRoom (Room.new s.lobby.getFreeRoomID u).roomSettings p).1.1) ∧
      (s.admitCreateRoom u).1.isSome
  | .joinRoom u r => l = s.lobby ∧ ∃ p, s.Asks action u 1 p ∧ (s.admitJoinRoom u p).1.map Prod.fst = some r
  | .leaveRoom u r => l = s.lobby ∧ (∃ p, s.Asks action u 2 p) ∧ s.currentRoom u [.InRoom,.InGame] = some r
  | .updateRoomSettings u _ settings => l = s.lobby ∧ ∃ p, s.Asks action u 5 p ∧ settings = (readRoomSettings p).1
  | .returnToRoom u r m => l = s.lobby ∧ (∃ p, s.Asks action u 11 p) ∧ s.returning u = some (r,m)
  | .serverIsActivated u _ | .saveData u _ _ _ | .sendUserStatus u _ _ _ | .endGame u _ _ | .selectTeam u _ _ _ _ =>
    l = s.lobby ∧ ∃ c packet, action = .packet c packet ∧ packetID packet.readUInt8.1 = some .Host ∧
      s.loggedIn c = some u
  | .removeRoom _ => ∃ now, action = .secondTick now
  | .removeAllRooms => action = .removeAllRooms ∨ action = .disconnectAllClients

end Cause

section Event
variable {s t : State} {c : ConnectionRef} {u : UserRef} {p packet : Packet} {P : Lobby.Op → Prop} {action : Action}

-- Admitted, and done because of the event.
def Done (s : State) (action : Action) (l : Lobby) (op : Lobby.Op) : Prop := l.Admitted op ∧ s.Caused action l op

theorem Does.done (does : Does P s t) (caused : ∀ op, P op → s.Caused action s.lobby op) :
    Effects (s.Done action) s t := by
  refine Effects.mono (fun l op done => ?_) does
  obtain ⟨rfl,admitted,performed⟩ := done
  exact ⟨admitted,caused op performed⟩

theorem roomPacketSome {type : UInt8} {q : Packet} (found : s.roomPacket c p = some (u,type,q)) :
    s.loggedIn c = some u ∧ p.readUInt8.1 = type ∧ p.readUInt8.2 = q := by
  obtain ⟨v,known,same⟩ := Option.map_eq_some_iff.mp found
  cases same
  exact ⟨known,rfl,rfl⟩

theorem roomEffects (kind : packetID packet.readUInt8.1 = some .Room) :
    Effects (s.Done (.packet c packet)) s (s.parsePacket_Room c packet.readUInt8.2) := by
  unfold parsePacket_Room
  split
  · exact quietEffects (.refl s)
  · rename_i u type p found
    obtain ⟨mem,past⟩ := loggedInSome (roomPacketSome found).1
    have asks : s.Asks (.packet c packet) u type p := ⟨c,packet,rfl,by rw [roomRequest,if_pos kind,found]⟩
    split
    · refine (createRoomEffects mem past).done fun op done => ?_
      obtain ⟨admitted,added,rfl⟩ := done
      exact ⟨rfl,⟨p,asks,rfl⟩,admitted⟩
    · refine (joinRoomEffects mem past).done fun op done => ?_
      obtain ⟨r,admitted,rfl⟩ := done
      exact ⟨rfl,p,asks,admitted⟩
    · refine (leaveRoomEffects mem).done fun op done => ?_
      obtain ⟨r,current,rfl⟩ := done
      exact ⟨rfl,⟨p,asks⟩,current⟩
    · exact quietEffects (quietStartGame s u)
    · refine (updateRoomSettingsEffects mem).done fun op done => ?_
      obtain ⟨r,rfl⟩ := done
      exact ⟨rfl,p,asks,rfl⟩
    · exact quietEffects (quietResultConfirm s u)
    · refine (returnToRoomEffects mem).done fun op done => ?_
      obtain ⟨r,m,found,rfl⟩ := done
      exact ⟨rfl,⟨p,asks⟩,found⟩
    · exact quietEffects (.refl s)

theorem newcomerDone {l : Lobby} (mem : u ∈ l.users) {l' : Lobby} {op : Lobby.Op} (next : Newcomer l u l' op) :
    s.Done (.packet c packet) l' op := by
  cases op with
  | removeUser v =>
    obtain ⟨rfl,rfl,status,outside⟩ := next
    exact ⟨mem,.inr ⟨⟨c,packet,rfl⟩,outside,status⟩⟩
  | enterServerList v =>
    obtain ⟨rfl,rfl,status,-⟩ := next
    exact ⟨⟨mem,.inl status⟩,.inl ⟨⟨c,packet,rfl⟩,status⟩⟩
  | enterLobby v =>
    obtain ⟨rfl,rfl,status,-⟩ := next
    exact ⟨⟨mem,.inl status⟩,c,packet,rfl⟩
  | _ => exact next.elim

theorem addedUserIDSome {result : Option UserRef × State} {userID : UInt32} {userName : Bytes}
    (cases : (result.1 = none ∧ result.2.lobby = s.lobby) ∨
      result.1 = some s.lobby.fresh ∧ ∃ userID userName, result.2.lobby = s.lobby.addUser (.new c userID userName))
    (lobby : result.2.lobby = s.lobby.addUser (.new c userID userName)) :
    result.1.map (fun u => (result.2.lobby.user u).userID) = some userID := by
  rcases cases with ⟨refused,same⟩ | ⟨added,-⟩
  · have more := congrArg (fun l => l.users.length) (same.symm.trans lobby)
    simp [Lobby.addUser] at more
  · rw [added,Option.map_some,(addedFresh lobby).2]
    rfl

theorem loginDone (known : c < s.accepted) (kind : packetID packet.readUInt8.1 = some .Login) :
    Effects (s.Done (.packet c packet)) s (s.parsePacket_Login c packet.readUInt8.2) := by
  refine loginEffects known (fun userID userName lobby => ⟨trivial,rfl,packet,rfl,?_⟩) fun op mem next => newcomerDone mem next
  have added := addedUserIDSome (s.loginCases c packet.readUInt8.2) lobby
  simpa [addedUserID,kind] using added

theorem transferLoginDone (known : c < s.accepted) (kind : packetID packet.readUInt8.1 = some .TransferLogin) :
    Effects (s.Done (.packet c packet)) s (s.parsePacket_TransferLogin c packet.readUInt8.2) := by
  refine transferLoginEffects known (fun userID userName lobby => ⟨trivial,rfl,packet,rfl,?_⟩)
    fun op mem next => newcomerDone mem next
  have added := addedUserIDSome (s.transferLoginCases c packet.readUInt8.2) lobby
  simpa [addedUserID,kind] using added

theorem recvCharacterDone : Effects (s.Done (.packet c packet)) s (s.parsePacket_RecvCharacter c packet.readUInt8.2) := by
  refine recvCharacterEffects.done fun op enters => ?_
  cases op with
  | enterServerList v => exact .inl ⟨⟨c,packet,rfl⟩,enters⟩
  | enterLobby v => exact ⟨c,packet,rfl⟩
  | _ => exact enters.elim

theorem requestTransferDone : Effects (s.Done (.packet c packet)) s (s.parsePacket_RequestTransfer c packet.readUInt8.2) := by
  refine requestTransferEffects.done fun op enters => ?_
  obtain ⟨u,rfl⟩ := enters
  exact ⟨c,packet,rfl⟩

theorem requestServerListDone (kind : packetID packet.readUInt8.1 = some .RequestServerList) :
    Effects (s.Done (.packet c packet)) s (s.parsePacket_RequestServerList c packet.readUInt8.2) := by
  refine requestServerListEffects.done fun op leaves => ?_
  obtain ⟨u,known,rfl⟩ := leaves
  exact .inr ⟨rfl,c,packet,rfl,kind,known⟩

theorem hostDone (kind : packetID packet.readUInt8.1 = some .Host) :
    Effects (s.Done (.packet c packet)) s (s.parsePacket_Host c packet.readUInt8.2) := by
  cases known : s.loggedIn c with
  | none => exact quietEffects (by rw [parsePacket_Host,known]; exact .refl s)
  | some u =>
    refine (hostEffects known).done fun op reports => ?_
    cases op with
    | serverIsActivated v r => exact ⟨rfl,c,packet,rfl,kind,reports ▸ known⟩
    | saveData v r m saveData => exact ⟨rfl,c,packet,rfl,kind,reports ▸ known⟩
    | sendUserStatus v r m target => exact ⟨rfl,c,packet,rfl,kind,reports ▸ known⟩
    | endGame v r m => exact ⟨rfl,c,packet,rfl,kind,reports ▸ known⟩
    | selectTeam v r m target team => exact ⟨rfl,c,packet,rfl,kind,reports ▸ known⟩
    | _ => exact reports.elim

theorem searchRoomEffects {may : Lobby → Lobby.Op → Prop} : Effects may s (s.parsePacket_SearchRoom c p) := by
  have searched (t : State) (level gameModeID mapID levelLimit clanBattle : UInt8) :
      Effects may t (t.searchRoom level gameModeID mapID levelLimit clanBattle).2 := by
    have asked := (Quiet.refl t).sql
      (searchRoomRoomless t.serverConfig.toServerConfig level gameModeID mapID levelLimit clanBattle)
    dsimp only [State.searchRoom]
    split
    · exact quietEffects (.refl t)
    · split
      · exact quietEffects asked
      · exact (quietEffects asked).tail .fault
  dsimp only [parsePacket_SearchRoom]
  split
  · exact quietEffects (.refl s)
  · rename_i u _
    have asked := (Quiet.refl s).getUserCharacter u USERCHARACTER_FLAG_LEVEL
    split
    · exact quietEffects (asked.send rfl c)
    · exact (quietEffects asked).trans ((searched _ _ _ _ _ _).trans (quietEffects ((Quiet.refl _).send rfl c)))

theorem packetEffects (known : c < s.accepted) : Effects (s.Done (.packet c packet)) s (s.parsePacket c packet) := by
  unfold parsePacket
  dsimp only
  cases kind : packetID packet.readUInt8.1 with
  | none => exact quietEffects (.refl s)
  | some id =>
    cases id with
    | Version => exact quietEffects (quietVersion s c _)
    | RecvCharacter => exact recvCharacterDone
    | Login => exact loginDone known kind
    | TransferLogin => exact transferLoginDone known kind
    | RequestTransfer => exact requestTransferDone
    | RequestServerList => exact requestServerListDone kind
    | Room => exact roomEffects kind
    | UMsg => exact quietEffects (quietUMsg s c _)
    | Host => exact hostDone kind
    | Udp => exact quietEffects (quietUdp s c _)
    | Shop => exact quietEffects (quietShop s c _)
    | Option => exact quietEffects (quietOption s c _)
    | Favorite => exact quietEffects (quietFavorite s c _)
    | SearchRoom => exact searchRoomEffects
    | RecvCrypt => exact quietEffects (.refl s)
    | ClientCheck => exact quietEffects (.refl s)
    | UpdateInfo => exact quietEffects (.refl s)
    | Item => exact quietEffects (.refl s)
    | RecvReport => exact quietEffects (.refl s)

theorem disconnectEffects (ec : Option ErrorCode) :
    Effects (s.Done (.disconnect c ec)) s (s.disconnectUserByConnection c ec) := by
  have closed (t : State) (eraseConnection : Bool) : Quiet t (t.disconnectClient c eraseConnection) :=
    (Quiet.refl t).disconnectClient c eraseConnection
  cases found : s.getUserByConnection c with
  | none =>
    simp only [disconnectUserByConnection,found]
    refine quietEffects ?_
    split
    · exact closed s false
    · exact .refl s
    · exact closed s true
  | some u =>
    simp only [disconnectUserByConnection,found]
    have removed : Effects (s.Done (.disconnect c ec)) s (s.removeUser u) :=
      .single (.removeUser ⟨(Lobby.getUserByConnectionSome found).1,.inl ⟨rfl,c,ec,rfl,found⟩⟩)
    refine removed.trans (quietEffects ?_)
    split
    · exact closed _ false
    · exact .refl _
    · exact closed _ true

theorem clientDatagramEffects (ipAddress : UInt32) (port : UInt16) (buffer : Bytes) :
    Effects (s.Done (.clientDatagram ipAddress port buffer)) s (s.handleIncomingClientPacket ipAddress port buffer) := by
  have sets {u : UserRef} (mem : u ∈ s.lobby.users) (userNetwork : UserNetwork) :
      Effects (s.Done (.clientDatagram ipAddress port buffer)) s (s.setUserNetwork u userNetwork) :=
    .single (.setUserNetwork ⟨mem,ipAddress,port,buffer,rfl⟩)
  dsimp only [handleIncomingClientPacket]
  split
  · exact quietEffects (.refl s)
  · split
    · exact quietEffects (.refl s)
    · rename_i u found
      have mem : u ∈ s.lobby.users := Lobby.getUserByUserIDSome (Option.filter_eq_some_iff.mp found).1
      split
      · exact quietEffects (.refl s)
      · split
        · dsimp only [receiveSocketInfo]
          split
          · exact quietEffects (.refl s)
          · exact sets mem _
        · dsimp only [receiveHeartbeat]
          split
          · exact sets mem _
          · split
            · exact sets mem _
            · exact quietEffects (.refl s)
        · exact quietEffects (.refl s)

theorem secondTickEffects (now : Nat) : Effects (s.Done (.secondTick now)) s (s.onSecondTick now) := by
  have recovered (t : State) : Effects (s.Done (.secondTick now)) t
      (if t.currentTime + UDP_SERVER_HEARTBEAT_TIMEOUT < t.consoleTime then t.recover else t) := by
    split
    · have forgets : Quiet t (t.setServerList (SessionCluster.forgetOthers t.serverConfig.place t.serverConfig.serverList)) :=
        (Quiet.refl t).setServerList (mapChannels (fun _ => List.length_map _) _)
      have known := forgets.fold (fun s u => (Quiet.refl s).recoverUser u) t.lobby.users
      exact (quietEffects known).trans (.single (.recoverRooms fun l r mem => ⟨mem,now,rfl⟩))
    · exact quietEffects (.refl t)
  have ticked : Effects (s.Done (.secondTick now)) { s with consoleTime := now } { s with consoleTime := now }.udpSecondTick := by
    dsimp only [udpSecondTick]
    refine (recovered _).trans (quietEffects (Quiet.setServerList (Quiet.fold ?_ (fun s u => (Quiet.refl s).dropSilent u) _)
      (mapChannels (fun _ => List.length_map _) _)))
    exact (Quiet.refl _).same rfl rfl rfl rfl rfl rfl rfl rfl rfl rfl
  have begun : Quiet s { s with consoleTime := now } := (Quiet.refl s).same rfl rfl rfl rfl rfl rfl rfl rfl rfl rfl
  refine (quietEffects begun).trans (ticked.trans (quietEffects ?_))
  unfold onSecondTick
  generalize { s with consoleTime := now }.udpSecondTick = t
  dsimp only
  split
  · exact ((Quiet.refl _).exec (removeOldUserTransfersRoomless _ _)).same rfl rfl rfl rfl rfl rfl rfl rfl rfl rfl
  · exact (Quiet.refl _).same rfl rfl rfl rfl rfl rfl rfl rfl rfl rfl

theorem removeAllRoomsEffects (console : action = .removeAllRooms ∨ action = .disconnectAllClients) :
    Effects (s.Done action) s s.commandRemoveAllRooms := by
  unfold commandRemoveAllRooms
  split
  · exact quietEffects (.refl s)
  · exact .single (.removeAllRooms ⟨trivial,console⟩)

theorem actEffects : Effects (s.Done action) s (s.act action) := by
  cases action with
  | connect ipAddress => exact .single (.connect ipAddress)
  | packet c packet =>
    simp only [act]
    split
    · rename_i known
      exact packetEffects known
    · exact quietEffects (.refl s)
  | disconnect c ec =>
    simp only [act]
    split
    · exact disconnectEffects ec
    · exact quietEffects (.refl s)
  | clientDatagram ipAddress port buffer => exact clientDatagramEffects ipAddress port buffer
  | serverDatagram buffer => exact quietEffects (quietServerDatagram s buffer)
  | secondTick now => exact secondTickEffects now
  | removeAllRooms => exact removeAllRoomsEffects (.inl rfl)
  | disconnectAllClients =>
    dsimp only [act,commandDisconnectAllClients]
    split
    · exact quietEffects (.refl s)
    · refine (removeAllRoomsEffects (.inr rfl)).trans (quietEffects (Quiet.disconnectAllUsers (Quiet.fold (.refl _) (fun t c => ?_) _)))
      split
      · exact (Quiet.refl t).disconnectClient c true
      · exact .refl t

theorem stepEffects (s : State) (e : Event) :
    Effects ((s.enter e.environment).Done e.action) (s.enter e.environment) (s.step e) :=
  actEffects

end Event

section Lobby
open Runs
variable {may : Lobby → Lobby.Op → Prop} {s t : State}

-- The rooms that could not be written again are registered until their turn.
theorem recoverRoomsReaches (op : ∀ l r, r ∈ l.rooms → may l (.removeRoom r)) (rooms : List RoomRef)
    (registered : rooms.Subperm s.lobby.rooms) : Reaches Lobby.apply may s.lobby (rooms.foldl recoverRoom s).lobby := by
  induction rooms generalizing s with
  | nil => exact reachesRefl s.lobby
  | cons r rooms ih =>
    rw [List.foldl_cons]
    rcases s.recoverRoomLobby r with same | removed
    · rw [← same]
      exact ih (same ▸ (List.sublist_cons_self r rooms).subperm.trans registered)
    · have kept : rooms.Subperm (s.recoverRoom r).lobby.rooms := by
        rw [removed,Lobby.removeRoomEq]
        simpa using registered.erase r
      have first : Reaches Lobby.apply may s.lobby (s.recoverRoom r).lobby := by
        rw [removed]
        exact reachesStep (op _ r (registered.subset List.mem_cons_self))
      exact first.trans (ih kept)

theorem returnUserLobby (s : State) (u : UserRef) (r : RoomRef) (m : GameMatch) :
    (s.returnUser u r m).lobby = s.lobby.returnToRoom u r m := by
  have host : ({ s.lobby.room r with gameMatch := some (m.removeGameMatchUser u) } : Room).roomHostUser =
      (s.lobby.room r).roomHostUser := rfl
  simp only [returnUser,Lobby.returnToRoom,setUserStatusLobby,setLobbyLobby,roomSet]
  split
  · rw [hostReturnedLobby _ r (by simp [roomSet])]
    simp [roomSet,setRoomTwice]
  · rfl

theorem endGameLobby (s : State) (r : RoomRef) (m : GameMatch) : (s.endGame r m).lobby = s.lobby.endGame r m := by
  have each (users : List UserRef) (t : State) :
      (users.foldl (fun s v => ((s.setUserStatus v .InRoom).sendTo v .hostEndSession).sendTo v .gameResult) t).lobby =
        users.foldl (·.setUserStatus · .InRoom) t.lobby := by
    induction users generalizing t with
    | nil => rfl
    | cons v users ih => rw [List.foldl_cons,List.foldl_cons,ih,sendToLobby,sendToLobby,setUserStatusLobby]
  simp only [endGame,endMatchLobby,each,Lobby.endGame]

theorem effectReaches (effect : Effect may s t) : Reaches Lobby.apply may s.lobby t.lobby := by
  have once {op : Lobby.Op} (performed : may s.lobby op) (lobby : t.lobby = s.lobby.apply op) :
      Reaches Lobby.apply may s.lobby t.lobby := lobby ▸ reachesStep performed
  cases effect with
  | quiet quiet =>
    rw [quiet.lobby]
    exact reachesRefl s.lobby
  | fault => exact reachesRefl s.lobby
  | connect ipAddress => exact reachesRefl s.lobby
  | showServers c =>
    rw [sendLobby]
    exact reachesRefl s.lobby
  | addUser known op => exact once op rfl
  | removeUser op => exact once op (removeUserLobby s _)
  | setUserNetwork op => exact once op rfl
  | showServerList op new => exact once op rfl
  | leaveLobby op present => exact once op (by simp; rfl)
  | enterLobby op => exact once op (enterLobbyLobby s _)
  | openRoom op =>
    rename_i u userCharacter settings fastStart
    obtain ⟨added,lobby⟩ := s.openRoomLobby u userCharacter settings fastStart
    exact once (op added) lobby
  | enterRoom op => exact once op (enterRoomLobby s _ _ _)
  | leaveRoom op => exact once op (by rw [showLobbyLobby,removeRoomUserLobby]; rfl)
  | changeRoomSettings op => exact once op (by simp [changeRoomSettings]; rfl)
  | returnUser op => exact once op (returnUserLobby s _ _ _)
  | startMatch op => exact once op (startMatchLobby s _)
  | saveData op => exact once op rfl
  | sendUserStatus op => exact once op rfl
  | endGame op => exact once op (endGameLobby s _ _)
  | selectTeam op => exact once op rfl
  | recoverRooms op => exact recoverRoomsReaches (s := s.exec _) op s.lobby.rooms (List.Subperm.refl _)
  | removeAllRooms op => exact once op (by simp; rfl)

theorem effectsReaches (effects : Effects may s t) : Reaches Lobby.apply may s.lobby t.lobby := by
  induction effects with
  | refl => exact reachesRefl s.lobby
  | tail _ effect ih => exact ih.trans (effectReaches effect)

theorem Does.lobby {P : Lobby.Op → Prop} (does : Does P s t) :
    t.lobby = s.lobby ∨ ∃ op, s.lobby.Admitted op ∧ P op ∧ t.lobby = s.lobby.apply op := by
  refine Reaches.invariant (fun (l : Lobby) op (_ : l = s.lobby ∨ ∃ op, s.lobby.Admitted op ∧ P op ∧ l = s.lobby.apply op) done => ?_)
    (effectsReaches does) (.inl rfl)
  obtain ⟨rfl,admitted,performed⟩ := done
  exact .inr ⟨op,admitted,performed,rfl⟩

end Lobby
end CsoMaster.State
