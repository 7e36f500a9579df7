import CsoMaster.ServerStep

/-! What a step leaves behind outside the lobby: the calls of the database manager it makes, one
after the other, and the packets it sends. `Acts` is a stretch of work whose calls and packets are
all of a kind; each function of the server is taken through once, for any kinds that take in what
is asked and sent everywhere. -/
namespace CsoMaster
open DatabaseManager

-- What a call changes of the account it is made for.
inductive Request where
  | buyMenus (defaultBuyMenus : List BuyMenu)
  | bookMarks
  | inventory (defaultInventory : List UInt8) (now : UInt32)
  | character (nickName : Bytes)
  | saveConfig (userConfig : Bytes)
  | saveQuickStart (userQuickStart : UInt32)
  | saveBuyMenu (categoryID slotID itemID : UInt8)
  | saveBookMark (userBookMark : QueryText.BookMark)
  deriving DecidableEq, Repr

def Request.query (userID : UInt32) : Request → Σ α : Type, Sql α
  | buyMenus defaultBuyMenus => ⟨_,createUserBuymenus defaultBuyMenus userID⟩
  | bookMarks => ⟨_,createUserBookmarks userID⟩
  | inventory defaultInventory now => ⟨_,createUserInventory defaultInventory now userID⟩
  | character nickName => ⟨_,createUserCharacter userID nickName⟩
  | saveConfig userConfig => ⟨_,saveUserConfig userID userConfig⟩
  | saveQuickStart userQuickStart => ⟨_,saveUserQuickStart userID userQuickStart⟩
  | saveBuyMenu categoryID slotID itemID => ⟨_,saveUserBuyMenu userID categoryID slotID itemID⟩
  | saveBookMark userBookMark => ⟨_,saveUserBookMark userID userBookMark⟩

-- The calls that read, and those that write what is of no account.
inductive Routine where
  | login (bcrypt_checkpw : Bytes → Bytes → Int) (userName password : Bytes)
  | transferLogin (place : Place) (authToken : Bytes)
  | getUserCharacter (userID : UInt32) (flag : UInt16)
  | getUserConfig (userID : UInt32)
  | getUserQuickStart (userID : UInt32)
  | getUserBuyMenus (userID : UInt32)
  | getUserBookMarks (userID : UInt32)
  | getUserInventory (userID : UInt32)
  | isUserSessionAdded (serverConfig : ServerConfig) (userID : UInt32)
  | searchRoom (serverConfig : ServerConfig) (level gameModeID mapID levelLimit clanBattle : UInt8)
  | addUserTransfer (userID : UInt32) (authToken : Bytes) (place : Place) (currentTime : Nat)
  | removeUserTransfer (userID : UInt32)
  | removeOldUserTransfers (place : Place) (currentTime : Nat)
  | addRoom (row : RoomRow)
  | updateRoom (row : RoomRow)
  | removeRoom (place : Place) (roomID : UInt16)
  | removeAllRooms (place : Place)

def Routine.query : Routine → Σ α : Type, Sql α
  | login bcrypt_checkpw userName password => ⟨_,DatabaseManager.login bcrypt_checkpw userName password⟩
  | transferLogin place authToken => ⟨_,DatabaseManager.transferLogin place authToken⟩
  | getUserCharacter userID flag => ⟨_,DatabaseManager.getUserCharacter userID flag⟩
  | getUserConfig userID => ⟨_,DatabaseManager.getUserConfig userID⟩
  | getUserQuickStart userID => ⟨_,DatabaseManager.getUserQuickStart userID⟩
  | getUserBuyMenus userID => ⟨_,DatabaseManager.getUserBuyMenus userID⟩
  | getUserBookMarks userID => ⟨_,DatabaseManager.getUserBookMarks userID⟩
  | getUserInventory userID => ⟨_,DatabaseManager.getUserInventory userID⟩
  | isUserSessionAdded serverConfig userID => ⟨_,DatabaseManager.isUserSessionAdded serverConfig userID⟩
  | searchRoom serverConfig level gameModeID mapID levelLimit clanBattle =>
    ⟨_,DatabaseManager.searchRoom serverConfig level gameModeID mapID levelLimit clanBattle⟩
  | addUserTransfer userID authToken place currentTime => ⟨_,DatabaseManager.addUserTransfer userID authToken place currentTime⟩
  | removeUserTransfer userID => ⟨_,DatabaseManager.removeUserTransfer userID⟩
  | removeOldUserTransfers place currentTime => ⟨_,DatabaseManager.removeOldUserTransfers place currentTime⟩
  | addRoom row => ⟨_,DatabaseManager.addRoom row⟩
  | updateRoom row => ⟨_,DatabaseManager.updateRoom row⟩
  | removeRoom place roomID => ⟨_,DatabaseManager.removeRoom place roomID⟩
  | removeAllRooms place => ⟨_,DatabaseManager.removeAllRooms place⟩

-- Those that take an account in and let it go.
inductive Administration where
  | addUserSession (serverConfig : ServerConfig) (userID : UInt32)
  | removeUserSession (userID : UInt32)

def Administration.query : Administration → Σ α : Type, Sql α
  | addUserSession serverConfig userID => ⟨_,DatabaseManager.addUserSession serverConfig userID⟩
  | removeUserSession userID => ⟨_,DatabaseManager.removeUserSession userID⟩

inductive Call where
  | routine (routine : Routine)
  | administration (administration : Administration)
  | request (userID : UInt32) (request : Request)

namespace Call

def query : Call → Σ α : Type, Sql α
  | .routine r => r.query
  | .administration a => a.query
  | .request userID r => r.query userID

def run (call : Call) (d : Store) : Store := (call.query.2 d).2

def asked : Call → Option (UInt32 × Request)
  | .request userID r => some (userID,r)
  | _ => none

def administers : Call → Prop
  | .administration _ => True
  | _ => False

end Call

namespace Message

-- What only answers the client whose packet is handled, and what users say to each other.
def answer : Message → Bool
  | version | reply _ | character | crypt _ | userStart _ | updateInfo _ | inventory _ | clientCheck => true
  | serverList _ | userConfig _ | userQuickStart _ | userBuyMenu _ | userBookMark _ | transfer _ _ => true
  | resultClose | shopList | searchRoomReply _ | modifySocketInfo _ _ _ _ => true
  | _ => false

def isChat : Message → Bool
  | chat _ _ _ => true
  | _ => false

end Message

namespace State

-- What may be sent, and whether accounts are taken in or let go and the server list is changed.
structure Policy where
  tells : ConnectionRef → Message → Prop
  administers : Prop

-- With these requests made, one after the other, within the policy.
structure Acts (policy : Policy) (made : List (UInt32 × Request)) (s t : State) : Prop where
  asked : ∃ calls : List Call, calls.filterMap Call.asked = made ∧ (∀ call ∈ calls, call.administers → policy.administers) ∧
    t.store = calls.foldl (fun d call => call.run d) s.store
  told : ∃ messages, (∀ entry ∈ messages, policy.tells entry.1 entry.2) ∧ t.sent = s.sent ++ messages
  configured : t.serverConfig = s.serverConfig ∨ policy.administers

-- What every step may tell.
def Wide (policy : Policy) : Prop := ∀ c m, m.answer = false ∧ m.isChat = false → policy.tells c m

section Acts
variable {policy : Policy} {made more : List (UInt32 × Request)} {s t m : State}

theorem Acts.refl (policy : Policy) (s : State) : Acts policy [] s s := ⟨⟨[],rfl,by simp,rfl⟩,⟨[],by simp⟩,.inl rfl⟩

theorem Acts.trans (left : Acts policy made s m) (right : Acts policy more m t) : Acts policy (made ++ more) s t where
  asked := by
    obtain ⟨calls,each,within,store⟩ := left.asked
    obtain ⟨others,also,later,after⟩ := right.asked
    refine ⟨calls ++ others,?_,fun call mem => (List.mem_append.mp mem).elim (within call) (later call),?_⟩
    · rw [List.filterMap_append,each,also]
    · rw [after,store,List.foldl_append]
  told := by
    obtain ⟨messages,each,sent⟩ := left.told
    obtain ⟨others,also,later⟩ := right.told
    refine ⟨messages ++ others,fun entry mem => (List.mem_append.mp mem).elim (each entry) (also entry),?_⟩
    rw [later,sent,List.append_assoc]
  configured := by
    rcases right.configured with same | administers
    · rw [same]
      exact left.configured
    · exact .inr administers

theorem Acts.next (left : Acts policy made s m) (right : Acts policy [] m t) : Acts policy made s t :=
  made.append_nil ▸ left.trans right

theorem Acts.same (acts : Acts policy made s m) (store : t.store = m.store) (sent : t.sent = m.sent)
    (serverConfig : t.serverConfig = m.serverConfig) : Acts policy made s t :=
  ⟨store ▸ acts.asked,sent ▸ acts.told,serverConfig ▸ acts.configured⟩

theorem Acts.administer (acts : Acts policy made s m) (administers : policy.administers) (store : t.store = m.store) (sent : t.sent = m.sent) :
    Acts policy made s t :=
  ⟨store ▸ acts.asked,sent ▸ acts.told,.inr administers⟩

theorem Acts.setLobby (acts : Acts policy made s t) (lobby : Lobby) : Acts policy made s (t.setLobby lobby) := acts.same rfl rfl rfl

theorem Acts.erasing (acts : Acts policy made s t) (found : Prop) [Decidable found] : Acts policy made s (t.erasing found) :=
  acts.same rfl rfl rfl

theorem Acts.setConnection (acts : Acts policy made s t) (c : ConnectionRef) (connection : Connection) :
    Acts policy made s (t.setConnection c connection) :=
  acts.same rfl rfl rfl

theorem Acts.fold {α : Type} {f : State → α → State} (each : ∀ s a, Acts policy [] s (f s a)) (as : List α) (s : State) :
    Acts policy [] s (as.foldl f s) := by
  induction as generalizing s with
  | nil => exact .refl policy s
  | cons a as ih => exact (each s a).next (ih _)

theorem Acts.call {α : Type} {q : Sql α} (acts : Acts policy made s t) (call : Call) (allowed : call.administers → policy.administers)
    (same : ∀ d, (q d).2 = call.run d) : Acts policy (made ++ call.asked.toList) s (t.sql q).2 := by
  refine acts.trans ⟨⟨[call],?_,by simpa using allowed,same t.store⟩,⟨[],by simp [State.sql]⟩,.inl rfl⟩
  cases asked : call.asked <;> simp [asked]

theorem Acts.sql {α : Type} {q : Sql α} (acts : Acts policy made s t) (routine : Routine) (same : ∀ d, (q d).2 = (routine.query.2 d).2) :
    Acts policy made s (t.sql q).2 :=
  made.append_nil ▸ acts.call (.routine routine) False.elim same

theorem Acts.exec {α : Type} {q : Sql α} (acts : Acts policy made s t) (routine : Routine) (same : ∀ d, (q d).2 = (routine.query.2 d).2) :
    Acts policy made s (t.exec q) :=
  acts.sql routine same

theorem Acts.session {α : Type} {q : Sql α} (acts : Acts policy made s t) (administers : policy.administers) (administration : Administration)
    (same : ∀ d, (q d).2 = (administration.query.2 d).2) : Acts policy made s (t.sql q).2 :=
  made.append_nil ▸ acts.call (.administration administration) (fun _ => administers) same

theorem Acts.request {α : Type} {q : Sql α} (acts : Acts policy made s t) (userID : UInt32) (request : Request)
    (same : ∀ d, (q d).2 = ((request.query userID).2 d).2) : Acts policy (made ++ [(userID,request)]) s (t.sql q).2 :=
  acts.call (.request userID request) False.elim same

theorem Acts.send (acts : Acts policy made s t) {c : ConnectionRef} {m : Message} (allowed : policy.tells c m) : Acts policy made s (t.send c m) := by
  unfold State.send
  split
  · exact acts.next ⟨⟨[],rfl,by simp,rfl⟩,⟨[(c,m)],by simpa using allowed,rfl⟩,.inl rfl⟩
  · exact acts

theorem Acts.tell (acts : Acts policy made s t) {u : UserRef} {m : Message} (allowed : policy.tells (t.lobby.user u).connection m) (r : RoomRef) :
    Acts policy made s (t.tell u r m) := by
  unfold State.tell
  split
  · exact acts.next ⟨⟨[],rfl,by simp,rfl⟩,⟨[((t.lobby.user u).connection,m)],by simpa using allowed,rfl⟩,.inl rfl⟩
  · exact acts

end Acts

/-! The functions, from the broadcasts to the handlers, for a policy that takes in the rest. -/

section Walk
variable {policy : Policy} {made : List (UInt32 × Request)} {s t : State} {u : UserRef} {r : RoomRef}

theorem Acts.publish (acts : Acts policy made s t) (wide : Wide policy) (c : ConnectionRef) {m : Message}
    (shared : m.answer = false ∧ m.isChat = false) : Acts policy made s (t.send c m) :=
  acts.send (wide c m shared)

theorem Acts.publishTo (acts : Acts policy made s t) (wide : Wide policy) (u : UserRef) {m : Message}
    (shared : m.answer = false ∧ m.isChat = false) : Acts policy made s (t.sendTo u m) :=
  acts.publish wide _ shared

theorem Acts.report (acts : Acts policy made s t) (wide : Wide policy) (u : UserRef) (r : RoomRef) {m : Message}
    (shared : m.answer = false ∧ m.isChat = false) : Acts policy made s (t.tell u r m) :=
  acts.tell (wide _ m shared) r

theorem Acts.publishAll (acts : Acts policy made s t) (wide : Wide policy) (us : List UserRef) {m : Message}
    (shared : m.answer = false ∧ m.isChat = false) : Acts policy made s (t.sendAll us m) :=
  acts.next (.fold (fun s u => (Acts.refl policy s).publishTo wide u shared) us t)

theorem Acts.reportAll (acts : Acts policy made s t) (wide : Wide policy) (us : List UserRef) (r : RoomRef) {m : Message}
    (shared : m.answer = false ∧ m.isChat = false) : Acts policy made s (t.tellAll us r m) :=
  acts.next (.fold (fun s u => (Acts.refl policy s).report wide u r shared) us t)

theorem Acts.getUserCharacter (acts : Acts policy made s t) (u : UserRef) (flag : UInt16) :
    Acts policy made s (t.getUserCharacter u flag).2 :=
  (acts.sql (.getUserCharacter _ flag) fun _ => rfl).same rfl rfl rfl

theorem Acts.gameUsers (acts : Acts policy made s t) (us : List UserRef) : Acts policy made s (t.gameUsers us).2 := by
  induction us generalizing t with
  | nil => exact acts
  | cons u us ih => exact ih (acts.getUserCharacter u USERCHARACTER_FLAG_ALL)

theorem Acts.sendFullUserListPacket (acts : Acts policy made s t) (wide : Wide policy) (c : ConnectionRef) :
    Acts policy made s (t.sendFullUserListPacket c) :=
  (acts.gameUsers _).publish wide c ⟨rfl,rfl⟩

theorem Acts.sendAddUserPacketToAll (acts : Acts policy made s t) (wide : Wide policy) (u : UserRef) :
    Acts policy made s (t.sendAddUserPacketToAll u) := by
  have asked := acts.getUserCharacter u USERCHARACTER_FLAG_ALL
  dsimp only [State.sendAddUserPacketToAll]
  split
  · exact asked
  · exact asked.publishAll wide _ ⟨rfl,rfl⟩

theorem Acts.sendRemoveUserPacketToAll (acts : Acts policy made s t) (wide : Wide policy) (u : UserRef) :
    Acts policy made s (t.sendRemoveUserPacketToAll u) :=
  acts.publishAll wide _ ⟨rfl,rfl⟩

theorem Acts.sendAddRoomPacketToAll (acts : Acts policy made s t) (wide : Wide policy) (r : RoomRef) (flag : UInt16) :
    Acts policy made s (t.sendAddRoomPacketToAll r flag) :=
  acts.publishAll wide _ ⟨rfl,rfl⟩

theorem Acts.sendUpdateRoomPacketToAll (acts : Acts policy made s t) (wide : Wide policy) (r : RoomRef) (flag : UInt16) :
    Acts policy made s (t.sendUpdateRoomPacketToAll r flag) :=
  acts.publishAll wide _ ⟨rfl,rfl⟩

theorem Acts.updateRoom (acts : Acts policy made s t) (r : RoomRef) : Acts policy made s (t.updateRoom r) :=
  acts.sql (.updateRoom (t.roomRow (t.lobby.room r))) fun _ => rfl

theorem Acts.showLobby (acts : Acts policy made s t) (wide : Wide policy) (u : UserRef) : Acts policy made s (t.showLobby u) :=
  (((acts.sendAddUserPacketToAll wide u).publishTo wide u ⟨rfl,rfl⟩).sendFullUserListPacket wide _).publish wide _ ⟨rfl,rfl⟩

theorem Acts.destroyRoom (acts : Acts policy made s t) (wide : Wide policy) (roomUsers : List UserRef) :
    Acts policy made s (t.destroyRoom roomUsers) :=
  acts.next (.fold (fun s u => ((Acts.refl policy s).setLobby _).showLobby wide u) roomUsers t)

theorem Acts.removeRoom (acts : Acts policy made s t) (wide : Wide policy) (r : RoomRef) : Acts policy made s (t.removeRoom r) := by
  have told : Acts policy made s (t.sendRemoveRoomPacketToAll (t.lobby.room r).roomID) := acts.publishAll wide _ ⟨rfl,rfl⟩
  exact (((told.exec (.removeRoom _ _) fun _ => rfl).erasing _).setLobby _).destroyRoom wide _

theorem Acts.announceRoomState (acts : Acts policy made s t) (wide : Wide policy) (r : RoomRef) (roomState : RoomState) :
    Acts policy made s (t.announceRoomState r roomState) :=
  (acts.publishAll wide _ ⟨rfl,rfl⟩).next
    (.fold (fun s v => ((Acts.refl policy s).report wide v r ⟨rfl,rfl⟩).report wide v r ⟨rfl,rfl⟩) _ _)

theorem Acts.endMatch (acts : Acts policy made s t) (wide : Wide policy) (r : RoomRef) : Acts policy made s (t.endMatch r) :=
  (acts.setLobby _).announceRoomState wide r .Waiting

theorem Acts.updateRoomHostUser (acts : Acts policy made s t) (wide : Wide policy) (r : RoomRef) (u : UserRef) :
    Acts policy made s (t.updateRoomHostUser r u) :=
  (acts.setLobby _).reportAll wide _ r ⟨rfl,rfl⟩

theorem Acts.sendHostRestart (acts : Acts policy made s t) (wide : Wide policy) (m : GameMatch) (newRoomHostUser : UserRef) :
    Acts policy made s (t.sendHostRestart m newRoomHostUser) :=
  (acts.publishTo wide newRoomHostUser ⟨rfl,rfl⟩).next
    (.fold (fun s v => ((Acts.refl policy s).publishTo wide v ⟨rfl,rfl⟩).publishTo wide v ⟨rfl,rfl⟩) _ _)

theorem Acts.migrate (acts : Acts policy made s t) (wide : Wide policy) (r : RoomRef) (m : GameMatch) (newRoomHostUser : UserRef) :
    Acts policy made s (t.migrate r m newRoomHostUser) := by
  have restarted := (acts.updateRoomHostUser wide r newRoomHostUser).sendHostRestart wide m newRoomHostUser
  dsimp only [State.migrate]
  split
  · exact restarted.same rfl rfl rfl
  · exact restarted

theorem Acts.hostLeft (acts : Acts policy made s t) (wide : Wide policy) (r : RoomRef) (first : UserRef) :
    Acts policy made s (t.hostLeft r first) := by
  unfold State.hostLeft
  split
  · exact acts.updateRoomHostUser wide r first
  · split
    · exact (acts.endMatch wide r).updateRoomHostUser wide r first
    · exact acts.migrate wide r _ _

theorem Acts.removeRoomUser (acts : Acts policy made s t) (wide : Wide policy) (r : RoomRef) (u : UserRef) :
    Acts policy made s (t.removeRoomUser r u) := by
  have left := ((acts.erasing (u ∈ (t.lobby.room r).roomUsers)).setLobby
    (t.lobby.setRoom r ((t.lobby.room r).withoutUser u))).sendUpdateRoomPacketToAll wide r ROOMLIST_FLAG_CURRENTPLAYERS
  dsimp only [State.removeRoomUser]
  split
  · exact (left.setLobby _).removeRoom wide r
  · rename_i first rest _
    have updated {lobby : Lobby} {userID : UInt32} := ((left.setLobby lobby).updateRoom r).reportAll wide (first :: rest) r
      (m := .userLeave userID) ⟨rfl,rfl⟩
    split
    · exact updated.hostLeft wide r _
    · exact updated

theorem Acts.updateChannelNumPlayers (acts : Acts policy made s t) (administers : policy.administers) :
    Acts policy made s t.updateChannelNumPlayers := by
  unfold State.updateChannelNumPlayers
  split <;> exact acts.administer administers rfl rfl

theorem Acts.leaveLobby (acts : Acts policy made s t) (wide : Wide policy) (u : UserRef) : Acts policy made s (t.leaveLobby u) := by
  have told : Acts policy made s (if (t.lobby.user u).userStatus = .InLobby then t.sendRemoveUserPacketToAll u else t) := by
    split
    · exact acts.sendRemoveUserPacketToAll wide u
    · exact acts
  dsimp only [State.leaveLobby]
  split
  · exact told
  · exact told.removeRoomUser wide _ u

theorem Acts.removeUser (acts : Acts policy made s t) (wide : Wide policy) (administers : policy.administers) (u : UserRef) :
    Acts policy made s (t.removeUser u) :=
  ((((acts.leaveLobby wide u).session administers (.removeUserSession _) fun _ => rfl).erasing _).setLobby _).updateChannelNumPlayers
    administers

theorem Acts.disconnectClient (acts : Acts policy made s t) (c : ConnectionRef) (eraseConnection : Bool) :
    Acts policy made s (t.disconnectClient c eraseConnection) := by
  dsimp only [State.disconnectClient]
  split <;> exact acts.same rfl rfl rfl

theorem Acts.disconnectUser (acts : Acts policy made s t) (u : UserRef) : Acts policy made s (t.disconnectUser u) := acts.disconnectClient _ false

theorem Acts.disconnectUserByConnection (acts : Acts policy made s t) (wide : Wide policy) (administers : policy.administers)
    (c : ConnectionRef) (ec : Option ErrorCode) : Acts policy made s (t.disconnectUserByConnection c ec) := by
  unfold State.disconnectUserByConnection
  cases t.getUserByConnection c with
  | none =>
    rcases ec with _ | _ | _
    · exact acts.disconnectClient c false
    · exact acts
    · exact acts.disconnectClient c true
  | some u =>
    have removed := acts.removeUser wide administers u
    rcases ec with _ | _ | _
    · exact removed.disconnectClient c false
    · exact removed
    · exact removed.disconnectClient c true

theorem Acts.failNetwork (acts : Acts policy made s t) (wide : Wide policy) (u : UserRef) : Acts policy made s (t.failNetwork u) :=
  (acts.publish wide _ ⟨rfl,rfl⟩).disconnectUser u

theorem Acts.addUser (acts : Acts policy made s t) (administers : policy.administers) (user : User) :
    Acts policy made s (t.addUser user).2 := by
  have asked := acts.session administers (.addUserSession t.serverConfig.toServerConfig user.userID) fun _ => rfl
  dsimp only [State.addUser]
  split
  · exact acts
  · split
    · exact ((asked.setLobby _).exec (.removeUserTransfer user.userID) fun _ => rfl).updateChannelNumPlayers administers
    · exact asked

end Walk

/-! The same for the user whose packet it is: it may be answered. -/

def Answerable (policy : Policy) (c : ConnectionRef) : Prop := ∀ m : Message, m.answer = true → policy.tells c m

-- So far, and the user is still the one of the connection.
structure Serves (policy : Policy) (made : List (UInt32 × Request)) (c : ConnectionRef) (u : UserRef) (s t : State) : Prop
    extends Acts policy made s t where
  own : (t.lobby.user u).connection = c

section Answers
variable {policy : Policy} {made : List (UInt32 × Request)} {s t : State} {c : ConnectionRef} {u : UserRef}

theorem loggedInConnection (found : s.loggedIn c = some u) : (s.lobby.user u).connection = c :=
  (Lobby.getUserByConnectionSome (Option.filter_eq_some_iff.mp found).1).2

theorem Acts.answer (acts : Acts policy made s t) (answers : Answerable policy c) {m : Message} (answer : m.answer = true) :
    Acts policy made s (t.send c m) :=
  acts.send (answers m answer)

theorem Serves.then (serves : Serves policy made c u s t) {m : State} (acts : Acts policy made s t → Acts policy made s m)
    (lobby : m.lobby = t.lobby) : Serves policy made c u s m :=
  ⟨acts serves.toActs,lobby ▸ serves.own⟩

theorem Serves.sendTo (serves : Serves policy made c u s t) (answers : Answerable policy c) {m : Message} (answer : m.answer = true) :
    Serves policy made c u s (t.sendTo u m) :=
  serves.then (fun acts => acts.send (serves.own.symm ▸ answers m answer)) (t.sendToLobby u m)

theorem Serves.sql {α : Type} {q : Sql α} (serves : Serves policy made c u s t) (routine : Routine)
    (same : ∀ d, (q d).2 = (routine.query.2 d).2) : Serves policy made c u s (t.sql q).2 :=
  serves.then (fun acts => acts.sql routine same) rfl

theorem Serves.unless (serves : Serves policy made c u s t) (answers : Answerable policy c) (given : Prop) [Decidable given] {m : Message}
    (answer : m.answer = true) : Serves policy made c u s (if given then t else t.sendTo u m) := by
  split
  · exact serves
  · exact serves.sendTo answers answer

theorem Serves.optional (serves : Serves policy made c u s t) (answers : Answerable policy c) (given : Prop) [Decidable given] {m : Message}
    (answer : m.answer = true) : Serves policy made c u s (if given then t.sendTo u m else t) := by
  split
  · exact serves.sendTo answers answer
  · exact serves

theorem Serves.setUser (serves : Serves policy made c u s t) (user : User) (same : user.connection = (t.lobby.user u).connection) :
    Serves policy made c u s (t.setLobby (t.lobby.setUser u user)) := by
  refine ⟨serves.toActs.setLobby _,?_⟩
  change (Function.update t.lobby.user u user u).connection = c
  rw [Function.update_self,same]
  exact serves.own

theorem Serves.setUserStatus (serves : Serves policy made c u s t) (userStatus : UserStatus) :
    Serves policy made c u s (t.setUserStatus u userStatus) :=
  serves.setUser _ rfl

theorem Serves.enterServerList (serves : Serves policy made c u s t) (answers : Answerable policy c) :
    Serves policy made c u s (t.enterServerList u) := by
  have shown := (serves.setUserStatus .InServerList).sendTo answers (m := .serverList t.serverConfig.serverList) rfl
  exact .unless (.sql (.unless (.sql (.sendTo (.sql (.unless (.sql shown (.getUserConfig _) fun _ => rfl) answers _ rfl)
    (.getUserQuickStart _) fun _ => rfl) answers rfl) (.getUserBuyMenus _) fun _ => rfl) answers _ rfl)
    (.getUserBookMarks _) fun _ => rfl) answers _ rfl

theorem Serves.sendUserStart (serves : Serves policy made c u s t) (answers : Answerable policy c)
    (userCharacter : UserCharacter) (reply : Packet_ReplyType) : Serves policy made c u s (t.sendUserStart u userCharacter reply) :=
  .sendTo (.unless (.sql (.sendTo (.sendTo (.optional (.optional (.optional serves answers _ rfl) answers _ rfl) answers _ rfl)
    answers rfl) answers rfl) (.getUserInventory _) fun _ => rfl) answers _ rfl) answers rfl

theorem Serves.enterLobby (serves : Serves policy made c u s t) (wide : Wide policy) : Acts policy made s (t.enterLobby u) := by
  have entered := (serves.setUserStatus .InLobby).toActs.sendAddUserPacketToAll wide u
  exact (entered.sendFullUserListPacket wide _).publish wide _ ⟨rfl,rfl⟩

theorem Serves.sendLoginPackets (serves : Serves policy made c u s t) (wide : Wide policy) (answers : Answerable policy c)
    (reply : Packet_ReplyType) : Acts policy made s (t.sendLoginPackets u reply) := by
  have asked := serves.then (fun acts => acts.getUserCharacter u USERCHARACTER_FLAG_ALL) rfl
  dsimp only [State.sendLoginPackets]
  split
  · exact (asked.sendTo answers rfl).toActs.disconnectUser u
  · have started := asked.sendUserStart answers (t.getUserCharacter u USERCHARACTER_FLAG_ALL).1.userCharacter reply
    split
    · exact (started.enterServerList answers).toActs
    · exact started.enterLobby wide

theorem Acts.addNewUser (acts : Acts policy made s t) (administers : policy.administers) (answers : Answerable policy c)
    (userID : UInt32) (userName : Bytes) : Acts policy made s (t.addNewUser c userID userName).2 := by
  have added := acts.addUser administers (.new c userID userName)
  dsimp only [State.addNewUser]
  split
  · exact added.answer answers rfl
  · split
    · exact added.answer answers rfl
    · exact added

theorem Acts.transferTo (acts : Acts policy made s t) (wide : Wide policy) (answers : Answerable policy c) (u : UserRef) (destination : Place)
    (channel : Channel) : Acts policy made s (t.transferTo c u destination channel) := by
  have asked := acts.getUserCharacter u USERCHARACTER_FLAG_LEVEL
  dsimp only [State.transferTo]
  split
  · exact acts.publish wide c ⟨rfl,rfl⟩
  · split
    · exact acts.publish wide c ⟨rfl,rfl⟩
    · split
      · exact asked.answer answers rfl
      · split
        · exact asked.publish wide c ⟨rfl,rfl⟩
        · split
          · exact asked.answer answers rfl
          · split
            · exact (asked.sql (.addUserTransfer _ _ _ _) fun _ => rfl).answer answers rfl
            · split
              · exact (asked.sql (.addUserTransfer _ _ _ _) fun _ => rfl).answer answers rfl
              · exact (asked.sql (.addUserTransfer _ _ _ _) fun _ => rfl).answer answers rfl

end Answers

section Login
variable {policy : Policy} (wide : Wide policy) {s : State} {c : ConnectionRef} (answers : Answerable policy c) (p : Packet)
include answers

theorem actsVersion : Acts policy [] s (s.parsePacket_Version c p) := by
  dsimp only [parsePacket_Version]
  split
  · exact .refl policy s
  · split
    · exact (Acts.refl policy s).answer answers rfl
    · exact ((Acts.refl policy s).setConnection c _).answer answers rfl

section Administers
variable (administers : policy.administers)
include administers

-- The new user is the one of the connection.
theorem actsLogin : Acts policy [] s (s.login c p).2 ∧
    ∀ u, (s.login c p).1 = some u → ((s.login c p).2.lobby.user u).connection = c := by
  constructor
  · dsimp only [login]
    split
    · exact .refl policy s
    · have asked := (Acts.refl policy s).sql
        (.login s.environment.bcrypt_checkpw p.readString.1 p.readString.2.readString.1) fun _ => rfl
      split
      · exact asked.answer answers rfl
      · exact asked.addNewUser administers answers _ _
  · intro u found
    rcases s.loginCases c p with ⟨nobody,-⟩ | ⟨added,userID,userName,lobby⟩
    · cases nobody.symm.trans found
    · obtain rfl : s.lobby.fresh = u := Option.some.inj (added.symm.trans found)
      rw [lobby]
      exact congrArg User.connection (Function.update_self s.lobby.fresh _ s.lobby.user)

theorem actsTransferLogin : Acts policy [] s (s.transferLogin c p).2 ∧
    ∀ u, (s.transferLogin c p).1 = some u → ((s.transferLogin c p).2.lobby.user u).connection = c := by
  constructor
  · dsimp only [transferLogin]
    split
    · exact .refl policy s
    · have asked := (Acts.refl policy s).sql (.transferLogin s.serverConfig.place p.readString.1) fun _ => rfl
      split
      · exact asked.answer answers rfl
      · exact asked.addNewUser administers answers _ _
  · intro u found
    rcases s.transferLoginCases c p with ⟨nobody,-⟩ | ⟨added,userID,userName,lobby⟩
    · cases nobody.symm.trans found
    · obtain rfl : s.lobby.fresh = u := Option.some.inj (added.symm.trans found)
      rw [lobby]
      exact congrArg User.connection (Function.update_self s.lobby.fresh _ s.lobby.user)

include wide in
theorem actsLoginPacket : Acts policy [] s (s.parsePacket_Login c p) := by
  obtain ⟨acts,own⟩ := actsLogin (s := s) answers p administers
  unfold parsePacket_Login
  split
  · exact acts
  · rename_i newUser found
    have asked := acts.sql (.getUserCharacter ((s.login c p).2.lobby.user newUser).userID 0) fun _ => rfl
    dsimp only
    split
    · exact (asked.answer answers rfl).removeUser wide administers newUser
    · split
      · exact (asked.answer answers rfl).answer answers rfl
      · exact Serves.sendLoginPackets ⟨asked,own newUser found⟩ wide answers .LoginSuccess

include wide in
theorem actsTransferLoginPacket : Acts policy [] s (s.parsePacket_TransferLogin c p) := by
  obtain ⟨acts,own⟩ := actsTransferLogin (s := s) answers p administers
  unfold parsePacket_TransferLogin
  split
  · exact acts
  · rename_i newUser found
    exact Serves.sendLoginPackets ⟨acts,own newUser found⟩ wide answers .NoReply

end Administers

include wide

theorem actsRequestTransfer : Acts policy [] s (s.parsePacket_RequestTransfer c p) := by
  dsimp only [parsePacket_RequestTransfer]
  split
  · exact .refl policy s
  · rename_i u found
    split
    · exact (Acts.refl policy s).answer answers rfl
    · split
      · split
        · exact Serves.enterLobby ⟨.refl policy s,loggedInConnection found⟩ wide
        · exact .refl policy s
      · exact (Acts.refl policy s).transferTo wide answers u _ _

theorem actsRequestServerList : Acts policy [] s (s.parsePacket_RequestServerList c p) := by
  dsimp only [parsePacket_RequestServerList]
  split
  · exact .refl policy s
  · rename_i u found
    have left : Acts policy [] s (if (s.lobby.user u).userStatus = .InLobby then
        (s.setUserStatus u .InServerList).sendRemoveUserPacketToAll u else s) := by
      split
      · exact ((Acts.refl policy s).setLobby (s.lobby.setUserStatus u .InServerList)).sendRemoveUserPacketToAll wide u
      · exact .refl policy s
    have shown {m : State} (acts : Acts policy [] s m) : Acts policy [] s
        (if (m.lobby.user u).userStatus ≠ .InServerList then m else m.send c (.serverList m.serverConfig.serverList)) := by
      split
      · exact acts
      · exact acts.answer answers rfl
    exact shown left

end Login

section Room
variable {policy : Policy} (wide : Wide policy) {s : State} {c : ConnectionRef} {u : UserRef}
  (answers : Answerable policy c) (own : (s.lobby.user u).connection = c) (p : Packet)

section Answered
include answers own

theorem servesAdmitCreateRoom : Serves policy [] c u s (s.admitCreateRoom u).2 := by
  have waits : Serves policy [] c u s s := ⟨.refl policy s,own⟩
  have asked := waits.then (fun acts => acts.getUserCharacter u USERCHARACTER_FLAG_ALL) rfl
  dsimp only [admitCreateRoom]
  split
  · exact waits
  · split
    · exact waits
    · split
      · exact asked.sendTo answers rfl
      · exact asked

theorem actsResultConfirm : Acts policy [] s (s.parsePacket_Room_ResultConfirm u) := by
  unfold parsePacket_Room_ResultConfirm
  split
  · exact .refl policy s
  · exact (Serves.sendTo ⟨.refl policy s,own⟩ answers rfl).toActs

include wide

theorem actsAdmitJoinRoom : Acts policy [] s (s.admitJoinRoom u p).2 := by
  have asked := Serves.then ⟨Acts.refl policy s,own⟩ (fun acts => acts.getUserCharacter u USERCHARACTER_FLAG_ALL) rfl
  dsimp only [admitJoinRoom]
  split
  · exact .refl policy s
  · split
    · exact (Acts.refl policy s).publish wide _ ⟨rfl,rfl⟩
    · split
      · exact (Acts.refl policy s).publish wide _ ⟨rfl,rfl⟩
      · split
        · exact (Acts.refl policy s).publish wide _ ⟨rfl,rfl⟩
        · split
          · exact (asked.sendTo answers rfl).toActs
          · split
            · exact asked.toActs
            · exact asked.toActs

omit own in
theorem Serves.openRoom {made : List (UInt32 × Request)} {t : State} (serves : Serves policy made c u s t) (userCharacter : UserCharacter)
    (settings : RoomSettings) (fastStart : Bool) : Acts policy made s (t.openRoom u userCharacter settings fastStart) := by
  have entered := serves.setUser ((t.lobby.user u).enterRoom t.lobby.getFreeRoomID) rfl
  have left := entered.then (fun acts => acts.sendRemoveUserPacketToAll wide u) (sendRemoveUserPacketToAllLobby _ u)
  have asked (row : RoomRow) := left.sql (.addRoom row) fun _ => rfl
  have back (row : RoomRow) := (asked row).setUser (User.backToLobby _) rfl
  have shown (row : RoomRow) := (back row).then (fun acts => acts.sendAddUserPacketToAll wide u) (sendAddUserPacketToAllLobby _ u)
  dsimp only [State.openRoom]
  split
  · exact ((shown _).sendTo answers rfl).toActs.destroyRoom wide _
  · have listed (row : RoomRow) (lobby : Lobby) (r : RoomRef) :=
      ((asked row).toActs.setLobby lobby).sendAddRoomPacketToAll wide r ROOMLIST_FLAG_ALL
    split
    · exact ((listed _ _ _).report wide u _ ⟨rfl,rfl⟩).publishTo wide u ⟨rfl,rfl⟩
    · exact (listed _ _ _).report wide u _ ⟨rfl,rfl⟩

theorem actsCreateRoom : Acts policy [] s (s.parsePacket_Room_CreateRoom u p) := by
  have admitted := servesAdmitCreateRoom answers own
  unfold parsePacket_Room_CreateRoom
  split
  · exact admitted.toActs
  · exact admitted.openRoom wide answers _ _ _

end Answered

include wide

theorem Acts.introduce {made : List (UInt32 × Request)} {t : State} (acts : Acts policy made s t) (r : RoomRef) (newcomer : GameUser)
    (roomUsers : List UserRef) : Acts policy made s (t.introduce r newcomer roomUsers).2 := by
  induction roomUsers generalizing t with
  | nil => exact acts
  | cons v roomUsers ih =>
    exact ih (((acts.getUserCharacter v USERCHARACTER_FLAG_ALL).report wide v r ⟨rfl,rfl⟩).report wide v r ⟨rfl,rfl⟩)

theorem Acts.enterRoom {made : List (UInt32 × Request)} {t : State} (acts : Acts policy made s t) (u : UserRef) (r : RoomRef)
    (userCharacter : UserCharacter) : Acts policy made s (t.enterRoom u r userCharacter) := by
  have entered := (acts.setLobby (t.lobby.joinRoom u r)).updateRoom r
  have shown := (entered.sendRemoveUserPacketToAll wide u).sendUpdateRoomPacketToAll wide r ROOMLIST_FLAG_CURRENTPLAYERS
  exact ((shown.introduce wide r _ _).report wide u r ⟨rfl,rfl⟩).report wide u r ⟨rfl,rfl⟩

include answers own in
theorem actsJoinRoom : Acts policy [] s (s.parsePacket_Room_JoinRoom u p) := by
  have admitted := actsAdmitJoinRoom wide answers own p
  unfold parsePacket_Room_JoinRoom
  split
  · exact admitted
  · exact admitted.enterRoom wide u _ _

theorem actsLeaveRoom : Acts policy [] s (s.parsePacket_Room_LeaveRoom u) := by
  unfold parsePacket_Room_LeaveRoom
  split
  · exact .refl policy s
  · exact ((Acts.refl policy s).removeRoomUser wide _ u).showLobby wide u

theorem actsStartGame : Acts policy [] s (s.parsePacket_Room_StartGame u) := by
  dsimp only [parsePacket_Room_StartGame]
  split
  · exact .refl policy s
  · split
    · exact (Acts.refl policy s).publish wide _ ⟨rfl,rfl⟩
    · split <;> exact (Acts.refl policy s).publishTo wide u ⟨rfl,rfl⟩

theorem actsUpdateRoomSettings : Acts policy [] s (s.parsePacket_Room_UpdateRoomSettings u p) := by
  dsimp only [parsePacket_Room_UpdateRoomSettings]
  split
  · exact .refl policy s
  · split
    · exact .refl policy s
    · exact ((((Acts.refl policy s).setLobby _).updateRoom _).sendUpdateRoomPacketToAll wide _ _).reportAll wide _ _ ⟨rfl,rfl⟩

theorem Acts.hostReturned {made : List (UInt32 × Request)} {t : State} (acts : Acts policy made s t) (r : RoomRef) (m : GameMatch) :
    Acts policy made s (t.hostReturned r m) := by
  unfold State.hostReturned
  split
  · exact acts.endMatch wide r
  · exact acts.migrate wide r m _

theorem actsReturnToRoom : Acts policy [] s (s.parsePacket_Room_ReturnToRoom u) := by
  dsimp only [parsePacket_Room_ReturnToRoom]
  split
  · exact .refl policy s
  · split
    · exact (((Acts.refl policy s).setLobby _).hostReturned wide _ _).setLobby _
    · exact ((Acts.refl policy s).setLobby _).setLobby _

include answers in
theorem actsRoom : Acts policy [] s (s.parsePacket_Room c p) := by
  unfold parsePacket_Room
  split
  · exact .refl policy s
  · rename_i found
    obtain ⟨user,known,same⟩ := Option.map_eq_some_iff.mp found
    cases same
    have mine := loggedInConnection known
    split
    · exact actsCreateRoom wide answers mine _
    · exact actsJoinRoom wide answers mine _
    · exact actsLeaveRoom wide
    · exact actsStartGame wide
    · exact actsUpdateRoomSettings wide _
    · exact actsResultConfirm answers mine
    · exact actsReturnToRoom wide
    · exact .refl policy s

end Room

section Others
variable {policy : Policy} (wide : Wide policy) {s : State} {c : ConnectionRef} {u : UserRef}
  (answers : Answerable policy c) (own : (s.lobby.user u).connection = c) (p : Packet)

include wide in
theorem actsHost : Acts policy [] s (s.parsePacket_Host c p) := by
  have idle := Acts.refl policy s
  unfold parsePacket_Host
  split
  · exact idle
  · rename_i u _
    dsimp only
    split
    · unfold parsePacket_Host_ServerIsActivated
      repeat' split
      · exact idle
      · exact idle
      · exact (idle.setLobby _).announceRoomState wide _ _
      · exact idle
    · dsimp only [parsePacket_Host_SaveData]
      repeat' split
      · exact idle
      · exact idle
      · exact idle.setLobby _
    · unfold parsePacket_Host_SendUserStatus
      repeat' split
      · exact idle
      · exact idle
      · exact idle.setLobby _
    · dsimp only [parsePacket_Host_EndGame]
      split
      · exact idle
      · refine Acts.endMatch (idle.next (.fold (fun s v => ?_) _ _)) wide _
        exact (((Acts.refl policy s).setLobby _).publishTo wide v ⟨rfl,rfl⟩).publishTo wide v ⟨rfl,rfl⟩
    · unfold parsePacket_Host_RejoinFail
      repeat' split
      · exact idle
      · exact idle.same rfl rfl rfl
      · exact idle
    · dsimp only [parsePacket_Host_SelectTeam]
      repeat' split
      · exact idle
      · exact idle
      · exact idle
      · exact idle
      · exact idle.setLobby _
    · exact idle

include wide answers in
theorem actsUdp : Acts policy [] s (s.parsePacket_Udp c p) := by
  have idle := Acts.refl policy s
  unfold parsePacket_Udp
  split
  · exact idle
  · rename_i u found
    dsimp only
    split
    · exact idle.failNetwork wide u
    · dsimp only [parsePacket_Udp_HolepunchFail]
      repeat' split
      · exact idle
      · exact idle
      · exact (Serves.sendTo (Serves.sendTo ⟨idle,loggedInConnection found⟩ answers rfl) answers rfl).toActs
      · exact idle
    · split
      · exact idle.failNetwork wide u
      · exact idle
    · exact idle

include answers in
theorem actsShop : Acts policy [] s (s.parsePacket_Shop c p) := by
  unfold parsePacket_Shop
  repeat' split
  · exact .refl policy s
  · exact (Acts.refl policy s).answer answers rfl
  · exact .refl policy s

include answers in
theorem actsSearchRoom : Acts policy [] s (s.parsePacket_SearchRoom c p) := by
  dsimp only [parsePacket_SearchRoom]
  split
  · exact .refl policy s
  · rename_i u _
    have asked := (Acts.refl policy s).getUserCharacter u USERCHARACTER_FLAG_LEVEL
    split
    · exact asked.answer answers rfl
    · refine Acts.answer ?_ answers rfl
      unfold State.searchRoom
      split
      · exact asked
      · dsimp only
        split
        · exact asked.sql (.searchRoom _ _ _ _ _ _) fun _ => rfl
        · exact (asked.sql (.searchRoom _ _ _ _ _ _) fun _ => rfl).same rfl rfl rfl

end Others
end State
end CsoMaster
