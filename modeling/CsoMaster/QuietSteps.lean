import CsoMaster.RoomRows
import CsoMaster.ServerStep

/-! What most of the server's work amounts to for users and rooms: nothing. `Keeps` is what does
not write the rooms table, open a connection, erase or index outside a list; `Mails` is a
stretch of sends and queries; `Quiet` is one that no list or room a client is shown depends on. -/
namespace CsoMaster

-- The packets a client's user list and room list are made from.
def Message.listed : Message → Bool
  | .fullUserList _ | .addUser _ | .removeUser _ => true
  | .fullRoomList _ _ | .addRoom _ _ | .removeRoom _ | .updateRoom _ _ => true
  | _ => false

-- Neither that nor one of the packets with a list of servers, room users or participants.
def Message.routine : Message → Bool
  | .serverList _ | .replyCreateAndJoin _ _ _ _ | .hostRestart _ _ _ => false
  | m => !m.listed

theorem Message.routineUnlisted {m : Message} (routine : m.routine = true) : m.listed = false := by
  cases m with
  | fullUserList | addUser | removeUser | fullRoomList | addRoom | removeRoom | updateRoom => cases routine
  | _ => rfl

-- What a configuration keeps as long as the server runs, with the number of channels of each server.
structure Layout where
  place : Place
  maxPlayers : Nat
  channels : List Nat
  deriving DecidableEq, Repr

def ServerConfig.layout (c : ServerConfig) : Layout :=
  ⟨c.place,c.maxPlayers,c.serverList.map fun server => server.channels.length⟩

namespace State
open DatabaseManager

structure Keeps (s t : State) : Prop where
  accepted : t.accepted = s.accepted
  closed : ∀ c, (t.connection c).isOpen = true → (s.connection c).isOpen = true
  layout : t.serverConfig.layout = s.serverConfig.layout
  missed : t.characterMissed = false → s.characterMissed = false
  erased : t.erasedEnd = s.erasedEnd
  faulted : t.faulted = s.faulted
  rows : ∀ place, s.store.Spared place →
    t.store.Spared place ∧ roomRows place t.store.database = roomRows place s.store.database

structure Mails (s t : State) : Prop extends Keeps s t where
  lobby : t.lobby = s.lobby

structure Quiet (s t : State) : Prop extends Mails s t where
  told : t.told = s.told
  sent : ∃ plain, t.sent = s.sent ++ plain ∧ ∀ entry ∈ plain, entry.2.routine = true

section Keeps
variable {s t m : State}

theorem Keeps.refl (s : State) : Keeps s s := ⟨rfl,fun _ => id,rfl,id,rfl,rfl,fun _ spared => ⟨spared,rfl⟩⟩

theorem Keeps.trans (left : Keeps s m) (right : Keeps m t) : Keeps s t where
  accepted := right.accepted.trans left.accepted
  closed c isOpen := left.closed c (right.closed c isOpen)
  layout := right.layout.trans left.layout
  missed none := left.missed (right.missed none)
  erased := right.erased.trans left.erased
  faulted := right.faulted.trans left.faulted
  rows place spared := by
    obtain ⟨still,same⟩ := left.rows place spared
    obtain ⟨spared,rows⟩ := right.rows place still
    exact ⟨spared,rows.trans same⟩

theorem Keeps.place (keeps : Keeps s t) : t.serverConfig.place = s.serverConfig.place := congrArg Layout.place keeps.layout

-- Nothing has changed but what neither connections nor rows depend on.
theorem Keeps.same (keeps : Keeps s m) (accepted : t.accepted = m.accepted)
    (connection : t.connection = m.connection) (layout : t.serverConfig.layout = m.serverConfig.layout)
    (missed : t.characterMissed = m.characterMissed) (erased : t.erasedEnd = m.erasedEnd)
    (faulted : t.faulted = m.faulted) (store : t.store = m.store) : Keeps s t :=
  keeps.trans ⟨accepted,fun c isOpen => connection ▸ isOpen,layout,fun none => missed ▸ none,erased,faulted,
    fun _ spared => by rw [store]; exact ⟨spared,rfl⟩⟩

theorem Keeps.setLobby (keeps : Keeps s t) (lobby : Lobby) : Keeps s (t.setLobby lobby) :=
  keeps.same rfl rfl rfl rfl rfl rfl rfl

-- Folds of what keeps keep.
theorem Keeps.fold {α : Type} {f : State → α → State} (keeps : Keeps s t) (each : ∀ s a, Keeps s (f s a))
    (as : List α) : Keeps s (as.foldl f t) := by
  induction as generalizing t with
  | nil => exact keeps
  | cons a as ih => exact ih (keeps.trans (each t a))

end Keeps

section Mails
variable {s t m : State}

theorem Mails.refl (s : State) : Mails s s := ⟨.refl s,rfl⟩

theorem Mails.trans (left : Mails s m) (right : Mails m t) : Mails s t :=
  ⟨left.toKeeps.trans right.toKeeps,right.lobby.trans left.lobby⟩

theorem Mails.same (mails : Mails s m) (lobby : t.lobby = m.lobby) (accepted : t.accepted = m.accepted)
    (connection : t.connection = m.connection) (layout : t.serverConfig.layout = m.serverConfig.layout)
    (missed : t.characterMissed = m.characterMissed) (erased : t.erasedEnd = m.erasedEnd)
    (faulted : t.faulted = m.faulted) (store : t.store = m.store) : Mails s t :=
  ⟨mails.toKeeps.same accepted connection layout missed erased faulted store,lobby.trans mails.lobby⟩

theorem Mails.sql {α : Type} {q : Sql α} (mails : Mails s t) (roomless : Roomless q) : Mails s (t.sql q).2 :=
  mails.trans ⟨⟨rfl,fun _ => id,rfl,id,rfl,rfl,fun place spared => roomless place t.store spared⟩,rfl⟩

theorem Mails.send (mails : Mails s t) (c : ConnectionRef) (message : Message) : Mails s (t.send c message) := by
  unfold State.send
  split
  · exact mails.same rfl rfl rfl rfl rfl rfl rfl rfl
  · exact mails

theorem Mails.sendTo (mails : Mails s t) (u : UserRef) (message : Message) : Mails s (t.sendTo u message) :=
  mails.send _ message

theorem Mails.tell (mails : Mails s t) (u : UserRef) (r : RoomRef) (message : Message) :
    Mails s (t.tell u r message) := by
  unfold State.tell
  split
  · exact mails.same rfl rfl rfl rfl rfl rfl rfl rfl
  · exact mails

-- Folds of what only mails only mail.
theorem Mails.fold {α : Type} {f : State → α → State} (mails : Mails s t) (each : ∀ s a, Mails s (f s a))
    (as : List α) : Mails s (as.foldl f t) := by
  induction as generalizing t with
  | nil => exact mails
  | cons a as ih => exact ih (mails.trans (each t a))

theorem Mails.sendAll (mails : Mails s t) (us : List UserRef) (message : Message) : Mails s (t.sendAll us message) :=
  mails.fold (fun s u => (Mails.refl s).sendTo u message) us

theorem Mails.tellAll (mails : Mails s t) (us : List UserRef) (r : RoomRef) (message : Message) :
    Mails s (t.tellAll us r message) :=
  mails.fold (fun s u => (Mails.refl s).tell u r message) us

theorem Mails.setConnection (mails : Mails s t) {c : ConnectionRef} {connection : Connection}
    (kept : connection.isOpen = true → (t.connection c).isOpen = true) : Mails s (t.setConnection c connection) := by
  refine mails.trans ⟨⟨rfl,fun d isOpen => ?_,rfl,id,rfl,rfl,fun _ spared => ⟨spared,rfl⟩⟩,rfl⟩
  by_cases same : d = c
  · subst same
    exact kept (by simpa [State.setConnection] using isOpen)
  · simpa [State.setConnection,same] using isOpen

theorem Mails.getUserCharacter (mails : Mails s t) (u : UserRef) (flag : UInt16) :
    Mails s (t.getUserCharacter u flag).2 := by
  have asked : Mails s (t.sql (DatabaseManager.getUserCharacter (t.lobby.user u).userID flag)).2 :=
    mails.sql (getUserCharacterRoomless _ flag)
  exact asked.trans ⟨⟨rfl,fun _ => id,rfl,fun none => (Bool.or_eq_false_iff.mp none).1,rfl,
    rfl,fun _ spared => ⟨spared,rfl⟩⟩,rfl⟩

theorem Mails.gameUsers (mails : Mails s t) (us : List UserRef) : Mails s (t.gameUsers us).2 := by
  induction us generalizing t with
  | nil => exact mails
  | cons u us ih => exact ih (mails.getUserCharacter u _)

end Mails

section Broadcast
variable {s t : State}

theorem Mails.sendFullUserListPacket (mails : Mails s t) (c : ConnectionRef) : Mails s (t.sendFullUserListPacket c) :=
  (mails.gameUsers _).send c _

theorem Mails.sendAddUserPacketToAll (mails : Mails s t) (u : UserRef) : Mails s (t.sendAddUserPacketToAll u) := by
  have asked := mails.getUserCharacter u USERCHARACTER_FLAG_ALL
  dsimp only [State.sendAddUserPacketToAll]
  split
  · exact asked
  · exact asked.sendAll _ _

theorem Mails.sendRemoveUserPacketToAll (mails : Mails s t) (u : UserRef) : Mails s (t.sendRemoveUserPacketToAll u) :=
  mails.sendAll _ _

theorem Mails.sendUpdateRoomPacketToAll (mails : Mails s t) (r : RoomRef) (flag : UInt16) :
    Mails s (t.sendUpdateRoomPacketToAll r flag) :=
  mails.sendAll _ _

theorem Mails.showLobby (mails : Mails s t) (u : UserRef) : Mails s (t.showLobby u) :=
  (((mails.sendAddUserPacketToAll u).sendTo u _).sendFullUserListPacket _).send _ _

theorem Mails.announceRoomState (mails : Mails s t) (r : RoomRef) (roomState : RoomState) :
    Mails s (t.announceRoomState r roomState) :=
  (mails.sendUpdateRoomPacketToAll r _).fold (fun s v => ((Mails.refl s).tell v r _).tell v r _) _

theorem Mails.sendHostRestart (mails : Mails s t) (m : GameMatch) (newRoomHostUser : UserRef) :
    Mails s (t.sendHostRestart m newRoomHostUser) :=
  (mails.sendTo newRoomHostUser _).fold (fun s v => ((Mails.refl s).sendTo v _).sendTo v _) _

theorem Mails.introduce (mails : Mails s t) (r : RoomRef) (newcomer : GameUser) (us : List UserRef) :
    Mails s (t.introduce r newcomer us).2 := by
  induction us generalizing t with
  | nil => exact mails
  | cons v us ih => exact ih (((mails.getUserCharacter v _).tell v r _).tell v r _)

end Broadcast

section Rooms
variable {s t : State}

theorem Keeps.destroyRoom (keeps : Keeps s t) (roomUsers : List UserRef) : Keeps s (t.destroyRoom roomUsers) :=
  keeps.fold (fun s u => (((Keeps.refl s).setLobby (s.lobby.backToLobby u))).trans ((Mails.refl _).showLobby u).toKeeps) _

theorem Keeps.enterLobby (keeps : Keeps s t) (u : UserRef) : Keeps s (t.enterLobby u) := by
  have shown : Mails (t.setUserStatus u .InLobby) (t.enterLobby u) :=
    (((Mails.refl _).sendAddUserPacketToAll u).sendFullUserListPacket _).send _ _
  exact (keeps.setLobby _).trans shown.toKeeps

theorem Keeps.startMatch (keeps : Keeps s t) (r : RoomRef) : Keeps s (t.startMatch r) :=
  (keeps.setLobby _).trans ((Mails.refl _).announceRoomState r _).toKeeps

theorem Keeps.endMatch (keeps : Keeps s t) (r : RoomRef) : Keeps s (t.endMatch r) :=
  (keeps.setLobby _).trans ((Mails.refl _).announceRoomState r _).toKeeps

theorem Keeps.updateRoomHostUser (keeps : Keeps s t) (r : RoomRef) (u : UserRef) : Keeps s (t.updateRoomHostUser r u) :=
  (keeps.setLobby _).trans ((Mails.refl _).tellAll _ r _).toKeeps

theorem Keeps.migrate (keeps : Keeps s t) (r : RoomRef) (m : GameMatch) (u : UserRef) : Keeps s (t.migrate r m u) := by
  have restarted := (keeps.updateRoomHostUser r u).trans ((Mails.refl _).sendHostRestart m u).toKeeps
  dsimp only [State.migrate]
  split
  · exact restarted.setLobby _
  · exact restarted

theorem Keeps.hostLeft (keeps : Keeps s t) (r : RoomRef) (first : UserRef) : Keeps s (t.hostLeft r first) := by
  unfold State.hostLeft
  split
  · exact keeps.updateRoomHostUser r first
  · split
    · exact (keeps.endMatch r).updateRoomHostUser r first
    · exact keeps.migrate r _ _

theorem Keeps.hostReturned (keeps : Keeps s t) (r : RoomRef) (m : GameMatch) : Keeps s (t.hostReturned r m) := by
  unfold State.hostReturned
  split
  · exact keeps.endMatch r
  · exact keeps.migrate r m _

end Rooms

section Quiet
variable {s t m : State}

theorem Quiet.refl (s : State) : Quiet s s := ⟨.refl s,rfl,[],by simp⟩

theorem Quiet.trans (left : Quiet s m) (right : Quiet m t) : Quiet s t where
  toMails := left.toMails.trans right.toMails
  told := right.told.trans left.told
  sent := by
    obtain ⟨first,whole,plain⟩ := left.sent
    obtain ⟨second,also,too⟩ := right.sent
    refine ⟨first ++ second,by rw [also,whole,List.append_assoc],fun entry mem => ?_⟩
    exact (List.mem_append.mp mem).elim (plain entry) (too entry)

-- Nothing was sent since `m`.
theorem Quiet.silent (quiet : Quiet s m) (mails : Mails m t) (told : t.told = m.told) (sent : t.sent = m.sent) :
    Quiet s t :=
  quiet.trans ⟨mails,told,[],by simp [sent]⟩

theorem Quiet.same (quiet : Quiet s m) (lobby : t.lobby = m.lobby) (told : t.told = m.told)
    (accepted : t.accepted = m.accepted) (connection : t.connection = m.connection)
    (layout : t.serverConfig.layout = m.serverConfig.layout) (sent : t.sent = m.sent)
    (missed : t.characterMissed = m.characterMissed) (erased : t.erasedEnd = m.erasedEnd)
    (faulted : t.faulted = m.faulted) (store : t.store = m.store) : Quiet s t :=
  quiet.silent ((Mails.refl m).same lobby accepted connection layout missed erased faulted store) told sent

theorem Quiet.sql {α : Type} {q : Sql α} (quiet : Quiet s t) (roomless : Roomless q) : Quiet s (t.sql q).2 :=
  quiet.silent ((Mails.refl t).sql roomless) rfl rfl

theorem Quiet.exec {α : Type} {q : Sql α} (quiet : Quiet s t) (roomless : Roomless q) : Quiet s (t.exec q) :=
  quiet.sql roomless

theorem Quiet.send {message : Message} (quiet : Quiet s t) (plain : message.routine = true) (c : ConnectionRef) :
    Quiet s (t.send c message) := by
  refine quiet.trans ⟨(Mails.refl t).send c message,?_,?_⟩
  · unfold State.send
    split <;> rfl
  · unfold State.send
    split
    · exact ⟨[(c,message)],rfl,by simp [plain]⟩
    · exact ⟨[],by simp⟩

theorem Quiet.sendTo {message : Message} (quiet : Quiet s t) (plain : message.routine = true) (u : UserRef) :
    Quiet s (t.sendTo u message) :=
  quiet.send plain _

-- Folds of what is quiet are quiet.
theorem Quiet.fold {α : Type} {f : State → α → State} (quiet : Quiet s t) (each : ∀ s a, Quiet s (f s a))
    (as : List α) : Quiet s (as.foldl f t) := by
  induction as generalizing t with
  | nil => exact quiet
  | cons a as ih => exact ih (quiet.trans (each t a))

theorem Quiet.sendAll {message : Message} (quiet : Quiet s t) (plain : message.routine = true) (us : List UserRef) :
    Quiet s (t.sendAll us message) :=
  quiet.fold (fun s u => (Quiet.refl s).sendTo plain u) us

theorem Quiet.setConnection (quiet : Quiet s t) {c : ConnectionRef} {connection : Connection}
    (kept : connection.isOpen = true → (t.connection c).isOpen = true) : Quiet s (t.setConnection c connection) :=
  quiet.silent ((Mails.refl t).setConnection kept) rfl rfl

theorem Quiet.disconnectClient (quiet : Quiet s t) (c : ConnectionRef) (eraseConnection : Bool) :
    Quiet s (t.disconnectClient c eraseConnection) := by
  have shut : Quiet s (t.setConnection c { t.connection c with isOpen := false }) := quiet.setConnection (by simp)
  cases eraseConnection with
  | true => exact shut.same rfl rfl rfl rfl rfl rfl rfl rfl rfl rfl
  | false => exact shut

theorem Quiet.disconnectUser (quiet : Quiet s t) (u : UserRef) : Quiet s (t.disconnectUser u) :=
  quiet.disconnectClient _ false

theorem Quiet.getUserCharacter (quiet : Quiet s t) (u : UserRef) (flag : UInt16) :
    Quiet s (t.getUserCharacter u flag).2 :=
  quiet.silent ((Mails.refl t).getUserCharacter u flag) rfl rfl

theorem Quiet.isUserCharacterExists (quiet : Quiet s t) (u : UserRef) : Quiet s (t.isUserCharacterExists u).2 :=
  quiet.sql (getUserCharacterRoomless _ 0)

-- No change of the list adds or removes a channel.
theorem modifyChannels {f : Server → Server} (same : ∀ server : Server, (f server).channels.length = server.channels.length)
    (serverList : List Server) (i : Nat) :
    (serverList.modify i f).map (fun server => server.channels.length) = serverList.map fun server => server.channels.length := by
  refine List.ext_getElem? fun j => ?_
  simp only [List.getElem?_map,List.getElem?_modify,Option.map_eq_map,Option.map_map]
  refine Option.map_congr fun server _ => ?_
  simp only [Function.comp_apply]
  split <;> simp [same]

theorem mapChannels {f : Server → Server} (same : ∀ server : Server, (f server).channels.length = server.channels.length)
    (serverList : List Server) :
    (serverList.map f).map (fun server => server.channels.length) = serverList.map fun server => server.channels.length := by
  rw [List.map_map]
  exact List.map_congr_left fun server _ => same server

theorem Quiet.setServerList (quiet : Quiet s t) {serverList : List Server}
    (channels : serverList.map (fun server => server.channels.length) =
      t.serverConfig.serverList.map fun server => server.channels.length) : Quiet s (t.setServerList serverList) :=
  quiet.same rfl rfl rfl rfl (congrArg (Layout.mk _ _) channels) rfl rfl rfl rfl rfl

-- The count of the own channel, which the server list has or lacks.
theorem updateChannelNumPlayersCases (s : State) :
    (listed s.serverConfig.toServerConfig s.serverConfig.place ≠ none ∧ Quiet s s.updateChannelNumPlayers) ∨
      listed s.serverConfig.toServerConfig s.serverConfig.place = none ∧ s.updateChannelNumPlayers = s.fault := by
  unfold State.updateChannelNumPlayers
  cases here : listed s.serverConfig.toServerConfig s.serverConfig.place with
  | none => exact .inr ⟨rfl,rfl⟩
  | some found =>
    exact .inl ⟨by simp,(Quiet.refl s).setServerList (modifyChannels (fun _ => List.length_modify ..) _ _)⟩

end Quiet

section Login
variable {s t : State}

theorem Quiet.warn (quiet : Quiet s t) (c : ConnectionRef) (text : String) : Quiet s (t.warn c text) :=
  quiet.send rfl c

theorem quietVersion (s : State) (c : ConnectionRef) (p : Packet) : Quiet s (s.parsePacket_Version c p) := by
  dsimp only [parsePacket_Version]
  split
  · exact .refl s
  · split
    · exact (Quiet.refl s).send rfl c
    · exact ((Quiet.refl s).setConnection (by simp)).send rfl c

-- A packet that is sent under a condition only.
theorem Quiet.optional (quiet : Quiet s t) (given : Prop) [Decidable given] {message : Message}
    (plain : message.routine = true) (u : UserRef) : Quiet s (if given then t.sendTo u message else t) := by
  split
  · exact quiet.sendTo plain u
  · exact quiet

theorem Quiet.unless (quiet : Quiet s t) (given : Prop) [Decidable given] {message : Message}
    (plain : message.routine = true) (u : UserRef) : Quiet s (if given then t else t.sendTo u message) := by
  split
  · exact quiet
  · exact quiet.sendTo plain u

theorem Quiet.sendUserStart (quiet : Quiet s t) (u : UserRef) (userCharacter : UserCharacter)
    (reply : Packet_ReplyType) : Quiet s (t.sendUserStart u userCharacter reply) := by
  dsimp only [State.sendUserStart]
  refine .sendTo (.unless (.sql ?_ (getUserInventoryRoomless _)) _ rfl u) rfl u
  exact .sendTo (.sendTo (.optional (.optional (.optional quiet _ rfl u) _ rfl u) _ rfl u) rfl u) rfl u

theorem Quiet.createUserTables (quiet : Quiet s t) (q : State) (userID : UInt32) :
    Quiet s (t.sql (q.createUserTables userID)).2 := by
  refine quiet.sql (.bind (createUserBuymenusRoomless userID _) fun menus => ?_)
  split
  · exact .pure _
  · refine .bind (createUserBookmarksRoomless userID) fun marks => ?_
    split
    · exact .pure _
    · exact createUserInventoryRoomless userID _ _

theorem Quiet.transferTo (quiet : Quiet s t) (c : ConnectionRef) (u : UserRef) (destination : Place)
    (channel : Channel) : Quiet s (t.transferTo c u destination channel) := by
  have asked := quiet.getUserCharacter u USERCHARACTER_FLAG_LEVEL
  dsimp only [State.transferTo]
  split
  · exact quiet.warn c _
  · split
    · exact quiet.warn c _
    · split
      · exact asked.send rfl c
      · split
        · exact asked.warn c _
        · split
          · exact asked.send rfl c
          · split
            · exact (asked.sql (addUserTransferRoomless _ _ _ _)).send rfl c
            · split <;> exact (asked.sql (addUserTransferRoomless _ _ _ _)).send rfl c

end Login

section Room
variable (s : State) (u : UserRef) (p : Packet)

theorem quietAdmitCreateRoom : Quiet s (s.admitCreateRoom u).2 := by
  have asked := (Quiet.refl s).getUserCharacter u USERCHARACTER_FLAG_ALL
  dsimp only [admitCreateRoom]
  split
  · exact .refl s
  · split
    · exact .refl s
    · split
      · exact asked.sendTo rfl u
      · exact asked

theorem quietAdmitJoinRoom : Quiet s (s.admitJoinRoom u p).2 := by
  have asked := (Quiet.refl s).getUserCharacter u USERCHARACTER_FLAG_ALL
  dsimp only [admitJoinRoom]
  split
  · exact .refl s
  · split
    · exact (Quiet.refl s).warn _ _
    · split
      · exact (Quiet.refl s).warn _ _
      · split
        · exact (Quiet.refl s).warn _ _
        · split
          · exact asked.sendTo rfl u
          · split
            · exact asked
            · exact asked

theorem quietStartGame : Quiet s (s.parsePacket_Room_StartGame u) := by
  dsimp only [parsePacket_Room_StartGame]
  split
  · exact .refl s
  · split
    · exact (Quiet.refl s).warn _ _
    · split <;> exact (Quiet.refl s).sendTo rfl u

theorem quietResultConfirm : Quiet s (s.parsePacket_Room_ResultConfirm u) := by
  unfold parsePacket_Room_ResultConfirm
  split
  · exact .refl s
  · exact (Quiet.refl s).sendTo rfl u

end Room

section Others
variable (s : State) (c : ConnectionRef) (u : UserRef) (p : Packet)

theorem Quiet.findNickName {s t : State} (quiet : Quiet s t) (nickName : Bytes) (users : List UserRef) :
    Quiet s (t.findNickName nickName users).2 := by
  induction users generalizing t with
  | nil => exact quiet
  | cons v users ih =>
    dsimp only [State.findNickName]
    split
    · exact quiet.getUserCharacter v _
    · exact ih (quiet.getUserCharacter v _)

theorem quietWhisperChat : Quiet s (s.parsePacket_UMsg_WhisperChat u p) := by
  have asked := (Quiet.refl s).getUserCharacter u USERCHARACTER_FLAG_NICKNAME
  dsimp only [parsePacket_UMsg_WhisperChat]
  split
  · exact .refl s
  · split
    · exact asked.send rfl _
    · split
      · exact (asked.findNickName _ _).send rfl _
      · exact ((asked.findNickName _ _).send rfl _).sendTo rfl _

theorem quietChat (type : Packet_UMsgType) (users : List UserRef) : Quiet s (s.chat u type users p) := by
  have asked := (Quiet.refl s).getUserCharacter u USERCHARACTER_FLAG_NICKNAME
  dsimp only [chat]
  split
  · exact asked.sendTo rfl u
  · exact asked.sendAll rfl users

theorem quietUMsg : Quiet s (s.parsePacket_UMsg c p) := by
  dsimp only [parsePacket_UMsg]
  split
  · exact .refl s
  · rename_i u _
    split
    · exact quietWhisperChat s u _
    · unfold parsePacket_UMsg_ChannelChat
      split
      · exact .refl s
      · exact quietChat s u _ _ _
    · unfold parsePacket_UMsg_RoomChat
      split
      · exact .refl s
      · exact quietChat s u _ _ _
    · exact .refl s

theorem Quiet.failNetwork {s t : State} (quiet : Quiet s t) (u : UserRef) : Quiet s (t.failNetwork u) :=
  (quiet.warn _ _).disconnectUser u

theorem quietUdp : Quiet s (s.parsePacket_Udp c p) := by
  dsimp only [parsePacket_Udp]
  split
  · exact .refl s
  · split
    · exact (Quiet.refl s).failNetwork _
    · dsimp only [parsePacket_Udp_HolepunchFail]
      split
      · exact .refl s
      · split
        · exact .refl s
        · split
          · exact ((Quiet.refl s).sendTo rfl _).sendTo rfl _
          · exact .refl s
    · split
      · exact (Quiet.refl s).failNetwork _
      · exact .refl s
    · exact .refl s

theorem quietShop : Quiet s (s.parsePacket_Shop c p) := by
  dsimp only [parsePacket_Shop]
  split
  · exact .refl s
  · split
    · exact (Quiet.refl s).send rfl c
    · exact .refl s

theorem quietOption : Quiet s (s.parsePacket_Option c p) := by
  dsimp only [parsePacket_Option]
  split
  · exact .refl s
  · split
    · split
      · exact .refl s
      · exact (Quiet.refl s).exec (saveUserConfigRoomless _ _)
    · exact (Quiet.refl s).exec (saveUserQuickStartRoomless _ _)
    · exact .refl s

theorem quietFavorite : Quiet s (s.parsePacket_Favorite c p) := by
  dsimp only [parsePacket_Favorite,parsePacket_Favorite_UserBuyMenu]
  split
  · exact .refl s
  · split
    · split
      · exact .refl s
      · split
        · exact .refl s
        · exact (Quiet.refl s).exec (saveUserBuyMenuRoomless _ _ _ _)
    · split
      · exact .refl s
      · exact (Quiet.refl s).exec (saveUserBookMarkRoomless _ _)
    · exact .refl s

end Others

section Events
variable {s t : State}

theorem quietServerDatagram (s : State) (buffer : Bytes) : Quiet s (s.handleIncomingServerPacket buffer) := by
  dsimp only [handleIncomingServerPacket,setChannel]
  split
  · exact .refl s
  · split
    · exact (Quiet.refl s).setServerList (modifyChannels (fun _ => List.length_modify ..) _ _)
    · exact (Quiet.refl s).setServerList (modifyChannels (fun _ => List.length_modify ..) _ _)
    · exact (Quiet.refl s).setServerList (modifyChannels (fun _ => List.length_modify ..) _ _)
    · exact (Quiet.refl s).setServerList (modifyChannels (fun _ => List.length_modify ..) _ _)
    · exact (Quiet.refl s).setServerList (modifyChannels (fun _ => List.length_modify ..) _ _)
    · exact .refl s

theorem Quiet.recoverUser (quiet : Quiet s t) (u : UserRef) : Quiet s (t.recoverUser u) := by
  have asked := quiet.sql (isUserSessionAddedRoomless (t.lobby.user u).userID t.serverConfig.toServerConfig)
  dsimp only [State.recoverUser]
  split
  · exact asked.disconnectUser u
  · split
    · split
      · exact (asked.sql (addUserSessionRoomless _ _)).disconnectUser u
      · exact asked.sql (addUserSessionRoomless _ _)
    · exact asked

theorem Quiet.dropSilent (quiet : Quiet s t) (u : UserRef) : Quiet s (t.dropSilent u) := by
  unfold State.dropSilent
  split
  · exact quiet.failNetwork u
  · exact quiet

theorem Quiet.disconnectAllUsers (quiet : Quiet s t) : Quiet s t.disconnectAllUsers :=
  quiet.fold (fun s u => (Quiet.refl s).disconnectUser u) _

end Events
end State
end CsoMaster
