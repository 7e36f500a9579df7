import CsoMaster.ServerEffects

/-! The packets with a list or a room in them, over everything that an effect does: what is asked of
each of them holds where it follows from what is known of the lobby, as long as no room grows. -/
namespace CsoMaster

def Message.counted : Message → Bool
  | .serverList _ | .fullUserList _ | .replyCreateAndJoin _ _ _ _ | .hostRestart _ _ _ => true
  | .fullRoomList _ _ | .addRoom _ _ | .updateRoom _ _ => true
  | _ => false

theorem Message.routineUncounted {m : Message} (routine : m.routine = true) : m.counted = false := by
  cases m with
  | serverList | fullUserList | replyCreateAndJoin | hostRestart | fullRoomList | addRoom | updateRoom => cases routine
  | _ => rfl

namespace Room

-- No more users or participants, and no other save data.
structure Within (room other : Room) : Prop where
  users : other.roomUsers.length ≤ room.roomUsers.length
  participants : other.participants.length ≤ room.participants.length
  saved : ∀ m ∈ other.gameMatch, m.saveData = [] ∨ ∃ n ∈ room.gameMatch, m.saveData = n.saveData

section Within
variable {room other : Room} {m : GameMatch} {u : UserRef}

theorem withinSame (users : other.roomUsers = room.roomUsers) (same : other.gameMatch = room.gameMatch) : room.Within other where
  users := (congrArg List.length users).le
  participants := (congrArg (fun found => ((found.map GameMatch.participants).getD []).length) same).le
  saved m playing := .inr ⟨m,same ▸ playing,rfl⟩

theorem withinIdle (users : other.roomUsers = room.roomUsers) (idle : other.gameMatch = none) : room.Within other where
  users := (congrArg List.length users).le
  participants := by simp [Room.participants,idle]
  saved m playing := by rw [idle] at playing; cases playing

theorem withinStarted (users : other.roomUsers = room.roomUsers) (started : other.gameMatch = some ⟨[],[]⟩) :
    room.Within other where
  users := (congrArg List.length users).le
  participants := by simp [Room.participants,GameMatch.participants,started]
  saved m playing := by
    rw [started] at playing
    exact .inl (Option.some.inj playing ▸ rfl)

theorem removedFewer (m : GameMatch) (u : UserRef) : (m.removeGameMatchUser u).participants.length ≤ m.participants.length := by
  simp only [GameMatch.participants,GameMatch.removeGameMatchUser,List.length_map]
  exact List.eraseP_sublist.length_le

theorem withinWithout (room : Room) (u : UserRef) : room.Within (room.withoutUser u) where
  users := List.length_erase_le
  participants := by
    cases playing : room.gameMatch with
    | none => simp [Room.participants,withoutUser,playing]
    | some m =>
      simp only [Room.participants,withoutUser,playing,Option.map_some,Option.getD_some]
      exact removedFewer m u
  saved m playing := by
    obtain ⟨n,before,rfl⟩ := Option.map_eq_some_iff.mp playing
    exact .inr ⟨n,before,rfl⟩

theorem withinReturned (playing : room.gameMatch = some m) (u : UserRef) :
    room.Within { room with gameMatch := some (m.removeGameMatchUser u) } where
  users := Nat.le_refl _
  participants := by
    simp only [Room.participants,playing,Option.map_some,Option.getD_some]
    exact removedFewer m u
  saved n after := by
    obtain rfl := Option.some.inj after
    exact .inr ⟨m,playing,rfl⟩

theorem withinTeam (playing : room.gameMatch = some m) (u : UserRef) (team : Team) :
    room.Within { room with gameMatch := some (m.setTeam u team) } where
  users := Nat.le_refl _
  participants := by simp [Room.participants,playing,GameMatch.participants,GameMatch.setTeam]
  saved n after := by
    obtain rfl := Option.some.inj after
    exact .inr ⟨m,playing,rfl⟩

end Within
end Room

namespace State
open DatabaseManager

-- What `SendFullUserListPacket` and `SendFullRoomListPacket` send in this state.
def userListNow (s : State) : Message := .fullUserList (s.gameUsers s.usersInLobby).1

def roomListNow (s : State) : Message := .fullRoomList (s.lobby.rooms.map s.roomInfo) ROOMLIST_FLAG_ALL

theorem sendFullUserListPacketEq (s : State) (c : ConnectionRef) :
    s.sendFullUserListPacket c = (s.gameUsers s.usersInLobby).2.send c s.userListNow := rfl

-- `I` of the lobby is kept where nothing grows, and gives `P` of what is sent meanwhile.
structure Delivery (I : Lobby → Prop) (P : Message → Prop) : Prop where
  setUser : ∀ (l : Lobby) u user, I l → I (l.setUser u user)
  setRoom : ∀ (l : Lobby) r room, I l → (l.room r).Within room → I (l.setRoom r room)
  eraseUser : ∀ (l : Lobby) u, I l → I { l with users := l.users.erase u }
  eraseRoom : ∀ (l : Lobby) r, I l → I { l with rooms := l.rooms.erase r }
  eraseRooms : ∀ l : Lobby, I l → I { l with rooms := [] }
  plain : ∀ m : Message, m.counted = false → P m
  userList : ∀ s : State, I s.lobby → P s.userListNow
  roomList : ∀ s : State, I s.lobby → P s.roomListNow
  room : ∀ (s : State) r flag, I s.lobby → P (.addRoom (s.roomInfo r) flag) ∧ P (.updateRoom (s.roomInfo r) flag)
  reply : ∀ (l : Lobby) r hostUserID roomID settings (gameUsers : List GameUser), I l →
    gameUsers.length ≤ (l.room r).roomUsers.length → P (.replyCreateAndJoin hostUserID roomID settings gameUsers)
  restart : ∀ (l : Lobby) r m userID (gameMatchUsers : List UInt32), I l → (l.room r).gameMatch = some m →
    gameMatchUsers.length ≤ m.participants.length → P (.hostRestart userID gameMatchUsers m.saveData)

def Delivers (I : Lobby → Prop) (P : Message → Prop) (s t : State) : Prop :=
  I s.lobby → I t.lobby ∧ ∃ more, t.sent = s.sent ++ more ∧ ∀ entry ∈ more, P entry.2

section Delivers
variable {I : Lobby → Prop} {P : Message → Prop} {s t m : State} {message : Message}

theorem Delivers.refl (s : State) : Delivers I P s s := fun held => ⟨held,[],by simp⟩

theorem Delivers.trans (left : Delivers I P s m) (right : Delivers I P m t) : Delivers I P s t := by
  intro held
  obtain ⟨between,first,before,given⟩ := left held
  obtain ⟨after,second,also,too⟩ := right between
  refine ⟨after,first ++ second,by rw [also,before,List.append_assoc],fun entry mem => ?_⟩
  exact (List.mem_append.mp mem).elim (given entry) (too entry)

theorem Delivers.same (delivers : Delivers I P s m) (lobby : t.lobby = m.lobby) (sent : t.sent = m.sent) : Delivers I P s t :=
  delivers.trans fun held => ⟨lobby ▸ held,[],by simp [sent]⟩

theorem Delivers.setLobby (delivers : Delivers I P s t) {l : Lobby} (kept : I t.lobby → I l) : Delivers I P s (t.setLobby l) :=
  delivers.trans fun held => ⟨kept held,[],by simp [State.setLobby]⟩

theorem Delivers.exec {α : Type} (delivers : Delivers I P s t) (q : Sql α) : Delivers I P s (t.exec q) := delivers.same rfl rfl

theorem Delivers.updateRoom (delivers : Delivers I P s t) (r : RoomRef) : Delivers I P s (t.updateRoom r) := delivers.exec _

theorem Delivers.erasing (delivers : Delivers I P s t) (found : Prop) [Decidable found] : Delivers I P s (t.erasing found) :=
  delivers.same rfl rfl

theorem Delivers.fold {α : Type} {f : State → α → State} (delivers : Delivers I P s t) (each : ∀ s a, Delivers I P s (f s a))
    (as : List α) : Delivers I P s (as.foldl f t) := by
  induction as generalizing t with
  | nil => exact delivers
  | cons a as ih => exact ih (delivers.trans (each t a))

theorem Delivers.send (delivers : Delivers I P s t) (given : I t.lobby → P message) (c : ConnectionRef) :
    Delivers I P s (t.send c message) := by
  refine delivers.trans fun held => ⟨by rwa [sendLobby],?_⟩
  unfold State.send
  split
  · exact ⟨[(c,message)],rfl,by simpa using given held⟩
  · exact ⟨[],by simp⟩

theorem Delivers.sendTo (delivers : Delivers I P s t) (given : I t.lobby → P message) (u : UserRef) :
    Delivers I P s (t.sendTo u message) := delivers.send given _

theorem Delivers.tell (delivers : Delivers I P s t) (given : I t.lobby → P message) (u : UserRef) (r : RoomRef) :
    Delivers I P s (t.tell u r message) := by
  refine delivers.trans fun held => ⟨by rwa [tellLobby],?_⟩
  unfold State.tell
  split
  · exact ⟨[((t.lobby.user u).connection,message)],rfl,by simpa using given held⟩
  · exact ⟨[],by simp⟩

theorem Delivers.sendAll (delivers : Delivers I P s t) (given : I t.lobby → P message) (us : List UserRef) :
    Delivers I P s (t.sendAll us message) := by
  refine delivers.trans fun held => ?_
  exact (Delivers.refl t).fold (fun s u => (Delivers.refl s).sendTo (fun _ => given held) u) us held

theorem Delivers.tellAll (delivers : Delivers I P s t) (given : I t.lobby → P message) (us : List UserRef) (r : RoomRef) :
    Delivers I P s (t.tellAll us r message) := by
  refine delivers.trans fun held => ?_
  exact (Delivers.refl t).fold (fun s u => (Delivers.refl s).tell (fun _ => given held) u r) us held

theorem Delivers.getUserCharacter (delivers : Delivers I P s t) (u : UserRef) (flag : UInt16) :
    Delivers I P s (t.getUserCharacter u flag).2 := delivers.same rfl rfl

theorem Delivers.gameUsers (delivers : Delivers I P s t) (us : List UserRef) : Delivers I P s (t.gameUsers us).2 := by
  induction us generalizing t with
  | nil => exact delivers
  | cons u us ih => exact ih (delivers.getUserCharacter u _)

end Delivers

theorem introduceFew (s : State) (r : RoomRef) (newcomer : GameUser) (us : List UserRef) :
    (s.introduce r newcomer us).1.length ≤ us.length := by
  induction us generalizing s with
  | nil => exact Nat.le_refl 0
  | cons v us ih =>
    dsimp only [introduce]
    split
    · exact Nat.succ_le_succ (ih _)
    · exact (ih _).trans (Nat.le_succ _)

-- A room's users with the newcomer among them.
theorem introducedFew (s : State) {r : RoomRef} {u : UserRef} (newcomer : GameUser) {roomUsers : List UserRef} (mem : u ∈ roomUsers) :
    ((s.introduce r newcomer (roomUsers.filter (· ≠ u))).1 ++ [newcomer]).length ≤ roomUsers.length := by
  have others : (roomUsers.filter (· ≠ u)).length < roomUsers.length :=
    List.length_filter_lt_length_iff_exists.mpr ⟨u,mem,by simp⟩
  have introduced := s.introduceFew r newcomer (roomUsers.filter (· ≠ u))
  rw [List.length_append,List.length_singleton]
  omega

section Rooms
variable {I : Lobby → Prop} {P : Message → Prop} {s t m : State} (rules : Delivery I P)
include rules

theorem Delivery.plainly {message : Message} (plain : message.counted = false) {l : Lobby} : I l → P message :=
  fun _ => rules.plain message plain

theorem Delivers.quiet (delivers : Delivers I P s m) (quiet : Quiet m t) : Delivers I P s t := by
  refine delivers.trans fun held => ⟨quiet.lobby ▸ held,?_⟩
  obtain ⟨more,sent,routine⟩ := quiet.sent
  exact ⟨more,sent,fun entry mem => rules.plain _ (Message.routineUncounted (routine entry mem))⟩

theorem Delivers.setUser (delivers : Delivers I P s t) (u : UserRef) (user : User) :
    Delivers I P s (t.setLobby (t.lobby.setUser u user)) :=
  delivers.setLobby (rules.setUser _ u user)

theorem Delivers.setRoom (delivers : Delivers I P s t) {r : RoomRef} {room : Room} (within : (t.lobby.room r).Within room) :
    Delivers I P s (t.setLobby (t.lobby.setRoom r room)) :=
  delivers.setLobby fun held => rules.setRoom _ r room held within

theorem Delivers.sendAddUserPacketToAll (delivers : Delivers I P s t) (u : UserRef) :
    Delivers I P s (t.sendAddUserPacketToAll u) := by
  have asked := delivers.getUserCharacter u USERCHARACTER_FLAG_ALL
  dsimp only [State.sendAddUserPacketToAll]
  split
  · exact asked
  · exact asked.sendAll (rules.plainly rfl) _

theorem Delivers.sendRemoveUserPacketToAll (delivers : Delivers I P s t) (u : UserRef) :
    Delivers I P s (t.sendRemoveUserPacketToAll u) :=
  delivers.sendAll (rules.plainly rfl) _

theorem Delivers.sendAddRoomPacketToAll (delivers : Delivers I P s t) (r : RoomRef) (flag : UInt16) :
    Delivers I P s (t.sendAddRoomPacketToAll r flag) :=
  delivers.sendAll (fun held => (rules.room t r flag held).1) _

theorem Delivers.sendRemoveRoomPacketToAll (delivers : Delivers I P s t) (roomID : UInt16) :
    Delivers I P s (t.sendRemoveRoomPacketToAll roomID) :=
  delivers.sendAll (rules.plainly rfl) _

theorem Delivers.sendUpdateRoomPacketToAll (delivers : Delivers I P s t) (r : RoomRef) (flag : UInt16) :
    Delivers I P s (t.sendUpdateRoomPacketToAll r flag) :=
  delivers.sendAll (fun held => (rules.room t r flag held).2) _

theorem Delivers.sendFullUserListPacket (delivers : Delivers I P s t) (c : ConnectionRef) :
    Delivers I P s (t.sendFullUserListPacket c) := by
  refine delivers.trans fun held => ?_
  rw [sendFullUserListPacketEq]
  exact ((Delivers.refl t).gameUsers _).send (fun _ => rules.userList t held) c held

theorem Delivers.sendFullRoomListPacket (delivers : Delivers I P s t) (c : ConnectionRef) :
    Delivers I P s (t.sendFullRoomListPacket c) :=
  delivers.send (rules.roomList t) c

theorem Delivers.showLobby (delivers : Delivers I P s t) (u : UserRef) : Delivers I P s (t.showLobby u) :=
  (((delivers.sendAddUserPacketToAll rules u).sendTo (rules.plainly rfl) u).sendFullUserListPacket rules _).sendFullRoomListPacket
    rules _

theorem Delivers.enterLobby (delivers : Delivers I P s t) (u : UserRef) : Delivers I P s (t.enterLobby u) :=
  (((delivers.setUser rules u _).sendAddUserPacketToAll rules u).sendFullUserListPacket rules _).sendFullRoomListPacket rules _

theorem Delivers.destroyRoom (delivers : Delivers I P s t) (roomUsers : List UserRef) :
    Delivers I P s (t.destroyRoom roomUsers) :=
  delivers.fold (fun s u => ((Delivers.refl s).setUser rules u _).showLobby rules u) roomUsers

theorem Delivers.removeRoom (delivers : Delivers I P s t) (r : RoomRef) : Delivers I P s (t.removeRoom r) :=
  ((((delivers.sendRemoveRoomPacketToAll rules _).exec _).erasing _).setLobby (rules.eraseRoom _ r)).destroyRoom rules _

theorem Delivers.removeAllRooms (delivers : Delivers I P s t) : Delivers I P s t.removeAllRooms :=
  (delivers.setLobby (rules.eraseRooms _)).fold
    (fun s _ => ((Delivers.refl s).sendRemoveRoomPacketToAll rules _).destroyRoom rules _) _

theorem Delivers.announceRoomState (delivers : Delivers I P s t) (r : RoomRef) (roomState : RoomState) :
    Delivers I P s (t.announceRoomState r roomState) := by
  refine (delivers.sendUpdateRoomPacketToAll rules r _).fold (fun s v => ?_) _
  have settings : Delivers I P s (s.tell v r (.replyUpdateRoomSettings (.ofRoomState roomState))) :=
    (Delivers.refl s).tell (rules.plainly rfl) v r
  exact settings.tell (fun held => (rules.room s r _ (by rwa [tellLobby] at held)).2) v r

theorem Delivers.startMatch (delivers : Delivers I P s t) (r : RoomRef) : Delivers I P s (t.startMatch r) := by
  have within : (t.lobby.room r).Within (t.lobby.room r).startMatch := Room.withinStarted rfl rfl
  exact (delivers.setRoom rules within).announceRoomState rules r _

theorem Delivers.endMatch (delivers : Delivers I P s t) (r : RoomRef) : Delivers I P s (t.endMatch r) := by
  have within : (t.lobby.room r).Within (t.lobby.room r).endMatch := Room.withinIdle rfl rfl
  exact (delivers.setRoom rules within).announceRoomState rules r _

theorem Delivers.updateRoomHostUser (delivers : Delivers I P s t) (r : RoomRef) (u : UserRef) :
    Delivers I P s (t.updateRoomHostUser r u) := by
  have within : (t.lobby.room r).Within { t.lobby.room r with roomHostUser := u } := Room.withinSame rfl rfl
  exact (delivers.setRoom rules within).tellAll (fun held => (rules.room _ r _ held).2) _ r

theorem Delivers.sendHostRestart (delivers : Delivers I P s t) {r : RoomRef} {m : GameMatch}
    (playing : (t.lobby.room r).gameMatch = some m) (u : UserRef) : Delivers I P s (t.sendHostRestart m u) := by
  refine Delivers.fold (delivers.sendTo (fun held => ?_) u) (fun s v => ?_) _
  · exact rules.restart t.lobby r m _ _ held playing (by simpa using List.length_filter_le _ m.participants)
  · exact ((Delivers.refl s).sendTo (rules.plainly rfl) v).sendTo (rules.plainly rfl) v

theorem Delivers.migrate (delivers : Delivers I P s t) {r : RoomRef} {m : GameMatch}
    (playing : (t.lobby.room r).gameMatch = some m) (u : UserRef) : Delivers I P s (t.migrate r m u) := by
  have hosted : ((t.updateRoomHostUser r u).lobby.room r).gameMatch = some m := by
    simpa [updateRoomHostUser,roomSet] using playing
  have restarted := (delivers.updateRoomHostUser rules r u).sendHostRestart rules hosted u
  dsimp only [State.migrate]
  split
  · exact restarted.setRoom rules (Room.withinIdle rfl rfl)
  · exact restarted

theorem Delivers.hostLeft (delivers : Delivers I P s t) (r : RoomRef) (first : UserRef) :
    Delivers I P s (t.hostLeft r first) := by
  unfold State.hostLeft
  split
  · exact delivers.updateRoomHostUser rules r first
  · rename_i m playing
    split
    · exact (delivers.endMatch rules r).updateRoomHostUser rules r first
    · exact delivers.migrate rules playing _

theorem Delivers.hostReturned (delivers : Delivers I P s t) {r : RoomRef} {m : GameMatch}
    (playing : (t.lobby.room r).gameMatch = some m) : Delivers I P s (t.hostReturned r m) := by
  unfold State.hostReturned
  split
  · exact delivers.endMatch rules r
  · exact delivers.migrate rules playing _

theorem Delivers.takeOut (delivers : Delivers I P s t) (r : RoomRef) (u : UserRef) : Delivers I P s (t.takeOut r u) :=
  (((delivers.erasing _).setRoom rules (Room.withinWithout _ u)).sendUpdateRoomPacketToAll rules r _).setUser rules u _

theorem Delivers.removeRoomUser (delivers : Delivers I P s t) (r : RoomRef) (u : UserRef) :
    Delivers I P s (t.removeRoomUser r u) := by
  have out := delivers.takeOut rules r u
  cases left : (t.lobby.room r).roomUsers.erase u with
  | nil =>
    rw [removeRoomUserLast left]
    exact out.removeRoom rules r
  | cons first rest =>
    have seen : Delivers I P s (t.seeOff r u) := (out.exec _).tellAll (rules.plainly rfl) _ r
    rw [removeRoomUserOthers left]
    split
    · exact seen.hostLeft rules r first
    · exact seen

theorem Delivers.dropUser (delivers : Delivers I P s t) (u : UserRef) : Delivers I P s (t.dropUser u) := by
  have counted (t : State) : Delivers I P t t.updateChannelNumPlayers := by
    rcases t.updateChannelNumPlayersCases with ⟨-,quiet⟩ | ⟨-,faulted⟩
    · exact (Delivers.refl t).quiet rules quiet
    · rw [faulted]
      exact (Delivers.refl t).same rfl rfl
  exact (((delivers.exec _).erasing _).setLobby (rules.eraseUser _ u)).trans (counted _)

theorem Delivers.removeUser (delivers : Delivers I P s t) (u : UserRef) : Delivers I P s (t.removeUser u) := by
  have left : Delivers I P s (t.farewell u) := by
    unfold State.farewell
    split
    · exact delivers.sendRemoveUserPacketToAll rules u
    · exact delivers
  rw [removeUserEq]
  cases found : t.lobby.getRoomByRoomID (t.lobby.user u).currentRoomID with
  | none =>
    rw [leaveLobbyOutside found]
    exact left.dropUser rules u
  | some r =>
    rw [leaveLobbyInside found]
    exact (left.removeRoomUser rules r u).dropUser rules u

theorem Delivers.roomRefused (delivers : Delivers I P s t) (u : UserRef) : Delivers I P s (t.roomRefused u) :=
  (((delivers.setUser rules u _).sendAddUserPacketToAll rules u).sendTo (rules.plainly rfl) u).destroyRoom rules _

-- `lands`: what is known of the lobby stays known with the new room in it.
theorem Delivers.roomAdded (delivers : Delivers I P s t) (u : UserRef) {newRoom : Room} (one : newRoom.roomUsers.length = 1)
    (lands : I t.lobby → I (t.lobby.addRoom newRoom)) (userCharacter : UserCharacter) (fastStart : Bool) :
    Delivers I P s (t.roomAdded u newRoom userCharacter fastStart) := by
  have registered := delivers.setLobby lands
  have shown := registered.sendAddRoomPacketToAll rules t.lobby.fresh ROOMLIST_FLAG_ALL
  have single : ((t.lobby.addRoom newRoom).room t.lobby.fresh).roomUsers.length = 1 := by simpa [Lobby.addRoom] using one
  have replied (hostUserID : UInt32) (gameUser : GameUser) : I (t.lobby.addRoom newRoom) →
      P (.replyCreateAndJoin hostUserID newRoom.roomID newRoom.roomSettings [gameUser]) :=
    fun held => rules.reply _ t.lobby.fresh _ _ _ _ held single.ge
  dsimp only [State.roomAdded]
  split
  · exact (shown.tell (by simpa using replied _ _) u _).sendTo (rules.plainly rfl) u
  · exact shown.tell (by simpa using replied _ _) u _

theorem Delivers.openRoom (delivers : Delivers I P s t) (u : UserRef) (settings : RoomSettings)
    (lands : I t.lobby → I (t.lobby.createRoom u settings true)) (userCharacter : UserCharacter) (fastStart : Bool) :
    Delivers I P s (t.openRoom u userCharacter settings fastStart) := by
  refine delivers.trans fun held => ?_
  have approached : Delivers I P t (t.approachRoom u) :=
    ((Delivers.refl t).setUser rules u _).sendRemoveUserPacketToAll rules u
  have added := approached.exec (addRoom ((t.approachRoom u).roomRow (t.opened u settings)))
  rw [openRoomEq]
  dsimp only
  split
  · exact added.roomRefused rules u held
  · refine added.roomAdded rules u (by rfl) (fun _ => ?_) _ _ held
    have landed := lands held
    simpa [Lobby.createRoom,opened] using landed

theorem Delivers.introduce (delivers : Delivers I P s t) (r : RoomRef) (newcomer : GameUser) (us : List UserRef) :
    Delivers I P s (t.introduce r newcomer us).2 := by
  induction us generalizing t with
  | nil => exact delivers
  | cons v us ih =>
    exact ih (((delivers.getUserCharacter v _).tell (rules.plainly rfl) v r).tell (rules.plainly rfl) v r)

theorem Delivers.enterRoom (delivers : Delivers I P s t) (u : UserRef) (r : RoomRef)
    (lands : I t.lobby → I (t.lobby.joinRoom u r)) (userCharacter : UserCharacter) :
    Delivers I P s (t.enterRoom u r userCharacter) := by
  have shown := (((delivers.setLobby lands).updateRoom r).sendRemoveUserPacketToAll rules u).sendUpdateRoomPacketToAll rules r
    ROOMLIST_FLAG_CURRENTPLAYERS
  refine Delivers.tell (Delivers.tell (shown.introduce rules r _ _) (fun held => ?_) u r) (rules.plainly rfl) u r
  refine rules.reply _ r _ _ _ _ held (Nat.le_trans (introducedFew _ _ ?_) (Nat.le_of_eq ?_))
  · simp [Lobby.joinRoom,Lobby.setUser,roomSet,Room.addRoomUser]
  · simp

theorem Delivers.changeRoomSettings (delivers : Delivers I P s t) (r : RoomRef) (settings : RoomSettings) :
    Delivers I P s (t.changeRoomSettings r settings) := by
  have within : (t.lobby.room r).Within ((t.lobby.room r).updateRoomSettings settings) := Room.withinSame rfl rfl
  exact (((delivers.setRoom rules within).exec _).sendUpdateRoomPacketToAll rules r _).tellAll (rules.plainly rfl) _ r

theorem Delivers.returnUser (delivers : Delivers I P s t) (u : UserRef) {r : RoomRef} {m : GameMatch}
    (playing : (t.lobby.room r).gameMatch = some m) : Delivers I P s (t.returnUser u r m) := by
  have left := delivers.setRoom rules (Room.withinReturned playing u)
  dsimp only [State.returnUser]
  split
  · exact (left.hostReturned rules (by simp [roomSet])).setUser rules u _
  · exact left.setUser rules u _

theorem Delivers.endGame (delivers : Delivers I P s t) (r : RoomRef) (m : GameMatch) : Delivers I P s (t.endGame r m) := by
  refine Delivers.endMatch rules (delivers.fold (fun s v => ?_) _) r
  exact (((Delivers.refl s).setUser rules v _).sendTo (rules.plainly rfl) v).sendTo (rules.plainly rfl) v

theorem Delivers.recoverRooms (delivers : Delivers I P s t) : Delivers I P s t.recoverRooms := by
  refine (delivers.exec _).fold (fun s r => ?_) _
  have added : Delivers I P s (s.exec (addRoom (s.roomRow (s.lobby.room r)))) := (Delivers.refl s).exec _
  dsimp only [recoverRoom]
  split
  · exact added.removeRoom rules r
  · exact added

end Rooms

-- The five effects that put something into the lobby.
inductive Grown (may : Lobby → Lobby.Op → Prop) (s : State) : Lobby → Prop where
  | addUser {c : ConnectionRef} {userID : UInt32} {userName : Bytes} (seat : s.lobby.users.length < s.serverConfig.maxPlayers) :
      Grown may s (s.lobby.addUser (.new c userID userName))
  | openRoom {u : UserRef} {settings : RoomSettings} (op : may s.lobby (.createRoom u settings true)) :
      Grown may s (s.lobby.createRoom u settings true)
  | enterRoom {u : UserRef} {r : RoomRef} (op : may s.lobby (.joinRoom u r)) : Grown may s (s.lobby.joinRoom u r)
  | saveData {u : UserRef} {r : RoomRef} {m : GameMatch} {saveData : Bytes} (op : may s.lobby (.saveData u r m saveData))
      (small : saveData.length ≤ SAVEDATA_MAX_SIZE) :
      Grown may s (s.lobby.setRoom r { s.lobby.room r with gameMatch := some { m with saveData := saveData } })
  | sendUserStatus {u target : UserRef} {r : RoomRef} {m : GameMatch} (op : may s.lobby (.sendUserStatus u r m target)) :
      Grown may s (s.lobby.sendUserStatus r m target)

section Effects
variable {I : Lobby → Prop} {P : Message → Prop} {s t : State} {may : Lobby → Lobby.Op → Prop}

-- Every effect delivers, where the five land well and the server list is good to send.
theorem effectDelivers (rules : Delivery I P) (admitted : ∀ l op, may l op → l.Admitted op)
    (servers : P (.serverList s.serverConfig.serverList)) (lands : ∀ l, s.Grown may l → I s.lobby → I l) (effect : Effect may s t) :
    Delivers I P s t := by
  have same : Delivers I P s s := Delivers.refl s
  cases effect with
  | quiet quiet => exact same.quiet rules quiet
  | fault | connect => exact same.same rfl rfl
  | showServers c => exact same.send (fun _ => servers) c
  | addUser known op seat => exact same.setLobby (lands _ (.addUser seat))
  | removeUser op => exact same.removeUser rules _
  | setUserNetwork op | showServerList op => exact same.setUser rules _ _
  | leaveLobby op present => exact (same.setUser rules _ _).sendRemoveUserPacketToAll rules _
  | enterLobby op => exact same.enterLobby rules _
  | openRoom op => exact same.openRoom rules _ _ (lands _ (.openRoom (op true))) _ _
  | enterRoom op => exact same.enterRoom rules _ _ (lands _ (.enterRoom op)) _
  | leaveRoom op => exact (same.removeRoomUser rules _ _).showLobby rules _
  | changeRoomSettings op => exact same.changeRoomSettings rules _ _
  | returnUser op => exact same.returnUser rules _ (admitted _ _ op).2
  | startMatch op => exact same.startMatch rules _
  | saveData op small => exact same.setLobby (lands _ (.saveData op small))
  | sendUserStatus op => exact same.setLobby (lands _ (.sendUserStatus op))
  | endGame op => exact same.endGame rules _ _
  | selectTeam op => exact same.setRoom rules (Room.withinTeam (admitted _ _ op).1.1.2 _ _)
  | recoverRooms op => exact same.recoverRooms rules
  | removeAllRooms op => exact (same.removeAllRooms rules).exec _

end Effects
end State
end CsoMaster
