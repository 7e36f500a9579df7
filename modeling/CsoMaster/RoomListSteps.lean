import CsoMaster.ClientCopies
import CsoMaster.RoomList
import CsoMaster.RoomMembership
import CsoMaster.RoomTable

/-! The users in the lobby hold the room list, over whole runs. A room's new host is made known
to its members only; as long as nobody else is there to miss it, the list that the lobby has
been sent is the registry. -/
namespace CsoMaster.State
open DatabaseManager

-- The listeners hold the room list as it is.
def RoomsShown (but : UserRef → Prop) (s : State) : Prop := Current roomListReplica Lobby.roomList but s

theorem RoomsShown.informed {but : UserRef → Prop} {s : State} (shown : RoomsShown but s) :
    Informed roomListReplica (· = some s.lobby.roomList) but s :=
  shown

section Sends
variable {P : Option RoomList → Prop} {but : UserRef → Prop} {s t : State} {u : UserRef} {r : RoomRef}

theorem fullRoomListOpens (s : State) :
    roomListReplica.opens (.fullRoomList (s.lobby.rooms.map s.roomInfo) ROOMLIST_FLAG_ALL) = some s.lobby.roomList := by
  have shown : (fun room : RoomInfo => room.read ROOMLIST_FLAG_ALL default) ∘ s.roomInfo = s.lobby.roomEntry := rfl
  refine congrArg some (funext fun roomID => ?_)
  rw [List.find?_map,Option.map_map,shown]
  rfl

-- A user that has come to the lobby is shown it.
theorem informedShowLobby (informed : Informed roomListReplica P (fun v => but v ∨ v = u) s)
    (right : P (some s.lobby.roomList)) : Informed roomListReplica P but (s.showLobby u) := by
  have ignored {m : Message} (ignores : roomListReplica.Ignores m) : roomListReplica.Respects P m := ignores.respects P
  have unheard : Unheard (roomListReplica.Respects P) (fun _ => True) s
      (((s.sendAddUserPacketToAll u).sendTo u .leaveRoomInGame).sendFullUserListPacket (s.lobby.user u).connection) :=
    (((Unheard.refl s).sendAddUserPacketToAll (fun _ => ignored (roomListIgnoresUsers.2.1 _)) u).sendTo
      (ignored (roomListPlain rfl)) u).sendFullUserListPacket (fun _ => ignored (roomListIgnoresUsers.1 _)) _
  have whole : s.showLobby u =
      (((s.sendAddUserPacketToAll u).sendTo u .leaveRoomInGame).sendFullUserListPacket (s.lobby.user u).connection).sendFullRoomListPacket
        (s.lobby.user u).connection := by
    simp [showLobby]
  rw [whole]
  refine (informed.unheard unheard).send (fullRoomListOpens _) (by rw [unheard.lobby]; exact right) fun v _ out stays => ?_
  rw [unheard.lobby,out.resolve_left stays]

theorem informedDestroyRoom (informed : Informed roomListReplica P but s) (right : P (some s.lobby.roomList))
    (us : List UserRef) : Informed roomListReplica P but (s.destroyRoom us) := by
  unfold destroyRoom
  induction us generalizing s with
  | nil => exact informed
  | cons u us ih =>
    have back : (s.lobby.backToLobby u).roomList = s.lobby.roomList :=
      Lobby.roomListUsers rfl rfl (Lobby.setUserSame s.lobby u rfl rfl)
    have shown : Informed roomListReplica P but ((s.setLobby (s.lobby.backToLobby u)).showLobby u) :=
      informedShowLobby (informed.setUser u _) (by rw [setLobbyLobby,back]; exact right)
    exact ih shown (by rw [showLobbyLobby,setLobbyLobby,back]; exact right)

end Sends

section Rooms
variable {but : UserRef → Prop} {s t : State} {u : UserRef} {r : RoomRef} {flag : UInt16}

theorem absorbUpdate {l : Lobby} {room : Room} {info : RoomInfo} (sound : l.Sound) (registered : r ∈ l.rooms)
    (id : room.roomID = (l.room r).roomID) (infoID : info.roomID = room.roomID)
    (read : info.read flag (l.roomEntry r) = (l.setRoom r room).roomEntry r) :
    roomListReplica.absorb (some l.roomList) (.updateRoom info flag) = some (l.setRoom r room).roomList := by
  rw [Replica.absorbChange rfl,← Lobby.roomListSetRoom sound registered id,← read]
  change some (Function.update l.roomList info.roomID ((l.roomList info.roomID).map (info.read flag))) = _
  rw [infoID,id,Lobby.roomListAt sound registered,Option.map_some]

-- A packet that shows a room as it is tells nobody anything wrong.
theorem updateRespects (sound : s.lobby.Sound) (registered : r ∈ s.lobby.rooms) (flag : UInt16) :
    roomListReplica.Respects (· = some s.lobby.roomList) (.updateRoom (s.roomInfo r) flag) := by
  have same : s.lobby.setRoom r (s.lobby.room r) = s.lobby := by simp [Lobby.setRoom]
  rintro _ rfl
  refine (absorbUpdate sound registered rfl rfl ?_).trans (by rw [same])
  rw [same]
  simp only [RoomInfo.read,Lobby.roomEntry,roomInfo,RoomEntry.mk.injEq]
  exact ⟨ite_self _,ite_self _⟩

theorem RoomsShown.takeOut (shown : RoomsShown but s) (sound : s.lobby.Sound) (registered : r ∈ s.lobby.rooms) (u : UserRef) :
    RoomsShown (fun v => but v ∨ v = u) (s.takeOut r u) := by
  have left : Informed roomListReplica (· = some s.lobby.roomList) but
      ((s.erasing (u ∈ (s.lobby.room r).roomUsers)).setLobby (s.lobby.setRoom r ((s.lobby.room r).withoutUser u))) :=
    Informed.setRoom (shown.unheard ((Unheard.refl s).erasing _)) r _
  have told : Informed roomListReplica (· = some (s.lobby.setRoom r ((s.lobby.room r).withoutUser u)).roomList) but
      (((s.erasing (u ∈ (s.lobby.room r).roomUsers)).setLobby
        (s.lobby.setRoom r ((s.lobby.room r).withoutUser u))).sendUpdateRoomPacketToAll r ROOMLIST_FLAG_CURRENTPLAYERS) := by
    refine left.sendAll (updateRoomSettles _ _) (fun v listens _ => listensIn listens) ?_
    rintro _ rfl
    refine absorbUpdate sound registered rfl (by simp [roomInfo,Lobby.setRoom]) ?_
    rw [RoomInfo.readPlayers]
    simp [roomInfo,Lobby.roomEntry,Lobby.setRoom,Room.withoutUser]
  have back : (s.takeOut r u).lobby.roomList = (s.lobby.setRoom r ((s.lobby.room r).withoutUser u)).roomList := by
    rw [takeOutLobby]
    exact Lobby.roomListUsers rfl rfl (Lobby.setUserSame _ u rfl rfl)
  refine Current.of (s := s.setLobby (s.lobby.setRoom r ((s.lobby.room r).withoutUser u))) ?_ back
  exact Informed.setUser told u _

theorem RoomsShown.announceRoomState (shown : RoomsShown but s) (r : RoomRef) (roomState : RoomState) :
    RoomsShown but (s.announceRoomState r roomState) := by
  have updates (room : RoomInfo) := (roomListIgnoresState room).respects (· = some s.lobby.roomList)
  exact shown.unheard ((Unheard.refl s).announceRoomState ⟨(roomListPlain rfl).respects _,trivial⟩
    (fun room => ⟨updates room,trivial⟩) r)

theorem RoomsShown.startMatch (shown : RoomsShown but s) (r : RoomRef) : RoomsShown but (s.startMatch r) := by
  have started : RoomsShown but (s.setLobby (s.lobby.setRoom r (s.lobby.room r).startMatch)) :=
    shown.setRoom (Lobby.roomListKept rfl rfl rfl)
  exact started.announceRoomState r _

theorem RoomsShown.endMatch (shown : RoomsShown but s) (r : RoomRef) : RoomsShown but (s.endMatch r) := by
  have ended : RoomsShown but (s.setLobby (s.lobby.setRoom r (s.lobby.room r).endMatch)) :=
    shown.setRoom (Lobby.roomListKept rfl rfl rfl)
  exact ended.announceRoomState r _

-- Nobody in the lobby misses it when `v` becomes the host.
def Unmissed (but : UserRef → Prop) (r : RoomRef) (v : UserRef) (s : State) : Prop :=
  (s.lobby.user v).userID = (s.lobby.user (s.lobby.room r).roomHostUser).userID ∨
    ∀ w, s.Listens w → ¬ but w → w ∈ (s.lobby.room r).roomUsers

theorem RoomsShown.updateRoomHostUser {v : UserRef} (shown : RoomsShown but s) (sound : s.lobby.Sound) (registered : r ∈ s.lobby.rooms)
    (unmissed : s.Unmissed but r v) : RoomsShown but (s.updateRoomHostUser r v) := by
  have listening (w : UserRef)
      (listens : (s.setLobby (s.lobby.setRoom r { s.lobby.room r with roomHostUser := v })).Listens w) : s.Listens w :=
    ⟨listens.present,listens.status,listens.isOpen⟩
  have changed : (s.lobby.setRoom r { s.lobby.room r with roomHostUser := v }).Sound := sound.setRoom rfl
  rcases unmissed with same | heard
  · have list : (s.lobby.setRoom r { s.lobby.room r with roomHostUser := v }).roomList = s.lobby.roomList := by
      refine Lobby.roomListSame rfl fun q _ => ?_
      by_cases own : q = r
      · subst own
        simp [Lobby.setRoom,Lobby.roomEntry,same]
      · simp [Lobby.setRoom,Lobby.roomEntry,own]
    have handed : RoomsShown but (s.setLobby (s.lobby.setRoom r { s.lobby.room r with roomHostUser := v })) := shown.setRoom list
    have respects := updateRespects (s := s.setLobby (s.lobby.setRoom r { s.lobby.room r with roomHostUser := v }))
      changed registered ROOMLIST_FLAG_ROOMHOST
    exact handed.unheard ((Unheard.refl _).tellAll respects trivial _ r)
  · have handed : Informed roomListReplica (· = some s.lobby.roomList) but
        (s.setLobby (s.lobby.setRoom r { s.lobby.room r with roomHostUser := v })) := shown.informed.setRoom r _
    refine Current.of (s := s.setLobby (s.lobby.setRoom r { s.lobby.room r with roomHostUser := v })) ?_
      (by rw [updateRoomHostUserLobby,setLobbyLobby])
    refine handed.tellAll (updateRoomSettles _ _) (fun w listens stays => ?_) ?_
    · simpa [Lobby.setRoom] using heard w (listening w listens) stays
    · rintro _ rfl
      refine absorbUpdate sound registered rfl (by simp [roomInfo,Lobby.setRoom]) ?_
      rw [RoomInfo.readHost]
      simp [roomInfo,Lobby.roomEntry,Lobby.setRoom]

theorem RoomsShown.migrate {m : GameMatch} {v : UserRef} (shown : RoomsShown but s) (sound : s.lobby.Sound)
    (registered : r ∈ s.lobby.rooms) (unmissed : s.Unmissed but r v) : RoomsShown but (s.migrate r m v) := by
  have handed := shown.updateRoomHostUser sound registered unmissed
  have restarted : RoomsShown but ((s.updateRoomHostUser r v).sendHostRestart m v) :=
    handed.unheard ((Unheard.refl _).sendHostRestart (fun _ plain => (roomListPlain plain).respects _) m v)
  dsimp only [State.migrate]
  split
  · exact restarted.setRoom (Lobby.roomListKept rfl rfl rfl)
  · exact restarted

theorem Unmissed.later {v : UserRef} (unmissed : s.Unmissed but r v) (steady : Steady s t) (users : t.lobby.users = s.lobby.users)
    (user : t.lobby.user = s.lobby.user) (host : (t.lobby.room r).roomHostUser = (s.lobby.room r).roomHostUser)
    (members : (t.lobby.room r).roomUsers = (s.lobby.room r).roomUsers) : t.Unmissed but r v := by
  unfold Unmissed
  rw [user,host,members]
  refine unmissed.imp_right fun heard w listens stays => heard w ?_ stays
  obtain ⟨mem,status,isOpen⟩ := listens
  rw [users] at mem
  rw [user] at status isOpen
  exact ⟨mem,status,steady.closed _ isOpen⟩

-- Who is next in a room that its host has left.
theorem RoomsShown.hostLeft {first : UserRef} (shown : RoomsShown but s) (sound : s.lobby.Sound) (registered : r ∈ s.lobby.rooms)
    (unmissed : s.Unmissed but r ((s.lobby.room r).participants.head?.getD first)) : RoomsShown but (s.hostLeft r first) := by
  cases playing : (s.lobby.room r).gameMatch with
  | none =>
    simp only [State.hostLeft,playing]
    rw [Room.noParticipants playing] at unmissed
    exact shown.updateRoomHostUser sound registered unmissed
  | some m =>
    rw [Room.participantsOf playing] at unmissed
    cases seats : m.gameMatchUsers with
    | nil =>
      simp only [State.hostLeft,playing,seats]
      simp only [GameMatch.participants,seats,List.map_nil,List.head?_nil,Option.getD_none] at unmissed
      refine (shown.endMatch r).updateRoomHostUser ?_ ?_ ?_
      · rw [endMatchLobby]
        exact sound.setRoom rfl
      · rw [endMatchLobby]
        exact registered
      · refine unmissed.later ((Keeps.refl s).endMatch r).steady ?_ ?_ ?_ ?_ <;> simp [roomSet] <;> rfl
    | cons next rest =>
      simp only [State.hostLeft,playing,seats]
      simp only [GameMatch.participants,seats,List.map_cons,List.head?_cons,Option.getD_some] at unmissed
      exact shown.migrate sound registered unmissed

theorem RoomsShown.hostReturned {m : GameMatch} (shown : RoomsShown but s) (sound : s.lobby.Sound) (registered : r ∈ s.lobby.rooms)
    (unmissed : ∀ v ∈ m.participants.head?, s.Unmissed but r v) : RoomsShown but (s.hostReturned r m) := by
  cases seats : m.gameMatchUsers with
  | nil =>
    simp only [State.hostReturned,seats]
    exact shown.endMatch r
  | cons next rest =>
    simp only [State.hostReturned,seats]
    exact shown.migrate sound registered (unmissed next.user (by simp [GameMatch.participants,seats]))

theorem RoomsShown.removeRoom (shown : RoomsShown but s) (sound : s.lobby.Sound) (registered : r ∈ s.lobby.rooms) :
    RoomsShown but (s.removeRoom r) := by
  have told : Informed roomListReplica (· = some { s.lobby with rooms := s.lobby.rooms.erase r }.roomList) but
      (s.sendRemoveRoomPacketToAll (s.lobby.room r).roomID) := by
    refine shown.informed.sendAll (removeRoomSettles _) (fun v listens _ => listensIn listens) ?_
    rintro _ rfl
    rw [Replica.absorbChange rfl,← Lobby.roomListRemoveRoom sound registered]
    rfl
  have lobby : (s.closeRoom r).lobby = { s.lobby with rooms := s.lobby.rooms.erase r } := by simp [closeRoom]
  have closed : Informed roomListReplica (· = some { s.lobby with rooms := s.lobby.rooms.erase r }.roomList) but (s.closeRoom r) :=
    (told.unheard (((Unheard.refl _).exec _).erasing _)).setLobby fun v mem status stays => ⟨⟨mem,status⟩,rfl,stays⟩
  rw [← lobby] at closed
  rw [removeRoomCloses]
  exact Current.of (informedDestroyRoom closed rfl _) (by rw [destroyRoomLobby,Lobby.roomListBack])

theorem RoomsShown.seeOff (shown : RoomsShown but s) (sound : s.lobby.Sound) (registered : r ∈ s.lobby.rooms) (u : UserRef) :
    RoomsShown (fun v => but v ∨ v = u) (s.seeOff r u) :=
  (shown.takeOut sound registered u).unheard
    (((Unheard.refl _).exec _).tellAll ((roomListPlain rfl).respects _) trivial _ r)

theorem Unmissed.seeOff {v : UserRef} (unmissed : s.Unmissed (fun w => but w ∨ w = u) r v) :
    (s.seeOff r u).Unmissed (fun w => but w ∨ w = u) r v := by
  have lobby : (s.seeOff r u).lobby = (s.lobby.setRoom r ((s.lobby.room r).withoutUser u)).backToLobby u := by simp
  have same : s.lobby.SameUsers (s.seeOff r u).lobby := by
    rw [lobby]
    exact Lobby.setUserSame (s.lobby.setRoom r ((s.lobby.room r).withoutUser u)) u rfl rfl
  have room : (s.seeOff r u).lobby.room r = (s.lobby.room r).withoutUser u := by
    simp [Lobby.backToLobby,Lobby.setUser,roomSet]
  have steady : Steady s (s.seeOff r u) :=
    (((Steady.refl s).takeOut r u).updateRoom r).trans ((Mails.refl _).tellAll _ r _).toKeeps.steady
  unfold Unmissed
  rw [(same v).2,(same _).2,room]
  have first : ((s.lobby.room r).withoutUser u).roomHostUser = (s.lobby.room r).roomHostUser := rfl
  rw [first]
  refine unmissed.imp_right fun heard w listens stays => ?_
  have other : w ≠ u := fun own => stays (.inr own)
  have kept : (s.seeOff r u).lobby.user w = s.lobby.user w := by
    simp [Lobby.backToLobby,Lobby.setUser,Lobby.setRoom,other]
  obtain ⟨mem,status,isOpen⟩ := listens
  rw [kept] at status isOpen
  rw [lobby] at mem
  exact (List.mem_erase_of_ne other).mpr (heard w ⟨mem,status,steady.closed _ isOpen⟩ stays)

theorem RoomsShown.removeRoomUser (shown : RoomsShown but s) (sound : s.lobby.Sound) (registered : r ∈ s.lobby.rooms)
    (unmissed : (s.lobby.room r).roomHostUser = u → ∀ v ∈ (s.lobby.room r).heir u, s.Unmissed (fun w => but w ∨ w = u) r v) :
    RoomsShown (fun v => but v ∨ v = u) (s.removeRoomUser r u) := by
  have out : (s.takeOut r u).lobby.Sound := by
    have without : (s.lobby.setRoom r ((s.lobby.room r).withoutUser u)).Sound := sound.setRoom rfl
    rw [takeOutLobby]
    exact without.setUser u _
  cases left : (s.lobby.room r).roomUsers.erase u with
  | nil =>
    rw [removeRoomUserLast left]
    refine (shown.takeOut sound registered u).removeRoom out ?_
    rw [takeOutLobby]
    exact registered
  | cons first rest =>
    have seen := shown.seeOff sound registered u
    rw [removeRoomUserOthers left]
    split
    · rename_i host
      have room : (s.seeOff r u).lobby.room r = (s.lobby.room r).withoutUser u := by
        simp [Lobby.backToLobby,Lobby.setUser,roomSet]
      have heir : (s.lobby.room r).heir u = some (((s.lobby.room r).withoutUser u).participants.head?.getD first) := by
        have head : ((s.lobby.room r).withoutUser u).roomUsers.head? = some first := by
          rw [Room.withoutUser,left]
          rfl
        rw [Room.heir,head]
        cases ((s.lobby.room r).withoutUser u).participants.head? <;> rfl
      have sound : (s.seeOff r u).lobby.Sound := by
        rw [seeOffLobby]
        exact out
      refine seen.hostLeft sound (by rw [seeOffLobby,takeOutLobby]; exact registered) ?_
      rw [room]
      exact (unmissed host _ heir).seeOff
    · exact seen

end Rooms

section Users
variable {but : UserRef → Prop} {s t : State} {u : UserRef} {r : RoomRef}

theorem RoomsShown.quiet (shown : RoomsShown but s) (quiet : Quiet s t) : RoomsShown but t :=
  shown.unheard ((Unheard.refl s).quiet (fun _ plain => (roomListPlain plain).respects _) quiet)

theorem RoomsShown.setUserStatus (shown : RoomsShown but s) (u : UserRef) (userStatus : UserStatus) :
    RoomsShown (fun v => but v ∨ v = u) (s.setUserStatus u userStatus) :=
  Current.setUser shown (Lobby.roomListUsers rfl rfl (Lobby.setUserSame s.lobby u rfl rfl))

theorem RoomsShown.sendRemoveUserPacketToAll (shown : RoomsShown but s) (u : UserRef) : RoomsShown but (s.sendRemoveUserPacketToAll u) :=
  shown.unheard ((Unheard.refl s).sendAll ((roomListIgnoresUsers.2.2 _).respects _) _)

theorem RoomsShown.showLobby (shown : RoomsShown (fun v => but v ∨ v = u) s) : RoomsShown but (s.showLobby u) :=
  Current.of (informedShowLobby shown rfl) (by rw [showLobbyLobby])

theorem RoomsShown.enterLobby (shown : RoomsShown but s) (u : UserRef) : RoomsShown but (s.enterLobby u) := by
  have present := shown.setUserStatus u .InLobby
  have unheard : Unheard (roomListReplica.Respects (· = some (s.setUserStatus u .InLobby).lobby.roomList)) (fun _ => True)
      (s.setUserStatus u .InLobby)
      (((s.setUserStatus u .InLobby).sendAddUserPacketToAll u).sendFullUserListPacket
        ((s.setUserStatus u .InLobby).lobby.user u).connection) :=
    ((Unheard.refl _).sendAddUserPacketToAll (fun _ => (roomListIgnoresUsers.2.1 _).respects _) u).sendFullUserListPacket
      (fun _ => (roomListIgnoresUsers.1 _).respects _) _
  have listed := present.unheard unheard
  have whole : s.enterLobby u =
      (((s.setUserStatus u .InLobby).sendAddUserPacketToAll u).sendFullUserListPacket
        ((s.setUserStatus u .InLobby).lobby.user u).connection).sendFullRoomListPacket
          ((s.setUserStatus u .InLobby).lobby.user u).connection := by
    simp [State.enterLobby]
  rw [whole]
  refine Current.of (Informed.send listed (fullRoomListOpens _) rfl fun v _ out stays => ?_) (by simp)
  rw [unheard.lobby,out.resolve_left stays]

theorem RoomsShown.dropUser (shown : RoomsShown (fun v => but v ∨ v = u) s) (nodup : s.lobby.users.Nodup) :
    RoomsShown but (s.dropUser u) := by
  refine Current.of (Informed.dropUser shown nodup fun _ plain => (roomListPlain plain).respects _) ?_
  rw [dropUserLobby]
  exact Lobby.roomListSame rfl fun _ _ => ⟨rfl,rfl⟩

theorem RoomsShown.removeUser (shown : RoomsShown but s) (sound : s.lobby.Sound)
    (unmissed : ∀ r, s.lobby.getRoomByRoomID (s.lobby.user u).currentRoomID = some r → (s.lobby.room r).roomHostUser = u →
      ∀ v ∈ (s.lobby.room r).heir u, s.Unmissed (fun w => but w ∨ w = u) r v) : RoomsShown but (s.removeUser u) := by
  have silent : RoomsShown but (s.farewell u) := by
    unfold farewell
    split
    · exact shown.sendRemoveUserPacketToAll u
    · exact shown
  have steady : Steady s (s.farewell u) := ((Mails.refl s).farewell u).toKeeps.steady
  rw [removeUserEq]
  cases found : s.lobby.getRoomByRoomID (s.lobby.user u).currentRoomID with
  | none =>
    rw [leaveLobbyOutside found]
    have out : RoomsShown (fun v => but v ∨ v = u) (s.farewell u) := silent.mono fun _ => .inl
    exact out.dropUser (by rw [farewellLobby]; exact sound.usersNodup)
  | some r =>
    have registered := (Lobby.getRoomByRoomIDSome found).1
    have users : ((s.farewell u).removeRoomUser r u).lobby.users = s.lobby.users := by
      rw [removeRoomUserLobby,(Lobby.removeRoomUserFrame _ r u).1,farewellLobby]
    rw [leaveLobbyInside found]
    refine (silent.removeRoomUser (by rw [farewellLobby]; exact sound) (by rw [farewellLobby]; exact registered) ?_).dropUser
      (by rw [users]; exact sound.usersNodup)
    rw [farewellLobby]
    intro host v next
    refine (unmissed r found host v next).later steady ?_ ?_ ?_ ?_ <;> rw [farewellLobby]

theorem RoomsShown.backToLobby (shown : RoomsShown but s) (u : UserRef) :
    RoomsShown (fun v => but v ∨ v = u) (s.setLobby (s.lobby.backToLobby u)) :=
  Current.setUser shown (Lobby.roomListUsers rfl rfl (Lobby.setUserSame s.lobby u rfl rfl))

theorem RoomsShown.approachRoom (shown : RoomsShown but s) (u : UserRef) : RoomsShown but (s.approachRoom u) := by
  have list : (s.lobby.setUser u ((s.lobby.user u).enterRoom s.lobby.getFreeRoomID)).roomList = s.lobby.roomList :=
    Lobby.roomListUsers rfl rfl (Lobby.setUserSame s.lobby u rfl rfl)
  have away : RoomsShown but (s.setLobby (s.lobby.setUser u ((s.lobby.user u).enterRoom s.lobby.getFreeRoomID))) :=
    Current.settle (Current.setUser shown list) (by simp [Lobby.setUser,User.enterRoom])
  exact away.sendRemoveUserPacketToAll u

theorem RoomsShown.roomRefused (shown : RoomsShown but s) (u : UserRef) : RoomsShown but (s.roomRefused u) := by
  have back : RoomsShown (fun v => but v ∨ v = u) (s.setLobby (s.lobby.backToLobby u)) := shown.backToLobby u
  have told : RoomsShown (fun v => but v ∨ v = u)
      (((s.setLobby (s.lobby.backToLobby u)).sendAddUserPacketToAll u).sendTo u (.reply .SysError)) :=
    back.unheard (((Unheard.refl _).sendAddUserPacketToAll (fun _ => (roomListIgnoresUsers.2.1 _).respects _) u).sendTo
      ((roomListPlain rfl).respects _) u)
  exact RoomsShown.showLobby ((RoomsShown.backToLobby told u).mono fun v out => out.elim id .inr)

theorem RoomsShown.roomAdded (shown : RoomsShown but s) (sound : s.lobby.Sound) {newRoom : Room} (given : newRoom.roomID ≠ 0)
    (free : ∀ r ∈ s.lobby.rooms, (s.lobby.room r).roomID ≠ newRoom.roomID) (userCharacter : UserCharacter)
    (fastStart : Bool) : RoomsShown but (s.roomAdded u newRoom userCharacter fastStart) := by
  have registered : Informed roomListReplica (· = some s.lobby.roomList) but (s.setLobby (s.lobby.addRoom newRoom)) :=
    shown.informed.setLobby fun _ mem status stays => ⟨⟨mem,status⟩,rfl,stays⟩
  have announced : RoomsShown but
      ((s.setLobby (s.lobby.addRoom newRoom)).sendAddRoomPacketToAll s.lobby.fresh ROOMLIST_FLAG_ALL) := by
    refine Current.of (s := s.setLobby (s.lobby.addRoom newRoom)) ?_ (by rw [sendAddRoomPacketToAllLobby])
    refine registered.sendAll (addRoomSettles _ _) (fun v listens _ => listensIn listens) ?_
    rintro _ rfl
    have id : ((s.setLobby (s.lobby.addRoom newRoom)).roomInfo s.lobby.fresh).roomID = newRoom.roomID := by
      simp [roomInfo,Lobby.addRoom]
    rw [Replica.absorbChange rfl,setLobbyLobby,← Lobby.roomListAddRoom sound given free,← id]
    rfl
  have plain (m : Message) (plain : m.listed = false) :
      roomListReplica.Respects (· = some ((s.setLobby (s.lobby.addRoom newRoom)).sendAddRoomPacketToAll s.lobby.fresh
        ROOMLIST_FLAG_ALL).lobby.roomList) m := (roomListPlain plain).respects _
  dsimp only [State.roomAdded]
  split
  · exact announced.unheard (((Unheard.refl _).tell (plain _ rfl) trivial u _).sendTo (plain _ rfl) u)
  · exact announced.unheard ((Unheard.refl _).tell (plain _ rfl) trivial u _)

theorem RoomsShown.openRoom (shown : RoomsShown but s) (sound : s.lobby.Sound) (given : s.lobby.getFreeRoomID ≠ 0)
    (userCharacter : UserCharacter) (settings : RoomSettings) (fastStart : Bool) :
    RoomsShown but (s.openRoom u userCharacter settings fastStart) := by
  have asked : RoomsShown but ((s.approachRoom u).exec (addRoom ((s.approachRoom u).roomRow (s.opened u settings)))) :=
    (shown.approachRoom u).exec _
  have out : (s.approachRoom u).lobby.Sound := by
    rw [approachRoomLobby]
    exact sound.setUser u _
  have free : ∀ r ∈ (s.approachRoom u).lobby.rooms, ((s.approachRoom u).lobby.room r).roomID ≠ (s.opened u settings).roomID := by
    rw [approachRoomLobby]
    intro r registered
    exact Lobby.getFreeRoomIDFree given r registered
  rw [openRoomEq]
  dsimp only
  split
  · exact asked.roomRefused u
  · exact asked.roomAdded out given free _ _

theorem RoomsShown.enterRoom (shown : RoomsShown but s) (sound : s.lobby.Sound) (registered : r ∈ s.lobby.rooms)
    (userCharacter : UserCharacter) : RoomsShown but (s.enterRoom u r userCharacter) := by
  have list : (s.lobby.joinRoom u r).roomList = (s.lobby.setRoom r ((s.lobby.room r).addRoomUser u)).roomList :=
    Lobby.roomListUsers rfl rfl (Lobby.setUserSame _ u rfl rfl)
  have joined : Informed roomListReplica (· = some s.lobby.roomList) but (s.setLobby (s.lobby.joinRoom u r)) := by
    have changed : Informed roomListReplica (· = some s.lobby.roomList) (fun v => but v ∨ v = u)
        (s.setLobby (s.lobby.joinRoom u r)) :=
      shown.informed.changeUser (fun _ mem _ => mem) fun v other => by
        simp [Lobby.joinRoom,Lobby.setUser,Lobby.setRoom,other]
    exact changed.settle (by simp [Lobby.joinRoom,Lobby.setUser,User.enterRoom])
  have absent : Informed roomListReplica (· = some s.lobby.roomList) but
      (((s.setLobby (s.lobby.joinRoom u r)).updateRoom r).sendRemoveUserPacketToAll u) :=
    joined.unheard (((Unheard.refl _).exec _).sendAll ((roomListIgnoresUsers.2.2 _).respects _) _)
  have entered : RoomsShown but ((((s.setLobby (s.lobby.joinRoom u r)).updateRoom r).sendRemoveUserPacketToAll u).sendUpdateRoomPacketToAll r
      ROOMLIST_FLAG_CURRENTPLAYERS) := by
    refine Current.of (s := s.setLobby (s.lobby.setRoom r ((s.lobby.room r).addRoomUser u))) ?_
      (by rw [sendUpdateRoomPacketToAllLobby,sendRemoveUserPacketToAllLobby,updateRoomLobby,setLobbyLobby,list]; rfl)
    refine absent.sendAll (updateRoomSettles _ _) (fun v listens _ => listensIn listens) ?_
    rintro _ rfl
    refine absorbUpdate sound registered rfl (by simp [roomInfo,Lobby.joinRoom,Lobby.setRoom,Lobby.setUser]) ?_
    rw [RoomInfo.readPlayers]
    simp [roomInfo,Lobby.roomEntry,Lobby.joinRoom,Lobby.setRoom,Lobby.setUser,Room.addRoomUser]
  have plain (t : State) (m : Message) (plain : m.listed = false) :
      roomListReplica.Respects (· = some t.lobby.roomList) m := (roomListPlain plain).respects _
  exact entered.unheard ((((Unheard.refl _).introduce ⟨plain _ _ rfl,trivial⟩ ⟨plain _ _ rfl,trivial⟩ r _).tell
    (plain _ _ rfl) trivial u r).tell (plain _ _ rfl) trivial u r)

theorem RoomsShown.changeRoomSettings (shown : RoomsShown but s) (sound : s.lobby.Sound) (registered : r ∈ s.lobby.rooms)
    (settings : RoomSettings) : RoomsShown but (s.changeRoomSettings r settings) := by
  have changed : RoomsShown but (s.setLobby (s.lobby.setRoom r ((s.lobby.room r).updateRoomSettings settings))) :=
    shown.setRoom (Lobby.roomListKept rfl rfl rfl)
  have out : (s.lobby.setRoom r ((s.lobby.room r).updateRoomSettings settings)).Sound := sound.setRoom rfl
  have written := changed.exec (DatabaseManager.updateRoom ((s.setLobby (s.lobby.setRoom r
    ((s.lobby.room r).updateRoomSettings settings))).roomRow (((s.lobby.setRoom r
      ((s.lobby.room r).updateRoomSettings settings))).room r)))
  have respects (t : State) (lobby : t.lobby = s.lobby.setRoom r ((s.lobby.room r).updateRoomSettings settings)) :
      roomListReplica.Respects (· = some t.lobby.roomList) (.updateRoom (t.roomInfo r) (roomListFlag settings).toUInt16) :=
    updateRespects (by rw [lobby]; exact out) (by rw [lobby]; exact registered) _
  exact written.unheard (((Unheard.refl _).sendAll (respects _ rfl) _).tellAll ((roomListPlain rfl).respects _) trivial _ r)

theorem RoomsShown.returnUser {m : GameMatch} (shown : RoomsShown but s) (sound : s.lobby.Sound) (registered : r ∈ s.lobby.rooms)
    (unmissed : (s.lobby.room r).roomHostUser = u → ∀ v ∈ (m.removeGameMatchUser u).participants.head?,
      s.Unmissed (fun w => but w ∨ w = u) r v) : RoomsShown but (s.returnUser u r m) := by
  have left : RoomsShown (fun w => but w ∨ w = u)
      (s.setLobby (s.lobby.setRoom r { s.lobby.room r with gameMatch := some (m.removeGameMatchUser u) })) :=
    (shown.mono fun _ => .inl).setRoom (Lobby.roomListKept rfl rfl rfl)
  have out : (s.lobby.setRoom r { s.lobby.room r with gameMatch := some (m.removeGameMatchUser u) }).Sound := sound.setRoom rfl
  have returned (t : State) (back : RoomsShown (fun w => but w ∨ w = u) t) : RoomsShown but (t.setUserStatus u .InRoom) := by
    have away := (back.setUserStatus u .InRoom).mono fun v out => out.elim id .inr
    exact away.settle (by simp [Lobby.setUserStatus,Lobby.setUser])
  dsimp only [State.returnUser]
  split
  · rename_i host
    have own : (s.lobby.room r).roomHostUser = u := by simpa [Lobby.setRoom] using host.symm
    refine returned _ (left.hostReturned out registered fun v next => ?_)
    refine (unmissed own v next).later ((Steady.refl s).setLobby _) rfl rfl ?_ ?_ <;> simp [Lobby.setRoom]
  · exact returned _ left

theorem RoomsShown.endGame (shown : RoomsShown but s) (r : RoomRef) (m : GameMatch) : RoomsShown but (s.endGame r m) := by
  have seated (t : State) (v : UserRef) (shown : RoomsShown but t) :
      RoomsShown but (((t.setUserStatus v .InRoom).sendTo v .hostEndSession).sendTo v .gameResult) := by
    have away : RoomsShown but (t.setUserStatus v .InRoom) :=
      (shown.setUserStatus v .InRoom).settle (by simp [Lobby.setUserStatus,Lobby.setUser])
    exact away.unheard (((Unheard.refl _).sendTo ((roomListPlain rfl).respects _) v).sendTo ((roomListPlain rfl).respects _) v)
  have all (vs : List UserRef) (t : State) (shown : RoomsShown but t) : RoomsShown but
      (vs.foldl (fun s v => ((s.setUserStatus v .InRoom).sendTo v .hostEndSession).sendTo v .gameResult) t) := by
    induction vs generalizing t with
    | nil => exact shown
    | cons v vs ih => exact ih _ (seated t v shown)
  exact (all m.participants s shown).endMatch r

theorem RoomsShown.recoverRooms (shown : RoomsShown but s) (sound : s.lobby.Sound) : RoomsShown but s.recoverRooms := by
  have each (rooms : List RoomRef) (t : State) (shown : RoomsShown but t) (sound : t.lobby.Sound)
      (registered : rooms.Subperm t.lobby.rooms) : RoomsShown but (rooms.foldl recoverRoom t) := by
    induction rooms generalizing t with
    | nil => exact shown
    | cons r rooms ih =>
      have asked : RoomsShown but (t.exec (DatabaseManager.addRoom (t.roomRow (t.lobby.room r)))) := shown.exec _
      have later : rooms.Subperm t.lobby.rooms := (List.sublist_cons_self r rooms).subperm.trans registered
      have own : r ∈ t.lobby.rooms := registered.subset List.mem_cons_self
      rw [List.foldl_cons]
      dsimp only [recoverRoom]
      split
      · refine ih _ (asked.removeRoom sound own) ?_ ?_
        · have admitted : t.lobby.Admitted (.removeRoom r) := own
          rw [removeRoomLobby]
          exact Lobby.applySound sound admitted
        · rw [removeRoomLobby,Lobby.removeRoomEq]
          simpa using registered.erase r
      · exact ih _ asked sound later
  exact each s.lobby.rooms _ (shown.exec _) sound (List.Subperm.refl _)

-- While the rooms go one by one, no list holds a room that has gone.
theorem RoomsShown.removeAllRooms (shown : RoomsShown but s) : RoomsShown but s.removeAllRooms := by
  let Left (rooms : List RoomRef) (held : Option RoomList) : Prop :=
    ∃ list, held = some list ∧ ∀ roomID, (∀ r ∈ rooms, (s.lobby.room r).roomID ≠ roomID) → list roomID = none
  have each (rooms : List RoomRef) (t : State) (none : t.lobby.rooms = []) (same : t.lobby.room = s.lobby.room)
      (informed : Informed roomListReplica (Left rooms) but t) :
      Informed roomListReplica (Left []) but (rooms.foldl
        (fun s r => (s.sendRemoveRoomPacketToAll (s.lobby.room r).roomID).destroyRoom (s.lobby.room r).roomUsers) t) := by
    induction rooms generalizing t with
    | nil => exact informed
    | cons r rooms ih =>
      have empty : t.lobby.roomList = fun _ => Option.none := by
        funext roomID
        simp [Lobby.roomList,none]
      have told : Informed roomListReplica (Left rooms) but (t.sendRemoveRoomPacketToAll (t.lobby.room r).roomID) := by
        refine informed.sendAll (removeRoomSettles _) (fun v listens _ => listensIn listens) ?_
        rintro _ ⟨list,rfl,gone⟩
        refine ⟨Function.update list (t.lobby.room r).roomID Option.none,Replica.absorbChange rfl list,fun roomID other => ?_⟩
        by_cases own : roomID = (t.lobby.room r).roomID
        · rw [own,Function.update_self]
        · rw [Function.update_of_ne own]
          refine gone roomID fun q mem => ?_
          rcases List.mem_cons.mp mem with rfl | later
          · rw [← same]
            exact fun equal => own equal.symm
          · exact other q later
      have destroyed := informedDestroyRoom told (by rw [sendRemoveRoomPacketToAllLobby,empty]; exact ⟨_,rfl,fun _ _ => rfl⟩)
        (t.lobby.room r).roomUsers
      have lobby : ((t.sendRemoveRoomPacketToAll (t.lobby.room r).roomID).destroyRoom (t.lobby.room r).roomUsers).lobby =
          t.lobby.destroyRoom r := by
        rw [destroyRoomLobby,sendRemoveRoomPacketToAllLobby]
        rfl
      refine ih _ ?_ ?_ destroyed
      · rw [lobby,Lobby.destroyRoomEq]
        exact none
      · rw [lobby,Lobby.destroyRoomEq]
        exact same
  have closed : Informed roomListReplica (Left s.lobby.rooms) but (s.setLobby { s.lobby with rooms := [] }) := by
    have closed : Informed roomListReplica (· = some s.lobby.roomList) but (s.setLobby { s.lobby with rooms := [] }) :=
      shown.informed.setLobby fun v mem status stays => ⟨⟨mem,status⟩,rfl,stays⟩
    refine closed.mono ?_ fun _ => id
    rintro _ rfl
    exact ⟨_,rfl,fun roomID absent => Lobby.roomListNone absent⟩
  have emptied : s.removeAllRooms.lobby.roomList = fun _ => none := by
    obtain ⟨user,whole,-,-⟩ := Lobby.destroyRooms s.lobby.rooms { s.lobby with rooms := [] }
    funext roomID
    rw [removeAllRoomsLobby,Lobby.removeAllRooms,whole]
    rfl
  have left : Informed roomListReplica (Left []) but s.removeAllRooms :=
    each s.lobby.rooms (s.setLobby { s.lobby with rooms := [] }) rfl rfl closed
  intro v listens stays
  obtain ⟨list,held,gone⟩ := left v listens stays
  rw [held,emptied]
  exact congrArg some (funext fun roomID => gone roomID (by simp))

theorem RoomsShown.addUser (shown : RoomsShown but s) (dated : s.Dated)
    (hosts : ∀ r ∈ s.lobby.rooms, (s.lobby.room r).roomHostUser ∈ (s.lobby.room r).roomUsers) (c : ConnectionRef)
    (userID : UInt32) (userName : Bytes) : RoomsShown but (s.setLobby (s.lobby.addUser (.new c userID userName))) := by
  refine Current.of (shown.informed.addUser c userID userName) (Lobby.roomListSame rfl fun r registered => ⟨rfl,?_⟩)
  have old := (dated _ (.inr ⟨r,registered,hosts r registered⟩)).1
  simp [Lobby.roomEntry,Lobby.addUser,Nat.ne_of_lt old]

end Users

-- The users and rooms that change hands: who leaves, which room, and to whom.
def heirs (s : State) : UserRef × UInt8 × Packet → Option (UserRef × RoomRef × UserRef)
  | (u,2,_) => (s.currentRoom u [.InRoom,.InGame]).bind fun r => ((s.lobby.room r).heir u).map (u,r,·)
  | (u,11,_) => (s.returning u).bind fun found => ((found.2.removeGameMatchUser u).participants.head?).map (u,found.1,·)
  | _ => none

def passes (s : State) : Action → Option (UserRef × RoomRef × UserRef)
  | .packet c packet => (s.roomRequest c packet).bind s.heirs
  | .disconnect c _ =>
    (s.getUserByConnection c).bind fun u =>
      (s.lobby.getRoomByRoomID (s.lobby.user u).currentRoomID).bind fun r => ((s.lobby.room r).heir u).map (u,r,·)
  | _ => none

-- No host hands its room over while others are in the lobby, unless they are listed in the room.
def Unwatched (s : State) (action : Action) : Prop :=
  ∀ passed ∈ s.passes action, (s.lobby.room passed.2.1).roomHostUser = passed.1 →
    (s.lobby.user passed.2.2).userID = (s.lobby.user passed.1).userID ∨
      ∀ w ∈ s.usersInLobby, (s.connection (s.lobby.user w).connection).isOpen = true → w ≠ passed.1 →
        w ∈ (s.lobby.room passed.2.1).roomUsers

def UnwatchedStep (s : State) (e : Event) : Prop := (s.enter e.environment).Unwatched e.action

instance (s : State) (action : Action) : Decidable (s.Unwatched action) :=
  inferInstanceAs (Decidable (∀ passed ∈ s.passes action, (s.lobby.room passed.2.1).roomHostUser = passed.1 →
    (s.lobby.user passed.2.2).userID = (s.lobby.user passed.1).userID ∨
      ∀ w ∈ s.usersInLobby, (s.connection (s.lobby.user w).connection).isOpen = true → w ≠ passed.1 →
        w ∈ (s.lobby.room passed.2.1).roomUsers))

instance (s : State) (e : Event) : Decidable (s.UnwatchedStep e) := inferInstanceAs (Decidable (Unwatched _ _))

-- The condition where the operation is done.
def Passed (s : State) : Lobby.Op → Prop
  | .removeUser u => ∀ r, s.lobby.getRoomByRoomID (s.lobby.user u).currentRoomID = some r →
      (s.lobby.room r).roomHostUser = u → ∀ v ∈ (s.lobby.room r).heir u, s.Unmissed (· = u) r v
  | .leaveRoom u r => (s.lobby.room r).roomHostUser = u → ∀ v ∈ (s.lobby.room r).heir u, s.Unmissed (· = u) r v
  | .returnToRoom u r m =>
    (s.lobby.room r).roomHostUser = u → ∀ v ∈ (m.removeGameMatchUser u).participants.head?, s.Unmissed (· = u) r v
  | _ => True

section Step
variable {s t : State} {e : Event}

theorem Unmissed.mono {but other : UserRef → Prop} {r : RoomRef} {v : UserRef} (unmissed : s.Unmissed but r v)
    (more : ∀ w, but w → other w) : s.Unmissed other r v :=
  unmissed.imp_right fun heard w listens stays => heard w listens fun out => stays (more w out)

theorem effectRoomsShown {may : Lobby → Lobby.Op → Prop} (admitted : ∀ l op, may l op → l.Admitted op)
    (passed : ∀ op, may s.lobby op → s.Passed op) (standing : s.Standing) (dated : s.Dated)
    (shown : RoomsShown nobody s) (effect : Effect may s t) : RoomsShown nobody t := by
  have sound := standing.sound
  have kept {v : UserRef} {r : RoomRef} {u : UserRef} (unmissed : s.Unmissed (· = u) r v) :
      s.Unmissed (fun w => nobody w ∨ w = u) r v := unmissed.mono fun _ => .inr
  cases effect with
  | quiet quiet => exact shown.quiet quiet
  | fault => exact fun v listens => shown v ⟨listens.present,listens.status,listens.isOpen⟩
  | connect ipAddress => exact shown.informed.connect dated ipAddress
  | showServers c => exact shown.unheard ((Unheard.refl s).send ((roomListPlain rfl).respects _) c)
  | addUser known op =>
    exact shown.addUser dated (fun r registered => (standing.placed.rooms r registered).host) _ _ _
  | removeUser op => exact shown.removeUser sound fun r found host v next => kept (passed _ op r found host v next)
  | setUserNetwork op =>
    exact Current.setUserNetwork shown (Lobby.roomListUsers rfl rfl (Lobby.setUserSame s.lobby _ rfl rfl))
  | showServerList op new =>
    exact (shown.setUserStatus _ _).settle (by simp [Lobby.setUserStatus,Lobby.setUser])
  | leaveLobby op present =>
    rename_i u
    have left : RoomsShown nobody (s.setUserStatus u .InServerList) :=
      (shown.setUserStatus _ _).settle (by simp [Lobby.setUserStatus,Lobby.setUser])
    exact left.sendRemoveUserPacketToAll _
  | enterLobby op => exact shown.enterLobby _
  | openRoom op => exact shown.openRoom sound (admitted _ _ (op true)).2.2.2.1 _ _ _
  | enterRoom op => exact shown.enterRoom sound (admitted _ _ op).2.2.2.1 _
  | leaveRoom op =>
    have registered := (Lobby.getRoomByRoomIDSome (admitted _ _ op).2.2).1
    exact (shown.removeRoomUser sound registered fun host v next => kept (passed _ op host v next)).showLobby
  | changeRoomSettings op =>
    exact shown.changeRoomSettings sound (Lobby.getRoomByRoomIDSome (admitted _ _ op).1.2.2).1 _
  | returnUser op =>
    have registered := (Lobby.getRoomByRoomIDSome (admitted _ _ op).1.2.2).1
    exact shown.returnUser sound registered fun host v next => kept (passed _ op host v next)
  | startMatch op => exact shown.startMatch _
  | saveData op => exact shown.setRoom (Lobby.roomListKept rfl rfl rfl)
  | sendUserStatus op =>
    rename_i u target r m
    have seated : RoomsShown nobody
        (s.setLobby (s.lobby.setRoom r { s.lobby.room r with gameMatch := some (m.addGameMatchUser ⟨target,.None⟩) })) :=
      shown.setRoom (Lobby.roomListKept rfl rfl rfl)
    exact (seated.setUserStatus target .InGame).settle (by simp [Lobby.setUserStatus,Lobby.setUser])
  | endGame op => exact shown.endGame _ _
  | selectTeam op => exact shown.setRoom (Lobby.roomListKept rfl rfl rfl)
  | recoverRooms op => exact shown.recoverRooms sound
  | removeAllRooms op => exact shown.removeAllRooms.exec _

-- Connections of the beginning that are open are open still.
structure Since (s t : State) : Prop where
  accepted : s.accepted ≤ t.accepted
  closed : ∀ c < s.accepted, (t.connection c).isOpen = true → (s.connection c).isOpen = true

theorem Since.effect {may : Lobby → Lobby.Op → Prop} {m : State} (since : Since s m) (effect : Effect may m t) : Since s t := by
  rcases effectSteady effect with ⟨ipAddress,rfl⟩ | steady
  · refine ⟨Nat.le_succ_of_le since.accepted,fun c old isOpen => since.closed c old ?_⟩
    have other : c ≠ m.accepted := Nat.ne_of_lt (Nat.lt_of_lt_of_le old since.accepted)
    simpa [connect,other] using isOpen
  · exact ⟨steady.accepted.symm ▸ since.accepted,fun c old isOpen => since.closed c old (steady.closed c isOpen)⟩

theorem Unwatched.unmissed {action : Action} {u v : UserRef} {r : RoomRef} (unwatched : s.Unwatched action)
    (passes : s.passes action = some (u,r,v)) (host : (t.lobby.room r).roomHostUser = u) (lobby : t.lobby = s.lobby)
    (since : Since s t) (dated : s.Dated) : t.Unmissed (· = u) r v := by
  unfold Unmissed
  rw [host]
  rw [lobby] at host ⊢
  refine (unwatched _ passes host).imp_right fun heard w listens stays => ?_
  obtain ⟨mem,status,isOpen⟩ := listens
  rw [lobby] at mem status isOpen
  have old := (dated w (.inl mem)).2
  exact heard w (List.mem_filter.mpr ⟨mem,by simpa using status⟩) (since.closed _ old isOpen) stays

theorem donePassed {action : Action} {op : Lobby.Op} (done : s.Done action t.lobby op) (since : Since s t) (dated : s.Dated)
    (unwatched : s.Unwatched action) : t.Passed op := by
  obtain ⟨-,caused⟩ := done
  cases op with
  | removeUser u =>
    intro r found host v next
    rcases caused with ⟨lobby,c,ec,rfl,here⟩ | ⟨-,outside,-⟩
    · refine unwatched.unmissed ?_ host lobby since dated
      rw [lobby] at found next
      simp only [passes,here,Option.bind_some,found]
      rw [Option.mem_def.mp next]
      rfl
    · rw [outside] at found
      cases found
  | leaveRoom u r =>
    intro host v next
    obtain ⟨lobby,⟨p,c,packet,rfl,request⟩,current⟩ := caused
    refine unwatched.unmissed ?_ host lobby since dated
    rw [lobby] at next
    simp only [passes,request,Option.bind_some,heirs,current]
    rw [Option.mem_def.mp next]
    rfl
  | returnToRoom u r m =>
    intro host v next
    obtain ⟨lobby,⟨p,c,packet,rfl,request⟩,found⟩ := caused
    refine unwatched.unmissed ?_ host lobby since dated
    simp only [passes,request,Option.bind_some,heirs,found]
    rw [Option.mem_def.mp next]
    rfl
  | _ => trivial

end Step

section Run
open Runs
open SqlText (ascii)
variable {s : State}

-- What the lobby users have been sent is the registry.
structure RoomListCurrent (s : State) : Prop where
  held : ∀ u, s.Listens u → ∃ list, roomListReplica.copy s.sent (s.lobby.user u).connection = some list ∧
    (∀ r ∈ s.lobby.rooms, ∃ entry, list (s.lobby.room r).roomID = some entry ∧
      entry.currentPlayers.toNat = (s.lobby.room r).roomUsers.length ∧
      entry.hostUserID = (s.lobby.user (s.lobby.room r).roomHostUser).userID) ∧
    ∀ roomID, (list roomID).isSome = true → ∃ r ∈ s.lobby.rooms, (s.lobby.room r).roomID = roomID

structure Listed (s : State) : Prop extends Standing s where
  small : s.lobby.Small
  dated : s.Dated
  shown : RoomsShown nobody s

theorem stepListed (s : State) (e : Event) (listed : s.Listed) (unwatched : s.UnwatchedStep e) : (s.step e).Listed := by
  have kept : (s.step e).Listed ∧ Since (s.enter e.environment) (s.step e) := by
    refine Effects.invariant (P := fun t => t.Listed ∧ Since (s.enter e.environment) t) (fun t m before effect => ?_)
      (stepEffects s e) ⟨⟨⟨listed.sound,listed.placed,listed.erased⟩,listed.small,listed.dated,
        fun v listens => listed.shown v ⟨listens.present,listens.status,listens.isOpen⟩⟩,Nat.le_refl _,fun _ _ => id⟩
    obtain ⟨here,since⟩ := before
    have admitted (l : Lobby) (op : Lobby.Op) (done : (s.enter e.environment).Done e.action l op) : l.Admitted op := done.1
    have small : m.lobby.Small := Reaches.invariant (fun (l : Lobby) _ (small : l.Small) done => Lobby.applySmall small done.1)
      (effectReaches effect) here.small
    exact ⟨⟨effectStanding admitted here.toStanding effect,small,effectDated admitted here.sound here.dated effect,
      effectRoomsShown admitted (fun op done => donePassed done since listed.dated unwatched) here.toStanding here.dated
        here.shown effect⟩,since.effect effect⟩
  exact kept.1

theorem Listed.current (listed : s.Listed) : s.RoomListCurrent where
  held u listens := by
    refine ⟨s.lobby.roomList,listed.shown u listens id,fun r registered => ?_,fun roomID present => ?_⟩
    · refine ⟨s.lobby.roomEntry r,Lobby.roomListAt listed.sound registered,?_,rfl⟩
      have small := listed.small r registered
      rw [Lobby.roomEntry,UInt8.toNat_ofNat']
      omega
    · obtain ⟨entry,found⟩ := Option.isSome_iff_exists.mp present
      obtain ⟨r,registered,id,-⟩ := (Lobby.roomListSome listed.sound).mp found
      exact ⟨r,registered,id⟩

theorem lobbyRoomList (serverConfig : ChannelConfig) (database : Database) (environment : Environment) (time : Nat)
    {events : List Event} (unwatched : Each step UnwatchedStep (start serverConfig database environment time) events) :
    Always step RoomListCurrent (start serverConfig database environment time) events := by
  have begun : (start serverConfig database environment time).Listed :=
    { sound := Lobby.startSound
      placed := Lobby.startPlaced
      erased := rfl
      small := by simp [start,Lobby.Small,Lobby.start]
      dated := by simp [start,Dated,Lobby.Known,Lobby.start]
      shown := fun u listens => by cases listens.present }
  exact alwaysMono (fun _ => Listed.current) (alwaysOfEach stepListed begun unwatched)

-- A third account with a character, on its way here as well.
def crowdTables : Database := { sampleTables with
  userCharacters := sampleTables.userCharacters.insert 3 default
  userTransfers := sampleTables.userTransfers ++ [⟨3,ascii "three",⟨1,1⟩,0⟩] }

-- Two users in a room, a third in the lobby.
def watched : List Event :=
  [connects,connects,connects,arrives 0 (transferLoginBody "one"),arrives 1 (transferLoginBody "two"),
    arrives 2 (transferLoginBody "three"),arrives 0 createRoomBody,arrives 1 [65,1,1,0,0]]

-- The member leaves its host, and the host the room.
theorem lobbyRoomListLeft : Always step RoomListCurrent (start sampleChannel crowdTables sampleEnvironment 0)
    (watched ++ [arrives 1 [65,2],arrives 0 [65,2]]) :=
  lobbyRoomList _ _ _ _
    ⟨by decide +kernel,by decide +kernel,by decide +kernel,by decide +kernel,by decide +kernel,by decide +kernel,
      by decide +kernel,by decide +kernel,by decide +kernel,by decide +kernel,trivial⟩

-- The host leaves first: the third user's list still names it.
theorem hostChangeUnannounced :
    ¬ ∀ serverConfig database environment time events,
      Always step RoomListCurrent (start serverConfig database environment time) events := by
  intro always
  have last := alwaysLast (always sampleChannel crowdTables sampleEnvironment 0 (watched ++ [arrives 0 [65,2]]))
  obtain ⟨list,copied,shown,-⟩ := last.held 2 ⟨by decide +kernel,by decide +kernel,by decide +kernel⟩
  obtain ⟨entry,found,-,host⟩ := shown 3 (by decide +kernel)
  have stale : ((roomListReplica.copy (run step (start sampleChannel crowdTables sampleEnvironment 0)
      (watched ++ [arrives 0 [65,2]])).sent 2).bind (· 1)).map RoomEntry.hostUserID = some 1 := by decide +kernel
  have now : entry.hostUserID = 2 := host.trans (by decide +kernel)
  have asked : (list 1).map RoomEntry.hostUserID = some 2 := by
    rw [← now]
    exact congrArg (Option.map RoomEntry.hostUserID) found
  have same : ((some list).bind (· 1)).map RoomEntry.hostUserID = some 1 := copied ▸ stale
  exact absurd (asked.symm.trans same) (by decide)

end Run
end CsoMaster.State
