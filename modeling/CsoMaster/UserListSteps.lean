import CsoMaster.ClientCopies
import CsoMaster.RoomMembership
import CsoMaster.UserList

/-! The users in the lobby hold the list of them, over whole runs in which every character that
is asked for is there. RemoveUser names a user by its ID only; as long as no other user in the
lobby has it, the set that the lobby has been sent is the set of those that are in it. -/
namespace CsoMaster.State
open DatabaseManager

-- The listeners hold the user list as it is.
def UsersShown (but : UserRef → Prop) (s : State) : Prop := Current userListReplica Lobby.userList but s

theorem UsersShown.informed {but : UserRef → Prop} {s : State} (shown : UsersShown but s) :
    Informed userListReplica (· = some s.lobby.userList) but s :=
  shown

-- What goes on in rooms, for the users in the lobby.
structure Indoors (s t : State) : Prop extends Steady s t where
  users : t.lobby.users = s.lobby.users
  user : t.lobby.user = s.lobby.user
  sent : ∃ more, t.sent = s.sent ++ more ∧ ∀ entry ∈ more, userListReplica.Ignores entry.2

section Indoors
variable {s t m : State} {r : RoomRef} {u : UserRef}

theorem Indoors.refl (s : State) : Indoors s s := ⟨.refl s,rfl,rfl,⟨[],by simp⟩⟩

theorem Indoors.trans (left : Indoors s m) (right : Indoors m t) : Indoors s t where
  toSteady := left.toSteady.trans right.toSteady
  users := right.users.trans left.users
  user := right.user.trans left.user
  sent := by
    obtain ⟨first,whole,ignored⟩ := left.sent
    obtain ⟨second,also,too⟩ := right.sent
    refine ⟨first ++ second,by rw [also,whole,List.append_assoc],fun entry mem => ?_⟩
    exact (List.mem_append.mp mem).elim (ignored entry) (too entry)

theorem Indoors.unheard (indoors : Indoors s m) (unheard : Unheard userListReplica.Ignores (fun _ => True) m t) : Indoors s t :=
  indoors.trans ⟨unheard.toSteady,by rw [unheard.lobby],by rw [unheard.lobby],unheard.sent⟩

theorem Indoors.setLobby (indoors : Indoors s t) {l : Lobby} (users : l.users = t.lobby.users) (user : l.user = t.lobby.user) :
    Indoors s (t.setLobby l) :=
  indoors.trans ⟨(Steady.refl t).setLobby l,users,user,⟨[],by simp [State.setLobby]⟩⟩

theorem Indoors.setRoom (indoors : Indoors s t) (r : RoomRef) (room : Room) : Indoors s (t.setLobby (t.lobby.setRoom r room)) :=
  indoors.setLobby rfl rfl

theorem Indoors.announceRoomState (indoors : Indoors s t) (r : RoomRef) (roomState : RoomState) :
    Indoors s (t.announceRoomState r roomState) :=
  indoors.unheard ((Unheard.refl t).announceRoomState ⟨userListIgnores rfl,trivial⟩ (fun _ => ⟨userListIgnores rfl,trivial⟩) r)

theorem Indoors.startMatch (indoors : Indoors s t) (r : RoomRef) : Indoors s (t.startMatch r) :=
  (indoors.setRoom r _).announceRoomState r _

theorem Indoors.endMatch (indoors : Indoors s t) (r : RoomRef) : Indoors s (t.endMatch r) :=
  (indoors.setRoom r _).announceRoomState r _

theorem Indoors.updateRoomHostUser (indoors : Indoors s t) (r : RoomRef) (u : UserRef) : Indoors s (t.updateRoomHostUser r u) :=
  (indoors.setRoom r _).unheard ((Unheard.refl _).tellAll (userListIgnores rfl) trivial _ r)

theorem Indoors.migrate (indoors : Indoors s t) (r : RoomRef) (m : GameMatch) (u : UserRef) : Indoors s (t.migrate r m u) := by
  have restarted : Indoors s ((t.updateRoomHostUser r u).sendHostRestart m u) :=
    (indoors.updateRoomHostUser r u).unheard ((Unheard.refl _).sendHostRestart (fun _ => userListPlain) m u)
  dsimp only [State.migrate]
  split
  · exact restarted.setRoom r _
  · exact restarted

theorem Indoors.hostLeft (indoors : Indoors s t) (r : RoomRef) (first : UserRef) : Indoors s (t.hostLeft r first) := by
  unfold State.hostLeft
  split
  · exact indoors.updateRoomHostUser r first
  · split
    · exact (indoors.endMatch r).updateRoomHostUser r first
    · exact indoors.migrate r _ _

theorem Indoors.hostReturned (indoors : Indoors s t) (r : RoomRef) (m : GameMatch) : Indoors s (t.hostReturned r m) := by
  unfold State.hostReturned
  split
  · exact indoors.endMatch r
  · exact indoors.migrate r _ _

theorem Indoors.changeRoomSettings (indoors : Indoors s t) (r : RoomRef) (settings : RoomSettings) :
    Indoors s (t.changeRoomSettings r settings) :=
  (indoors.setRoom r _).unheard ((((Unheard.refl _).exec _).sendAll (userListIgnores rfl) _).tellAll (userListIgnores rfl)
    trivial _ r)

theorem Indoors.closeRoom (indoors : Indoors s t) (r : RoomRef) : Indoors s (t.closeRoom r) := by
  have told : Indoors s (t.sendRemoveRoomPacketToAll (t.lobby.room r).roomID) :=
    indoors.unheard ((Unheard.refl t).sendAll (userListIgnores rfl) _)
  exact Indoors.setLobby (told.unheard (((Unheard.refl _).exec _).erasing _)) rfl rfl

end Indoors

section Greetings
variable {P : Option UserList → Prop} {but : UserRef → Prop} {s t : State} {u : UserRef} {r : RoomRef} {list : UserList}

theorem Informed.indoors (informed : Informed userListReplica P but s) (indoors : Indoors s t) : Informed userListReplica P but t := by
  intro v listens stays
  obtain ⟨mem,status,isOpen⟩ := listens
  rw [indoors.users] at mem
  rw [indoors.user] at status isOpen ⊢
  obtain ⟨more,sent,ignored⟩ := indoors.sent
  rw [sent]
  exact Replica.copyRespected (fun entry later _ => (ignored entry later).respects P)
    (informed v ⟨mem,status,indoors.closed _ isOpen⟩ stays)

-- All of them are in the list, if none is missed.
theorem gameUserIDs (us : List UserRef) (found : (s.gameUsers us).2.characterMissed = false) :
    (s.gameUsers us).1.map GameUser.userID = us.map fun u => (s.lobby.user u).userID := by
  induction us generalizing s with
  | nil => rfl
  | cons u us ih =>
    have later := ih (s := (s.getUserCharacter u USERCHARACTER_FLAG_ALL).2) found
    have asked : Mails (s.getUserCharacter u USERCHARACTER_FLAG_ALL).2
        ((s.getUserCharacter u USERCHARACTER_FLAG_ALL).2.gameUsers us).2 := (Mails.refl _).gameUsers us
    simp only [gameUsers,if_pos (foundCharacter (asked.missed found)),List.map_cons,later]
    rfl

theorem informedAddUser (informed : Informed userListReplica (· = some list) (fun v => but v ∨ v = u) s)
    (found : (s.sendAddUserPacketToAll u).characterMissed = false) :
    Informed userListReplica (· = some (insert (s.lobby.user u).userID list)) (fun v => but v ∨ v = u)
      (s.sendAddUserPacketToAll u) := by
  have asked : Unheard (userListReplica.Respects (· = some list)) (fun _ => True) s
      (s.getUserCharacter u USERCHARACTER_FLAG_ALL).2 := (Unheard.refl s).getUserCharacter u _
  have missed : (s.getUserCharacter u USERCHARACTER_FLAG_ALL).2.characterMissed = false := by
    have mails : Mails (s.getUserCharacter u USERCHARACTER_FLAG_ALL).2 (s.sendAddUserPacketToAll u) := by
      dsimp only [sendAddUserPacketToAll]
      split
      · exact .refl _
      · exact (Mails.refl _).sendAll _ _
    exact mails.missed found
  dsimp only [sendAddUserPacketToAll]
  rw [if_neg (Int.not_le.mpr (foundCharacter missed))]
  refine (informed.unheard asked).sendAll (addUserSettles _) (fun v listens stays => ?_) ?_
  · have before : s.Listens v := ⟨listens.present,listens.status,listens.isOpen⟩
    refine List.mem_filter.mpr ⟨listensIn before,?_⟩
    simpa using fun own : v = u => stays (.inr own)
  · rintro _ rfl
    exact Replica.absorbChange rfl list

theorem informedRemoveUser (informed : Informed userListReplica (· = some list) but s) (away : ∀ v, s.Listens v → ¬ but v → v ≠ u) :
    Informed userListReplica (· = some (list.erase (s.lobby.user u).userID)) but (s.sendRemoveUserPacketToAll u) := by
  refine informed.sendAll (removeUserSettles _) (fun v listens stays => ?_) ?_
  · exact List.mem_filter.mpr ⟨listensIn listens,by simpa using away v listens stays⟩
  · rintro _ rfl
    exact Replica.absorbChange rfl list

theorem UsersShown.sendFullUserListPacket (shown : UsersShown (fun v => but v ∨ v = u) s)
    (found : (s.sendFullUserListPacket (s.lobby.user u).connection).characterMissed = false) :
    UsersShown but (s.sendFullUserListPacket (s.lobby.user u).connection) := by
  have asked : Unheard (userListReplica.Respects (· = some s.lobby.userList)) (fun _ => True) s (s.gameUsers s.usersInLobby).2 :=
    (Unheard.refl s).gameUsers _
  have missed : (s.gameUsers s.usersInLobby).2.characterMissed = false := ((Mails.refl _).send _ _).missed found
  refine Current.of (Informed.send (Informed.unheard shown asked) rfl ?_ fun v _ out stays => ?_) (by simp)
  · rw [gameUserIDs _ missed]
    rfl
  · rw [asked.lobby,out.resolve_left stays]

-- Whoever comes back to the lobby is announced there and shown it.
theorem UsersShown.showLobby (informed : Informed userListReplica (· = some list) (fun v => but v ∨ v = u) s)
    (arrived : s.lobby.userList = insert (s.lobby.user u).userID list) (found : (s.showLobby u).characterMissed = false) :
    UsersShown but (s.showLobby u) := by
  have whole : s.showLobby u =
      (((s.sendAddUserPacketToAll u).sendTo u .leaveRoomInGame).sendFullUserListPacket (s.lobby.user u).connection).sendFullRoomListPacket
        (s.lobby.user u).connection := by
    simp [State.showLobby]
  rw [whole] at found ⊢
  have listed := ((Mails.refl _).send _ _).missed found
  have announced := ((Mails.refl _).sendFullUserListPacket _).missed listed
  have told : UsersShown (fun v => but v ∨ v = u) ((s.sendAddUserPacketToAll u).sendTo u .leaveRoomInGame) := by
    refine Current.of (s := s) ?_ (by simp)
    rw [arrived]
    have added := informedAddUser informed (((Mails.refl _).sendTo u _).missed announced)
    exact added.unheard ((Unheard.refl _).sendTo ((userListPlain rfl).respects _) u)
  have shown : UsersShown but
      (((s.sendAddUserPacketToAll u).sendTo u .leaveRoomInGame).sendFullUserListPacket (s.lobby.user u).connection) := by
    have same : ((s.sendAddUserPacketToAll u).sendTo u .leaveRoomInGame).lobby = s.lobby := by simp
    rw [← same] at listed ⊢
    exact told.sendFullUserListPacket listed
  exact shown.unheard ((Unheard.refl _).send ((userListIgnores rfl).respects _) _)

theorem UsersShown.back (shown : UsersShown (fun v => but v ∨ v = u) s) (mem : u ∈ s.lobby.users)
    (found : ((s.setLobby (s.lobby.backToLobby u)).showLobby u).characterMissed = false) :
    UsersShown but ((s.setLobby (s.lobby.backToLobby u)).showLobby u) := by
  have moved : Informed userListReplica (· = some s.lobby.userList) (fun v => but v ∨ v = u)
      (s.setLobby (s.lobby.backToLobby u)) :=
    (shown.informed.setUser u _).mono (fun _ => id) fun _ out => out.elim id .inr
  have come : (s.lobby.backToLobby u).userList = insert (s.lobby.user u).userID s.lobby.userList :=
    Lobby.userListCome mem (by rfl) (by rfl)
  have named : ((s.lobby.backToLobby u).user u).userID = (s.lobby.user u).userID := by
    simp [Lobby.backToLobby,Lobby.setUser,User.backToLobby]
  refine UsersShown.showLobby moved ?_ found
  rw [setLobbyLobby,named,come]

theorem UsersShown.destroyRoom (shown : UsersShown but s) {us : List UserRef} (present : ∀ u ∈ us, u ∈ s.lobby.users)
    (found : (s.destroyRoom us).characterMissed = false) : UsersShown but (s.destroyRoom us) := by
  unfold State.destroyRoom at found ⊢
  induction us generalizing s with
  | nil => exact shown
  | cons u us ih =>
    have later : ((s.setLobby (s.lobby.backToLobby u)).showLobby u).characterMissed = false :=
      ((Keeps.refl _).destroyRoom us).missed found
    have left : UsersShown (fun v => but v ∨ v = u) s := shown.mono fun _ => .inl
    refine ih (left.back (present u List.mem_cons_self) later) (fun v mem => ?_) found
    rw [showLobbyLobby]
    exact present v (List.mem_cons_of_mem _ mem)

theorem UsersShown.removeRoom (shown : UsersShown but s) (present : ∀ u ∈ (s.lobby.room r).roomUsers, u ∈ s.lobby.users)
    (found : (s.removeRoom r).characterMissed = false) : UsersShown but (s.removeRoom r) := by
  have indoors : Indoors s (s.closeRoom r) := (Indoors.refl s).closeRoom r
  have closed : UsersShown but (s.closeRoom r) := by
    refine Current.of (Informed.indoors shown indoors) (Lobby.userListSame (fun v => ?_) fun v _ => by rw [indoors.user])
    rw [Lobby.Lists,Lobby.Lists,indoors.users,indoors.user]
  rw [removeRoomCloses] at found ⊢
  refine closed.destroyRoom (fun u mem => ?_) found
  rw [indoors.users]
  exact present u mem

theorem informedTakeOut (informed : Informed userListReplica P but s) (r : RoomRef) (u : UserRef) :
    Informed userListReplica P (fun v => but v ∨ v = u) (s.takeOut r u) := by
  have told : Indoors s (((s.erasing (u ∈ (s.lobby.room r).roomUsers)).setLobby (s.lobby.setRoom r
      ((s.lobby.room r).withoutUser u))).sendUpdateRoomPacketToAll r ROOMLIST_FLAG_CURRENTPLAYERS) :=
    (((Indoors.refl s).unheard ((Unheard.refl s).erasing _)).setRoom r _).unheard
      ((Unheard.refl _).sendAll (userListIgnores rfl) _)
  exact (informed.indoors told).setUser u _

theorem informedRemoveRoomUser (informed : Informed userListReplica P but s) (r : RoomRef) (u : UserRef) :
    Informed userListReplica P (fun v => but v ∨ v = u) (s.removeRoomUser r u) := by
  cases left : (s.lobby.room r).roomUsers.erase u with
  | nil =>
    have empty : ((s.takeOut r u).lobby.room r).roomUsers = [] := (takeOutUsers s r u).trans left
    rw [removeRoomUserLast left,removeRoomCloses,empty]
    exact (informedTakeOut informed r u).indoors ((Indoors.refl _).closeRoom r)
  | cons first rest =>
    have seen : Indoors (s.takeOut r u) (s.seeOff r u) :=
      (Indoors.refl _).unheard (((Unheard.refl _).exec _).tellAll (userListIgnores rfl) trivial _ r)
    rw [removeRoomUserOthers left]
    split
    · exact (informedTakeOut informed r u).indoors (seen.hostLeft r first)
    · exact (informedTakeOut informed r u).indoors seen

end Greetings

section Users
variable {but : UserRef → Prop} {s t : State} {u : UserRef} {r : RoomRef}

theorem UsersShown.indoors (shown : UsersShown but s) (indoors : Indoors s t) : UsersShown but t := by
  refine Current.of (Informed.indoors shown indoors) (Lobby.userListSame (fun v => ?_) fun v _ => by rw [indoors.user])
  rw [Lobby.Lists,Lobby.Lists,indoors.users,indoors.user]

theorem UsersShown.quiet (shown : UsersShown but s) (quiet : Quiet s t) : UsersShown but t :=
  shown.indoors ((Indoors.refl s).unheard ((Unheard.refl s).quiet (fun _ => userListPlain) quiet))

-- A user changes its status, and neither was nor is in the lobby.
theorem UsersShown.setUser (shown : UsersShown but s) {user : User} (id : user.userID = (s.lobby.user u).userID)
    (before : (s.lobby.user u).userStatus ≠ .InLobby) (after : user.userStatus ≠ .InLobby) :
    UsersShown but (s.setLobby (s.lobby.setUser u user)) := by
  have moved : UsersShown (fun v => but v ∨ v = u) (s.setLobby (s.lobby.setUser u user)) :=
    Current.setUser shown (Lobby.userListSetUser id (iff_of_false after before))
  exact moved.settle (by simpa [Lobby.setUser] using after)

-- A user leaves the lobby, which is told after some query or other.
theorem UsersShown.goes (shown : UsersShown but s) {user : User} (id : user.userID = (s.lobby.user u).userID)
    (away : user.userStatus ≠ .InLobby) (alone : s.lobby.Alone u)
    (asked : Unheard userListReplica.Ignores (fun _ => True) (s.setLobby (s.lobby.setUser u user)) t) :
    UsersShown but (t.sendRemoveUserPacketToAll u) := by
  have moved : Informed userListReplica (· = some s.lobby.userList) (fun v => but v ∨ v = u)
      (s.setLobby (s.lobby.setUser u user)) := shown.informed.setUser u user
  have gone : Informed userListReplica (· = some s.lobby.userList) but t :=
    (moved.settle (by simpa [Lobby.setUser] using away)).indoors ((Indoors.refl _).unheard asked)
  have named : (t.lobby.user u).userID = (s.lobby.user u).userID := by
    rw [asked.lobby]
    exact Lobby.setUserIDs id u
  have left : t.lobby.userList = s.lobby.userList.erase (t.lobby.user u).userID := by
    rw [named,asked.lobby]
    exact Lobby.userListGo id away alone
  refine Current.of (s := t) ?_ (by simp)
  rw [left]
  refine informedRemoveUser gone fun v listens _ own => away ?_
  have status := listens.status
  rw [asked.lobby,own] at status
  simpa [Lobby.setUser] using status

theorem UsersShown.enterLobby (shown : UsersShown but s) (mem : u ∈ s.lobby.users)
    (found : (s.enterLobby u).characterMissed = false) : UsersShown but (s.enterLobby u) := by
  have whole : s.enterLobby u =
      (((s.setUserStatus u .InLobby).sendAddUserPacketToAll u).sendFullUserListPacket
        ((s.setUserStatus u .InLobby).lobby.user u).connection).sendFullRoomListPacket
          ((s.setUserStatus u .InLobby).lobby.user u).connection := by
    simp [State.enterLobby]
  have come : (s.setUserStatus u .InLobby).lobby.userList = insert (s.lobby.user u).userID s.lobby.userList :=
    Lobby.userListCome mem (by rfl) (by rfl)
  have named : ((s.setUserStatus u .InLobby).lobby.user u).userID = (s.lobby.user u).userID := by
    simp [Lobby.setUserStatus,Lobby.setUser]
  have moved : Informed userListReplica (· = some s.lobby.userList) (fun v => but v ∨ v = u) (s.setUserStatus u .InLobby) :=
    shown.informed.setUser u _
  rw [whole] at found ⊢
  have listed := ((Mails.refl _).send _ _).missed found
  have told : UsersShown (fun v => but v ∨ v = u) ((s.setUserStatus u .InLobby).sendAddUserPacketToAll u) := by
    refine Current.of (s := s.setUserStatus u .InLobby) ?_ (by simp)
    rw [come,← named]
    exact informedAddUser moved (((Mails.refl _).sendFullUserListPacket _).missed listed)
  have same : ((s.setUserStatus u .InLobby).sendAddUserPacketToAll u).lobby = (s.setUserStatus u .InLobby).lobby := by simp
  rw [← same] at listed ⊢
  exact (told.sendFullUserListPacket listed).indoors
    ((Indoors.refl _).unheard ((Unheard.refl _).send (userListIgnores rfl) _))

theorem UsersShown.roomRefused (shown : UsersShown but s) (mem : u ∈ s.lobby.users)
    (found : (s.roomRefused u).characterMissed = false) : UsersShown but (s.roomRefused u) := by
  have asked : ((s.setLobby (s.lobby.backToLobby u)).sendAddUserPacketToAll u).characterMissed = false :=
    (((Mails.refl _).sendTo u _).toKeeps.destroyRoom [u]).missed found
  have moved : Informed userListReplica (· = some s.lobby.userList) (fun v => but v ∨ v = u)
      (s.setLobby (s.lobby.backToLobby u)) := shown.informed.setUser u _
  have come : (s.lobby.backToLobby u).userList = insert (s.lobby.user u).userID s.lobby.userList :=
    Lobby.userListCome mem (by rfl) (by rfl)
  have named : ((s.lobby.backToLobby u).user u).userID = (s.lobby.user u).userID := by
    simp [Lobby.backToLobby,Lobby.setUser,User.backToLobby]
  have told : UsersShown (fun v => but v ∨ v = u) ((s.setLobby (s.lobby.backToLobby u)).sendAddUserPacketToAll u) := by
    refine Current.of (s := s.setLobby (s.lobby.backToLobby u)) ?_ (by simp)
    rw [setLobbyLobby,come,← named]
    exact informedAddUser moved asked
  have refused : UsersShown (fun v => but v ∨ v = u)
      (((s.setLobby (s.lobby.backToLobby u)).sendAddUserPacketToAll u).sendTo u (.reply .SysError)) :=
    told.indoors ((Indoors.refl _).unheard ((Unheard.refl _).sendTo (userListIgnores rfl) u))
  exact refused.back (by simpa [Lobby.backToLobby,Lobby.setUser] using mem) found

theorem UsersShown.roomAdded (shown : UsersShown but s) (newRoom : Room) (userCharacter : UserCharacter) (fastStart : Bool) :
    UsersShown but (s.roomAdded u newRoom userCharacter fastStart) := by
  have added : Indoors s ((s.setLobby (s.lobby.addRoom newRoom)).sendAddRoomPacketToAll s.lobby.fresh ROOMLIST_FLAG_ALL) := by
    have registered : Indoors s (s.setLobby (s.lobby.addRoom newRoom)) := (Indoors.refl s).setLobby rfl rfl
    exact registered.unheard ((Unheard.refl _).sendAll (userListIgnores rfl) _)
  dsimp only [State.roomAdded]
  split
  · exact shown.indoors (added.unheard (((Unheard.refl _).tell (userListIgnores rfl) trivial u _).sendTo (userListIgnores rfl) u))
  · exact shown.indoors (added.unheard ((Unheard.refl _).tell (userListIgnores rfl) trivial u _))

theorem UsersShown.openRoom (shown : UsersShown but s) (mem : u ∈ s.lobby.users) (alone : s.lobby.Alone u)
    {userCharacter : UserCharacter} {settings : RoomSettings} {fastStart : Bool}
    (found : (s.openRoom u userCharacter settings fastStart).characterMissed = false) :
    UsersShown but (s.openRoom u userCharacter settings fastStart) := by
  have approached : UsersShown but (s.approachRoom u) :=
    shown.goes (by rfl) (by simp [User.enterRoom]) alone (.refl _)
  have asked : UsersShown but ((s.approachRoom u).exec (addRoom ((s.approachRoom u).roomRow (s.opened u settings)))) :=
    approached.exec _
  rw [openRoomEq] at found ⊢
  dsimp only at found ⊢
  split
  · rename_i refused
    rw [if_pos refused] at found
    refine asked.roomRefused ?_ found
    rw [execLobby,approachRoomLobby]
    exact mem
  · exact asked.roomAdded _ _ _

theorem UsersShown.enterRoom (shown : UsersShown but s) (alone : s.lobby.Alone u) (r : RoomRef) (userCharacter : UserCharacter) :
    UsersShown but (s.enterRoom u r userCharacter) := by
  have joined : UsersShown but (s.setLobby (s.lobby.setRoom r ((s.lobby.room r).addRoomUser u))) :=
    shown.indoors ((Indoors.refl s).setRoom r _)
  have gone : UsersShown but (((s.setLobby (s.lobby.joinRoom u r)).updateRoom r).sendRemoveUserPacketToAll u) :=
    joined.goes (by rfl) (by simp [User.enterRoom]) alone ((Unheard.refl _).exec _)
  have told : Unheard userListReplica.Ignores (fun _ => True)
      (((s.setLobby (s.lobby.joinRoom u r)).updateRoom r).sendRemoveUserPacketToAll u) (s.enterRoom u r userCharacter) :=
    ((((Unheard.refl _).sendAll (userListIgnores rfl) _).introduce ⟨userListIgnores rfl,trivial⟩
      ⟨userListIgnores rfl,trivial⟩ r _).tell (userListIgnores rfl) trivial u r).tell (userListIgnores rfl) trivial u r
  exact gone.indoors ((Indoors.refl _).unheard told)

theorem UsersShown.leaveRoom (shown : UsersShown but s) (mem : u ∈ s.lobby.users) (r : RoomRef)
    (found : ((s.removeRoomUser r u).showLobby u).characterMissed = false) :
    UsersShown but ((s.removeRoomUser r u).showLobby u) := by
  have named : ((s.lobby.removeRoomUser r u).user u).userID = (s.lobby.user u).userID :=
    ((Lobby.removeRoomUserFrame s.lobby r u).2.2.2.2.1 u).2
  refine UsersShown.showLobby (informedRemoveRoomUser shown.informed r u) ?_ found
  rw [removeRoomUserLobby,named]
  exact Lobby.userListLeaveRoom mem r

theorem insideAway {user : User} (inside : user.isInRoom) : user.userStatus ≠ .InLobby := by
  rcases inside with status | status <;> simp [status]

theorem UsersShown.returnUser (shown : UsersShown but s) (inside : (s.lobby.user u).isInRoom) (r : RoomRef) (m : GameMatch) :
    UsersShown but (s.returnUser u r m) := by
  have left : Indoors s (s.setLobby (s.lobby.setRoom r { s.lobby.room r with gameMatch := some (m.removeGameMatchUser u) })) :=
    (Indoors.refl s).setRoom r _
  have returned (t : State) (indoors : Indoors s t) : UsersShown but (t.setUserStatus u .InRoom) := by
    refine (shown.indoors indoors).setUser (by rfl) ?_ (by simp)
    rw [indoors.user]
    exact insideAway inside
  dsimp only [State.returnUser]
  split
  · exact returned _ (left.hostReturned r _)
  · exact returned _ left

theorem UsersShown.endGame {m : GameMatch} (shown : UsersShown but s)
    (inside : ∀ v ∈ m.participants, (s.lobby.user v).userStatus ≠ .InLobby) (r : RoomRef) : UsersShown but (s.endGame r m) := by
  have all (vs : List UserRef) (t : State) (shown : UsersShown but t)
      (inside : ∀ v ∈ vs, (t.lobby.user v).userStatus ≠ .InLobby) : UsersShown but
        (vs.foldl (fun s v => ((s.setUserStatus v .InRoom).sendTo v .hostEndSession).sendTo v .gameResult) t) := by
    induction vs generalizing t with
    | nil => exact shown
    | cons v vs ih =>
      have back : UsersShown but (t.setUserStatus v .InRoom) :=
        shown.setUser (by rfl) (inside v List.mem_cons_self) (by simp)
      have told : UsersShown but (((t.setUserStatus v .InRoom).sendTo v .hostEndSession).sendTo v .gameResult) :=
        back.indoors ((Indoors.refl _).unheard (((Unheard.refl _).sendTo (userListIgnores rfl) v).sendTo (userListIgnores rfl) v))
      refine ih _ told fun w mem => ?_
      rw [sendToLobby,sendToLobby,setUserStatusLobby]
      by_cases own : w = v
      · simp [Lobby.setUserStatus,Lobby.setUser,own]
      · simpa [Lobby.setUserStatus,Lobby.setUser,own] using inside w (List.mem_cons_of_mem _ mem)
  exact (all m.participants s shown inside).indoors ((Indoors.refl _).endMatch r)

theorem UsersShown.recoverRooms (shown : UsersShown but s)
    (present : ∀ r ∈ s.lobby.rooms, ∀ u ∈ (s.lobby.room r).roomUsers, u ∈ s.lobby.users)
    (found : s.recoverRooms.characterMissed = false) : UsersShown but s.recoverRooms := by
  have each (rooms : List RoomRef) (t : State) (shown : UsersShown but t)
      (present : ∀ r ∈ rooms, ∀ u ∈ (t.lobby.room r).roomUsers, u ∈ t.lobby.users)
      (found : (rooms.foldl recoverRoom t).characterMissed = false) : UsersShown but (rooms.foldl recoverRoom t) := by
    induction rooms generalizing t with
    | nil => exact shown
    | cons r rooms ih =>
      have asked : UsersShown but (t.exec (DatabaseManager.addRoom (t.roomRow (t.lobby.room r)))) := shown.exec _
      have later : (t.recoverRoom r).characterMissed = false :=
        (Steady.fold (Steady.refl _) (fun t r => (Steady.refl t).recoverRoom r) rooms).missed found
      have rest : ∀ q ∈ rooms, ∀ u ∈ (t.lobby.room q).roomUsers, u ∈ t.lobby.users :=
        fun q mem => present q (List.mem_cons_of_mem _ mem)
      refine ih _ ?_ ?_ found
      · dsimp only [State.recoverRoom] at later ⊢
        split
        · rename_i refused
          rw [if_pos refused] at later
          exact asked.removeRoom (present r List.mem_cons_self) later
        · exact asked
      · rcases t.recoverRoomLobby r with same | removed
        · rw [same]
          exact rest
        · rw [removed,Lobby.removeRoomEq]
          exact rest
  exact each s.lobby.rooms _ (shown.exec _) present found

theorem UsersShown.removeAllRooms (shown : UsersShown but s)
    (present : ∀ r ∈ s.lobby.rooms, ∀ u ∈ (s.lobby.room r).roomUsers, u ∈ s.lobby.users)
    (found : s.removeAllRooms.characterMissed = false) : UsersShown but s.removeAllRooms := by
  have each (rooms : List RoomRef) (t : State) (shown : UsersShown but t)
      (present : ∀ r ∈ rooms, ∀ u ∈ (t.lobby.room r).roomUsers, u ∈ t.lobby.users)
      (found : (rooms.foldl (fun s r =>
        (s.sendRemoveRoomPacketToAll (s.lobby.room r).roomID).destroyRoom (s.lobby.room r).roomUsers) t).characterMissed = false) :
      UsersShown but (rooms.foldl (fun s r =>
        (s.sendRemoveRoomPacketToAll (s.lobby.room r).roomID).destroyRoom (s.lobby.room r).roomUsers) t) := by
    induction rooms generalizing t with
    | nil => exact shown
    | cons r rooms ih =>
      have told : UsersShown but (t.sendRemoveRoomPacketToAll (t.lobby.room r).roomID) :=
        shown.indoors ((Indoors.refl t).unheard ((Unheard.refl t).sendAll (userListIgnores rfl) _))
      have destroys (s : State) (r : RoomRef) : Steady s
          ((s.sendRemoveRoomPacketToAll (s.lobby.room r).roomID).destroyRoom (s.lobby.room r).roomUsers) :=
        ((Mails.refl s).sendAll _ _).toKeeps.steady.trans ((Keeps.refl _).destroyRoom _).steady
      have later := (Steady.fold (Steady.refl _) destroys rooms).missed found
      have lobby : ((t.sendRemoveRoomPacketToAll (t.lobby.room r).roomID).destroyRoom (t.lobby.room r).roomUsers).lobby =
          t.lobby.destroyRoom r := by
        rw [destroyRoomLobby,sendRemoveRoomPacketToAllLobby]
        rfl
      refine ih _ (told.destroyRoom (fun u mem => ?_) later) ?_ found
      · rw [sendRemoveRoomPacketToAllLobby]
        exact present r List.mem_cons_self u mem
      · rw [lobby,Lobby.destroyRoomEq]
        exact fun q mem => present q (List.mem_cons_of_mem _ mem)
  refine each s.lobby.rooms (s.setLobby { s.lobby with rooms := [] }) ?_ present found
  exact shown.indoors ((Indoors.refl s).setLobby rfl rfl)

theorem UsersShown.removeUser (shown : UsersShown but s) (nodup : s.lobby.users.Nodup)
    (outside : (s.lobby.user u).userStatus = .InLobby → s.lobby.getRoomByRoomID (s.lobby.user u).currentRoomID = none)
    (alone : (s.lobby.user u).userStatus = .InLobby → s.lobby.Alone u) : UsersShown but (s.removeUser u) := by
  have plain (list : UserList) (message : Message) (plain : message.listed = false) :
      userListReplica.Respects (· = some list) message := (userListPlain plain).respects _
  have informed : Informed userListReplica (· = some s.lobby.userList) (fun v => but v ∨ v = u) s :=
    shown.informed.mono (fun _ => id) fun _ => .inl
  rw [removeUserEq]
  by_cases status : (s.lobby.user u).userStatus = .InLobby
  · have told : Informed userListReplica (· = some (s.lobby.userList.erase (s.lobby.user u).userID)) (fun v => but v ∨ v = u)
        (s.sendRemoveUserPacketToAll u) := informedRemoveUser informed fun v _ stays own => stays (.inr own)
    have left : s.leaveLobby u = s.sendRemoveUserPacketToAll u := by
      rw [leaveLobbyOutside (outside status),farewell,if_pos status]
    have same : s.removeUser u = (s.sendRemoveUserPacketToAll u).dropUser u := by rw [removeUserEq,left]
    rw [left]
    refine Current.of (s := s.removeUser u) ?_ (by rw [same])
    rw [removeUserLobby,Lobby.userListRemoveUser nodup (alone status)]
    exact told.dropUser (by rw [sendRemoveUserPacketToAllLobby]; exact nodup) (plain _)
  · have silent : s.farewell u = s := by rw [farewell,if_neg status]
    have left : Informed userListReplica (· = some s.lobby.userList) (fun v => but v ∨ v = u) (s.leaveLobby u) := by
      cases found : s.lobby.getRoomByRoomID (s.lobby.user u).currentRoomID with
      | none =>
        rw [leaveLobbyOutside found,silent]
        exact informed
      | some r =>
        rw [leaveLobbyInside found,silent]
        exact informedRemoveRoomUser shown.informed r u
    have users : (s.leaveLobby u).lobby.users = s.lobby.users := by
      rw [leaveLobbyLobby]
      split
      · rfl
      · rw [(Lobby.removeRoomUserFrame s.lobby _ u).1]
    refine Current.of (s := s.removeUser u) ?_ (by rw [removeUserEq])
    rw [removeUserLobby,Lobby.userListRemoveOutsider nodup status]
    exact left.dropUser (by rw [users]; exact nodup) (plain _)

end Users

section Conditions

-- The user that the lobby is told has left it.
def departing (s : State) : Action → Option UserRef
  | .packet c packet =>
    if packetID packet.readUInt8.1 = some .RequestServerList then
      (s.loggedIn c).filter fun u => (s.lobby.user u).userStatus = .InLobby
    else (s.roomRequest c packet).bind s.entering
  | .disconnect c _ => (s.getUserByConnection c).filter fun u => (s.lobby.user u).userStatus = .InLobby
  | _ => none

-- No other user in the lobby has its ID.
def AloneStep (s : State) (e : Event) : Prop :=
  ∀ u ∈ (s.enter e.environment).departing e.action, (s.enter e.environment).lobby.Alone u

instance (s : State) (e : Event) : Decidable (s.AloneStep e) :=
  inferInstanceAs (Decidable (∀ u ∈ (s.enter e.environment).departing e.action, (s.enter e.environment).lobby.Alone u))

-- The condition where the operation is done.
def Departs (l : Lobby) : Lobby.Op → Prop
  | .enterServerList u | .removeUser u => (l.user u).userStatus = .InLobby → l.Alone u
  | .createRoom u _ _ | .joinRoom u _ => l.Alone u
  | _ => True

theorem doneDeparts {s : State} {action : Action} {l : Lobby} {op : Lobby.Op} (done : s.Done action l op)
    (alone : ∀ u ∈ s.departing action, s.lobby.Alone u) : Departs l op := by
  obtain ⟨-,caused⟩ := done
  have enters {u : UserRef} {type : UInt8} {p : Packet} (asks : s.Asks action u type p)
      (admitted : s.entering (u,type,p) = some u) : s.lobby.Alone u := by
    obtain ⟨c,packet,rfl,request⟩ := asks
    refine alone u ?_
    have room : packetID packet.readUInt8.1 = some .Room := by
      rw [roomRequest] at request
      split at request
      · assumption
      · cases request
    simp [departing,room,request,admitted]
  cases op with
  | enterServerList u =>
    intro status
    rcases caused with ⟨-,new⟩ | ⟨rfl,c,packet,rfl,kind,known⟩
    · rw [status] at new
      cases new
    · exact alone u (by simp [departing,kind,known,status])
  | removeUser u =>
    intro status
    rcases caused with ⟨rfl,c,ec,rfl,here⟩ | ⟨-,-,new⟩
    · exact alone u (by simp [departing,here,status])
    · rw [status] at new
      cases new
  | createRoom u settings added =>
    obtain ⟨rfl,⟨p,asks,-⟩,admitted⟩ := caused
    exact enters asks (by simp [entering,admitted])
  | joinRoom u r =>
    obtain ⟨rfl,p,asks,admitted⟩ := caused
    refine enters asks ?_
    cases found : (s.admitJoinRoom u p).1 with
    | none => simp [found] at admitted
    | some room => simp [entering,found]
  | _ => trivial

end Conditions

section Step
open Runs
variable {s t : State}

theorem Settled.inside {u : UserRef} {r : RoomRef} (settled : s.Settled) (registered : r ∈ s.lobby.rooms)
    (listed : u ∈ (s.lobby.room r).roomUsers) : u ∈ s.lobby.users ∧ (s.lobby.user u).isInRoom := by
  obtain ⟨mem,here⟩ := (settled.members.member r registered u).mp listed
  exact ⟨mem,(settled.members.status u mem).mpr (here ▸ settled.sound.roomIDs r registered)⟩

theorem Settled.outside {u : UserRef} (settled : s.Settled) (mem : u ∈ s.lobby.users) (status : (s.lobby.user u).userStatus = .InLobby) :
    s.lobby.getRoomByRoomID (s.lobby.user u).currentRoomID = none := by
  have zero : (s.lobby.user u).currentRoomID = 0 := by
    refine not_not.mp fun inRoom => ?_
    exact insideAway ((settled.members.status u mem).mpr inRoom) status
  simp [Lobby.getRoomByRoomID,zero]

theorem effectUsersShown {may : Lobby → Lobby.Op → Prop} (admitted : ∀ l op, may l op → l.Admitted op)
    (departs : ∀ op, may s.lobby op → Departs s.lobby op) (settled : s.Settled) (dated : s.Dated)
    (shown : UsersShown nobody s) (effect : Effect may s t) (found : t.characterMissed = false) : UsersShown nobody t := by
  have present : ∀ r ∈ s.lobby.rooms, ∀ u ∈ (s.lobby.room r).roomUsers, u ∈ s.lobby.users :=
    fun r registered u listed => (settled.inside registered listed).1
  cases effect with
  | quiet quiet => exact shown.quiet quiet
  | fault => exact fun v listens => shown v ⟨listens.present,listens.status,listens.isOpen⟩
  | connect ipAddress => exact shown.informed.connect dated ipAddress
  | showServers c => exact shown.indoors ((Indoors.refl s).unheard ((Unheard.refl s).send (userListPlain rfl) c))
  | addUser known op seat =>
    rename_i c userID userName
    have old : ∀ v ∈ s.lobby.users, v ≠ s.lobby.fresh := fun v mem => Nat.ne_of_lt (dated v (.inl mem)).1
    exact Current.of (shown.informed.addUser c userID userName) (Lobby.userListAddUser old (by simp [User.new]))
  | removeUser op =>
    exact shown.removeUser settled.sound.usersNodup (settled.outside (admitted _ _ op)) (departs _ op)
  | setUserNetwork op => exact Current.setUserNetwork shown (Lobby.userListSetUser rfl Iff.rfl)
  | showServerList op new => exact shown.setUser (by rfl) (by simp [new]) (by simp)
  | leaveLobby op present => exact shown.goes (by rfl) (by simp) (departs _ op present) (.refl _)
  | enterLobby op => exact shown.enterLobby (admitted _ _ op).1 found
  | openRoom op => exact shown.openRoom (admitted _ _ (op true)).1 (departs _ (op true)) found
  | enterRoom op => exact shown.enterRoom (departs _ op) _ _
  | leaveRoom op => exact shown.leaveRoom (admitted _ _ op).1 _ found
  | changeRoomSettings op => exact shown.indoors ((Indoors.refl s).changeRoomSettings _ _)
  | returnUser op => exact shown.returnUser (admitted _ _ op).1.2.1 _ _
  | startMatch op => exact shown.indoors ((Indoors.refl s).startMatch _)
  | saveData op => exact shown.indoors ((Indoors.refl s).setRoom _ _)
  | sendUserStatus op =>
    rename_i u target r m
    have seated : UsersShown nobody
        (s.setLobby (s.lobby.setRoom r { s.lobby.room r with gameMatch := some (m.addGameMatchUser ⟨target,.None⟩) })) :=
      shown.indoors ((Indoors.refl s).setRoom r _)
    exact seated.setUser (by rfl) (insideAway (admitted _ _ op).2.1.2.1) (by simp)
  | endGame op =>
    rename_i u r m
    obtain ⟨⟨⟨-,-,found⟩,playing⟩,-⟩ := (admitted _ _ op).1
    have registered := (Lobby.getRoomByRoomIDSome found).1
    refine shown.endGame (fun v mem => insideAway (settled.inside registered ?_).2) r
    exact (settled.members.rooms r registered).seated v (by rwa [Room.participantsOf playing])
  | selectTeam op => exact shown.indoors ((Indoors.refl s).setRoom _ _)
  | recoverRooms op => exact shown.recoverRooms present found
  | removeAllRooms op => exact (shown.removeAllRooms present found).exec _

-- What the steps keep.
structure Greeted (s : State) : Prop extends Settled s where
  dated : s.Dated
  shown : s.characterMissed = false → UsersShown nobody s

theorem stepGreeted (s : State) (e : Event) (greeted : s.Greeted) (ok : s.StaysStep e ∧ s.AloneStep e) : (s.step e).Greeted := by
  obtain ⟨stays,alone⟩ := ok
  refine Effects.invariant (fun t m before effect => ?_) (stepEffects s e) ⟨⟨greeted.sound,greeted.members⟩,greeted.dated,
    fun found v listens => greeted.shown found v ⟨listens.present,listens.status,listens.isOpen⟩⟩
  have admitted (l : Lobby) (op : Lobby.Op) (done : (s.enter e.environment).Done e.action l op) : l.Admitted op := done.1
  have settled : m.lobby.Sound ∧ m.lobby.Members :=
    Reaches.invariant (fun (l : Lobby) _ (kept : l.Sound ∧ l.Members) done =>
        ⟨Lobby.applySound kept.1 done.1,Lobby.applyMembers kept.1 kept.2 done.1 (doneCalm done (staysCalm stays))⟩)
      (effectReaches effect) ⟨before.sound,before.members⟩
  refine ⟨⟨settled.1,settled.2⟩,effectDated admitted before.sound before.dated effect,fun found => ?_⟩
  have earlier : t.characterMissed = false := by
    rcases effectSteady effect with ⟨ipAddress,rfl⟩ | steady
    · exact found
    · exact steady.missed found
  exact effectUsersShown admitted (fun op done => doneDeparts done alone) before.toSettled before.dated
    (before.shown earlier) effect found

end Step

section Run
open Runs
open SqlText (ascii)
variable {s : State}

-- What the lobby users have been sent is who is there.
structure UserListCurrent (s : State) : Prop where
  held : ∀ u, s.Listens u → ∃ list, userListReplica.copy s.sent (s.lobby.user u).connection = some list ∧
    ∀ userID, userID ∈ list ↔ ∃ v ∈ s.lobby.users, (s.lobby.user v).userStatus = .InLobby ∧ (s.lobby.user v).userID = userID

theorem Greeted.current (greeted : s.Greeted) (found : s.characterMissed = false) : s.UserListCurrent where
  held u listens := by
    refine ⟨s.lobby.userList,greeted.shown found u listens id,fun userID => ?_⟩
    rw [Lobby.memUserList]
    exact exists_congr fun v => and_assoc

theorem lobbyUserList (serverConfig : ChannelConfig) (database : Database) (environment : Environment) (time : Nat)
    {events : List Event}
    (ok : Each step (fun s e => s.StaysStep e ∧ s.AloneStep e) (start serverConfig database environment time) events) :
    Always step (fun s => s.characterMissed = false → s.UserListCurrent) (start serverConfig database environment time) events := by
  have begun : (start serverConfig database environment time).Greeted :=
    { sound := Lobby.startSound
      members := Lobby.startMembers
      dated := by simp [start,Dated,Lobby.Known,Lobby.start]
      shown := fun _ u listens => by cases listens.present }
  exact alwaysMono (fun _ => Greeted.current) (alwaysOfEach stepGreeted begun ok)

-- Two users come to the lobby; one opens a room and leaves it, the other asks for the server list.
theorem lobbyUserListLeft :
    Always step (fun s => s.characterMissed = false → s.UserListCurrent) sampleStart
      [connects,connects,arrives 0 (transferLoginBody "one"),arrives 1 (transferLoginBody "two"),arrives 0 createRoomBody,
        arrives 0 [65,2],arrives 1 [10]] :=
  lobbyUserList _ _ _ _ ⟨by decide +kernel,by decide +kernel,by decide +kernel,by decide +kernel,by decide +kernel,
    by decide +kernel,by decide +kernel,trivial⟩

-- Meanwhile another server has deleted the session row of the first user, taken its login, and sends it here.
def otherServerTakes : Statement :=
  ⟨fun d => { d with
    userSessions := d.userSessions.erase 1
    userTransfers := d.userTransfers ++ [⟨1,ascii "again",⟨1,1⟩,0⟩] },true⟩

def sharedAccount : List Event :=
  [connects,connects,arrives 0 (transferLoginBody "one"),
    ⟨.packet 1 (received (transferLoginBody "again")),{ sampleEnvironment with statements := [otherServerTakes] }⟩,
    ⟨.disconnect 1 none,sampleEnvironment⟩]

-- The account is in the lobby twice; one of the two disconnects, and the other is no longer on its own list.
theorem sameUserTwice :
    ¬ ∀ serverConfig database environment time events,
      Each step StaysStep (start serverConfig database environment time) events →
        Always step (fun s => s.characterMissed = false → s.UserListCurrent) (start serverConfig database environment time) events := by
  intro always
  have stays : Each step StaysStep sampleStart sharedAccount :=
    ⟨trivial,trivial,by decide +kernel,by decide +kernel,trivial,trivial⟩
  have last := alwaysLast (always sampleChannel sampleTables sampleEnvironment 0 sharedAccount stays)
  obtain ⟨list,copied,same⟩ := (last (by decide +kernel)).held 0 ⟨by decide +kernel,by decide +kernel,by decide +kernel⟩
  have named : 1 ∈ list := (same 1).mpr ⟨0,by decide +kernel,by decide +kernel,by decide +kernel⟩
  have held : (userListReplica.copy (run step sampleStart sharedAccount).sent 0).map (decide <| 1 ∈ ·) = some false := by
    decide +kernel
  have gone : (some list).map (decide <| 1 ∈ ·) = some false := copied ▸ held
  simp [named] at gone

end Run
end CsoMaster.State
