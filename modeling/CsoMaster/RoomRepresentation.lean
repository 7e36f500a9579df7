import CsoMaster.RoomMembership

/-! The representation of rooms in every state that can be reached, whatever users in game do:
the registry, the rooms themselves and the way from a user's room ID to its room. What is
erased from a list by `erase(find(..))` is always in it. -/
namespace CsoMaster
namespace Lobby

-- The rooms are sound under IDs that `GetFreeRoomID` gives, and lead back to their users.
structure Placed (l : Lobby) : Prop where
  rooms : ∀ r ∈ l.rooms, (l.room r).Sound
  ids : ∀ r ∈ l.rooms, (l.room r).roomID.toNat ≤ 65534
  current : ∀ u ∈ l.users, (l.user u).currentRoomID ≠ 0 →
    ∃ r ∈ l.rooms, (l.room r).roomID = (l.user u).currentRoomID ∧ u ∈ (l.room r).roomUsers

theorem startPlaced : start.Placed := by
  constructor <;> simp [start]

section Placed
variable {l other : Lobby} {u : UserRef} {r : RoomRef} {room : Room}

theorem freeRoomIDFromBounded (l : Lobby) (left : Nat) (roomID : UInt16) (small : roomID.toNat + left ≤ 65535) :
    (l.freeRoomIDFrom left roomID).toNat ≤ 65534 := by
  induction left generalizing roomID with
  | zero => simp [freeRoomIDFrom]
  | succ left ih =>
    unfold freeRoomIDFrom
    split
    · refine ih (roomID + 1) ?_
      rw [UInt16.toNat_add]
      have one : (1 : UInt16).toNat = 1 := rfl
      omega
    · omega

theorem getFreeRoomIDBounded (l : Lobby) : l.getFreeRoomID.toNat ≤ 65534 :=
  freeRoomIDFromBounded l 65534 1 (by decide)

-- Rooms may be gone as long as nobody's room ID names them any more.
theorem Placed.change (placed : l.Placed) (users : ∀ u ∈ other.users, u ∈ l.users)
    (rooms : ∀ r ∈ other.rooms, r ∈ l.rooms ∧ (other.room r).roomID = (l.room r).roomID ∧ (other.room r).Sound)
    (current : ∀ u ∈ other.users, (other.user u).currentRoomID ≠ 0 →
      (other.user u).currentRoomID = (l.user u).currentRoomID ∧
        ∀ r ∈ l.rooms, (l.room r).roomID = (l.user u).currentRoomID → u ∈ (l.room r).roomUsers →
          r ∈ other.rooms ∧ u ∈ (other.room r).roomUsers) : other.Placed where
  rooms r mem := (rooms r mem).2.2
  ids r mem := by
    obtain ⟨before,same,-⟩ := rooms r mem
    exact same ▸ placed.ids r before
  current u mem away := by
    obtain ⟨same,stays⟩ := current u mem away
    obtain ⟨r,registered,id,listed⟩ := placed.current u (users u mem) (same ▸ away)
    obtain ⟨still,lists⟩ := stays r registered id listed
    exact ⟨r,still,by rw [(rooms r still).2.1,id,same],lists⟩

theorem Placed.setUser (placed : l.Placed) {user : User} (u : UserRef)
    (same : user.currentRoomID = (l.user u).currentRoomID ∨ user.currentRoomID = 0) : (l.setUser u user).Placed := by
  refine placed.change (fun _ => id) (fun r mem => ⟨mem,rfl,placed.rooms r mem⟩) fun v mem away => ?_
  by_cases own : v = u
  · subst own
    have self : ((l.setUser v user).user v) = user := by simp [Lobby.setUser]
    rw [self] at away ⊢
    exact ⟨same.resolve_right away,fun r registered _ listed => ⟨registered,listed⟩⟩
  · have other : ((l.setUser u user).user v) = l.user v := by simp [Lobby.setUser,own]
    rw [other]
    exact ⟨rfl,fun r registered _ listed => ⟨registered,listed⟩⟩

theorem Placed.setRoom (placed : l.Placed) (id : room.roomID = (l.room r).roomID)
    (users : ∀ u ∈ (l.room r).roomUsers, u ∈ room.roomUsers) (sound : r ∈ l.rooms → room.Sound) :
    (l.setRoom r room).Placed := by
  have own : (l.setRoom r room).room r = room := by simp [Lobby.setRoom]
  have others {q : RoomRef} (differs : q ≠ r) : (l.setRoom r room).room q = l.room q := by
    simp [Lobby.setRoom,differs]
  refine placed.change (fun _ mem => mem) (fun q mem => ?_) fun v mem away => ⟨rfl,fun q registered _ listed => ?_⟩
  · by_cases same : q = r
    · subst same
      rw [own]
      exact ⟨mem,id,sound mem⟩
    · rw [others same]
      exact ⟨mem,rfl,placed.rooms q mem⟩
  · by_cases same : q = r
    · subst same
      rw [own]
      exact ⟨registered,users v listed⟩
    · rw [others same]
      exact ⟨registered,listed⟩

theorem Placed.addUser (placed : l.Placed) (sound : l.Sound) (connection : ConnectionRef) (userID : UInt32)
    (userName : Bytes) : (l.addUser (.new connection userID userName)).Placed where
  rooms := placed.rooms
  ids := placed.ids
  current v mem away := by
    rcases List.mem_append.mp mem with old | new
    · have differs : v ≠ l.fresh := Nat.ne_of_lt (sound.usersOld v old)
      have same : (l.addUser (.new connection userID userName)).user v = l.user v := by
        simp [Lobby.addUser,differs]
      rw [same] at away ⊢
      exact placed.current v old away
    · have self : (l.addUser (.new connection userID userName)).user v = .new connection userID userName := by
        simp [Lobby.addUser,List.mem_singleton.mp new]
      rw [self] at away
      exact absurd rfl away

theorem Placed.createRoom (placed : l.Placed) (sound : l.Sound) (u : UserRef) (s : RoomSettings) :
    (l.createRoom u s true).Placed := by
  have old {q : RoomRef} (mem : q ∈ l.rooms) : (l.createRoom u s true).room q = l.room q := by
    simp [Lobby.createRoom,Lobby.addRoom,Lobby.setUser,Nat.ne_of_lt (sound.roomsOld q mem)]
  have new : (l.createRoom u s true).room l.fresh =
      { (Room.new l.getFreeRoomID u).addRoomUser u with roomSettings := s } := by
    simp [Lobby.createRoom,Lobby.addRoom,Lobby.setUser]
  have either {q : RoomRef} (mem : q ∈ (l.createRoom u s true).rooms) : q ∈ l.rooms ∨ q = l.fresh := by
    simpa [Lobby.createRoom,Lobby.addRoom,Lobby.setUser] using mem
  constructor
  · intro q mem
    rcases either mem with before | rfl
    · rw [old before]
      exact placed.rooms q before
    · rw [new]
      exact Room.newSound _ u s
  · intro q mem
    rcases either mem with before | rfl
    · rw [old before]
      exact placed.ids q before
    · rw [new]
      exact getFreeRoomIDBounded l
  · intro v mem away
    by_cases own : v = u
    · subst own
      refine ⟨l.fresh,List.mem_append_right _ (by simp [Lobby.setUser]),?_,?_⟩
      · rw [new]
        simp [Lobby.createRoom,Lobby.addRoom,Lobby.setUser,Room.new,Room.addRoomUser,User.enterRoom]
      · rw [new]
        simp [Room.new,Room.addRoomUser]
    · have same : (l.createRoom u s true).user v = l.user v := by
        simp [Lobby.createRoom,Lobby.addRoom,Lobby.setUser,own]
      rw [same] at away ⊢
      obtain ⟨q,registered,id,listed⟩ := placed.current v mem away
      exact ⟨q,List.mem_append_left _ registered,by rw [old registered,id],by rw [old registered]; exact listed⟩

theorem Placed.joinRoom (placed : l.Placed) (registered : r ∈ l.rooms) (absent : u ∉ (l.room r).roomUsers) :
    (l.joinRoom u r).Placed := by
  have entered : (l.setRoom r ((l.room r).addRoomUser u)).Placed :=
    placed.setRoom rfl (fun _ => List.mem_append_left _) fun mem => Room.addRoomUserSound (placed.rooms r mem) absent
  refine ⟨entered.rooms,entered.ids,fun v mem away => ?_⟩
  by_cases own : v = u
  · subst own
    refine ⟨r,registered,?_,?_⟩
    · simp [Lobby.joinRoom,Lobby.setUser,Lobby.setRoom,User.enterRoom,Room.addRoomUser]
    · simp [Lobby.joinRoom,Lobby.setUser,Lobby.setRoom,Room.addRoomUser]
  · have same : (l.joinRoom u r).user v = l.user v := by
      simp [Lobby.joinRoom,Lobby.setUser,Lobby.setRoom,own]
    rw [same] at away ⊢
    exact entered.current v mem away

theorem Placed.removeRoom (placed : l.Placed) (sound : l.Sound) (r : RoomRef) : (l.removeRoom r).Placed := by
  rw [removeRoomEq]
  refine placed.change (fun _ mem => mem) (fun q mem => ?_) fun v mem away => ?_
  · have before := List.mem_of_mem_erase mem
    exact ⟨before,rfl,placed.rooms q before⟩
  · dsimp only at away ⊢
    split at away
    · exact absurd rfl away
    · rename_i outside
      rw [if_neg outside]
      refine ⟨rfl,fun q registered _ listed => ⟨?_,listed⟩⟩
      exact sound.roomsNodup.mem_erase_iff.mpr ⟨fun same => outside (same ▸ listed),registered⟩

theorem Placed.removeAllRooms (placed : l.Placed) : l.removeAllRooms.Placed := by
  obtain ⟨user,whole,inside,outside⟩ := destroyRooms l.rooms { l with rooms := [] }
  rw [Lobby.removeAllRooms,whole]
  refine ⟨by simp,by simp,fun v mem away => absurd ?_ away⟩
  by_cases listed : ∃ r ∈ l.rooms, v ∈ (l.room r).roomUsers
  · obtain ⟨r,registered,member⟩ := listed
    exact congrArg User.currentRoomID (inside r registered v member)
  · refine (congrArg User.currentRoomID (outside v fun r registered member => listed ⟨r,registered,member⟩)).trans ?_
    by_contra named
    obtain ⟨r,registered,-,member⟩ := placed.current v mem named
    exact listed ⟨r,registered,member⟩

-- The user is listed where its room ID leads.
theorem Placed.located (placed : l.Placed) (sound : l.Sound) (mem : u ∈ l.users)
    (found : l.getRoomByRoomID (l.user u).currentRoomID = some r) : u ∈ (l.room r).roomUsers := by
  obtain ⟨registered,id,given⟩ := getRoomByRoomIDSome found
  obtain ⟨q,inQ,same,listed⟩ := placed.current u mem given
  rw [sound.distinctIDs r registered q inQ (id.trans same.symm)]
  exact listed

theorem Placed.removeRoomUser (placed : l.Placed) (sound : l.Sound) (registered : r ∈ l.rooms) (u : UserRef) :
    (l.removeRoomUser r u).Placed := by
  have back (l : Lobby) : (l.backToLobby u).user u = (l.user u).backToLobby := by
    simp [Lobby.backToLobby,Lobby.setUser]
  have others {l : Lobby} {v : UserRef} (differs : v ≠ u) : (l.backToLobby u).user v = l.user v := by
    simp [Lobby.backToLobby,Lobby.setUser,differs]
  cases left : (l.room r).roomUsers.erase u with
  | nil =>
    rw [removeRoomUserLast l left]
    refine placed.change (fun _ mem => mem) (fun q mem => ?_) fun v mem away => ?_
    · obtain ⟨differs,before⟩ := sound.roomsNodup.mem_erase_iff.mp mem
      have same : (({ l with rooms := l.rooms.erase r }.setRoom r ((l.room r).withoutUser u)).backToLobby u).room q =
          l.room q := by simp [Lobby.backToLobby,Lobby.setUser,Lobby.setRoom,differs]
      exact ⟨before,by rw [same],by rw [same]; exact placed.rooms q before⟩
    · by_cases own : v = u
      · subst own
        rw [back] at away
        exact absurd rfl away
      · rw [others own]
        refine ⟨rfl,fun q inQ _ listed => ?_⟩
        have differs : q ≠ r := by
          rintro rfl
          have stays := (placed.rooms q registered).nodup.mem_erase_iff.mpr ⟨own,listed⟩
          rw [left] at stays
          cases stays
        exact ⟨sound.roomsNodup.mem_erase_iff.mpr ⟨differs,inQ⟩,
          by simpa [Lobby.backToLobby,Lobby.setUser,Lobby.setRoom,differs] using listed⟩
  | cons first rest =>
    rw [removeRoomUserOthers l left]
    have departed : ((l.room r).departed u first).Sound := Room.departedSound (placed.rooms r registered) left
    have own : ((l.setRoom r ((l.room r).departed u first)).backToLobby u).room r = (l.room r).departed u first := by
      simp [Lobby.backToLobby,Lobby.setUser,Lobby.setRoom]
    have elsewhere {q : RoomRef} (differs : q ≠ r) :
        ((l.setRoom r ((l.room r).departed u first)).backToLobby u).room q = l.room q := by
      simp [Lobby.backToLobby,Lobby.setUser,Lobby.setRoom,differs]
    refine placed.change (fun _ mem => mem) (fun q mem => ?_) fun v mem away => ?_
    · by_cases same : q = r
      · subst same
        rw [own]
        exact ⟨mem,Room.departedID _ u first,departed⟩
      · rw [elsewhere same]
        exact ⟨mem,rfl,placed.rooms q mem⟩
    · by_cases sameUser : v = u
      · subst sameUser
        rw [back] at away
        exact absurd rfl away
      · rw [others sameUser]
        refine ⟨rfl,fun q inQ _ listed => ⟨inQ,?_⟩⟩
        by_cases same : q = r
        · subst same
          rw [own,Room.departedUsers,(placed.rooms q inQ).nodup.mem_erase_iff]
          exact ⟨sameUser,listed⟩
        · rw [elsewhere same]
          exact listed

theorem Placed.removeUser (placed : l.Placed) (sound : l.Sound) (u : UserRef) : (l.removeUser u).Placed := by
  have fewer (l : Lobby) (placed : l.Placed) : { l with users := l.users.erase u }.Placed :=
    placed.change (fun _ => List.mem_of_mem_erase) (fun r mem => ⟨mem,rfl,placed.rooms r mem⟩)
      fun v mem away => ⟨rfl,fun r registered _ listed => ⟨registered,listed⟩⟩
  cases found : l.getRoomByRoomID (l.user u).currentRoomID with
  | none =>
    rw [removeUserOutside found]
    exact fewer l placed
  | some r =>
    rw [removeUserInside found]
    have left := placed.removeRoomUser sound (getRoomByRoomIDSome found).1 u
    have users := (removeRoomUserFrame l r u).1
    rw [← users]
    exact fewer _ left

theorem applyPlaced (sound : l.Sound) (placed : l.Placed) {op : Op} (admitted : l.Admitted op) :
    (l.apply op).Placed := by
  -- Rooms that keep their users and their host, and lose participants at most.
  have reseat {r : RoomRef} {room : Room} (id : room.roomID = (l.room r).roomID)
      (users : room.roomUsers = (l.room r).roomUsers) (host : room.roomHostUser = (l.room r).roomHostUser)
      (seats : room.participants.Sublist (l.room r).participants) : (l.setRoom r room).Placed :=
    placed.setRoom id (fun _ mem => users ▸ mem) fun mem =>
      (placed.rooms r mem).reseat users (host ▸ (placed.rooms r mem).host) seats
  cases op with
  | addUser connection userID userName => exact placed.addUser sound connection userID userName
  | removeUser u => exact placed.removeUser sound u
  | setUserNetwork u userNetwork => exact placed.setUser u (.inl rfl)
  | enterServerList u => exact placed.setUser u (.inl rfl)
  | enterLobby u => exact placed.setUser u (.inl rfl)
  | createRoom u s added =>
    cases added with
    | true => exact placed.createRoom sound u s
    | false => exact placed.setUser u (.inr rfl)
  | joinRoom u r => exact placed.joinRoom admitted.2.2.2.1 admitted.2.2.2.2.2
  | leaveRoom u r => exact placed.removeRoomUser sound (getRoomByRoomIDSome admitted.2.2).1 u
  | updateRoomSettings u r s => exact reseat rfl rfl rfl (List.Sublist.refl _)
  | returnToRoom u r m =>
    have seated := placed.setRoom (Room.returnedID _ u m) (fun v mem => Room.returnedUsers (l.room r) u m ▸ mem)
      fun mem => Room.returnedSound (placed.rooms r mem) admitted.2 u
    rw [apply,returnToRoomEq]
    exact seated.setUser u (.inl rfl)
  | serverIsActivated u r => exact reseat rfl rfl rfl (List.nil_sublist _)
  | saveData u r m saveData =>
    refine reseat rfl rfl rfl ?_
    rw [Room.participantsOf admitted.1.1.2]
    exact List.Sublist.refl _
  | sendUserStatus u r m target =>
    obtain ⟨⟨⟨-,playing⟩,-⟩,⟨known,-,found⟩,absent⟩ := admitted
    have seated : (l.setRoom r { l.room r with gameMatch := some (m.addGameMatchUser ⟨target,.None⟩) }).Placed :=
      placed.setRoom rfl (fun _ mem => mem) fun mem =>
        Room.addGameMatchUserSound (placed.rooms r mem) playing (placed.located sound known found)
          (notParticipant absent) .None
    exact seated.setUser target (.inl rfl)
  | endGame u r m =>
    have ended : (l.setRoom r (l.room r).endMatch).Placed := reseat rfl rfl rfl (List.nil_sublist _)
    rw [apply,endGameEq]
    refine ended.change (fun _ mem => mem) (fun q mem => ⟨mem,rfl,ended.rooms q mem⟩) fun v mem away => ⟨?_,?_⟩
    · dsimp only [Lobby.setRoom]
      split <;> rfl
    · exact fun q registered _ listed => ⟨registered,listed⟩
  | selectTeam u r m target team =>
    refine reseat rfl rfl rfl ?_
    rw [Room.participantsOf admitted.1.1.2]
    exact (participantsSetTeam m target team) ▸ List.Sublist.refl _
  | removeRoom r => exact placed.removeRoom sound r
  | removeAllRooms => exact placed.removeAllRooms

end Placed
end Lobby

namespace State
open Runs

section Erasing
variable {s t : State} {u : UserRef} {r : RoomRef}

theorem erasingFound {found : Prop} [Decidable found] (holds : found) : (s.erasing found).erasedEnd = s.erasedEnd := by
  simp [erasing,holds]

theorem removeRoomErased (registered : r ∈ s.lobby.rooms) : (s.removeRoom r).erasedEnd = s.erasedEnd := by
  have sent : (s.sendRemoveRoomPacketToAll (s.lobby.room r).roomID).erasedEnd = s.erasedEnd :=
    ((Mails.refl s).sendAll _ _).erased
  dsimp only [removeRoom]
  rw [((Keeps.refl _).destroyRoom _).erased]
  refine (erasingFound ?_).trans sent
  rw [execLobby,sendRemoveRoomPacketToAllLobby]
  exact registered

theorem takeOutErased (listed : u ∈ (s.lobby.room r).roomUsers) : (s.takeOut r u).erasedEnd = s.erasedEnd :=
  ((Mails.refl _).sendUpdateRoomPacketToAll r _).erased.trans (erasingFound listed)

theorem removeRoomUserErased (registered : r ∈ s.lobby.rooms) (listed : u ∈ (s.lobby.room r).roomUsers) :
    (s.removeRoomUser r u).erasedEnd = s.erasedEnd := by
  cases left : (s.lobby.room r).roomUsers.erase u with
  | nil =>
    rw [removeRoomUserLast left,removeRoomErased (by rw [takeOutLobby]; exact registered),takeOutErased listed]
  | cons first rest =>
    have seen : (s.seeOff r u).erasedEnd = s.erasedEnd :=
      ((Mails.refl _).tellAll _ r _).erased.trans (takeOutErased listed)
    rw [removeRoomUserOthers left]
    split
    · exact ((Keeps.refl _).hostLeft r first).erased.trans seen
    · exact seen

theorem dropUserErased (mem : u ∈ s.lobby.users) : (s.dropUser u).erasedEnd = s.erasedEnd := by
  have counted (t : State) : t.updateChannelNumPlayers.erasedEnd = t.erasedEnd := by
    rcases t.updateChannelNumPlayersCases with ⟨-,quiet⟩ | ⟨-,faulted⟩
    · exact quiet.erased
    · rw [faulted]
      rfl
  exact (counted _).trans (erasingFound mem)

theorem removeUserErased (sound : s.lobby.Sound) (placed : s.lobby.Placed) (mem : u ∈ s.lobby.users) :
    (s.removeUser u).erasedEnd = s.erasedEnd := by
  have farewell : (s.farewell u).erasedEnd = s.erasedEnd := ((Mails.refl s).farewell u).erased
  rw [removeUserEq]
  cases found : s.lobby.getRoomByRoomID (s.lobby.user u).currentRoomID with
  | none =>
    rw [leaveLobbyOutside found,dropUserErased (by rw [farewellLobby]; exact mem),farewell]
  | some r =>
    have registered : r ∈ (s.farewell u).lobby.rooms := by
      rw [farewellLobby]
      exact (Lobby.getRoomByRoomIDSome found).1
    have listed : u ∈ ((s.farewell u).lobby.room r).roomUsers := by
      rw [farewellLobby]
      exact placed.located sound mem found
    have still : u ∈ ((s.farewell u).removeRoomUser r u).lobby.users := by
      rw [removeRoomUserLobby,(Lobby.removeRoomUserFrame _ r u).1,farewellLobby]
      exact mem
    rw [leaveLobbyInside found,dropUserErased still,removeRoomUserErased registered listed,farewell]

-- The rooms that could not be written again are registered until their turn.
theorem recoverRoomsErased (rooms : List RoomRef) (registered : rooms.Subperm s.lobby.rooms) :
    (rooms.foldl recoverRoom s).erasedEnd = s.erasedEnd := by
  induction rooms generalizing s with
  | nil => rfl
  | cons r rooms ih =>
    have here : r ∈ s.lobby.rooms := registered.subset List.mem_cons_self
    have once : (s.recoverRoom r).erasedEnd = s.erasedEnd := by
      dsimp only [recoverRoom]
      split
      · exact removeRoomErased here
      · rfl
    have kept : rooms.Subperm (s.recoverRoom r).lobby.rooms := by
      rcases s.recoverRoomLobby r with same | removed
      · exact same ▸ (List.sublist_cons_self r rooms).subperm.trans registered
      · rw [removed,Lobby.removeRoomEq]
        simpa using registered.erase r
    exact (ih kept).trans once

theorem removeAllRoomsErased : s.removeAllRooms.erasedEnd = s.erasedEnd := by
  refine (Keeps.fold ((Keeps.refl s).setLobby _) (fun t r => ?_) _).erased
  exact ((Mails.refl t).sendAll _ _).toKeeps.destroyRoom _

theorem openRoomErased (userCharacter : UserCharacter) (settings : RoomSettings) (fastStart : Bool) :
    (s.openRoom u userCharacter settings fastStart).erasedEnd = s.erasedEnd := by
  have approached : (s.approachRoom u).erasedEnd = s.erasedEnd := ((Keeps.refl s).approachRoom u).erased
  rw [openRoomEq]
  dsimp only
  split
  · exact ((Keeps.refl _).roomRefused u).erased.trans approached
  · exact ((Keeps.refl _).roomAdded u _ _ _).erased.trans approached

theorem effectErased {may : Lobby → Lobby.Op → Prop} (admitted : ∀ l op, may l op → l.Admitted op)
    (sound : s.lobby.Sound) (placed : s.lobby.Placed) (effect : Effect may s t) : t.erasedEnd = s.erasedEnd := by
  cases effect with
  | quiet quiet => exact quiet.erased
  | fault => rfl
  | connect ipAddress => rfl
  | showServers c => exact ((Mails.refl s).send c _).erased
  | addUser known op => rfl
  | removeUser op => exact removeUserErased sound placed (admitted _ _ op)
  | setUserNetwork op => rfl
  | showServerList op new => rfl
  | leaveLobby op present => exact ((Mails.refl _).sendRemoveUserPacketToAll _).erased
  | enterLobby op => exact ((Keeps.refl s).enterLobby _).erased
  | openRoom op => exact openRoomErased _ _ _
  | enterRoom op =>
    exact (((((Mails.refl _).sendRemoveUserPacketToAll _).sendUpdateRoomPacketToAll _ _).introduce _ _ _).tell _ _ _
      |>.tell _ _ _).erased
  | leaveRoom op =>
    rename_i u r
    obtain ⟨mem,-,found⟩ := admitted _ _ op
    refine ((Mails.refl _).showLobby u).erased.trans (removeRoomUserErased ?_ ?_)
    · exact (Lobby.getRoomByRoomIDSome found).1
    · exact placed.located sound mem found
  | changeRoomSettings op => exact (((Mails.refl _).sendUpdateRoomPacketToAll _ _).tellAll _ _ _).erased
  | returnUser op => exact ((Keeps.refl s).returnUser _ _ _).erased
  | startMatch op => exact ((Keeps.refl s).startMatch _).erased
  | saveData op => rfl
  | sendUserStatus op => rfl
  | endGame op => exact ((Keeps.refl s).endGame _ _).erased
  | selectTeam op => rfl
  | recoverRooms op => exact recoverRoomsErased (s := s.exec _) _ (.refl _)
  | removeAllRooms op => exact removeAllRoomsErased

end Erasing

section Run
variable {s : State}

structure RoomRepresentation (s : State) : Prop where
  distinct : (s.lobby.rooms.map fun r => (s.lobby.room r).roomID).Nodup
  ids : ∀ r ∈ s.lobby.rooms, 1 ≤ (s.lobby.room r).roomID.toNat ∧ (s.lobby.room r).roomID.toNat ≤ 65534
  users : ∀ r ∈ s.lobby.rooms, (s.lobby.room r).roomUsers ≠ [] ∧ (s.lobby.room r).roomUsers.Nodup ∧
    (s.lobby.room r).roomHostUser ∈ (s.lobby.room r).roomUsers
  seats : ∀ r ∈ s.lobby.rooms, ∀ m, (s.lobby.room r).gameMatch = some m →
    m.participants.Nodup ∧ ∀ u ∈ m.participants, u ∈ (s.lobby.room r).roomUsers
  current : ∀ u ∈ s.lobby.users, (s.lobby.user u).currentRoomID ≠ 0 →
    ∃ r ∈ s.lobby.rooms, (s.lobby.room r).roomID = (s.lobby.user u).currentRoomID ∧ u ∈ (s.lobby.room r).roomUsers
  only : ∀ r ∈ s.lobby.rooms, ∀ roomID,
    s.lobby.getRoomByRoomID roomID = some r ↔ (s.lobby.room r).roomID = roomID
  -- What `RemoveGameMatchUser` is called with has just been found in the match.
  removed : ∀ r ∈ s.lobby.rooms, ∀ m, (s.lobby.room r).gameMatch = some m → ∀ u p,
    m.getGameMatchUserByUser u = some p →
      p ∈ m.gameMatchUsers ∧ (m.removeGameMatchUser u).gameMatchUsers = m.gameMatchUsers.erase p
  erased : s.erasedEnd = false

-- What every step keeps.
structure Standing (s : State) : Prop where
  sound : s.lobby.Sound
  placed : s.lobby.Placed
  erased : s.erasedEnd = false

theorem effectStanding {may : Lobby → Lobby.Op → Prop} (admitted : ∀ l op, may l op → l.Admitted op) {t : State}
    (standing : s.Standing) (effect : Effect may s t) : t.Standing := by
  have both : t.lobby.Sound ∧ t.lobby.Placed :=
    Reaches.invariant (fun (l : Lobby) op (before : l.Sound ∧ l.Placed) done =>
        ⟨Lobby.applySound before.1 (admitted l op done),Lobby.applyPlaced before.1 before.2 (admitted l op done)⟩)
      (effectReaches effect) ⟨standing.sound,standing.placed⟩
  exact ⟨both.1,both.2,(effectErased admitted standing.sound standing.placed effect).trans standing.erased⟩

theorem stepStanding (standing : s.Standing) (e : Event) : (s.step e).Standing := by
  refine Effects.invariant (fun t m standing effect => effectStanding (fun _ _ => And.left) standing effect)
    (stepEffects s e) ?_
  exact ⟨standing.sound,standing.placed,standing.erased⟩

theorem foundErased {α : Type} [BEq α] [LawfulBEq α] {chosen : α → Bool} {a : α} {items : List α}
    (found : items.find? chosen = some a) : items.eraseP chosen = items.erase a := by
  induction items with
  | nil => cases found
  | cons b rest ih =>
    by_cases own : chosen b = true
    · have same : b = a := by simpa [own] using found
      rw [List.eraseP_cons_of_pos own,same,List.erase_cons_head]
    · have later : rest.find? chosen = some a := by simpa [own] using found
      have other : b ≠ a := by
        rintro rfl
        exact own (List.find?_some later)
      rw [List.eraseP_cons_of_neg own,List.erase_cons_tail (by simpa using other),ih later]

theorem Standing.only (standing : s.Standing) {r : RoomRef} (registered : r ∈ s.lobby.rooms) (roomID : UInt16) :
    s.lobby.getRoomByRoomID roomID = some r ↔ (s.lobby.room r).roomID = roomID := by
  constructor
  · intro found
    exact (Lobby.getRoomByRoomIDSome found).2.1
  · rintro rfl
    have given := standing.sound.roomIDs r registered
    cases found : s.lobby.getRoomByRoomID (s.lobby.room r).roomID with
    | none => exact absurd rfl (Lobby.getRoomByRoomIDNone found given r registered)
    | some q =>
      obtain ⟨inQ,same,-⟩ := Lobby.getRoomByRoomIDSome found
      rw [standing.sound.distinctIDs q inQ r registered same]

theorem Standing.represented (standing : s.Standing) : s.RoomRepresentation where
  distinct := standing.sound.roomsNodup.map_on fun r inR q inQ => standing.sound.distinctIDs r inR q inQ
  ids r registered := by
    have given : (s.lobby.room r).roomID.toNat ≠ 0 :=
      fun zero => standing.sound.roomIDs r registered (UInt16.toNat_inj.mp zero)
    exact ⟨Nat.one_le_iff_ne_zero.mpr given,standing.placed.ids r registered⟩
  users r registered := by
    have sound := standing.placed.rooms r registered
    exact ⟨List.ne_nil_of_mem sound.host,sound.nodup,sound.host⟩
  seats r registered m playing := by
    have sound := standing.placed.rooms r registered
    rw [← Room.participantsOf playing]
    exact ⟨sound.seatsNodup,sound.seated⟩
  current := standing.placed.current
  only r registered := standing.only registered
  removed _ _ _ _ _ _ found := ⟨List.mem_of_find?_eq_some found,foundErased found⟩
  erased := standing.erased

theorem roomRepresentation (serverConfig : ChannelConfig) (database : Database) (environment : Environment)
    (time : Nat) (events : List Event) :
    Always step RoomRepresentation (start serverConfig database environment time) events := by
  have begun : (start serverConfig database environment time).Standing := ⟨Lobby.startSound,Lobby.startPlaced,rfl⟩
  exact alwaysMono (fun _ => Standing.represented)
    (alwaysOfEach (fun _ e standing _ => stepStanding standing e) begun (eachTrue _ events))

end Run
end State
end CsoMaster
