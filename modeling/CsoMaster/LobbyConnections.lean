import CsoMaster.LobbyMembership

/-! The connections of the users: no operation changes the one of a user that is there, and
only a login brings a user in. So connections stay distinct as long as no connection logs in
a second time. -/
namespace CsoMaster.Lobby

def Distinct (l : Lobby) : Prop :=
  ∀ u ∈ l.users, ∀ v ∈ l.users, (l.user u).connection = (l.user v).connection → u = v

-- The connection that logs in has no user yet.
def Single (l : Lobby) : Op → Prop
  | .addUser connection _ _ => ∀ u ∈ l.users, (l.user u).connection ≠ connection
  | _ => True

theorem startDistinct : start.Distinct := by
  intro u mem
  cases mem

section
variable {l other : Lobby}

theorem setUserConnection {user : User} (l : Lobby) (u : UserRef) (same : user.connection = (l.user u).connection)
    (v : UserRef) : ((l.setUser u user).user v).connection = (l.user v).connection := by
  by_cases own : v = u
  · subst own; simp [setUser,same]
  · simp [setUser,own]

theorem backConnection (us : List UserRef) (v : UserRef) :
    (if v ∈ us then (l.user v).backToLobby else l.user v).connection = (l.user v).connection := by
  split <;> rfl

theorem Distinct.shrink (distinct : l.Distinct) (users : other.users.Sublist l.users)
    (same : ∀ v, (other.user v).connection = (l.user v).connection) : other.Distinct := by
  intro u memU v memV equal
  rw [same,same] at equal
  exact distinct u (users.subset memU) v (users.subset memV) equal

theorem Distinct.setUser (distinct : l.Distinct) {u : UserRef} {user : User}
    (same : user.connection = (l.user u).connection) : (l.setUser u user).Distinct :=
  distinct.shrink (List.Sublist.refl _) (setUserConnection l u same)

theorem Distinct.setRoom (distinct : l.Distinct) (r : RoomRef) (room : Room) : (l.setRoom r room).Distinct :=
  distinct.shrink (List.Sublist.refl _) fun _ => rfl

theorem Distinct.addUser (distinct : l.Distinct) (sound : l.Sound) {user : User}
    (single : ∀ u ∈ l.users, (l.user u).connection ≠ user.connection) : (l.addUser user).Distinct := by
  have old {u : UserRef} (mem : u ∈ l.users) : (l.addUser user).user u = l.user u := by
    simp [Lobby.addUser,Nat.ne_of_lt (sound.usersOld u mem)]
  have new : (l.addUser user).user l.fresh = user := by simp [Lobby.addUser]
  intro u memU v memV equal
  rcases List.mem_append.mp memU with before | now <;> rcases List.mem_append.mp memV with also | too
  · rw [old before,old also] at equal
    exact distinct u before v also equal
  · rw [List.mem_singleton.mp too,old before,new] at equal
    exact absurd equal (single u before)
  · rw [List.mem_singleton.mp now,old also,new] at equal
    exact absurd equal.symm (single v also)
  · rw [List.mem_singleton.mp now,List.mem_singleton.mp too]

theorem removeUserConnection (l : Lobby) (u v : UserRef) :
    ((l.removeUser u).user v).connection = (l.user v).connection := by
  cases found : l.getRoomByRoomID (l.user u).currentRoomID with
  | none => rw [removeUserOutside found]
  | some r =>
    rw [removeUserInside found]
    exact ((removeRoomUserFrame l r u).2.2.2.2.1 v).1

theorem applyDistinct (sound : l.Sound) (distinct : l.Distinct) {op : Op} (single : l.Single op) :
    (l.apply op).Distinct := by
  cases op with
  | addUser connection userID userName => exact distinct.addUser sound single
  | removeUser u =>
    exact distinct.shrink (by rw [apply,removeUserUsers]; exact List.erase_sublist) (removeUserConnection l u)
  | setUserNetwork u userNetwork => exact distinct.setUser rfl
  | enterServerList u => exact distinct.setUser rfl
  | enterLobby u => exact distinct.setUser rfl
  | createRoom u s added =>
    cases added with
    | false => exact distinct.setUser rfl
    | true =>
      have entered : (l.setUser u ((l.user u).enterRoom l.getFreeRoomID)).Distinct := distinct.setUser rfl
      exact entered.shrink (List.Sublist.refl _) fun _ => rfl
  | joinRoom u r => exact (distinct.setRoom r _).setUser rfl
  | leaveRoom u r =>
    obtain ⟨users,-,-,-,fields,-⟩ := removeRoomUserFrame l r u
    exact distinct.shrink (by rw [apply,users]) fun v => (fields v).1
  | updateRoomSettings u r s => exact distinct.setRoom r _
  | returnToRoom u r m =>
    rw [apply,returnToRoomEq]
    exact (distinct.setRoom r _).setUser rfl
  | serverIsActivated u r => exact distinct.setRoom r _
  | saveData u r m saveData => exact distinct.setRoom r _
  | sendUserStatus u r m target => exact (distinct.setRoom r _).setUser rfl
  | endGame u r m =>
    rw [apply,endGameEq]
    refine distinct.shrink (List.Sublist.refl _) fun v => ?_
    dsimp only
    split <;> rfl
  | selectTeam u r m target team => exact distinct.setRoom r _
  | removeRoom r =>
    rw [apply,removeRoomEq]
    exact distinct.shrink (List.Sublist.refl _) (backConnection _)
  | removeAllRooms =>
    obtain ⟨user,whole,inside,outside⟩ := destroyRooms l.rooms { l with rooms := [] }
    rw [apply,Lobby.removeAllRooms,whole]
    refine distinct.shrink (List.Sublist.refl _) fun v => ?_
    dsimp only
    by_cases placed : ∃ r ∈ l.rooms, v ∈ (l.room r).roomUsers
    · obtain ⟨r,mem,listed⟩ := placed
      rw [inside r mem v listed]
      rfl
    · rw [outside v fun r mem listed => placed ⟨r,mem,listed⟩]

end

section Known
variable {l other : Lobby} {u v : UserRef} {r : RoomRef}

-- Users and members of rooms, of which some may be users no longer.
def Known (l : Lobby) (u : UserRef) : Prop := u ∈ l.users ∨ ∃ r ∈ l.rooms, u ∈ (l.room r).roomUsers

-- Who the users are, whatever has become of them.
def SameUsers (l other : Lobby) : Prop :=
  ∀ v, (other.user v).connection = (l.user v).connection ∧ (other.user v).userID = (l.user v).userID

theorem setUserSame {user : User} (l : Lobby) (u : UserRef) (connection : user.connection = (l.user u).connection)
    (userID : user.userID = (l.user u).userID) : l.SameUsers (l.setUser u user) := by
  intro v
  by_cases own : v = u
  · subst own; simp [setUser,connection,userID]
  · simp [setUser,own]

-- What a user does apart from logging in and its network: it moves.
def OnlyMoves (l other : Lobby) : Prop :=
  ∀ v, other.user v = { l.user v with userStatus := (other.user v).userStatus, currentRoomID := (other.user v).currentRoomID }

theorem setUserMoves {user : User} (l : Lobby) (u : UserRef)
    (moved : user = { l.user u with userStatus := user.userStatus, currentRoomID := user.currentRoomID }) :
    l.OnlyMoves (l.setUser u user) := by
  intro v
  by_cases own : v = u
  · subst own
    simpa [setUser] using moved
  · simp [setUser,own]

theorem removeRoomMoves (l : Lobby) (r : RoomRef) : l.OnlyMoves (l.removeRoom r) := by
  rw [removeRoomEq]
  intro v
  dsimp only
  split <;> rfl

theorem removeRoomUserMoves (l : Lobby) (r : RoomRef) (u : UserRef) : l.OnlyMoves (l.removeRoomUser r u) := by
  cases left : (l.room r).roomUsers.erase u with
  | nil =>
    rw [removeRoomUserLast l left]
    exact setUserMoves l u rfl
  | cons first rest =>
    rw [removeRoomUserOthers l left]
    exact setUserMoves l u rfl

theorem applyMoves (l : Lobby) {op : Op} (old : ∀ connection userID userName, op ≠ .addUser connection userID userName)
    (unset : ∀ u userNetwork, op ≠ .setUserNetwork u userNetwork) : l.OnlyMoves (l.apply op) := by
  cases op with
  | addUser connection userID userName => exact absurd rfl (old connection userID userName)
  | setUserNetwork u userNetwork => exact absurd rfl (unset u userNetwork)
  | removeUser u =>
    cases found : l.getRoomByRoomID (l.user u).currentRoomID with
    | none =>
      rw [apply,removeUserOutside found]
      exact fun _ => rfl
    | some r =>
      rw [apply,removeUserInside found]
      exact removeRoomUserMoves l r u
  | enterServerList u => exact setUserMoves l u rfl
  | enterLobby u => exact setUserMoves l u rfl
  | createRoom u s added => cases added <;> exact setUserMoves l u rfl
  | joinRoom u r => exact setUserMoves l u rfl
  | leaveRoom u r => exact removeRoomUserMoves l r u
  | updateRoomSettings u r s => exact fun _ => rfl
  | returnToRoom u r m => exact setUserMoves l u rfl
  | serverIsActivated u r => exact fun _ => rfl
  | saveData u r m saveData => exact fun _ => rfl
  | sendUserStatus u r m target => exact setUserMoves l target rfl
  | endGame u r m =>
    rw [apply,endGameEq]
    intro v
    dsimp only
    split <;> rfl
  | selectTeam u r m target team => exact fun _ => rfl
  | removeRoom r => exact removeRoomMoves l r
  | removeAllRooms =>
    obtain ⟨user,whole,inside,outside⟩ := destroyRooms l.rooms { l with rooms := [] }
    rw [apply,Lobby.removeAllRooms,whole]
    intro v
    dsimp only
    by_cases placed : ∃ r ∈ l.rooms, v ∈ (l.room r).roomUsers
    · obtain ⟨r,mem,listed⟩ := placed
      rw [inside r mem v listed]
      rfl
    · rw [outside v fun r mem listed => placed ⟨r,mem,listed⟩]

theorem OnlyMoves.sameUsers (moves : l.OnlyMoves other) : l.SameUsers other := by
  intro v
  rw [moves v]
  exact ⟨rfl,rfl⟩

theorem applySameUsers (l : Lobby) {op : Op} (old : ∀ connection userID userName, op ≠ .addUser connection userID userName) :
    l.SameUsers (l.apply op) := by
  by_cases network : ∃ u userNetwork, op = .setUserNetwork u userNetwork
  · obtain ⟨u,userNetwork,rfl⟩ := network
    exact setUserSame l u rfl rfl
  · exact (applyMoves l old fun u userNetwork same => network ⟨u,userNetwork,same⟩).sameUsers

theorem Known.shrink (known : other.Known u) (users : ∀ v ∈ other.users, v ∈ l.users)
    (rooms : ∀ r ∈ other.rooms, r ∈ l.rooms ∧ ∀ v ∈ (other.room r).roomUsers, v ∈ (l.room r).roomUsers) : l.Known u := by
  rcases known with mem | ⟨r,registered,member⟩
  · exact .inl (users u mem)
  · exact .inr ⟨r,(rooms r registered).1,(rooms r registered).2 u member⟩

theorem Known.setRoom {room : Room} (known : (l.setRoom r room).Known u)
    (members : ∀ v ∈ room.roomUsers, v ∈ (l.room r).roomUsers) : l.Known u := by
  refine known.shrink (fun _ => id) fun q registered => ⟨registered,fun v member => ?_⟩
  by_cases same : q = r
  · subst same
    exact members v (by simpa [Lobby.setRoom] using member)
  · simpa [Lobby.setRoom,same] using member

theorem Known.removeRoomUser (known : (l.removeRoomUser r u).Known v) : l.Known v := by
  cases left : (l.room r).roomUsers.erase u with
  | nil =>
    rw [removeRoomUserLast l left] at known
    have before : (l.setRoom r ((l.room r).withoutUser u)).Known v :=
      known.shrink (fun _ => id) fun q registered => ⟨List.mem_of_mem_erase registered,fun _ => id⟩
    exact before.setRoom fun _ => List.mem_of_mem_erase
  | cons first rest =>
    rw [removeRoomUserOthers l left] at known
    refine Known.setRoom (r := r) known fun v member => ?_
    rw [Room.departedUsers] at member
    exact List.mem_of_mem_erase member

-- A login makes the next address known, and nothing else makes any.
theorem applyKnown {op : Op} (admitted : l.Admitted op) (known : (l.apply op).Known u) :
    l.Known u ∨ u = l.fresh ∧ ∃ connection userID userName, op = .addUser connection userID userName := by
  cases op with
  | addUser connection userID userName =>
    rcases known with mem | ⟨r,registered,member⟩
    · rcases List.mem_append.mp mem with before | new
      · exact .inl (.inl before)
      · exact .inr ⟨List.mem_singleton.mp new,connection,userID,userName,rfl⟩
    · exact .inl (.inr ⟨r,registered,member⟩)
  | removeUser v =>
    refine .inl ?_
    cases found : l.getRoomByRoomID (l.user v).currentRoomID with
    | none =>
      rw [apply,removeUserOutside found] at known
      exact known.shrink (fun _ => List.mem_of_mem_erase) fun _ registered => ⟨registered,fun _ => id⟩
    | some r =>
      rw [apply,removeUserInside found] at known
      have before : (l.removeRoomUser r v).Known u :=
        known.shrink (fun w mem => (removeRoomUserFrame l r v).1 ▸ List.mem_of_mem_erase mem)
          fun _ registered => ⟨registered,fun _ => id⟩
      exact before.removeRoomUser
  | createRoom v s added =>
    cases added with
    | false => exact .inl known
    | true =>
      rcases known with mem | ⟨q,registered,member⟩
      · exact .inl (.inl mem)
      · by_cases new : q = l.fresh
        · subst new
          have own : u = v := by
            simpa [apply,createRoom,addRoom,setUser,Room.addRoomUser,Room.new] using member
          exact .inl (.inl (own ▸ admitted.1))
        · have before : q ∈ l.rooms := by simpa [apply,createRoom,addRoom,setUser,new] using registered
          exact .inl (.inr ⟨q,before,by simpa [apply,createRoom,addRoom,setUser,new] using member⟩)
  | joinRoom v r =>
    rcases known with mem | ⟨q,registered,member⟩
    · exact .inl (.inl mem)
    · by_cases same : q = r
      · subst same
        have either : u ∈ (l.room q).roomUsers ∨ u = v := by
          simpa [apply,joinRoom,setRoom,setUser,Room.addRoomUser] using member
        rcases either with before | rfl
        · exact .inl (.inr ⟨q,registered,before⟩)
        · exact .inl (.inl admitted.1)
      · exact .inl (.inr ⟨q,registered,by simpa [apply,joinRoom,setRoom,setUser,same] using member⟩)
  | leaveRoom v r => exact .inl (Known.removeRoomUser known)
  | returnToRoom v r m =>
    rw [apply,returnToRoomEq] at known
    refine .inl (Known.setRoom (r := r) known fun w member => ?_)
    rwa [Room.returnedUsers] at member
  | endGame v r m =>
    rw [apply,endGameEq] at known
    exact .inl (Known.setRoom (r := r) known fun _ => id)
  | removeRoom r =>
    rw [apply,removeRoomEq] at known
    exact .inl (known.shrink (fun _ => id) fun q registered => ⟨List.mem_of_mem_erase registered,fun _ => id⟩)
  | removeAllRooms =>
    obtain ⟨user,whole,-,-⟩ := destroyRooms l.rooms { l with rooms := [] }
    rw [apply,Lobby.removeAllRooms,whole] at known
    exact .inl (known.shrink (fun _ => id) fun q registered => by cases registered)
  | setUserNetwork v userNetwork => exact .inl known
  | enterServerList v => exact .inl known
  | enterLobby v => exact .inl known
  | updateRoomSettings v r s => exact .inl (Known.setRoom (r := r) known fun _ => id)
  | serverIsActivated v r => exact .inl (Known.setRoom (r := r) known fun _ => id)
  | saveData v r m saveData => exact .inl (Known.setRoom (r := r) known fun _ => id)
  | sendUserStatus v r m target => exact .inl (Known.setRoom (r := r) known fun _ => id)
  | selectTeam v r m target team => exact .inl (Known.setRoom (r := r) known fun _ => id)

end Known
end CsoMaster.Lobby
