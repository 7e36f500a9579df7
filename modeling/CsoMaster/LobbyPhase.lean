import CsoMaster.LobbyMembership

/-! A room is in phase when its state says Playing exactly while it has a match and the
members in that match are exactly those in game. Every operation keeps all rooms in phase
that neither sets the room state by hand nor hands an unsaved match to the next host. -/
namespace CsoMaster

namespace Room

structure InPhase (room : Room) (inGame : UserRef → Prop) : Prop where
  state : room.roomSettings.roomState = .Playing ↔ room.gameMatch.isSome = true
  seats : ∀ v ∈ room.roomUsers, inGame v ↔ v ∈ room.participants

-- Where `u` is the host and others stay in its match, something has been saved of it.
def HandsOver (room : Room) (u : UserRef) : Prop :=
  room.roomHostUser = u → ∀ m ∈ room.gameMatch, (m.removeGameMatchUser u).gameMatchUsers ≠ [] → m.saveData ≠ []

instance (room : Room) (u : UserRef) : Decidable (room.HandsOver u) :=
  inferInstanceAs (Decidable (_ → _))

section
variable {room : Room} {inGame : UserRef → Prop} {m : GameMatch} {u first : UserRef}

theorem waitingIdle (c : RoomSettings) : (c.update (.ofRoomState .Waiting)).roomState ≠ .Playing := by
  rw [RoomSettings.updateOfRoomState]
  change RoomState.Waiting ≠ RoomState.Playing
  decide

theorem playingState (c : RoomSettings) : (c.update (.ofRoomState .Playing)).roomState = .Playing := by
  rw [RoomSettings.updateOfRoomState]

-- The match is over: nobody of the members is in game any more.
theorem idleInPhase (idle : room.gameMatch = none) (state : room.roomSettings.roomState ≠ .Playing)
    (nobody : ∀ v ∈ room.roomUsers, ¬ inGame v) : room.InPhase inGame where
  state := by simp [state,idle]
  seats v mem := by simp [nobody v mem,noParticipants idle]

theorem migratedInPhase {other : Room} (phase : room.InPhase inGame) (playing : room.gameMatch = some m)
    (saved : m.saveData ≠ []) {next : UserRef} (same : other = room.migrate m next) : other.InPhase inGame := by
  have kept : other.gameMatch = room.gameMatch := by rw [same,playing]; simp [migrate,saved]
  refine ⟨?_,fun v mem => ?_⟩
  · rw [kept,same]; exact phase.state
  · rw [same] at mem
    rw [phase.seats v mem,participants,participants,kept]

theorem withoutUserInPhase (sound : room.Sound) (phase : room.InPhase inGame) {after : UserRef → Prop}
    (others : ∀ v ≠ u, after v ↔ inGame v) : (room.withoutUser u).InPhase after := by
  refine ⟨by simpa [withoutUser] using phase.state,fun v mem => ?_⟩
  obtain ⟨differs,listed⟩ := sound.nodup.mem_erase_iff.mp mem
  rw [others v differs,phase.seats v listed,participantsWithoutUser,sound.seatsNodup.mem_erase_iff]
  simp [differs]

theorem departedInPhase (sound : room.Sound) (phase : room.InPhase inGame) (handed : room.HandsOver u)
    {after : UserRef → Prop} (others : ∀ v ≠ u, after v ↔ inGame v) (first : UserRef) :
    (room.departed u first).InPhase after := by
  have left := withoutUserInPhase sound phase others
  unfold departed
  split
  · rename_i host
    rcases hostLeftCases (room.withoutUser u) first with ⟨-,h⟩ | ⟨m,playing,nobody,h⟩ | ⟨m,next,rest,playing,seats,h⟩
    · rw [h]; exact ⟨left.state,left.seats⟩
    · rw [h]
      refine idleInPhase rfl (waitingIdle _) fun v mem inside => ?_
      have taken := (left.seats v mem).mp inside
      rw [participantsOf playing,GameMatch.participants,nobody] at taken
      cases taken
    · refine migratedInPhase left playing ?_ h
      obtain ⟨old,before,rfl⟩ := Option.map_eq_some_iff.mp playing
      exact handed host old before (by simp [seats])
  · exact left

theorem returnedInPhase (sound : room.Sound) (phase : room.InPhase inGame) (playing : room.gameMatch = some m)
    (handed : room.HandsOver u) {after : UserRef → Prop} (others : ∀ v ≠ u, after v ↔ inGame v) (left : ¬ after u) :
    (room.returned u m).InPhase after := by
  have seats : (m.removeGameMatchUser u).participants = room.participants.erase u := by
    rw [participantsRemove,participantsOf playing]
  have back : ({ room with gameMatch := some (m.removeGameMatchUser u) }).InPhase after := by
    refine ⟨by simpa [playing] using phase.state,fun v mem => ?_⟩
    have gone : v ∈ participants { room with gameMatch := some (m.removeGameMatchUser u) } ↔
        v ≠ u ∧ v ∈ room.participants := by
      rw [participantsOf rfl,seats,sound.seatsNodup.mem_erase_iff]
    rw [gone]
    by_cases same : v = u
    · subst same; simp [left]
    · rw [others v same,phase.seats v mem]; simp [same]
  unfold returned
  dsimp only
  split
  · rename_i host
    rcases hostReturnedCases { room with gameMatch := some (m.removeGameMatchUser u) }
      (m.removeGameMatchUser u) with ⟨nobody,h⟩ | ⟨next,rest,some',h⟩
    · rw [h]
      refine idleInPhase rfl (waitingIdle _) fun v mem inside => ?_
      have taken := (back.seats v mem).mp inside
      rw [participantsOf rfl,GameMatch.participants,nobody] at taken
      cases taken
    · exact migratedInPhase back rfl (handed host.symm m playing (by simp [some'])) h
  · exact back

end
end Room

namespace Lobby

def inGame (l : Lobby) (v : UserRef) : Prop := (l.user v).userStatus = .InGame

def Coherent (l : Lobby) : Prop := ∀ r ∈ l.rooms, (l.room r).InPhase l.inGame

def Handed (l : Lobby) : Op → Prop
  | .removeUser u => ∀ r ∈ l.getRoomByRoomID (l.user u).currentRoomID, (l.room r).HandsOver u
  | .leaveRoom u r => (l.room r).HandsOver u
  | .returnToRoom u r _ => (l.room r).HandsOver u
  | .updateRoomSettings _ _ s => s.low ROOMSETTINGS_LFLAG_ROOMSTATE = false
  | _ => True

theorem startCoherent : start.Coherent := by
  intro r mem
  cases mem

section
variable {l other : Lobby} {u : UserRef} {r : RoomRef} {m : GameMatch}

theorem samePhase {room : Room} {before after : UserRef → Prop} (phase : room.InPhase before)
    (same : ∀ v ∈ room.roomUsers, after v ↔ before v) : room.InPhase after :=
  ⟨phase.state,fun v mem => (same v mem).trans (phase.seats v mem)⟩

-- Rooms as they were, or struck, and no member of a room that stays enters or leaves a game.
theorem Coherent.frame (coherent : l.Coherent) (rooms : ∀ q ∈ other.rooms, q ∈ l.rooms ∧ other.room q = l.room q)
    (users : ∀ q ∈ other.rooms, ∀ v ∈ (l.room q).roomUsers, other.inGame v ↔ l.inGame v) : other.Coherent := by
  intro q mem
  obtain ⟨before,same⟩ := rooms q mem
  rw [same]
  exact samePhase (coherent q before) (users q mem)

-- One room and its members change: the others have no member among them.
theorem Coherent.one (coherent : l.Coherent) (sound : l.Sound) (members : l.Members) (registered : r ∈ l.rooms)
    (rooms : other.rooms = l.rooms) (room : ∀ q ≠ r, other.room q = l.room q)
    (users : ∀ v, v ∉ (l.room r).roomUsers → (other.inGame v ↔ l.inGame v))
    (phase : (other.room r).InPhase other.inGame) : other.Coherent := by
  intro q mem
  by_cases same : q = r
  · subst same; exact phase
  · rw [rooms] at mem
    rw [room q same]
    exact samePhase (coherent q mem) fun v listed =>
      users v fun also => same (members.only sound mem registered listed also)

theorem inGameSetUser {user : User} (l : Lobby) (u v : UserRef) :
    (l.setUser u user).inGame v ↔ if v = u then user.userStatus = .InGame else l.inGame v := by
  by_cases same : v = u
  · subst same; simp [inGame,setUser]
  · simp [inGame,setUser,same]

-- A user that was not in game and is not now.
theorem Coherent.setUser (coherent : l.Coherent) {user : User}
    (same : user.userStatus = .InGame ↔ (l.user u).userStatus = .InGame) : (l.setUser u user).Coherent := by
  refine coherent.frame (fun q mem => ⟨mem,rfl⟩) fun q mem v _ => ?_
  rw [inGameSetUser]
  split
  · rename_i own
    subst own; exact same
  · exact Iff.rfl

theorem Coherent.setRoom (coherent : l.Coherent) (registered : r ∈ l.rooms) {room : Room}
    (phase : (l.room r).InPhase l.inGame → room.InPhase l.inGame) : (l.setRoom r room).Coherent := by
  intro q mem
  by_cases same : q = r
  · subst same
    change (Function.update l.room q room q).InPhase l.inGame
    rw [Function.update_self]
    exact phase (coherent q mem)
  · change (Function.update l.room r room q).InPhase l.inGame
    rw [Function.update_of_ne same]
    exact coherent q mem

theorem Coherent.closeRooms (coherent : l.Coherent) (sound : l.Sound) (members : l.Members)
    (rooms : other.rooms.Sublist l.rooms) (room : ∀ q ∈ other.rooms, other.room q = l.room q)
    (outside : ∀ v, (∀ q ∈ l.rooms, q ∉ other.rooms → v ∉ (l.room q).roomUsers) → other.user v = l.user v) :
    other.Coherent := by
  refine coherent.frame (fun q mem => ⟨rooms.subset mem,room q mem⟩) fun q mem v listed => ?_
  have kept : other.user v = l.user v := by
    refine outside v fun p inP struck also => struck ?_
    rw [← members.only sound (rooms.subset mem) inP listed also]
    exact mem
  rw [inGame,inGame,kept]

theorem Coherent.removeRoomUser (coherent : l.Coherent) (sound : l.Sound) (members : l.Members)
    (registered : r ∈ l.rooms) (listed : u ∈ (l.room r).roomUsers) (handed : (l.room r).HandsOver u) :
    (l.removeRoomUser r u).Coherent := by
  cases left : (l.room r).roomUsers.erase u with
  | nil =>
    rw [removeRoomUserLast l left]
    refine coherent.closeRooms sound members List.erase_sublist ?_ ?_
    · intro q mem
      have differs := (sound.roomsNodup.mem_erase_iff.mp mem).1
      simp [Lobby.backToLobby,Lobby.setUser,Lobby.setRoom,differs]
    · intro v absent
      have differs : v ≠ u := by
        rintro rfl
        exact absent r registered (fun mem => (sound.roomsNodup.mem_erase_iff.mp mem).1 rfl) listed
      simp [Lobby.backToLobby,Lobby.setUser,Lobby.setRoom,differs]
  | cons first rest =>
    rw [removeRoomUserOthers l left]
    have others (v : UserRef) (differs : v ≠ u) :
        ((l.setRoom r ((l.room r).departed u first)).backToLobby u).inGame v ↔ l.inGame v := by
      simp [inGame,Lobby.backToLobby,Lobby.setUser,Lobby.setRoom,differs]
    refine coherent.one sound members registered rfl (fun q differs => ?_) (fun v absent => others v ?_) ?_
    · simp [Lobby.backToLobby,Lobby.setUser,Lobby.setRoom,differs]
    · rintro rfl
      exact absent listed
    · have own : ((l.setRoom r ((l.room r).departed u first)).backToLobby u).room r = (l.room r).departed u first := by
        simp [Lobby.backToLobby,Lobby.setUser,Lobby.setRoom]
      rw [own]
      exact Room.departedInPhase (members.rooms r registered) (coherent r registered) handed others first

theorem Coherent.removeUser (coherent : l.Coherent) (sound : l.Sound) (members : l.Members) (mem : u ∈ l.users)
    (handed : l.Handed (.removeUser u)) : (l.removeUser u).Coherent := by
  cases found : l.getRoomByRoomID (l.user u).currentRoomID with
  | none => rw [removeUserOutside found]; exact coherent
  | some r =>
    obtain ⟨registered,id,-⟩ := getRoomByRoomIDSome found
    have listed := (members.member r registered u).mpr ⟨mem,id.symm⟩
    rw [removeUserInside found]
    exact coherent.removeRoomUser sound members registered listed (handed r found)

theorem Coherent.createRoom (coherent : l.Coherent) (sound : l.Sound) {s : RoomSettings}
    (calm : (l.user u).userStatus ≠ .InGame) (waiting : s.roomState = .Waiting) : (l.createRoom u s true).Coherent := by
  have users (v : UserRef) : (l.createRoom u s true).inGame v ↔ l.inGame v := by
    by_cases same : v = u
    · subst same; simp [inGame,Lobby.createRoom,Lobby.setUser,Lobby.addRoom,User.enterRoom,calm]
    · simp [inGame,Lobby.createRoom,Lobby.setUser,Lobby.addRoom,same]
  intro q mem
  rcases List.mem_append.mp mem with before | new
  · have old : (l.createRoom u s true).room q = l.room q := by
      simp [Lobby.createRoom,Lobby.setUser,Lobby.addRoom,Nat.ne_of_lt (sound.roomsOld q before)]
    rw [old]
    exact samePhase (coherent q before) fun v _ => users v
  · have own : (l.createRoom u s true).room q = { (Room.new l.getFreeRoomID u).addRoomUser u with roomSettings := s } := by
      have fresh : q = l.fresh := List.mem_singleton.mp new
      subst fresh
      simp [Lobby.createRoom,Lobby.setUser,Lobby.addRoom]
    rw [own]
    refine Room.idleInPhase rfl (by rw [waiting]; decide) fun v listed => ?_
    have only : v = u := by simpa [Room.addRoomUser,Room.new] using listed
    rw [users,only]
    exact calm

theorem Coherent.joinRoom (coherent : l.Coherent) (members : l.Members) (calm : (l.user u).userStatus ≠ .InGame)
    (registered : r ∈ l.rooms) (absent : u ∉ (l.room r).roomUsers) : (l.joinRoom u r).Coherent := by
  have entered : (l.setRoom r ((l.room r).addRoomUser u)).Coherent := by
    refine coherent.setRoom registered fun phase => ⟨phase.state,fun v mem => ?_⟩
    rcases List.mem_append.mp mem with before | new
    · exact phase.seats v before
    · rw [List.mem_singleton.mp new]
      exact ⟨fun inside => absurd inside calm,
        fun taken => absurd ((members.rooms r registered).seated u taken) absent⟩
  exact entered.setUser (by simp [User.enterRoom,Lobby.setRoom,calm])

theorem Coherent.returnToRoom (coherent : l.Coherent) (sound : l.Sound) (members : l.Members)
    (plays : l.Plays u r m) (handed : (l.room r).HandsOver u) : (l.returnToRoom u r m).Coherent := by
  obtain ⟨registered,listed⟩ := members.occupied plays.1
  have others (v : UserRef) (differs : v ≠ u) : (l.returnToRoom u r m).inGame v ↔ l.inGame v := by
    simp [inGame,returnToRoomEq,Lobby.setUserStatus,Lobby.setUser,Lobby.setRoom,differs]
  refine coherent.one sound members registered rfl (fun q differs => ?_) (fun v absent => others v ?_) ?_
  · simp [returnToRoomEq,Lobby.setUserStatus,Lobby.setUser,Lobby.setRoom,differs]
  · rintro rfl
    exact absent listed
  · have own : (l.returnToRoom u r m).room r = (l.room r).returned u m := by
      simp [returnToRoomEq,Lobby.setUserStatus,Lobby.setUser,Lobby.setRoom]
    rw [own]
    refine Room.returnedInPhase (members.rooms r registered) (coherent r registered) plays.2 handed others ?_
    simp [inGame,returnToRoomEq,Lobby.setUserStatus,Lobby.setUser]

theorem Coherent.sendUserStatus (coherent : l.Coherent) (sound : l.Sound) (members : l.Members) {target : UserRef}
    (playing : (l.room r).gameMatch = some m) (occupies : l.Occupies target r) :
    (l.sendUserStatus r m target).Coherent := by
  obtain ⟨registered,listed⟩ := members.occupied occupies
  have others (v : UserRef) (differs : v ≠ target) : (l.sendUserStatus r m target).inGame v ↔ l.inGame v := by
    simp [inGame,Lobby.sendUserStatus,Lobby.setUserStatus,Lobby.setUser,Lobby.setRoom,differs]
  refine coherent.one sound members registered rfl (fun q differs => ?_) (fun v absent => others v ?_) ?_
  · simp [Lobby.sendUserStatus,Lobby.setUserStatus,Lobby.setUser,Lobby.setRoom,differs]
  · rintro rfl
    exact absent listed
  · have own : (l.sendUserStatus r m target).room r =
        { l.room r with gameMatch := some (m.addGameMatchUser ⟨target,.None⟩) } := by
      simp [Lobby.sendUserStatus,Lobby.setUserStatus,Lobby.setUser,Lobby.setRoom]
    have phase := coherent r registered
    rw [own]
    refine ⟨by simpa [playing] using phase.state,fun v mem => ?_⟩
    rw [Room.participantsOf rfl,participantsAdd,List.mem_append,List.mem_singleton]
    by_cases same : v = target
    · subst same
      simp [inGame,Lobby.sendUserStatus,Lobby.setUserStatus,Lobby.setUser]
    · rw [others v same,phase.seats v mem,Room.participantsOf playing]
      simp [same]

theorem Coherent.endGame (coherent : l.Coherent) (sound : l.Sound) (members : l.Members)
    (playing : (l.room r).gameMatch = some m) (registered : r ∈ l.rooms) : (l.endGame r m).Coherent := by
  have seated := (members.rooms r registered).seated
  rw [Room.participantsOf playing] at seated
  rw [endGameEq]
  refine coherent.one sound members registered rfl (fun q differs => ?_) (fun v absent => ?_) ?_
  · simp [Lobby.setRoom,differs]
  · have out : v ∉ m.participants := fun taken => absent (seated v taken)
    simp [inGame,out]
  · have own : (l.setRoom r (l.room r).endMatch).room r = (l.room r).endMatch := by simp [Lobby.setRoom]
    dsimp only
    rw [own]
    refine Room.idleInPhase rfl (Room.waitingIdle _) fun v mem inside => ?_
    by_cases taken : v ∈ m.participants
    · simp [inGame,taken] at inside
    · have stays : l.inGame v := by simpa [inGame,taken,Lobby.setRoom] using inside
      rw [(coherent r registered).seats v mem,Room.participantsOf playing] at stays
      exact taken stays

theorem applyCoherent (sound : l.Sound) (members : l.Members) (coherent : l.Coherent) {op : Op}
    (admitted : l.Admitted op) (calm : l.Calm op) (handed : l.Handed op) : (l.apply op).Coherent := by
  cases op with
  | addUser connection userID userName =>
    refine coherent.frame (fun q mem => ⟨mem,rfl⟩) fun q mem v listed => ?_
    have old := Nat.ne_of_lt (sound.usersOld v ((members.member q mem v).mp listed).1)
    simp [inGame,apply,Lobby.addUser,old]
  | removeUser u => exact coherent.removeUser sound members admitted handed
  | setUserNetwork u userNetwork => exact coherent.setUser Iff.rfl
  | enterServerList u =>
    refine coherent.setUser ?_
    rcases admitted.2 with h | h <;> simp [h]
  | enterLobby u =>
    refine coherent.setUser ?_
    rcases admitted.2 with h | h <;> simp [h]
  | createRoom u s added =>
    cases added with
    | true => exact coherent.createRoom sound calm admitted.2.2.2.2
    | false =>
      have before : (l.user u).userStatus ≠ .InGame := calm
      exact coherent.setUser (by simp [User.backToLobby,before])
  | joinRoom u r =>
    obtain ⟨-,-,-,registered,-,absent⟩ := admitted
    exact coherent.joinRoom members calm registered absent
  | leaveRoom u r =>
    obtain ⟨registered,listed⟩ := members.occupied admitted
    exact coherent.removeRoomUser sound members registered listed handed
  | updateRoomSettings u r s =>
    refine coherent.setRoom (members.occupied admitted.1).1 fun phase => ⟨?_,phase.seats⟩
    change (RoomSettings.update _ s).roomState = _ ↔ _
    rw [RoomSettings.updateRoomState _ s handed]
    exact phase.state
  | returnToRoom u r m => exact coherent.returnToRoom sound members admitted handed
  | serverIsActivated u r =>
    obtain ⟨occupies,-,idle⟩ := admitted
    refine coherent.setRoom (members.occupied occupies).1 fun phase => ⟨?_,fun v mem => ?_⟩
    · exact iff_of_true (Room.playingState _) rfl
    · rw [phase.seats v mem,Room.noParticipants idle]
      exact Iff.rfl
  | saveData u r m saveData =>
    obtain ⟨⟨⟨occupies,playing⟩,-⟩,-,-⟩ := admitted
    refine coherent.setRoom (members.occupied occupies).1 fun phase => ⟨by simpa [playing] using phase.state,?_⟩
    intro v mem
    rw [phase.seats v mem,Room.participantsOf playing]
    exact Iff.rfl
  | sendUserStatus u r m target =>
    obtain ⟨⟨⟨-,playing⟩,-⟩,occupies,-⟩ := admitted
    exact coherent.sendUserStatus sound members playing occupies
  | endGame u r m =>
    obtain ⟨⟨⟨occupies,playing⟩,-⟩,-⟩ := admitted
    exact coherent.endGame sound members playing (members.occupied occupies).1
  | selectTeam u r m target team =>
    obtain ⟨⟨⟨occupies,playing⟩,-⟩,-,-⟩ := admitted
    refine coherent.setRoom (members.occupied occupies).1 fun phase => ⟨by simpa [playing] using phase.state,?_⟩
    intro v mem
    rw [phase.seats v mem,Room.participantsOf playing,Room.participantsOf rfl,participantsSetTeam]
  | removeRoom r =>
    rw [apply,removeRoomEq]
    refine coherent.closeRooms sound members List.erase_sublist (fun _ _ => rfl) fun v absent => ?_
    have out : v ∉ (l.room r).roomUsers :=
      absent r admitted fun mem => (sound.roomsNodup.mem_erase_iff.mp mem).1 rfl
    simp [out]
  | removeAllRooms =>
    obtain ⟨user,whole,-,-⟩ := destroyRooms l.rooms { l with rooms := [] }
    rw [apply,Lobby.removeAllRooms,whole]
    intro q mem
    cases mem

end
end Lobby
end CsoMaster
