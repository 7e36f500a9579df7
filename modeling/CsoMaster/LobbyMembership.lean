import CsoMaster.Lobby
import Mathlib.Data.List.Nodup

/-! Membership is kept three times: in the room's list, in the user's room ID and in the
user's status. `Members` says that the three agree and that rooms and matches refer to
members only; every operation keeps it that no InGame user opens or joins a room with. -/
namespace CsoMaster

theorem nodupSnoc {α : Type} {l : List α} {a : α} (nodup : l.Nodup) (absent : a ∉ l) : (l ++ [a]).Nodup := by
  rw [← List.concat_eq_append]
  exact nodup.concat absent

section Participants
variable {m : GameMatch} {u v : UserRef}

theorem participantsRemove (m : GameMatch) (u : UserRef) :
    (m.removeGameMatchUser u).participants = m.participants.erase u := by
  obtain ⟨saveData,gameMatchUsers⟩ := m
  induction gameMatchUsers with
  | nil => rfl
  | cons p rest ih =>
    by_cases same : p.user = u
    · simp [GameMatch.removeGameMatchUser,GameMatch.participants,same]
    · simp only [GameMatch.removeGameMatchUser,GameMatch.participants] at ih ⊢
      simp [same,ih]

theorem participantsAdd (m : GameMatch) (p : GameMatchUser) :
    (m.addGameMatchUser p).participants = m.participants ++ [p.user] := by
  simp [GameMatch.addGameMatchUser,GameMatch.participants]

theorem participantsSetTeam (m : GameMatch) (u : UserRef) (team : Team) :
    (m.setTeam u team).participants = m.participants := by
  simp only [GameMatch.setTeam,GameMatch.participants,List.map_map]
  refine List.map_congr_left fun p _ => ?_
  by_cases same : p.user = u <;> simp [same]

theorem firstParticipant {next : GameMatchUser} {rest} (seats : m.gameMatchUsers = next :: rest) :
    next.user ∈ m.participants := by
  simp [GameMatch.participants,seats]

theorem notParticipant (absent : m.getGameMatchUserByUser u = none) : u ∉ m.participants := by
  intro listed
  obtain ⟨p,mem,same⟩ := List.mem_map.mp listed
  have := List.find?_eq_none.mp absent p mem
  simp [same] at this

end Participants

namespace Room

theorem participantsOf {room : Room} {m : GameMatch} (playing : room.gameMatch = some m) :
    room.participants = m.participants := by
  simp [participants,playing]

theorem noParticipants {room : Room} (idle : room.gameMatch = none) : room.participants = [] := by
  simp [participants,idle]

theorem participantsWithoutUser (room : Room) (u : UserRef) :
    (room.withoutUser u).participants = room.participants.erase u := by
  cases playing : room.gameMatch with
  | none => simp [participants,withoutUser,playing]
  | some m => simp [participants,withoutUser,playing,participantsRemove]

-- Nobody is listed twice, and the host and the participants are members.
structure Sound (room : Room) : Prop where
  nodup : room.roomUsers.Nodup
  host : room.roomHostUser ∈ room.roomUsers
  seatsNodup : room.participants.Nodup
  seated : ∀ v ∈ room.participants, v ∈ room.roomUsers

section Sound
variable {room : Room} {u first : UserRef} {m : GameMatch}

theorem Sound.reseat (sound : room.Sound) {other : Room} (users : other.roomUsers = room.roomUsers)
    (host : other.roomHostUser ∈ room.roomUsers) (seats : other.participants.Sublist room.participants) :
    other.Sound where
  nodup := users ▸ sound.nodup
  host := users ▸ host
  seatsNodup := seats.nodup sound.seatsNodup
  seated v taken := users ▸ sound.seated v (seats.subset taken)

theorem newSound (roomID : UInt16) (u : UserRef) (s : RoomSettings) :
    ({ (new roomID u).addRoomUser u with roomSettings := s }).Sound where
  nodup := by simp [new,addRoomUser]
  host := by simp [new,addRoomUser]
  seatsNodup := by simp [new,addRoomUser,participants]
  seated := by simp [new,addRoomUser,participants]

theorem addRoomUserSound (sound : room.Sound) (absent : u ∉ room.roomUsers) : (room.addRoomUser u).Sound where
  nodup := nodupSnoc sound.nodup absent
  host := List.mem_append_left _ sound.host
  seatsNodup := sound.seatsNodup
  seated v taken := List.mem_append_left _ (sound.seated v taken)

theorem addGameMatchUserSound (sound : room.Sound) (playing : room.gameMatch = some m) (member : u ∈ room.roomUsers)
    (absent : u ∉ m.participants) (team : Team) :
    ({ room with gameMatch := some (m.addGameMatchUser ⟨u,team⟩) }).Sound where
  nodup := sound.nodup
  host := sound.host
  seatsNodup := by
    have seats : m.participants.Nodup := participantsOf playing ▸ sound.seatsNodup
    simpa only [participants,Option.map_some,Option.getD_some,participantsAdd] using nodupSnoc seats absent
  seated v taken := by
    simp only [participants,Option.map_some,Option.getD_some,participantsAdd,List.mem_append,
      List.mem_singleton] at taken
    rcases taken with before | rfl
    · exact sound.seated v (participantsOf playing ▸ before)
    · exact member

-- The room a departed user leaves behind; `first` is the first of the others.
def departed (room : Room) (u first : UserRef) : Room :=
  if (room.withoutUser u).roomHostUser = u then (room.withoutUser u).hostLeft first else room.withoutUser u

theorem hostLeftCases (room : Room) (first : UserRef) :
    (room.gameMatch = none ∧ room.hostLeft first = { room with roomHostUser := first }) ∨
      (∃ m, room.gameMatch = some m ∧ m.gameMatchUsers = [] ∧
        room.hostLeft first = { room.endMatch with roomHostUser := first }) ∨
      ∃ m next rest, room.gameMatch = some m ∧ m.gameMatchUsers = next :: rest ∧
        room.hostLeft first = room.migrate m next.user := by
  unfold hostLeft
  cases playing : room.gameMatch with
  | none => exact .inl ⟨rfl,rfl⟩
  | some m =>
    cases seats : m.gameMatchUsers with
    | nil => exact .inr (.inl ⟨m,rfl,seats,by simp [seats]⟩)
    | cons next rest => exact .inr (.inr ⟨m,next,rest,rfl,seats,by simp [seats]⟩)

theorem migrateParticipants (playing : room.gameMatch = some m) (next : UserRef) :
    (room.migrate m next).participants.Sublist room.participants := by
  by_cases saved : m.saveData = []
  · simp [participants,migrate,saved]
  · simp [participants,migrate,saved,playing]

theorem hostLeftID (room : Room) (first : UserRef) : (room.hostLeft first).roomID = room.roomID := by
  rcases hostLeftCases room first with ⟨-,h⟩ | ⟨m,-,-,h⟩ | ⟨m,next,rest,-,-,h⟩ <;> rw [h] <;> rfl

theorem hostLeftUsers (room : Room) (first : UserRef) : (room.hostLeft first).roomUsers = room.roomUsers := by
  rcases hostLeftCases room first with ⟨-,h⟩ | ⟨m,-,-,h⟩ | ⟨m,next,rest,-,-,h⟩ <;> rw [h] <;> rfl

theorem departedID (room : Room) (u first : UserRef) : (room.departed u first).roomID = room.roomID := by
  unfold departed
  split
  · exact hostLeftID _ _
  · rfl

theorem departedUsers (room : Room) (u first : UserRef) :
    (room.departed u first).roomUsers = room.roomUsers.erase u := by
  unfold departed
  split
  · exact hostLeftUsers _ _
  · rfl

theorem departedSound (sound : room.Sound) {rest : List UserRef}
    (others : room.roomUsers.erase u = first :: rest) : (room.departed u first).Sound := by
  have seats : (room.withoutUser u).participants.Nodup :=
    participantsWithoutUser room u ▸ sound.seatsNodup.erase u
  have seated (v : UserRef) (taken : v ∈ (room.withoutUser u).participants) :
      v ∈ (room.withoutUser u).roomUsers := by
    rw [participantsWithoutUser,sound.seatsNodup.mem_erase_iff] at taken
    exact sound.nodup.mem_erase_iff.mpr ⟨taken.1,sound.seated v taken.2⟩
  have firstIn : first ∈ (room.withoutUser u).roomUsers := by
    change first ∈ room.roomUsers.erase u
    simp [others]
  have nodup : (room.withoutUser u).roomUsers.Nodup := sound.nodup.erase u
  unfold departed
  split
  · have whole : ({ room.withoutUser u with roomHostUser := first }).Sound := ⟨nodup,firstIn,seats,seated⟩
    rcases hostLeftCases (room.withoutUser u) first with ⟨-,h⟩ | ⟨m,-,-,h⟩ | ⟨m,next,more,playing,some',h⟩
    · rw [h]; exact whole
    · rw [h]; exact whole.reseat rfl firstIn (by simp [participants,endMatch,updateRoomSettings])
    · rw [h]
      have taken : next.user ∈ (room.withoutUser u).participants := by
        rw [participantsOf playing]
        exact firstParticipant some'
      exact whole.reseat rfl (seated _ taken) (migrateParticipants playing _)
  · rename_i stays
    exact ⟨nodup,sound.nodup.mem_erase_iff.mpr ⟨stays,sound.host⟩,seats,seated⟩

-- What ReturnToRoom of a member leaves of its room.
def returned (room : Room) (u : UserRef) (m : GameMatch) : Room :=
  let m := m.removeGameMatchUser u
  let room := { room with gameMatch := some m }
  if u = room.roomHostUser then room.hostReturned m else room

theorem hostReturnedCases (room : Room) (m : GameMatch) :
    (m.gameMatchUsers = [] ∧ room.hostReturned m = room.endMatch) ∨
      ∃ next rest, m.gameMatchUsers = next :: rest ∧
        room.hostReturned m = room.migrate m next.user := by
  unfold hostReturned
  cases seats : m.gameMatchUsers with
  | nil => exact .inl ⟨rfl,rfl⟩
  | cons next rest => exact .inr ⟨next,rest,rfl,rfl⟩

theorem returnedID (room : Room) (u : UserRef) (m : GameMatch) : (room.returned u m).roomID = room.roomID := by
  unfold returned
  dsimp only
  split
  · rcases hostReturnedCases { room with gameMatch := some (m.removeGameMatchUser u) }
      (m.removeGameMatchUser u) with ⟨-,h⟩ | ⟨next,rest,-,h⟩ <;> rw [h] <;> rfl
  · rfl

theorem returnedUsers (room : Room) (u : UserRef) (m : GameMatch) :
    (room.returned u m).roomUsers = room.roomUsers := by
  unfold returned
  dsimp only
  split
  · rcases hostReturnedCases { room with gameMatch := some (m.removeGameMatchUser u) }
      (m.removeGameMatchUser u) with ⟨-,h⟩ | ⟨next,rest,-,h⟩ <;> rw [h] <;> rfl
  · rfl

theorem returnedSound (sound : room.Sound) (playing : room.gameMatch = some m) (u : UserRef) :
    (room.returned u m).Sound := by
  have fewer : (m.removeGameMatchUser u).participants.Sublist room.participants := by
    rw [participantsRemove,participantsOf playing]
    exact List.erase_sublist
  have whole : ({ room with gameMatch := some (m.removeGameMatchUser u) }).Sound :=
    sound.reseat rfl sound.host (by simpa [participants] using fewer)
  unfold returned
  dsimp only
  split
  · rcases hostReturnedCases { room with gameMatch := some (m.removeGameMatchUser u) }
      (m.removeGameMatchUser u) with ⟨-,h⟩ | ⟨next,rest,some',h⟩
    · rw [h]
      exact whole.reseat rfl sound.host (by simp [participants,endMatch,updateRoomSettings])
    · rw [h]
      exact whole.reseat rfl (whole.seated _ (firstParticipant some')) (migrateParticipants rfl _)
  · exact whole

end Sound
end Room

namespace Lobby

section Fold

theorem foldSetUser {f : User → User} (idem : ∀ x, f (f x) = f x) (us : List UserRef) (l : Lobby) :
    us.foldl (fun l u => l.setUser u (f (l.user u))) l =
      { l with user := fun v => if v ∈ us then f (l.user v) else l.user v } := by
  induction us generalizing l with
  | nil => simp
  | cons u us ih =>
    rw [List.foldl_cons,ih]
    simp only [setUser,Lobby.mk.injEq,true_and,and_true]
    funext v
    by_cases same : v = u
    · subst same
      by_cases later : v ∈ us <;> simp [later,idem]
    · simp [same]

theorem destroyRoomEq (l : Lobby) (r : RoomRef) :
    l.destroyRoom r =
      { l with user := fun v => if v ∈ (l.room r).roomUsers then (l.user v).backToLobby else l.user v } :=
  foldSetUser (f := User.backToLobby) (fun _ => rfl) _ l

theorem removeRoomEq (l : Lobby) (r : RoomRef) :
    l.removeRoom r = { l with
      rooms := l.rooms.erase r
      user := fun v => if v ∈ (l.room r).roomUsers then (l.user v).backToLobby else l.user v } :=
  destroyRoomEq _ r

-- All rooms of the list at once: their members are back in the lobby, nobody else moves.
theorem destroyRooms (rs : List RoomRef) (l : Lobby) :
    ∃ user, rs.foldl destroyRoom l = { l with user := user } ∧
      (∀ r ∈ rs, ∀ v ∈ (l.room r).roomUsers, user v = (l.user v).backToLobby) ∧
      ∀ v, (∀ r ∈ rs, v ∉ (l.room r).roomUsers) → user v = l.user v := by
  induction rs generalizing l with
  | nil => exact ⟨l.user,rfl,by simp,fun _ _ => rfl⟩
  | cons r rs ih =>
    obtain ⟨user,whole,inside,outside⟩ := ih (l.destroyRoom r)
    rw [destroyRoomEq] at whole inside outside
    refine ⟨user,by rw [List.foldl_cons,destroyRoomEq,whole],?_,?_⟩
    · intro q listed v member
      by_cases later : ∃ p ∈ rs, v ∈ (l.room p).roomUsers
      · obtain ⟨p,mem,also⟩ := later
        rw [inside p mem v also]
        dsimp only
        split <;> rfl
      · have only : q = r := by
          rcases List.mem_cons.mp listed with same | mem
          · exact same
          · exact absurd ⟨q,mem,member⟩ later
        rw [outside v fun p mem also => later ⟨p,mem,also⟩]
        simp [← only,member]
    · intro v absent
      rw [outside v fun p mem => absent p (List.mem_cons_of_mem _ mem)]
      simp [absent r List.mem_cons_self]

end Fold

-- Addresses are used once and room IDs are distinct, whatever the members do.
structure Sound (l : Lobby) : Prop where
  usersNodup : l.users.Nodup
  usersOld : ∀ u ∈ l.users, u < l.fresh
  roomsNodup : l.rooms.Nodup
  roomsOld : ∀ r ∈ l.rooms, r < l.fresh
  roomIDs : ∀ r ∈ l.rooms, (l.room r).roomID ≠ 0
  distinctIDs : ∀ r ∈ l.rooms, ∀ q ∈ l.rooms, (l.room r).roomID = (l.room q).roomID → r = q

structure Members (l : Lobby) : Prop where
  member : ∀ r ∈ l.rooms, ∀ u,
    u ∈ (l.room r).roomUsers ↔ u ∈ l.users ∧ (l.user u).currentRoomID = (l.room r).roomID
  status : ∀ u ∈ l.users, (l.user u).isInRoom ↔ (l.user u).currentRoomID ≠ 0
  located : ∀ u ∈ l.users, (l.user u).currentRoomID ≠ 0 →
    ∃ r ∈ l.rooms, (l.room r).roomID = (l.user u).currentRoomID
  rooms : ∀ r ∈ l.rooms, (l.room r).Sound

theorem startSound : start.Sound := by
  constructor <;> simp [start]

theorem startMembers : start.Members := by
  constructor <;> simp [start]

section Sound
variable {l other : Lobby}

-- Nothing new: users and rooms may only go, and rooms keep their IDs.
theorem Sound.shrink (sound : l.Sound) (users : other.users.Sublist l.users) (rooms : other.rooms.Sublist l.rooms)
    (ids : ∀ r ∈ other.rooms, (other.room r).roomID = (l.room r).roomID) (fresh : other.fresh = l.fresh) :
    other.Sound where
  usersNodup := users.nodup sound.usersNodup
  usersOld u mem := fresh ▸ sound.usersOld u (users.subset mem)
  roomsNodup := rooms.nodup sound.roomsNodup
  roomsOld r mem := fresh ▸ sound.roomsOld r (rooms.subset mem)
  roomIDs r mem := ids r mem ▸ sound.roomIDs r (rooms.subset mem)
  distinctIDs r memR q memQ same :=
    sound.distinctIDs r (rooms.subset memR) q (rooms.subset memQ) (by rw [← ids r memR,← ids q memQ,same])

theorem Sound.setUser (sound : l.Sound) (u : UserRef) (user : User) : (l.setUser u user).Sound :=
  sound.shrink (List.Sublist.refl _) (List.Sublist.refl _) (fun _ _ => rfl) rfl

theorem Sound.setRoom (sound : l.Sound) {r : RoomRef} {room : Room} (id : room.roomID = (l.room r).roomID) :
    (l.setRoom r room).Sound :=
  sound.shrink (List.Sublist.refl _) (List.Sublist.refl _) (fun q _ => by
    by_cases same : q = r
    · subst same; simp [Lobby.setRoom,id]
    · simp [Lobby.setRoom,same]) rfl

theorem Sound.addUser (sound : l.Sound) (user : User) : (l.addUser user).Sound where
  usersNodup := nodupSnoc sound.usersNodup fun mem => Nat.lt_irrefl _ (sound.usersOld _ mem)
  usersOld u mem := by
    rcases List.mem_append.mp mem with old | new
    · exact Nat.lt_succ_of_lt (sound.usersOld u old)
    · exact (List.mem_singleton.mp new) ▸ Nat.lt_succ_self _
  roomsNodup := sound.roomsNodup
  roomsOld r mem := Nat.lt_succ_of_lt (sound.roomsOld r mem)
  roomIDs := sound.roomIDs
  distinctIDs := sound.distinctIDs

theorem Sound.addRoom (sound : l.Sound) {room : Room} (given : room.roomID ≠ 0)
    (free : ∀ r ∈ l.rooms, (l.room r).roomID ≠ room.roomID) : (l.addRoom room).Sound := by
  have old {r : RoomRef} (mem : r ∈ l.rooms) : (l.addRoom room).room r = l.room r := by
    simp [Lobby.addRoom,Nat.ne_of_lt (sound.roomsOld r mem)]
  have own : (l.addRoom room).room l.fresh = room := by simp [Lobby.addRoom]
  constructor
  case usersNodup => exact sound.usersNodup
  case usersOld => exact fun u mem => Nat.lt_succ_of_lt (sound.usersOld u mem)
  case roomsNodup => exact nodupSnoc sound.roomsNodup fun mem => Nat.lt_irrefl _ (sound.roomsOld _ mem)
  case roomsOld =>
    intro r mem
    rcases List.mem_append.mp mem with before | new
    · exact Nat.lt_succ_of_lt (sound.roomsOld r before)
    · exact (List.mem_singleton.mp new) ▸ Nat.lt_succ_self _
  case roomIDs =>
    intro r mem
    rcases List.mem_append.mp mem with before | new
    · rw [old before]; exact sound.roomIDs r before
    · rw [List.mem_singleton.mp new,own]; exact given
  case distinctIDs =>
    intro r memR q memQ same
    rcases List.mem_append.mp memR with oldR | newR
    · rcases List.mem_append.mp memQ with oldQ | newQ
      · rw [old oldR,old oldQ] at same
        exact sound.distinctIDs r oldR q oldQ same
      · rw [old oldR,List.mem_singleton.mp newQ,own] at same
        exact absurd same (free r oldR)
    · rcases List.mem_append.mp memQ with oldQ | newQ
      · rw [old oldQ,List.mem_singleton.mp newR,own] at same
        exact absurd same.symm (free q oldQ)
      · rw [List.mem_singleton.mp newR,List.mem_singleton.mp newQ]

end Sound

section Members
variable {l other : Lobby} {u : UserRef} {r : RoomRef}

theorem Members.outside (members : l.Members) (mem : u ∈ l.users) (free : ¬ (l.user u).isInRoom)
    {q : RoomRef} (registered : q ∈ l.rooms) (sound : l.Sound) : u ∉ (l.room q).roomUsers := by
  intro listed
  have here := ((members.member q registered u).mp listed).2
  refine free ((members.status u mem).mpr ?_)
  rw [here]
  exact sound.roomIDs q registered

-- A user is in one room.
theorem Members.only (members : l.Members) (sound : l.Sound) {q : RoomRef} (inR : r ∈ l.rooms) (inQ : q ∈ l.rooms)
    (listedR : u ∈ (l.room r).roomUsers) (listedQ : u ∈ (l.room q).roomUsers) : r = q :=
  sound.distinctIDs r inR q inQ
    (((members.member r inR u).mp listedR).2.symm.trans ((members.member q inQ u).mp listedQ).2)

theorem Members.occupied (members : l.Members) (occupies : l.Occupies u r) :
    r ∈ l.rooms ∧ u ∈ (l.room r).roomUsers := by
  obtain ⟨mem,-,found⟩ := occupies
  obtain ⟨registered,id,-⟩ := getRoomByRoomIDSome found
  exact ⟨registered,(members.member r registered u).mpr ⟨mem,id.symm⟩⟩

-- Nobody moves; rooms and users change in other respects only.
theorem Members.change (members : l.Members) (users : other.users = l.users) (rooms : other.rooms = l.rooms)
    (room : ∀ r ∈ l.rooms, (other.room r).roomID = (l.room r).roomID ∧
      (other.room r).roomUsers = (l.room r).roomUsers ∧ (other.room r).Sound)
    (user : ∀ u ∈ l.users, (other.user u).currentRoomID = (l.user u).currentRoomID ∧
      ((other.user u).isInRoom ↔ (l.user u).isInRoom)) : other.Members where
  member r mem u := by
    rw [rooms] at mem
    rw [(room r mem).1,(room r mem).2.1,users,members.member r mem u]
    refine and_congr_right fun listed => ?_
    rw [(user u listed).1]
  status u mem := by
    rw [users] at mem
    rw [(user u mem).1,(user u mem).2,members.status u mem]
  located u mem away := by
    rw [users] at mem
    rw [(user u mem).1] at away ⊢
    obtain ⟨r,registered,id⟩ := members.located u mem away
    exact ⟨r,rooms ▸ registered,(room r registered).1.trans id⟩
  rooms r mem := (room r (rooms ▸ mem)).2.2

theorem Members.setUser (members : l.Members) {user : User} (id : user.currentRoomID = (l.user u).currentRoomID)
    (status : user.isInRoom ↔ (l.user u).isInRoom) : (l.setUser u user).Members := by
  refine members.change rfl rfl (fun r mem => ⟨rfl,rfl,members.rooms r mem⟩) fun v _ => ?_
  by_cases same : v = u
  · subst same; simp [Lobby.setUser,id,status]
  · simp [Lobby.setUser,same]

theorem Members.setRoom (members : l.Members) {room : Room} (id : room.roomID = (l.room r).roomID)
    (users : room.roomUsers = (l.room r).roomUsers) (sound : r ∈ l.rooms → room.Sound) : (l.setRoom r room).Members := by
  refine members.change rfl rfl (fun q mem => ?_) fun _ _ => ⟨rfl,Iff.rfl⟩
  by_cases same : q = r
  · subst same; simp [Lobby.setRoom,id,users,sound mem]
  · simp [Lobby.setRoom,same,members.rooms q mem]

theorem Members.addUser (members : l.Members) (sound : l.Sound) (connection : ConnectionRef) (userID : UInt32)
    (userName : Bytes) : (l.addUser (.new connection userID userName)).Members := by
  have new : (l.addUser (.new connection userID userName)).user l.fresh = .new connection userID userName := by
    simp [Lobby.addUser]
  have old {u : UserRef} (mem : u ∈ l.users) :
      (l.addUser (.new connection userID userName)).user u = l.user u := by
    simp [Lobby.addUser,Nat.ne_of_lt (sound.usersOld u mem)]
  constructor
  case member =>
    intro r mem u
    change u ∈ (l.room r).roomUsers ↔ u ∈ l.users ++ [l.fresh] ∧ _ = (l.room r).roomID
    rw [members.member r mem u]
    constructor
    · rintro ⟨listed,here⟩
      exact ⟨List.mem_append_left _ listed,by rw [old listed]; exact here⟩
    · rintro ⟨listed,here⟩
      rcases List.mem_append.mp listed with before | added
      · exact ⟨before,by rw [old before] at here; exact here⟩
      · rw [List.mem_singleton.mp added,new] at here
        exact absurd here.symm (sound.roomIDs r mem)
  case status =>
    intro u mem
    rcases List.mem_append.mp mem with before | added
    · rw [old before]; exact members.status u before
    · rw [List.mem_singleton.mp added,new]
      simp [User.isInRoom,User.new]
  case located =>
    intro u mem away
    rcases List.mem_append.mp mem with before | added
    · rw [old before] at away ⊢
      exact members.located u before away
    · rw [List.mem_singleton.mp added,new] at away
      exact absurd rfl away
  case rooms => exact members.rooms

-- Only a user outside every room may go.
theorem Members.dropUser (members : l.Members) (sound : l.Sound) (away : (l.user u).currentRoomID = 0) :
    ({ l with users := l.users.erase u }).Members where
  member r mem v := by
    rw [members.member r mem v,sound.usersNodup.mem_erase_iff]
    constructor
    · rintro ⟨listed,here⟩
      refine ⟨⟨?_,listed⟩,here⟩
      rintro rfl
      exact sound.roomIDs r mem (here ▸ away)
    · rintro ⟨⟨-,listed⟩,here⟩
      exact ⟨listed,here⟩
  status v mem := members.status v (List.mem_of_mem_erase mem)
  located v mem := members.located v (List.mem_of_mem_erase mem)
  rooms := members.rooms

theorem Members.joinRoom (members : l.Members) (sound : l.Sound) (mem : u ∈ l.users) (free : ¬ (l.user u).isInRoom)
    (registered : r ∈ l.rooms) : (l.joinRoom u r).Members := by
  have self : (l.joinRoom u r).user u = (l.user u).enterRoom (l.room r).roomID := by
    simp [Lobby.joinRoom,Lobby.setUser,Lobby.setRoom]
  have others {v : UserRef} (differs : v ≠ u) : (l.joinRoom u r).user v = l.user v := by
    simp [Lobby.joinRoom,Lobby.setUser,Lobby.setRoom,differs]
  have joined : (l.joinRoom u r).room r = (l.room r).addRoomUser u := by
    simp [Lobby.joinRoom,Lobby.setUser,Lobby.setRoom]
  have rest {q : RoomRef} (differs : q ≠ r) : (l.joinRoom u r).room q = l.room q := by
    simp [Lobby.joinRoom,Lobby.setUser,Lobby.setRoom,differs]
  constructor
  case member =>
    intro q inQ v
    change v ∈ ((l.joinRoom u r).room q).roomUsers ↔ v ∈ l.users ∧ _
    by_cases sameRoom : q = r
    · subst sameRoom
      rw [joined]
      by_cases sameUser : v = u
      · subst sameUser
        rw [self]
        simp [Room.addRoomUser,User.enterRoom,mem]
      · rw [others sameUser]
        simpa [Room.addRoomUser,sameUser] using members.member q inQ v
    · rw [rest sameRoom]
      by_cases sameUser : v = u
      · subst sameUser
        rw [self]
        refine ⟨fun listed => absurd listed (members.outside mem free inQ sound),fun here => ?_⟩
        exact absurd (sound.distinctIDs r registered q inQ here.2).symm sameRoom
      · rw [others sameUser]
        exact members.member q inQ v
  case status =>
    intro v listed
    by_cases sameUser : v = u
    · subst sameUser
      rw [self]
      simpa [User.enterRoom,User.isInRoom] using sound.roomIDs r registered
    · rw [others sameUser]
      exact members.status v listed
  case located =>
    intro v listed away
    have ids (q : RoomRef) : ((l.joinRoom u r).room q).roomID = (l.room q).roomID := by
      by_cases sameRoom : q = r
      · subst sameRoom; rw [joined]; rfl
      · rw [rest sameRoom]
    by_cases sameUser : v = u
    · subst sameUser
      rw [self]
      exact ⟨r,registered,ids r⟩
    · rw [others sameUser] at away ⊢
      obtain ⟨q,inQ,id⟩ := members.located v listed away
      exact ⟨q,inQ,(ids q).trans id⟩
  case rooms =>
    intro q inQ
    by_cases sameRoom : q = r
    · subst sameRoom
      rw [joined]
      exact Room.addRoomUserSound (members.rooms q inQ) (members.outside mem free inQ sound)
    · rw [rest sameRoom]
      exact members.rooms q inQ

-- A new room is an empty one that its creator joins.
theorem Members.createRoom (members : l.Members) (sound : l.Sound) (mem : u ∈ l.users) (free : ¬ (l.user u).isInRoom)
    (given : l.getFreeRoomID ≠ 0) (s : RoomSettings) : (l.createRoom u s true).Members := by
  have unused := getFreeRoomIDFree given
  have self : (l.createRoom u s true).user u = (l.user u).enterRoom l.getFreeRoomID := by
    simp [Lobby.createRoom,Lobby.setUser,Lobby.addRoom]
  have others {v : UserRef} (differs : v ≠ u) : (l.createRoom u s true).user v = l.user v := by
    simp [Lobby.createRoom,Lobby.setUser,Lobby.addRoom,differs]
  have made : (l.createRoom u s true).room l.fresh =
      { (Room.new l.getFreeRoomID u).addRoomUser u with roomSettings := s } := by
    simp [Lobby.createRoom,Lobby.setUser,Lobby.addRoom]
  have old {q : RoomRef} (inQ : q ∈ l.rooms) : (l.createRoom u s true).room q = l.room q := by
    simp [Lobby.createRoom,Lobby.setUser,Lobby.addRoom,Nat.ne_of_lt (sound.roomsOld q inQ)]
  have listed {q : RoomRef} (inQ : q ∈ (l.createRoom u s true).rooms) : q ∈ l.rooms ∨ q = l.fresh := by
    rcases List.mem_append.mp inQ with before | new
    · exact .inl before
    · exact .inr (List.mem_singleton.mp new)
  constructor
  case member =>
    intro q inQ v
    change _ ↔ v ∈ l.users ∧ _
    rcases listed inQ with before | rfl
    · rw [old before]
      by_cases sameUser : v = u
      · subst sameUser
        rw [self]
        refine ⟨fun listed => absurd listed (members.outside mem free before sound),fun here => ?_⟩
        exact absurd here.2.symm (unused q before)
      · rw [others sameUser]
        exact members.member q before v
    · rw [made]
      by_cases sameUser : v = u
      · subst sameUser
        rw [self]
        simp [Room.addRoomUser,Room.new,User.enterRoom,mem]
      · rw [others sameUser]
        refine ⟨fun listed => absurd (by simpa [Room.addRoomUser,Room.new] using listed) sameUser,?_⟩
        rintro ⟨listed,here⟩
        obtain ⟨p,inP,id⟩ := members.located v listed (here ▸ given)
        exact absurd (id.trans here) (unused p inP)
  case status =>
    intro v listed
    by_cases sameUser : v = u
    · subst sameUser
      rw [self]
      simpa [User.enterRoom,User.isInRoom] using given
    · rw [others sameUser]
      exact members.status v listed
  case located =>
    intro v listed away
    by_cases sameUser : v = u
    · subst sameUser
      rw [self]
      exact ⟨l.fresh,List.mem_append_right _ (List.mem_singleton_self _),by rw [made]; rfl⟩
    · rw [others sameUser] at away ⊢
      obtain ⟨q,inQ,id⟩ := members.located v listed away
      exact ⟨q,List.mem_append_left _ inQ,by rw [old inQ]; exact id⟩
  case rooms =>
    intro q inQ
    rcases listed inQ with before | rfl
    · rw [old before]; exact members.rooms q before
    · rw [made]; exact Room.newSound _ u s

-- Rooms are struck off and their members are in the lobby again.
theorem Members.closeRooms (members : l.Members) (sound : l.Sound) (users : other.users = l.users)
    (rooms : other.rooms.Sublist l.rooms) (room : ∀ r ∈ other.rooms, other.room r = l.room r)
    (inside : ∀ r ∈ l.rooms, r ∉ other.rooms → ∀ u ∈ (l.room r).roomUsers, other.user u = (l.user u).backToLobby)
    (outside : ∀ u, (∀ r ∈ l.rooms, r ∉ other.rooms → u ∉ (l.room r).roomUsers) → other.user u = l.user u) :
    other.Members := by
  have kept {r : RoomRef} (mem : r ∈ other.rooms) {u : UserRef} (listed : u ∈ (l.room r).roomUsers) :
      other.user u = l.user u := by
    refine outside u fun q inQ struck also => struck ?_
    rw [← members.only sound (rooms.subset mem) inQ listed also]
    exact mem
  -- Whoever is in a room afterwards is in one that stayed.
  have moved {u : UserRef} (mem : u ∈ l.users) :
      other.user u = l.user u ∨ other.user u = (l.user u).backToLobby := by
    by_cases struck : ∃ r ∈ l.rooms, r ∉ other.rooms ∧ u ∈ (l.room r).roomUsers
    · obtain ⟨r,inR,gone,listed⟩ := struck
      exact .inr (inside r inR gone u listed)
    · exact .inl (outside u fun r inR gone listed => struck ⟨r,inR,gone,listed⟩)
  constructor
  case member =>
    intro r mem u
    rw [room r mem,users,members.member r (rooms.subset mem) u]
    refine and_congr_right fun listed => ?_
    constructor
    · intro here
      rw [kept mem ((members.member r (rooms.subset mem) u).mpr ⟨listed,here⟩)]
      exact here
    · intro here
      rcases moved listed with same | back
      · rw [same] at here; exact here
      · rw [back] at here
        exact absurd here.symm (sound.roomIDs r (rooms.subset mem))
  case status =>
    intro u mem
    rw [users] at mem
    rcases moved mem with same | back
    · rw [same]; exact members.status u mem
    · rw [back]; simp [User.isInRoom,User.backToLobby]
  case located =>
    intro u mem away
    rw [users] at mem
    rcases moved mem with same | back
    · rw [same] at away ⊢
      obtain ⟨r,registered,id⟩ := members.located u mem away
      by_cases stayed : r ∈ other.rooms
      · exact ⟨r,stayed,by rw [room r stayed]; exact id⟩
      · have listed := (members.member r registered u).mpr ⟨mem,id.symm⟩
        rw [inside r registered stayed u listed] at same
        exact absurd (congrArg User.currentRoomID same).symm away
    · rw [back] at away
      exact absurd rfl away
  case rooms =>
    intro r mem
    rw [room r mem]
    exact members.rooms r (rooms.subset mem)

theorem Members.removeRoom (members : l.Members) (sound : l.Sound) (registered : r ∈ l.rooms) :
    (l.removeRoom r).Members := by
  rw [removeRoomEq]
  refine members.closeRooms sound rfl List.erase_sublist (fun _ _ => rfl) ?_ ?_
  · intro q inQ struck v listed
    have same : q = r := by
      by_contra differs
      exact struck (sound.roomsNodup.mem_erase_iff.mpr ⟨differs,inQ⟩)
    simp [same ▸ listed]
  · intro v absent
    have out : v ∉ (l.room r).roomUsers :=
      absent r registered fun mem => (sound.roomsNodup.mem_erase_iff.mp mem).1 rfl
    simp [out]

theorem Members.removeAllRooms (members : l.Members) (sound : l.Sound) : l.removeAllRooms.Members := by
  obtain ⟨user,whole,inside,outside⟩ := destroyRooms l.rooms { l with rooms := [] }
  unfold Lobby.removeAllRooms
  rw [whole]
  exact members.closeRooms sound rfl (List.nil_sublist _) (fun _ _ => rfl)
    (fun r mem _ u listed => inside r mem u listed) fun u absent => outside u fun r mem => absent r mem (by simp)

theorem removeRoomUserLast (l : Lobby) {r : RoomRef} {u : UserRef} (last : (l.room r).roomUsers.erase u = []) :
    l.removeRoomUser r u =
      ({ l with rooms := l.rooms.erase r }.setRoom r ((l.room r).withoutUser u)).backToLobby u := by
  have empty : ((l.room r).withoutUser u).roomUsers = [] := last
  unfold Lobby.removeRoomUser Lobby.removeRoom
  simp [empty,destroyRoomEq,Lobby.setRoom,Lobby.backToLobby,Lobby.setUser]

theorem removeRoomUserOthers (l : Lobby) {r : RoomRef} {u first : UserRef} {rest}
    (others : (l.room r).roomUsers.erase u = first :: rest) :
    l.removeRoomUser r u = (l.setRoom r ((l.room r).departed u first)).backToLobby u := by
  have some' : ((l.room r).withoutUser u).roomUsers = first :: rest := others
  unfold Lobby.removeRoomUser
  simp only [some',Room.departed]
  split <;> simp [Lobby.setRoom,Lobby.backToLobby,Lobby.setUser]

theorem Members.depart (members : l.Members) (registered : r ∈ l.rooms) (listed : u ∈ (l.room r).roomUsers)
    (sound : l.Sound) {room : Room} (id : room.roomID = (l.room r).roomID)
    (users : room.roomUsers = (l.room r).roomUsers.erase u) (left : room.Sound) :
    ((l.setRoom r room).backToLobby u).Members := by
  have self : ((l.setRoom r room).backToLobby u).user u = (l.user u).backToLobby := by
    simp [Lobby.backToLobby,Lobby.setUser,Lobby.setRoom]
  have others {v : UserRef} (differs : v ≠ u) : ((l.setRoom r room).backToLobby u).user v = l.user v := by
    simp [Lobby.backToLobby,Lobby.setUser,Lobby.setRoom,differs]
  have own : ((l.setRoom r room).backToLobby u).room r = room := by
    simp [Lobby.backToLobby,Lobby.setUser,Lobby.setRoom]
  have rest {q : RoomRef} (differs : q ≠ r) : ((l.setRoom r room).backToLobby u).room q = l.room q := by
    simp [Lobby.backToLobby,Lobby.setUser,Lobby.setRoom,differs]
  have ids (q : RoomRef) : (((l.setRoom r room).backToLobby u).room q).roomID = (l.room q).roomID := by
    by_cases same : q = r
    · subst same; rw [own,id]
    · rw [rest same]
  constructor
  case member =>
    intro q inQ v
    change _ ↔ v ∈ l.users ∧ _
    rw [ids q]
    by_cases sameUser : v = u
    · subst sameUser
      rw [self]
      refine ⟨fun stays => ?_,fun here => absurd here.2.symm (sound.roomIDs q inQ)⟩
      by_cases sameRoom : q = r
      · subst sameRoom
        rw [own,users,(members.rooms q inQ).nodup.mem_erase_iff] at stays
        exact absurd rfl stays.1
      · rw [rest sameRoom] at stays
        exact absurd (members.only sound inQ registered stays listed) sameRoom
    · rw [others sameUser,← members.member q inQ v]
      by_cases sameRoom : q = r
      · subst sameRoom
        rw [own,users,(members.rooms q inQ).nodup.mem_erase_iff]
        simp [sameUser]
      · rw [rest sameRoom]
  case status =>
    intro v mem
    by_cases sameUser : v = u
    · subst sameUser
      rw [self]
      simp [User.isInRoom,User.backToLobby]
    · rw [others sameUser]
      exact members.status v mem
  case located =>
    intro v mem away
    by_cases sameUser : v = u
    · subst sameUser
      rw [self] at away
      exact absurd rfl away
    · rw [others sameUser] at away ⊢
      obtain ⟨q,inQ,here⟩ := members.located v mem away
      exact ⟨q,inQ,(ids q).trans here⟩
  case rooms =>
    intro q inQ
    by_cases sameRoom : q = r
    · subst sameRoom; rw [own]; exact left
    · rw [rest sameRoom]; exact members.rooms q inQ

theorem Members.removeRoomUser (members : l.Members) (sound : l.Sound) (registered : r ∈ l.rooms)
    (listed : u ∈ (l.room r).roomUsers) : (l.removeRoomUser r u).Members := by
  cases left : (l.room r).roomUsers.erase u with
  | nil =>
    have only {v : UserRef} (also : v ∈ (l.room r).roomUsers) : v = u := by
      by_contra differs
      have stays := (members.rooms r registered).nodup.mem_erase_iff.mpr ⟨differs,also⟩
      rw [left] at stays
      cases stays
    rw [removeRoomUserLast l left]
    refine members.closeRooms sound rfl List.erase_sublist ?_ ?_ ?_
    · intro q mem
      have differs := (sound.roomsNodup.mem_erase_iff.mp mem).1
      simp [Lobby.backToLobby,Lobby.setUser,Lobby.setRoom,differs]
    · intro q inQ struck v also
      have same : q = r := by
        by_contra differs
        exact struck (sound.roomsNodup.mem_erase_iff.mpr ⟨differs,inQ⟩)
      have leaver : v = u := only (same ▸ also)
      simp [leaver,Lobby.backToLobby,Lobby.setUser,Lobby.setRoom]
    · intro v absent
      have differs : v ≠ u := by
        rintro rfl
        exact absent r registered (fun mem => (sound.roomsNodup.mem_erase_iff.mp mem).1 rfl) listed
      simp [Lobby.backToLobby,Lobby.setUser,Lobby.setRoom,differs]
  | cons first rest =>
    rw [removeRoomUserOthers l left]
    exact members.depart registered listed sound (Room.departedID _ u first) (Room.departedUsers _ u first)
      (Room.departedSound (members.rooms r registered) left)

theorem removeRoomUserFrame (l : Lobby) (r : RoomRef) (u : UserRef) :
    (l.removeRoomUser r u).users = l.users ∧ (l.removeRoomUser r u).rooms.Sublist l.rooms ∧
      (l.removeRoomUser r u).fresh = l.fresh ∧ (∀ q, ((l.removeRoomUser r u).room q).roomID = (l.room q).roomID) ∧
      (∀ v, ((l.removeRoomUser r u).user v).connection = (l.user v).connection ∧
        ((l.removeRoomUser r u).user v).userID = (l.user v).userID) ∧
      ((l.removeRoomUser r u).user u).currentRoomID = 0 := by
  have ids (room : Room) (id : room.roomID = (l.room r).roomID) (q : RoomRef) :
      ((Function.update l.room r room) q).roomID = (l.room q).roomID := by
    by_cases same : q = r
    · subst same; simp [id]
    · simp [same]
  have fields (v : UserRef) :
      ((Function.update l.user u (l.user u).backToLobby) v).connection = (l.user v).connection ∧
        ((Function.update l.user u (l.user u).backToLobby) v).userID = (l.user v).userID := by
    by_cases same : v = u
    · subst same; simp [User.backToLobby]
    · simp [same]
  cases left : (l.room r).roomUsers.erase u with
  | nil =>
    rw [removeRoomUserLast l left]
    exact ⟨rfl,List.erase_sublist,rfl,ids _ rfl,fields,by simp [Lobby.backToLobby,Lobby.setUser,Lobby.setRoom,User.backToLobby]⟩
  | cons first rest =>
    rw [removeRoomUserOthers l left]
    exact ⟨rfl,List.Sublist.refl _,rfl,ids _ (Room.departedID _ u first),fields,
      by simp [Lobby.backToLobby,Lobby.setUser,Lobby.setRoom,User.backToLobby]⟩

end Members

-- No user whose match is running opens or joins another room.
def Calm (l : Lobby) : Op → Prop
  | .createRoom u _ _ => (l.user u).userStatus ≠ .InGame
  | .joinRoom u _ => (l.user u).userStatus ≠ .InGame
  | _ => True

section Apply
variable {l : Lobby} {u : UserRef} {r : RoomRef} {m : GameMatch}

theorem endGameEq (l : Lobby) (r : RoomRef) (m : GameMatch) :
    l.endGame r m =
      { l.setRoom r (l.room r).endMatch with
        user := fun v => if v ∈ m.participants then { l.user v with userStatus := .InRoom } else l.user v } := by
  have fold : m.participants.foldl (·.setUserStatus · .InRoom) l =
      { l with
        user := fun v => if v ∈ m.participants then { l.user v with userStatus := .InRoom } else l.user v } :=
    foldSetUser (f := fun x => { x with userStatus := .InRoom }) (fun _ => rfl) m.participants l
  simp only [endGame,fold]
  rfl

theorem returnToRoomEq (l : Lobby) (u : UserRef) (r : RoomRef) (m : GameMatch) :
    l.returnToRoom u r m = (l.setRoom r ((l.room r).returned u m)).setUserStatus u .InRoom := rfl

theorem removeUserOutside (absent : l.getRoomByRoomID (l.user u).currentRoomID = none) :
    l.removeUser u = { l with users := l.users.erase u } := by
  simp only [removeUser,absent]

theorem removeUserInside (found : l.getRoomByRoomID (l.user u).currentRoomID = some r) :
    l.removeUser u = { l.removeRoomUser r u with users := l.users.erase u } := by
  simp only [removeUser,found,(removeRoomUserFrame l r u).1]

theorem removeUserUsers (l : Lobby) (u : UserRef) : (l.removeUser u).users = l.users.erase u := by
  cases found : l.getRoomByRoomID (l.user u).currentRoomID with
  | none => rw [removeUserOutside found]
  | some r => rw [removeUserInside found]

theorem removeUserFresh (l : Lobby) (u : UserRef) : (l.removeUser u).fresh = l.fresh := by
  cases found : l.getRoomByRoomID (l.user u).currentRoomID with
  | none => rw [removeUserOutside found]
  | some r =>
    rw [removeUserInside found]
    exact (removeRoomUserFrame l r u).2.2.1

-- A user that is not there never comes to be there, unless under the next address.
theorem applyUsers (l : Lobby) (op : Op) :
    l.fresh ≤ (l.apply op).fresh ∧ ∀ v ∈ (l.apply op).users, v ∈ l.users ∨ v = l.fresh := by
  cases op with
  | addUser connection userID userName => exact ⟨Nat.le_succ _,fun v mem => by simpa [apply,addUser] using mem⟩
  | removeUser u =>
    refine ⟨(removeUserFresh l u).ge,fun v mem => .inl ?_⟩
    rw [apply,removeUserUsers] at mem
    exact List.mem_of_mem_erase mem
  | createRoom u s added =>
    cases added with
    | true => exact ⟨Nat.le_succ _,fun v => .inl⟩
    | false => exact ⟨Nat.le_refl _,fun v => .inl⟩
  | leaveRoom u r =>
    obtain ⟨users,-,fresh,-⟩ := removeRoomUserFrame l r u
    exact ⟨fresh.ge,fun v mem => .inl (users ▸ mem)⟩
  | endGame u r m =>
    rw [apply,endGameEq]
    exact ⟨Nat.le_refl _,fun v => .inl⟩
  | removeRoom r =>
    rw [apply,removeRoomEq]
    exact ⟨Nat.le_refl _,fun v => .inl⟩
  | removeAllRooms =>
    obtain ⟨user,whole,-,-⟩ := destroyRooms l.rooms { l with rooms := [] }
    rw [apply,Lobby.removeAllRooms,whole]
    exact ⟨Nat.le_refl _,fun v => .inl⟩
  | _ => exact ⟨Nat.le_refl _,fun v => .inl⟩

theorem removeUserSound (sound : l.Sound) (u : UserRef) : (l.removeUser u).Sound := by
  cases found : l.getRoomByRoomID (l.user u).currentRoomID with
  | none =>
    rw [removeUserOutside found]
    exact sound.shrink List.erase_sublist (List.Sublist.refl _) (fun _ _ => rfl) rfl
  | some r =>
    obtain ⟨-,rooms,fresh,ids,-,-⟩ := removeRoomUserFrame l r u
    rw [removeUserInside found]
    exact sound.shrink List.erase_sublist rooms (fun q _ => ids q) fresh

theorem Members.removeUser (members : l.Members) (sound : l.Sound) (mem : u ∈ l.users) : (l.removeUser u).Members := by
  cases found : l.getRoomByRoomID (l.user u).currentRoomID with
  | none =>
    rw [removeUserOutside found]
    refine members.dropUser sound ?_
    by_contra away
    obtain ⟨r,registered,id⟩ := members.located u mem away
    exact getRoomByRoomIDNone found away r registered id
  | some r =>
    obtain ⟨registered,id,-⟩ := getRoomByRoomIDSome found
    obtain ⟨users,rooms,fresh,ids,-,away⟩ := removeRoomUserFrame l r u
    have listed := (members.member r registered u).mpr ⟨mem,id.symm⟩
    rw [removeUserInside found,← users]
    refine (members.removeRoomUser sound registered listed).dropUser ?_ away
    exact sound.shrink (by rw [users]) rooms (fun q _ => ids q) fresh

theorem applySound (sound : l.Sound) {op : Op} (admitted : l.Admitted op) : (l.apply op).Sound := by
  cases op with
  | addUser connection userID userName => exact sound.addUser _
  | removeUser u => exact removeUserSound sound u
  | setUserNetwork u userNetwork => exact sound.setUser _ _
  | enterServerList u => exact sound.setUser _ _
  | enterLobby u => exact sound.setUser _ _
  | createRoom u s added =>
    cases added with
    | false => exact sound.setUser _ _
    | true =>
      obtain ⟨-,-,-,given,-⟩ := admitted
      have free := getFreeRoomIDFree given
      refine Sound.addRoom (sound.setUser _ _) ?_ ?_
      · exact given
      · exact free
  | joinRoom u r =>
    have kept : (l.setRoom r ((l.room r).addRoomUser u)).Sound := sound.setRoom rfl
    exact kept.setUser _ _
  | leaveRoom u r =>
    obtain ⟨users,rooms,fresh,ids,-,-⟩ := removeRoomUserFrame l r u
    exact sound.shrink (by rw [apply,users]) rooms (fun q _ => ids q) fresh
  | updateRoomSettings u r s => exact sound.setRoom rfl
  | returnToRoom u r m =>
    rw [apply,returnToRoomEq]
    exact (sound.setRoom (Room.returnedID _ u m)).setUser _ _
  | serverIsActivated u r => exact sound.setRoom rfl
  | saveData u r m saveData => exact sound.setRoom rfl
  | sendUserStatus u r m target =>
    have kept : (l.setRoom r { l.room r with gameMatch := some (m.addGameMatchUser ⟨target,.None⟩) }).Sound :=
      sound.setRoom rfl
    exact kept.setUser _ _
  | endGame u r m =>
    have kept : (l.setRoom r (l.room r).endMatch).Sound := sound.setRoom rfl
    rw [apply,endGameEq]
    exact kept.shrink (List.Sublist.refl _) (List.Sublist.refl _) (fun _ _ => rfl) rfl
  | selectTeam u r m target team => exact sound.setRoom rfl
  | removeRoom r =>
    rw [apply,removeRoomEq]
    exact sound.shrink (List.Sublist.refl _) List.erase_sublist (fun _ _ => rfl) rfl
  | removeAllRooms =>
    obtain ⟨user,whole,-,-⟩ := destroyRooms l.rooms { l with rooms := [] }
    rw [apply,Lobby.removeAllRooms,whole]
    exact sound.shrink (List.Sublist.refl _) (List.nil_sublist _) (fun _ _ => rfl) rfl

theorem reseatMembers (members : l.Members) {room : Room} (id : room.roomID = (l.room r).roomID)
    (users : room.roomUsers = (l.room r).roomUsers) (host : room.roomHostUser = (l.room r).roomHostUser)
    (seats : room.participants.Sublist (l.room r).participants) : (l.setRoom r room).Members :=
  members.setRoom id users fun mem => (members.rooms r mem).reseat users (host ▸ (members.rooms r mem).host) seats

theorem applyMembers (sound : l.Sound) (members : l.Members) {op : Op} (admitted : l.Admitted op)
    (calm : l.Calm op) : (l.apply op).Members := by
  cases op with
  | addUser connection userID userName => exact members.addUser sound connection userID userName
  | removeUser u => exact members.removeUser sound admitted
  | setUserNetwork u userNetwork => exact members.setUser rfl Iff.rfl
  | enterServerList u =>
    refine members.setUser rfl ?_
    rcases admitted.2 with h | h <;> simp [User.isInRoom,h]
  | enterLobby u =>
    refine members.setUser rfl ?_
    rcases admitted.2 with h | h <;> simp [User.isInRoom,h]
  | createRoom u s added =>
    obtain ⟨mem,-,notInRoom,given,-⟩ := admitted
    have free : ¬ (l.user u).isInRoom := fun inside => inside.elim notInRoom calm
    cases added with
    | true => exact members.createRoom sound mem free given s
    | false =>
      have away : (l.user u).currentRoomID = 0 := by
        by_contra away
        exact free ((members.status u mem).mpr away)
      have left : ¬ (l.user u).backToLobby.isInRoom := by simp [User.isInRoom,User.backToLobby]
      exact members.setUser away.symm ⟨fun inside => absurd inside left,fun inside => absurd inside free⟩
  | joinRoom u r =>
    obtain ⟨mem,-,notInRoom,registered,-,-⟩ := admitted
    exact members.joinRoom sound mem (fun inside => inside.elim notInRoom calm) registered
  | leaveRoom u r =>
    obtain ⟨registered,listed⟩ := members.occupied admitted
    exact members.removeRoomUser sound registered listed
  | updateRoomSettings u r s => exact reseatMembers members rfl rfl rfl (List.Sublist.refl _)
  | returnToRoom u r m =>
    obtain ⟨occupies,playing⟩ := admitted
    have seated := members.setRoom (Room.returnedID _ u m) (Room.returnedUsers _ u m)
      fun mem => Room.returnedSound (members.rooms r mem) playing u
    rw [apply,returnToRoomEq]
    exact seated.setUser rfl ⟨fun _ => occupies.2.1,fun _ => .inl rfl⟩
  | serverIsActivated u r => exact reseatMembers members rfl rfl rfl (List.nil_sublist _)
  | saveData u r m saveData =>
    refine reseatMembers members rfl rfl rfl ?_
    rw [Room.participantsOf admitted.1.1.2]
    exact List.Sublist.refl _
  | sendUserStatus u r m target =>
    obtain ⟨⟨⟨-,playing⟩,-⟩,occupies,absent⟩ := admitted
    have member := members.occupied occupies
    have seated : (l.setRoom r { l.room r with gameMatch := some (m.addGameMatchUser ⟨target,.None⟩) }).Members :=
      members.setRoom rfl rfl fun mem =>
        Room.addGameMatchUserSound (members.rooms r mem) playing member.2 (notParticipant absent) .None
    exact seated.setUser rfl ⟨fun _ => occupies.2.1,fun _ => .inr rfl⟩
  | endGame u r m =>
    obtain ⟨⟨⟨⟨-,-,found⟩,playing⟩,-⟩,-⟩ := admitted
    have registered := (getRoomByRoomIDSome found).1
    have ended : (l.setRoom r (l.room r).endMatch).Members :=
      reseatMembers members rfl rfl rfl (List.nil_sublist _)
    rw [apply,endGameEq]
    refine ended.change rfl rfl (fun q mem => ⟨rfl,rfl,ended.rooms q mem⟩) fun v mem => ?_
    by_cases taken : v ∈ m.participants
    · have listed := (members.rooms r registered).seated v (Room.participantsOf playing ▸ taken)
      have here := (members.member r registered v).mp listed
      have inside : (l.user v).isInRoom := (members.status v mem).mpr (by rw [here.2]; exact sound.roomIDs r registered)
      simp only [taken,if_true]
      exact ⟨rfl,⟨fun _ => inside,fun _ => .inl rfl⟩⟩
    · simp [taken,Lobby.setRoom]
  | selectTeam u r m target team =>
    refine reseatMembers members rfl rfl rfl ?_
    rw [Room.participantsOf admitted.1.1.2]
    exact (participantsSetTeam m target team) ▸ List.Sublist.refl _
  | removeRoom r => exact members.removeRoom sound admitted
  | removeAllRooms => exact members.removeAllRooms sound

end Apply
end Lobby
end CsoMaster
