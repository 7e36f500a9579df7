import CsoMaster.RoomRepresentation

/-! The rooms table mirrors the registry: where every statement runs and the other servers keep
to their own rows, this server has one row for each of its rooms, in the same order, and the row
shows what the room is now. -/
namespace CsoMaster

-- `roomRow` by the one thing it reads of the state.
def rowOf (place : Place) (room : Room) : RoomRow :=
  ⟨place,room.roomID,false,room.roomSettings.password ≠ [],room.roomSettings.levelLimit,
    room.roomSettings.gameModeID,room.roomSettings.mapID,UInt8.ofNat room.roomUsers.length,
    room.roomSettings.maxPlayers⟩

def Lobby.rows (l : Lobby) (place : Place) : List RoomRow := l.rooms.map fun r => rowOf place (l.room r)

theorem startMatchRow (place : Place) (room : Room) : rowOf place room.startMatch = rowOf place room := by
  simp [rowOf,Room.startMatch,Room.updateRoomSettings,RoomSettings.updateOfRoomState]

theorem endMatchRow (place : Place) (room : Room) : rowOf place room.endMatch = rowOf place room := by
  simp [rowOf,Room.endMatch,Room.updateRoomSettings,RoomSettings.updateOfRoomState]

theorem hostLeftRow (place : Place) (room : Room) (first : UserRef) :
    rowOf place (room.hostLeft first) = rowOf place room := by
  rcases Room.hostLeftCases room first with ⟨-,h⟩ | ⟨m,-,-,h⟩ | ⟨m,next,rest,-,-,h⟩
  · rw [h]; rfl
  · rw [h]
    exact endMatchRow place room
  · rw [h]; rfl

theorem returnedRow (place : Place) (room : Room) (u : UserRef) (m : GameMatch) :
    rowOf place (room.returned u m) = rowOf place room := by
  dsimp only [Room.returned]
  split
  · rcases Room.hostReturnedCases { room with gameMatch := some (m.removeGameMatchUser u) }
      (m.removeGameMatchUser u) with ⟨-,h⟩ | ⟨next,rest,-,h⟩
    · rw [h]
      exact endMatchRow place _
    · rw [h]; rfl
  · rfl

theorem rowMaxPlayers {place : Place} {room other : Room} (same : rowOf place other = rowOf place room) :
    other.roomSettings.maxPlayers = room.roomSettings.maxPlayers := congrArg RoomRow.maxPlayers same

theorem departedRow (place : Place) (room : Room) (u first : UserRef) :
    rowOf place (room.departed u first) = rowOf place (room.withoutUser u) := by
  unfold Room.departed
  split
  · exact hostLeftRow place (room.withoutUser u) first
  · rfl

namespace Lobby

section Filled
variable {l : Lobby} {r : RoomRef} {fits : Nat → UInt8 → Prop}

-- A property of how many users and how many seats each of the rooms has.
def Filled (l : Lobby) (fits : Nat → UInt8 → Prop) : Prop :=
  ∀ r ∈ l.rooms, fits (l.room r).roomUsers.length (l.room r).roomSettings.maxPlayers

theorem Filled.setRoom (filled : l.Filled fits) (room : Room)
    (kept : r ∈ l.rooms → fits room.roomUsers.length room.roomSettings.maxPlayers) : (l.setRoom r room).Filled fits := by
  intro q mem
  by_cases same : q = r
  · subst same
    simpa [Lobby.setRoom] using kept mem
  · simpa [Lobby.setRoom,same] using filled q mem

theorem Filled.removeRoomUser (filled : l.Filled fits) (fewer : ∀ k n m, k ≤ n → fits n m → fits k m) (r : RoomRef)
    (u : UserRef) : (l.removeRoomUser r u).Filled fits := by
  have left (mem : r ∈ l.rooms) : fits ((l.room r).roomUsers.erase u).length (l.room r).roomSettings.maxPlayers :=
    fewer _ _ _ List.length_erase_le (filled r mem)
  cases users : (l.room r).roomUsers.erase u with
  | nil =>
    rw [removeRoomUserLast l users]
    intro q mem
    exact filled.setRoom ((l.room r).withoutUser u) left q (List.mem_of_mem_erase mem)
  | cons first rest =>
    rw [removeRoomUserOthers l users]
    refine filled.setRoom ((l.room r).departed u first) fun mem => ?_
    rw [Room.departedUsers,rowMaxPlayers (departedRow ⟨0,0⟩ (l.room r) u first)]
    exact left mem

-- Rooms fill up one user at a time, and only while there is a seat.
theorem applyFilled (filled : l.Filled fits) {op : Op} (admitted : l.Admitted op) (fewer : ∀ k n m, k ≤ n → fits n m → fits k m)
    (seat : ∀ n m, n < m.toNat → fits n m → fits (n + 1) m) (creator : ∀ u s, op = .createRoom u s true → fits 1 s.maxPlayers)
    (resized : ∀ u r s, op = .updateRoomSettings u r s → s.low ROOMSETTINGS_LFLAG_MAXPLAYERS = true → r ∈ l.rooms →
      fits (l.room r).roomUsers.length s.maxPlayers) : (l.apply op).Filled fits := by
  cases op with
  | addUser connection userID userName => exact filled
  | removeUser u =>
    cases found : l.getRoomByRoomID (l.user u).currentRoomID with
    | none =>
      rw [apply,removeUserOutside found]
      exact filled
    | some r =>
      rw [apply,removeUserInside found]
      exact filled.removeRoomUser fewer r u
  | setUserNetwork u userNetwork => exact filled
  | enterServerList u => exact filled
  | enterLobby u => exact filled
  | createRoom u s added =>
    cases added with
    | true =>
      intro q mem
      by_cases new : q = l.fresh
      · subst new
        have alone : fits 1 s.maxPlayers := creator u s rfl
        simpa [Lobby.apply,Lobby.createRoom,Lobby.addRoom,Lobby.setUser,Room.addRoomUser,Room.new] using alone
      · have before : q ∈ l.rooms := by
          simpa [Lobby.apply,Lobby.createRoom,Lobby.addRoom,Lobby.setUser,new] using mem
        simpa [Lobby.apply,Lobby.createRoom,Lobby.addRoom,Lobby.setUser,new] using filled q before
    | false => exact filled
  | joinRoom u r =>
    refine filled.setRoom ((l.room r).addRoomUser u) fun mem => ?_
    have free : (l.room r).roomUsers.length < (l.room r).roomSettings.maxPlayers.toNat := admitted.2.2.2.2.1
    simpa only [Room.addRoomUser,List.length_append,List.length_singleton] using seat _ _ free (filled r mem)
  | leaveRoom u r => exact filled.removeRoomUser fewer r u
  | updateRoomSettings u r s =>
    refine filled.setRoom _ fun mem => ?_
    change fits (l.room r).roomUsers.length
      (if s.low ROOMSETTINGS_LFLAG_MAXPLAYERS then s.maxPlayers else (l.room r).roomSettings.maxPlayers)
    split
    · rename_i selected
      exact resized u r s rfl selected mem
    · exact filled r mem
  | returnToRoom u r m =>
    rw [apply,returnToRoomEq]
    refine filled.setRoom ((l.room r).returned u m) fun mem => ?_
    rw [Room.returnedUsers,rowMaxPlayers (returnedRow ⟨0,0⟩ (l.room r) u m)]
    exact filled r mem
  | serverIsActivated u r =>
    refine filled.setRoom _ fun mem => ?_
    rw [rowMaxPlayers (startMatchRow ⟨0,0⟩ (l.room r))]
    exact filled r mem
  | saveData u r m saveData => exact filled.setRoom _ (filled r)
  | sendUserStatus u r m target =>
    exact filled.setRoom { l.room r with gameMatch := some (m.addGameMatchUser ⟨target,.None⟩) } (filled r)
  | endGame u r m =>
    rw [apply,endGameEq]
    refine filled.setRoom ((l.room r).endMatch) fun mem => ?_
    rw [rowMaxPlayers (endMatchRow ⟨0,0⟩ (l.room r))]
    exact filled r mem
  | selectTeam u r m target team => exact filled.setRoom _ (filled r)
  | removeRoom r =>
    rw [apply,removeRoomEq]
    exact fun q mem => filled q (List.mem_of_mem_erase mem)
  | removeAllRooms =>
    obtain ⟨user,whole,-,-⟩ := destroyRooms l.rooms { l with rooms := [] }
    rw [apply,Lobby.removeAllRooms,whole]
    exact fun q mem => by cases mem

end Filled

section Small
variable {l : Lobby}

-- Rooms no larger than a row can say.
def Small (l : Lobby) : Prop := ∀ r ∈ l.rooms, (l.room r).roomUsers.length ≤ 255

-- A room has a seat for whom it lets in, and no more seats than a byte can say.
theorem applySmall (small : l.Small) {op : Op} (admitted : l.Admitted op) : (l.apply op).Small := by
  have every : l.Filled fun n _ => n ≤ 255 := small
  refine applyFilled every admitted (fun _ _ _ less fits => less.trans fits) (fun n m free _ => ?_) (fun _ _ _ => by decide)
    fun _ r _ _ _ mem => small r mem
  have most := m.toNat_lt
  omega

end Small

section Rows
variable {l other : Lobby} {place : Place} {r : RoomRef}

theorem rowsSame (rooms : other.rooms = l.rooms)
    (same : ∀ r ∈ l.rooms, rowOf place (other.room r) = rowOf place (l.room r)) : other.rows place = l.rows place := by
  rw [rows,rows,rooms]
  exact List.map_congr_left same

theorem setRoomRows (room : Room) (same : rowOf place room = rowOf place (l.room r)) : (l.setRoom r room).rows place = l.rows place := by
  refine rowsSame rfl fun q _ => ?_
  by_cases own : q = r
  · subst own
    simpa [Lobby.setRoom] using same
  · simp [Lobby.setRoom,own]

theorem addRoomRows (sound : l.Sound) (place : Place) (room : Room) :
    (l.addRoom room).rows place = l.rows place ++ [rowOf place room] := by
  have old : ∀ r ∈ l.rooms, rowOf place ((l.addRoom room).room r) = rowOf place (l.room r) := by
    intro r mem
    simp [Lobby.addRoom,Nat.ne_of_lt (sound.roomsOld r mem)]
  have new : (l.addRoom room).room l.fresh = room := by simp [Lobby.addRoom]
  have both : (l.addRoom room).rows place = l.rooms.map (fun r => rowOf place ((l.addRoom room).room r)) ++
      [rowOf place ((l.addRoom room).room l.fresh)] := List.map_append
  rw [both,new,List.map_congr_left old,rows]

end Rows
end Lobby

namespace State
open Runs
open DatabaseManager

-- The rows of the place are those of the registered rooms, with `old` in the place of `r`'s.
structure TabledBut (place : Place) (r : RoomRef) (s : State) : Prop where
  here : s.serverConfig.place = place
  spared : s.store.Spared place
  rows : ∃ old : RoomRow, old.roomID = (s.lobby.room r).roomID ∧ roomRows place s.store.database =
    s.lobby.rooms.map fun q => if q = r then old else rowOf place (s.lobby.room q)

structure Tabled (place : Place) (s : State) : Prop where
  here : s.serverConfig.place = place
  spared : s.store.Spared place
  rows : roomRows place s.store.database = s.lobby.rows place

section Tabled
variable {place : Place} {s t : State} {r : RoomRef} {u : UserRef}

theorem Tabled.but (tabled : Tabled place s) (r : RoomRef) : TabledBut place r s where
  here := tabled.here
  spared := tabled.spared
  rows := by
    refine ⟨rowOf place (s.lobby.room r),rfl,tabled.rows.trans (List.map_congr_left fun q _ => ?_)⟩
    by_cases own : q = r
    · rw [if_pos own,own]
    · rw [if_neg own]

theorem Tabled.keep (tabled : Tabled place s) (keeps : Keeps s t) (rows : t.lobby.rows place = s.lobby.rows place) :
    Tabled place t := by
  obtain ⟨still,same⟩ := keeps.rows place tabled.spared
  exact ⟨keeps.place.trans tabled.here,still,same.trans (tabled.rows.trans rows.symm)⟩

theorem TabledBut.keep (tabled : TabledBut place r s) (keeps : Keeps s t) (rooms : t.lobby.rooms = s.lobby.rooms)
    (id : (t.lobby.room r).roomID = (s.lobby.room r).roomID)
    (others : ∀ q ∈ s.lobby.rooms, q ≠ r → t.lobby.room q = s.lobby.room q) : TabledBut place r t := by
  obtain ⟨still,same⟩ := keeps.rows place tabled.spared
  obtain ⟨old,named,rows⟩ := tabled.rows
  refine ⟨keeps.place.trans tabled.here,still,old,named.trans id.symm,?_⟩
  rw [same,rows,rooms]
  refine List.map_congr_left fun q mem => ?_
  by_cases own : q = r
  · rw [if_pos own,if_pos own]
  · rw [if_neg own,if_neg own,others q mem own]

theorem TabledBut.updateRoom (tabled : TabledBut place r s) (sound : s.lobby.Sound) (registered : r ∈ s.lobby.rooms) :
    Tabled place (s.updateRoom r) := by
  have row : s.roomRow (s.lobby.room r) = rowOf place (s.lobby.room r) := by rw [← tabled.here]; rfl
  have own : (rowOf place (s.lobby.room r)).place = place := rfl
  obtain ⟨still,rows⟩ := updateRoomRows tabled.spared own
  obtain ⟨old,named,before⟩ := tabled.rows
  refine ⟨tabled.here,by rw [State.updateRoom,row]; exact still,?_⟩
  rw [State.updateRoom,row]
  refine rows.trans ?_
  rw [before,List.map_map]
  refine List.map_congr_left fun q mem => ?_
  by_cases own : q = r
  · subst own
    simp [named,rowOf]
  · have other : (s.lobby.room q).roomID ≠ (s.lobby.room r).roomID :=
      fun same => own (sound.distinctIDs q mem r registered same)
    simp [own,rowOf,other]

theorem erasedRows {old : RoomRow} (sound : s.lobby.Sound) (registered : r ∈ s.lobby.rooms)
    (named : old.roomID = (s.lobby.room r).roomID) :
    ((s.lobby.rooms.map fun q => if q = r then old else rowOf place (s.lobby.room q)).filter
      (·.roomID ≠ (s.lobby.room r).roomID)) = { s.lobby with rooms := s.lobby.rooms.erase r }.rows place := by
  have others : (s.lobby.rooms.filter ((fun row : RoomRow => decide (row.roomID ≠ (s.lobby.room r).roomID)) ∘
      fun q => if q = r then old else rowOf place (s.lobby.room q))) = s.lobby.rooms.erase r := by
    rw [sound.roomsNodup.erase_eq_filter]
    refine List.filter_congr fun q mem => ?_
    by_cases own : q = r
    · simp [own,named]
    · have other : (s.lobby.room q).roomID ≠ (s.lobby.room r).roomID :=
        fun same => own (sound.distinctIDs q mem r registered same)
      simp [own,rowOf,other]
  rw [List.filter_map,others]
  refine List.map_congr_left fun q mem => ?_
  rw [if_neg (sound.roomsNodup.mem_erase_iff.mp mem).1]

theorem destroyRoomRows (s : State) (roomUsers : List UserRef) (place : Place) :
    (s.destroyRoom roomUsers).lobby.rows place = s.lobby.rows place := by
  rw [destroyRoomLobby]
  induction roomUsers generalizing s with
  | nil => rfl
  | cons u roomUsers ih => exact ih (s.setLobby (s.lobby.backToLobby u))

theorem TabledBut.removeRoom (tabled : TabledBut place r s) (sound : s.lobby.Sound) (registered : r ∈ s.lobby.rooms) :
    Tabled place (s.removeRoom r) := by
  have sent : Mails s (s.sendRemoveRoomPacketToAll (s.lobby.room r).roomID) := (Mails.refl s).sendAll _ _
  obtain ⟨spared,same⟩ := sent.rows place tabled.spared
  obtain ⟨still,rows⟩ := removeRoomRows spared (s.lobby.room r).roomID
  obtain ⟨old,named,before⟩ := tabled.rows
  rw [same,before,erasedRows sound registered named] at rows
  have here : (s.sendRemoveRoomPacketToAll (s.lobby.room r).roomID).serverConfig.place = place :=
    sent.place.trans tabled.here
  have gone (t : State) (here : t.serverConfig.place = place) (lobby : t.lobby = s.lobby)
      (spared : (DatabaseManager.removeRoom place (s.lobby.room r).roomID t.store).2.Spared place)
      (rows : roomRows place (DatabaseManager.removeRoom place (s.lobby.room r).roomID t.store).2.database =
        { s.lobby with rooms := s.lobby.rooms.erase r }.rows place) :
      Tabled place ((((t.exec (DatabaseManager.removeRoom t.serverConfig.place (s.lobby.room r).roomID)).erasing
        (r ∈ t.lobby.rooms)).setLobby { t.lobby with rooms := t.lobby.rooms.erase r })) := by
    rw [here,lobby]
    exact ⟨here,spared,rows⟩
  exact (gone _ here sent.lobby still rows).keep ((Keeps.refl _).destroyRoom _) (destroyRoomRows _ _ place)

theorem Tabled.takeOut (tabled : Tabled place s) (r : RoomRef) (u : UserRef) : TabledBut place r (s.takeOut r u) := by
  have erased : TabledBut place r (s.erasing (u ∈ (s.lobby.room r).roomUsers)) :=
    ⟨tabled.here,tabled.spared,(tabled.but r).rows⟩
  have left := ((Keeps.refl (s.erasing (u ∈ (s.lobby.room r).roomUsers))).setLobby
    (s.lobby.setRoom r ((s.lobby.room r).withoutUser u))).trans
      ((Mails.refl _).sendUpdateRoomPacketToAll r ROOMLIST_FLAG_CURRENTPLAYERS).toKeeps
  refine erased.keep (left.setLobby _) ?_ ?_ ?_
  · simp [Lobby.backToLobby,Lobby.setUser,Lobby.setRoom]
  · simp [Lobby.backToLobby,Lobby.setUser,roomSet,Room.withoutUser]
  · intro q mem other
    simp [Lobby.backToLobby,Lobby.setUser,Lobby.setRoom,other]

theorem Tabled.removeRoomUser (tabled : Tabled place s) (sound : s.lobby.Sound) (registered : r ∈ s.lobby.rooms)
    (u : UserRef) : Tabled place (s.removeRoomUser r u) := by
  have out : (s.takeOut r u).lobby.Sound := by
    rw [takeOutLobby]
    have without : (s.lobby.setRoom r ((s.lobby.room r).withoutUser u)).Sound := sound.setRoom rfl
    exact without.setUser u _
  have still : r ∈ (s.takeOut r u).lobby.rooms := by
    rw [takeOutLobby]
    exact registered
  cases left : (s.lobby.room r).roomUsers.erase u with
  | nil =>
    rw [removeRoomUserLast left]
    exact (tabled.takeOut r u).removeRoom out still
  | cons first rest =>
    have seen : Tabled place (s.seeOff r u) :=
      ((tabled.takeOut r u).updateRoom out still).keep ((Mails.refl _).tellAll _ r _).toKeeps (by simp)
    rw [removeRoomUserOthers left]
    split
    · refine seen.keep ((Keeps.refl _).hostLeft r first) ?_
      rw [hostLeftLobby]
      exact Lobby.setRoomRows _ (hostLeftRow place _ first)
    · exact seen

theorem Tabled.dropUser (tabled : Tabled place s) (u : UserRef) : Tabled place (s.dropUser u) := by
  have ended := tabled.keep ((Mails.refl s).sql (removeUserSessionRoomless (s.lobby.user u).userID)).toKeeps rfl
  have erased (lobby : Lobby) (rows : lobby.rows place = s.lobby.rows place) : Tabled place
      (((s.exec (removeUserSession (s.lobby.user u).userID)).erasing (u ∈ s.lobby.users)).setLobby lobby) :=
    ⟨ended.here,ended.spared,ended.rows.trans rows.symm⟩
  have counted (t : State) (tabled : Tabled place t) : Tabled place t.updateChannelNumPlayers := by
    rcases t.updateChannelNumPlayersCases with ⟨-,quiet⟩ | ⟨-,faulted⟩
    · exact tabled.keep quiet.toKeeps (by rw [quiet.lobby])
    · rw [faulted]
      exact ⟨tabled.here,tabled.spared,tabled.rows⟩
  exact counted _ (erased { s.lobby with users := s.lobby.users.erase u } rfl)

theorem Tabled.removeUser (tabled : Tabled place s) (sound : s.lobby.Sound) (u : UserRef) :
    Tabled place (s.removeUser u) := by
  have silent := tabled.keep ((Mails.refl s).farewell u).toKeeps (by rw [farewellLobby])
  rw [removeUserEq]
  cases found : s.lobby.getRoomByRoomID (s.lobby.user u).currentRoomID with
  | none =>
    rw [leaveLobbyOutside found]
    exact silent.dropUser u
  | some r =>
    rw [leaveLobbyInside found]
    refine (silent.removeRoomUser ?_ ?_ u).dropUser u
    · rw [farewellLobby]
      exact sound
    · rw [farewellLobby]
      exact (Lobby.getRoomByRoomIDSome found).1

theorem Tabled.openRoom (tabled : Tabled place s) (sound : s.lobby.Sound) (given : s.lobby.getFreeRoomID ≠ 0)
    (u : UserRef) (userCharacter : UserCharacter) (settings : RoomSettings) (fastStart : Bool) :
    Tabled place (s.openRoom u userCharacter settings fastStart) := by
  have near : Tabled place (s.approachRoom u) := tabled.keep ((Keeps.refl s).approachRoom u) (by simp; rfl)
  have row : (s.approachRoom u).roomRow (s.opened u settings) = rowOf place (s.opened u settings) := by
    rw [← near.here]
    rfl
  have free : ∀ old ∈ roomRows place (s.approachRoom u).store.database,
      old.roomID ≠ (rowOf place (s.opened u settings)).roomID := by
    rw [near.rows]
    intro old mem
    obtain ⟨q,inQ,rfl⟩ := List.mem_map.mp mem
    rw [approachRoomLobby] at inQ ⊢
    exact Lobby.getFreeRoomIDFree given q inQ
  obtain ⟨added,spared,rows⟩ := DatabaseManager.addRoomRows near.spared rfl free
  have positive : ¬ (((s.approachRoom u).sql (DatabaseManager.addRoom (rowOf place (s.opened u settings)))).1 ≤ 0) := by
    change ¬ ((DatabaseManager.addRoom (rowOf place (s.opened u settings)) (s.approachRoom u).store).1 ≤ 0)
    rw [added]
    decide
  have out : (s.approachRoom u).lobby.Sound := by
    rw [approachRoomLobby]
    exact sound.setUser u _
  have registered : Tabled place
      (((s.approachRoom u).exec (DatabaseManager.addRoom (rowOf place (s.opened u settings)))).setLobby
        ((s.approachRoom u).lobby.addRoom (s.opened u settings))) := by
    refine ⟨near.here,spared,rows.trans ?_⟩
    rw [near.rows]
    exact (Lobby.addRoomRows out place _).symm
  rw [openRoomEq]
  dsimp only
  rw [row,if_neg positive]
  have told (t : State) (m : State) (registered : Tabled place (t.setLobby (t.lobby.addRoom (s.opened u settings))))
      (shown : m = t.roomAdded u (s.opened u settings) userCharacter fastStart) : Tabled place m := by
    rw [shown]
    dsimp only [roomAdded]
    split
    · exact registered.keep ((((Mails.refl _).sendAll _ _).tell u _ _).sendTo u _).toKeeps (by simp)
    · exact registered.keep (((Mails.refl _).sendAll _ _).tell u _ _).toKeeps (by simp)
  exact told _ _ registered rfl

theorem Tabled.enterRoom (tabled : Tabled place s) (sound : s.lobby.Sound) (registered : r ∈ s.lobby.rooms)
    (u : UserRef) (userCharacter : UserCharacter) : Tabled place (s.enterRoom u r userCharacter) := by
  have entered : TabledBut place r (s.setLobby (s.lobby.joinRoom u r)) := by
    refine (tabled.but r).keep ((Keeps.refl s).setLobby _) rfl ?_ ?_
    · simp [Lobby.joinRoom,Lobby.setUser,Lobby.setRoom,Room.addRoomUser]
    · intro q _ other
      simp [Lobby.joinRoom,Lobby.setUser,Lobby.setRoom,other]
  have joined : (s.lobby.setRoom r ((s.lobby.room r).addRoomUser u)).Sound := sound.setRoom rfl
  have out : (s.lobby.joinRoom u r).Sound := joined.setUser u _
  refine (entered.updateRoom out registered).keep (Mails.toKeeps (t := s.enterRoom u r userCharacter) ?_) ?_
  · exact ((((Mails.refl _).sendRemoveUserPacketToAll _).sendUpdateRoomPacketToAll _ _).introduce _ _ _).tell _ _ _
      |>.tell _ _ _
  · simp

theorem Tabled.changeRoomSettings (tabled : Tabled place s) (sound : s.lobby.Sound) (registered : r ∈ s.lobby.rooms)
    (settings : RoomSettings) : Tabled place (s.changeRoomSettings r settings) := by
  have changed : TabledBut place r (s.setLobby (s.lobby.setRoom r ((s.lobby.room r).updateRoomSettings settings))) := by
    refine (tabled.but r).keep ((Keeps.refl s).setLobby _) rfl ?_ ?_
    · simp [Lobby.setRoom,Room.updateRoomSettings]
    · intro q _ other
      simp [Lobby.setRoom,other]
  have out : (s.lobby.setRoom r ((s.lobby.room r).updateRoomSettings settings)).Sound := sound.setRoom rfl
  refine (changed.updateRoom out registered).keep (Mails.toKeeps (t := s.changeRoomSettings r settings) ?_) ?_
  · exact ((Mails.refl _).sendUpdateRoomPacketToAll _ _).tellAll _ _ _
  · simp [State.changeRoomSettings]

-- The rooms before `rooms` have their rows again.
theorem recoverRoomsTabled (rooms before : List RoomRef) (whole : s.lobby.rooms = before ++ rooms)
    (sound : s.lobby.Sound) (here : s.serverConfig.place = place) (spared : s.store.Spared place)
    (rows : roomRows place s.store.database = before.map fun r => rowOf place (s.lobby.room r)) :
    Tabled place (rooms.foldl recoverRoom s) := by
  induction rooms generalizing s before with
  | nil => exact ⟨here,spared,by rw [List.foldl_nil,rows,Lobby.rows,whole,List.append_nil]⟩
  | cons r rooms ih =>
    have row : s.roomRow (s.lobby.room r) = rowOf place (s.lobby.room r) := by
      rw [← here]
      rfl
    have registered : r ∈ s.lobby.rooms := by simp [whole]
    have later : r ∉ before := by
      have nodup := sound.roomsNodup
      rw [whole] at nodup
      exact fun mem => List.disjoint_of_nodup_append nodup mem List.mem_cons_self
    have free : ∀ old ∈ roomRows place s.store.database, old.roomID ≠ (rowOf place (s.lobby.room r)).roomID := by
      rw [rows]
      intro old mem same
      obtain ⟨q,inQ,rfl⟩ := List.mem_map.mp mem
      have known : q ∈ s.lobby.rooms := by simp [whole,inQ]
      exact later (sound.distinctIDs q known r registered same ▸ inQ)
    obtain ⟨added,still,after⟩ := DatabaseManager.addRoomRows spared rfl free
    have once : s.recoverRoom r = s.exec (DatabaseManager.addRoom (rowOf place (s.lobby.room r))) := by
      have positive : ¬ ((DatabaseManager.addRoom (rowOf place (s.lobby.room r)) s.store).1 ≤ 0) := by
        rw [added]
        decide
      dsimp only [recoverRoom]
      rw [row]
      exact if_neg positive
    rw [List.foldl_cons,once]
    refine ih (s := s.exec _) (before ++ [r]) (by simp [whole]) sound here still ?_
    rw [List.map_append]
    exact after.trans (by rw [rows]; rfl)

theorem Tabled.recoverRooms (tabled : Tabled place s) (sound : s.lobby.Sound) : Tabled place s.recoverRooms := by
  obtain ⟨spared,rows⟩ := removeAllRoomsRows tabled.spared
  have emptied : (s.exec (DatabaseManager.removeAllRooms s.serverConfig.place)).store =
      (DatabaseManager.removeAllRooms place s.store).2 := by
    rw [tabled.here]
    rfl
  exact recoverRoomsTabled (s := s.exec (DatabaseManager.removeAllRooms s.serverConfig.place)) s.lobby.rooms [] rfl sound
    tabled.here (by rw [emptied]; exact spared) (by rw [emptied]; exact rows)

theorem Tabled.removeAllRooms (tabled : Tabled place s) :
    Tabled place (s.removeAllRooms.exec (DatabaseManager.removeAllRooms s.serverConfig.place)) := by
  have closed : Keeps s s.removeAllRooms :=
    ((Keeps.refl s).setLobby _).fold (fun t r => ((Mails.refl t).sendAll _ _).toKeeps.destroyRoom _) _
  obtain ⟨still,rows⟩ := removeAllRoomsRows (closed.rows place tabled.spared).1
  have none : s.removeAllRooms.lobby.rooms = [] := by
    obtain ⟨user,whole,-,-⟩ := Lobby.destroyRooms s.lobby.rooms { s.lobby with rooms := [] }
    rw [removeAllRoomsLobby,Lobby.removeAllRooms,whole]
  rw [tabled.here]
  refine ⟨closed.place.trans tabled.here,still,rows.trans ?_⟩
  rw [execLobby,Lobby.rows,none,List.map_nil]

theorem effectTabled {may : Lobby → Lobby.Op → Prop} (admitted : ∀ l op, may l op → l.Admitted op)
    (sound : s.lobby.Sound) (tabled : Tabled place s) (effect : Effect may s t) : Tabled place t := by
  cases effect with
  | quiet quiet => exact tabled.keep quiet.toKeeps (by rw [quiet.lobby])
  | fault => exact ⟨tabled.here,tabled.spared,tabled.rows⟩
  | connect ipAddress => exact ⟨tabled.here,tabled.spared,tabled.rows⟩
  | showServers c => exact tabled.keep ((Mails.refl s).send c _).toKeeps (by rw [sendLobby])
  | addUser known op => exact tabled.keep ((Keeps.refl s).setLobby _) rfl
  | removeUser op => exact tabled.removeUser sound _
  | setUserNetwork op => exact tabled.keep ((Keeps.refl s).setLobby _) rfl
  | showServerList op new => exact tabled.keep ((Keeps.refl s).setLobby _) rfl
  | leaveLobby op present =>
    rename_i u
    have left := (Keeps.refl s).setLobby (s.lobby.setUserStatus u .InServerList)
    refine tabled.keep (left.trans ((Mails.refl _).sendRemoveUserPacketToAll u).toKeeps) ?_
    rw [sendRemoveUserPacketToAllLobby]
    rfl
  | enterLobby op => exact tabled.keep ((Keeps.refl s).enterLobby _) (by rw [enterLobbyLobby]; rfl)
  | openRoom op => exact tabled.openRoom sound (admitted _ _ (op true)).2.2.2.1 _ _ _ _
  | enterRoom op => exact tabled.enterRoom sound (admitted _ _ op).2.2.2.1 _ _
  | leaveRoom op =>
    rename_i u r
    have left := tabled.removeRoomUser sound (Lobby.getRoomByRoomIDSome (admitted _ _ op).2.2).1 u
    exact left.keep ((Mails.refl _).showLobby u).toKeeps (by simp)
  | changeRoomSettings op =>
    exact tabled.changeRoomSettings sound (Lobby.getRoomByRoomIDSome (admitted _ _ op).1.2.2).1 _
  | returnUser op =>
    refine tabled.keep ((Keeps.refl s).returnUser _ _ _) ?_
    rw [returnUserLobby,Lobby.returnToRoomEq]
    exact Lobby.setRoomRows _ (returnedRow place _ _ _)
  | startMatch op =>
    refine tabled.keep ((Keeps.refl s).startMatch _) ?_
    rw [startMatchLobby]
    exact Lobby.setRoomRows _ (startMatchRow place _)
  | saveData op => exact tabled.keep ((Keeps.refl s).setLobby _) (Lobby.setRoomRows _ rfl)
  | sendUserStatus op =>
    rename_i u target r m
    exact tabled.keep ((Keeps.refl s).setLobby _)
      (Lobby.setRoomRows { s.lobby.room r with gameMatch := some (m.addGameMatchUser ⟨target,.None⟩) } rfl)
  | endGame op =>
    rename_i u r m
    refine tabled.keep ((Keeps.refl s).endGame _ _) ?_
    rw [endGameLobby,Lobby.endGameEq]
    exact Lobby.setRoomRows (s.lobby.room r).endMatch (endMatchRow place _)
  | selectTeam op => exact tabled.keep ((Keeps.refl s).setLobby _) (Lobby.setRoomRows _ rfl)
  | recoverRooms op => exact tabled.recoverRooms sound
  | removeAllRooms op => exact tabled.removeAllRooms

end Tabled

section Run
variable {s : State}

-- The columns of a row against the room as it is.
structure Shows (room : Room) (row : RoomRow) : Prop where
  roomID : row.roomID = room.roomID
  isPassworded : row.isPassworded = true ↔ room.roomSettings.password ≠ []
  levelLimit : row.levelLimit = room.roomSettings.levelLimit
  gameModeID : row.gameModeID = room.roomSettings.gameModeID
  mapID : row.mapID = room.roomSettings.mapID
  currentPlayers : row.currentPlayers.toNat = room.roomUsers.length
  maxPlayers : row.maxPlayers = room.roomSettings.maxPlayers

-- One row for each registered room, and no others.
structure RoomTable (s : State) : Prop where
  distinct : (s.lobby.rooms.map fun r => (s.lobby.room r).roomID).Nodup
  rows : List.Forall₂ (fun r row => Shows (s.lobby.room r) row) s.lobby.rooms
    (roomRows s.serverConfig.place s.store.database)

-- What the steps keep, whatever statements the next one meets.
structure Mirrored (place : Place) (s : State) : Prop extends Standing s where
  small : s.lobby.Small
  here : s.serverConfig.place = place
  rows : roomRows place s.store.database = s.lobby.rows place

theorem stepMirrored {place : Place} (e : Event) (mirrored : Mirrored place s)
    (spares : ∀ statement ∈ e.environment.statements, statement.Spares place) : Mirrored place (s.step e) := by
  have kept : (s.step e).Standing ∧ (s.step e).lobby.Small ∧ Tabled place (s.step e) := by
    refine Effects.invariant (P := fun t => t.Standing ∧ t.lobby.Small ∧ Tabled place t) (fun t m before effect => ?_)
      (stepEffects s e) ?_
    · obtain ⟨standing,small,tabled⟩ := before
      refine ⟨effectStanding (fun _ _ => And.left) standing effect,?_,
        effectTabled (fun _ _ => And.left) standing.sound tabled effect⟩
      exact Reaches.invariant (fun (l : Lobby) _ (small : l.Small) done => Lobby.applySmall small done.1)
        (effectReaches effect) small
    · exact ⟨⟨mirrored.sound,mirrored.placed,mirrored.erased⟩,mirrored.small,mirrored.here,spares,mirrored.rows⟩
  obtain ⟨standing,small,tabled⟩ := kept
  exact ⟨standing,small,tabled.here,tabled.rows⟩

theorem rowShows (place : Place) {room : Room} (small : room.roomUsers.length ≤ 255) : Shows room (rowOf place room) where
  roomID := rfl
  isPassworded := by simp [rowOf]
  levelLimit := rfl
  gameModeID := rfl
  mapID := rfl
  currentPlayers := by
    rw [rowOf,UInt8.toNat_ofNat']
    omega
  maxPlayers := rfl

theorem Mirrored.table {place : Place} (mirrored : Mirrored place s) : s.RoomTable where
  distinct := mirrored.represented.distinct
  rows := by
    rw [mirrored.here,mirrored.rows,Lobby.rows,List.forall₂_map_right_iff,List.forall₂_same]
    exact fun r mem => rowShows place (mirrored.small r mem)

-- `main` has deleted the rows of the place before the threads run.
theorem roomTable (serverConfig : ChannelConfig) (database : Database) (environment : Environment) (time : Nat)
    (deleted : roomRows serverConfig.place database = []) {events : List Event}
    (spares : ∀ e ∈ events, ∀ statement ∈ e.environment.statements, statement.Spares serverConfig.place) :
    Always step RoomTable (start serverConfig database environment time) events := by
  have begun : Mirrored serverConfig.place (start serverConfig database environment time) :=
    ⟨⟨Lobby.startSound,Lobby.startPlaced,rfl⟩,by simp [start,Lobby.Small,Lobby.start],rfl,deleted⟩
  have each : Each step (fun _ e => True ∧ ∀ statement ∈ e.environment.statements, statement.Spares serverConfig.place)
      (start serverConfig database environment time) events := eachAlso (eachTrue _ events) spares
  exact alwaysMono (fun _ => Mirrored.table)
    (alwaysOfEach (fun _ e mirrored ok => stepMirrored e mirrored ok.2) begun each)

-- A room is opened, joined and left to the other user.
theorem roomTableJoined : Always step RoomTable sampleStart
    [connects,connects,arrives 0 (transferLoginBody "one"),arrives 1 (transferLoginBody "two"),
      arrives 0 createRoomBody,arrives 1 [65,1,1,0,0],arrives 0 [65,2]] :=
  roomTable _ _ _ _ rfl (by simp [connects,arrives,sampleEnvironment])

end Run
end State
end CsoMaster
