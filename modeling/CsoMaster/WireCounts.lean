import CsoMaster.ClientCopies
import CsoMaster.Deliveries
import CsoMaster.RoomRepresentation
import CsoMaster.UsableConfig
import CsoMaster.WireLists

/-! Whether the counts on the wire are right, over whole runs. Every count is cut to its width where
it is written, and nothing there asks whether it fits; it does, because the room IDs, the seats of
a room and of the server and the size of the save data are bounded elsewhere. -/
namespace CsoMaster
open Runs

-- Small enough for every count.
structure Lobby.Narrow (l : Lobby) : Prop where
  users : l.users.length ≤ 65535
  rooms : l.rooms.length ≤ 65535
  roomUsers : ∀ r, (l.room r).roomUsers.length ≤ 255
  participants : ∀ r, (l.room r).participants.length ≤ 255
  saved : ∀ r, ∀ m ∈ (l.room r).gameMatch, m.saveData.length ≤ State.SAVEDATA_MAX_SIZE

namespace Lobby
variable {l : Lobby} {r : RoomRef} {room : Room}

-- One room is changed, and stays small enough.
theorem Narrow.setRoom (narrow : l.Narrow) (roomUsers : room.roomUsers.length ≤ 255) (participants : room.participants.length ≤ 255)
    (saved : ∀ m ∈ room.gameMatch, m.saveData.length ≤ State.SAVEDATA_MAX_SIZE) : (l.setRoom r room).Narrow where
  users := narrow.users
  rooms := narrow.rooms
  roomUsers q := by
    simp only [Lobby.setRoom,Function.update_apply]
    split
    · exact roomUsers
    · exact narrow.roomUsers q
  participants q := by
    simp only [Lobby.setRoom,Function.update_apply]
    split
    · exact participants
    · exact narrow.participants q
  saved q := by
    simp only [Lobby.setRoom,Function.update_apply]
    split
    · exact saved
    · exact narrow.saved q

theorem Narrow.within (narrow : l.Narrow) (within : (l.room r).Within room) : (l.setRoom r room).Narrow := by
  refine narrow.setRoom (within.users.trans (narrow.roomUsers r)) (within.participants.trans (narrow.participants r)) fun m playing => ?_
  rcases within.saved m playing with none | ⟨n,before,same⟩
  · simp [none]
  · exact same ▸ narrow.saved r n before

theorem Narrow.addUser (narrow : l.Narrow) (seat : l.users.length < 65535) (user : User) : (l.addUser user).Narrow := by
  refine ⟨?_,narrow.rooms,narrow.roomUsers,narrow.participants,narrow.saved⟩
  simp only [Lobby.addUser,List.length_append,List.length_singleton]
  omega

-- The new room has one user and no match.
theorem Narrow.createRoom (narrow : l.Narrow) {u : UserRef} {s : RoomSettings} (few : (l.createRoom u s true).rooms.length ≤ 65535) :
    (l.createRoom u s true).Narrow := by
  let moved := l.setUser u ((l.user u).enterRoom l.getFreeRoomID)
  have before : moved.Narrow := ⟨narrow.users,narrow.rooms,narrow.roomUsers,narrow.participants,narrow.saved⟩
  have opened : (moved.setRoom l.fresh { (Room.new l.getFreeRoomID u).addRoomUser u with roomSettings := s }).Narrow :=
    before.setRoom (by simp [Room.new,Room.addRoomUser]) (by simp [Room.new,Room.addRoomUser,Room.participants])
      (by simp [Room.new,Room.addRoomUser])
  exact ⟨narrow.users,few,opened.roomUsers,opened.participants,opened.saved⟩

theorem Narrow.joinRoom (narrow : l.Narrow) {u : UserRef}
    (seat : (l.room r).roomUsers.length < (l.room r).roomSettings.maxPlayers.toNat) : (l.joinRoom u r).Narrow := by
  have entered : (l.setRoom r ((l.room r).addRoomUser u)).Narrow := by
    refine narrow.setRoom ?_ (narrow.participants r) (narrow.saved r)
    have most := (l.room r).roomSettings.maxPlayers.toNat_lt
    simp only [Room.addRoomUser,List.length_append,List.length_singleton]
    omega
  exact ⟨entered.users,entered.rooms,entered.roomUsers,entered.participants,entered.saved⟩

theorem Narrow.saveData (narrow : l.Narrow) {m : GameMatch} (playing : (l.room r).gameMatch = some m) {saveData : Bytes}
    (small : saveData.length ≤ State.SAVEDATA_MAX_SIZE) :
    (l.setRoom r { l.room r with gameMatch := some { m with saveData := saveData } }).Narrow := by
  refine narrow.setRoom (narrow.roomUsers r) ?_ fun n saved => ?_
  · have participants := narrow.participants r
    rwa [Room.participantsOf playing] at participants
  · exact Option.some.inj saved ▸ small

-- The participants are users of the room, and none of them is there twice.
theorem Narrow.sendUserStatus (narrow : l.Narrow) {m : GameMatch} (playing : (l.room r).gameMatch = some m) {target : UserRef}
    (sound : ((l.sendUserStatus r m target).room r).Sound) : (l.sendUserStatus r m target).Narrow := by
  have room : (l.sendUserStatus r m target).room r = { l.room r with gameMatch := some (m.addGameMatchUser ⟨target,.None⟩) } :=
    State.roomSet r l _
  have few := (List.subperm_of_subset sound.seatsNodup sound.seated).length_le
  rw [room] at few
  have reported : (l.setRoom r { l.room r with gameMatch := some (m.addGameMatchUser ⟨target,.None⟩) }).Narrow := by
    refine narrow.setRoom (narrow.roomUsers r) (few.trans (narrow.roomUsers r)) fun n after => ?_
    obtain rfl := Option.some.inj after
    exact narrow.saved r m playing
  exact ⟨reported.users,reported.rooms,reported.roomUsers,reported.participants,reported.saved⟩

end Lobby

namespace Message

-- What a packet of this kind says of its lists, and of the users of its rooms, is so.
def Exact (c : LoadedConfig) (m : Message) : Prop :=
  (∀ ip port, ∀ p ∈ m.listPacket c ip port, ∀ l ∈ m.lists c ip port, l.StandsIn p.buffer ∧ l.Exact) ∧
    ∀ room ∈ m.rooms, (UInt8.ofNat room.currentPlayers).toNat = room.currentPlayers

section Exact
variable {c : LoadedConfig} {m : Message}

theorem fewExact (lists : ∀ ip port, ∀ l ∈ m.lists c ip port, l.records.length ≤ WireList.capacity l.width)
    (rooms : ∀ room ∈ m.rooms, room.currentPlayers ≤ 255) : m.Exact c := by
  refine ⟨fun ip port p built l mem => ⟨listsStand c ip port built l mem,WireList.exactOf (lists ip port l mem)⟩,fun room mem => ?_⟩
  exact UInt8.toNat_ofNat_of_lt' (Nat.lt_succ_of_le (rooms room mem))

end Exact
end Message

namespace State
open DatabaseManager
variable {s t : State} {c : LoadedConfig}

section Delivery

theorem gameUsersFew (s : State) (us : List UserRef) : (s.gameUsers us).1.length ≤ us.length := by
  induction us generalizing s with
  | nil => exact Nat.le_refl 0
  | cons u us ih =>
    dsimp only [gameUsers]
    split
    · exact Nat.succ_le_succ (ih _)
    · exact (ih _).trans (Nat.le_succ _)

theorem userListExact (narrow : s.lobby.Narrow) : s.userListNow.Exact c := by
  refine Message.fewExact (fun _ _ l mem => ?_) fun _ mem => nomatch mem
  obtain rfl := List.mem_singleton.mp mem
  have shown : s.usersInLobby.length ≤ s.lobby.users.length := List.length_filter_le ..
  exact ((List.length_map _).le.trans (s.gameUsersFew _)).trans (shown.trans narrow.users)

theorem roomListExact (narrow : s.lobby.Narrow) : s.roomListNow.Exact c := by
  refine Message.fewExact (fun _ _ l mem => ?_) fun room mem => ?_
  · obtain rfl := List.mem_singleton.mp mem
    simpa [fullRoomWireList,WireList.capacity] using narrow.rooms
  · obtain ⟨r,-,rfl⟩ := List.mem_map.mp mem
    exact narrow.roomUsers r

theorem replyExact {l : Lobby} (narrow : l.Narrow) {r : RoomRef} {gameUsers : List GameUser}
    (few : gameUsers.length ≤ (l.room r).roomUsers.length) (hostUserID : UInt32) (roomID : UInt16) (roomSettings : RoomSettings) :
    (Message.replyCreateAndJoin hostUserID roomID roomSettings gameUsers).Exact c := by
  refine Message.fewExact (fun _ _ l mem => ?_) fun _ mem => nomatch mem
  obtain rfl := List.mem_singleton.mp mem
  exact ((List.length_map _).le.trans few).trans (narrow.roomUsers r)

theorem hostRestartExact {l : Lobby} (narrow : l.Narrow) {r : RoomRef} {m : GameMatch} (playing : (l.room r).gameMatch = some m)
    {gameMatchUsers : List UInt32} (few : gameMatchUsers.length ≤ m.participants.length) (userID : UInt32) :
    (Message.hostRestart userID gameMatchUsers m.saveData).Exact c := by
  refine Message.fewExact (fun _ _ l mem => ?_) fun _ mem => nomatch mem
  have participants := narrow.participants r
  rw [Room.participantsOf playing] at participants
  have saved := narrow.saved r m playing
  rcases List.mem_cons.mp mem with rfl | inner
  · have small : SAVEDATA_MAX_SIZE ≤ WireList.capacity .short := by decide
    exact (List.length_map _).le.trans (saved.trans small)
  · unfold chosen at inner
    split at inner
    · obtain rfl := List.mem_singleton.mp inner
      exact ((List.length_map _).le.trans few).trans participants
    · cases inner

end Delivery

theorem serverListExact {servers : List Server} (few : servers.length ≤ 255) (each : ∀ server ∈ servers, server.channels.length ≤ 255) :
    (Message.serverList servers).Exact c := by
  refine Message.fewExact (fun _ _ l mem => ?_) fun _ mem => nomatch mem
  rcases List.mem_cons.mp mem with rfl | inner
  · exact (List.length_map _).le.trans few
  · obtain ⟨server,listed,rfl⟩ := List.mem_map.mp inner
    exact (List.length_map _).le.trans (each server listed)

section Run

-- What every step keeps: the lobby is narrow, and the server list is as long as it was loaded.
structure Countable (c : LoadedConfig) (s : State) : Prop where
  standing : s.Standing
  narrow : s.lobby.Narrow
  layout : s.serverConfig.layout = c.channelConfig.layout
  sent : ∀ entry ∈ s.sent, entry.2.Exact c

section Countable
variable (fits : c.serverList.length ≤ 255 ∧ ∀ server ∈ c.serverList, server.channels.length ≤ 255)
include fits

theorem Countable.servers (countable : s.Countable c) : (Message.serverList s.serverConfig.serverList).Exact c := by
  have lengths : s.serverConfig.serverList.map (·.channels.length) = c.serverList.map (·.channels.length) := by
    have loaded := congrArg Layout.channels countable.layout
    simpa [ServerConfig.layout,LoadedConfig.channelConfig,LoadedConfig.toServer,Function.comp_def] using loaded
  refine serverListExact ?_ fun server listed => ?_
  · have same := congrArg List.length lengths
    rw [List.length_map,List.length_map] at same
    exact same ▸ fits.1
  · have mem : server.channels.length ∈ c.serverList.map (·.channels.length) := lengths ▸ List.mem_map_of_mem listed
    obtain ⟨named,loaded,same⟩ := List.mem_map.mp mem
    exact same ▸ fits.2 named loaded

end Countable

-- The packets that would be built now, whatever the tables' server answers, and all that have been.
structure WireCounts (c : LoadedConfig) (s : State) : Prop where
  servers : (Message.serverList s.serverConfig.serverList).Exact c
  users : ∀ environment, (s.enter environment).userListNow.Exact c
  rooms : s.roomListNow.Exact c
  -- The one that joins is a user of the room by then.
  replies : ∀ environment r newcomer, ∀ u ∈ (s.lobby.room r).roomUsers,
    (Message.replyCreateAndJoin (s.lobby.user (s.lobby.room r).roomHostUser).userID (s.lobby.room r).roomID (s.lobby.room r).roomSettings
      (((s.enter environment).introduce r newcomer ((s.lobby.room r).roomUsers.filter (· ≠ u))).1 ++ [newcomer])).Exact c
  restarts : ∀ r m u, (s.lobby.room r).gameMatch = some m →
    (Message.hostRestart (s.lobby.user u).userID ((m.participants.filter (· ≠ u)).map fun v => (s.lobby.user v).userID) m.saveData).Exact c
  players : ∀ r, (UInt8.ofNat (s.roomInfo r).currentPlayers).toNat = (s.lobby.room r).roomUsers.length
  sent : ∀ entry ∈ s.sent, entry.2.Exact c

theorem Countable.exact (fits : c.serverList.length ≤ 255 ∧ ∀ server ∈ c.serverList, server.channels.length ≤ 255)
    (countable : s.Countable c) : s.WireCounts c where
  servers := countable.servers fits
  users _ := userListExact countable.narrow
  rooms := roomListExact countable.narrow
  replies _ _ newcomer _ mem := replyExact countable.narrow (introducedFew _ newcomer mem) _ _ _
  restarts _ m _ playing := hostRestartExact countable.narrow playing (by simpa using List.length_filter_le _ m.participants) _
  players r := UInt8.toNat_ofNat_of_lt' (Nat.lt_succ_of_le (countable.narrow.roomUsers r))
  sent := countable.sent

end Run

end State
end CsoMaster
