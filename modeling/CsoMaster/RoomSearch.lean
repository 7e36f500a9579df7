import CsoMaster.HandlerFaults
import CsoMaster.RoomListFields
import CsoMaster.RoomTable

/-! The two searches for a room: the condition `SearchRoom` asks of the rooms registered here,
and the WHERE filter it sends for the rows of the other channels. `sought` is that filter on one
row, the exclusion of the own channel apart; what the two make of a room and its row is compared
for every request. The rows of the other channels are looked up in the own server list, whatever
servers and channels they name. -/
namespace CsoMaster
open DatabaseManager

structure SearchRequest where
  gameModeID : UInt8
  mapID : UInt8
  levelLimit : UInt8
  clanBattle : UInt8
  deriving DecidableEq, Repr

def SearchRequest.sought (request : SearchRequest) (row : RoomRow) : Prop :=
  ¬ row.isPassworded ∧ row.currentPlayers < row.maxPlayers ∧ row.levelLimit = request.levelLimit ∧
    (if row.clanBattle then 1 else 0) = request.clanBattle ∧
    (request.gameModeID ≠ 99 → row.gameModeID = request.gameModeID) ∧
    (request.mapID ≠ 99 → row.mapID = request.mapID)

instance (request : SearchRequest) (row : RoomRow) : Decidable (request.sought row) := inferInstanceAs (Decidable (_ ∧ _))

theorem searchedRoomsSought (place : Place) (request : SearchRequest) (d : Database) (row : RoomRow) :
    row ∈ searchedRooms place request.gameModeID request.mapID request.levelLimit request.clanBattle d ↔
      row ∈ d.rooms ∧ row.place ≠ place ∧ request.sought row := by
  simp only [searchedRooms,List.mem_filter,decide_eq_true_eq,SearchRequest.sought]

namespace Room

-- What both searches ask: no password, a free seat, the level and the map.
def Open (room : Room) (request : SearchRequest) : Prop :=
  room.roomSettings.password = [] ∧ room.roomUsers.length < room.roomSettings.maxPlayers.toNat ∧
    room.roomSettings.levelLimit = request.levelLimit ∧
    (request.mapID = 99 ∨ room.roomSettings.mapID = request.mapID)

-- A room whose mode both searches see in the same way.
def SameMode (room : Room) (request : SearchRequest) : Prop :=
  if request.clanBattle = 0 then
    room.roomSettings.gameModeID = request.gameModeID ∨ room.roomSettings.gameModeID ≠ 99 ∧ request.gameModeID ≠ 99
  else room.roomSettings.gameModeID ≠ 99 ∧ room.roomSettings.gameModeID ≠ request.gameModeID

end Room

namespace State
open Runs
variable {s : State} {r : RoomRef} {request : SearchRequest}

def SearchesAgree (s : State) (r : RoomRef) (request : SearchRequest) : Prop :=
  s.foundHere request.gameModeID request.mapID request.levelLimit r = true ↔ request.sought (s.roomRow (s.lobby.room r))

theorem foundHereOpen : s.foundHere request.gameModeID request.mapID request.levelLimit r = true ↔
    (s.lobby.room r).Open request ∧ ((s.lobby.room r).roomSettings.gameModeID = 99 ∨
      (s.lobby.room r).roomSettings.gameModeID = request.gameModeID) := by
  simp only [foundHere,Room.Open]
  simp
  tauto

-- The row holds the count in one byte; a room that is Small loses nothing in it.
theorem soughtOpen (small : (s.lobby.room r).roomUsers.length ≤ 255) :
    request.sought (s.roomRow (s.lobby.room r)) ↔ (s.lobby.room r).Open request ∧ request.clanBattle = 0 ∧
      (request.gameModeID = 99 ∨ (s.lobby.room r).roomSettings.gameModeID = request.gameModeID) := by
  have count : (UInt8.ofNat (s.lobby.room r).roomUsers.length).toNat = (s.lobby.room r).roomUsers.length := by
    rw [UInt8.toNat_ofNat']
    omega
  simp only [SearchRequest.sought,roomRow,Room.Open,UInt8.lt_iff_toNat_lt,count]
  simp [eq_comm (a := (0 : UInt8)),← or_iff_not_imp_left]
  tauto

theorem searchesAgree (small : (s.lobby.room r).roomUsers.length ≤ 255) :
    s.SearchesAgree r request ↔ ((s.lobby.room r).Open request → (s.lobby.room r).SameMode request) := by
  have never : ¬ ((s.lobby.room r).roomSettings.gameModeID = 99 ∧ request.gameModeID = 99 ∧
      (s.lobby.room r).roomSettings.gameModeID ≠ request.gameModeID) := fun ⟨room,asked,differ⟩ => differ (room.trans asked.symm)
  rw [SearchesAgree,foundHereOpen,soughtOpen small,Room.SameMode]
  split <;> tauto

theorem stepSmall (small : s.lobby.Small) (e : Event) : (s.step e).lobby.Small :=
  Reaches.invariant (fun (l : Lobby) _ (small : l.Small) meets => Lobby.applySmall small meets.admitted) (stepMoves s e) small

section Run

-- Exactly where the searches agree, in every state the server can be in.
theorem roomSearches (serverConfig : ChannelConfig) (database : Database) (environment : Environment) (time : Nat)
    (events : List Event) :
    Always step (fun s => ∀ r ∈ s.lobby.rooms, ∀ request, s.SearchesAgree r request ↔
        ((s.lobby.room r).Open request → (s.lobby.room r).SameMode request))
      (start serverConfig database environment time) events := by
  have small : Always step (fun s => s.lobby.Small) (start serverConfig database environment time) events :=
    alwaysOfEach (fun _ e small _ => stepSmall small e) (by simp [start,Lobby.Small,Lobby.start]) (eachTrue _ events)
  exact alwaysMono (fun s small r registered request => searchesAgree (small r registered)) small

-- The wildcard, asked for a room in mode 0: its row is found, the room is not.
theorem anyModeMissesRoom :
    ¬ ∀ serverConfig database environment time events,
      Always step (fun s => ∀ r ∈ s.lobby.rooms, ∀ request, s.SearchesAgree r request)
        (start serverConfig database environment time) events := by
  intro always
  have last := alwaysLast (always sampleChannel sampleTables sampleEnvironment 0
    [connects,arrives 0 (transferLoginBody "one"),arrives 0 createRoomBody])
  have agrees := last 1 (by decide +kernel) ⟨99,99,0,0⟩
  exact absurd (agrees.mpr (by decide +kernel)) (by decide +kernel)

end Run
end State

section Remote
variable {serverConfig : ServerConfig} {level : UInt8} {request : SearchRequest}

-- The rows `SearchRoom` goes through, none where its query is given up with an error.
def matchingRows (serverConfig : ServerConfig) (request : SearchRequest) (d : Store) : List RoomRow :=
  (select (searchedRooms serverConfig.place request.gameModeID request.mapID request.levelLimit request.clanBattle) d).1.getD []

-- The row's channel is online, and its server takes players of this level.
def Offered (serverConfig : ServerConfig) (level : UInt8) (row : RoomRow) : Prop :=
  ∃ server channel, listed serverConfig row.place = some (server,channel) ∧ channel.isOnline = true ∧
    (level ≥ LIMIT_NEWBIE_LEVEL → server.type ≠ .Newbie)

-- All indices are in bounds, and the answer is all zero or names a matching row that is offered.
def SearchedSoundly (serverConfig : ServerConfig) (level : UInt8) (request : SearchRequest) (d : Store) : Prop :=
  ∃ result, (DatabaseManager.searchRoom serverConfig level request.gameModeID request.mapID request.levelLimit
      request.clanBattle d).1 = some result ∧
    (result = ⟨0,0,0⟩ ∨ ∃ row ∈ matchingRows serverConfig request d, Offered serverConfig level row ∧
      result = ⟨row.place.serverID,row.place.channelID,row.roomID⟩)

theorem searchRoomRows (d : Store) :
    (DatabaseManager.searchRoom serverConfig level request.gameModeID request.mapID request.levelLimit request.clanBattle d).1 =
      searchRows serverConfig level default (matchingRows serverConfig request d) := by
  unfold matchingRows
  rcases asked : select (searchedRooms serverConfig.place request.gameModeID request.mapID request.levelLimit
    request.clanBattle) d with ⟨answer,store⟩
  cases answer with
  | none => simp [DatabaseManager.searchRoom,bind,StateT.bind,asked,pureRuns,searchRows]
  | some rows => simp [DatabaseManager.searchRoom,bind,StateT.bind,asked,pureRuns]

theorem searchRowsOffered {rows : List RoomRow} {before result : SearchRoomResult}
    (found : searchRows serverConfig level before rows = some result) :
    result = before ∨ ∃ row ∈ rows, Offered serverConfig level row ∧
      result = ⟨row.place.serverID,row.place.channelID,row.roomID⟩ := by
  induction rows generalizing before with
  | nil => exact .inl (Option.some.inj found).symm
  | cons row rows ih =>
    rw [searchRows] at found
    split at found
    · cases found
    · rename_i server channel here
      split at found
      · rcases ih found with same | ⟨other,mem,offered⟩
        · exact .inl same
        · exact .inr ⟨other,List.mem_cons_of_mem row mem,offered⟩
      · rename_i passes
        have offered : channel.isOnline = true ∧ (level ≥ LIMIT_NEWBIE_LEVEL → server.type ≠ .Newbie) := by
          simpa [imp_not_comm] using passes
        rcases ih found with same | ⟨other,mem,offered⟩
        · exact .inr ⟨row,List.mem_cons_self,⟨server,channel,here,offered⟩,same⟩
        · exact .inr ⟨other,List.mem_cons_of_mem row mem,offered⟩

-- Every row that matches decides, also one that would be passed over.
theorem remoteSearch (serverConfig : ServerConfig) (level : UInt8) (request : SearchRequest) (d : Store) :
    SearchedSoundly serverConfig level request d ↔
      ∀ row ∈ matchingRows serverConfig request d, (listed serverConfig row.place).isSome := by
  unfold SearchedSoundly
  rw [searchRoomRows]
  constructor
  · rintro ⟨result,found,-⟩ row mem
    by_contra unlisted
    have fails := (State.searchRowsNone serverConfig level _ default).mpr ⟨row,mem,by simpa using unlisted⟩
    rw [fails] at found
    cases found
  · intro inside
    cases found : searchRows serverConfig level default (matchingRows serverConfig request d) with
    | none =>
      obtain ⟨row,mem,unlisted⟩ := (State.searchRowsNone serverConfig level _ default).mp found
      have listed := inside row mem
      rw [unlisted] at listed
      cases listed
    | some result => exact ⟨result,rfl,searchRowsOffered found⟩

-- A room of a server that the own list does not have.
theorem unlistedServerRow : ¬ ∀ serverConfig level request d, SearchedSoundly serverConfig level request d := by
  intro sound
  obtain ⟨result,found,-⟩ := sound State.sampleChannel.toServerConfig 1 ⟨99,99,0,0⟩
    ⟨{ State.sampleTables with rooms := [⟨⟨3,1⟩,1,false,false,0,1,1,1,16⟩] },[]⟩
  have fails : (DatabaseManager.searchRoom State.sampleChannel.toServerConfig 1 99 99 0 0
      ⟨{ State.sampleTables with rooms := [⟨⟨3,1⟩,1,false,false,0,1,1,1,16⟩] },[]⟩).1 = none := by decide +kernel
  rw [fails] at found
  cases found

end Remote
end CsoMaster
