import CsoMaster.LobbyConnections
import CsoMaster.QuietSteps
import CsoMaster.Replication
import Mathlib.Data.List.Find

/-! The room list of the users in the lobby: which rooms there are, how many users each has and
who is its host. `Lobby.roomList` is the list as the registry has it, `roomListReplica` the one
a client reads off the packets; what each change of a room does to the one, the packet about it
does to the other. -/
namespace CsoMaster

structure RoomEntry where
  currentPlayers : UInt8
  hostUserID : UInt32
  deriving DecidableEq, Repr, Inhabited

abbrev RoomList := UInt16 → Option RoomEntry

-- `buildRoomInfo` writes what the flag selects.
def RoomInfo.read (room : RoomInfo) (flag : UInt16) (entry : RoomEntry) : RoomEntry where
  currentPlayers := if flag &&& ROOMLIST_FLAG_CURRENTPLAYERS ≠ 0 then UInt8.ofNat room.currentPlayers else entry.currentPlayers
  hostUserID := if flag &&& ROOMLIST_FLAG_ROOMHOST ≠ 0 then room.hostUserID else entry.hostUserID

def roomListReplica : Replica Message RoomList where
  opens
    | .fullRoomList rooms flag => some fun roomID => (rooms.find? (·.roomID = roomID)).map (·.read flag default)
    | _ => none
  change list
    | .addRoom room flag => Function.update list room.roomID (some (room.read flag default))
    | .removeRoom roomID => Function.update list roomID none
    | .updateRoom room flag => Function.update list room.roomID ((list room.roomID).map (room.read flag))
    | _ => list

-- Who gets a room that its host leaves: the first that is left in the match, or in the room.
def Room.heir (room : Room) (u : UserRef) : Option UserRef :=
  (room.withoutUser u).participants.head?.or (room.withoutUser u).roomUsers.head?

namespace Lobby

def roomEntry (l : Lobby) (r : RoomRef) : RoomEntry :=
  ⟨UInt8.ofNat (l.room r).roomUsers.length,(l.user (l.room r).roomHostUser).userID⟩

def roomList (l : Lobby) : RoomList := fun roomID => (l.rooms.find? fun r => (l.room r).roomID = roomID).map l.roomEntry

section RoomList
variable {l other : Lobby} {r : RoomRef} {roomID : UInt16} {entry : RoomEntry}

theorem roomListSome (sound : l.Sound) :
    l.roomList roomID = some entry ↔ ∃ r ∈ l.rooms, (l.room r).roomID = roomID ∧ l.roomEntry r = entry := by
  unfold roomList
  rw [Option.map_eq_some_iff]
  constructor
  · rintro ⟨r,found,shown⟩
    exact ⟨r,List.mem_of_find?_eq_some found,by simpa using List.find?_some found,shown⟩
  · rintro ⟨r,registered,rfl,shown⟩
    refine ⟨r,?_,shown⟩
    cases found : l.rooms.find? fun q => (l.room q).roomID = (l.room r).roomID with
    | none => exact absurd (List.find?_eq_none.mp found r registered) (by simp)
    | some q =>
      have same : (l.room q).roomID = (l.room r).roomID := by simpa using List.find?_some found
      rw [sound.distinctIDs q (List.mem_of_find?_eq_some found) r registered same]

theorem roomListAt (sound : l.Sound) (registered : r ∈ l.rooms) : l.roomList (l.room r).roomID = some (l.roomEntry r) :=
  (roomListSome sound).mpr ⟨r,registered,rfl,rfl⟩

theorem roomListNone (absent : ∀ r ∈ l.rooms, (l.room r).roomID ≠ roomID) : l.roomList roomID = none := by
  simpa [roomList] using absent

theorem roomListSame (rooms : other.rooms = l.rooms)
    (same : ∀ r ∈ l.rooms, (other.room r).roomID = (l.room r).roomID ∧ other.roomEntry r = l.roomEntry r) :
    other.roomList = l.roomList := by
  funext roomID
  have found : (other.rooms.find? fun r => (other.room r).roomID = roomID) =
      l.rooms.find? fun r => (l.room r).roomID = roomID := by
    rw [rooms]
    exact List.find?_congr fun r mem => by rw [(same r mem).1]
  rw [roomList,roomList,found]
  exact Option.map_congr fun r mem => (same r (List.mem_of_find?_eq_some mem)).2

theorem roomListUsers (rooms : other.rooms = l.rooms) (room : other.room = l.room) (users : l.SameUsers other) :
    other.roomList = l.roomList :=
  roomListSame rooms fun r _ => ⟨by rw [room],by rw [roomEntry,roomEntry,room,(users _).2]⟩

theorem roomListBack (us : List UserRef) (l : Lobby) : (us.foldl backToLobby l).roomList = l.roomList := by
  induction us generalizing l with
  | nil => rfl
  | cons u us ih => exact (ih (l.backToLobby u)).trans (roomListUsers rfl rfl (setUserSame l u rfl rfl))

theorem roomListKept {room : Room} (id : room.roomID = (l.room r).roomID) (users : room.roomUsers = (l.room r).roomUsers)
    (host : room.roomHostUser = (l.room r).roomHostUser) : (l.setRoom r room).roomList = l.roomList := by
  refine roomListSame rfl fun q _ => ?_
  by_cases same : q = r
  · subst same
    simp [setRoom,roomEntry,id,users,host]
  · simp [setRoom,roomEntry,same]

-- A room's entry changes and those of the others do not.
theorem roomListSetRoom (sound : l.Sound) (registered : r ∈ l.rooms) {room : Room} (id : room.roomID = (l.room r).roomID) :
    Function.update l.roomList room.roomID (some ((l.setRoom r room).roomEntry r)) = (l.setRoom r room).roomList := by
  have changed : (l.setRoom r room).Sound := sound.setRoom id
  have own : ((l.setRoom r room).room r).roomID = room.roomID := by simp [setRoom]
  funext roomID
  by_cases here : roomID = room.roomID
  · subst here
    rw [Function.update_self,← own]
    exact (roomListAt changed registered).symm
  · rw [Function.update_of_ne here]
    refine Option.ext fun entry => ?_
    rw [roomListSome sound,roomListSome changed]
    constructor
    · rintro ⟨q,inQ,rfl,rfl⟩
      have other : q ≠ r := by
        rintro rfl
        exact here id.symm
      exact ⟨q,inQ,by simp [setRoom,other],by simp [roomEntry,setRoom,other]⟩
    · rintro ⟨q,inQ,rfl,rfl⟩
      have other : q ≠ r := by
        rintro rfl
        exact here own
      exact ⟨q,inQ,by simp [setRoom,other],by simp [roomEntry,setRoom,other]⟩

theorem roomListAddRoom (sound : l.Sound) {room : Room} (given : room.roomID ≠ 0)
    (free : ∀ r ∈ l.rooms, (l.room r).roomID ≠ room.roomID) :
    Function.update l.roomList room.roomID (some ((l.addRoom room).roomEntry l.fresh)) = (l.addRoom room).roomList := by
  have added : (l.addRoom room).Sound := sound.addRoom given free
  have old {r : RoomRef} (mem : r ∈ l.rooms) : (l.addRoom room).room r = l.room r := by
    simp [addRoom,Nat.ne_of_lt (sound.roomsOld r mem)]
  have own : ((l.addRoom room).room l.fresh).roomID = room.roomID := by simp [addRoom]
  have new : l.fresh ∈ (l.addRoom room).rooms := by simp [addRoom]
  funext roomID
  by_cases here : roomID = room.roomID
  · subst here
    rw [Function.update_self,← own]
    exact (roomListAt added new).symm
  · rw [Function.update_of_ne here]
    refine Option.ext fun entry => ?_
    rw [roomListSome sound,roomListSome added]
    constructor
    · rintro ⟨q,inQ,rfl,rfl⟩
      exact ⟨q,List.mem_append_left _ inQ,by rw [old inQ],by simp only [roomEntry,old inQ]; rfl⟩
    · rintro ⟨q,inQ,rfl,rfl⟩
      rcases List.mem_append.mp inQ with before | now
      · exact ⟨q,before,by rw [old before],by simp only [roomEntry,old before]; rfl⟩
      · rw [List.mem_singleton.mp now] at here
        exact absurd own here

theorem roomListRemoveRoom (sound : l.Sound) (registered : r ∈ l.rooms) :
    Function.update l.roomList (l.room r).roomID none = { l with rooms := l.rooms.erase r }.roomList := by
  have removed : { l with rooms := l.rooms.erase r }.Sound :=
    sound.shrink (List.Sublist.refl _) List.erase_sublist (fun _ _ => rfl) rfl
  funext roomID
  by_cases here : roomID = (l.room r).roomID
  · subst here
    rw [Function.update_self,eq_comm]
    refine roomListNone fun q mem same => ?_
    obtain ⟨other,inQ⟩ := sound.roomsNodup.mem_erase_iff.mp mem
    exact other (sound.distinctIDs q inQ r registered same)
  · rw [Function.update_of_ne here]
    refine Option.ext fun entry => ?_
    rw [roomListSome sound,roomListSome removed]
    constructor
    · rintro ⟨q,inQ,rfl,rfl⟩
      have other : q ≠ r := by
        rintro rfl
        exact here rfl
      exact ⟨q,(List.mem_erase_of_ne other).mpr inQ,rfl,rfl⟩
    · rintro ⟨q,inQ,rfl,rfl⟩
      exact ⟨q,List.mem_of_mem_erase inQ,rfl,rfl⟩

end RoomList
end Lobby

section Packets
variable {room : RoomInfo} {flag : UInt16} {entry : RoomEntry}

theorem RoomInfo.readTwice (room : RoomInfo) (flag : UInt16) (entry : RoomEntry) :
    room.read flag (room.read flag entry) = room.read flag entry := by
  unfold read
  dsimp only
  congr 1 <;> split <;> rfl

theorem RoomInfo.readNothing (players : flag &&& ROOMLIST_FLAG_CURRENTPLAYERS = 0) (host : flag &&& ROOMLIST_FLAG_ROOMHOST = 0) :
    room.read flag entry = entry := by
  simp [read,players,host]

theorem RoomInfo.readPlayers (room : RoomInfo) (entry : RoomEntry) :
    room.read ROOMLIST_FLAG_CURRENTPLAYERS entry = ⟨UInt8.ofNat room.currentPlayers,entry.hostUserID⟩ := rfl

theorem RoomInfo.readHost (room : RoomInfo) (entry : RoomEntry) :
    room.read ROOMLIST_FLAG_ROOMHOST entry = ⟨entry.currentPlayers,room.hostUserID⟩ := rfl

theorem updateRoomSettles (room : RoomInfo) (flag : UInt16) : roomListReplica.Settles (.updateRoom room flag) := by
  refine Replica.settlesOf rfl fun list => ?_
  have twice : (room.read flag ∘ room.read flag) = room.read flag := funext (room.readTwice flag)
  simp [roomListReplica,Function.update_idem,twice]

theorem addRoomSettles (room : RoomInfo) (flag : UInt16) : roomListReplica.Settles (.addRoom room flag) :=
  Replica.settlesOf rfl fun _ => Function.update_idem _ _ _

theorem removeRoomSettles (roomID : UInt16) : roomListReplica.Settles (.removeRoom roomID) :=
  Replica.settlesOf rfl fun _ => Function.update_idem _ _ _

theorem roomListIgnoresState (room : RoomInfo) : roomListReplica.Ignores (.updateRoom room ROOMLIST_FLAG_ROOMSTATE) := by
  refine Replica.ignoresOf rfl fun list => ?_
  have kept : room.read ROOMLIST_FLAG_ROOMSTATE = id := funext fun _ => room.readNothing (by decide) (by decide)
  simp [roomListReplica,kept]

theorem roomListPlain {m : Message} (plain : m.listed = false) : roomListReplica.Ignores m := by
  cases m with
  | fullRoomList | addRoom | removeRoom | updateRoom => cases plain
  | _ => exact Replica.ignoresOf rfl fun _ => rfl

theorem roomListIgnoresUsers : (∀ gameUsers, roomListReplica.Ignores (.fullUserList gameUsers)) ∧
    (∀ gameUser, roomListReplica.Ignores (.addUser gameUser)) ∧ ∀ userID, roomListReplica.Ignores (.removeUser userID) :=
  ⟨fun _ => Replica.ignoresOf rfl fun _ => rfl,fun _ => Replica.ignoresOf rfl fun _ => rfl,
    fun _ => Replica.ignoresOf rfl fun _ => rfl⟩

end Packets

end CsoMaster
