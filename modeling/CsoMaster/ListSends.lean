import CsoMaster.Deliveries
import CsoMaster.ListPackets
import CsoMaster.RoomMembership

/-! Whether the lists get through, over whole runs. Every list the server sends has its records
whole, so that it is the names in them alone that decide; a room's name has no bound of its own,
and one of them can stop the room list for everybody. -/
namespace CsoMaster
open Runs

-- The lists among the packets, and their records with every field in them.
def Message.whole : Message → Prop
  | .fullUserList gameUsers => ∀ gameUser ∈ gameUsers, gameUser.userCharacter.flag = USERCHARACTER_FLAG_ALL
  | .fullRoomList _ flag => flag = ROOMLIST_FLAG_ALL
  | _ => True

def Message.listEnqueued (ip : UInt32) (port : UInt16) : Message → Prop
  | .fullUserList gameUsers => Enqueued (fullUserListPacket gameUsers)
  | .fullRoomList rooms flag => Enqueued (fullRoomListPacket ip port rooms flag)
  | _ => True

-- What the header, the counts and the packet type leave for the records.
def LIST_RECORDS_MAX_SIZE : Nat := TCP_PACKET_MAX_SIZE - 8

def Message.listShort : Message → Prop
  | .fullUserList gameUsers => (gameUsers.map GameUser.size).sum ≤ LIST_RECORDS_MAX_SIZE
  | .fullRoomList rooms _ => (rooms.map RoomInfo.size).sum ≤ LIST_RECORDS_MAX_SIZE
  | _ => True

theorem Message.wholeUncounted {m : Message} (plain : m.counted = false) : m.whole := by
  cases m with
  | fullUserList | fullRoomList => cases plain
  | _ => trivial

theorem Message.listEnqueuedIff {m : Message} (whole : m.whole) (ip : UInt32) (port : UInt16) :
    m.listEnqueued ip port ↔ m.listShort := by
  cases m with
  | fullUserList gameUsers =>
    simp only [listEnqueued,listShort,Enqueued,LIST_RECORDS_MAX_SIZE,fullUserListLength whole,TCP_PACKET_MAX_SIZE]
    omega
  | fullRoomList rooms flag =>
    cases show flag = ROOMLIST_FLAG_ALL from whole
    simp only [listEnqueued,listShort,Enqueued,LIST_RECORDS_MAX_SIZE,fullRoomListLength,TCP_PACKET_MAX_SIZE]
    omega
  | _ => exact Iff.rfl

namespace State
open DatabaseManager ByteOrder Cursor Reader

section Whole

theorem getUserCharacterFlag (userID : UInt32) (flag : UInt16) (d : Store) :
    (DatabaseManager.getUserCharacter userID flag d).1.userCharacter.flag = flag := by
  unfold DatabaseManager.getUserCharacter
  dsimp only [bind,StateT.bind]
  generalize select _ d = found
  obtain ⟨_ | _ | row,_⟩ := found <;> rfl

theorem gameUsersWhole (s : State) (us : List UserRef) {gameUser : GameUser} (mem : gameUser ∈ (s.gameUsers us).1) :
    gameUser.userCharacter.flag = USERCHARACTER_FLAG_ALL := by
  induction us generalizing s with
  | nil => cases mem
  | cons u us ih =>
    dsimp only [gameUsers] at mem
    split at mem
    · rcases List.mem_cons.mp mem with rfl | mem
      · exact getUserCharacterFlag _ _ _
      · exact ih _ mem
    · exact ih _ mem

theorem userListWhole (s : State) : s.userListNow.whole := fun _ mem => s.gameUsersWhole _ mem

theorem roomListWhole (s : State) : s.roomListNow.whole := rfl

end Whole

-- What is sent between two states, as far as it is a list, is whole.
def Sends (s t : State) : Prop := ∃ more, t.sent = s.sent ++ more ∧ ∀ entry ∈ more, entry.2.whole

section Sends
variable {s t m : State}

theorem Sends.refl (s : State) : Sends s s := ⟨[],by simp⟩

theorem Sends.trans (left : Sends s m) (right : Sends m t) : Sends s t := by
  obtain ⟨first,before,whole⟩ := left
  obtain ⟨second,after,also⟩ := right
  refine ⟨first ++ second,by rw [after,before,List.append_assoc],fun entry mem => ?_⟩
  exact (List.mem_append.mp mem).elim (whole entry) (also entry)

theorem wholeDelivery : Delivery (fun _ => True) Message.whole where
  setUser _ _ _ _ := trivial
  setRoom _ _ _ _ _ := trivial
  eraseUser _ _ _ := trivial
  eraseRoom _ _ _ := trivial
  eraseRooms _ _ := trivial
  plain _ plain := Message.wholeUncounted plain
  userList s _ := s.userListWhole
  roomList s _ := s.roomListWhole
  room _ _ _ _ := ⟨trivial,trivial⟩
  reply _ _ _ _ _ _ _ _ := trivial
  restart _ _ _ _ _ _ _ _ := trivial

theorem stepSends (s : State) (e : Event) : Sends s (s.step e) := by
  have entered : Sends s (s.enter e.environment) := Sends.refl s
  refine Effects.invariant (fun _ _ before effect => before.trans ?_) (stepEffects s e) entered
  exact (effectDelivers wholeDelivery (fun _ _ done => done.1) trivial (fun _ _ _ => trivial) effect trivial).2

end Sends

-- Every statement is answered with the rows that the tables have now.
def onOwnRows (s : State) : State := { s with store := { s.store with statements := [] } }

-- The lists that would be built now, and all that have been, with whatever rows their statements found.
structure ListsEnqueued (s : State) : Prop where
  users : s.onOwnRows.userListNow.listEnqueued s.serverConfig.ip s.serverConfig.port
  rooms : s.roomListNow.listEnqueued s.serverConfig.ip s.serverConfig.port
  sent : ∀ entry ∈ s.sent, entry.2.listEnqueued s.serverConfig.ip s.serverConfig.port

structure ListsShort (s : State) : Prop where
  users : s.onOwnRows.userListNow.listShort
  rooms : s.roomListNow.listShort
  sent : ∀ entry ∈ s.sent, entry.2.listShort

def SentWhole (s : State) : Prop := ∀ entry ∈ s.sent, entry.2.whole

theorem SentWhole.sends {s t : State} (whole : s.SentWhole) (sends : Sends s t) : t.SentWhole := by
  obtain ⟨more,sent,also⟩ := sends
  intro entry mem
  rw [sent] at mem
  exact (List.mem_append.mp mem).elim (whole entry) (also entry)

theorem SentWhole.listsEnqueued {s : State} (whole : s.SentWhole) : s.ListsEnqueued ↔ s.ListsShort := by
  have users := Message.listEnqueuedIff s.onOwnRows.userListWhole s.serverConfig.ip s.serverConfig.port
  have rooms := Message.listEnqueuedIff s.roomListWhole s.serverConfig.ip s.serverConfig.port
  have sent (entry) (mem : entry ∈ s.sent) := Message.listEnqueuedIff (whole entry mem) s.serverConfig.ip s.serverConfig.port
  constructor
  · intro through
    exact ⟨users.mp through.users,rooms.mp through.rooms,fun entry mem => (sent entry mem).mp (through.sent entry mem)⟩
  · intro short
    exact ⟨users.mpr short.users,rooms.mpr short.rooms,fun entry mem => (sent entry mem).mpr (short.sent entry mem)⟩

theorem listPackets (serverConfig : ChannelConfig) (database : Database) (environment : Environment) (time : Nat)
    (events : List Event) :
    Always step ListsEnqueued (start serverConfig database environment time) events ↔
      Always step ListsShort (start serverConfig database environment time) events := by
  have whole : Always step SentWhole (start serverConfig database environment time) events :=
    alwaysOfEach (fun s e before _ => before.sends (stepSends s e))
      (fun _ mem => by cases mem) (eachTrue _ _)
  exact alwaysCongr (fun _ => SentWhole.listsEnqueued) whole

instance : DecidablePred Message.listShort := fun m => by unfold Message.listShort; split <;> infer_instance

instance (s : State) : Decidable s.ListsShort :=
  decidable_of_iff (s.onOwnRows.userListNow.listShort ∧ s.roomListNow.listShort ∧ ∀ entry ∈ s.sent, entry.2.listShort)
    ⟨fun ⟨users,rooms,sent⟩ => ⟨users,rooms,sent⟩,fun short => ⟨short.users,short.rooms,short.sent⟩⟩

def comes : List Event := [connects,arrives 0 (transferLoginBody "one")]

-- With a user in the lobby that is on the list.
theorem listPacketsComes : (run step sampleStart comes).usersInLobby = [0] ∧ Always step ListsEnqueued sampleStart comes := by
  have last : (run step sampleStart comes).ListsShort := by decide +kernel
  refine ⟨by decide +kernel,(listPackets sampleChannel sampleTables sampleEnvironment 0 comes).mpr ?_⟩
  exact ⟨by decide +kernel,by decide +kernel,last⟩

section Overflow

def ShortNames (s : State) : Prop :=
  (∀ u ∈ s.lobby.users, (s.lobby.user u).userName.length ≤ 16) ∧
    ∀ row ∈ s.store.database.userCharacters.entries, row.2.nickName.length ≤ 16

instance (s : State) : Decidable s.ShortNames := inferInstanceAs (Decidable (_ ∧ _))

def namedRoomBody (roomName : Bytes) : Bytes := [65] ++ ([0] ++ (roomName ++ [0] ++ [0,16,1,1,10,0,0,3,3,0,0,0,0]))

def entered : State := (run step sampleStart comes).enter sampleEnvironment

theorem namedRoomRead {roomName : Bytes} (clean : 0 ∉ roomName) :
    ∃ p, (received (namedRoomBody roomName)).readUInt8 = (65,p) ∧ ∃ q, p.readUInt8 = (0,q) ∧ q.readString.1 = roomName := by
  have ahead : rest (received (namedRoomBody roomName)) = namedRoomBody roomName := rfl
  refine ⟨_,uint8Reads 65 _ _ ahead,_,uint8Reads 0 _ (roomName ++ [0] ++ [0,16,1,1,10,0,0,3,3,0,0,0,0]) rfl,?_⟩
  exact congrArg Prod.fst (stringReads clean _ [0,16,1,1,10,0,0,3,3,0,0,0,0] rfl)

theorem addRoomRuns {d : Store} (undisturbed : d.statements = []) (empty : d.database.rooms = []) (row : RoomRow) :
    (addRoom row d).1 = 1 ∧ (addRoom row d).2.database.userCharacters = d.database.userCharacters := by
  obtain ⟨database,statements⟩ := d
  cases undisturbed
  have rooms : database.rooms = [] := empty
  unfold addRoom
  simp [bind,StateT.bind,select,query,execute,rooms,pureRuns]

theorem roomAddedStore {s : State} (u : UserRef) (newRoom : Room) (userCharacter : UserCharacter) (fastStart : Bool) :
    (s.roomAdded u newRoom userCharacter fastStart).store = s.store := by
  dsimp only [roomAdded,sendTo,sendAddRoomPacketToAll]
  split
  · rw [sendStore,tellStore,sendAllStore]
    rfl
  · rw [tellStore,sendAllStore]
    rfl

def approached : State := (entered.admitCreateRoom 0).2.approachRoom 0

-- The first user in the lobby opens the first room, whatever it is called.
theorem namedRoomOpened {roomName : Bytes} (clean : 0 ∉ roomName) :
    ∃ newRoom, newRoom.roomSettings.roomName = roomName ∧
      let t := entered.parsePacket 0 (received (namedRoomBody roomName))
      t.lobby = approached.lobby.addRoom newRoom ∧
        t.store.database.userCharacters = approached.store.database.userCharacters := by
  obtain ⟨p,first,q,second,named⟩ := namedRoomRead clean
  let newRoom := (entered.admitCreateRoom 0).2.opened 0
    (readCreateRoom (Room.new entered.lobby.getFreeRoomID 0).roomSettings q).1.1
  refine ⟨newRoom,named,?_⟩
  have loggedIn : entered.loggedIn 0 = some 0 := by decide +kernel
  have admitted : (entered.admitCreateRoom 0).1.isSome = true := by decide +kernel
  obtain ⟨userCharacter,given⟩ := Option.isSome_iff_exists.mp admitted
  have undisturbed : approached.store.statements = [] := List.isEmpty_iff.mp (by decide +kernel)
  have empty : approached.store.database.rooms = [] := List.isEmpty_iff.mp (by decide +kernel)
  have room := addRoomRuns undisturbed empty (approached.roomRow newRoom)
  have added : ¬ (approached.sql (addRoom (approached.roomRow newRoom))).1 ≤ 0 := by
    rw [sql,room.1]
    decide
  have opens : entered.parsePacket 0 (received (namedRoomBody roomName)) =
      (approached.sql (addRoom (approached.roomRow newRoom))).2.roomAdded 0 newRoom userCharacter
        (readCreateRoom (Room.new entered.lobby.getFreeRoomID 0).roomSettings q).1.2 := by
    simp only [parsePacket,first,packetID,parsePacket_Room,roomPacket,loggedIn,Option.map_some,second,
      parsePacket_Room_CreateRoom,given,openRoomEq]
    exact if_neg added
  rw [opens]
  dsimp only
  rw [roomAddedLobby,roomAddedStore]
  exact ⟨rfl,room.2⟩

theorem stepArrives {s : State} {c : ConnectionRef} {body : Bytes} (accepted : c < s.accepted) :
    s.step (arrives c body) = (s.enter sampleEnvironment).parsePacket c (received body) := if_pos accepted

theorem longNames (length : Nat) : ∃ roomName : Bytes, 0 ∉ roomName ∧ roomName.length = length :=
  ⟨List.replicate length 97,fun mem => absurd (List.eq_of_mem_replicate mem) (by decide),List.length_replicate⟩

-- A frame takes a room name of 65500 bytes, and the user itself is all the names there are.
theorem longRoomName :
    ¬ ∀ serverConfig database environment time events, serverConfig.maxPlayers = 600 →
      Always step ShortNames (start serverConfig database environment time) events →
      Always step ListsEnqueued (start serverConfig database environment time) events := by
  intro always
  obtain ⟨roomName,clean,long⟩ := longNames 65500
  obtain ⟨newRoom,named,lobby,characters⟩ := namedRoomOpened clean
  have stepped : run step sampleStart (comes ++ [arrives 0 (namedRoomBody roomName)]) =
      entered.parsePacket 0 (received (namedRoomBody roomName)) := by
    rw [runAppend,runCons,runNil,stepArrives (by decide +kernel)]
    rfl
  have short : ShortNames (run step sampleStart (comes ++ [arrives 0 (namedRoomBody roomName)])) := by
    have before : approached.ShortNames := by decide +kernel
    rw [stepped,ShortNames,lobby,characters]
    simp only [Lobby.addRoom]
    exact before
  have enters : (run step sampleStart comes).ShortNames := by decide +kernel
  have begun : Always step ShortNames sampleStart comes := ⟨by decide +kernel,by decide +kernel,enters⟩
  have last := alwaysLast (always sampleChannel sampleTables sampleEnvironment 0 _ rfl
    (alwaysSnoc begun short))
  have run : run step (start sampleChannel sampleTables sampleEnvironment 0) (comes ++ [arrives 0 (namedRoomBody roomName)]) =
      entered.parsePacket 0 (received (namedRoomBody roomName)) := stepped
  rw [run] at last
  have rooms := (Message.listEnqueuedIff (roomListWhole _) _ _).mp last.rooms
  have none : approached.lobby.rooms = [] := by decide +kernel
  simp only [roomListNow,Message.listShort,lobby,Lobby.addRoom,none,List.nil_append,List.map_cons,List.map_nil,List.sum_singleton,
    RoomInfo.size,roomInfo,Function.update_self,named,long,LIST_RECORDS_MAX_SIZE,TCP_PACKET_MAX_SIZE] at rooms
  omega

end Overflow

end State
end CsoMaster
