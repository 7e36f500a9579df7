import CsoMaster.ListPackets
import CsoMaster.Outlook
import CsoMaster.PacketFields
import CsoMaster.ServerEffects

/-! The packets that hand a match over: what the new host gets, with the save data and those
that play on, and what the other participants get. A client reads back from the first of them
just what was put in, and no other packet of a user that goes is one of them. -/
namespace CsoMaster
open Packet ByteOrder Cursor Reader

def PacketID_Host : UInt8 := 68
def Packet_HostType_HostJoin : UInt8 := 1
def Packet_HostType_HostRestart : UInt8 := 2

def saveDataWrites (gameMatchUsers : List UInt32) (saveData : Bytes) : List Write :=
  chosen (!saveData.isEmpty) ([.arrayUInt8 saveData,.uint8 (UInt8.ofNat gameMatchUsers.length)] ++
    gameMatchUsers.map (.uint32 .little))

-- `SendPacket_Host_HostRestart` for the room's host, and for the others with its crashFlag.
def hostRestartPacket (roomHostUserID : UInt32) (gameMatchUsers : List UInt32) (saveData : Bytes) : Packet :=
  build [PacketID_Host] ([.uint8 Packet_HostType_HostRestart,.uint32 .little roomHostUserID,
    .uint16 .little (UInt16.ofNat saveData.length)] ++ saveDataWrites gameMatchUsers saveData)

def guestRestartPacket (roomHostUserID : UInt32) : Packet :=
  build [PacketID_Host] [.uint8 Packet_HostType_HostRestart,.uint32 .little roomHostUserID,.uint8 1]

def hostJoinPacket (userID : UInt32) : Packet :=
  build [PacketID_Host] [.uint8 Packet_HostType_HostJoin,.uint32 .little userID]

def Message.restartPacket : Message → Option Packet
  | .hostRestart roomHostUserID gameMatchUsers saveData => some (hostRestartPacket roomHostUserID gameMatchUsers saveData)
  | .guestRestart roomHostUserID => some (guestRestartPacket roomHostUserID)
  | .hostJoin userID => some (hostJoinPacket userID)
  | _ => none

structure HostRestart where
  packetID : UInt8
  type : UInt8
  roomHostUserID : UInt32
  saveData : Bytes
  gameMatchUsers : List UInt32
  deriving DecidableEq, Repr

def readSaveData (saveSize : UInt16) : Reader (Bytes × List UInt32) := do
  if saveSize = 0 then return ([],[])
  let saveData ← readArray uint8 saveSize.toNat
  let count ← uint8
  return (saveData,← readArray uint32 count.toNat)

-- What the new host makes of the packet.
def readHostRestart : Reader HostRestart := do
  let packetID ← uint8
  let type ← uint8
  let roomHostUserID ← uint32
  let saveSize ← uint16
  let saved ← readSaveData saveSize
  return ⟨packetID,type,roomHostUserID,saved.1,saved.2⟩

section Packets
variable {roomHostUserID : UInt32} {gameMatchUsers : List UInt32} {saveData : Bytes}

theorem hostRestartLength : (hostRestartPacket roomHostUserID gameMatchUsers saveData).writeHeader.buffer.length =
    12 + if saveData = [] then 0 else saveData.length + 1 + 4 * gameMatchUsers.length := by
  have users : ((gameMatchUsers.map (Write.uint32 .little)).flatMap Write.bytes).length = 4 * gameMatchUsers.length := by
    induction gameMatchUsers with
    | nil => rfl
    | cons userID gameMatchUsers ih =>
      rw [List.map_cons,List.flatMap_cons,List.length_append,ih,Write.bytes,encodeLength,List.length_cons]
      omega
  rw [hostRestartPacket,builtLength]
  cases saveData with
  | nil => simp [saveDataWrites,chosen,Write.bytes,encodeLength]
  | cons b saveData =>
    simp [saveDataWrites,chosen,Write.bytes,encodeLength] at users ⊢
    omega

-- A match has fewer than 256 participants, so the largest save data there are still fit.
theorem hostRestartEnqueued (small : saveData.length ≤ 51200) (few : gameMatchUsers.length ≤ 255) :
    Enqueued (hostRestartPacket roomHostUserID gameMatchUsers saveData) := by
  rw [Enqueued,hostRestartLength,TCP_PACKET_MAX_SIZE]
  split <;> omega

theorem guestRestartEnqueued : Enqueued (guestRestartPacket roomHostUserID) := by
  rw [Enqueued,guestRestartPacket,builtLength,TCP_PACKET_MAX_SIZE]
  simp [Write.bytes,encodeLength]

theorem hostJoinEnqueued : Enqueued (hostJoinPacket roomHostUserID) := by
  rw [Enqueued,hostJoinPacket,builtLength,TCP_PACKET_MAX_SIZE]
  simp [Write.bytes,encodeLength]

theorem saveDataReads (small : saveData.length < 2 ^ 16) (few : gameMatchUsers.length < 2 ^ 8) :
    Reads (readSaveData (UInt16.ofNat saveData.length)) ((saveDataWrites gameMatchUsers saveData).flatMap Write.bytes)
      (saveData,if saveData = [] then [] else gameMatchUsers) := by
  by_cases empty : saveData = []
  · subst empty
    exact .pure _
  · have sized : (UInt16.ofNat saveData.length).toNat = saveData.length := UInt16.toNat_ofNat_of_lt' small
    have counted : (UInt8.ofNat gameMatchUsers.length).toNat = gameMatchUsers.length := UInt8.toNat_ofNat_of_lt' few
    have given : UInt16.ofNat saveData.length ≠ 0 := by
      intro zero
      rw [zero] at sized
      exact empty (List.length_eq_zero_iff.mp sized.symm)
    have data := (FieldBuffer.arrayReads uint8Reads saveData).cast (List.flatMap_singleton' saveData)
    have users := FieldBuffer.arrayReads uint32Reads gameMatchUsers
    rw [← sized] at data
    rw [← counted] at users
    rw [readSaveData,if_neg given,if_neg empty]
    refine Reads.cast (data.bind ((uint8Reads (UInt8.ofNat gameMatchUsers.length)).bind (users.bind (.pure _)))) ?_
    simp [saveDataWrites,chosen,empty,Write.bytes,List.flatMap_map]

theorem hostRestartReads (small : saveData.length < 2 ^ 16) (few : gameMatchUsers.length < 2 ^ 8) :
    Reads readHostRestart (hostRestartPacket roomHostUserID gameMatchUsers saveData).buffer
      ⟨PacketID_Host,Packet_HostType_HostRestart,roomHostUserID,saveData,if saveData = [] then [] else gameMatchUsers⟩ := by
  have whole : (hostRestartPacket roomHostUserID gameMatchUsers saveData).buffer = [PacketID_Host] ++ _ :=
    writesBuffer (createServerUnframed [PacketID_Host]) _
  refine Reads.cast ((uint8Reads PacketID_Host).bind ((uint8Reads Packet_HostType_HostRestart).bind
    ((uint32Reads roomHostUserID).bind ((uint16Reads (UInt16.ofNat saveData.length)).bind
      ((saveDataReads small few).bind (.pure _)))))) ?_
  rw [whole]
  simp [Write.bytes]

end Packets

namespace State
open DatabaseManager

-- The packets of this kind that were sent, and the connections they were sent on.
def restarts (s : State) : List (ConnectionRef × Packet) :=
  s.sent.filterMap fun entry => entry.2.restartPacket.map (entry.1,·)

section Frame
variable {s : State} {message : Message}

theorem foldRestarts {α : Type} {f : State → α → State} (same : ∀ s a, (f s a).restarts = s.restarts) (as : List α) :
    (as.foldl f s).restarts = s.restarts := by
  induction as generalizing s with
  | nil => rfl
  | cons a as ih => rw [List.foldl_cons,ih,same]

theorem sendRestarts (plain : message.restartPacket = none) (c : ConnectionRef) : (s.send c message).restarts = s.restarts := by
  unfold send
  split
  · simp [restarts,plain]
  · rfl

theorem sendToRestarts (plain : message.restartPacket = none) (u : UserRef) : (s.sendTo u message).restarts = s.restarts :=
  sendRestarts plain _

theorem sendAllRestarts (plain : message.restartPacket = none) (us : List UserRef) :
    (s.sendAll us message).restarts = s.restarts :=
  foldRestarts (fun _ _ => sendToRestarts plain _) us

theorem tellRestarts (plain : message.restartPacket = none) (u : UserRef) (r : RoomRef) :
    (s.tell u r message).restarts = s.restarts := by
  unfold tell
  split
  · simp [restarts,plain]
  · rfl

theorem tellAllRestarts (plain : message.restartPacket = none) (us : List UserRef) (r : RoomRef) :
    (s.tellAll us r message).restarts = s.restarts :=
  foldRestarts (fun _ _ => tellRestarts plain _ r) us

theorem gameUsersRestarts (us : List UserRef) : (s.gameUsers us).2.restarts = s.restarts := by
  induction us generalizing s with
  | nil => rfl
  | cons u us ih => exact ih (s := (s.getUserCharacter u USERCHARACTER_FLAG_ALL).2)

end Frame

section Rooms
variable (s : State) (r : RoomRef) (u : UserRef)

theorem sendAddUserPacketToAllRestarts : (s.sendAddUserPacketToAll u).restarts = s.restarts := by
  dsimp only [sendAddUserPacketToAll]
  split
  · rfl
  · exact sendAllRestarts rfl _

theorem showLobbyRestarts : (s.showLobby u).restarts = s.restarts := by
  dsimp only [showLobby,sendFullRoomListPacket,sendFullUserListPacket]
  rw [sendRestarts rfl,sendRestarts rfl,gameUsersRestarts,sendToRestarts rfl,sendAddUserPacketToAllRestarts]

theorem farewellRestarts : (s.farewell u).restarts = s.restarts := by
  unfold farewell
  split
  · exact sendAllRestarts rfl _
  · rfl

theorem seeOffRestarts : (s.seeOff r u).restarts = s.restarts := by
  have out : (s.takeOut r u).restarts = s.restarts := sendAllRestarts rfl _
  exact (tellAllRestarts rfl _ r).trans out

theorem updateRoomHostUserRestarts : (s.updateRoomHostUser r u).restarts = s.restarts := tellAllRestarts rfl _ r

theorem dropUserRestarts : (s.dropUser u).restarts = s.restarts := by
  dsimp only [dropUser,updateChannelNumPlayers]
  split <;> rfl

end Rooms

section HandOver
variable (s : State) (r : RoomRef) (m : GameMatch) (newRoomHostUser : UserRef)

-- What is sent when a match goes on with `others` under one of its participants.
def handOver (newRoomHostUser : UserRef) (others : List UserRef) (saveData : Bytes) : List (ConnectionRef × Packet) :=
  let newRoomHostUserID := (s.lobby.user newRoomHostUser).userID
  ((s.lobby.user newRoomHostUser).connection,
      hostRestartPacket newRoomHostUserID (others.map fun v => (s.lobby.user v).userID) saveData) ::
    others.flatMap fun v =>
      [((s.lobby.user v).connection,guestRestartPacket newRoomHostUserID),
        ((s.lobby.user v).connection,hostJoinPacket newRoomHostUserID)]

-- As far as the connections are open.
def handedOver (newRoomHostUser : UserRef) (others : List UserRef) (saveData : Bytes) : List (ConnectionRef × Packet) :=
  (s.handOver newRoomHostUser others saveData).filter fun sent => (s.connection sent.1).isOpen

theorem handedOverSame {s t : State} (ids : ∀ v, (t.lobby.user v).userID = (s.lobby.user v).userID)
    (connections : ∀ v, (t.lobby.user v).connection = (s.lobby.user v).connection) (same : t.connection = s.connection)
    (newRoomHostUser : UserRef) (others : List UserRef) (saveData : Bytes) :
    t.handedOver newRoomHostUser others saveData = s.handedOver newRoomHostUser others saveData := by
  simp only [handedOver,handOver,ids,connections,same]

theorem handOverEnqueued {s : State} {newRoomHostUser : UserRef} {others : List UserRef} {saveData : Bytes}
    (small : saveData.length ≤ 51200) (few : others.length ≤ 255) :
    ∀ sent ∈ s.handOver newRoomHostUser others saveData, Enqueued sent.2 := by
  intro sent mem
  simp only [handOver,List.mem_cons,List.mem_flatMap,List.not_mem_nil,or_false] at mem
  rcases mem with same | ⟨v,-,same | same⟩
  · simp only [same]
    exact hostRestartEnqueued small (by rwa [List.length_map])
  · simp only [same]
    exact guestRestartEnqueued
  · simp only [same]
    exact hostJoinEnqueued

theorem sendToGiven {message : Message} {p : Packet} (given : message.restartPacket = some p) (u : UserRef) :
    (s.sendTo u message).restarts = s.restarts ++ [((s.lobby.user u).connection,p)].filter fun sent => (s.connection sent.1).isOpen := by
  unfold sendTo send
  split
  · rename_i isOpen
    simp [restarts,given,isOpen]
  · rename_i shut
    simp [shut]

theorem sendToConnection (u : UserRef) (message : Message) : (s.sendTo u message).connection = s.connection :=
  congrArg Outlook.connection (s.sendToOutlook u message)

theorem guestsRestarts (userID : UInt32) (others : List UserRef) :
    (others.foldl (fun s v => (s.sendTo v (.guestRestart userID)).sendTo v (.hostJoin userID)) s).restarts =
      s.restarts ++ (others.flatMap fun v =>
        [((s.lobby.user v).connection,guestRestartPacket userID),((s.lobby.user v).connection,hostJoinPacket userID)]).filter
          fun sent => (s.connection sent.1).isOpen := by
  induction others generalizing s with
  | nil => simp
  | cons v others ih =>
    rw [List.foldl_cons,ih,sendToGiven _ rfl,sendToGiven _ rfl]
    simp only [sendToConnection,sendToLobby,List.flatMap_cons,List.filter_append,List.append_assoc]
    rw [← List.append_assoc ([_].filter _),← List.filter_append]
    rfl

theorem sendHostRestartRestarts : (s.sendHostRestart m newRoomHostUser).restarts =
    s.restarts ++ s.handedOver newRoomHostUser (m.participants.filter (· ≠ newRoomHostUser)) m.saveData := by
  dsimp only [sendHostRestart]
  rw [guestsRestarts,sendToGiven _ rfl]
  simp only [sendToConnection,sendToLobby,List.append_assoc]
  rw [← List.filter_append]
  rfl

theorem migrateRestarts : (s.migrate r m newRoomHostUser).restarts =
    s.restarts ++ s.handedOver newRoomHostUser (m.participants.filter (· ≠ newRoomHostUser)) m.saveData := by
  have restarted : ((s.updateRoomHostUser r newRoomHostUser).sendHostRestart m newRoomHostUser).restarts =
      s.restarts ++ s.handedOver newRoomHostUser (m.participants.filter (· ≠ newRoomHostUser)) m.saveData := by
    have same : (s.updateRoomHostUser r newRoomHostUser).connection = s.connection :=
      congrArg Outlook.connection (s.updateRoomHostUserOutlook r newRoomHostUser)
    rw [sendHostRestartRestarts,updateRoomHostUserRestarts,handedOverSame _ _ same]
    · simp [Lobby.setRoom]
    · simp [Lobby.setRoom]
  dsimp only [migrate]
  split
  · exact restarted
  · exact restarted

end HandOver

section Leaving
variable {s : State} {r : RoomRef} {u next : UserRef} {m : GameMatch} {others : List UserRef}

-- The first of the others that take part in the match.
theorem firstLeft (alone : m.participants.Nodup) (remain : m.participants.filter (· ≠ u) = next :: others) :
    (m.removeGameMatchUser u).participants = next :: others ∧
      (m.removeGameMatchUser u).participants.filter (· ≠ next) = others ∧
        ∃ seat seats, (m.removeGameMatchUser u).gameMatchUsers = seat :: seats ∧ seat.user = next := by
  have left : (m.removeGameMatchUser u).participants = next :: others := by
    rw [participantsRemove,alone.erase_eq_filter,← remain]
    exact List.filter_congr fun v _ => Bool.eq_iff_iff.mpr (by simp)
  have once : (next :: others).Nodup := remain ▸ alone.filter _
  refine ⟨left,?_,?_⟩
  · rw [left,List.filter_cons_of_neg (by simp),List.filter_eq_self.mpr]
    intro v mem
    simpa using fun same : v = next => (List.nodup_cons.mp once).1 (same ▸ mem)
  · cases seats : (m.removeGameMatchUser u).gameMatchUsers with
    | nil =>
      rw [GameMatch.participants,seats] at left
      cases left
    | cons seat rest =>
      rw [GameMatch.participants,seats] at left
      exact ⟨seat,rest,rfl,(List.cons.inj left).1⟩

theorem removeRoomUserRestarts (sound : (s.lobby.room r).Sound) (host : (s.lobby.room r).roomHostUser = u)
    (playing : (s.lobby.room r).gameMatch = some m) (remain : m.participants.filter (· ≠ u) = next :: others) :
    (s.removeRoomUser r u).restarts = s.restarts ++ s.handedOver next others m.saveData ∧
      ((s.removeRoomUser r u).lobby.room r).roomHostUser = next := by
  have alone : m.participants.Nodup := Room.participantsOf playing ▸ sound.seatsNodup
  obtain ⟨taken,rest,seat,seats,list,rfl⟩ := firstLeft alone remain
  have stays : seat.user ∈ (s.lobby.room r).roomUsers.erase u := by
    have among : seat.user ∈ m.participants.filter (· ≠ u) := remain ▸ List.mem_cons_self
    obtain ⟨mem,other⟩ := List.mem_filter.mp among
    refine (List.mem_erase_of_ne (by simpa using other)).mpr (sound.seated _ ?_)
    rwa [Room.participantsOf playing]
  have room : (s.seeOff r u).lobby.room r = (s.lobby.room r).withoutUser u := by
    rw [seeOffLobby,takeOutLobby]
    exact roomSet r s.lobby _
  have match' : ((s.seeOff r u).lobby.room r).gameMatch = some (m.removeGameMatchUser u) := by
    rw [room,Room.withoutUser,playing]
    rfl
  cases left : (s.lobby.room r).roomUsers.erase u with
  | nil =>
    rw [left] at stays
    cases stays
  | cons first users =>
    have goes : s.removeRoomUser r u = (s.seeOff r u).migrate r (m.removeGameMatchUser u) seat.user := by
      rw [removeRoomUserOthers left,if_pos host]
      simp only [hostLeft,match',list]
    constructor
    · have ids (v : UserRef) : ((s.seeOff r u).lobby.user v).userID = (s.lobby.user v).userID ∧
          ((s.seeOff r u).lobby.user v).connection = (s.lobby.user v).connection := by
        rw [seeOffLobby,takeOutLobby]
        by_cases self : v = u
        · subst self; simp [Lobby.backToLobby,Lobby.setUser,Lobby.setRoom,User.backToLobby]
        · simp [Lobby.backToLobby,Lobby.setUser,Lobby.setRoom,self]
      have same : (s.seeOff r u).connection = s.connection :=
        congrArg Outlook.connection (show (s.seeOff r u).outlook = s.outlook by simp [seeOff,takeOut])
      rw [goes,migrateRestarts,seeOffRestarts,rest,handedOverSame (fun v => (ids v).1) (fun v => (ids v).2) same]
      rfl
    · rw [goes,migrateLobby _ _ _ match']
      exact congrArg Room.roomHostUser (roomSet r (s.seeOff r u).lobby _)

theorem returnUserRestarts (sound : (s.lobby.room r).Sound) (host : (s.lobby.room r).roomHostUser = u)
    (playing : (s.lobby.room r).gameMatch = some m) (remain : m.participants.filter (· ≠ u) = next :: others) :
    (s.returnUser u r m).restarts = s.restarts ++ s.handedOver next others m.saveData ∧
      ((s.returnUser u r m).lobby.room r).roomHostUser = next := by
  have alone : m.participants.Nodup := Room.participantsOf playing ▸ sound.seatsNodup
  obtain ⟨-,rest,seat,seats,list,rfl⟩ := firstLeft alone remain
  let left := s.setLobby (s.lobby.setRoom r { s.lobby.room r with gameMatch := some (m.removeGameMatchUser u) })
  have room : left.lobby.room r = { s.lobby.room r with gameMatch := some (m.removeGameMatchUser u) } := roomSet r s.lobby _
  have goes : s.returnUser u r m = (left.migrate r (m.removeGameMatchUser u) seat.user).setUserStatus u .InRoom := by
    have returned : s.returnUser u r m = (left.hostReturned r (m.removeGameMatchUser u)).setUserStatus u .InRoom := by
      have hosts : u = (left.lobby.room r).roomHostUser := by rw [room,host]
      dsimp only [returnUser]
      rw [if_pos hosts]
    rw [returned,hostReturned,list]
  constructor
  · have handed := migrateRestarts left r (m.removeGameMatchUser u) seat.user
    rw [rest] at handed
    rw [goes]
    exact handed
  · rw [goes]
    change ((left.migrate r (m.removeGameMatchUser u) seat.user).lobby.room r).roomHostUser = seat.user
    rw [migrateLobby _ _ _ (congrArg Room.gameMatch room)]
    exact congrArg Room.roomHostUser (roomSet r left.lobby _)

theorem removeUserRestarts (sound : (s.lobby.room r).Sound) (host : (s.lobby.room r).roomHostUser = u)
    (playing : (s.lobby.room r).gameMatch = some m) (remain : m.participants.filter (· ≠ u) = next :: others)
    (found : s.lobby.getRoomByRoomID (s.lobby.user u).currentRoomID = some r) :
    (s.removeUser u).restarts = s.restarts ++ s.handedOver next others m.saveData ∧
      ((s.removeUser u).lobby.room r).roomHostUser = next := by
  have same := s.farewellLobby u
  have connections : (s.farewell u).connection = s.connection := by
    unfold farewell
    split
    · exact congrArg Outlook.connection (s.sendRemoveUserPacketToAllOutlook u)
    · rfl
  rw [← same] at sound host playing
  obtain ⟨sent,hosts⟩ := removeRoomUserRestarts sound host playing remain
  rw [removeUserEq,leaveLobbyInside found]
  constructor
  · rw [dropUserRestarts,sent,farewellRestarts,handedOverSame (fun v => by rw [same]) (fun v => by rw [same]) connections]
  · rw [dropUserLobby]
    exact hosts

end Leaving
end State
end CsoMaster
