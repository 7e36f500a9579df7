import CsoMaster.HostRestart
import CsoMaster.RoomSettingsCodec
import CsoMaster.ServerConfigLoad

/-! Lists on the wire: a count that is cut to one byte or two, and the records after it. These are
the packets that have such lists, and where in their bytes the lists stand. -/
namespace CsoMaster
open Packet

inductive CountWidth where
  | byte
  | short
  deriving DecidableEq, Repr

-- `Write((unsigned char)list.size())` or `(unsigned short)`, and a loop over the list.
structure WireList where
  width : CountWidth
  records : List (List Write)

namespace WireList

def capacity : CountWidth → Nat
  | .byte => 255
  | .short => 65535

def counter (l : WireList) : Write :=
  match l.width with
  | .byte => .uint8 (UInt8.ofNat l.records.length)
  | .short => .uint16 .little (UInt16.ofNat l.records.length)

-- What a reader takes the counter for.
def count (l : WireList) : Nat :=
  match l.width with
  | .byte => (UInt8.ofNat l.records.length).toNat
  | .short => (UInt16.ofNat l.records.length).toNat

def writes (l : WireList) : List Write := l.counter :: l.records.flatten

def Exact (l : WireList) : Prop := l.count = l.records.length

theorem exactOf {l : WireList} (few : l.records.length ≤ capacity l.width) : l.Exact := by
  obtain ⟨width,records⟩ := l
  cases width with
  | byte => exact UInt8.toNat_ofNat_of_lt' (Nat.lt_succ_of_le few)
  | short => exact UInt16.toNat_ofNat_of_lt' (Nat.lt_succ_of_le few)

-- Somewhere in the bytes the list stands, counter and records.
def StandsIn (l : WireList) (bytes : Bytes) : Prop := ∃ front back, bytes = front ++ l.writes.flatMap Write.bytes ++ back

theorem standsIn {l : WireList} {front : Bytes} {calls : List Write} (built : l.writes = calls) (before : List Write) :
    l.StandsIn (build front (before ++ calls)).buffer := by
  refine ⟨front ++ before.flatMap Write.bytes,[],?_⟩
  have buffer : (build front (before ++ calls)).buffer = front ++ (before ++ calls).flatMap Write.bytes :=
    writesBuffer (createServerUnframed front) _
  rw [buffer,built,List.flatMap_append,List.append_nil,List.append_assoc]

-- A list in one of the records stands where the records do.
theorem StandsIn.inner {l inner : WireList} {bytes : Bytes} (stands : l.StandsIn bytes) {head : List Write}
    (mem : head ++ inner.writes ∈ l.records) : inner.StandsIn bytes := by
  obtain ⟨front,back,rfl⟩ := stands
  obtain ⟨before,after,records⟩ := List.append_of_mem mem
  refine ⟨front ++ l.counter.bytes ++ before.flatten.flatMap Write.bytes ++ head.flatMap Write.bytes,
    after.flatten.flatMap Write.bytes ++ back,?_⟩
  simp [writes,records]

end WireList

def PacketID_ServerList : UInt8 := 5
def PacketID_Room : UInt8 := 65
def Packet_RoomType_ReplyCreateAndJoin : UInt8 := 0

-- `buildRoomUserInfo`
def GameUser.roomWrites (gameUser : GameUser) : List Write :=
  [.uint32 .little gameUser.userID,.uint8 0,.uint8 0,.uint32 .little gameUser.userNetwork.externalIP,
    .uint16 .little gameUser.userNetwork.externalHostPort,.uint16 .little gameUser.userNetwork.externalGuestPort,
    .uint32 .little gameUser.userNetwork.localIP,.uint16 .little gameUser.userNetwork.localHostPort,
    .uint16 .little gameUser.userNetwork.localGuestPort] ++ gameUser.userCharacter.writes.flatten

def roomUserList (gameUsers : List GameUser) : WireList := ⟨.byte,gameUsers.map GameUser.roomWrites⟩

def replyCreateAndJoinPacket (hostUserID : UInt32) (roomID : UInt16) (roomSettings : RoomSettings) (gameUsers : List GameUser) :
    Packet :=
  build [PacketID_Room] ([.uint8 Packet_RoomType_ReplyCreateAndJoin,.uint32 .little hostUserID,.uint16 .little roomID,.uint8 0] ++
    (roomSettingsWrites roomSettings).flatten ++ (roomUserList gameUsers).writes)

section ServerList
variable (c : LoadedConfig)

-- What the configuration says of a server and of its channel; no function changes that.
def LoadedConfig.named (server : Server) : Option NamedServer := c.serverList.find? (·.id = server.id)

def LoadedConfig.channelName (server : Server) (channel : Channel) : Bytes :=
  (((c.named server).bind (·.channels.find? (·.id = channel.id))).map NamedChannel.name).getD []

def channelWrites (server : Server) (channel : Channel) : List Write :=
  [.uint8 channel.id,.string (c.channelName server channel),.uint16 .little channel.numPlayers]

def channelList (server : Server) : WireList := ⟨.byte,server.channels.map (channelWrites c server)⟩

def serverWrites (server : Server) : List Write :=
  [.uint8 server.id,.bool (server.status = .Ready),.uint8 (UInt8.ofInt (((c.named server).map NamedServer.type).getD 0)),
    .string (((c.named server).map NamedServer.name).getD [])] ++ (channelList c server).writes

def serverWireList (servers : List Server) : WireList := ⟨.byte,servers.map (serverWrites c)⟩

def serverListPacket (servers : List Server) : Packet := build [PacketID_ServerList] (serverWireList c servers).writes

end ServerList

def fullUserWireList (gameUsers : List GameUser) : WireList := ⟨.short,gameUsers.map GameUser.writes⟩

def fullRoomWireList (ip : UInt32) (port : UInt16) (rooms : List RoomInfo) (flag : UInt16) : WireList :=
  ⟨.short,rooms.map fun room => (room.writes ip port flag).flatten⟩

def saveDataList (saveData : Bytes) : WireList := ⟨.short,saveData.map fun b => [.uint8 b]⟩

def gameMatchUserList (gameMatchUsers : List UInt32) : WireList := ⟨.byte,gameMatchUsers.map fun userID => [.uint32 .little userID]⟩

namespace Message

section Lists
variable (c : LoadedConfig) (ip : UInt32) (port : UInt16)

-- The packets with lists, as they are built.
def listPacket : Message → Option Packet
  | .serverList servers => some (serverListPacket c servers)
  | .fullUserList gameUsers => some (fullUserListPacket gameUsers)
  | .fullRoomList rooms flag => some (fullRoomListPacket ip port rooms flag)
  | .replyCreateAndJoin hostUserID roomID roomSettings gameUsers =>
    some (replyCreateAndJoinPacket hostUserID roomID roomSettings gameUsers)
  | .hostRestart roomHostUserID gameMatchUsers saveData => some (hostRestartPacket roomHostUserID gameMatchUsers saveData)
  | _ => none

-- Each list in them, with the channels of every server.
def lists : Message → List WireList
  | .serverList servers => serverWireList c servers :: servers.map (channelList c)
  | .fullUserList gameUsers => [fullUserWireList gameUsers]
  | .fullRoomList rooms flag => [fullRoomWireList ip port rooms flag]
  | .replyCreateAndJoin _ _ _ gameUsers => [roomUserList gameUsers]
  | .hostRestart _ gameMatchUsers saveData =>
    saveDataList saveData :: chosen (!saveData.isEmpty) [gameMatchUserList gameMatchUsers]
  | _ => []

-- The rooms whose records are in a packet.
def rooms : Message → List RoomInfo
  | .fullRoomList rooms _ => rooms
  | .addRoom room _ | .updateRoom room _ => [room]
  | _ => []

theorem saveDataBytes (saveData : Bytes) : (saveDataList saveData).writes.flatMap Write.bytes =
    (Write.uint16 .little (UInt16.ofNat saveData.length)).bytes ++ saveData := by
  have bytes : (saveData.map fun b => [Write.uint8 b]).flatten.flatMap Write.bytes = saveData := by
    induction saveData with
    | nil => rfl
    | cons b saveData ih => simpa [Write.bytes] using ih
  have counter : (saveDataList saveData).counter = .uint16 .little (UInt16.ofNat saveData.length) := by
    simp [WireList.counter,saveDataList]
  rw [WireList.writes,List.flatMap_cons,counter]
  exact congrArg _ bytes

theorem gameMatchUserBytes (gameMatchUsers : List UInt32) : (gameMatchUserList gameMatchUsers).writes =
    .uint8 (UInt8.ofNat gameMatchUsers.length) :: gameMatchUsers.map (.uint32 .little) := by
  have users : (gameMatchUsers.map fun userID => [Write.uint32 .little userID]).flatten = gameMatchUsers.map (.uint32 .little) := by
    induction gameMatchUsers with
    | nil => rfl
    | cons userID gameMatchUsers ih => simpa using ih
  have counter : (gameMatchUserList gameMatchUsers).counter = .uint8 (UInt8.ofNat gameMatchUsers.length) := by
    simp [WireList.counter,gameMatchUserList]
  rw [WireList.writes,counter]
  exact congrArg _ users

theorem hostRestartStand (roomHostUserID : UInt32) (gameMatchUsers : List UInt32) (saveData : Bytes) :
    (saveDataList saveData).StandsIn (hostRestartPacket roomHostUserID gameMatchUsers saveData).buffer ∧
      (saveData ≠ [] → (gameMatchUserList gameMatchUsers).StandsIn (hostRestartPacket roomHostUserID gameMatchUsers saveData).buffer) := by
  have buffer : (hostRestartPacket roomHostUserID gameMatchUsers saveData).buffer = [PacketID_Host] ++ _ :=
    writesBuffer (createServerUnframed [PacketID_Host]) _
  let front := [PacketID_Host] ++ [Write.uint8 Packet_HostType_HostRestart,.uint32 .little roomHostUserID].flatMap Write.bytes
  constructor
  · refine ⟨front,(chosen (!saveData.isEmpty) (gameMatchUserList gameMatchUsers).writes).flatMap Write.bytes,?_⟩
    rw [buffer,saveDataBytes,gameMatchUserBytes]
    cases saveData <;> simp [front,saveDataWrites,chosen,Write.bytes]
  · intro given
    refine ⟨front ++ (saveDataList saveData).writes.flatMap Write.bytes,[],?_⟩
    rw [buffer,saveDataBytes,gameMatchUserBytes]
    simp [front,saveDataWrites,chosen,given,Write.bytes]

-- Every list is in its packet.
theorem listsStand {m : Message} {p : Packet} (built : m.listPacket c ip port = some p) : ∀ l ∈ m.lists c ip port, l.StandsIn p.buffer := by
  intro l mem
  cases m with
  | serverList servers =>
    obtain rfl := Option.some.inj built
    have whole : (serverWireList c servers).StandsIn (serverListPacket c servers).buffer := WireList.standsIn rfl []
    rcases List.mem_cons.mp mem with rfl | inner
    · exact whole
    · obtain ⟨server,listed,rfl⟩ := List.mem_map.mp inner
      exact whole.inner (List.mem_map_of_mem (f := serverWrites c) listed)
  | fullUserList gameUsers =>
    obtain rfl := Option.some.inj built
    obtain rfl := List.mem_singleton.mp mem
    refine WireList.standsIn ?_ [_]
    simp [fullUserWireList,WireList.writes,WireList.counter,List.flatMap]
  | fullRoomList rooms flag =>
    obtain rfl := Option.some.inj built
    obtain rfl := List.mem_singleton.mp mem
    refine WireList.standsIn ?_ [_]
    simp [fullRoomWireList,WireList.writes,WireList.counter,List.flatMap]
  | replyCreateAndJoin hostUserID roomID roomSettings gameUsers =>
    obtain rfl := Option.some.inj built
    obtain rfl := List.mem_singleton.mp mem
    exact WireList.standsIn rfl _
  | hostRestart roomHostUserID gameMatchUsers saveData =>
    obtain rfl := Option.some.inj built
    obtain ⟨first,second⟩ := hostRestartStand roomHostUserID gameMatchUsers saveData
    rcases List.mem_cons.mp mem with rfl | inner
    · exact first
    · cases saveData with
      | nil => cases inner
      | cons b saveData =>
        obtain rfl := List.mem_singleton.mp inner
        exact second (List.cons_ne_nil _ _)
  | _ => cases built

end Lists

end Message
end CsoMaster
