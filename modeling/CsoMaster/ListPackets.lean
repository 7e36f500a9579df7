import CsoMaster.PacketBytes
import CsoMaster.ServerStep

/-! The packets with the whole user list and the whole room list: what is written for each user
and each room, how many bytes that is, and when `WritePacket` takes the packet at all. -/
namespace CsoMaster
open Packet ByteOrder

def PacketID_RoomList : UInt8 := 151
def PacketID_Lobby : UInt8 := 153
def Packet_LobbyType_FullUserList : UInt8 := 0
def Packet_RoomListType_FullRoomList : UInt8 := 0

def ROOMLIST_FLAG_UNK2 : UInt16 := 0x2
def ROOMLIST_FLAG_UNK400 : UInt16 := 0x400
def ROOMLIST_FLAG_ROOMHOSTNETWORK : UInt16 := 0x800
def ROOMLIST_FLAG_UNK1000 : UInt16 := 0x1000
def ROOMLIST_FLAG_UNK2000 : UInt16 := 0x2000

def hasFlag (flag bit : UInt16) : Bool := flag &&& bit != 0

-- The calls of `BuildUserCharacter`, group by group.
def UserCharacter.writes (userCharacter : UserCharacter) : List (List Write) :=
  let has := hasFlag userCharacter.flag
  [[.uint16 .little userCharacter.flag],
    chosen (has USERCHARACTER_FLAG_UNK1) [.uint8 userCharacter.unk1],
    chosen (has USERCHARACTER_FLAG_NICKNAME) [.string userCharacter.nickName],
    chosen (has USERCHARACTER_FLAG_UNK4) [.string userCharacter.unk4_1,.uint8 userCharacter.unk4_2,
      .uint8 userCharacter.unk4_3,.uint8 userCharacter.unk4_4],
    chosen (has USERCHARACTER_FLAG_LEVEL) [.uint8 userCharacter.level],
    chosen (has USERCHARACTER_FLAG_UNK10) [.uint8 userCharacter.unk10],
    chosen (has USERCHARACTER_FLAG_EXP) [.uint64 .little userCharacter.exp],
    chosen (has USERCHARACTER_FLAG_CASH) [.uint64 .little userCharacter.cash],
    chosen (has USERCHARACTER_FLAG_POINTS) [.uint64 .little userCharacter.points],
    chosen (has USERCHARACTER_FLAG_BATTLESTATS) [.uint32 .little userCharacter.battles,.uint32 .little userCharacter.wins,
      .uint32 .little userCharacter.frags,.uint32 .little userCharacter.deaths],
    chosen (has USERCHARACTER_FLAG_LOCATION) [.string [],.uint16 .little userCharacter.city,.uint16 .little userCharacter.county,
      .uint16 .little userCharacter.neighborhood,.string userCharacter.unk200_5],
    chosen (has USERCHARACTER_FLAG_UNK400) [.uint32 .little userCharacter.unk400],
    chosen (has USERCHARACTER_FLAG_UNK800) [.uint8 userCharacter.unk800],
    chosen (has USERCHARACTER_FLAG_CLAN) [.uint32 .little userCharacter.clanID,.uint32 .little userCharacter.clanMarkID,
      .string userCharacter.clanName,.uint8 userCharacter.clanUnk4,.uint8 userCharacter.clanUnk5,.uint8 userCharacter.clanUnk6]]

-- `buildGameUser`
def GameUser.writes (gameUser : GameUser) : List Write :=
  [.uint32 .little gameUser.userID,.string gameUser.userName] ++ gameUser.userCharacter.writes.flatten

def fullUserListPacket (gameUsers : List GameUser) : Packet :=
  build [PacketID_Lobby] ([.uint8 Packet_LobbyType_FullUserList,.uint16 .little (UInt16.ofNat gameUsers.length)] ++
    gameUsers.flatMap GameUser.writes)

-- The calls of `buildRoomInfo`; `ip` and `port` are the server's own.
def RoomInfo.writes (ip : UInt32) (port : UInt16) (flag : UInt16) (room : RoomInfo) : List (List Write) :=
  let has := hasFlag flag
  [[.uint16 .little room.roomID,.uint16 .little flag],
    chosen (has ROOMLIST_FLAG_ROOMNAME) [.string room.roomSettings.roomName],
    chosen (has ROOMLIST_FLAG_UNK2) [.uint8 0],
    chosen (has ROOMLIST_FLAG_ISPASSWORDED) [.bool (room.roomSettings.password ≠ [])],
    chosen (has ROOMLIST_FLAG_LEVELLIMIT) [.uint8 room.roomSettings.levelLimit],
    chosen (has ROOMLIST_FLAG_GAMEMODEID) [.uint8 room.roomSettings.gameModeID],
    chosen (has ROOMLIST_FLAG_MAPID) [.uint8 room.roomSettings.mapID],
    chosen (has ROOMLIST_FLAG_CURRENTPLAYERS) [.uint8 (UInt8.ofNat room.currentPlayers)],
    chosen (has ROOMLIST_FLAG_MAXPLAYERS) [.uint8 room.roomSettings.maxPlayers],
    chosen (has ROOMLIST_FLAG_WEAPONLIMIT) [.uint8 room.roomSettings.weaponLimit],
    chosen (has ROOMLIST_FLAG_ROOMHOST) [.uint32 .little room.hostUserID,.uint8 0],
    chosen (has ROOMLIST_FLAG_UNK400) [.uint8 0],
    chosen (has ROOMLIST_FLAG_ROOMHOSTNETWORK) [.uint32 .little room.hostNetwork.localIP,
      .uint16 .little room.hostNetwork.localHostPort,.uint32 .little ip,.uint16 .little port,.uint8 0],
    chosen (has ROOMLIST_FLAG_UNK1000) [.uint8 0],
    chosen (has ROOMLIST_FLAG_UNK2000) [.uint8 0],
    chosen (has ROOMLIST_FLAG_ROOMSTATE) [.uint8 room.roomSettings.roomState]]

def fullRoomListPacket (ip : UInt32) (port : UInt16) (rooms : List RoomInfo) (flag : UInt16) : Packet :=
  build [PacketID_RoomList] ([.uint8 Packet_RoomListType_FullRoomList,.uint16 .little (UInt16.ofNat rooms.length)] ++
    rooms.flatMap fun room => (room.writes ip port flag).flatten)

-- What `WritePacket` asks, once the header is in front.
def Enqueued (p : Packet) : Prop := p.writeHeader.buffer.length ≤ TCP_PACKET_MAX_SIZE

instance (p : Packet) : Decidable (Enqueued p) := inferInstanceAs (Decidable (_ ≤ _))

section Size

-- The bytes of a record with every field in it.
def GameUser.size (gameUser : GameUser) : Nat :=
  80 + gameUser.userName.length + gameUser.userCharacter.nickName.length + gameUser.userCharacter.unk4_1.length +
    gameUser.userCharacter.unk200_5.length + gameUser.userCharacter.clanName.length

def RoomInfo.size (room : RoomInfo) : Nat := 35 + room.roomSettings.roomName.length

theorem builtLength (initial : Bytes) (calls : List Write) :
    (build initial calls).writeHeader.buffer.length = 4 + initial.length + (calls.flatMap Write.bytes).length := by
  have written : (build initial calls).buffer = initial ++ calls.flatMap Write.bytes := writesBuffer (createServerUnframed initial) calls
  simp only [writeHeader,written,List.insertIdx_zero,List.length_cons,List.length_append]
  omega

theorem chosenGiven {flag bit : UInt16} (given : hasFlag flag bit = true) {α : Type} (items : List α) :
    chosen (hasFlag flag bit) items = items := if_pos given

theorem gameUserSize {gameUser : GameUser} (all : gameUser.userCharacter.flag = USERCHARACTER_FLAG_ALL) :
    (gameUser.writes.flatMap Write.bytes).length = gameUser.size := by
  simp only [GameUser.writes,UserCharacter.writes,all]
  repeat rw [chosenGiven (by decide)]
  simp [Write.bytes,encodeLength,GameUser.size]
  omega

theorem roomInfoSize (ip : UInt32) (port : UInt16) (room : RoomInfo) :
    ((room.writes ip port ROOMLIST_FLAG_ALL).flatten.flatMap Write.bytes).length = room.size := by
  simp only [RoomInfo.writes]
  repeat rw [chosenGiven (by decide)]
  simp [Write.bytes,encodeLength,RoomInfo.size]
  omega

-- The count is one of two bytes, and the lists are never as long as that.
theorem fullUserListLength {gameUsers : List GameUser}
    (all : ∀ gameUser ∈ gameUsers, gameUser.userCharacter.flag = USERCHARACTER_FLAG_ALL) :
    (fullUserListPacket gameUsers).writeHeader.buffer.length = 8 + (gameUsers.map GameUser.size).sum := by
  have records : ((gameUsers.flatMap GameUser.writes).flatMap Write.bytes).length = (gameUsers.map GameUser.size).sum := by
    rw [List.flatMap_assoc,List.length_flatMap]
    exact congrArg List.sum (List.map_congr_left fun gameUser mem => gameUserSize (all gameUser mem))
  rw [fullUserListPacket,builtLength,List.flatMap_append,List.length_append,records]
  simp [Write.bytes,encodeLength]
  omega

theorem fullRoomListLength (ip : UInt32) (port : UInt16) (rooms : List RoomInfo) :
    (fullRoomListPacket ip port rooms ROOMLIST_FLAG_ALL).writeHeader.buffer.length = 8 + (rooms.map RoomInfo.size).sum := by
  have records : ((rooms.flatMap fun room => (room.writes ip port ROOMLIST_FLAG_ALL).flatten).flatMap Write.bytes).length =
      (rooms.map RoomInfo.size).sum := by
    rw [List.flatMap_assoc,List.length_flatMap]
    exact congrArg List.sum (List.map_congr_left fun room _ => roomInfoSize ip port room)
  rw [fullRoomListPacket,builtLength,List.flatMap_append,List.length_append,records]
  simp [Write.bytes,encodeLength]
  omega

end Size
end CsoMaster
