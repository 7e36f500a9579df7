import CsoMaster.WireLists

/-! Every packet the server sends, as its Send function builds it from its arguments, from the
configuration and from the ciphers of the connection. Those with the whole lists, the room
settings or a match that is handed over are built in the modules before. -/
namespace CsoMaster
open Packet

def PacketID_Version : UInt8 := 0
def PacketID_Reply : UInt8 := 1
def PacketID_Transfer : UInt8 := 2
def PacketID_Character : UInt8 := 6
def PacketID_Crypt : UInt8 := 7
def PacketID_ClientCheck : UInt8 := 66
def PacketID_UMsg : UInt8 := 67
def PacketID_UpdateInfo : UInt8 := 69
def PacketID_Udp : UInt8 := 70
def PacketID_Shop : UInt8 := 72
def PacketID_Option : UInt8 := 76
def PacketID_Favorite : UInt8 := 77
def PacketID_SearchRoom : UInt8 := 80
def PacketID_UserStart : UInt8 := 150
def PacketID_Inventory : UInt8 := 154

def Packet_LobbyType_AddUser : UInt8 := 1
def Packet_LobbyType_RemoveUser : UInt8 := 2
def Packet_RoomListType_AddRoom : UInt8 := 1
def Packet_RoomListType_RemoveRoom : UInt8 := 2
def Packet_RoomListType_UpdateRoom : UInt8 := 3
def Packet_RoomType_UserJoin : UInt8 := 1
def Packet_RoomType_UserLeave : UInt8 := 2
def Packet_RoomType_UserReady : UInt8 := 3
def Packet_RoomType_ReplyUpdateRoomSettings : UInt8 := 4
def Packet_RoomType_GameResult : UInt8 := 6
def Packet_RoomType_LeaveRoomInGame : UInt8 := 10
def Packet_HostType_HostStart : UInt8 := 0
def Packet_HostType_HostEndSession : UInt8 := 3
def Packet_HostType_ResultClose : UInt8 := 4
def Packet_OptionType_UserConfig : UInt8 := 0
def Packet_OptionType_UserQuickStart : UInt8 := 1
def Packet_FavoriteType_UserBuyMenu : UInt8 := 0
def Packet_FavoriteType_UserBookMark : UInt8 := 1
def Packet_UdpType_ModifySocketInfo : UInt8 := 1
def Packet_ShopType_ShopList : UInt8 := 0
def Packet_SearchRoomType_SearchRoomReply : UInt8 := 0

def Packet_UMsgType.code : Packet_UMsgType → UInt8
  | WhisperChat => 0
  | ChannelChat => 1
  | RoomChat => 2
  | InfoMessage => 5
  | WarningMessage => 6

def PortType.code : PortType → UInt8
  | Guest => 0
  | Host => 1

def CipherType.code : CipherType → UInt8
  | Encrypt => 0
  | Decrypt => 1

def CipherMethod.code : CipherMethod → UInt8
  | CleanUp => 0
  | CleanUp2 => 1
  | RC4 => 2
  | RC4_40 => 3
  | Null => 4

def KEY_SIZE : Nat := 32
def BLOCK_SIZE : Nat := 32

structure Cipher where
  method : CipherMethod
  key : Bytes
  iv : Bytes
  keySize : key.length = KEY_SIZE
  ivSize : iv.length = BLOCK_SIZE
  deriving DecidableEq

-- The method CleanUp and CleanUp2 come without a key.
def Cipher.keyed (cipher : Cipher) : Bool := cipher.method ≠ .CleanUp && cipher.method ≠ .CleanUp2

section Login

def versionPacket : Packet := build [PacketID_Version] []

def characterPacket : Packet := build [PacketID_Character] []

def clientCheckPacket : Packet := build [PacketID_ClientCheck] []

def replyPacket (type : Packet_ReplyType) (additionalText : List Bytes) : Packet :=
  build [PacketID_Reply] ([.uint8 (UInt8.ofInt type.code),.string [],.uint8 (UInt8.ofNat additionalText.length)] ++
    additionalText.map .string)

def cryptPacket (type : CipherType) (cipher : Cipher) : Packet :=
  build [PacketID_Crypt] ([.uint8 type.code,.uint8 cipher.method.code] ++
    chosen cipher.keyed [.arrayUInt8 cipher.key,.arrayUInt8 cipher.iv])

def userStartPacket (gameUser : GameUser) : Packet :=
  build [PacketID_UserStart]
    [.uint32 .little gameUser.userID,.string gameUser.userName,.string gameUser.userCharacter.nickName]

def updateInfoPacket (gameUser : GameUser) : Packet :=
  build [PacketID_UpdateInfo] (.uint32 .little gameUser.userID :: gameUser.userCharacter.writes.flatten)

def InventoryItem.writes (item : InventoryItem) : List Write :=
  [.uint8 item.slotID,.uint8 1,.uint8 item.itemID,.uint8 item.count,.bool item.inUse,.uint32 .little item.obtainTime,
    .uint32 .little item.expirationTime]

def userInventoryList (userInventory : List InventoryItem) : WireList := ⟨.byte,userInventory.map InventoryItem.writes⟩

def inventoryPacket (userInventory : List InventoryItem) : Packet :=
  build [PacketID_Inventory] (userInventoryList userInventory).writes

def transferPacket (ip : UInt32) (port : UInt16) (authToken : Bytes) : Packet :=
  build [PacketID_Transfer] [.uint32 .little ip,.uint16 .little port,.uint8 0,.string authToken]

end Login

section Settings

def userConfigPacket (userConfig : Bytes) : Packet :=
  build [PacketID_Option] [.uint8 Packet_OptionType_UserConfig,.uint16 .little (UInt16.ofNat userConfig.length),
    .arrayUInt8 userConfig]

def userQuickStartPacket (userQuickStart : UInt32) : Packet :=
  build [PacketID_Option] [.uint8 Packet_OptionType_UserQuickStart,.uint32 .little userQuickStart]

def BuyMenu.writes (buyMenu : BuyMenu) : List Write := .uint8 buyMenu.categoryID :: buyMenu.items.map .uint8

-- No count is written in front of the menus, nor in front of the bookmarks.
def userBuyMenuPacket (userBuyMenus : List BuyMenu) : Packet :=
  build [PacketID_Favorite] (.uint8 Packet_FavoriteType_UserBuyMenu :: userBuyMenus.flatMap BuyMenu.writes)

def QueryText.BookMark.writes (bookMark : QueryText.BookMark) : List Write :=
  [.uint8 bookMark.slotID,.string bookMark.name,.uint8 bookMark.primaryItemID,.bool bookMark.primaryAmmo,
    .uint8 bookMark.secondaryItemID,.bool bookMark.secondaryAmmo,.uint8 bookMark.flashbang,.bool bookMark.hegrenade,
    .bool bookMark.smokegrenade,.bool bookMark.defusekit,.bool bookMark.nightvision,.uint8 bookMark.kevlar,.uint8 bookMark.unk1]

def userBookMarkPacket (userBookMarks : List QueryText.BookMark) : Packet :=
  build [PacketID_Favorite] (.uint8 Packet_FavoriteType_UserBookMark :: userBookMarks.flatMap QueryText.BookMark.writes)

end Settings

section Lobby

def addUserPacket (gameUser : GameUser) : Packet :=
  build [PacketID_Lobby] (.uint8 Packet_LobbyType_AddUser :: gameUser.writes)

def removeUserPacket (userID : UInt32) : Packet :=
  build [PacketID_Lobby] [.uint8 Packet_LobbyType_RemoveUser,.uint32 .little userID]

def addRoomPacket (ip : UInt32) (port : UInt16) (room : RoomInfo) (flag : UInt16) : Packet :=
  build [PacketID_RoomList] (.uint8 Packet_RoomListType_AddRoom :: (room.writes ip port flag).flatten)

def removeRoomPacket (roomID : UInt16) : Packet :=
  build [PacketID_RoomList] [.uint8 Packet_RoomListType_RemoveRoom,.uint16 .little roomID]

def updateRoomPacket (ip : UInt32) (port : UInt16) (room : RoomInfo) (flag : UInt16) : Packet :=
  build [PacketID_RoomList] (.uint8 Packet_RoomListType_UpdateRoom :: (room.writes ip port flag).flatten)

end Lobby

section Room

def userJoinPacket (gameUser : GameUser) : Packet :=
  build [PacketID_Room] (.uint8 Packet_RoomType_UserJoin :: gameUser.roomWrites)

def userLeavePacket (userID : UInt32) : Packet :=
  build [PacketID_Room] [.uint8 Packet_RoomType_UserLeave,.uint32 .little userID]

def userReadyPacket (userID : UInt32) (ready : UInt8) : Packet :=
  build [PacketID_Room] [.uint8 Packet_RoomType_UserReady,.uint32 .little userID,.uint8 ready]

def replyUpdateRoomSettingsPacket (roomSettings : RoomSettings) : Packet :=
  build [PacketID_Room] (.uint8 Packet_RoomType_ReplyUpdateRoomSettings :: (roomSettingsWrites roomSettings).flatten)

-- A normal match without a winner and without players; the loops over them have no round.
def gameResultPacket : Packet :=
  build [PacketID_Room] [.uint8 Packet_RoomType_GameResult,.bool false,.uint8 0,.uint8 0]

def leaveRoomInGamePacket : Packet := build [PacketID_Room] [.uint8 Packet_RoomType_LeaveRoomInGame]

def hostStartPacket (userID : UInt32) : Packet :=
  build [PacketID_Host] [.uint8 Packet_HostType_HostStart,.uint32 .little userID]

def hostEndSessionPacket : Packet := build [PacketID_Host] [.uint8 Packet_HostType_HostEndSession]

def resultClosePacket : Packet := build [PacketID_Host] [.uint8 Packet_HostType_ResultClose]

end Room

section Talk

def serverMessagePacket (type : Packet_UMsgType) (text : Bytes) (additionalText : List Bytes) : Packet :=
  build [PacketID_UMsg] ([.uint8 type.code,.string text,.uint8 (UInt8.ofNat additionalText.length)] ++ additionalText.map .string)

def chatPacket (type : Packet_UMsgType) (senderNickName text : Bytes) : Packet :=
  build [PacketID_UMsg] [.uint8 type.code,.string senderNickName,.string text]

-- No products; the loops over them have no round either.
def shopListPacket : Packet := build [PacketID_Shop] [.uint8 Packet_ShopType_ShopList,.uint8 0]

def searchRoomReplyPacket (result : SearchRoomResult) : Packet :=
  build [PacketID_SearchRoom] [.uint8 Packet_SearchRoomType_SearchRoomReply,.uint8 result.serverID,.uint8 result.channelID,
    .uint16 .little result.roomID]

def modifySocketInfoPacket (portType : PortType) (userID ip : UInt32) (port : UInt16) : Packet :=
  build [PacketID_Udp] [.uint8 Packet_UdpType_ModifySocketInfo,.uint8 portType.code,.uint32 .little userID,.uint32 .little ip,
    .uint16 .little port]

end Talk

-- What the packets of a connection take from elsewhere. `inet_pton` is the C library's.
structure Wiring where
  serverConfig : LoadedConfig
  inet_pton : Bytes → UInt32
  cipher : CipherType → Cipher

namespace Wiring

-- `serverConfig.serverList[serverID - 1].channels[channelID - 1]`
def channelAt (w : Wiring) (p : Place) : Option NamedChannel :=
  w.serverConfig.serverList[(p.serverID - 1).toNat]?.bind (·.channels[(p.channelID - 1).toNat]?)

def ipOf (w : Wiring) (p : Place) : UInt32 := ((w.channelAt p).map (w.inet_pton ·.ip)).getD 0

def portOf (w : Wiring) (p : Place) : UInt16 := ((w.channelAt p).map NamedChannel.port).getD 0

end Wiring

namespace Message

def packet (w : Wiring) : Message → Packet
  | .version => versionPacket
  | .reply type => replyPacket type []
  | .character => characterPacket
  | .crypt type => cryptPacket type (w.cipher type)
  | .userStart gameUser => userStartPacket gameUser
  | .updateInfo gameUser => updateInfoPacket gameUser
  | .inventory userInventory => inventoryPacket userInventory
  | .clientCheck => clientCheckPacket
  | .serverList servers => serverListPacket w.serverConfig servers
  | .userConfig config => userConfigPacket config
  | .userQuickStart quickStart => userQuickStartPacket quickStart
  | .userBuyMenu userBuyMenus => userBuyMenuPacket userBuyMenus
  | .userBookMark userBookMarks => userBookMarkPacket userBookMarks
  | .transfer destination authToken => transferPacket (w.ipOf destination) (w.portOf destination) authToken
  | .fullUserList gameUsers => fullUserListPacket gameUsers
  | .addUser gameUser => addUserPacket gameUser
  | .removeUser userID => removeUserPacket userID
  | .fullRoomList rooms flag => fullRoomListPacket w.serverConfig.ip w.serverConfig.port rooms flag
  | .addRoom room flag => addRoomPacket w.serverConfig.ip w.serverConfig.port room flag
  | .removeRoom roomID => removeRoomPacket roomID
  | .updateRoom room flag => updateRoomPacket w.serverConfig.ip w.serverConfig.port room flag
  | .replyCreateAndJoin hostUserID roomID roomSettings gameUsers =>
    replyCreateAndJoinPacket hostUserID roomID roomSettings gameUsers
  | .userJoin gameUser => userJoinPacket gameUser
  | .userLeave userID => userLeavePacket userID
  | .userReady userID ready => userReadyPacket userID ready
  | .replyUpdateRoomSettings roomSettings => replyUpdateRoomSettingsPacket roomSettings
  | .gameResult => gameResultPacket
  | .leaveRoomInGame => leaveRoomInGamePacket
  | .hostStart userID => hostStartPacket userID
  | .hostJoin userID => hostJoinPacket userID
  | .hostRestart roomHostUserID gameMatchUsers saveData => hostRestartPacket roomHostUserID gameMatchUsers saveData
  | .guestRestart roomHostUserID => guestRestartPacket roomHostUserID
  | .hostEndSession => hostEndSessionPacket
  | .resultClose => resultClosePacket
  | .serverMessage type text additionalText => serverMessagePacket type text additionalText
  | .chat type senderNickName text => chatPacket type senderNickName text
  | .shopList => shopListPacket
  | .searchRoomReply result => searchRoomReplyPacket result
  | .modifySocketInfo portType userID ip port => modifySocketInfoPacket portType userID ip port

end Message
end CsoMaster
