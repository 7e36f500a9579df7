import CsoMaster.Lobby
import CsoMaster.QueryText

/-! What the server hands to `Packet::Send`, by content. A packet that shows a user or a
room holds what the object contained when the packet was built. -/
namespace CsoMaster

inductive Packet_ReplyType where
  | NoReply
  | LoginSuccess
  | CreateCharacterSuccess
  | InvalidName
  | Playing
  | NotExist
  | WrongPassword
  | InvalidPassword
  | SysError
  | InvalidServer
  | INVALID_USERINFO
  | TRANSFER_ERR
  | ID_TOO_SHORT
  | ID_TOO_LONG
  | INVALID_CHAR
  | ID_DIGIT_BEFORE_CHAR
  | ID_EXCEED_CHAR_COUNT
  | ALREADY_EXIST
  | ID_PROHIBITED
  | EXCEED_MAX_CONNECTION
  | INVALID_CLIENT_VERSION
  deriving DecidableEq, Repr

def Packet_ReplyType.code : Packet_ReplyType → Int
  | NoReply => -1
  | LoginSuccess => 0
  | CreateCharacterSuccess => 1
  | InvalidName => 3
  | Playing => 4
  | NotExist => 5
  | WrongPassword => 7
  | InvalidPassword => 8
  | SysError => 10
  | InvalidServer => 11
  | INVALID_USERINFO => 18
  | TRANSFER_ERR => 19
  | ID_TOO_SHORT => 20
  | ID_TOO_LONG => 21
  | INVALID_CHAR => 22
  | ID_DIGIT_BEFORE_CHAR => 23
  | ID_EXCEED_CHAR_COUNT => 24
  | ALREADY_EXIST => 25
  | ID_PROHIBITED => 26
  | EXCEED_MAX_CONNECTION => 27
  | INVALID_CLIENT_VERSION => 38

def QueryText.NickNameReply.reply : QueryText.NickNameReply → Packet_ReplyType
  | ID_TOO_SHORT => .ID_TOO_SHORT
  | ID_TOO_LONG => .ID_TOO_LONG
  | INVALID_CHAR => .INVALID_CHAR
  | ID_DIGIT_BEFORE_CHAR => .ID_DIGIT_BEFORE_CHAR
  | ID_EXCEED_CHAR_COUNT => .ID_EXCEED_CHAR_COUNT
  | ID_PROHIBITED => .ID_PROHIBITED

inductive Packet_UMsgType where
  | WhisperChat
  | ChannelChat
  | RoomChat
  | InfoMessage
  | WarningMessage
  deriving DecidableEq, Repr

inductive CipherType where
  | Encrypt
  | Decrypt
  deriving DecidableEq, Repr

def USERCHARACTER_FLAG_UNK1 : UInt16 := 0x1
def USERCHARACTER_FLAG_NICKNAME : UInt16 := 0x2
def USERCHARACTER_FLAG_UNK4 : UInt16 := 0x4
def USERCHARACTER_FLAG_LEVEL : UInt16 := 0x8
def USERCHARACTER_FLAG_UNK10 : UInt16 := 0x10
def USERCHARACTER_FLAG_EXP : UInt16 := 0x20
def USERCHARACTER_FLAG_CASH : UInt16 := 0x40
def USERCHARACTER_FLAG_POINTS : UInt16 := 0x80
def USERCHARACTER_FLAG_BATTLESTATS : UInt16 := 0x100
def USERCHARACTER_FLAG_LOCATION : UInt16 := 0x200
def USERCHARACTER_FLAG_UNK400 : UInt16 := 0x400
def USERCHARACTER_FLAG_UNK800 : UInt16 := 0x800
def USERCHARACTER_FLAG_CLAN : UInt16 := 0x1000
def USERCHARACTER_FLAG_ALL : UInt16 := 0xFFFF

structure UserCharacter where
  flag : UInt16
  unk1 : UInt8
  nickName : Bytes
  unk4_1 : Bytes
  unk4_2 : UInt8
  unk4_3 : UInt8
  unk4_4 : UInt8
  level : UInt8
  unk10 : UInt8
  exp : UInt64
  cash : UInt64
  points : UInt64
  battles : UInt32
  wins : UInt32
  frags : UInt32
  deaths : UInt32
  city : UInt16
  county : UInt16
  neighborhood : UInt16
  unk200_5 : Bytes
  unk400 : UInt32
  unk800 : UInt8
  clanID : UInt32
  clanMarkID : UInt32
  clanName : Bytes
  clanUnk4 : UInt8
  clanUnk5 : UInt8
  clanUnk6 : UInt8
  deriving DecidableEq, Repr, Inhabited

-- What `GetUserCharacter` takes over from a row that is there.
def UserCharacter.select (row : UserCharacter) (flag : UInt16) : UserCharacter :=
  let given {α : Type} [Inhabited α] (bit : UInt16) (value : α) : α :=
    if flag &&& bit ≠ 0 then value else default
  { flag := flag
    unk1 := given USERCHARACTER_FLAG_UNK1 row.unk1
    nickName := given USERCHARACTER_FLAG_NICKNAME row.nickName
    unk4_1 := given USERCHARACTER_FLAG_UNK4 row.unk4_1
    unk4_2 := given USERCHARACTER_FLAG_UNK4 row.unk4_2
    unk4_3 := given USERCHARACTER_FLAG_UNK4 row.unk4_3
    unk4_4 := given USERCHARACTER_FLAG_UNK4 row.unk4_4
    level := given USERCHARACTER_FLAG_LEVEL row.level
    unk10 := given USERCHARACTER_FLAG_UNK10 row.unk10
    exp := given USERCHARACTER_FLAG_EXP row.exp
    cash := given USERCHARACTER_FLAG_CASH row.cash
    points := given USERCHARACTER_FLAG_POINTS row.points
    battles := given USERCHARACTER_FLAG_BATTLESTATS row.battles
    wins := given USERCHARACTER_FLAG_BATTLESTATS row.wins
    frags := given USERCHARACTER_FLAG_BATTLESTATS row.frags
    deaths := given USERCHARACTER_FLAG_BATTLESTATS row.deaths
    city := given USERCHARACTER_FLAG_LOCATION row.city
    county := given USERCHARACTER_FLAG_LOCATION row.county
    neighborhood := given USERCHARACTER_FLAG_LOCATION row.neighborhood
    unk200_5 := given USERCHARACTER_FLAG_LOCATION row.unk200_5
    unk400 := given USERCHARACTER_FLAG_UNK400 row.unk400
    unk800 := given USERCHARACTER_FLAG_UNK800 row.unk800
    clanID := given USERCHARACTER_FLAG_CLAN row.clanID
    clanMarkID := given USERCHARACTER_FLAG_CLAN row.clanMarkID
    clanName := given USERCHARACTER_FLAG_CLAN row.clanName
    clanUnk4 := given USERCHARACTER_FLAG_CLAN row.clanUnk4
    clanUnk5 := given USERCHARACTER_FLAG_CLAN row.clanUnk5
    clanUnk6 := given USERCHARACTER_FLAG_CLAN row.clanUnk6 }

structure InventoryItem where
  slotID : UInt8
  itemID : UInt8
  count : UInt8
  inUse : Bool
  obtainTime : UInt32
  expirationTime : UInt32
  deriving DecidableEq, Repr

structure BuyMenu where
  categoryID : UInt8
  items : List UInt8
  deriving DecidableEq, Repr

structure SearchRoomResult where
  serverID : UInt8
  channelID : UInt8
  roomID : UInt16
  deriving DecidableEq, Repr, Inhabited

structure GameUser where
  userID : UInt32
  userName : Bytes
  userNetwork : UserNetwork
  userCharacter : UserCharacter
  deriving DecidableEq, Repr

-- What `buildRoomInfo` reads of a room.
structure RoomInfo where
  roomID : UInt16
  roomSettings : RoomSettings
  currentPlayers : Nat
  hostUserID : UInt32
  hostNetwork : UserNetwork
  deriving DecidableEq, Repr

inductive Message where
  | version
  | reply (type : Packet_ReplyType)
  | character
  | crypt (type : CipherType)
  | userStart (gameUser : GameUser)
  | updateInfo (gameUser : GameUser)
  | inventory (userInventory : List InventoryItem)
  | clientCheck
  | serverList (servers : List Server)
  | userConfig (userConfig : Bytes)
  | userQuickStart (userQuickStart : UInt32)
  | userBuyMenu (userBuyMenus : List BuyMenu)
  | userBookMark (userBookMarks : List QueryText.BookMark)
  | transfer (destination : Place) (authToken : Bytes)
  | fullUserList (gameUsers : List GameUser)
  | addUser (gameUser : GameUser)
  | removeUser (userID : UInt32)
  | fullRoomList (rooms : List RoomInfo) (flag : UInt16)
  | addRoom (room : RoomInfo) (flag : UInt16)
  | removeRoom (roomID : UInt16)
  | updateRoom (room : RoomInfo) (flag : UInt16)
  | replyCreateAndJoin (hostUserID : UInt32) (roomID : UInt16) (roomSettings : RoomSettings) (gameUsers : List GameUser)
  | userJoin (gameUser : GameUser)
  | userLeave (userID : UInt32)
  | userReady (userID : UInt32) (ready : UInt8)
  | replyUpdateRoomSettings (roomSettings : RoomSettings)
  | gameResult
  | leaveRoomInGame
  | hostStart (userID : UInt32)
  | hostJoin (userID : UInt32)
  | hostRestart (roomHostUserID : UInt32) (gameMatchUsers : List UInt32) (saveData : Bytes)
  | guestRestart (roomHostUserID : UInt32)
  | hostEndSession
  | resultClose
  | serverMessage (type : Packet_UMsgType) (text : Bytes) (additionalText : List Bytes)
  | chat (type : Packet_UMsgType) (senderNickName : Bytes) (text : Bytes)
  | shopList
  | searchRoomReply (result : SearchRoomResult)
  | modifySocketInfo (portType : PortType) (userID : UInt32) (ip : UInt32) (port : UInt16)
  deriving DecidableEq, Repr

end CsoMaster
