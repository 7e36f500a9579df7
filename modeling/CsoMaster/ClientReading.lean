import CsoMaster.ServerPackets

/-! What a client can read off the packets of the server. `Received` is what a packet says,
`Message.shows` what the server means it to say, and `readPacket` takes a packet apart that is
handed over whole: it knows the layout and nothing else. A body of which a byte is left over
is no packet. -/
namespace CsoMaster

structure ReceivedChannel where
  id : UInt8
  name : Bytes
  numPlayers : UInt16
  deriving DecidableEq, Repr

structure ReceivedServer where
  id : UInt8
  ready : Bool
  type : UInt8
  name : Bytes
  channels : List ReceivedChannel
  deriving DecidableEq, Repr

structure ReceivedUser where
  userID : UInt32
  userName : Bytes
  userCharacter : UserCharacter
  deriving DecidableEq, Repr

structure ReceivedRoomUser where
  userID : UInt32
  externalIP : UInt32
  externalHostPort : UInt16
  externalGuestPort : UInt16
  localIP : UInt32
  localHostPort : UInt16
  localGuestPort : UInt16
  userCharacter : UserCharacter
  deriving DecidableEq, Repr

-- Of a room, what the flag selects.
structure ReceivedRoom where
  roomID : UInt16
  flag : UInt16
  roomName : Bytes
  isPassworded : Bool
  levelLimit : UInt8
  gameModeID : UInt8
  mapID : UInt8
  currentPlayers : UInt8
  maxPlayers : UInt8
  weaponLimit : UInt8
  hostUserID : UInt32
  localIP : UInt32
  localHostPort : UInt16
  ip : UInt32
  port : UInt16
  roomState : UInt8
  deriving DecidableEq, Repr

inductive Received where
  | version
  | reply (type : Packet_ReplyType) (additionalText : List Bytes)
  | character
  | crypt (type : CipherType) (method : CipherMethod) (key iv : Bytes)
  | userStart (userID : UInt32) (userName nickName : Bytes)
  | updateInfo (userID : UInt32) (userCharacter : UserCharacter)
  | inventory (userInventory : List InventoryItem)
  | clientCheck
  | serverList (servers : List ReceivedServer)
  | userConfig (userConfig : Bytes)
  | userQuickStart (userQuickStart : UInt32)
  | userBuyMenu (userBuyMenus : List BuyMenu)
  | userBookMark (userBookMarks : List QueryText.BookMark)
  | transfer (ip : UInt32) (port : UInt16) (authToken : Bytes)
  | fullUserList (users : List ReceivedUser)
  | addUser (user : ReceivedUser)
  | removeUser (userID : UInt32)
  | fullRoomList (rooms : List ReceivedRoom)
  | addRoom (room : ReceivedRoom)
  | removeRoom (roomID : UInt16)
  | updateRoom (room : ReceivedRoom)
  | replyCreateAndJoin (hostUserID : UInt32) (roomID : UInt16) (roomSettings : RoomSettings) (users : List ReceivedRoomUser)
  | userJoin (user : ReceivedRoomUser)
  | userLeave (userID : UInt32)
  | userReady (userID : UInt32) (ready : UInt8)
  | replyUpdateRoomSettings (roomSettings : RoomSettings)
  | gameResult (isClanBattle : Bool) (winTeam numPlayers : UInt8)
  | leaveRoomInGame
  | hostStart (userID : UInt32)
  | hostJoin (userID : UInt32)
  | hostRestart (roomHostUserID : UInt32) (gameMatchUsers : List UInt32) (saveData : Bytes)
  | guestRestart (roomHostUserID : UInt32)
  | hostEndSession
  | resultClose
  | serverMessage (type : Packet_UMsgType) (text : Bytes) (additionalText : List Bytes)
  | chat (type : Packet_UMsgType) (senderNickName text : Bytes)
  | shopList (numProducts : UInt8)
  | searchRoomReply (result : SearchRoomResult)
  | modifySocketInfo (portType : PortType) (userID ip : UInt32) (port : UInt16)
  deriving DecidableEq, Repr

section Shows

def GameUser.shows (gameUser : GameUser) : ReceivedUser :=
  ⟨gameUser.userID,gameUser.userName,gameUser.userCharacter.select gameUser.userCharacter.flag⟩

def GameUser.roomShows (gameUser : GameUser) : ReceivedRoomUser :=
  let n := gameUser.userNetwork
  ⟨gameUser.userID,n.externalIP,n.externalHostPort,n.externalGuestPort,n.localIP,n.localHostPort,n.localGuestPort,
    gameUser.userCharacter.select gameUser.userCharacter.flag⟩

def RoomInfo.shows (ip : UInt32) (port : UInt16) (flag : UInt16) (room : RoomInfo) : ReceivedRoom :=
  let given {α : Type} [Inhabited α] (bit : UInt16) (value : α) : α := if hasFlag flag bit then value else default
  { roomID := room.roomID
    flag := flag
    roomName := given ROOMLIST_FLAG_ROOMNAME room.roomSettings.roomName
    isPassworded := given ROOMLIST_FLAG_ISPASSWORDED (room.roomSettings.password ≠ [])
    levelLimit := given ROOMLIST_FLAG_LEVELLIMIT room.roomSettings.levelLimit
    gameModeID := given ROOMLIST_FLAG_GAMEMODEID room.roomSettings.gameModeID
    mapID := given ROOMLIST_FLAG_MAPID room.roomSettings.mapID
    currentPlayers := given ROOMLIST_FLAG_CURRENTPLAYERS (UInt8.ofNat room.currentPlayers)
    maxPlayers := given ROOMLIST_FLAG_MAXPLAYERS room.roomSettings.maxPlayers
    weaponLimit := given ROOMLIST_FLAG_WEAPONLIMIT room.roomSettings.weaponLimit
    hostUserID := given ROOMLIST_FLAG_ROOMHOST room.hostUserID
    localIP := given ROOMLIST_FLAG_ROOMHOSTNETWORK room.hostNetwork.localIP
    localHostPort := given ROOMLIST_FLAG_ROOMHOSTNETWORK room.hostNetwork.localHostPort
    ip := given ROOMLIST_FLAG_ROOMHOSTNETWORK ip
    port := given ROOMLIST_FLAG_ROOMHOSTNETWORK port
    roomState := given ROOMLIST_FLAG_ROOMSTATE room.roomSettings.roomState }

def LoadedConfig.shows (c : LoadedConfig) (server : Server) : ReceivedServer where
  id := server.id
  ready := server.status = .Ready
  type := UInt8.ofInt (((c.named server).map NamedServer.type).getD 0)
  name := ((c.named server).map NamedServer.name).getD []
  channels := server.channels.map fun channel => ⟨channel.id,c.channelName server channel,channel.numPlayers⟩

def Message.shows (w : Wiring) : Message → Received
  | .version => .version
  | .reply type => .reply type []
  | .character => .character
  | .crypt type =>
    let cipher := w.cipher type
    .crypt type cipher.method (if cipher.keyed then cipher.key else []) (if cipher.keyed then cipher.iv else [])
  | .userStart gameUser => .userStart gameUser.userID gameUser.userName gameUser.userCharacter.nickName
  | .updateInfo gameUser => .updateInfo gameUser.userID (gameUser.userCharacter.select gameUser.userCharacter.flag)
  | .inventory items => .inventory items
  | .clientCheck => .clientCheck
  | .serverList servers => .serverList (servers.map w.serverConfig.shows)
  | .userConfig config => .userConfig config
  | .userQuickStart quickStart => .userQuickStart quickStart
  | .userBuyMenu buyMenus => .userBuyMenu buyMenus
  | .userBookMark bookMarks => .userBookMark bookMarks
  | .transfer destination authToken => .transfer (w.ipOf destination) (w.portOf destination) authToken
  | .fullUserList gameUsers => .fullUserList (gameUsers.map GameUser.shows)
  | .addUser gameUser => .addUser gameUser.shows
  | .removeUser userID => .removeUser userID
  | .fullRoomList rooms flag => .fullRoomList (rooms.map (·.shows w.serverConfig.ip w.serverConfig.port flag))
  | .addRoom room flag => .addRoom (room.shows w.serverConfig.ip w.serverConfig.port flag)
  | .removeRoom roomID => .removeRoom roomID
  | .updateRoom room flag => .updateRoom (room.shows w.serverConfig.ip w.serverConfig.port flag)
  | .replyCreateAndJoin hostUserID roomID roomSettings gameUsers =>
    .replyCreateAndJoin hostUserID roomID roomSettings.selected (gameUsers.map GameUser.roomShows)
  | .userJoin gameUser => .userJoin gameUser.roomShows
  | .userLeave userID => .userLeave userID
  | .userReady userID ready => .userReady userID ready
  | .replyUpdateRoomSettings roomSettings => .replyUpdateRoomSettings roomSettings.selected
  | .gameResult => .gameResult false 0 0
  | .leaveRoomInGame => .leaveRoomInGame
  | .hostStart userID => .hostStart userID
  | .hostJoin userID => .hostJoin userID
  -- The participants come with the save data only.
  | .hostRestart roomHostUserID gameMatchUsers saveData =>
    .hostRestart roomHostUserID (if saveData = [] then [] else gameMatchUsers) saveData
  | .guestRestart roomHostUserID => .guestRestart roomHostUserID
  | .hostEndSession => .hostEndSession
  | .resultClose => .resultClose
  | .serverMessage type text additionalText => .serverMessage type text additionalText
  | .chat type senderNickName text => .chat type senderNickName text
  | .shopList => .shopList 0
  | .searchRoomReply result => .searchRoomReply result
  | .modifySocketInfo portType userID ip port => .modifySocketInfo portType userID ip port

end Shows

namespace Client
open Cursor Reader

section Records

def uint64 : Reader UInt64 := (Packet.readUInt64 · .little)

def bytes (size : Nat) : Reader Bytes := readArray uint8 size

-- A counter and as many records.
def readList {α : Type} (width : CountWidth) (one : Reader α) : Reader (List α) := do
  match width with
  | .byte => readArray one (← uint8).toNat
  | .short => readArray one (← uint16).toNat

def readUserCharacter : Reader UserCharacter := do
  let flag ← uint16
  let has := hasFlag flag
  let unk1 ← given (has USERCHARACTER_FLAG_UNK1) uint8
  let nickName ← given (has USERCHARACTER_FLAG_NICKNAME) string
  let unk4_1 ← given (has USERCHARACTER_FLAG_UNK4) string
  let unk4_2 ← given (has USERCHARACTER_FLAG_UNK4) uint8
  let unk4_3 ← given (has USERCHARACTER_FLAG_UNK4) uint8
  let unk4_4 ← given (has USERCHARACTER_FLAG_UNK4) uint8
  let level ← given (has USERCHARACTER_FLAG_LEVEL) uint8
  let unk10 ← given (has USERCHARACTER_FLAG_UNK10) uint8
  let exp ← given (has USERCHARACTER_FLAG_EXP) uint64
  let cash ← given (has USERCHARACTER_FLAG_CASH) uint64
  let points ← given (has USERCHARACTER_FLAG_POINTS) uint64
  let battles ← given (has USERCHARACTER_FLAG_BATTLESTATS) uint32
  let wins ← given (has USERCHARACTER_FLAG_BATTLESTATS) uint32
  let frags ← given (has USERCHARACTER_FLAG_BATTLESTATS) uint32
  let deaths ← given (has USERCHARACTER_FLAG_BATTLESTATS) uint32
  let _pcBang ← given (has USERCHARACTER_FLAG_LOCATION) string
  let city ← given (has USERCHARACTER_FLAG_LOCATION) uint16
  let county ← given (has USERCHARACTER_FLAG_LOCATION) uint16
  let neighborhood ← given (has USERCHARACTER_FLAG_LOCATION) uint16
  let unk200_5 ← given (has USERCHARACTER_FLAG_LOCATION) string
  let unk400 ← given (has USERCHARACTER_FLAG_UNK400) uint32
  let unk800 ← given (has USERCHARACTER_FLAG_UNK800) uint8
  let clanID ← given (has USERCHARACTER_FLAG_CLAN) uint32
  let clanMarkID ← given (has USERCHARACTER_FLAG_CLAN) uint32
  let clanName ← given (has USERCHARACTER_FLAG_CLAN) string
  let clanUnk4 ← given (has USERCHARACTER_FLAG_CLAN) uint8
  let clanUnk5 ← given (has USERCHARACTER_FLAG_CLAN) uint8
  let clanUnk6 ← given (has USERCHARACTER_FLAG_CLAN) uint8
  return ⟨flag,unk1,nickName,unk4_1,unk4_2,unk4_3,unk4_4,level,unk10,exp,cash,points,battles,wins,frags,deaths,city,county,
    neighborhood,unk200_5,unk400,unk800,clanID,clanMarkID,clanName,clanUnk4,clanUnk5,clanUnk6⟩

def readUser : Reader ReceivedUser := do return ⟨← uint32,← string,← readUserCharacter⟩

def readRoomUser : Reader ReceivedRoomUser := do
  let userID ← uint32
  let _unk1 ← uint8
  let _unk2 ← uint8
  return ⟨userID,← uint32,← uint16,← uint16,← uint32,← uint16,← uint16,← readUserCharacter⟩

def readRoom : Reader ReceivedRoom := do
  let roomID ← uint16
  let flag ← uint16
  let has := hasFlag flag
  let roomName ← given (has ROOMLIST_FLAG_ROOMNAME) string
  let _unk2 ← given (has ROOMLIST_FLAG_UNK2) uint8
  let isPassworded ← given (has ROOMLIST_FLAG_ISPASSWORDED) bool
  let levelLimit ← given (has ROOMLIST_FLAG_LEVELLIMIT) uint8
  let gameModeID ← given (has ROOMLIST_FLAG_GAMEMODEID) uint8
  let mapID ← given (has ROOMLIST_FLAG_MAPID) uint8
  let currentPlayers ← given (has ROOMLIST_FLAG_CURRENTPLAYERS) uint8
  let maxPlayers ← given (has ROOMLIST_FLAG_MAXPLAYERS) uint8
  let weaponLimit ← given (has ROOMLIST_FLAG_WEAPONLIMIT) uint8
  let hostUserID ← given (has ROOMLIST_FLAG_ROOMHOST) uint32
  let _unk200 ← given (has ROOMLIST_FLAG_ROOMHOST) uint8
  let _unk400 ← given (has ROOMLIST_FLAG_UNK400) uint8
  let localIP ← given (has ROOMLIST_FLAG_ROOMHOSTNETWORK) uint32
  let localHostPort ← given (has ROOMLIST_FLAG_ROOMHOSTNETWORK) uint16
  let ip ← given (has ROOMLIST_FLAG_ROOMHOSTNETWORK) uint32
  let port ← given (has ROOMLIST_FLAG_ROOMHOSTNETWORK) uint16
  let _unk800 ← given (has ROOMLIST_FLAG_ROOMHOSTNETWORK) uint8
  let _unk1000 ← given (has ROOMLIST_FLAG_UNK1000) uint8
  let _unk2000 ← given (has ROOMLIST_FLAG_UNK2000) uint8
  let roomState ← given (has ROOMLIST_FLAG_ROOMSTATE) uint8
  return ⟨roomID,flag,roomName,isPassworded,levelLimit,gameModeID,mapID,currentPlayers,maxPlayers,weaponLimit,hostUserID,
    localIP,localHostPort,ip,port,roomState⟩

def readChannel : Reader ReceivedChannel := do return ⟨← uint8,← string,← uint16⟩

def readServer : Reader ReceivedServer := do return ⟨← uint8,← bool,← uint8,← string,← readList .byte readChannel⟩

def readInventoryItem : Reader InventoryItem := do
  let slotID ← uint8
  let _unk ← uint8
  return ⟨slotID,← uint8,← uint8,← bool,← uint32,← uint32⟩

def readBuyMenu : Reader BuyMenu := do return ⟨← uint8,← bytes BUYMENU_MAX_SLOT.toNat⟩

def readBookMark : Reader QueryText.BookMark := do
  return ⟨← uint8,← string,← uint8,← bool,← uint8,← bool,← uint8,← bool,← bool,← bool,← bool,← uint8,← uint8⟩

end Records

section Codes

def replyType : UInt8 → Option Packet_ReplyType
  | 255 => some .NoReply
  | 0 => some .LoginSuccess
  | 1 => some .CreateCharacterSuccess
  | 3 => some .InvalidName
  | 4 => some .Playing
  | 5 => some .NotExist
  | 7 => some .WrongPassword
  | 8 => some .InvalidPassword
  | 10 => some .SysError
  | 11 => some .InvalidServer
  | 18 => some .INVALID_USERINFO
  | 19 => some .TRANSFER_ERR
  | 20 => some .ID_TOO_SHORT
  | 21 => some .ID_TOO_LONG
  | 22 => some .INVALID_CHAR
  | 23 => some .ID_DIGIT_BEFORE_CHAR
  | 24 => some .ID_EXCEED_CHAR_COUNT
  | 25 => some .ALREADY_EXIST
  | 26 => some .ID_PROHIBITED
  | 27 => some .EXCEED_MAX_CONNECTION
  | 38 => some .INVALID_CLIENT_VERSION
  | _ => none

def cipherType : UInt8 → Option CipherType
  | 0 => some .Encrypt
  | 1 => some .Decrypt
  | _ => none

def cipherMethod : UInt8 → Option CipherMethod
  | 0 => some .CleanUp
  | 1 => some .CleanUp2
  | 2 => some .RC4
  | 3 => some .RC4_40
  | 4 => some .Null
  | _ => none

end Codes

section Packets

def readReply : Reader (Option Received) := do
  let type ← uint8
  let _unk ← string
  let additionalText ← readList .byte string
  return (replyType type).map (.reply · additionalText)

def readKey (keyed : Bool) : Reader (Bytes × Bytes) := do
  return (← given keyed (bytes KEY_SIZE),← given keyed (bytes BLOCK_SIZE))

def readCrypt : Reader (Option Received) := do
  let type ← uint8
  let method ← uint8
  let key ← readKey (method ≠ CipherMethod.CleanUp.code && method ≠ CipherMethod.CleanUp2.code)
  return (cipherType type).bind fun type => (cipherMethod method).map (.crypt type · key.1 key.2)

def readTransfer : Reader (Option Received) := do
  let ip ← uint32
  let port ← uint16
  let _unk ← uint8
  return some (.transfer ip port (← string))

def readOption : Reader (Option Received) := do
  match ← uint8 with
  | 0 => return some (.userConfig (← bytes (← uint16).toNat))
  | 1 => return some (.userQuickStart (← uint32))
  | _ => return none

def readFavorite : Reader (Option Received) := do
  match ← uint8 with
  | 0 => return some (.userBuyMenu (← readToEnd readBuyMenu))
  | 1 => return some (.userBookMark (← readToEnd readBookMark))
  | _ => return none

def readLobby : Reader (Option Received) := do
  match ← uint8 with
  | 0 => return some (.fullUserList (← readList .short readUser))
  | 1 => return some (.addUser (← readUser))
  | 2 => return some (.removeUser (← uint32))
  | _ => return none

def readRoomList : Reader (Option Received) := do
  match ← uint8 with
  | 0 => return some (.fullRoomList (← readList .short readRoom))
  | 1 => return some (.addRoom (← readRoom))
  | 2 => return some (.removeRoom (← uint16))
  | 3 => return some (.updateRoom (← readRoom))
  | _ => return none

def readReplyCreateAndJoin : Reader (Option Received) := do
  let hostUserID ← uint32
  let roomID ← uint16
  let _ping ← uint8
  return some (.replyCreateAndJoin hostUserID roomID (← readRoomSettings) (← readList .byte readRoomUser))

def readRoomPacket : Reader (Option Received) := do
  match ← uint8 with
  | 0 => readReplyCreateAndJoin
  | 1 => return some (.userJoin (← readRoomUser))
  | 2 => return some (.userLeave (← uint32))
  | 3 => return some (.userReady (← uint32) (← uint8))
  | 4 => return some (.replyUpdateRoomSettings (← readRoomSettings))
  | 6 => return some (.gameResult (← bool) (← uint8) (← uint8))
  | 10 => return some .leaveRoomInGame
  | _ => return none

-- The crashFlag of the others is one byte, the size of the new host's save data two.
def readRestart : Reader (Option Received) := do
  let roomHostUserID ← uint32
  if (rest (← get)).length = 1 then
    let _crashFlag ← uint8
    return some (.guestRestart roomHostUserID)
  let saved ← readSaveData (← uint16)
  return some (.hostRestart roomHostUserID saved.2 saved.1)

def readHost : Reader (Option Received) := do
  match ← uint8 with
  | 0 => return some (.hostStart (← uint32))
  | 1 => return some (.hostJoin (← uint32))
  | 2 => readRestart
  | 3 => return some .hostEndSession
  | 4 => return some .resultClose
  | _ => return none

def readChat (type : Packet_UMsgType) : Reader (Option Received) := do return some (.chat type (← string) (← string))

def readServerMessage (type : Packet_UMsgType) : Reader (Option Received) := do
  return some (.serverMessage type (← string) (← readList .byte string))

def readUMsg : Reader (Option Received) := do
  match ← uint8 with
  | 0 => readChat .WhisperChat
  | 1 => readChat .ChannelChat
  | 2 => readChat .RoomChat
  | 5 => readServerMessage .InfoMessage
  | 6 => readServerMessage .WarningMessage
  | _ => return none

def readShop : Reader (Option Received) := do
  match ← uint8 with
  | 0 => return some (.shopList (← uint8))
  | _ => return none

def readSearchRoom : Reader (Option Received) := do
  match ← uint8 with
  | 0 => return some (.searchRoomReply ⟨← uint8,← uint8,← uint16⟩)
  | _ => return none

def readUdp : Reader (Option Received) := do
  match ← uint8 with
  | 1 =>
    let portType ← uint8
    let userID ← uint32
    let ip ← uint32
    let port ← uint16
    return (State.readPortType portType).map (.modifySocketInfo · userID ip port)
  | _ => return none

def readBody : UInt8 → Reader (Option Received)
  | 0 => return some .version
  | 1 => readReply
  | 2 => readTransfer
  | 5 => return some (.serverList (← readList .byte readServer))
  | 6 => return some .character
  | 7 => readCrypt
  | 65 => readRoomPacket
  | 66 => return some .clientCheck
  | 67 => readUMsg
  | 68 => readHost
  | 69 => return some (.updateInfo (← uint32) (← readUserCharacter))
  | 70 => readUdp
  | 72 => readShop
  | 76 => readOption
  | 77 => readFavorite
  | 80 => readSearchRoom
  | 150 => return some (.userStart (← uint32) (← string) (← string))
  | 151 => readRoomList
  | 153 => readLobby
  | 154 => return some (.inventory (← readList .byte readInventoryItem))
  | _ => return none

def readPacket : Reader (Option Received) := do readBody (← uint8)

-- The packet that the body is from its first byte to its last.
def read (body : Bytes) : Option Received :=
  let reading := readPacket ⟨body,0,0,0,0,0⟩
  if (rest reading.2).isEmpty then reading.1 else none

end Packets
end Client
end CsoMaster
