import CsoMaster.HostHandlers

/-! The packets that change neither users nor rooms, and the one switch over all packets.
ClientCheck, UpdateInfo, RecvCrypt, Item and RecvReport are read and logged, no more. -/
namespace CsoMaster.State
open DatabaseManager
open SqlText (ascii)

section UMsg

def inform (s : State) (c : ConnectionRef) (text : String) (additionalText : Bytes) : State :=
  s.send c (.serverMessage .InfoMessage (ascii text) [additionalText])

-- The first user found under the nickname, each looked up in turn.
def findNickName (s : State) (nickName : Bytes) : List UserRef → Option UserRef × State
  | [] => (none,s)
  | v :: users =>
    let userCharacter := s.getUserCharacter v USERCHARACTER_FLAG_NICKNAME
    if userCharacter.1.result > 0 ∧ userCharacter.1.userCharacter.nickName = nickName then (some v,userCharacter.2)
    else userCharacter.2.findNickName nickName users

def parsePacket_UMsg_WhisperChat (s : State) (u : UserRef) (p : Packet) : State :=
  let c := (s.lobby.user u).connection
  if (s.lobby.user u).userStatus = .InServerList then s
  else
    let userCharacter := s.getUserCharacter u USERCHARACTER_FLAG_NICKNAME
    if userCharacter.1.result ≤ 0 then userCharacter.2.send c (.reply .SysError)
    else
      let receiverNickName := p.readString
      let found := userCharacter.2.findNickName receiverNickName.1 s.lobby.users
      match found.1 with
      | none => found.2.inform c "MSG_TELL_USER_NOT_FOUND" receiverNickName.1
      | some v =>
        (found.2.inform c "MSG_TELL_OK" receiverNickName.1).sendTo v
          (.chat .WhisperChat userCharacter.1.userCharacter.nickName receiverNickName.2.readString.1)

-- ChannelChat and RoomChat, told to `users`.
def chat (s : State) (u : UserRef) (type : Packet_UMsgType) (users : List UserRef) (p : Packet) : State :=
  let userCharacter := s.getUserCharacter u USERCHARACTER_FLAG_NICKNAME
  if userCharacter.1.result ≤ 0 then userCharacter.2.sendTo u (.reply .SysError)
  else userCharacter.2.sendAll users (.chat type userCharacter.1.userCharacter.nickName p.readString.1)

def parsePacket_UMsg_ChannelChat (s : State) (u : UserRef) (p : Packet) : State :=
  if (s.lobby.user u).userStatus ≠ .InLobby then s else s.chat u .ChannelChat s.usersInLobby p

def parsePacket_UMsg_RoomChat (s : State) (u : UserRef) (p : Packet) : State :=
  match s.currentRoom u [.InRoom] with
  | none => s
  | some r =>
    s.chat u .RoomChat ((s.lobby.room r).roomUsers.filter fun v => (s.lobby.user v).userStatus = .InRoom) p

def parsePacket_UMsg (s : State) (c : ConnectionRef) (p : Packet) : State :=
  match s.loggedIn c with
  | none => s
  | some u =>
    let type := p.readUInt8
    match type.1 with
    | 0 => s.parsePacket_UMsg_WhisperChat u type.2
    | 1 => s.parsePacket_UMsg_ChannelChat u type.2
    | 2 => s.parsePacket_UMsg_RoomChat u type.2
    | _ => s

end UMsg

section Udp

def failNetwork (s : State) (u : UserRef) : State :=
  (s.warn (s.lobby.user u).connection "DISCONNECTED_BY_NETWORK_FAILURE").disconnectUser u

def parsePacket_Udp_HolepunchFail (s : State) (u : UserRef) (p : Packet) : State :=
  match s.currentRoom u [.InRoom,.InGame] with
  | none => s
  | some r =>
    let userID := (p.readUInt32 .little).1
    match s.lobby.getUserByUserID userID with
    | none => s
    | some target =>
      if s.currentRoom target [.InRoom,.InGame] = some r then
        (s.sendTo u (.modifySocketInfo .Guest userID s.serverConfig.ip s.serverConfig.port)).sendTo u
          (.modifySocketInfo .Host userID s.serverConfig.ip s.serverConfig.port)
      else s

def parsePacket_Udp (s : State) (c : ConnectionRef) (p : Packet) : State :=
  match s.loggedIn c with
  | none => s
  | some u =>
    let type := p.readUInt8
    match type.1 with
    | 0 => s.failNetwork u
    | 1 => s.parsePacket_Udp_HolepunchFail u type.2
    -- Of the socket reports, RelayFail has an effect.
    | 2 => if type.2.readUInt8.1 = 4 then s.failNetwork u else s
    | _ => s

end Udp

section Requests

def parsePacket_Shop (s : State) (c : ConnectionRef) (p : Packet) : State :=
  match s.loggedIn c with
  | none => s
  | some _ => if p.readUInt8.1 = 0 then s.send c .shopList else s

def foundHere (s : State) (gameModeID mapID levelLimit : UInt8) (r : RoomRef) : Bool :=
  let room := s.lobby.room r
  let roomSettings := room.roomSettings
  !(roomSettings.password ≠ [] || room.roomUsers.length ≥ roomSettings.maxPlayers.toNat ||
    roomSettings.gameModeID ≠ 99 && roomSettings.gameModeID ≠ gameModeID ||
    mapID ≠ 99 && roomSettings.mapID ≠ mapID || roomSettings.levelLimit ≠ levelLimit)

def searchRoom (s : State) (level gameModeID mapID levelLimit clanBattle : UInt8) : SearchRoomResult × State :=
  match s.lobby.rooms.find? (s.foundHere gameModeID mapID levelLimit) with
  | some r => (⟨s.serverConfig.place.serverID,s.serverConfig.place.channelID,(s.lobby.room r).roomID⟩,s)
  | none =>
    let result := s.sql
      (DatabaseManager.searchRoom s.serverConfig.toServerConfig level gameModeID mapID levelLimit clanBattle)
    match result.1 with
    | some found => (found,result.2)
    | none => (default,result.2.fault)

def parsePacket_SearchRoom (s : State) (c : ConnectionRef) (p : Packet) : State :=
  match s.loggedIn c with
  | none => s
  | some u =>
    let gameModeID := p.readUInt8
    let mapID := gameModeID.2.readUInt8
    let levelLimit := mapID.2.readUInt8
    let clanBattle := levelLimit.2.readUInt8
    let userCharacter := s.getUserCharacter u USERCHARACTER_FLAG_LEVEL
    if userCharacter.1.result ≤ 0 then userCharacter.2.send c (.reply .SysError)
    else
      let result := userCharacter.2.searchRoom userCharacter.1.userCharacter.level gameModeID.1 mapID.1 levelLimit.1
        clanBattle.1
      result.2.send c (.searchRoomReply result.1)

end Requests

section Settings

def USERCONFIG_MAX_SIZE : Nat := 5120
def BUYMENU_MAX_CATEGORY : UInt8 := 7

def parsePacket_Option (s : State) (c : ConnectionRef) (p : Packet) : State :=
  match s.loggedIn c with
  | none => s
  | some u =>
    let userID := (s.lobby.user u).userID
    let type := p.readUInt8
    match type.1 with
    | 0 =>
      let size := type.2.readUInt16 .little
      if size.1 = 0 ∨ size.1.toNat > USERCONFIG_MAX_SIZE then s
      else s.exec (saveUserConfig userID (size.2.readArrayUInt8 size.1.toNat).1)
    | 1 => s.exec (saveUserQuickStart userID (type.2.readUInt32 .little).1)
    | _ => s

def parsePacket_Favorite_UserBuyMenu (s : State) (userID : UInt32) (p : Packet) : State :=
  let categoryID := p.readUInt8
  if categoryID.1 ≥ BUYMENU_MAX_CATEGORY * 2 then s
  else
    let slotID := categoryID.2.readUInt8
    if slotID.1 ≥ BUYMENU_MAX_SLOT then s
    else s.exec (saveUserBuyMenu userID categoryID.1 slotID.1 slotID.2.readUInt8.1)

def parsePacket_Favorite (s : State) (c : ConnectionRef) (p : Packet) : State :=
  match s.loggedIn c with
  | none => s
  | some u =>
    let userID := (s.lobby.user u).userID
    let type := p.readUInt8
    match type.1 with
    | 0 => s.parsePacket_Favorite_UserBuyMenu userID type.2
    | 1 =>
      match QueryText.readUserBookMark type.2 with
      | none => s
      | some userBookMark => s.exec (saveUserBookMark userID userBookMark)
    | _ => s

end Settings

inductive PacketID where
  | Version
  | RecvCharacter
  | Login
  | TransferLogin
  | RequestTransfer
  | RequestServerList
  | RecvCrypt
  | Room
  | ClientCheck
  | UMsg
  | Host
  | UpdateInfo
  | Udp
  | Shop
  | Option
  | Favorite
  | Item
  | SearchRoom
  | RecvReport
  deriving DecidableEq, Repr

def packetID : UInt8 → Option PacketID
  | 0 => some .Version
  | 2 => some .RecvCharacter
  | 3 => some .Login
  | 5 => some .TransferLogin
  | 7 => some .RequestTransfer
  | 10 => some .RequestServerList
  | 12 => some .RecvCrypt
  | 65 => some .Room
  | 66 => some .ClientCheck
  | 67 => some .UMsg
  | 68 => some .Host
  | 69 => some .UpdateInfo
  | 70 => some .Udp
  | 72 => some .Shop
  | 76 => some .Option
  | 77 => some .Favorite
  | 78 => some .Item
  | 80 => some .SearchRoom
  | 150 => some .RecvReport
  | _ => none

def parsePacket (s : State) (c : ConnectionRef) (packet : Packet) : State :=
  let p := packet.readUInt8.2
  match packetID packet.readUInt8.1 with
  | none => s
  | some .Version => s.parsePacket_Version c p
  | some .RecvCharacter => s.parsePacket_RecvCharacter c p
  | some .Login => s.parsePacket_Login c p
  | some .TransferLogin => s.parsePacket_TransferLogin c p
  | some .RequestTransfer => s.parsePacket_RequestTransfer c p
  | some .RequestServerList => s.parsePacket_RequestServerList c p
  | some .Room => s.parsePacket_Room c p
  | some .UMsg => s.parsePacket_UMsg c p
  | some .Host => s.parsePacket_Host c p
  | some .Udp => s.parsePacket_Udp c p
  | some .Shop => s.parsePacket_Shop c p
  | some .Option => s.parsePacket_Option c p
  | some .Favorite => s.parsePacket_Favorite c p
  | some .SearchRoom => s.parsePacket_SearchRoom c p
  | some .RecvCrypt | some .ClientCheck | some .UpdateInfo | some .Item | some .RecvReport => s

end CsoMaster.State
