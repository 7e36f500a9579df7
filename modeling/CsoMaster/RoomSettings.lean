import CsoMaster.Packet

/-! `RoomSettings`, what an update packet selects of it, and the two sides of an update:
reading the selected fields from the packet and taking them over into a room. -/
namespace CsoMaster
open ByteOrder

def ROOMSETTINGS_LFLAG_ROOMNAME : UInt32 := 0x1
def ROOMSETTINGS_LFLAG_UNK2 : UInt32 := 0x2
def ROOMSETTINGS_LFLAG_UNK4 : UInt32 := 0x4
def ROOMSETTINGS_LFLAG_PASSWORD : UInt32 := 0x8
def ROOMSETTINGS_LFLAG_LEVELLIMIT : UInt32 := 0x10
def ROOMSETTINGS_LFLAG_UNK20 : UInt32 := 0x20
def ROOMSETTINGS_LFLAG_GAMEMODEID : UInt32 := 0x40
def ROOMSETTINGS_LFLAG_MAPID : UInt32 := 0x80
def ROOMSETTINGS_LFLAG_MAXPLAYERS : UInt32 := 0x100
def ROOMSETTINGS_LFLAG_WINLIMIT : UInt32 := 0x200
def ROOMSETTINGS_LFLAG_KILLLIMIT : UInt32 := 0x400
def ROOMSETTINGS_LFLAG_TIMELIMIT : UInt32 := 0x800
def ROOMSETTINGS_LFLAG_ROUNDTIME : UInt32 := 0x1000
def ROOMSETTINGS_LFLAG_WEAPONLIMIT : UInt32 := 0x2000
def ROOMSETTINGS_LFLAG_HOSTAGEPENALTY : UInt32 := 0x4000
def ROOMSETTINGS_LFLAG_FREEZETIME : UInt32 := 0x8000
def ROOMSETTINGS_LFLAG_BUYTIME : UInt32 := 0x10000
def ROOMSETTINGS_LFLAG_NICKNAMEDISPLAY : UInt32 := 0x20000
def ROOMSETTINGS_LFLAG_UNK40000 : UInt32 := 0x40000
def ROOMSETTINGS_LFLAG_UNK80000 : UInt32 := 0x80000
def ROOMSETTINGS_LFLAG_FRIENDLYFIRE : UInt32 := 0x100000
def ROOMSETTINGS_LFLAG_FLASHLIGHT : UInt32 := 0x200000
def ROOMSETTINGS_LFLAG_FOOTSTEPS : UInt32 := 0x400000
def ROOMSETTINGS_LFLAG_UNK800000 : UInt32 := 0x800000
def ROOMSETTINGS_LFLAG_UNK1000000 : UInt32 := 0x1000000
def ROOMSETTINGS_LFLAG_UNK2000000 : UInt32 := 0x2000000
def ROOMSETTINGS_LFLAG_UNK4000000 : UInt32 := 0x4000000
def ROOMSETTINGS_LFLAG_UNK8000000 : UInt32 := 0x8000000
def ROOMSETTINGS_LFLAG_DEATHCAMERATYPE : UInt32 := 0x10000000
def ROOMSETTINGS_LFLAG_VOICECHAT : UInt32 := 0x20000000
def ROOMSETTINGS_LFLAG_ROOMSTATE : UInt32 := 0x40000000
def ROOMSETTINGS_LFLAG_UNK80000000 : UInt32 := 0x80000000
def ROOMSETTINGS_LFLAG_ALL : UInt32 := 0xFFFFFFFF

def ROOMSETTINGS_HFLAG_UNK1 : UInt8 := 0x1
def ROOMSETTINGS_HFLAG_UNK2 : UInt8 := 0x2
def ROOMSETTINGS_HFLAG_ALL : UInt8 := 0xFF

def ROOMLIST_FLAG_ROOMNAME : UInt16 := 0x1
def ROOMLIST_FLAG_ISPASSWORDED : UInt16 := 0x4
def ROOMLIST_FLAG_LEVELLIMIT : UInt16 := 0x8
def ROOMLIST_FLAG_GAMEMODEID : UInt16 := 0x10
def ROOMLIST_FLAG_MAPID : UInt16 := 0x20
def ROOMLIST_FLAG_CURRENTPLAYERS : UInt16 := 0x40
def ROOMLIST_FLAG_MAXPLAYERS : UInt16 := 0x80
def ROOMLIST_FLAG_WEAPONLIMIT : UInt16 := 0x100
def ROOMLIST_FLAG_ROOMHOST : UInt16 := 0x200
def ROOMLIST_FLAG_ROOMSTATE : UInt16 := 0x4000
def ROOMLIST_FLAG_ALL : UInt16 := 0xFFFF

-- `enum class RoomState`; a packet's byte is cast to it unchecked.
abbrev RoomState := UInt8
def RoomState.Waiting : RoomState := 0
def RoomState.Playing : RoomState := 2

structure Unk80000000Vec where
  unk8000000_vec_1 : UInt32
  unk8000000_vec_2 : UInt32
  unk8000000_vec_3 : UInt8
  unk8000000_vec_4 : UInt8
  unk8000000_vec_5 : UInt8
  unk8000000_vec_6 : UInt8
  unk8000000_vec_7 : UInt16
  unk8000000_vec_8 : UInt8
  unk8000000_vec_9 : UInt8
  deriving DecidableEq, Repr, Inhabited

structure RoomSettings where
  lowFlag : UInt32
  highFlag : UInt8
  roomName : Bytes
  unk2 : UInt8
  unk4_1 : UInt8
  unk4_2 : UInt8
  unk4_3 : UInt8
  unk4_4 : UInt32
  password : Bytes
  levelLimit : UInt8
  unk20 : UInt8
  gameModeID : UInt8
  mapID : UInt8
  maxPlayers : UInt8
  winLimit : UInt8
  killLimit : UInt16
  timeLimit : UInt8
  roundTime : UInt8
  weaponLimit : UInt8
  hostagePenalty : UInt8
  freezeTime : UInt8
  buyTime : UInt8
  nickNameDisplay : UInt8
  unk40000 : UInt8
  unk80000 : UInt8
  friendlyFire : Bool
  flashLight : Bool
  footSteps : Bool
  unk800000 : UInt8
  unk1000000 : UInt8
  unk2000000 : UInt8
  unk4000000 : UInt8
  unk8000000 : UInt8
  deathCameraType : UInt8
  voiceChat : Bool
  roomState : RoomState
  unk80000000_1 : UInt8
  unk80000000_2 : Unk80000000Vec × Unk80000000Vec
  unkh1_1 : UInt32
  unkh1_2 : Bytes
  unkh1_3 : UInt8
  unkh1_4 : UInt8
  unkh1_5 : UInt8
  unkh2 : UInt8
  deriving DecidableEq, Repr, Inhabited

namespace RoomSettings

def low (s : RoomSettings) (flag : UInt32) : Bool := s.lowFlag &&& flag ≠ 0
def high (s : RoomSettings) (flag : UInt8) : Bool := s.highFlag &&& flag ≠ 0

-- The settings a match start or end announces.
def ofRoomState (roomState : RoomState) : RoomSettings :=
  { (default : RoomSettings) with lowFlag := ROOMSETTINGS_LFLAG_ROOMSTATE, roomState := roomState }

-- `Room::UpdateRoomSettings`: the fields the update selects, and neither flag.
def update (c s : RoomSettings) : RoomSettings where
  lowFlag := c.lowFlag
  highFlag := c.highFlag
  roomName := if s.low ROOMSETTINGS_LFLAG_ROOMNAME then s.roomName else c.roomName
  unk2 := if s.low ROOMSETTINGS_LFLAG_UNK2 then s.unk2 else c.unk2
  unk4_1 := if s.low ROOMSETTINGS_LFLAG_UNK4 then s.unk4_1 else c.unk4_1
  unk4_2 := if s.low ROOMSETTINGS_LFLAG_UNK4 then s.unk4_2 else c.unk4_2
  unk4_3 := if s.low ROOMSETTINGS_LFLAG_UNK4 then s.unk4_3 else c.unk4_3
  unk4_4 := if s.low ROOMSETTINGS_LFLAG_UNK4 then s.unk4_4 else c.unk4_4
  password := if s.low ROOMSETTINGS_LFLAG_PASSWORD then s.password else c.password
  levelLimit := if s.low ROOMSETTINGS_LFLAG_LEVELLIMIT then s.levelLimit else c.levelLimit
  unk20 := if s.low ROOMSETTINGS_LFLAG_UNK20 then s.unk20 else c.unk20
  gameModeID := if s.low ROOMSETTINGS_LFLAG_GAMEMODEID then s.gameModeID else c.gameModeID
  mapID := if s.low ROOMSETTINGS_LFLAG_MAPID then s.mapID else c.mapID
  maxPlayers := if s.low ROOMSETTINGS_LFLAG_MAXPLAYERS then s.maxPlayers else c.maxPlayers
  winLimit := if s.low ROOMSETTINGS_LFLAG_WINLIMIT then s.winLimit else c.winLimit
  killLimit := if s.low ROOMSETTINGS_LFLAG_KILLLIMIT then s.killLimit else c.killLimit
  timeLimit := if s.low ROOMSETTINGS_LFLAG_TIMELIMIT then s.timeLimit else c.timeLimit
  roundTime := if s.low ROOMSETTINGS_LFLAG_ROUNDTIME then s.roundTime else c.roundTime
  weaponLimit := if s.low ROOMSETTINGS_LFLAG_WEAPONLIMIT then s.weaponLimit else c.weaponLimit
  hostagePenalty := if s.low ROOMSETTINGS_LFLAG_HOSTAGEPENALTY then s.hostagePenalty else c.hostagePenalty
  freezeTime := if s.low ROOMSETTINGS_LFLAG_FREEZETIME then s.freezeTime else c.freezeTime
  buyTime := if s.low ROOMSETTINGS_LFLAG_BUYTIME then s.buyTime else c.buyTime
  nickNameDisplay := if s.low ROOMSETTINGS_LFLAG_NICKNAMEDISPLAY then s.nickNameDisplay else c.nickNameDisplay
  unk40000 := if s.low ROOMSETTINGS_LFLAG_UNK40000 then s.unk40000 else c.unk40000
  unk80000 := if s.low ROOMSETTINGS_LFLAG_UNK80000 then s.unk80000 else c.unk80000
  friendlyFire := if s.low ROOMSETTINGS_LFLAG_FRIENDLYFIRE then s.friendlyFire else c.friendlyFire
  flashLight := if s.low ROOMSETTINGS_LFLAG_FLASHLIGHT then s.flashLight else c.flashLight
  footSteps := if s.low ROOMSETTINGS_LFLAG_FOOTSTEPS then s.footSteps else c.footSteps
  unk800000 := if s.low ROOMSETTINGS_LFLAG_UNK800000 then s.unk800000 else c.unk800000
  unk1000000 := if s.low ROOMSETTINGS_LFLAG_UNK1000000 then s.unk1000000 else c.unk1000000
  unk2000000 := if s.low ROOMSETTINGS_LFLAG_UNK2000000 then s.unk2000000 else c.unk2000000
  unk4000000 := if s.low ROOMSETTINGS_LFLAG_UNK4000000 then s.unk4000000 else c.unk4000000
  unk8000000 := if s.low ROOMSETTINGS_LFLAG_UNK8000000 then s.unk8000000 else c.unk8000000
  deathCameraType := if s.low ROOMSETTINGS_LFLAG_DEATHCAMERATYPE then s.deathCameraType else c.deathCameraType
  voiceChat := if s.low ROOMSETTINGS_LFLAG_VOICECHAT then s.voiceChat else c.voiceChat
  roomState := if s.low ROOMSETTINGS_LFLAG_ROOMSTATE then s.roomState else c.roomState
  unk80000000_1 := if s.low ROOMSETTINGS_LFLAG_UNK80000000 then s.unk80000000_1 else c.unk80000000_1
  unk80000000_2 := if s.low ROOMSETTINGS_LFLAG_UNK80000000 then s.unk80000000_2 else c.unk80000000_2
  unkh1_1 := if s.high ROOMSETTINGS_HFLAG_UNK1 then s.unkh1_1 else c.unkh1_1
  unkh1_2 := if s.high ROOMSETTINGS_HFLAG_UNK1 then s.unkh1_2 else c.unkh1_2
  unkh1_3 := if s.high ROOMSETTINGS_HFLAG_UNK1 then s.unkh1_3 else c.unkh1_3
  unkh1_4 := if s.high ROOMSETTINGS_HFLAG_UNK1 then s.unkh1_4 else c.unkh1_4
  unkh1_5 := if s.high ROOMSETTINGS_HFLAG_UNK1 then s.unkh1_5 else c.unkh1_5
  unkh2 := if s.high ROOMSETTINGS_HFLAG_UNK2 then s.unkh2 else c.unkh2

theorem updateOfRoomState (c : RoomSettings) (roomState : RoomState) :
    c.update (ofRoomState roomState) = { c with roomState := roomState } := by
  have none (flag : UInt32) (other : ROOMSETTINGS_LFLAG_ROOMSTATE &&& flag = 0) :
      (ofRoomState roomState).low flag = false := by simp [low,ofRoomState,other]
  have noHigh (flag : UInt8) : (ofRoomState roomState).high flag = false := by
    simp [high,ofRoomState,show (default : RoomSettings).highFlag = 0 from rfl]
  have own : (ofRoomState roomState).low ROOMSETTINGS_LFLAG_ROOMSTATE = true := by
    change decide (ROOMSETTINGS_LFLAG_ROOMSTATE &&& ROOMSETTINGS_LFLAG_ROOMSTATE ≠ 0) = true
    decide
  simp (disch := decide) only [update,none,noHigh,own,if_true,Bool.false_eq_true,if_false]
  rfl

theorem updateRoomState (c s : RoomSettings) (kept : s.low ROOMSETTINGS_LFLAG_ROOMSTATE = false) :
    (c.update s).roomState = c.roomState := by
  simp [update,kept]

end RoomSettings

section Read

abbrev Reader := StateM Packet

def Reader.uint8 : Reader UInt8 := Packet.readUInt8
def Reader.bool : Reader Bool := Packet.readBool
def Reader.uint16 : Reader UInt16 := (Packet.readUInt16 · .little)
def Reader.uint32 : Reader UInt32 := (Packet.readUInt32 · .little)
def Reader.string : Reader Bytes := Packet.readString

def Reader.given {α : Type} [Inhabited α] (selected : Bool) (read : Reader α) : Reader α :=
  if selected then read else pure default

open Reader

def readUnk80000000Vec : Reader Unk80000000Vec := do
  return ⟨← uint32,← uint32,← uint8,← uint8,← uint8,← uint8,← uint16,← uint8,← uint8⟩

-- The fields in the order of their bits; what the flags leave out keeps its default.
def readRoomSettings : Reader RoomSettings := do
  let lowFlag ← uint32
  let highFlag ← uint8
  let low (flag : UInt32) : Bool := lowFlag &&& flag ≠ 0
  let high (flag : UInt8) : Bool := highFlag &&& flag ≠ 0
  let roomName ← given (low ROOMSETTINGS_LFLAG_ROOMNAME) string
  let unk2 ← given (low ROOMSETTINGS_LFLAG_UNK2) uint8
  let unk4_1 ← given (low ROOMSETTINGS_LFLAG_UNK4) uint8
  let unk4_2 ← given (low ROOMSETTINGS_LFLAG_UNK4) uint8
  let unk4_3 ← given (low ROOMSETTINGS_LFLAG_UNK4) uint8
  let unk4_4 ← given (low ROOMSETTINGS_LFLAG_UNK4) uint32
  let password ← given (low ROOMSETTINGS_LFLAG_PASSWORD) string
  let levelLimit ← given (low ROOMSETTINGS_LFLAG_LEVELLIMIT) uint8
  let unk20 ← given (low ROOMSETTINGS_LFLAG_UNK20) uint8
  let gameModeID ← given (low ROOMSETTINGS_LFLAG_GAMEMODEID) uint8
  let mapID ← given (low ROOMSETTINGS_LFLAG_MAPID) uint8
  let maxPlayers ← given (low ROOMSETTINGS_LFLAG_MAXPLAYERS) uint8
  let winLimit ← given (low ROOMSETTINGS_LFLAG_WINLIMIT) uint8
  let killLimit ← given (low ROOMSETTINGS_LFLAG_KILLLIMIT) uint16
  let timeLimit ← given (low ROOMSETTINGS_LFLAG_TIMELIMIT) uint8
  let roundTime ← given (low ROOMSETTINGS_LFLAG_ROUNDTIME) uint8
  let weaponLimit ← given (low ROOMSETTINGS_LFLAG_WEAPONLIMIT) uint8
  let hostagePenalty ← given (low ROOMSETTINGS_LFLAG_HOSTAGEPENALTY) uint8
  let freezeTime ← given (low ROOMSETTINGS_LFLAG_FREEZETIME) uint8
  let buyTime ← given (low ROOMSETTINGS_LFLAG_BUYTIME) uint8
  let nickNameDisplay ← given (low ROOMSETTINGS_LFLAG_NICKNAMEDISPLAY) uint8
  let unk40000 ← given (low ROOMSETTINGS_LFLAG_UNK40000) uint8
  let unk80000 ← given (low ROOMSETTINGS_LFLAG_UNK80000) uint8
  let friendlyFire ← given (low ROOMSETTINGS_LFLAG_FRIENDLYFIRE) bool
  let flashLight ← given (low ROOMSETTINGS_LFLAG_FLASHLIGHT) bool
  let footSteps ← given (low ROOMSETTINGS_LFLAG_FOOTSTEPS) bool
  let unk800000 ← given (low ROOMSETTINGS_LFLAG_UNK800000) uint8
  let unk1000000 ← given (low ROOMSETTINGS_LFLAG_UNK1000000) uint8
  let unk2000000 ← given (low ROOMSETTINGS_LFLAG_UNK2000000) uint8
  let unk4000000 ← given (low ROOMSETTINGS_LFLAG_UNK4000000) uint8
  let unk8000000 ← given (low ROOMSETTINGS_LFLAG_UNK8000000) uint8
  let deathCameraType ← given (low ROOMSETTINGS_LFLAG_DEATHCAMERATYPE) uint8
  let voiceChat ← given (low ROOMSETTINGS_LFLAG_VOICECHAT) bool
  let roomState ← given (low ROOMSETTINGS_LFLAG_ROOMSTATE) uint8
  let unk80000000_1 ← given (low ROOMSETTINGS_LFLAG_UNK80000000) uint8
  let first ← given (low ROOMSETTINGS_LFLAG_UNK80000000) readUnk80000000Vec
  let second ← given (low ROOMSETTINGS_LFLAG_UNK80000000) readUnk80000000Vec
  let unkh1_1 ← given (high ROOMSETTINGS_HFLAG_UNK1) uint32
  let unkh1_2 ← given (high ROOMSETTINGS_HFLAG_UNK1) string
  let unkh1_3 ← given (high ROOMSETTINGS_HFLAG_UNK1) uint8
  let unkh1_4 ← given (high ROOMSETTINGS_HFLAG_UNK1) uint8
  let unkh1_5 ← given (high ROOMSETTINGS_HFLAG_UNK1) uint8
  let unkh2 ← given (high ROOMSETTINGS_HFLAG_UNK2) uint8
  return { lowFlag,highFlag,roomName,unk2,unk4_1,unk4_2,unk4_3,unk4_4,password,levelLimit,unk20,gameModeID,
           mapID,maxPlayers,winLimit,killLimit,timeLimit,roundTime,weaponLimit,hostagePenalty,freezeTime,
           buyTime,nickNameDisplay,unk40000,unk80000,friendlyFire,flashLight,footSteps,unk800000,
           unk1000000,unk2000000,unk4000000,unk8000000,deathCameraType,voiceChat,roomState,unk80000000_1,
           unk80000000_2 := (first,second),unkh1_1,unkh1_2,unkh1_3,unkh1_4,unkh1_5,unkh2 }

-- `roomListFlag` is an `unsigned char`: bits from 0x100 up are lost in it.
def roomListFlag (s : RoomSettings) : UInt8 :=
  [(ROOMSETTINGS_LFLAG_ROOMNAME,ROOMLIST_FLAG_ROOMNAME),
    (ROOMSETTINGS_LFLAG_PASSWORD,ROOMLIST_FLAG_ISPASSWORDED),
    (ROOMSETTINGS_LFLAG_LEVELLIMIT,ROOMLIST_FLAG_LEVELLIMIT),
    (ROOMSETTINGS_LFLAG_GAMEMODEID,ROOMLIST_FLAG_GAMEMODEID),
    (ROOMSETTINGS_LFLAG_MAPID,ROOMLIST_FLAG_MAPID),
    (ROOMSETTINGS_LFLAG_MAXPLAYERS,ROOMLIST_FLAG_MAXPLAYERS),
    (ROOMSETTINGS_LFLAG_WEAPONLIMIT,ROOMLIST_FLAG_WEAPONLIMIT),
    (ROOMSETTINGS_LFLAG_ROOMSTATE,ROOMLIST_FLAG_ROOMSTATE)].foldl
      (fun flag bits => if s.low bits.1 then (flag.toUInt16 ||| bits.2).toUInt8 else flag) 0

end Read
end CsoMaster
