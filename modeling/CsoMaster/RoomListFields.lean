import CsoMaster.RoomMembership

/-! What an UpdateRoomSettings packet tells the lobby: the fields of a room that the room list
shows, the bit of each in the flag of an UpdateRoom packet, and the flag that the handler puts
together from the settings it has read. -/
namespace CsoMaster

inductive RoomListField where
  | roomName
  | isPassworded
  | levelLimit
  | gameModeID
  | mapID
  | maxPlayers
  | weaponLimit
  | roomState
  deriving DecidableEq, Repr

namespace RoomListField
variable {field : RoomListField} {c s : RoomSettings}

def flag : RoomListField → UInt16
  | roomName => ROOMLIST_FLAG_ROOMNAME
  | isPassworded => ROOMLIST_FLAG_ISPASSWORDED
  | levelLimit => ROOMLIST_FLAG_LEVELLIMIT
  | gameModeID => ROOMLIST_FLAG_GAMEMODEID
  | mapID => ROOMLIST_FLAG_MAPID
  | maxPlayers => ROOMLIST_FLAG_MAXPLAYERS
  | weaponLimit => ROOMLIST_FLAG_WEAPONLIMIT
  | roomState => ROOMLIST_FLAG_ROOMSTATE

-- The bit that selects the setting the field is taken from.
def setting : RoomListField → UInt32
  | roomName => ROOMSETTINGS_LFLAG_ROOMNAME
  | isPassworded => ROOMSETTINGS_LFLAG_PASSWORD
  | levelLimit => ROOMSETTINGS_LFLAG_LEVELLIMIT
  | gameModeID => ROOMSETTINGS_LFLAG_GAMEMODEID
  | mapID => ROOMSETTINGS_LFLAG_MAPID
  | maxPlayers => ROOMSETTINGS_LFLAG_MAXPLAYERS
  | weaponLimit => ROOMSETTINGS_LFLAG_WEAPONLIMIT
  | roomState => ROOMSETTINGS_LFLAG_ROOMSTATE

-- What `buildRoomInfo` writes for the field.
def shown (s : RoomSettings) : RoomListField → Bytes
  | roomName => s.roomName ++ [0]
  | isPassworded => [if s.password ≠ [] then 1 else 0]
  | levelLimit => [s.levelLimit]
  | gameModeID => [s.gameModeID]
  | mapID => [s.mapID]
  | maxPlayers => [s.maxPlayers]
  | weaponLimit => [s.weaponLimit]
  | roomState => [s.roomState]

-- A flag with the bit of every field in which two settings differ.
def Covers (flag : UInt16) (c s : RoomSettings) : Prop :=
  ∀ field : RoomListField, field.shown s ≠ field.shown c → flag &&& field.flag ≠ 0

theorem shownUnselected (left : s.low field.setting = false) : field.shown (c.update s) = field.shown c := by
  cases field <;> simp only [setting] at left <;> simp [shown,RoomSettings.update,left]

section Flag

-- A bit is left out of the accumulator when no selected rung of the ladder brings it in.
theorem ladderLeavesOut (ladder : List (UInt32 × UInt16)) (flag mask : UInt8) :
    ladder.foldl (fun flag bits => if s.low bits.1 then (flag.toUInt16 ||| bits.2).toUInt8 else flag) flag &&& mask = 0 ↔
      flag &&& mask = 0 ∧ ∀ bits ∈ ladder, s.low bits.1 → bits.2.toUInt8 &&& mask = 0 := by
  induction ladder generalizing flag with
  | nil => simp
  | cons bits ladder ih =>
    rw [List.foldl_cons,ih]
    cases selected : s.low bits.1 with
    | false => simp [selected]
    | true =>
      have both : (flag ||| bits.2.toUInt8) &&& mask = 0 ↔ flag &&& mask = 0 ∧ bits.2.toUInt8 &&& mask = 0 := by
        rw [orAnd,UInt8.or_eq_zero_iff]
      simp [selected,both,and_assoc]

-- Only the low byte of a mask meets a flag that was an `unsigned char`.
theorem widenedAnd (flag : UInt8) (mask : UInt16) : flag.toUInt16 &&& mask = (flag &&& mask.toUInt8).toUInt16 := by
  refine UInt16.toNat_inj.mp ?_
  have low : flag.toNat % 2 ^ 8 = flag.toNat := Nat.mod_eq_of_lt flag.toNat_lt
  rw [UInt8.toUInt16_and,UInt16.toNat_and,UInt16.toNat_and,UInt8.toNat_toUInt16,UInt8.toNat_toUInt16,UInt16.toNat_toUInt8,
    ← Nat.and_two_pow_sub_one_eq_mod,Nat.and_comm mask.toNat,← Nat.and_assoc,Nat.and_two_pow_sub_one_eq_mod,low]

theorem roomListFlagMisses : (roomListFlag s).toUInt16 &&& field.flag = 0 ↔
    s.low field.setting = false ∨ field = weaponLimit ∨ field = roomState := by
  have widened (narrow : UInt8) : narrow.toUInt16 = 0 ↔ narrow = 0 := UInt8.toUInt16_inj (b := 0)
  rw [widenedAnd,widened,roomListFlag,ladderLeavesOut]
  cases field <;> simp +decide [flag,setting]

end Flag
-- The two fields whose bits lie above the low byte.
theorem coversUpdate : Covers (roomListFlag s).toUInt16 c (c.update s) ↔
    (s.low ROOMSETTINGS_LFLAG_WEAPONLIMIT = true → s.weaponLimit = c.weaponLimit) ∧
      (s.low ROOMSETTINGS_LFLAG_ROOMSTATE = true → s.roomState = c.roomState) := by
  have lost (field : RoomListField) (high : field = weaponLimit ∨ field = roomState) :
      (roomListFlag s).toUInt16 &&& field.flag = 0 := roomListFlagMisses.mpr (.inr high)
  constructor
  · intro covers
    have same (field : RoomListField) (high : field = weaponLimit ∨ field = roomState) :
        field.shown (c.update s) = field.shown c :=
      by_contra fun differs => covers field differs (lost field high)
    have weapons := same weaponLimit (.inl rfl)
    have states := same roomState (.inr rfl)
    exact ⟨fun selected => by simpa [shown,RoomSettings.update,selected] using weapons,
      fun selected => by simpa [shown,RoomSettings.update,selected] using states⟩
  · rintro ⟨weapons,states⟩ field differs
    rw [Ne,roomListFlagMisses]
    rintro (left | rfl | rfl)
    · exact differs (shownUnselected left)
    · exact differs (by simpa [shown,RoomSettings.update] using weapons)
    · exact differs (by simpa [shown,RoomSettings.update] using states)

end RoomListField

namespace State
open RoomListField Runs

-- The one call of `SendUpdateRoomPacketToAll`: the state it is made in and the flag it is given.
def updateRoomCall (s : State) (r : RoomRef) (p : Packet) : State × UInt16 :=
  let roomSettings := (readRoomSettings p).1
  ((s.setLobby (s.lobby.setRoom r ((s.lobby.room r).updateRoomSettings roomSettings))).updateRoom r,
    (roomListFlag roomSettings).toUInt16)

-- Its flag has the bit of every field that the update has changed.
def UpdateReachesLobby (s : State) (r : RoomRef) (p : Packet) : Prop :=
  Covers (s.updateRoomCall r p).2 (s.lobby.room r).roomSettings ((s.updateRoomCall r p).1.lobby.room r).roomSettings

theorem updateRoomFlag {s : State} {u : UserRef} {r : RoomRef} {p : Packet} (current : s.currentRoom u [.InRoom] = some r)
    (host : (s.lobby.room r).roomHostUser = u) :
    s.parsePacket_Room_UpdateRoomSettings u p =
        ((s.updateRoomCall r p).1.sendUpdateRoomPacketToAll r (s.updateRoomCall r p).2).tellAll
          ((s.updateRoomCall r p).1.lobby.room r).roomUsers r (.replyUpdateRoomSettings (readRoomSettings p).1) ∧
      (s.UpdateReachesLobby r p ↔
        ((readRoomSettings p).1.low ROOMSETTINGS_LFLAG_WEAPONLIMIT = true →
          (readRoomSettings p).1.weaponLimit = (s.lobby.room r).roomSettings.weaponLimit) ∧
        ((readRoomSettings p).1.low ROOMSETTINGS_LFLAG_ROOMSTATE = true →
          (readRoomSettings p).1.roomState = (s.lobby.room r).roomSettings.roomState)) := by
  constructor
  · dsimp only [parsePacket_Room_UpdateRoomSettings]
    rw [current]
    simp [host,updateRoomCall]
  · have stored : ((s.updateRoomCall r p).1.lobby.room r).roomSettings =
        (s.lobby.room r).roomSettings.update (readRoomSettings p).1 := by
      simp [updateRoomCall,Lobby.setRoom,Room.updateRoomSettings]
    rw [UpdateReachesLobby,stored]
    exact coversUpdate

section Sample

-- A user alone in its room, and its packet that selects the weapon limit.
def hosting : State := run step sampleStart [connects,arrives 0 (transferLoginBody "one"),arrives 0 createRoomBody]

def weaponLimitPacket : Packet := (received [65,5,0,0x20,0,0,0,7]).readUInt8.2.readUInt8.2

theorem updateRoomFlagWeaponLimit : ¬ hosting.UpdateReachesLobby 1 weaponLimitPacket := by
  rw [(updateRoomFlag (u := 0) (by decide +kernel) (by decide +kernel)).2]
  decide +kernel

theorem weaponLimitUntold :
    ¬ ∀ (s : State) (u : UserRef) (r : RoomRef) (p : Packet), s.currentRoom u [.InRoom] = some r →
      (s.lobby.room r).roomHostUser = u → s.UpdateReachesLobby r p := by
  intro always
  have reaches := always hosting 0 1 weaponLimitPacket (by decide +kernel) (by decide +kernel)
  exact reaches .weaponLimit (by decide +kernel) (by decide +kernel)

end Sample
end State
end CsoMaster
