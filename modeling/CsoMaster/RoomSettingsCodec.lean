import CsoMaster.PacketBytes

/-! The settings of a room on the wire: `buildRoomSettings` writes what the flags select, and
`readRoomSettings` takes back exactly that. `roomSettingsTypes` is the layout itself; every body
of that layout is one that some settings are written as. -/
namespace CsoMaster
open ByteOrder Cursor Packet

def Unk80000000Vec.writes (v : Unk80000000Vec) : List Write :=
  [.uint32 .little v.unk8000000_vec_1,.uint32 .little v.unk8000000_vec_2,.uint8 v.unk8000000_vec_3,
    .uint8 v.unk8000000_vec_4,.uint8 v.unk8000000_vec_5,.uint8 v.unk8000000_vec_6,
    .uint16 .little v.unk8000000_vec_7,.uint8 v.unk8000000_vec_8,.uint8 v.unk8000000_vec_9]

-- The calls of `buildRoomSettings`, group by group.
def roomSettingsWrites (s : RoomSettings) : List (List Write) :=
  [[.uint32 .little s.lowFlag,.uint8 s.highFlag],
    chosen (s.low ROOMSETTINGS_LFLAG_ROOMNAME) [.string s.roomName],
    chosen (s.low ROOMSETTINGS_LFLAG_UNK2) [.uint8 s.unk2],
    chosen (s.low ROOMSETTINGS_LFLAG_UNK4) [.uint8 s.unk4_1,.uint8 s.unk4_2,.uint8 s.unk4_3,.uint32 .little s.unk4_4],
    chosen (s.low ROOMSETTINGS_LFLAG_PASSWORD) [.string s.password],
    chosen (s.low ROOMSETTINGS_LFLAG_LEVELLIMIT) [.uint8 s.levelLimit],
    chosen (s.low ROOMSETTINGS_LFLAG_UNK20) [.uint8 s.unk20],
    chosen (s.low ROOMSETTINGS_LFLAG_GAMEMODEID) [.uint8 s.gameModeID],
    chosen (s.low ROOMSETTINGS_LFLAG_MAPID) [.uint8 s.mapID],
    chosen (s.low ROOMSETTINGS_LFLAG_MAXPLAYERS) [.uint8 s.maxPlayers],
    chosen (s.low ROOMSETTINGS_LFLAG_WINLIMIT) [.uint8 s.winLimit],
    chosen (s.low ROOMSETTINGS_LFLAG_KILLLIMIT) [.uint16 .little s.killLimit],
    chosen (s.low ROOMSETTINGS_LFLAG_TIMELIMIT) [.uint8 s.timeLimit],
    chosen (s.low ROOMSETTINGS_LFLAG_ROUNDTIME) [.uint8 s.roundTime],
    chosen (s.low ROOMSETTINGS_LFLAG_WEAPONLIMIT) [.uint8 s.weaponLimit],
    chosen (s.low ROOMSETTINGS_LFLAG_HOSTAGEPENALTY) [.uint8 s.hostagePenalty],
    chosen (s.low ROOMSETTINGS_LFLAG_FREEZETIME) [.uint8 s.freezeTime],
    chosen (s.low ROOMSETTINGS_LFLAG_BUYTIME) [.uint8 s.buyTime],
    chosen (s.low ROOMSETTINGS_LFLAG_NICKNAMEDISPLAY) [.uint8 s.nickNameDisplay],
    chosen (s.low ROOMSETTINGS_LFLAG_UNK40000) [.uint8 s.unk40000],
    chosen (s.low ROOMSETTINGS_LFLAG_UNK80000) [.uint8 s.unk80000],
    chosen (s.low ROOMSETTINGS_LFLAG_FRIENDLYFIRE) [.bool s.friendlyFire],
    chosen (s.low ROOMSETTINGS_LFLAG_FLASHLIGHT) [.bool s.flashLight],
    chosen (s.low ROOMSETTINGS_LFLAG_FOOTSTEPS) [.bool s.footSteps],
    chosen (s.low ROOMSETTINGS_LFLAG_UNK800000) [.uint8 s.unk800000],
    chosen (s.low ROOMSETTINGS_LFLAG_UNK1000000) [.uint8 s.unk1000000],
    chosen (s.low ROOMSETTINGS_LFLAG_UNK2000000) [.uint8 s.unk2000000],
    chosen (s.low ROOMSETTINGS_LFLAG_UNK4000000) [.uint8 s.unk4000000],
    chosen (s.low ROOMSETTINGS_LFLAG_UNK8000000) [.uint8 s.unk8000000],
    chosen (s.low ROOMSETTINGS_LFLAG_DEATHCAMERATYPE) [.uint8 s.deathCameraType],
    chosen (s.low ROOMSETTINGS_LFLAG_VOICECHAT) [.bool s.voiceChat],
    chosen (s.low ROOMSETTINGS_LFLAG_ROOMSTATE) [.uint8 s.roomState],
    chosen (s.low ROOMSETTINGS_LFLAG_UNK80000000)
      (.uint8 s.unk80000000_1 :: (s.unk80000000_2.1.writes ++ s.unk80000000_2.2.writes)),
    chosen (s.high ROOMSETTINGS_HFLAG_UNK1)
      [.uint32 .little s.unkh1_1,.string s.unkh1_2,.uint8 s.unkh1_3,.uint8 s.unkh1_4,.uint8 s.unkh1_5],
    chosen (s.high ROOMSETTINGS_HFLAG_UNK2) [.uint8 s.unkh2]]

def Packet.buildRoomSettings (p : Packet) (s : RoomSettings) : Packet := (roomSettingsWrites s).flatten.foldl write p

-- What that appends to the packet.
def writtenRoomSettings (s : RoomSettings) : Bytes := (roomSettingsWrites s).flatMap (·.flatMap Write.bytes)

theorem buildRoomSettingsBuffer {p : Packet} (h : p.Unframed) (s : RoomSettings) :
    (p.buildRoomSettings s).buffer = p.buffer ++ writtenRoomSettings s := by
  rw [buildRoomSettings,writesBuffer h,List.flatten_eq_flatMap,List.flatMap_assoc]
  rfl

namespace RoomSettings

-- The flags and the fields they select; the rest is what a new object has.
def selected (s : RoomSettings) : RoomSettings :=
  { (default : RoomSettings) with lowFlag := s.lowFlag, highFlag := s.highFlag }.update s

structure NulFree (s : RoomSettings) : Prop where
  roomName : 0 ∉ s.roomName
  password : 0 ∉ s.password
  unkh1_2 : 0 ∉ s.unkh1_2

-- What a room stores: every field counts.
structure Whole (s : RoomSettings) : Prop extends NulFree s where
  lowFlag : s.lowFlag = ROOMSETTINGS_LFLAG_ALL
  highFlag : s.highFlag = ROOMSETTINGS_HFLAG_ALL

theorem Whole.selected {s : RoomSettings} (whole : s.Whole) : s.selected = s := by
  have low {flag : UInt32} (some : ROOMSETTINGS_LFLAG_ALL &&& flag ≠ 0) : s.low flag = true := by
    rw [RoomSettings.low,whole.lowFlag]
    exact decide_eq_true some
  have high {flag : UInt8} (some : ROOMSETTINGS_HFLAG_ALL &&& flag ≠ 0) : s.high flag = true := by
    rw [RoomSettings.high,whole.highFlag]
    exact decide_eq_true some
  simp (disch := decide) only [RoomSettings.selected,update,low,high,if_true]

theorem Whole.update {c s : RoomSettings} (whole : c.Whole) (clean : s.NulFree) : (c.update s).Whole where
  lowFlag := whole.lowFlag
  highFlag := whole.highFlag
  roomName := by unfold RoomSettings.update; dsimp only; split; exacts [clean.roomName,whole.roomName]
  password := by unfold RoomSettings.update; dsimp only; split; exacts [clean.password,whole.password]
  unkh1_2 := by unfold RoomSettings.update; dsimp only; split; exacts [clean.unkh1_2,whole.unkh1_2]

theorem ofRoomStateClean (roomState : RoomState) : (ofRoomState roomState).NulFree :=
  ⟨List.not_mem_nil,List.not_mem_nil,List.not_mem_nil⟩

end RoomSettings

section Read

theorem unk80000000VecReads (v : Unk80000000Vec) : Reads readUnk80000000Vec (v.writes.flatMap Write.bytes) v := by
  simp only [Unk80000000Vec.writes,List.flatMap_cons,List.flatMap_nil]
  exact .bind (Reader.uint32Reads _) (.bind (Reader.uint32Reads _) (.bind (Reader.uint8Reads _) (.bind (Reader.uint8Reads _)
    (.bind (Reader.uint8Reads _) (.bind (Reader.uint8Reads _) (.bind (Reader.uint16Reads _) (.bind (Reader.uint8Reads _)
      (.bind (Reader.uint8Reads _) (.pure _)))))))))

theorem chosenPair {α β : Type} (selected : Bool) (given none : α × β) :
    (if selected then given else none) =
      (if selected then given.1 else none.1,if selected then given.2 else none.2) := by
  cases selected <;> rfl

theorem readRoomSettingsWritten {s : RoomSettings} (clean : s.NulFree) :
    Reads readRoomSettings (writtenRoomSettings s) s.selected := by
  have byte (flag : UInt32) (v : UInt8) := Reader.givenReads (s.low flag) (Reader.uint8Reads v)
  have switch (flag : UInt32) (v : Bool) := Reader.givenReads (s.low flag) (Reader.boolReads v)
  have highByte (flag : UInt8) (v : UInt8) := Reader.givenReads (s.high flag) (Reader.uint8Reads v)
  have vec (flag : UInt32) (v : Unk80000000Vec) := Reader.givenReads (s.low flag) (unk80000000VecReads v)
  simp only [← chosenFlatMap] at vec
  have whole : s.selected = { s.selected with unk80000000_2 :=
      (if s.low ROOMSETTINGS_LFLAG_UNK80000000 then s.unk80000000_2.1 else default,
        if s.low ROOMSETTINGS_LFLAG_UNK80000000 then s.unk80000000_2.2 else default) } :=
    congrArg (fun pair => { s.selected with unk80000000_2 := pair }) (chosenPair _ s.unk80000000_2 default)
  rw [whole]
  unfold writtenRoomSettings roomSettingsWrites readRoomSettings
  simp only [List.flatMap_cons,List.flatMap_nil,chosenCons,chosenNil,List.flatMap_append,
    chosenAppend,List.append_assoc,List.nil_append]
  -- Field by field, in the order of the bits.
  refine .bind (Reader.uint32Reads _) (.bind (Reader.uint8Reads _) ?_)
  refine .bind (Reader.givenReads _ (Reader.stringReads clean.roomName)) (.bind (byte _ _) ?_)
  refine .bind (byte _ _) (.bind (byte _ _) (.bind (byte _ _) (.bind (Reader.givenReads _ (Reader.uint32Reads _)) ?_)))
  refine .bind (Reader.givenReads _ (Reader.stringReads clean.password)) (.bind (byte _ _) (.bind (byte _ _) ?_))
  refine .bind (byte _ _) (.bind (byte _ _) (.bind (byte _ _) (.bind (byte _ _) ?_)))
  refine .bind (Reader.givenReads _ (Reader.uint16Reads _)) (.bind (byte _ _) (.bind (byte _ _) (.bind (byte _ _) ?_)))
  refine .bind (byte _ _) (.bind (byte _ _) (.bind (byte _ _) (.bind (byte _ _) (.bind (byte _ _) (.bind (byte _ _) ?_)))))
  refine .bind (switch _ _) (.bind (switch _ _) (.bind (switch _ _) ?_))
  refine .bind (byte _ _) (.bind (byte _ _) (.bind (byte _ _) (.bind (byte _ _) (.bind (byte _ _) (.bind (byte _ _) ?_)))))
  refine .bind (switch _ _) (.bind (byte _ _) (.bind (byte _ _) (.bind (vec _ _) (.bind (vec _ _) ?_))))
  refine .bind (Reader.givenReads _ (Reader.uint32Reads _)) (.bind (Reader.givenReads _ (Reader.stringReads clean.unkh1_2)) ?_)
  exact .bind (highByte _ _) (.bind (highByte _ _) (.bind (highByte _ _) (.bind (highByte _ _) (.pure _))))

theorem readRoomSettingsClean (p : Packet) : (readRoomSettings p).1.NulFree := by
  refine (show Yields readRoomSettings RoomSettings.NulFree from ?_) p
  refine .skip fun lowFlag => .skip fun highFlag => ?_
  refine .bind (Reader.givenClean _) fun roomName roomNameClean => ?_
  iterate 5 refine .skip fun _ => ?_
  refine .bind (Reader.givenClean _) fun password passwordClean => ?_
  iterate 31 refine .skip fun _ => ?_
  refine .bind (Reader.givenClean _) fun unkh1_2 unkh1_2Clean => ?_
  iterate 4 refine .skip fun _ => ?_
  exact .pure ⟨roomNameClean,passwordClean,unkh1_2Clean⟩

end Read

section Select
variable {s : RoomSettings}

-- Only what the flags select is written.
theorem writtenSelected : writtenRoomSettings s.selected = writtenRoomSettings s := by
  have low (flag : UInt32) {calls others : List Write} (same : s.low flag = true → calls = others) :
      chosen (s.selected.low flag) calls = chosen (s.low flag) others := by
    change chosen (s.low flag) calls = _
    cases on : s.low flag
    · rfl
    · rw [same on]
  have high (flag : UInt8) {calls others : List Write} (same : s.high flag = true → calls = others) :
      chosen (s.selected.high flag) calls = chosen (s.high flag) others := by
    change chosen (s.high flag) calls = _
    cases on : s.high flag
    · rfl
    · rw [same on]
  have groups : roomSettingsWrites s.selected = roomSettingsWrites s := by
    unfold roomSettingsWrites
    refine congrArg₂ List.cons rfl ?_
    iterate 32 refine congrArg₂ List.cons (low _ fun on => by simp [RoomSettings.selected,RoomSettings.update,on]) ?_
    iterate 2 refine congrArg₂ List.cons (high _ fun on => by simp [RoomSettings.selected,RoomSettings.update,on]) ?_
    rfl
  rw [writtenRoomSettings,groups,writtenRoomSettings]

end Select

section Layout
open WireType

def unk80000000VecTypes : List WireType := [uint32,uint32,uint8,uint8,uint8,uint8,uint16,uint8,uint8]

-- What stands on the wire behind the two flags, group by group.
def roomSettingsTypes (lowFlag : UInt32) (highFlag : UInt8) : List WireType :=
  let low (flag : UInt32) : Bool := lowFlag &&& flag ≠ 0
  let high (flag : UInt8) : Bool := highFlag &&& flag ≠ 0
  [chosen (low ROOMSETTINGS_LFLAG_ROOMNAME) [string],
    chosen (low ROOMSETTINGS_LFLAG_UNK2) [uint8],
    chosen (low ROOMSETTINGS_LFLAG_UNK4) [uint8,uint8,uint8,uint32],
    chosen (low ROOMSETTINGS_LFLAG_PASSWORD) [string],
    chosen (low ROOMSETTINGS_LFLAG_LEVELLIMIT) [uint8],
    chosen (low ROOMSETTINGS_LFLAG_UNK20) [uint8],
    chosen (low ROOMSETTINGS_LFLAG_GAMEMODEID) [uint8],
    chosen (low ROOMSETTINGS_LFLAG_MAPID) [uint8],
    chosen (low ROOMSETTINGS_LFLAG_MAXPLAYERS) [uint8],
    chosen (low ROOMSETTINGS_LFLAG_WINLIMIT) [uint8],
    chosen (low ROOMSETTINGS_LFLAG_KILLLIMIT) [uint16],
    chosen (low ROOMSETTINGS_LFLAG_TIMELIMIT) [uint8],
    chosen (low ROOMSETTINGS_LFLAG_ROUNDTIME) [uint8],
    chosen (low ROOMSETTINGS_LFLAG_WEAPONLIMIT) [uint8],
    chosen (low ROOMSETTINGS_LFLAG_HOSTAGEPENALTY) [uint8],
    chosen (low ROOMSETTINGS_LFLAG_FREEZETIME) [uint8],
    chosen (low ROOMSETTINGS_LFLAG_BUYTIME) [uint8],
    chosen (low ROOMSETTINGS_LFLAG_NICKNAMEDISPLAY) [uint8],
    chosen (low ROOMSETTINGS_LFLAG_UNK40000) [uint8],
    chosen (low ROOMSETTINGS_LFLAG_UNK80000) [uint8],
    chosen (low ROOMSETTINGS_LFLAG_FRIENDLYFIRE) [bool],
    chosen (low ROOMSETTINGS_LFLAG_FLASHLIGHT) [bool],
    chosen (low ROOMSETTINGS_LFLAG_FOOTSTEPS) [bool],
    chosen (low ROOMSETTINGS_LFLAG_UNK800000) [uint8],
    chosen (low ROOMSETTINGS_LFLAG_UNK1000000) [uint8],
    chosen (low ROOMSETTINGS_LFLAG_UNK2000000) [uint8],
    chosen (low ROOMSETTINGS_LFLAG_UNK4000000) [uint8],
    chosen (low ROOMSETTINGS_LFLAG_UNK8000000) [uint8],
    chosen (low ROOMSETTINGS_LFLAG_DEATHCAMERATYPE) [uint8],
    chosen (low ROOMSETTINGS_LFLAG_VOICECHAT) [bool],
    chosen (low ROOMSETTINGS_LFLAG_ROOMSTATE) [uint8],
    chosen (low ROOMSETTINGS_LFLAG_UNK80000000) ([uint8] ++ unk80000000VecTypes ++ unk80000000VecTypes),
    chosen (high ROOMSETTINGS_HFLAG_UNK1) [uint32,string,uint8,uint8,uint8],
    chosen (high ROOMSETTINGS_HFLAG_UNK2) [uint8]].flatten

-- A complete body: nothing is missing, every string ends and every switch is 0 or 1.
def RoomSettingsBody (body : Bytes) : Prop :=
  ∃ lowFlag highFlag fields, uint32.Spells lowFlag ∧ body = lowFlag ++ highFlag :: fields ∧
    Spelled Spells (roomSettingsTypes (UInt32.ofNat (decode .little lowFlag)) highFlag) fields

@[elab_as_elim] theorem unk80000000VecField {selected : Bool} {ts : List WireType} {text : Bytes}
    {goal : Bytes → Prop} (spelled : Spelled Spells (chosen selected unk80000000VecTypes ++ ts) text)
    (rest : ∀ (v : Unk80000000Vec) (tail : Bytes), Spelled Spells ts tail →
      goal ((chosen selected v.writes).flatMap Write.bytes ++ tail)) : goal text := by
  simp only [unk80000000VecTypes,chosenSplit,List.append_assoc] at spelled
  refine uint32Field spelled fun v1 _ spelled => ?_
  refine uint32Field spelled fun v2 _ spelled => ?_
  refine uint8Field spelled fun v3 _ spelled => ?_
  refine uint8Field spelled fun v4 _ spelled => ?_
  refine uint8Field spelled fun v5 _ spelled => ?_
  refine uint8Field spelled fun v6 _ spelled => ?_
  refine uint16Field spelled fun v7 _ spelled => ?_
  refine uint8Field spelled fun v8 _ spelled => ?_
  refine uint8Field spelled fun v9 _ spelled => ?_
  have whole := rest ⟨v1,v2,v3,v4,v5,v6,v7,v8,v9⟩ _ spelled
  simpa only [Unk80000000Vec.writes,chosenCons,chosenNil,List.append_assoc,List.nil_append] using whole

theorem roomSettingsBodyWritten {body : Bytes} (formed : RoomSettingsBody body) :
    ∃ s : RoomSettings, s.NulFree ∧ body = writtenRoomSettings s := by
  obtain ⟨_,highFlag,_,flag,rfl,rest⟩ := formed
  obtain ⟨lowFlag,rfl⟩ := spellsUint32 flag
  have flags : UInt32.ofNat (decode .little (Write.uint32 .little lowFlag).bytes) = lowFlag := by
    rw [Write.bytes,decodeEncode _ lowFlag.toNat_lt,UInt32.ofNat_toNat]
  rw [flags] at rest
  simp only [roomSettingsTypes,List.flatten_cons,List.flatten_nil,chosenAppend,chosenSplit,List.append_assoc] at rest
  -- One field after the other off the front.
  refine stringField rest fun roomName _ roomNameClean rest => ?_
  refine uint8Field rest fun unk2 _ rest => ?_
  refine uint8Field rest fun unk4_1 _ rest => ?_
  refine uint8Field rest fun unk4_2 _ rest => ?_
  refine uint8Field rest fun unk4_3 _ rest => ?_
  refine uint32Field rest fun unk4_4 _ rest => ?_
  refine stringField rest fun password _ passwordClean rest => ?_
  refine uint8Field rest fun levelLimit _ rest => ?_
  refine uint8Field rest fun unk20 _ rest => ?_
  refine uint8Field rest fun gameModeID _ rest => ?_
  refine uint8Field rest fun mapID _ rest => ?_
  refine uint8Field rest fun maxPlayers _ rest => ?_
  refine uint8Field rest fun winLimit _ rest => ?_
  refine uint16Field rest fun killLimit _ rest => ?_
  refine uint8Field rest fun timeLimit _ rest => ?_
  refine uint8Field rest fun roundTime _ rest => ?_
  refine uint8Field rest fun weaponLimit _ rest => ?_
  refine uint8Field rest fun hostagePenalty _ rest => ?_
  refine uint8Field rest fun freezeTime _ rest => ?_
  refine uint8Field rest fun buyTime _ rest => ?_
  refine uint8Field rest fun nickNameDisplay _ rest => ?_
  refine uint8Field rest fun unk40000 _ rest => ?_
  refine uint8Field rest fun unk80000 _ rest => ?_
  refine boolField rest fun friendlyFire _ rest => ?_
  refine boolField rest fun flashLight _ rest => ?_
  refine boolField rest fun footSteps _ rest => ?_
  refine uint8Field rest fun unk800000 _ rest => ?_
  refine uint8Field rest fun unk1000000 _ rest => ?_
  refine uint8Field rest fun unk2000000 _ rest => ?_
  refine uint8Field rest fun unk4000000 _ rest => ?_
  refine uint8Field rest fun unk8000000 _ rest => ?_
  refine uint8Field rest fun deathCameraType _ rest => ?_
  refine boolField rest fun voiceChat _ rest => ?_
  refine uint8Field rest fun roomState _ rest => ?_
  refine uint8Field rest fun unk80000000_1 _ rest => ?_
  refine unk80000000VecField rest fun first _ rest => ?_
  refine unk80000000VecField rest fun second _ rest => ?_
  refine uint32Field rest fun unkh1_1 _ rest => ?_
  refine stringField rest fun unkh1_2 _ unkh1_2Clean rest => ?_
  refine uint8Field rest fun unkh1_3 _ rest => ?_
  refine uint8Field rest fun unkh1_4 _ rest => ?_
  refine uint8Field rest fun unkh1_5 _ rest => ?_
  refine uint8Field rest fun unkh2 _ rest => ?_
  cases rest
  let s : RoomSettings :=
    { lowFlag,highFlag,roomName,unk2,unk4_1,unk4_2,unk4_3,unk4_4,password,levelLimit,unk20,gameModeID,mapID,maxPlayers,
      winLimit,killLimit,timeLimit,roundTime,weaponLimit,hostagePenalty,freezeTime,buyTime,nickNameDisplay,unk40000,
      unk80000,friendlyFire,flashLight,footSteps,unk800000,unk1000000,unk2000000,unk4000000,unk8000000,deathCameraType,
      voiceChat,roomState,unk80000000_1,unk80000000_2 := (first,second),unkh1_1,unkh1_2,unkh1_3,unkh1_4,unkh1_5,unkh2 }
  refine ⟨s,⟨roomNameClean,passwordClean,unkh1_2Clean⟩,?_⟩
  unfold writtenRoomSettings roomSettingsWrites
  simp only [List.flatMap_cons,List.flatMap_nil,chosenCons,chosenNil,List.flatMap_append,chosenAppend,List.append_assoc,
    List.nil_append]
  rfl

end Layout

section Codec

-- A packet `q` being built, and a packet `p` being read with the written bytes ahead.
theorem roomSettingsCodec :
    (∀ (q p : Packet) (s : RoomSettings) (bytes tail : Bytes), q.Unframed → s.NulFree →
      (q.buildRoomSettings s).buffer = q.buffer ++ bytes → rest p = bytes ++ tail →
      readRoomSettings p = (s.selected,advance p bytes.length)) ∧
    ∀ (q p : Packet) (body : Bytes), q.Unframed → RoomSettingsBody body → rest p = body →
      (q.buildRoomSettings (readRoomSettings p).1).buffer = q.buffer ++ body := by
  constructor
  · intro q p s bytes tail unframed clean built ahead
    rw [buildRoomSettingsBuffer unframed,List.append_cancel_left_eq] at built
    subst built
    exact readRoomSettingsWritten clean p tail ahead
  · intro q p body unframed formed ahead
    obtain ⟨s,clean,rfl⟩ := roomSettingsBodyWritten formed
    have parsed := readRoomSettingsWritten clean p [] (by rw [ahead,List.append_nil])
    rw [parsed,buildRoomSettingsBuffer unframed,writtenSelected]

-- A name, a switch and the second group of the high flag.
def namedSettings : RoomSettings := { (default : RoomSettings) with
  lowFlag := ROOMSETTINGS_LFLAG_ROOMNAME ||| ROOMSETTINGS_LFLAG_VOICECHAT
  highFlag := ROOMSETTINGS_HFLAG_UNK2
  roomName := [114,111,111,109]
  voiceChat := true
  unkh2 := 9 }

def namedBody : Bytes := [1,0,0,32,2,114,111,111,109,0,1,9]

theorem namedFormed : RoomSettingsBody namedBody := by
  have types : roomSettingsTypes (UInt32.ofNat (decode .little [1,0,0,32])) 2 = [.string,.bool,.uint8] := by decide +kernel
  refine ⟨[1,0,0,32],2,_,rfl,rfl,?_⟩
  rw [types]
  change Spelled _ _ (([114,111,111,109,0] : Bytes) ++ (([1] : Bytes) ++ (([9] : Bytes) ++ [])))
  exact .cons ⟨[114,111,111,109],by decide,rfl⟩ (.cons (.inr rfl) (.cons rfl .nil))

theorem roomSettingsCodecNamed :
    readRoomSettings (createServer (namedBody ++ [7])) = (namedSettings,advance (createServer (namedBody ++ [7])) 12) ∧
      ((createServer []).buildRoomSettings (readRoomSettings (createServer namedBody)).1).buffer = namedBody :=
  ⟨roomSettingsCodec.1 (createServer []) _ namedSettings namedBody [7] (createServerUnframed _)
      ⟨by decide,by decide,by decide⟩ (by decide +kernel) rfl,
    roomSettingsCodec.2 (createServer []) (createServer namedBody) namedBody (createServerUnframed _) namedFormed rfl⟩

end Codec
end CsoMaster
