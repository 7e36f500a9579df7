import CsoMaster.ClientReading
import CsoMaster.TcpFraming
import CsoMaster.UsableConfig

/-! What the server sends is what is read. A record is read off its own fields, whatever follows
it; a packet is read off the whole of its body, to its last byte. -/
namespace CsoMaster
open Packet ByteOrder Cursor Reader Client

structure UserCharacter.NulFree (userCharacter : UserCharacter) : Prop where
  nickName : 0 ∉ userCharacter.nickName
  unk4_1 : 0 ∉ userCharacter.unk4_1
  unk200_5 : 0 ∉ userCharacter.unk200_5
  clanName : 0 ∉ userCharacter.clanName

structure GameUser.NulFree (gameUser : GameUser) : Prop where
  userName : 0 ∉ gameUser.userName
  userCharacter : gameUser.userCharacter.NulFree

-- The strings have no NUL in them, the counters can count, and the types are those of the kind.
def Message.Writable (w : Wiring) : Message → Prop
  | .userStart gameUser => 0 ∉ gameUser.userName ∧ 0 ∉ gameUser.userCharacter.nickName
  | .updateInfo gameUser | .userJoin gameUser => gameUser.userCharacter.NulFree
  | .inventory items => items.length ≤ 255
  | .serverList servers => servers.length ≤ 255 ∧ ∀ server ∈ servers, 0 ∉ (w.serverConfig.shows server).name ∧
      server.channels.length ≤ 255 ∧ ∀ channel ∈ server.channels, 0 ∉ w.serverConfig.channelName server channel
  | .userConfig config => config.length ≤ 65535
  | .userBuyMenu buyMenus => ∀ buyMenu ∈ buyMenus, buyMenu.items.length = BUYMENU_MAX_SLOT.toNat
  | .userBookMark bookMarks => ∀ bookMark ∈ bookMarks, 0 ∉ bookMark.name
  | .transfer _ authToken => 0 ∉ authToken
  | .fullUserList gameUsers => gameUsers.length ≤ 65535 ∧ ∀ gameUser ∈ gameUsers, gameUser.NulFree
  | .addUser gameUser => gameUser.NulFree
  | .fullRoomList rooms _ => rooms.length ≤ 65535 ∧ ∀ room ∈ rooms, 0 ∉ room.roomSettings.roomName
  | .addRoom room _ | .updateRoom room _ => 0 ∉ room.roomSettings.roomName
  | .replyCreateAndJoin _ _ roomSettings gameUsers =>
    roomSettings.NulFree ∧ gameUsers.length ≤ 255 ∧ ∀ gameUser ∈ gameUsers, gameUser.userCharacter.NulFree
  | .replyUpdateRoomSettings roomSettings => roomSettings.NulFree
  | .hostRestart _ gameMatchUsers saveData => gameMatchUsers.length ≤ 255 ∧ saveData.length ≤ 65535
  | .serverMessage type text additionalText =>
    type ∈ [.InfoMessage,.WarningMessage] ∧ 0 ∉ text ∧ additionalText.length ≤ 255 ∧ ∀ text ∈ additionalText, 0 ∉ text
  | .chat type senderNickName text => type ∈ [.WhisperChat,.ChannelChat,.RoomChat] ∧ 0 ∉ senderNickName ∧ 0 ∉ text
  | _ => True

namespace Client

section Lists
variable {α β : Type}

theorem uint64Reads (v : UInt64) : Reads uint64 (Write.uint64 .little v).bytes v := by
  have reads := encodedReads (Nat.succ_ne_zero 7) v.toNat_lt UInt64.ofNat
  rwa [UInt64.ofNat_toNat] at reads

theorem arrayReads {one : Reader β} {text : α → Bytes} {value : α → β} {as : List α}
    (each : ∀ a ∈ as, Reads one (text a) (value a)) : Reads (readArray one as.length) (as.flatMap text) (as.map value) := by
  induction as with
  | nil => exact .pure []
  | cons a as ih =>
    have later : Reads (do return value a :: (← readArray one as.length)) (as.flatMap text ++ []) (value a :: as.map value) :=
      (ih fun b mem => each b (List.mem_cons_of_mem _ mem)).bind (.pure _)
    exact (each a List.mem_cons_self).bind (later.cast (List.append_nil _))

theorem bytesReads {vec : Bytes} {size : Nat} (sized : vec.length = size) : Reads (Client.bytes size) (Write.arrayUInt8 vec).bytes vec := by
  subst sized
  exact (FieldBuffer.arrayReads uint8Reads vec).cast (List.flatMap_singleton' vec)

theorem listReads (width : CountWidth) {one : Reader β} {writes : α → List Write} {value : α → β} {as : List α}
    (few : as.length ≤ WireList.capacity width) (each : ∀ a ∈ as, Reads one ((writes a).flatMap Write.bytes) (value a)) :
    Reads (readList width one) ((⟨width,as.map writes⟩ : WireList).writes.flatMap Write.bytes) (as.map value) := by
  have records : (as.map writes).flatten.flatMap Write.bytes = as.flatMap fun a => (writes a).flatMap Write.bytes := by
    rw [← List.flatMap_def,List.flatMap_assoc]
  have counted : WireList.count ⟨width,as.map writes⟩ = as.length := by
    have exact := WireList.exactOf (l := ⟨width,as.map writes⟩) (by simpa using few)
    simpa [WireList.Exact] using exact
  have array := arrayReads each
  rw [← counted] at array
  rw [WireList.writes,List.flatMap_cons,records]
  cases width with
  | byte => exact (uint8Reads _).bind array
  | short => exact (uint16Reads _).bind array

theorem returned {read : Reader α} {text : Bytes} {a : α} (reads : Reads read text a) (f : α → β) :
    Reads (do return f (← read)) text (f a) :=
  (reads.bind (.pure (f a))).cast (List.append_nil _)

theorem stringsRead {additionalText : List Bytes} (few : additionalText.length ≤ 255) (clean : ∀ text ∈ additionalText, 0 ∉ text) :
    Reads (readList .byte string)
      ((Write.uint8 (UInt8.ofNat additionalText.length) :: additionalText.map .string).flatMap Write.bytes) additionalText := by
  have each (text : Bytes) (mem : text ∈ additionalText) : Reads string ([Write.string text].flatMap Write.bytes) (id text) := by
    simpa using stringReads (clean text mem)
  have reads := listReads .byte few each
  rw [List.map_id] at reads
  refine reads.cast ?_
  have strings : (additionalText.map fun text => [Write.string text]).flatten = additionalText.map .string := by
    rw [← List.flatMap_def,List.map_eq_flatMap]
  simp [WireList.writes,WireList.counter,strings]

end Lists

section Records

theorem flaggedReads {α : Type} [Inhabited α] {read : Reader α} {text : Bytes} {a : α} (flag bit : UInt16) (reads : Reads read text a) :
    Reads (given (hasFlag flag bit) read) (chosen (hasFlag flag bit) text) (if flag &&& bit ≠ 0 then a else default) := by
  have same : (if hasFlag flag bit then a else default) = if flag &&& bit ≠ 0 then a else default :=
    if_congr (by simp [hasFlag]) rfl rfl
  exact same ▸ givenReads (hasFlag flag bit) reads

-- Field by field, in the order of the bits.
theorem userCharacterReads {userCharacter : UserCharacter} (clean : userCharacter.NulFree) :
    Reads readUserCharacter (userCharacter.writes.flatten.flatMap Write.bytes) (userCharacter.select userCharacter.flag) := by
  have byte (bit : UInt16) (v : UInt8) := flaggedReads userCharacter.flag bit (uint8Reads v)
  have short (bit : UInt16) (v : UInt16) := flaggedReads userCharacter.flag bit (uint16Reads v)
  have long (bit : UInt16) (v : UInt32) := flaggedReads userCharacter.flag bit (uint32Reads v)
  have wide (bit : UInt16) (v : UInt64) := flaggedReads userCharacter.flag bit (uint64Reads v)
  have text (bit : UInt16) {str : Bytes} (clean : 0 ∉ str) := flaggedReads userCharacter.flag bit (stringReads clean)
  unfold UserCharacter.writes UserCharacter.select readUserCharacter
  simp only [List.flatten_cons,List.flatten_nil,List.flatMap_append,List.flatMap_cons,List.flatMap_nil,chosenCons,chosenNil,
    List.append_assoc,List.nil_append]
  refine .bind (uint16Reads _) (.bind (byte _ _) (.bind (text _ clean.nickName) (.bind (text _ clean.unk4_1) ?_)))
  refine .bind (byte _ _) (.bind (byte _ _) (.bind (byte _ _) (.bind (byte _ _) (.bind (byte _ _) ?_))))
  refine .bind (wide _ _) (.bind (wide _ _) (.bind (wide _ _) ?_))
  refine .bind (long _ _) (.bind (long _ _) (.bind (long _ _) (.bind (long _ _) ?_)))
  refine .bind (text _ List.not_mem_nil) (.bind (short _ _) (.bind (short _ _) (.bind (short _ _) (.bind (text _ clean.unk200_5) ?_))))
  refine .bind (long _ _) (.bind (byte _ _) (.bind (long _ _) (.bind (long _ _) (.bind (text _ clean.clanName) ?_))))
  exact .bind (byte _ _) (.bind (byte _ _) (.bind (byte _ _) (.pure _)))

theorem userReads {gameUser : GameUser} (clean : gameUser.NulFree) :
    Reads readUser (gameUser.writes.flatMap Write.bytes) gameUser.shows := by
  refine Reads.cast ((uint32Reads _).bind ((stringReads clean.userName).bind ((userCharacterReads clean.userCharacter).bind
    (.pure _)))) ?_
  simp [GameUser.writes]

theorem roomUserReads {gameUser : GameUser} (clean : gameUser.userCharacter.NulFree) :
    Reads readRoomUser (gameUser.roomWrites.flatMap Write.bytes) gameUser.roomShows := by
  refine Reads.cast ((uint32Reads _).bind ((uint8Reads 0).bind ((uint8Reads 0).bind ((uint32Reads _).bind ((uint16Reads _).bind
    ((uint16Reads _).bind ((uint32Reads _).bind ((uint16Reads _).bind ((uint16Reads _).bind ((userCharacterReads clean).bind
      (.pure _))))))))))) ?_
  simp [GameUser.roomWrites]

theorem roomReads (ip : UInt32) (port flag : UInt16) {room : RoomInfo} (clean : 0 ∉ room.roomSettings.roomName) :
    Reads readRoom ((room.writes ip port flag).flatten.flatMap Write.bytes) (room.shows ip port flag) := by
  have byte (bit : UInt16) (v : UInt8) := givenReads (hasFlag flag bit) (uint8Reads v)
  have switch (bit : UInt16) (v : Bool) := givenReads (hasFlag flag bit) (boolReads v)
  have short (bit : UInt16) (v : UInt16) := givenReads (hasFlag flag bit) (uint16Reads v)
  have long (bit : UInt16) (v : UInt32) := givenReads (hasFlag flag bit) (uint32Reads v)
  unfold RoomInfo.writes RoomInfo.shows readRoom
  simp only [List.flatten_cons,List.flatten_nil,List.flatMap_append,List.flatMap_cons,List.flatMap_nil,chosenCons,chosenNil,
    List.append_assoc,List.nil_append]
  refine .bind (uint16Reads _) (.bind (uint16Reads _) (.bind (givenReads _ (stringReads clean)) (.bind (byte _ _) ?_)))
  refine .bind (switch _ _) (.bind (byte _ _) (.bind (byte _ _) (.bind (byte _ _) (.bind (byte _ _) (.bind (byte _ _) ?_)))))
  refine .bind (byte _ _) (.bind (long _ _) (.bind (byte _ _) (.bind (byte _ _) ?_)))
  refine .bind (long _ _) (.bind (short _ _) (.bind (long _ _) (.bind (short _ _) (.bind (byte _ _) ?_))))
  exact .bind (byte _ _) (.bind (byte _ _) (.bind (byte _ _) (.pure _)))

theorem channelReads {c : LoadedConfig} {server : Server} {channel : Channel} (clean : 0 ∉ c.channelName server channel) :
    Reads readChannel ((channelWrites c server channel).flatMap Write.bytes)
      ⟨channel.id,c.channelName server channel,channel.numPlayers⟩ := by
  refine Reads.cast ((uint8Reads _).bind ((stringReads clean).bind ((uint16Reads _).bind (.pure _)))) ?_
  simp [channelWrites]

theorem serverReads {c : LoadedConfig} {server : Server} (clean : 0 ∉ (c.shows server).name) (few : server.channels.length ≤ 255)
    (names : ∀ channel ∈ server.channels, 0 ∉ c.channelName server channel) :
    Reads readServer ((serverWrites c server).flatMap Write.bytes) (c.shows server) := by
  have channels := listReads .byte few fun channel listed => channelReads (names channel listed)
  refine Reads.cast ((uint8Reads _).bind ((boolReads _).bind ((uint8Reads _).bind ((stringReads clean).bind (channels.bind
    (.pure _)))))) ?_
  simp [serverWrites,channelList,LoadedConfig.shows]

theorem inventoryItemReads (item : InventoryItem) : Reads readInventoryItem (item.writes.flatMap Write.bytes) item := by
  refine Reads.cast ((uint8Reads _).bind ((uint8Reads 1).bind ((uint8Reads _).bind ((uint8Reads _).bind ((boolReads _).bind
    ((uint32Reads _).bind ((uint32Reads _).bind (.pure _)))))))) ?_
  simp [InventoryItem.writes]

theorem buyMenuReads {buyMenu : BuyMenu} (slots : buyMenu.items.length = BUYMENU_MAX_SLOT.toNat) :
    Reads readBuyMenu (buyMenu.writes.flatMap Write.bytes) buyMenu := by
  refine Reads.cast ((uint8Reads _).bind ((bytesReads slots).bind (.pure _))) ?_
  simp [BuyMenu.writes,Write.bytes,List.flatMap_map]

theorem bookMarkReads {bookMark : QueryText.BookMark} (clean : 0 ∉ bookMark.name) :
    Reads readBookMark (bookMark.writes.flatMap Write.bytes) bookMark := by
  refine Reads.cast ((uint8Reads _).bind ((stringReads clean).bind ((uint8Reads _).bind ((boolReads _).bind ((uint8Reads _).bind
    ((boolReads _).bind ((uint8Reads _).bind ((boolReads _).bind ((boolReads _).bind ((boolReads _).bind ((boolReads _).bind
      ((uint8Reads _).bind ((uint8Reads _).bind (.pure _)))))))))))))) ?_
  simp [QueryText.BookMark.writes]

end Records

section Packets
variable {w : Wiring} {calls : List Write} {a : Option Received}

theorem builtReads {id : UInt8} (ends : ReadsAll (readBody id) (calls.flatMap Write.bytes) a) :
    ReadsAll readPacket (build [id] calls).buffer a := by
  have buffer : (build [id] calls).buffer = [id] ++ calls.flatMap Write.bytes := writesBuffer (createServerUnframed [id]) calls
  exact ((uint8Reads id).before ends).cast buffer.symm

theorem typedReads {type : UInt8} {next : UInt8 → Reader (Option Received)} (ends : ReadsAll (next type) (calls.flatMap Write.bytes) a) :
    ReadsAll (uint8 >>= next) ((Write.uint8 type :: calls).flatMap Write.bytes) a :=
  (uint8Reads type).before ends

-- The text of a packet is one call after the other.
theorem callReads {call : Write} {α : Type} {read : Reader α} {v : α} {next : α → Reader (Option Received)} (reads : Reads read call.bytes v)
    (ends : ReadsAll (next v) (calls.flatMap Write.bytes) a) : ReadsAll (read >>= next) ((call :: calls).flatMap Write.bytes) a :=
  reads.before ends

theorem lastReads {α : Type} {read : Reader α} {text : Bytes} {v : α} (reads : Reads read text v) (f : α → Received) :
    ReadsAll (do return some (f (← read))) text (some (f v)) :=
  (returned reads fun v => some (f v)).all

theorem replyReads (type : Packet_ReplyType) : ReadsAll readPacket (replyPacket type []).buffer (some (.reply type [])) := by
  have known : replyType (UInt8.ofInt type.code) = some type := by cases type <;> rfl
  have strings := @stringsRead [] (Nat.zero_le _) fun _ mem => nomatch mem
  have ends := (returned strings fun more => (replyType (UInt8.ofInt type.code)).map (Received.reply · more)).all
  rw [show some (Received.reply type []) = (replyType (UInt8.ofInt type.code)).map (Received.reply · []) by rw [known]; rfl]
  exact builtReads (callReads (uint8Reads _) (callReads (stringReads List.not_mem_nil) ends))

theorem cryptReads (type : CipherType) (cipher : Cipher) : ReadsAll readPacket (cryptPacket type cipher).buffer
    (some (.crypt type cipher.method (if cipher.keyed then cipher.key else []) (if cipher.keyed then cipher.iv else []))) := by
  have knownType : cipherType type.code = some type := by cases type <;> rfl
  have knownMethod : cipherMethod cipher.method.code = some cipher.method := by cases cipher.method <;> rfl
  have keyed : (cipher.method.code ≠ CipherMethod.CleanUp.code && cipher.method.code ≠ CipherMethod.CleanUp2.code) = cipher.keyed := by
    unfold Cipher.keyed
    cases cipher.method <;> rfl
  have key : Reads (readKey cipher.keyed) ((chosen cipher.keyed [.arrayUInt8 cipher.key,.arrayUInt8 cipher.iv]).flatMap Write.bytes)
      (if cipher.keyed then cipher.key else [],if cipher.keyed then cipher.iv else []) := by
    refine Reads.cast ((givenReads _ (bytesReads cipher.keySize)).bind ((givenReads _ (bytesReads cipher.ivSize)).bind (.pure _))) ?_
    rw [chosenCons,chosenCons,chosenNil]
  rw [← congrArg readKey keyed] at key
  have body : Reads readCrypt _ ((cipherType type.code).bind fun type => (cipherMethod cipher.method.code).map
      (Received.crypt type · (if cipher.keyed then cipher.key else []) (if cipher.keyed then cipher.iv else []))) :=
    .bind (uint8Reads type.code) (.bind (uint8Reads cipher.method.code) (.bind key (.pure _)))
  rw [knownType,knownMethod] at body
  refine builtReads (body.all.cast ?_)
  simp

theorem guestRestartReads (roomHostUserID : UInt32) :
    ReadsAll readPacket (guestRestartPacket roomHostUserID).buffer (some (.guestRestart roomHostUserID)) := by
  refine builtReads (typedReads (callReads (uint32Reads roomHostUserID) fun p ahead => ?_))
  have one : (rest p).length = 1 := by rw [ahead]; rfl
  have crashFlag : Reads (do let _ ← uint8; return some (.guestRestart roomHostUserID)) ([Write.uint8 1].flatMap Write.bytes)
      (some (Received.guestRestart roomHostUserID)) :=
    (uint8Reads 1).bind (.pure _)
  change (if (rest p).length = 1 then _ else _ : Reader (Option Received)) p = _
  rw [if_pos one]
  exact crashFlag.all p ahead

theorem hostRestartReadsBack {roomHostUserID : UInt32} {gameMatchUsers : List UInt32} {saveData : Bytes}
    (few : gameMatchUsers.length ≤ 255) (small : saveData.length ≤ 65535) :
    ReadsAll readPacket (hostRestartPacket roomHostUserID gameMatchUsers saveData).buffer
      (some (.hostRestart roomHostUserID (if saveData = [] then [] else gameMatchUsers) saveData)) := by
  refine builtReads (typedReads (callReads (uint32Reads roomHostUserID) fun p ahead => ?_))
  have more : (rest p).length ≠ 1 := by
    rw [ahead]
    change (encode .little 2 (UInt16.ofNat saveData.length).toNat ++ _).length ≠ 1
    rw [List.length_append,encodeLength]
    omega
  have saved := returned (@saveDataReads gameMatchUsers saveData (Nat.lt_succ_of_le small) (Nat.lt_succ_of_le few))
    fun saved => some (Received.hostRestart roomHostUserID saved.2 saved.1)
  change (if (rest p).length = 1 then _ else _ : Reader (Option Received)) p = _
  rw [if_neg more]
  exact (uint16Reads (UInt16.ofNat saveData.length)).before saved.all p ahead

theorem chatReads {type : Packet_UMsgType} (kind : type ∈ [.WhisperChat,.ChannelChat,.RoomChat]) {senderNickName text : Bytes}
    (sender : 0 ∉ senderNickName) (clean : 0 ∉ text) :
    ReadsAll readPacket (chatPacket type senderNickName text).buffer (some (.chat type senderNickName text)) := by
  have body : Reads (readChat type) ([Write.string senderNickName,.string text].flatMap Write.bytes)
      (some (.chat type senderNickName text)) :=
    (stringReads sender).bind ((stringReads clean).bind (.pure _))
  refine builtReads (typedReads ?_)
  cases type with
  | WhisperChat | ChannelChat | RoomChat => exact body.all
  | _ => cases kind; contradiction

theorem serverMessageReads {type : Packet_UMsgType} (kind : type ∈ [.InfoMessage,.WarningMessage]) {text : Bytes} (clean : 0 ∉ text)
    {additionalText : List Bytes} (few : additionalText.length ≤ 255) (more : ∀ text ∈ additionalText, 0 ∉ text) :
    ReadsAll readPacket (serverMessagePacket type text additionalText).buffer (some (.serverMessage type text additionalText)) := by
  have strings := (returned (stringsRead few more) fun more => some (Received.serverMessage type text more)).all
  refine builtReads (typedReads ?_)
  cases type with
  | InfoMessage | WarningMessage => exact callReads (stringReads clean) strings
  | _ => cases kind; contradiction

theorem favoriteListReads {α : Type} {type : UInt8} {one : Reader α} {writes : α → List Write} {as : List α} {f : List α → Received}
    {next : UInt8 → Reader (Option Received)} (same : next type = do return some (f (← readToEnd one)))
    (each : ∀ a ∈ as, (writes a).flatMap Write.bytes ≠ [] ∧ Reads one ((writes a).flatMap Write.bytes) a) :
    ReadsAll (uint8 >>= next) ((Write.uint8 type :: as.flatMap writes).flatMap Write.bytes) (some (f as)) := by
  have ends : ReadsAll (readToEnd one) (as.flatMap fun a => (writes a).flatMap Write.bytes) (as.map id) := readToEndReads each
  rw [List.map_id] at ends
  refine typedReads ?_
  rw [same,List.flatMap_assoc]
  exact ends.map fun as => some (f as)

theorem roomSettingsText (s : RoomSettings) : (roomSettingsWrites s).flatten.flatMap Write.bytes = writtenRoomSettings s := by
  rw [List.flatten_eq_flatMap,List.flatMap_assoc]
  rfl

-- One case for each packet: its ID, its type where the ID has several, and its fields.
theorem packetReads (m : Message) (writable : m.Writable w) : ReadsAll readPacket (m.packet w).buffer (some (m.shows w)) := by
  cases m with
  | version | character | clientCheck => exact builtReads (Reads.pure _).all
  | reply type => exact replyReads type
  | crypt type => exact cryptReads type (w.cipher type)
  | userStart gameUser =>
    exact builtReads (callReads (uint32Reads _) (callReads (stringReads writable.1) (callReads (stringReads writable.2) (Reads.pure _).all)))
  | updateInfo gameUser =>
    exact builtReads (callReads (uint32Reads _) (lastReads (userCharacterReads writable) (Received.updateInfo gameUser.userID)))
  | inventory items =>
    have records := listReads .byte writable fun item _ => inventoryItemReads item
    rw [List.map_id'] at records
    exact builtReads (lastReads records Received.inventory)
  | serverList servers =>
    have records := listReads .byte writable.1 fun server listed =>
      have ⟨name,few,names⟩ := writable.2 server listed
      serverReads name few names
    exact builtReads (lastReads records Received.serverList)
  | userConfig config =>
    have sized : config.length = (UInt16.ofNat config.length).toNat := (UInt16.toNat_ofNat_of_lt' (Nat.lt_succ_of_le writable)).symm
    exact builtReads (typedReads (callReads (uint16Reads _) (callReads (bytesReads sized) (Reads.pure _).all)))
  | userQuickStart quickStart => exact builtReads (typedReads (callReads (uint32Reads _) (Reads.pure _).all))
  | userBuyMenu buyMenus =>
    exact builtReads (favoriteListReads rfl fun buyMenu mem => ⟨List.cons_ne_nil _ _,buyMenuReads (writable buyMenu mem)⟩)
  | userBookMark bookMarks =>
    exact builtReads (favoriteListReads rfl fun bookMark mem => ⟨List.cons_ne_nil _ _,bookMarkReads (writable bookMark mem)⟩)
  | transfer destination authToken =>
    exact builtReads (callReads (uint32Reads _) (callReads (uint16Reads _) (callReads (uint8Reads 0) (callReads (stringReads writable)
      (Reads.pure _).all))))
  | fullUserList gameUsers =>
    have records := listReads .short writable.1 fun gameUser mem => userReads (writable.2 gameUser mem)
    refine builtReads (typedReads ((lastReads records Received.fullUserList).cast (congrArg (List.flatMap Write.bytes) ?_)))
    simp [WireList.writes,WireList.counter,List.flatMap]
  | addUser gameUser => exact builtReads (typedReads (lastReads (userReads writable) Received.addUser))
  | removeUser userID => exact builtReads (typedReads (callReads (uint32Reads _) (Reads.pure _).all))
  | fullRoomList rooms flag =>
    have records := listReads .short writable.1 fun room mem =>
      roomReads w.serverConfig.ip w.serverConfig.port flag (writable.2 room mem)
    refine builtReads (typedReads ((lastReads records Received.fullRoomList).cast (congrArg (List.flatMap Write.bytes) ?_)))
    simp [WireList.writes,WireList.counter,List.flatMap]
  | addRoom room flag => exact builtReads (typedReads (lastReads (roomReads _ _ flag writable) Received.addRoom))
  | removeRoom roomID => exact builtReads (typedReads (callReads (uint16Reads _) (Reads.pure _).all))
  | updateRoom room flag => exact builtReads (typedReads (lastReads (roomReads _ _ flag writable) Received.updateRoom))
  | replyCreateAndJoin hostUserID roomID roomSettings gameUsers =>
    obtain ⟨settings,few,users⟩ := writable
    have records := listReads .byte few fun gameUser mem => roomUserReads (users gameUser mem)
    refine builtReads (typedReads (callReads (uint32Reads _) (callReads (uint16Reads _) (callReads (uint8Reads 0)
      (ReadsAll.cast (Reads.before (readRoomSettingsWritten settings) (lastReads records _)) ?_)))))
    rw [← roomSettingsText,← List.flatMap_append]
    rfl
  | userJoin gameUser => exact builtReads (typedReads (lastReads (roomUserReads writable) Received.userJoin))
  | userLeave userID => exact builtReads (typedReads (callReads (uint32Reads _) (Reads.pure _).all))
  | userReady userID ready => exact builtReads (typedReads (callReads (uint32Reads _) (callReads (uint8Reads _) (Reads.pure _).all)))
  | replyUpdateRoomSettings roomSettings =>
    have settings := (lastReads (readRoomSettingsWritten writable) Received.replyUpdateRoomSettings).cast (roomSettingsText roomSettings).symm
    exact builtReads (typedReads settings)
  | gameResult =>
    exact builtReads (typedReads (callReads (boolReads false) (callReads (uint8Reads 0) (callReads (uint8Reads 0) (Reads.pure _).all))))
  | leaveRoomInGame => exact builtReads (typedReads (Reads.pure _).all)
  | hostStart userID | hostJoin userID => exact builtReads (typedReads (callReads (uint32Reads _) (Reads.pure _).all))
  | hostRestart roomHostUserID gameMatchUsers saveData => exact hostRestartReadsBack writable.1 writable.2
  | guestRestart roomHostUserID => exact guestRestartReads roomHostUserID
  | hostEndSession | resultClose => exact builtReads (typedReads (Reads.pure _).all)
  | serverMessage type text additionalText => exact serverMessageReads writable.1 writable.2.1 writable.2.2.1 writable.2.2.2
  | chat type senderNickName text => exact chatReads writable.1 writable.2.1 writable.2.2
  | shopList => exact builtReads (typedReads (callReads (uint8Reads 0) (Reads.pure _).all))
  | searchRoomReply result =>
    exact builtReads (typedReads (callReads (uint8Reads _) (callReads (uint8Reads _) (callReads (uint16Reads _) (Reads.pure _).all))))
  | modifySocketInfo portType userID ip port =>
    have known : (State.readPortType portType.code).map (Received.modifySocketInfo · userID ip port) =
        some (.modifySocketInfo portType userID ip port) := by cases portType <;> rfl
    refine builtReads (typedReads ?_)
    rw [Message.shows,← known]
    exact callReads (uint8Reads _) (callReads (uint32Reads _) (callReads (uint32Reads _) (callReads (uint16Reads _) (Reads.pure _).all)))

theorem readPacketBuffer {m : Message} (writable : m.Writable w) : read (m.packet w).buffer = some (m.shows w) := by
  have reads := packetReads m writable
  have said : (readPacket ⟨(m.packet w).buffer,0,0,0,0,0⟩).1 = some (m.shows w) := congrArg Prod.fst (reads _ rfl)
  have toItsEnd : rest (readPacket ⟨(m.packet w).buffer,0,0,0,0,0⟩).2 = [] := reads.nothingLeft
  unfold read
  simp only [toItsEnd,List.isEmpty_nil,if_pos]
  exact said

end Packets
end Client

section Connection
open TcpFraming

variable {w : Wiring}

theorem Message.packetBuilt (m : Message) (w : Wiring) : ∃ id calls, m.packet w = build [id] calls := by
  cases m <;> exact ⟨_,_,rfl⟩

-- The packets of some messages, as the sender takes them.
theorem outgoingPackets (w : Wiring) (ms : List Message) :
    ∃ packets : List OutgoingPacket, packets.map OutgoingPacket.packet = ms.map (Message.packet w) := by
  induction ms with
  | nil => exact ⟨[],rfl⟩
  | cons m ms ih =>
    obtain ⟨packets,same⟩ := ih
    obtain ⟨id,calls,built⟩ := m.packetBuilt w
    refine ⟨⟨[id],List.cons_ne_nil _ _,calls⟩ :: packets,?_⟩
    rw [List.map_cons,List.map_cons,same,built]
    rfl

theorem enqueuedFits (o : OutgoingPacket) : Enqueued o.packet ↔ o.fits = true := by
  rw [OutgoingPacket.fitsIff,Enqueued,OutgoingPacket.packet,builtLength,OutgoingPacket.body,OutgoingPacket.packet,PACKET_HEADER_SIZE]
  have buffer : (build o.initial o.calls).buffer = o.initial ++ o.calls.flatMap Write.bytes :=
    writesBuffer (createServerUnframed o.initial) o.calls
  rw [buffer,List.length_append,Nat.add_assoc]

-- `WritePacket` for one message after the other.
def writeMessages (w : Wiring) (ms : List Message) : Outgoing := ms.foldl (fun c m => writePacket c (m.packet w)) Outgoing.initial

theorem writtenMessages {ms : List Message} {packets : List OutgoingPacket}
    (same : packets.map OutgoingPacket.packet = ms.map (Message.packet w)) : writeMessages w ms = writeAll packets := by
  have left : writeMessages w ms = (ms.map (Message.packet w)).foldl writePacket Outgoing.initial := List.foldl_map.symm
  have right : writeAll packets = (packets.map OutgoingPacket.packet).foldl writePacket Outgoing.initial := List.foldl_map.symm
  rw [left,right,same]

-- The bodies of the packets that fit are those of the messages whose packets do.
theorem acceptedBodies {ms : List Message} {packets : List OutgoingPacket}
    (same : packets.map OutgoingPacket.packet = ms.map (Message.packet w)) :
    (packets.filter OutgoingPacket.fits).map OutgoingPacket.body =
      (ms.filter fun m => Enqueued (m.packet w)).map fun m => (m.packet w).buffer := by
  have fitting : packets.filter OutgoingPacket.fits = packets.filter ((fun p => decide (Enqueued p)) ∘ OutgoingPacket.packet) :=
    List.filter_congr fun o _ => by
      rw [Bool.eq_iff_iff,Function.comp_apply,decide_eq_true_iff,enqueuedFits]
  calc
    (packets.filter OutgoingPacket.fits).map OutgoingPacket.body
      = ((packets.map OutgoingPacket.packet).filter fun p => Enqueued p).map Packet.buffer := by
        rw [fitting,List.filter_map,List.map_map]
        rfl
    _ = (ms.filter fun m => Enqueued (m.packet w)).map fun m => (m.packet w).buffer := by
        rw [same,List.filter_map,List.map_map]
        rfl

-- Whatever is sent on a connection is read back, message by message, up to what is too long for a packet.
theorem messagesReceived (w : Wiring) (ms : List Message) (writable : ∀ m ∈ ms, m.Writable w) :
    let reader := receiveAll Incoming.initial (writeMessages w ms).outgoingPackets.flatten
    reader.phase = .header [] ∧
      (delivered reader).map Client.read = (ms.filter fun m => Enqueued (m.packet w)).map fun m => some (m.shows w) := by
  obtain ⟨packets,same⟩ := outgoingPackets w ms
  have framable : ∀ body ∈ (packets.filter OutgoingPacket.fits).map OutgoingPacket.body, Framable body := by
    intro body member
    obtain ⟨o,chosen,rfl⟩ := List.mem_map.mp member
    exact OutgoingPacket.bodyFramable (List.mem_filter.mp chosen).2
  obtain ⟨⟨phase,-⟩,heard⟩ := receiveFrames initialIdle framable
  rw [writtenMessages same,(writeAllFrames packets).1]
  refine ⟨phase,?_⟩
  have bodies : delivered (receiveAll Incoming.initial (frames 0 ((packets.filter OutgoingPacket.fits).map OutgoingPacket.body))) =
      (packets.filter OutgoingPacket.fits).map OutgoingPacket.body := heard
  rw [bodies,acceptedBodies same,List.map_map]
  exact List.map_congr_left fun m mem => Client.readPacketBuffer (writable m (List.mem_filter.mp mem).1)

def plainWiring : Wiring where
  serverConfig := .defaultLoaded
  inet_pton _ := 0
  cipher _ := ⟨.RC4,List.replicate KEY_SIZE 1,List.replicate BLOCK_SIZE 2,List.length_replicate,List.length_replicate⟩

theorem messagesReceivedRestart :
    (delivered (receiveAll Incoming.initial (writeMessages plainWiring
        [.reply .LoginSuccess,.chat .WhisperChat [65] [66],.hostRestart 7 [1,2] [4],.guestRestart 7]).outgoingPackets.flatten)).map Client.read =
      [some (.reply .LoginSuccess []),some (.chat .WhisperChat [65] [66]),some (.hostRestart 7 [1,2] [4]),some (.guestRestart 7)] := by
  refine (messagesReceived plainWiring _ ?_).2.trans (by decide +kernel)
  simp [Message.Writable]

end Connection
end CsoMaster
