import CsoMaster.StepTraces

/-! Which requests for an account come with a packet, whom a packet of a user may make hear what,
and that no step of the server makes or tells anything else. -/
namespace CsoMaster
open DatabaseManager

def Routine.run (routine : Routine) (d : Store) : Store := (routine.query.2 d).2

namespace State

/-! The requests a packet brings. -/

def readOption (p : Packet) : Option Request :=
  let type := p.readUInt8
  match type.1 with
  | 0 =>
    let size := type.2.readUInt16 .little
    if size.1 = 0 ∨ size.1.toNat > USERCONFIG_MAX_SIZE then none
    else some (.saveConfig (size.2.readArrayUInt8 size.1.toNat).1)
  | 1 => some (.saveQuickStart (type.2.readUInt32 .little).1)
  | _ => none

def readFavorite (p : Packet) : Option Request :=
  let type := p.readUInt8
  match type.1 with
  | 0 =>
    let categoryID := type.2.readUInt8
    if categoryID.1 ≥ BUYMENU_MAX_CATEGORY * 2 then none
    else
      let slotID := categoryID.2.readUInt8
      if slotID.1 ≥ BUYMENU_MAX_SLOT then none
      else some (.saveBuyMenu categoryID.1 slotID.1 slotID.2.readUInt8.1)
  | 1 => (QueryText.readUserBookMark type.2).map .saveBookMark
  | _ => none

-- What a new character comes to, in this order, as far as nothing fails.
def creation (s : State) (nickName : Bytes) : List Request :=
  [.buyMenus s.serverConfig.defaultBuyMenus,.bookMarks,.inventory s.serverConfig.defaultInventory s.environment.now,
    .character nickName]

def packetRequests (s : State) (c : ConnectionRef) (packet : Packet) : List (UInt32 × Request) :=
  let p := packet.readUInt8.2
  match packetID packet.readUInt8.1 with
  | some .RecvCharacter =>
    match s.getUserByConnection c with
    | none => []
    | some u =>
      if (s.lobby.user u).userStatus = .InLogin ∧ (QueryText.nickNameReply s.serverConfig.prohibitedNames p.readString.1).isNone then
        (s.creation p.readString.1).map ((s.lobby.user u).userID,·)
      else []
  | some .Option =>
    match s.loggedIn c with
    | none => []
    | some u => (readOption p).toList.map ((s.lobby.user u).userID,·)
  | some .Favorite =>
    match s.loggedIn c with
    | none => []
    | some u => (readFavorite p).toList.map ((s.lobby.user u).userID,·)
  | _ => []

def requests (s : State) : Action → List (UInt32 × Request)
  | .packet c packet => if c < s.accepted then s.packetRequests c packet else []
  | _ => []

/-! Whom users talk to. -/

-- The user a whisper is for has this name in the tables when it is looked up.
def addresses (s : State) (u : UserRef) (receiverNickName : Bytes) (v : UserRef) : Packet_UMsgType → Prop
  | .WhisperChat => (s.lobby.user u).userStatus ≠ .InServerList ∧ v ∈ s.lobby.users ∧ ∃ calls : List Routine, ∃ row,
      (answered (calls.foldl (fun d call => call.run d) s.store)).database.userCharacters.lookup (s.lobby.user v).userID = some row ∧
        row.nickName = receiverNickName
  | .ChannelChat => (s.lobby.user u).userStatus = .InLobby ∧ v ∈ s.usersInLobby
  | .RoomChat => ∃ r, s.currentRoom u [.InRoom] = some r ∧ v ∈ (s.lobby.room r).roomUsers ∧ (s.lobby.user v).userStatus = .InRoom
  | _ => False

-- The type, the receiver's name where it is a whisper, and the text of a chat packet.
def readChat (p : Packet) : Option (Packet_UMsgType × Bytes × Bytes) :=
  let type := p.readUInt8
  let first := type.2.readString
  match type.1 with
  | 0 => some (.WhisperChat,first.1,first.2.readString.1)
  | 1 => some (.ChannelChat,[],first.1)
  | 2 => some (.RoomChat,[],first.1)
  | _ => none

-- A user says what its packet has, under the name it has in the tables.
structure Talks (s : State) (c : ConnectionRef) (packet : Packet) (u v : UserRef) (type : Packet_UMsgType)
    (receiverNickName text nickName : Bytes) : Prop where
  kind : packetID packet.readUInt8.1 = some .UMsg
  sender : s.loggedIn c = some u
  read : readChat packet.readUInt8.2 = some (type,receiverNickName,text)
  named : ∃ row, (answered s.store).database.userCharacters.lookup (s.lobby.user u).userID = some row ∧ nickName = row.nickName
  addressed : s.addresses u receiverNickName v type

def tells (s : State) (action : Action) (c : ConnectionRef) (m : Message) : Prop :=
  (m.answer = false ∧ m.isChat = false) ∨ (m.answer = true ∧ ∃ packet, action = .packet c packet) ∨
    ∃ d packet u v type receiverNickName text nickName, action = .packet d packet ∧ m = .chat type nickName text ∧
      c = (s.lobby.user v).connection ∧ s.Talks d packet u v type receiverNickName text nickName

-- Logins, disconnects, the seconds and the other servers.
def administers : Action → Prop
  | .packet _ packet => packetID packet.readUInt8.1 = some .Login ∨ packetID packet.readUInt8.1 = some .TransferLogin
  | .disconnect _ _ | .serverDatagram _ | .secondTick _ => True
  | _ => False

def policy (s : State) (action : Action) : Policy := ⟨s.tells action,administers action⟩

theorem tellsWide (s : State) (action : Action) : Wide (s.policy action) := fun _ _ => .inl

theorem tellsAnswers (s : State) (c : ConnectionRef) (packet : Packet) : Answerable (s.policy (.packet c packet)) c :=
  fun _ answer => .inr (.inl ⟨answer,packet,rfl⟩)

section Chat
variable {s t : State} {c : ConnectionRef} {packet : Packet} {u : UserRef}

-- A character that is had is the row there is when the statement is answered.
theorem characterRow {flag : UInt16} (found : 0 < (s.getUserCharacter u flag).1.result) :
    ∃ row, (answered s.store).database.userCharacters.lookup (s.lobby.user u).userID = some row ∧
      (s.getUserCharacter u flag).1.userCharacter = row.select flag := by
  have asked : (s.getUserCharacter u flag).1 = (DatabaseManager.getUserCharacter (s.lobby.user u).userID flag s.store).1 := rfl
  rw [asked] at found ⊢
  cases next : s.store.runsNext with
  | false =>
    have failed : (DatabaseManager.getUserCharacter (s.lobby.user u).userID flag s.store).1.result = -1 := by
      simp [DatabaseManager.getUserCharacter,select,bind,StateT.bind,queryGivenUp next,pureRuns]
    rw [failed] at found
    exact absurd found (by decide)
  | true =>
    cases there : (answered s.store).database.userCharacters.lookup (s.lobby.user u).userID with
    | none =>
      have missing : (DatabaseManager.getUserCharacter (s.lobby.user u).userID flag s.store).1.result = 0 := by
        simp [DatabaseManager.getUserCharacter,select,bind,StateT.bind,queryRuns next,there,pureRuns]
      rw [missing] at found
      exact absurd found (by decide)
    | some row =>
      refine ⟨row,rfl,?_⟩
      simp [DatabaseManager.getUserCharacter,select,bind,StateT.bind,queryRuns next,there,pureRuns]

theorem nickNameSelected (row : UserCharacter) : (row.select USERCHARACTER_FLAG_NICKNAME).nickName = row.nickName := rfl

-- Whoever is found under a name has it.
theorem findNickNameFound (nickName : Bytes) (users : List UserRef) {v : UserRef} (found : (t.findNickName nickName users).1 = some v) :
    v ∈ users ∧ ∃ calls : List Routine, ∃ row,
      (answered (calls.foldl (fun d call => call.run d) t.store)).database.userCharacters.lookup (t.lobby.user v).userID = some row ∧
        row.nickName = nickName := by
  induction users generalizing t with
  | nil => cases found
  | cons w users ih =>
    simp only [findNickName] at found
    split at found
    · rename_i named
      obtain rfl : w = v := Option.some.inj found
      obtain ⟨row,there,is⟩ := characterRow named.1
      exact ⟨List.mem_cons_self,[],row,there,by rw [← named.2,is,nickNameSelected]⟩
    · obtain ⟨mem,calls,row,there,named⟩ := ih found
      exact ⟨List.mem_cons_of_mem w mem,.getUserCharacter (t.lobby.user w).userID USERCHARACTER_FLAG_NICKNAME :: calls,row,there,named⟩

theorem findNickNameSame (nickName : Bytes) (users : List UserRef) : (t.findNickName nickName users).2.lobby = t.lobby := by
  induction users generalizing t with
  | nil => rfl
  | cons w users ih =>
    simp only [State.findNickName]
    split
    · rfl
    · exact ih

theorem Acts.findNickName {policy : Policy} {made : List (UInt32 × Request)} (acts : Acts policy made s t)
    (nickName : Bytes) (users : List UserRef) : Acts policy made s (t.findNickName nickName users).2 := by
  induction users generalizing t with
  | nil => exact acts
  | cons w users ih =>
    simp only [State.findNickName]
    split
    · exact acts.getUserCharacter w _
    · exact ih (acts.getUserCharacter w _)

theorem tellsChat {v : UserRef} (type : Packet_UMsgType) {receiverNickName text nickName : Bytes}
    (talks : s.Talks c packet u v type receiverNickName text nickName) :
    s.tells (.packet c packet) (s.lobby.user v).connection (.chat type nickName text) :=
  .inr (.inr ⟨c,packet,u,v,type,receiverNickName,text,nickName,rfl,rfl,rfl,talks⟩)

theorem Acts.sendAll {policy : Policy} {made : List (UInt32 × Request)} {m : Message} {users : List UserRef}
    (acts : Acts policy made s t) (allowed : ∀ v ∈ users, policy.tells (t.lobby.user v).connection m) :
    Acts policy made s (t.sendAll users m) := by
  induction users generalizing t with
  | nil => exact acts
  | cons v users ih =>
    refine ih (acts.send (allowed v List.mem_cons_self)) fun w mem => ?_
    change policy.tells ((t.sendTo v m).lobby.user w).connection m
    rw [sendToLobby]
    exact allowed w (List.mem_cons_of_mem v mem)

theorem actsChat (type : Packet_UMsgType) (receiverNickName : Bytes) {text : Bytes} {p : Packet} {users : List UserRef}
    (kind : packetID packet.readUInt8.1 = some .UMsg) (sender : s.loggedIn c = some u)
    (read : readChat packet.readUInt8.2 = some (type,receiverNickName,text)) (body : p.readString.1 = text)
    (addressed : ∀ v ∈ users, s.addresses u receiverNickName v type) :
    Acts (s.policy (.packet c packet)) [] s (s.chat u type users p) := by
  have own := loggedInConnection sender
  have asked : Serves (s.policy (.packet c packet)) [] c u s (s.getUserCharacter u USERCHARACTER_FLAG_NICKNAME).2 :=
    Serves.then ⟨.refl _ s,own⟩ (fun acts => acts.getUserCharacter u _) rfl
  dsimp only [chat]
  split
  · exact (asked.sendTo (s.tellsAnswers c packet) rfl).toActs
  · rename_i found
    obtain ⟨row,there,is⟩ := characterRow (Int.not_le.mp found)
    rw [body,is,nickNameSelected]
    exact asked.toActs.sendAll fun v mem => tellsChat type ⟨kind,sender,read,⟨row,there,rfl⟩,addressed v mem⟩

theorem actsUMsg (kind : packetID packet.readUInt8.1 = some .UMsg) :
    Acts (s.policy (.packet c packet)) [] s (s.parsePacket_UMsg c packet.readUInt8.2) := by
  have idle := Acts.refl (s.policy (.packet c packet)) s
  unfold parsePacket_UMsg
  split
  · exact idle
  · rename_i u sender
    dsimp only
    split
    · rename_i whisper
      have own := loggedInConnection sender
      have asked : Serves (s.policy (.packet c packet)) [] c u s (s.getUserCharacter u USERCHARACTER_FLAG_NICKNAME).2 :=
        Serves.then ⟨idle,own⟩ (fun acts => acts.getUserCharacter u _) rfl
      dsimp only [parsePacket_UMsg_WhisperChat]
      split
      · exact idle
      · rename_i elsewhere
        split
        · exact asked.toActs.send (.inr (.inl ⟨rfl,packet,by rw [own]⟩))
        · rename_i found
          obtain ⟨row,there,is⟩ := characterRow (Int.not_le.mp found)
          have searched := asked.toActs.findNickName packet.readUInt8.2.readUInt8.2.readString.1 s.lobby.users
          split
          · exact searched.publish (s.tellsWide _) _ ⟨rfl,rfl⟩
          · rename_i v receiver
            obtain ⟨mem,calls,other,stored,named⟩ := findNickNameFound _ _ receiver
            refine Acts.send (searched.publish (s.tellsWide _) _ ⟨rfl,rfl⟩) ?_
            have same : ((((s.getUserCharacter u USERCHARACTER_FLAG_NICKNAME).2.findNickName
                packet.readUInt8.2.readUInt8.2.readString.1 s.lobby.users).2.inform (s.lobby.user u).connection "MSG_TELL_OK"
                packet.readUInt8.2.readUInt8.2.readString.1).lobby.user v).connection = (s.lobby.user v).connection := by
              simp [inform,findNickNameSame]
            rw [same,is,nickNameSelected]
            exact tellsChat .WhisperChat ⟨kind,sender,by simp only [readChat,whisper],⟨row,there,rfl⟩,elsewhere,mem,
              .getUserCharacter (s.lobby.user u).userID USERCHARACTER_FLAG_NICKNAME :: calls,other,stored,named⟩
    · rename_i channel
      unfold parsePacket_UMsg_ChannelChat
      split
      · exact idle
      · rename_i lobby
        refine actsChat .ChannelChat [] kind sender
          (by simp only [readChat,channel]) rfl fun v mem => ⟨not_not.mp lobby,mem⟩
    · rename_i room
      unfold parsePacket_UMsg_RoomChat
      split
      · exact idle
      · rename_i r current
        refine actsChat .RoomChat [] kind sender
          (by simp only [readChat,room]) rfl fun v mem => ?_
        obtain ⟨inside,status⟩ := List.mem_filter.mp mem
        exact ⟨r,current,inside,of_decide_eq_true status⟩
    · exact idle

end Chat

section Requests
variable {policy : Policy} {s t : State} {c : ConnectionRef} {p : Packet} {u : UserRef}

def save (s : State) (userID : UInt32) : Option Request → State
  | none => s
  | some request => (s.sql (request.query userID).2).2

theorem actsSave (userID : UInt32) (request : Option Request) :
    Acts policy (request.toList.map (userID,·)) s (s.save userID request) := by
  cases request with
  | none => exact .refl policy s
  | some request => exact (Acts.refl policy s).request userID request fun _ => rfl

theorem saveUnless (userID : UInt32) {given : Prop} [Decidable given] (request : Option Request) :
    s.save userID (if given then none else request) = if given then s else s.save userID request := by
  split <;> rfl

theorem optionSaves (sender : s.loggedIn c = some u) :
    s.parsePacket_Option c p = s.save (s.lobby.user u).userID (readOption p) := by
  simp only [parsePacket_Option,sender,readOption]
  generalize p.readUInt8.2 = rest
  generalize p.readUInt8.1 = type
  by_cases config : type = 0
  · subst config
    change _ = s.save _ (if (rest.readUInt16 .little).1 = 0 ∨ (rest.readUInt16 .little).1.toNat > USERCONFIG_MAX_SIZE then none else some _)
    rw [saveUnless]
    rfl
  · by_cases quickStart : type = 1
    · subst quickStart
      rfl
    · simp [save]

theorem favoriteSaves (sender : s.loggedIn c = some u) :
    s.parsePacket_Favorite c p = s.save (s.lobby.user u).userID (readFavorite p) := by
  simp only [parsePacket_Favorite,sender,readFavorite,parsePacket_Favorite_UserBuyMenu]
  generalize p.readUInt8.2 = rest
  generalize p.readUInt8.1 = type
  by_cases buyMenu : type = 0
  · subst buyMenu
    change _ = s.save _ (if rest.readUInt8.1 ≥ BUYMENU_MAX_CATEGORY * 2 then none
      else if rest.readUInt8.2.readUInt8.1 ≥ BUYMENU_MAX_SLOT then none else some _)
    rw [saveUnless,saveUnless]
    rfl
  · by_cases bookMark : type = 1
    · subst bookMark
      change _ = s.save (s.lobby.user u).userID ((QueryText.readUserBookMark rest).map .saveBookMark)
      cases QueryText.readUserBookMark rest <;> rfl
    · simp [save]

theorem sqlBind {α β : Type} (t : State) (q : Sql α) (f : α → Sql β) : t.sql (q >>= f) = (t.sql q).2.sql (f (t.sql q).1) := rfl

-- The three tables are asked for in turn, as far as they come.
theorem actsCreateUserTables (acts : Acts policy [] s t) (settings : State) (userID : UInt32) :
    ∃ made, made <+: [Request.buyMenus settings.serverConfig.defaultBuyMenus,.bookMarks,
        .inventory settings.serverConfig.defaultInventory settings.environment.now] ∧
      Acts policy (made.map (userID,·)) s (t.sql (settings.createUserTables userID)).2 ∧
      ((t.sql (settings.createUserTables userID)).1 = true → made.length = 3) := by
  have first := acts.request userID (.buyMenus settings.serverConfig.defaultBuyMenus)
    (q := createUserBuymenus settings.serverConfig.defaultBuyMenus userID) fun _ => rfl
  have second := first.request userID .bookMarks (q := createUserBookmarks userID) fun _ => rfl
  have third := second.request userID (.inventory settings.serverConfig.defaultInventory settings.environment.now)
    (q := createUserInventory settings.serverConfig.defaultInventory settings.environment.now userID) fun _ => rfl
  unfold createUserTables
  rw [sqlBind]
  cases (t.sql (createUserBuymenus settings.serverConfig.defaultBuyMenus userID)).1 with
  | false => exact ⟨[.buyMenus _],by simp,first,fun done => by cases done⟩
  | true =>
    change ∃ made, made <+: _ ∧ Acts policy _ s (State.sql _ (createUserBookmarks userID >>= _)).2 ∧
      ((State.sql _ (createUserBookmarks userID >>= _)).1 = true → _)
    rw [sqlBind]
    cases ((t.sql (createUserBuymenus settings.serverConfig.defaultBuyMenus userID)).2.sql (createUserBookmarks userID)).1 with
    | false => exact ⟨[.buyMenus _,.bookMarks],by simp,second,fun done => by cases done⟩
    | true => exact ⟨_,List.prefix_refl _,third,fun _ => rfl⟩

theorem actsCreateCharacter (wide : Wide policy) (answers : Answerable policy c) (acts : Acts policy [] s t)
    (own : (t.lobby.user u).connection = c) (nickName : Bytes) :
    ∃ made, made <+: t.creation nickName ∧ Acts policy (made.map ((t.lobby.user u).userID,·)) s (t.createCharacter c u nickName) := by
  obtain ⟨made,tables,asked,whole⟩ := actsCreateUserTables acts t (t.lobby.user u).userID
  dsimp only [createCharacter]
  split
  · exact ⟨made,tables.trans ⟨[.character nickName],rfl⟩,asked.answer answers rfl⟩
  · rename_i done
    have all : made ++ [.character nickName] = t.creation nickName := by
      rw [tables.eq_of_length (whole (by simpa using done))]
      rfl
    have named := asked.request (t.lobby.user u).userID (.character nickName) (q := createUserCharacter (t.lobby.user u).userID nickName)
      fun _ => rfl
    refine ⟨t.creation nickName,List.prefix_refl _,?_⟩
    rw [← all,List.map_append]
    split
    · exact named.answer answers rfl
    · split
      · exact named.answer answers rfl
      · exact Serves.sendLoginPackets ⟨named,own⟩ wide answers .CreateCharacterSuccess

theorem actsRecvCharacter (packet : Packet) (kind : packetID packet.readUInt8.1 = some .RecvCharacter) :
    ∃ made, made <+: s.packetRequests c packet ∧
      Acts (s.policy (.packet c packet)) made s (s.parsePacket_RecvCharacter c packet.readUInt8.2) := by
  have wide := s.tellsWide (.packet c packet)
  have answers := s.tellsAnswers c packet
  have idle := Acts.refl (s.policy (.packet c packet)) s
  dsimp only [parsePacket_RecvCharacter]
  cases sender : s.getUserByConnection c with
  | none => exact ⟨[],List.nil_prefix,idle⟩
  | some u =>
    have own := (Lobby.getUserByConnectionSome sender).2
    have asked : Acts (s.policy (.packet c packet)) [] s (s.isUserCharacterExists u).2 := idle.sql (.getUserCharacter _ 0) fun _ => rfl
    dsimp only
    split
    · exact ⟨[],List.nil_prefix,idle⟩
    · rename_i login
      split
      · exact ⟨[],List.nil_prefix,asked.answer answers rfl⟩
      · split
        · exact ⟨[],List.nil_prefix,asked⟩
        · split
          · exact ⟨[],List.nil_prefix,asked.answer answers rfl⟩
          · rename_i allowed
            obtain ⟨made,within,acts⟩ := actsCreateCharacter wide answers asked own packet.readUInt8.2.readString.1
            refine ⟨made.map ((s.lobby.user u).userID,·),?_,acts⟩
            have brought : s.packetRequests c packet = (s.creation packet.readUInt8.2.readString.1).map ((s.lobby.user u).userID,·) := by
              simp only [packetRequests,kind,sender]
              exact if_pos ⟨not_not.mp login,Option.isNone_iff_eq_none.mpr allowed⟩
            rw [brought]
            exact within.map _

theorem actsPacket (s : State) (c : ConnectionRef) (packet : Packet) :
    ∃ made, made <+: s.packetRequests c packet ∧ Acts (s.policy (.packet c packet)) made s (s.parsePacket c packet) := by
  have wide := s.tellsWide (.packet c packet)
  have answers := s.tellsAnswers c packet
  have none {t : State} (acts : Acts (s.policy (.packet c packet)) [] s t) :
      ∃ made, made <+: s.packetRequests c packet ∧ Acts (s.policy (.packet c packet)) made s t := ⟨[],List.nil_prefix,acts⟩
  dsimp only [parsePacket]
  split
  · exact none (.refl _ s)
  · exact none (actsVersion answers _)
  · rename_i kind
    exact actsRecvCharacter packet kind
  · rename_i kind
    exact none (actsLoginPacket wide answers _ (.inl kind))
  · rename_i kind
    exact none (actsTransferLoginPacket wide answers _ (.inr kind))
  · exact none (actsRequestTransfer wide answers _)
  · exact none (actsRequestServerList wide answers _)
  · exact none (actsRoom wide answers _)
  · rename_i kind
    exact none (actsUMsg kind)
  · exact none (actsHost wide _)
  · exact none (actsUdp wide answers _)
  · exact none (actsShop answers _)
  · rename_i kind
    cases sender : s.loggedIn c with
    | none => exact none (by simpa only [parsePacket_Option,sender] using Acts.refl _ s)
    | some u =>
      refine ⟨_,List.prefix_refl _,?_⟩
      rw [optionSaves sender]
      simpa only [packetRequests,kind,sender] using actsSave (s.lobby.user u).userID (readOption packet.readUInt8.2)
  · rename_i kind
    cases sender : s.loggedIn c with
    | none => exact none (by simpa only [parsePacket_Favorite,sender] using Acts.refl _ s)
    | some u =>
      refine ⟨_,List.prefix_refl _,?_⟩
      rw [favoriteSaves sender]
      simpa only [packetRequests,kind,sender] using actsSave (s.lobby.user u).userID (readFavorite packet.readUInt8.2)
  · exact none (actsSearchRoom answers _)
  all_goals exact none (.refl _ s)

end Requests

section Steps
variable {policy : Policy} (wide : Wide policy) {s t : State}
include wide

theorem Acts.commandRemoveAllRooms (acts : Acts policy [] s t) : Acts policy [] s t.commandRemoveAllRooms := by
  unfold State.commandRemoveAllRooms
  split
  · exact acts
  · refine Acts.exec (acts.next ?_) (.removeAllRooms _) fun _ => rfl
    refine ((Acts.refl policy t).setLobby _).next (.fold (fun s r => ?_) _ _)
    have told : Acts policy [] s (s.sendRemoveRoomPacketToAll (s.lobby.room r).roomID) := (Acts.refl policy s).publishAll wide _ ⟨rfl,rfl⟩
    exact told.destroyRoom wide _

omit wide in
theorem Acts.disconnectAllUsers (acts : Acts policy [] s t) : Acts policy [] s t.disconnectAllUsers :=
  acts.next (.fold (fun s u => (Acts.refl policy s).disconnectUser u) _ t)

theorem Acts.commandDisconnectAllClients (acts : Acts policy [] s t) : Acts policy [] s t.commandDisconnectAllClients := by
  dsimp only [State.commandDisconnectAllClients]
  split
  · exact acts
  · refine ((acts.commandRemoveAllRooms wide).next (.fold (fun s c => ?_) _ _)).disconnectAllUsers
    split
    · exact (Acts.refl policy s).disconnectClient c true
    · exact .refl policy s

theorem Acts.recoverRoom (acts : Acts policy [] s t) (r : RoomRef) : Acts policy [] s (t.recoverRoom r) := by
  have added := acts.sql (.addRoom (t.roomRow (t.lobby.room r))) fun _ => rfl
  dsimp only [State.recoverRoom]
  split
  · exact added.removeRoom wide r
  · exact added

theorem Acts.dropSilent (acts : Acts policy [] s t) (u : UserRef) : Acts policy [] s (t.dropSilent u) := by
  unfold State.dropSilent
  split
  · exact acts.failNetwork wide u
  · exact acts

section Administers
variable (administers : policy.administers)
include administers

omit wide in
theorem Acts.recoverUser (acts : Acts policy [] s t) (u : UserRef) : Acts policy [] s (t.recoverUser u) := by
  have asked := acts.sql (.isUserSessionAdded t.serverConfig.toServerConfig (t.lobby.user u).userID) fun _ => rfl
  have again := asked.session administers (.addUserSession t.serverConfig.toServerConfig (t.lobby.user u).userID) fun _ => rfl
  dsimp only [State.recoverUser]
  split
  · exact asked.disconnectUser u
  · split
    · split
      · exact again.disconnectUser u
      · exact again
    · exact asked

theorem Acts.recover (acts : Acts policy [] s t) : Acts policy [] s t.recover := by
  let forgot := t.setServerList (SessionCluster.forgetOthers t.serverConfig.place t.serverConfig.serverList)
  have users : Acts policy [] s (forgot.lobby.users.foldl State.recoverUser forgot) :=
    (acts.administer (t := forgot) administers rfl rfl).next (.fold (fun s u => (Acts.refl policy s).recoverUser administers u) _ _)
  exact (users.exec (.removeAllRooms _) fun _ => rfl).next (.fold (fun s r => (Acts.refl policy s).recoverRoom wide r) _ _)

theorem Acts.onSecondTick (acts : Acts policy [] s t) (now : Nat) : Acts policy [] s (t.onSecondTick now) := by
  have awake : Acts policy [] s { t with consoleTime := now } := acts.same rfl rfl rfl
  have dropped {m : State} (before : Acts policy [] s m) : Acts policy [] s (m.lobby.users.foldl State.dropSilent m) :=
    before.next (.fold (fun s u => (Acts.refl policy s).dropSilent wide u) _ m)
  have ticked : Acts policy [] s { t with consoleTime := now }.udpSecondTick := by
    dsimp only [State.udpSecondTick]
    refine Acts.administer (dropped ?_) administers rfl rfl
    split
    · exact (awake.recover wide administers).same rfl rfl rfl
    · exact awake.same rfl rfl rfl
  dsimp only [State.onSecondTick]
  split
  · exact (ticked.exec (.removeOldUserTransfers _ _) fun _ => rfl).same rfl rfl rfl
  · exact ticked.same rfl rfl rfl

end Administers

omit wide in
theorem Acts.handleIncomingClientPacket (acts : Acts policy [] s t) (ipAddress : UInt32) (port : UInt16) (buffer : Bytes) :
    Acts policy [] s (t.handleIncomingClientPacket ipAddress port buffer) := by
  dsimp only [State.handleIncomingClientPacket,State.receiveSocketInfo,State.receiveHeartbeat]
  repeat' split
  all_goals exact acts.same rfl rfl rfl

omit wide in
theorem Acts.handleIncomingServerPacket (acts : Acts policy [] s t) (administers : policy.administers) (buffer : Bytes) :
    Acts policy [] s (t.handleIncomingServerPacket buffer) := by
  dsimp only [State.handleIncomingServerPacket]
  repeat' split
  all_goals exact acts.administer administers rfl rfl

omit wide in
-- No step asks for more, or tells more, than its event has.
theorem actsStep (s : State) (e : Event) :
    ∃ made, made <+: (s.enter e.environment).requests e.action ∧
      Acts ((s.enter e.environment).policy e.action) made (s.enter e.environment) (s.step e) := by
  obtain ⟨action,environment⟩ := e
  have wide := (s.enter environment).tellsWide action
  have none {t : State} (acts : Acts ((s.enter environment).policy action) [] (s.enter environment) t) :
      ∃ made, made <+: (s.enter environment).requests action ∧ Acts ((s.enter environment).policy action) made (s.enter environment) t :=
    ⟨[],List.nil_prefix,acts⟩
  have idle := Acts.refl ((s.enter environment).policy action) (s.enter environment)
  unfold State.step
  cases action with
  | connect ipAddress => exact none (idle.same rfl rfl rfl)
  | packet c packet =>
    dsimp only [act,requests]
    split
    · exact actsPacket _ c packet
    · exact ⟨[],List.nil_prefix,idle⟩
  | disconnect c ec =>
    dsimp only [act]
    split
    · exact none (idle.disconnectUserByConnection wide trivial c ec)
    · exact none idle
  | clientDatagram ipAddress port buffer => exact none (idle.handleIncomingClientPacket ipAddress port buffer)
  | serverDatagram buffer => exact none (idle.handleIncomingServerPacket trivial buffer)
  | secondTick now => exact none (idle.onSecondTick wide trivial now)
  | removeAllRooms => exact none (idle.commandRemoveAllRooms wide)
  | disconnectAllClients => exact none (idle.commandDisconnectAllClients wide)

end Steps

-- Whatever a run sends that is an answer or a chat was allowed when it was sent.
theorem sentAsAllowed (s : State) (events : List Event) :
    ∃ messages, (Runs.run step s events).sent = s.sent ++ messages ∧
      ∀ entry ∈ messages, ∃ before e after, events = before ++ e :: after ∧
        ((Runs.run step s before).enter e.environment).tells e.action entry.1 entry.2 := by
  induction events generalizing s with
  | nil => exact ⟨[],by simp,by simp⟩
  | cons e events ih =>
    obtain ⟨made,-,acts⟩ := actsStep s e
    obtain ⟨first,allowed,sent⟩ := acts.told
    obtain ⟨later,also,rest⟩ := ih (s.step e)
    change (s.step e).sent = s.sent ++ first at sent
    refine ⟨first ++ later,?_,fun entry mem => ?_⟩
    · rw [Runs.runCons,also,sent,List.append_assoc]
    · rcases List.mem_append.mp mem with now | next
      · exact ⟨[],e,events,rfl,allowed entry now⟩
      · obtain ⟨before,f,after,all,told⟩ := rest entry next
        exact ⟨e :: before,f,after,by rw [all]; rfl,told⟩

end State
end CsoMaster
