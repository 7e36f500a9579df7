import CsoMaster.RoomMembership

/-! Where a user is taken to, by whom: from the login to the server list, to the lobby, to a room
and into its match. All but two of the ways are a user's own packets; from the room into the match
and back it is the host's, and out of a room that is given up it is the server's. -/
namespace CsoMaster
open Runs

namespace Lobby
variable {l : Lobby} {u v : UserRef} {r : RoomRef} {op : Op}

-- The status an operation gives a user, where it gives it one.
def gives (l : Lobby) (v : UserRef) : Op → Option UserStatus
  | .enterServerList u => if v = u then some .InServerList else none
  | .enterLobby u => if v = u then some .InLobby else none
  | .createRoom u _ added => if v = u then some (if added then .InRoom else .InLobby) else none
  | .joinRoom u _ => if v = u then some .InRoom else none
  | .leaveRoom u _ => if v = u then some .InLobby else none
  | .returnToRoom u _ _ => if v = u then some .InRoom else none
  | .sendUserStatus _ _ _ target => if v = target then some .InGame else none
  | .endGame _ _ m => if v ∈ m.participants then some .InRoom else none
  | .removeRoom r => if v ∈ (l.room r).roomUsers then some .InLobby else none
  | .removeAllRooms => if ∃ r ∈ l.rooms, v ∈ (l.room r).roomUsers then some .InLobby else none
  | _ => none

theorem setUserStatusOf (l : Lobby) (u v : UserRef) (user : User) :
    ((l.setUser u user).user v).userStatus = (if v = u then some user.userStatus else none).getD (l.user v).userStatus := by
  by_cases own : v = u
  · subst own; simp [setUser]
  · simp [setUser,own]

theorem removeRoomUserStatus (l : Lobby) (r : RoomRef) (u v : UserRef) :
    ((l.removeRoomUser r u).user v).userStatus = (if v = u then some .InLobby else none).getD (l.user v).userStatus := by
  cases left : (l.room r).roomUsers.erase u with
  | nil =>
    rw [removeRoomUserLast l left]
    exact setUserStatusOf _ u v _
  | cons first rest =>
    rw [removeRoomUserOthers l left]
    exact setUserStatusOf _ u v _

theorem removeUserStatus (l : Lobby) (other : v ≠ u) : ((l.removeUser u).user v).userStatus = (l.user v).userStatus := by
  cases found : l.getRoomByRoomID (l.user u).currentRoomID with
  | none => rw [removeUserOutside found]
  | some r =>
    rw [removeUserInside found]
    simpa [other] using removeRoomUserStatus l r u v

-- Users that are there before and after.
theorem applyStatus (sound : l.Sound) (mem : v ∈ l.users) (stays : v ∈ (l.apply op).users) :
    ((l.apply op).user v).userStatus = (l.gives v op).getD (l.user v).userStatus := by
  cases op with
  | addUser connection userID userName =>
    have old : v ≠ l.fresh := Nat.ne_of_lt (sound.usersOld v mem)
    simp [apply,addUser,gives,old]
  | removeUser u =>
    rw [apply,removeUserUsers] at stays
    exact removeUserStatus l (sound.usersNodup.mem_erase_iff.mp stays).1
  | setUserNetwork u userNetwork =>
    rw [apply,setUserStatusOf]
    by_cases own : v = u
    · subst own; simp [gives]
    · simp [gives,own]
  | enterServerList u => exact setUserStatusOf l u v _
  | enterLobby u => exact setUserStatusOf l u v _
  | createRoom u s added => cases added <;> exact setUserStatusOf l u v _
  | joinRoom u r => exact setUserStatusOf _ u v _
  | leaveRoom u r => exact removeRoomUserStatus l r u v
  | updateRoomSettings u r s => rfl
  | returnToRoom u r m => exact setUserStatusOf _ u v _
  | serverIsActivated u r => rfl
  | saveData u r m saveData => rfl
  | sendUserStatus u r m target => exact setUserStatusOf _ target v _
  | endGame u r m =>
    rw [apply,endGameEq]
    by_cases plays : v ∈ m.participants <;> simp [gives,plays]
  | selectTeam u r m target team => rfl
  | removeRoom r =>
    rw [apply,removeRoomEq]
    by_cases listed : v ∈ (l.room r).roomUsers <;> simp [gives,listed,User.backToLobby]
  | removeAllRooms =>
    obtain ⟨user,whole,inside,outside⟩ := destroyRooms l.rooms { l with rooms := [] }
    rw [apply,Lobby.removeAllRooms,whole]
    by_cases placed : ∃ r ∈ l.rooms, v ∈ (l.room r).roomUsers
    · obtain ⟨r,registered,listed⟩ := placed
      rw [gives,if_pos ⟨r,registered,listed⟩]
      exact congrArg User.userStatus (inside r registered v listed)
    · rw [gives,if_neg placed]
      exact congrArg User.userStatus (outside v fun r registered listed => placed ⟨r,registered,listed⟩)

theorem Members.insideListed (members : l.Members) (sound : l.Sound) (registered : r ∈ l.rooms) (listed : v ∈ (l.room r).roomUsers) :
    v ∈ l.users ∧ (l.user v).isInRoom := by
  obtain ⟨mem,here⟩ := (members.member r registered v).mp listed
  refine ⟨mem,(members.status v mem).mpr ?_⟩
  rw [here]
  exact sound.roomIDs r registered

end Lobby

namespace State
variable {s t : State} {v u : UserRef} {c : ConnectionRef} {p packet : Packet} {action : Action} {P : Lobby.Op → Prop}

-- The user's own packet, of this kind.
def SentBy (s : State) (action : Action) (u : UserRef) (id : PacketID) : Prop :=
  ∃ packet, action = .packet (s.lobby.user u).connection packet ∧ packetID packet.readUInt8.1 = some id

-- All the ways from one status to another, each with what takes the user there.
inductive Moved (s : State) (v : UserRef) (action : Action) : UserStatus → UserStatus → Prop where
  | stays (status : UserStatus) : Moved s v action status status
  | named (sends : s.SentBy action v .RecvCharacter) : Moved s v action .InLogin .InServerList
  | transferred (sends : s.SentBy action v .RequestTransfer) : Moved s v action .InServerList .InLobby
  | listed (sends : s.SentBy action v .RequestServerList) : Moved s v action .InLobby .InServerList
  | entered {type : UInt8} {p : Packet} (asks : s.Asks action v type p) (enters : type = 0 ∨ type = 1) {status : UserStatus}
      (outside : status = .InServerList ∨ status = .InLobby) : Moved s v action status .InRoom
  | refused {p : Packet} (asks : s.Asks action v 0 p) {status : UserStatus} (outside : status = .InServerList ∨ status = .InLobby) :
      Moved s v action status .InLobby
  | left {p : Packet} (asks : s.Asks action v 2 p) {status : UserStatus} (inside : status = .InRoom ∨ status = .InGame) :
      Moved s v action status .InLobby
  | returned {p : Packet} (asks : s.Asks action v 11 p) : Moved s v action .InGame .InRoom
  | started {u : UserRef} {r : RoomRef} (reports : s.SentBy action u .Host) (occupies : s.lobby.Occupies u r)
      (host : (s.lobby.room r).roomHostUser = u) (member : v ∈ (s.lobby.room r).roomUsers) : Moved s v action .InRoom .InGame
  | ended {u : UserRef} {r : RoomRef} (reports : s.SentBy action u .Host) (occupies : s.lobby.Occupies u r)
      (host : (s.lobby.room r).roomHostUser = u) (member : v ∈ (s.lobby.room r).roomUsers) : Moved s v action .InGame .InRoom
  | closed (given : (∃ now, action = .secondTick now) ∨ action = .removeAllRooms ∨ action = .disconnectAllClients)
      {status : UserStatus} (inside : status = .InRoom ∨ status = .InGame) : Moved s v action status .InLobby

theorem movedNowhere (lobby : t.lobby = s.lobby) : s.Moved v action (s.lobby.user v).userStatus (t.lobby.user v).userStatus := by
  rw [lobby]
  exact .stays _

theorem sendsOwn {id : PacketID} (known : s.loggedIn c = some u) (kind : packetID packet.readUInt8.1 = some id) :
    s.SentBy (.packet c packet) u id := by
  obtain ⟨found,-⟩ := Option.filter_eq_some_iff.mp known
  exact ⟨packet,by rw [(Lobby.getUserByConnectionSome found).2],kind⟩

-- One operation, of which is known what it gives the user.
theorem Does.moved (does : Does P s t) (settled : s.Settled) (mem : v ∈ s.lobby.users) (stays : v ∈ t.lobby.users)
    (edge : ∀ op status, s.lobby.Admitted op → P op → s.lobby.gives v op = some status →
      s.Moved v action (s.lobby.user v).userStatus status) :
    s.Moved v action (s.lobby.user v).userStatus (t.lobby.user v).userStatus := by
  rcases does.lobby with same | ⟨op,admitted,performed,lobby⟩
  · exact movedNowhere same
  · rw [lobby] at stays ⊢
    rw [Lobby.applyStatus settled.sound mem stays]
    cases given : s.lobby.gives v op with
    | none => exact .stays _
    | some status => exact edge op status admitted performed given

theorem outsideRooms {status : UserStatus} (past : status ≠ .InLogin) (free : status ≠ .InRoom) (idle : status ≠ .InGame) :
    status = .InServerList ∨ status = .InLobby := by
  cases status with
  | InLogin => exact absurd rfl past
  | InServerList => exact .inl rfl
  | InLobby => exact .inr rfl
  | InRoom => exact absurd rfl free
  | InGame => exact absurd rfl idle

section Packets
variable (settled : s.Settled) (mem : v ∈ s.lobby.users)
include settled mem

theorem requestServerListMoved (kind : packetID packet.readUInt8.1 = some .RequestServerList)
    (stays : v ∈ (s.parsePacket_RequestServerList c p).lobby.users) :
    s.Moved v (.packet c packet) (s.lobby.user v).userStatus ((s.parsePacket_RequestServerList c p).lobby.user v).userStatus := by
  refine requestServerListEffects.moved settled mem stays fun op status admitted performed given => ?_
  obtain ⟨u,known,rfl⟩ := performed
  obtain ⟨own,is⟩ := Option.ite_none_right_eq_some.mp given
  subst own
  obtain rfl : UserStatus.InServerList = status := Option.some.inj is
  rcases admitted.2 with new | lobby
  · exact absurd new (loggedInSome known).2
  · rw [lobby]
    exact .listed (sendsOwn known kind)

theorem createRoomMoved (asks : s.Asks action u 0 p) (calm : s.Calm action) (known : s.loggedIn c = some u)
    (stays : v ∈ (s.parsePacket_Room_CreateRoom u p).lobby.users) :
    s.Moved v action (s.lobby.user v).userStatus ((s.parsePacket_Room_CreateRoom u p).lobby.user v).userStatus := by
  obtain ⟨there,past⟩ := loggedInSome known
  refine (createRoomEffects there past).moved settled mem stays fun op status admitted performed given => ?_
  obtain ⟨open',added,rfl⟩ := performed
  obtain ⟨own,is⟩ := Option.ite_none_right_eq_some.mp given
  subst own
  have outside := outsideRooms past admitted.2.2.1 (asks.entering calm (by simp [entering,open']))
  cases added with
  | true =>
    obtain rfl : UserStatus.InRoom = status := Option.some.inj is
    exact .entered asks (.inl rfl) outside
  | false =>
    obtain rfl : UserStatus.InLobby = status := Option.some.inj is
    exact .refused asks outside

theorem joinRoomMoved (asks : s.Asks action u 1 p) (calm : s.Calm action) (known : s.loggedIn c = some u)
    (stays : v ∈ (s.parsePacket_Room_JoinRoom u p).lobby.users) :
    s.Moved v action (s.lobby.user v).userStatus ((s.parsePacket_Room_JoinRoom u p).lobby.user v).userStatus := by
  obtain ⟨there,past⟩ := loggedInSome known
  refine (joinRoomEffects there past).moved settled mem stays fun op status admitted performed given => ?_
  obtain ⟨r,open',rfl⟩ := performed
  obtain ⟨own,is⟩ := Option.ite_none_right_eq_some.mp given
  subst own
  have enters : (s.admitJoinRoom v p).1.isSome = true := by
    obtain ⟨found,some',-⟩ := Option.map_eq_some_iff.mp open'
    rw [some']
    rfl
  have outside := outsideRooms past admitted.2.2.1 (asks.entering calm (by simp [entering,enters]))
  obtain rfl : UserStatus.InRoom = status := Option.some.inj is
  exact .entered asks (.inr rfl) outside

theorem leaveRoomMoved (asks : s.Asks action u 2 p) (known : s.loggedIn c = some u)
    (stays : v ∈ (s.parsePacket_Room_LeaveRoom u).lobby.users) :
    s.Moved v action (s.lobby.user v).userStatus ((s.parsePacket_Room_LeaveRoom u).lobby.user v).userStatus := by
  refine (leaveRoomEffects (loggedInSome known).1).moved settled mem stays fun op status admitted performed given => ?_
  obtain ⟨r,-,rfl⟩ := performed
  obtain ⟨own,is⟩ := Option.ite_none_right_eq_some.mp given
  subst own
  obtain rfl : UserStatus.InLobby = status := Option.some.inj is
  exact .left asks admitted.2.1

theorem returnToRoomMoved (asks : s.Asks action u 11 p) (known : s.loggedIn c = some u)
    (stays : v ∈ (s.parsePacket_Room_ReturnToRoom u).lobby.users) :
    s.Moved v action (s.lobby.user v).userStatus ((s.parsePacket_Room_ReturnToRoom u).lobby.user v).userStatus := by
  refine (returnToRoomEffects (loggedInSome known).1).moved settled mem stays fun op status admitted performed given => ?_
  obtain ⟨r,m,-,rfl⟩ := performed
  obtain ⟨own,is⟩ := Option.ite_none_right_eq_some.mp given
  subst own
  obtain rfl : UserStatus.InRoom = status := Option.some.inj is
  rcases admitted.1.2.1 with room | game
  · rw [room]
    exact .stays _
  · rw [game]
    exact .returned asks

theorem roomMoved (kind : packetID packet.readUInt8.1 = some .Room) (calm : s.Calm (.packet c packet))
    (stays : v ∈ (s.parsePacket_Room c packet.readUInt8.2).lobby.users) :
    s.Moved v (.packet c packet) (s.lobby.user v).userStatus ((s.parsePacket_Room c packet.readUInt8.2).lobby.user v).userStatus := by
  revert stays
  unfold parsePacket_Room
  split
  · exact fun _ => .stays _
  · rename_i u type p found
    have known := (roomPacketSome found).1
    have asks : s.Asks (.packet c packet) u type p := ⟨c,packet,rfl,by rw [roomRequest,if_pos kind,found]⟩
    split
    · exact createRoomMoved settled mem asks calm known
    · exact joinRoomMoved settled mem asks calm known
    · exact leaveRoomMoved settled mem asks known
    · exact fun _ => movedNowhere (quietStartGame s u).lobby
    · refine fun stays => (updateRoomSettingsEffects (loggedInSome known).1).moved settled mem stays fun op status _ performed given => ?_
      obtain ⟨r,rfl⟩ := performed
      cases given
    · exact fun _ => movedNowhere (quietResultConfirm s u).lobby
    · exact returnToRoomMoved settled mem asks known
    · exact fun _ => .stays _

theorem hostMoved (kind : packetID packet.readUInt8.1 = some .Host) (stays : v ∈ (s.parsePacket_Host c packet.readUInt8.2).lobby.users) :
    s.Moved v (.packet c packet) (s.lobby.user v).userStatus ((s.parsePacket_Host c packet.readUInt8.2).lobby.user v).userStatus := by
  cases known : s.loggedIn c with
  | none =>
    refine movedNowhere ?_
    rw [parsePacket_Host,known]
  | some u =>
    refine (hostEffects known).moved settled mem stays fun op status admitted reports given => ?_
    have sends := sendsOwn known kind
    cases op with
    | sendUserStatus host r m target =>
      obtain rfl : host = u := reports
      obtain ⟨own,is⟩ := Option.ite_none_right_eq_some.mp given
      subst own
      obtain rfl : UserStatus.InGame = status := Option.some.inj is
      obtain ⟨plays,occupies,-⟩ := admitted
      obtain ⟨-,member⟩ := settled.members.occupied occupies
      rcases occupies.2.1 with room | game
      · rw [room]
        exact .started sends plays.1.1 plays.2 member
      · rw [game]
        exact .stays _
    | endGame host r m =>
      obtain rfl : host = u := reports
      obtain ⟨seated,is⟩ := Option.ite_none_right_eq_some.mp given
      obtain rfl : UserStatus.InRoom = status := Option.some.inj is
      obtain ⟨plays,-⟩ := admitted
      obtain ⟨registered,-⟩ := settled.members.occupied plays.1.1
      have member := (settled.members.rooms r registered).seated v (by rwa [Room.participantsOf plays.1.2])
      rcases (settled.members.insideListed settled.sound registered member).2 with room | game
      · rw [room]
        exact .stays _
      · rw [game]
        exact .ended sends plays.1.1 plays.2 member
    | serverIsActivated host r => cases given
    | saveData host r m saveData => cases given
    | selectTeam host r m target team => cases given
    | _ => exact reports.elim

end Packets

section Logins

theorem requestTransferMoved (kind : packetID packet.readUInt8.1 = some .RequestTransfer) :
    s.Moved v (.packet c packet) (s.lobby.user v).userStatus
      ((s.parsePacket_RequestTransfer c p).lobby.user v).userStatus := by
  dsimp only [parsePacket_RequestTransfer]
  split
  · exact .stays _
  · rename_i u known
    split
    · exact movedNowhere (by simp)
    · split
      · split
        · rename_i status
          rw [enterLobbyLobby,Lobby.setUserStatus,Lobby.setUserStatusOf]
          by_cases own : v = u
          · subst own
            simp only [if_true,Option.getD_some,status]
            exact .transferred (sendsOwn known kind)
          · simp only [own,if_false,Option.getD_none]
            exact .stays _
        · exact .stays _
      · exact movedNowhere ((Quiet.refl s).transferTo _ _ _ _).lobby

theorem sendLoginPacketsLobby (s : State) (u : UserRef) (reply : Packet_ReplyType) :
    (s.sendLoginPackets u reply).lobby = s.lobby ∨ ∃ userStatus, (reply ≠ .NoReply → userStatus = .InServerList) ∧
      (s.sendLoginPackets u reply).lobby = s.lobby.setUserStatus u userStatus := by
  have asked := (Quiet.refl s).getUserCharacter u USERCHARACTER_FLAG_ALL
  dsimp only [sendLoginPackets]
  split
  · exact .inl ((asked.sendTo rfl u).disconnectUser u).lobby
  · have started := (asked.sendUserStart u (s.getUserCharacter u USERCHARACTER_FLAG_ALL).1.userCharacter reply).lobby
    split
    · refine .inr ⟨.InServerList,fun _ => rfl,?_⟩
      rw [(quietServerList _ u).lobby,sendToLobby,setUserStatusLobby,started]
    · rename_i given
      refine .inr ⟨.InLobby,fun some' => absurd some' given,?_⟩
      rw [enterLobbyLobby,started]

-- A login packet is about its new user.
theorem newcomerMoved {l : Lobby} (other : v ≠ l.fresh) {user : User} (added : s.lobby = l.addUser user)
    (lobby : t.lobby = s.lobby ∨ t.lobby = s.lobby.removeUser l.fresh ∨ ∃ userStatus, t.lobby = s.lobby.setUserStatus l.fresh userStatus) :
    (t.lobby.user v).userStatus = (l.user v).userStatus := by
  have old : (s.lobby.user v).userStatus = (l.user v).userStatus := by simp [added,Lobby.addUser,other]
  rcases lobby with same | removed | ⟨userStatus,moved⟩
  · rw [same,old]
  · rw [removed,Lobby.removeUserStatus _ other,old]
  · rw [moved,Lobby.setUserStatus,Lobby.setUserStatusOf,if_neg other,← old]
    rfl

theorem loginMoved (other : v ≠ s.lobby.fresh) :
    ((s.parsePacket_Login c p).lobby.user v).userStatus = (s.lobby.user v).userStatus := by
  unfold parsePacket_Login
  rcases s.loginCases c p with ⟨refused,same⟩ | ⟨added,userID,userName,lobby⟩
  · rw [refused]
    dsimp only
    rw [same]
  · rw [added]
    refine newcomerMoved other lobby ?_
    have asked := ((Quiet.refl (s.login c p).2).isUserCharacterExists s.lobby.fresh).lobby
    dsimp only
    split
    · refine .inr (.inl ?_)
      rw [removeUserLobby,sendLobby,asked]
    · split
      · refine .inl ?_
        rw [sendLobby,sendLobby,asked]
      · rcases ((s.login c p).2.isUserCharacterExists s.lobby.fresh).2.sendLoginPacketsLobby s.lobby.fresh .LoginSuccess with
          same | ⟨userStatus,-,moved⟩
        · exact .inl (same.trans asked)
        · exact .inr (.inr ⟨userStatus,by rw [moved,asked]⟩)

theorem transferLoginMoved (other : v ≠ s.lobby.fresh) :
    ((s.parsePacket_TransferLogin c p).lobby.user v).userStatus = (s.lobby.user v).userStatus := by
  unfold parsePacket_TransferLogin
  rcases s.transferLoginCases c p with ⟨refused,same⟩ | ⟨added,userID,userName,lobby⟩
  · rw [refused]
    dsimp only
    rw [same]
  · rw [added]
    refine newcomerMoved other lobby ?_
    rcases (s.transferLogin c p).2.sendLoginPacketsLobby s.lobby.fresh .NoReply with same | ⟨userStatus,-,moved⟩
    · exact .inl same
    · exact .inr (.inr ⟨userStatus,moved⟩)

theorem createCharacterLobby (s : State) (c : ConnectionRef) (u : UserRef) (nickName : Bytes) :
    (s.createCharacter c u nickName).lobby = s.lobby ∨
      (s.createCharacter c u nickName).lobby = s.lobby.setUserStatus u .InServerList := by
  dsimp only [createCharacter]
  split
  · exact .inl (by rw [sendLobby]; rfl)
  · split
    · exact .inl (by rw [sendLobby]; rfl)
    · split
      · exact .inl (by rw [sendLobby]; rfl)
      · rcases sendLoginPacketsLobby _ u .CreateCharacterSuccess with same | ⟨userStatus,shown,moved⟩
        · exact .inl same
        · rw [shown (by decide)] at moved
          exact .inr moved

theorem recvCharacterMoved (kind : packetID packet.readUInt8.1 = some .RecvCharacter) :
    s.Moved v (.packet c packet) (s.lobby.user v).userStatus
      ((s.parsePacket_RecvCharacter c p).lobby.user v).userStatus := by
  dsimp only [parsePacket_RecvCharacter]
  split
  · exact .stays _
  · rename_i u found
    split
    · exact .stays _
    · rename_i new
      have asked := ((Quiet.refl s).isUserCharacterExists u).lobby
      split
      · exact movedNowhere (by rw [sendLobby,asked])
      · split
        · exact movedNowhere asked
        · split
          · exact movedNowhere (by rw [sendLobby,asked])
          · rcases (s.isUserCharacterExists u).2.createCharacterLobby c u p.readString.1 with same | moved
            · exact movedNowhere (same.trans asked)
            · rw [moved,asked,Lobby.setUserStatus,Lobby.setUserStatusOf]
              by_cases own : v = u
              · subst own
                rw [if_pos rfl,not_not.mp new]
                exact .named ⟨packet,by rw [(Lobby.getUserByConnectionSome found).2],kind⟩
              · rw [if_neg own]
                exact .stays _

theorem packetMoved (settled : s.Settled) (mem : v ∈ s.lobby.users) (calm : s.Calm (.packet c packet))
    (stays : v ∈ (s.parsePacket c packet).lobby.users) :
    s.Moved v (.packet c packet) (s.lobby.user v).userStatus ((s.parsePacket c packet).lobby.user v).userStatus := by
  have other : v ≠ s.lobby.fresh := Nat.ne_of_lt (settled.sound.usersOld v mem)
  have same {status : UserStatus} (kept : status = (s.lobby.user v).userStatus) :
      s.Moved v (.packet c packet) (s.lobby.user v).userStatus status := by
    rw [kept]
    exact .stays _
  revert stays
  unfold parsePacket
  dsimp only
  cases kind : packetID packet.readUInt8.1 with
  | none => exact fun _ => .stays _
  | some id =>
    cases id with
    | Version => exact fun _ => movedNowhere (quietVersion s c _).lobby
    | RecvCharacter => exact fun _ => recvCharacterMoved kind
    | Login => exact fun _ => same (loginMoved other)
    | TransferLogin => exact fun _ => same (transferLoginMoved other)
    | RequestTransfer => exact fun _ => requestTransferMoved kind
    | RequestServerList => exact requestServerListMoved settled mem kind
    | Room => exact roomMoved settled mem kind calm
    | UMsg => exact fun _ => movedNowhere (quietUMsg s c _).lobby
    | Host => exact hostMoved settled mem kind
    | Udp => exact fun _ => movedNowhere (quietUdp s c _).lobby
    | Shop => exact fun _ => movedNowhere (quietShop s c _).lobby
    | Option => exact fun _ => movedNowhere (quietOption s c _).lobby
    | Favorite => exact fun _ => movedNowhere (quietFavorite s c _).lobby
    | SearchRoom =>
      have nothing : Does (fun _ => False) s (s.parsePacket_SearchRoom c packet.readUInt8.2) := searchRoomEffects
      exact fun stays => nothing.moved settled mem stays fun _ _ _ done _ => done.elim
    | RecvCrypt => exact fun _ => .stays _
    | ClientCheck => exact fun _ => .stays _
    | UpdateInfo => exact fun _ => .stays _
    | Item => exact fun _ => .stays _
    | RecvReport => exact fun _ => .stays _

end Logins

-- What is not a packet: users go, networks are heard of, rooms are given up.
theorem unaskedOp {l : Lobby} {op : Lobby.Op} (unasked : ∀ c packet, action ≠ .packet c packet) (done : s.Done action l op) :
    (∃ u, op = .removeUser u) ∨ (∃ u userNetwork, op = .setUserNetwork u userNetwork) ∨
      ((∃ r, op = .removeRoom r) ∨ op = .removeAllRooms) ∧
        ((∃ now, action = .secondTick now) ∨ action = .removeAllRooms ∨ action = .disconnectAllClients) := by
  obtain ⟨-,caused⟩ := done
  cases op with
  | addUser c userID userName =>
    obtain ⟨-,packet,is,-⟩ := caused
    exact absurd is (unasked c packet)
  | removeUser u => exact .inl ⟨u,rfl⟩
  | setUserNetwork u userNetwork => exact .inr (.inl ⟨u,userNetwork,rfl⟩)
  | enterServerList u =>
    rcases caused with ⟨⟨c,packet,is⟩,-⟩ | ⟨-,c,packet,is,-⟩
    · exact absurd is (unasked c packet)
    · exact absurd is (unasked c packet)
  | enterLobby u =>
    obtain ⟨c,packet,is⟩ := caused
    exact absurd is (unasked c packet)
  | createRoom u settings added =>
    obtain ⟨-,⟨p,⟨c,packet,is,-⟩,-⟩,-⟩ := caused
    exact absurd is (unasked c packet)
  | joinRoom u r =>
    obtain ⟨-,p,⟨c,packet,is,-⟩,-⟩ := caused
    exact absurd is (unasked c packet)
  | leaveRoom u r =>
    obtain ⟨-,⟨p,c,packet,is,-⟩,-⟩ := caused
    exact absurd is (unasked c packet)
  | updateRoomSettings u r settings =>
    obtain ⟨-,p,⟨c,packet,is,-⟩,-⟩ := caused
    exact absurd is (unasked c packet)
  | returnToRoom u r m =>
    obtain ⟨-,⟨p,c,packet,is,-⟩,-⟩ := caused
    exact absurd is (unasked c packet)
  | removeRoom r => exact .inr (.inr ⟨.inl ⟨r,rfl⟩,.inl caused⟩)
  | removeAllRooms => exact .inr (.inr ⟨.inr rfl,.inr caused⟩)
  | serverIsActivated u r | saveData u r m saveData | sendUserStatus u r m target | endGame u r m | selectTeam u r m target team =>
    obtain ⟨-,c,packet,is,-⟩ := caused
    exact absurd is (unasked c packet)

-- Where the user is while the event goes on.
structure Waits (s : State) (v : UserRef) (action : Action) (l : Lobby) : Prop where
  sound : l.Sound
  members : l.Members
  moved : v ∈ l.users → (l.user v).userStatus = (s.lobby.user v).userStatus ∨ (s.lobby.user v).isInRoom ∧
    ((∃ now, action = .secondTick now) ∨ action = .removeAllRooms ∨ action = .disconnectAllClients) ∧ (l.user v).userStatus = .InLobby

theorem doneWaits {l : Lobby} {op : Lobby.Op} (old : v < l.fresh) (unasked : ∀ c packet, action ≠ .packet c packet) (done : s.Done action l op)
    (waits : s.Waits v action l) : s.Waits v action (l.apply op) := by
  have which := unaskedOp unasked done
  refine ⟨Lobby.applySound waits.sound done.1,?_,fun stays => ?_⟩
  · refine Lobby.applyMembers waits.sound waits.members done.1 ?_
    rcases which with ⟨u,rfl⟩ | ⟨u,userNetwork,rfl⟩ | ⟨⟨r,rfl⟩ | rfl,-⟩ <;> trivial
  · have mem : v ∈ l.users := ((l.applyUsers op).2 v stays).resolve_right (Nat.ne_of_lt old)
    rw [Lobby.applyStatus waits.sound mem stays]
    have closes (given : (∃ now, action = .secondTick now) ∨ action = .removeAllRooms ∨ action = .disconnectAllClients)
        {r : RoomRef} (registered : r ∈ l.rooms) (listed : v ∈ (l.room r).roomUsers) : (s.lobby.user v).isInRoom ∧
          ((∃ now, action = .secondTick now) ∨ action = .removeAllRooms ∨ action = .disconnectAllClients) ∧
            UserStatus.InLobby = .InLobby := by
      have inside := (waits.members.insideListed waits.sound registered listed).2
      rcases waits.moved mem with same | ⟨before,-,-⟩
      · exact ⟨by rwa [User.isInRoom,← same],given,rfl⟩
      · exact ⟨before,given,rfl⟩
    rcases which with ⟨u,rfl⟩ | ⟨u,userNetwork,rfl⟩ | ⟨⟨r,rfl⟩ | rfl,given⟩
    · exact waits.moved mem
    · exact waits.moved mem
    · by_cases listed : v ∈ (l.room r).roomUsers
      · rw [Lobby.gives,if_pos listed]
        exact .inr (closes given done.1 listed)
      · rw [Lobby.gives,if_neg listed]
        exact waits.moved mem
    · by_cases placed : ∃ r ∈ l.rooms, v ∈ (l.room r).roomUsers
      · obtain ⟨r,registered,listed⟩ := placed
        rw [Lobby.gives,if_pos ⟨r,registered,listed⟩]
        exact .inr (closes given registered listed)
      · rw [Lobby.gives,if_neg placed]
        exact waits.moved mem

theorem unaskedMoved (settled : s.Settled) (mem : v ∈ s.lobby.users) (unasked : ∀ c packet, action ≠ .packet c packet)
    (stays : v ∈ (s.act action).lobby.users) :
    s.Moved v action (s.lobby.user v).userStatus ((s.act action).lobby.user v).userStatus := by
  have kept : v < (s.act action).lobby.fresh ∧ s.Waits v action (s.act action).lobby :=
    Reaches.invariant (fun (l : Lobby) op (before : v < l.fresh ∧ s.Waits v action l) done =>
        ⟨Nat.lt_of_lt_of_le before.1 (l.applyUsers op).1,doneWaits before.1 unasked done before.2⟩)
      (effectsReaches actEffects) ⟨settled.sound.usersOld v mem,settled.sound,settled.members,fun _ => .inl rfl⟩
  rcases kept.2.moved stays with same | ⟨inside,given,lobby⟩
  · rw [same]
    exact .stays _
  · rw [lobby]
    exact .closed given inside

-- In every run in which no user in game enters another room, every step moves every user it
-- leaves there along one of the ways, or not at all.
theorem userStatuses (serverConfig : ChannelConfig) (database : Database) (environment : Environment) (time : Nat)
    {events : List Event} (calm : Each step CalmStep (start serverConfig database environment time) events) :
    Each step (fun s e => ∀ v ∈ s.lobby.users, v ∈ (s.step e).lobby.users →
        (s.enter e.environment).Moved v e.action (s.lobby.user v).userStatus ((s.step e).lobby.user v).userStatus)
      (start serverConfig database environment time) events := by
  refine eachOfEach stepSettled (fun s e settled calm v mem stays => ?_) (startSettled serverConfig database environment time) calm
  have entered : (s.enter e.environment).Settled := ⟨settled.sound,settled.members⟩
  unfold State.step at stays ⊢
  by_cases asked : ∃ c packet, e.action = .packet c packet
  · obtain ⟨c,packet,is⟩ := asked
    unfold CalmStep at calm
    rw [is] at stays calm ⊢
    by_cases known : c < (s.enter e.environment).accepted
    · simp only [act,if_pos known] at stays ⊢
      exact packetMoved entered mem calm stays
    · simp only [act,if_neg known]
      exact .stays _
  · exact unaskedMoved entered mem (fun c packet is => asked ⟨c,packet,is⟩) stays

theorem userStatusesPlaying : Each step (fun s e => ∀ v ∈ s.lobby.users, v ∈ (s.step e).lobby.users →
      (s.enter e.environment).Moved v e.action (s.lobby.user v).userStatus ((s.step e).lobby.user v).userStatus)
    sampleStart playing :=
  userStatuses _ _ _ _ ⟨trivial,by decide +kernel,by decide +kernel,by decide +kernel,by decide +kernel,trivial⟩

end State
end CsoMaster
