import CsoMaster.RoomMembership

/-! What packets cannot do. Before the login is over nothing but the login itself has an
effect; after it a user reaches the room it is in and the one it joins, and of a room's
settings only the host changes more than the room state. -/
namespace CsoMaster

namespace Room

-- The settings but for the room state, which matches change.
def stateless (room : Room) : RoomSettings := { room.roomSettings with roomState := .Waiting }

theorem endMatchStateless (room : Room) : room.endMatch.stateless = room.stateless := by
  simp [stateless,endMatch,updateRoomSettings,RoomSettings.updateOfRoomState]

theorem startMatchStateless (room : Room) : room.startMatch.stateless = room.stateless := by
  simp [stateless,startMatch,updateRoomSettings,RoomSettings.updateOfRoomState]

theorem hostLeftStateless (room : Room) (first : UserRef) : (room.hostLeft first).stateless = room.stateless := by
  unfold hostLeft
  split
  · rfl
  · split
    · exact endMatchStateless room
    · rfl

theorem departedStateless (room : Room) (u first : UserRef) : (room.departed u first).stateless = room.stateless := by
  unfold departed
  split
  · exact hostLeftStateless _ first
  · rfl

theorem returnedStateless (room : Room) (u : UserRef) (m : GameMatch) :
    (room.returned u m).stateless = room.stateless := by
  unfold returned
  dsimp only
  split
  · unfold hostReturned
    split
    · exact endMatchStateless _
    · rfl
  · rfl

end Room

namespace Lobby
variable {l : Lobby} {op : Op}

-- The room an operation is about. Dropping all rooms is about none.
def about (l : Lobby) : Op → Option RoomRef
  | .removeUser u => l.getRoomByRoomID (l.user u).currentRoomID
  | .createRoom _ _ _ => some l.fresh
  | .joinRoom _ r | .leaveRoom _ r | .updateRoomSettings _ r _ | .returnToRoom _ r _ | .serverIsActivated _ r
  | .saveData _ r _ _ | .sendUserStatus _ r _ _ | .endGame _ r _ | .selectTeam _ r _ _ _ | .removeRoom r => some r
  | _ => none

theorem removeRoomUserElsewhere (l : Lobby) (u : UserRef) {r q : RoomRef} (other : q ≠ r) :
    (l.removeRoomUser r u).room q = l.room q ∧ (q ∈ l.rooms → q ∈ (l.removeRoomUser r u).rooms) := by
  cases left : (l.room r).roomUsers.erase u with
  | nil =>
    rw [removeRoomUserLast l left]
    exact ⟨by simp [backToLobby,setUser,setRoom,other],fun mem => (List.mem_erase_of_ne other).mpr mem⟩
  | cons first rest =>
    rw [removeRoomUserOthers l left]
    exact ⟨by simp [backToLobby,setUser,setRoom,other],id⟩

theorem removeRoomUserStateless (l : Lobby) (u : UserRef) (r q : RoomRef) :
    ((l.removeRoomUser r u).room q).stateless = (l.room q).stateless := by
  by_cases same : q = r
  · subst same
    cases left : (l.room q).roomUsers.erase u with
    | nil =>
      rw [removeRoomUserLast l left]
      simp [backToLobby,setUser,setRoom,Room.stateless,Room.withoutUser]
    | cons first rest =>
      rw [removeRoomUserOthers l left]
      simpa [backToLobby,setUser,setRoom] using Room.departedStateless (l.room q) u first
  · rw [(removeRoomUserElsewhere l u same).1]

-- An operation leaves every other room as it is, and registered.
theorem applyElsewhere {q : RoomRef} (other : l.about op ≠ some q) (some' : op ≠ .removeAllRooms) :
    (l.apply op).room q = l.room q ∧ (q ∈ l.rooms → q ∈ (l.apply op).rooms) := by
  have apart {r : RoomRef} (about : some r ≠ some q) : q ≠ r := fun same => about (by rw [same])
  cases op with
  | addUser connection userID userName => exact ⟨rfl,id⟩
  | removeUser u =>
    cases found : l.getRoomByRoomID (l.user u).currentRoomID with
    | none => rw [apply,removeUserOutside found]; exact ⟨rfl,id⟩
    | some r =>
      rw [apply,removeUserInside found]
      exact removeRoomUserElsewhere l u fun same => other (same ▸ found)
  | createRoom u s added =>
    cases added with
    | true => exact ⟨by simp [apply,createRoom,addRoom,setUser,apart other],List.mem_append_left _⟩
    | false => exact ⟨rfl,id⟩
  | leaveRoom u r => exact removeRoomUserElsewhere l u (apart other)
  | endGame u r m =>
    rw [apply,endGameEq]
    exact ⟨by simp [setRoom,apart other],id⟩
  | removeRoom r =>
    rw [apply,removeRoomEq]
    exact ⟨rfl,fun mem => (List.mem_erase_of_ne (apart other)).mpr mem⟩
  | removeAllRooms => exact absurd rfl some'
  | setUserNetwork u userNetwork => exact ⟨rfl,id⟩
  | enterServerList u => exact ⟨rfl,id⟩
  | enterLobby u => exact ⟨rfl,id⟩
  | joinRoom u r => exact ⟨by simp [apply,joinRoom,setUser,setRoom,apart other],id⟩
  | updateRoomSettings u r s => exact ⟨by simp [apply,setRoom,apart other],id⟩
  | returnToRoom u r m => exact ⟨by simp [apply,returnToRoom,setUserStatus,setUser,setRoom,apart other],id⟩
  | serverIsActivated u r => exact ⟨by simp [apply,setRoom,apart other],id⟩
  | saveData u r m saveData => exact ⟨by simp [apply,setRoom,apart other],id⟩
  | sendUserStatus u r m target =>
    exact ⟨by simp [apply,sendUserStatus,setUserStatus,setUser,setRoom,apart other],id⟩
  | selectTeam u r m target team => exact ⟨by simp [apply,setRoom,apart other],id⟩

-- Only a settings update changes more of the settings than the room state.
theorem applyStateless {q : RoomRef} (old : q ≠ l.fresh) (update : ∀ u s, op ≠ .updateRoomSettings u q s) :
    ((l.apply op).room q).stateless = (l.room q).stateless := by
  have set {r : RoomRef} (room : Room) (same : room.stateless = (l.room r).stateless) :
      ((l.setRoom r room).room q).stateless = (l.room q).stateless := by
    by_cases own : q = r
    · subst own; simp [setRoom,same]
    · simp [setRoom,own]
  cases op with
  | addUser connection userID userName => rfl
  | removeUser u =>
    cases found : l.getRoomByRoomID (l.user u).currentRoomID with
    | none => rw [apply,removeUserOutside found]
    | some r =>
      rw [apply,removeUserInside found]
      exact removeRoomUserStateless l u r q
  | createRoom u s added =>
    cases added with
    | true => simp [apply,createRoom,addRoom,setUser,old]
    | false => rfl
  | joinRoom u r => exact set ((l.room r).addRoomUser u) rfl
  | leaveRoom u r => exact removeRoomUserStateless l u r q
  | updateRoomSettings u r s =>
    have other : q ≠ r := fun same => update u s (by rw [same])
    simp [apply,setRoom,other]
  | returnToRoom u r m =>
    rw [apply,returnToRoomEq]
    exact set _ (Room.returnedStateless (l.room r) u m)
  | serverIsActivated u r => exact set _ (Room.startMatchStateless (l.room r))
  | saveData u r m saveData => exact set { l.room r with gameMatch := some { m with saveData := saveData } } rfl
  | sendUserStatus u r m target => exact set { l.room r with gameMatch := some (m.addGameMatchUser ⟨target,.None⟩) } rfl
  | endGame u r m =>
    rw [apply,endGameEq]
    exact set _ (Room.endMatchStateless (l.room r))
  | selectTeam u r m target team => exact set { l.room r with gameMatch := some (m.setTeam target team) } rfl
  | removeRoom r =>
    rw [apply,removeRoomEq]
  | removeAllRooms =>
    obtain ⟨user,whole,-,-⟩ := destroyRooms l.rooms { l with rooms := [] }
    rw [apply,Lobby.removeAllRooms,whole]
  | setUserNetwork u userNetwork => rfl
  | enterServerList u => rfl
  | enterLobby u => rfl

end Lobby

namespace State
open Runs
open SqlText (ascii)
variable {s t : State} {action : Action} {c : ConnectionRef} {u : UserRef} {r : RoomRef} {packet p : Packet}

section Gate

-- Nobody, or somebody that has yet to get past the login.
def Outside (s : State) (c : ConnectionRef) : Prop :=
  ∀ u ∈ s.getUserByConnection c, (s.lobby.user u).userStatus = .InLogin

instance (s : State) (c : ConnectionRef) : Decidable (s.Outside c) :=
  inferInstanceAs (Decidable (∀ u ∈ s.getUserByConnection c, (s.lobby.user u).userStatus = .InLogin))

theorem Outside.loggedIn (outside : s.Outside c) : s.loggedIn c = none := by
  cases found : s.loggedIn c with
  | none => rfl
  | some u =>
    obtain ⟨known,past⟩ := Option.filter_eq_some_iff.mp found
    simp [isUserLoggedIn,outside u known] at past

-- The packets that are there to log in with.
def loginPackets : List PacketID := [.Version,.Login,.TransferLogin,.RecvCharacter]

theorem gateShut (outside : s.Outside c) (gated : ∀ id ∈ packetID packet.readUInt8.1, id ∉ loginPackets) :
    s.parsePacket c packet = s := by
  have nobody := outside.loggedIn
  unfold parsePacket
  dsimp only
  cases kind : packetID packet.readUInt8.1 with
  | none => rfl
  | some id =>
    have shut := gated id kind
    cases id with
    | Version => simp [loginPackets] at shut
    | Login => simp [loginPackets] at shut
    | TransferLogin => simp [loginPackets] at shut
    | RecvCharacter => simp [loginPackets] at shut
    | RequestTransfer => simp [parsePacket_RequestTransfer,nobody]
    | RequestServerList => simp [parsePacket_RequestServerList,nobody]
    | Room => simp [parsePacket_Room,roomPacket,nobody]
    | UMsg => simp [parsePacket_UMsg,nobody]
    | Host => simp [parsePacket_Host,nobody]
    | Udp => simp [parsePacket_Udp,nobody]
    | Shop => simp [parsePacket_Shop,nobody]
    | Option => simp [parsePacket_Option,nobody]
    | Favorite => simp [parsePacket_Favorite,nobody]
    | SearchRoom => simp [parsePacket_SearchRoom,nobody]
    | RecvCrypt => rfl
    | ClientCheck => rfl
    | UpdateInfo => rfl
    | Item => rfl
    | RecvReport => rfl

theorem recvCharacterNobody (nobody : s.getUserByConnection c = none) : s.parsePacket_RecvCharacter c p = s := by
  simp [parsePacket_RecvCharacter,nobody]

-- Users, rooms with their matches, rows and outgoing packets; `faulted` comes with them.
structure Untouched (s t : State) : Prop where
  lobby : t.lobby = s.lobby
  database : t.store.database = s.store.database
  sent : t.sent = s.sent
  connection : t.connection = s.connection
  faulted : t.faulted = s.faulted

theorem untouchedBy {environment : Environment}
    (idle : (s.enter environment).parsePacket c packet = s.enter environment) :
    Untouched s (s.step ⟨.packet c packet,environment⟩) := by
  have same : s.step ⟨.packet c packet,environment⟩ = s.enter environment := by
    simp only [step,act]
    split
    · exact idle
    · rfl
  rw [same]
  exact ⟨rfl,rfl,rfl,rfl,rfl⟩

theorem authenticationGate (s : State) (c : ConnectionRef) (packet : Packet) (environment : Environment) :
    (s.Outside c → (∀ id ∈ packetID packet.readUInt8.1, id ∉ loginPackets) →
        Untouched s (s.step ⟨.packet c packet,environment⟩)) ∧
      (s.getUserByConnection c = none → packetID packet.readUInt8.1 = some .RecvCharacter →
        Untouched s (s.step ⟨.packet c packet,environment⟩)) := by
  constructor
  · intro outside gated
    exact untouchedBy (gateShut outside gated)
  · intro nobody kind
    refine untouchedBy ?_
    simp only [parsePacket,kind]
    exact recvCharacterNobody nobody

-- A room and a character are asked for before the login.
theorem authenticationGateNobody :
    let s := run step sampleStart [connects]
    Untouched s (s.step (arrives 0 createRoomBody)) ∧ Untouched s (s.step (arrives 0 [2])) :=
  ⟨(authenticationGate _ 0 _ _).1 (by decide +kernel) (by decide +kernel),
    (authenticationGate _ 0 _ _).2 (by decide +kernel) (by decide +kernel)⟩

end Gate

section Isolation

-- The connection whose packet or end the event is.
def sender : Action → Option ConnectionRef
  | .packet c _ => some c
  | .disconnect c _ => some c
  | _ => none

def roomPacketType (type : UInt8) : Action → Option Packet
  | .packet _ packet =>
    let p := packet.readUInt8
    if packetID p.1 = some .Room ∧ p.2.readUInt8.1 = type then some p.2.readUInt8.2 else none
  | _ => none

def joinRoomID (action : Action) : Option UInt16 := (roomPacketType 1 action).map fun p => (p.readUInt16 .little).1

-- What a user's packet or end may do to a room that is registered.
structure Reached (before : Lobby) (action : Action) (u : UserRef) (r : RoomRef) (l : Lobby) : Prop where
  own : (before.user u).currentRoomID = (before.room r).roomID ∨
    joinRoomID action = some (before.room r).roomID ∧ l.room r = (before.room r).addRoomUser u ∧ r ∈ l.rooms
  governed : (l.room r).stateless ≠ (before.room r).stateless →
    (roomPacketType 5 action).isSome ∧ (before.room r).roomHostUser = u ∧ (before.user u).userStatus = .InRoom

theorem Asks.user {type : UInt8} (asks : s.Asks action u type p) (sent : sender action = some c) :
    s.getUserByConnection c = some u ∧ roomPacketType type action = some p := by
  obtain ⟨d,packet,rfl,request⟩ := asks
  cases sent
  unfold roomRequest at request
  split at request
  · rename_i kind
    obtain ⟨known,type,rest⟩ := roomPacketSome request
    refine ⟨(Option.filter_eq_some_iff.mp known).1,?_⟩
    simp [roomPacketType,kind,type,rest]
  · cases request

theorem Asks.joins (asks : s.Asks action u 1 p) (sent : sender action = some c)
    (admitted : (s.admitJoinRoom u p).1.map Prod.fst = some r) : joinRoomID action = some (s.lobby.room r).roomID := by
  rw [joinRoomID,(asks.user sent).2,Option.map_some]
  obtain ⟨⟨q,userCharacter⟩,found,rfl⟩ := Option.map_eq_some_iff.mp admitted
  rw [(Lobby.getRoomByRoomIDSome (admitJoinRoomNamed found)).2.1]

-- The room is as it was, or it was within reach of the connection's user.
def Confined (before : Lobby) (action : Action) (c : ConnectionRef) (r : RoomRef) (l : Lobby) : Prop :=
  (l.room r = before.room r ∧ r ∈ l.rooms) ∨
    ∃ u, before.getUserByConnection c = some u ∧ Reached before action u r l

-- An operation about another room, or none, changes neither the room nor what is known of it.
theorem Reached.elsewhere {l : Lobby} {op : Lobby.Op} (reached : Reached s.lobby action u r l)
    (same : (l.apply op).room r = l.room r) (registered : r ∈ l.rooms → r ∈ (l.apply op).rooms) :
    Reached s.lobby action u r (l.apply op) where
  own := reached.own.imp_right fun joined => ⟨joined.1,same.trans joined.2.1,registered joined.2.2⟩
  governed changed := reached.governed (same ▸ changed)

-- The operation an event does to a room is its user's, in the room of the user or as it joins.
theorem doneReached {op : Lobby.Op} (sent : sender action = some c) (old : r ≠ s.lobby.fresh)
    (about : s.lobby.about op = some r) (done : s.Done action s.lobby op) :
    ∃ u, s.getUserByConnection c = some u ∧ Reached s.lobby action u r (s.lobby.apply op) := by
  obtain ⟨admitted,caused⟩ := done
  have still (update : ∀ u settings, op ≠ .updateRoomSettings u r settings) (P : Prop) :
      ((s.lobby.apply op).room r).stateless ≠ (s.lobby.room r).stateless → P :=
    fun changed => absurd (Lobby.applyStateless old update) changed
  have here {u : UserRef} (found : s.lobby.getRoomByRoomID (s.lobby.user u).currentRoomID = some r) :
      (s.lobby.user u).currentRoomID = (s.lobby.room r).roomID :=
    (Lobby.getRoomByRoomIDSome found).2.1.symm
  have reports {u : UserRef} (occupies : s.lobby.Occupies u r) (update : ∀ u settings, op ≠ .updateRoomSettings u r settings)
      (request : ∃ c packet, action = .packet c packet ∧ packetID packet.readUInt8.1 = some .Host ∧ s.loggedIn c = some u) :
      ∃ u, s.getUserByConnection c = some u ∧ Reached s.lobby action u r (s.lobby.apply op) := by
    obtain ⟨d,packet,rfl,-,known⟩ := request
    cases sent
    exact ⟨u,(Option.filter_eq_some_iff.mp known).1,.inl (here occupies.2.2),still update _⟩
  cases op with
  | removeUser u =>
    rcases caused with ⟨-,d,ec,rfl,found⟩ | ⟨-,outside,-⟩
    · cases sent
      exact ⟨u,found,.inl (here about),still (by simp) _⟩
    · rw [Lobby.about,outside] at about
      cases about
  | createRoom u settings added => exact absurd (Option.some.inj about).symm old
  | joinRoom u q =>
    cases about
    obtain ⟨-,p,asks,found⟩ := caused
    refine ⟨u,(asks.user sent).1,.inr ⟨asks.joins sent found,?_,admitted.2.2.2.1⟩,still (by simp) _⟩
    simp [Lobby.apply,Lobby.joinRoom,Lobby.setUser,Lobby.setRoom]
  | leaveRoom u q =>
    cases about
    obtain ⟨-,⟨p,asks⟩,-⟩ := caused
    exact ⟨u,(asks.user sent).1,.inl (here admitted.2.2),still (by simp) _⟩
  | updateRoomSettings u q settings =>
    cases about
    obtain ⟨-,p,asks,-⟩ := caused
    obtain ⟨occupies,status,host⟩ := admitted
    obtain ⟨known,type⟩ := asks.user sent
    exact ⟨u,known,.inl (here occupies.2.2),fun _ => ⟨by rw [type]; rfl,host,status⟩⟩
  | returnToRoom u q m =>
    cases about
    obtain ⟨-,⟨p,asks⟩,-⟩ := caused
    exact ⟨u,(asks.user sent).1,.inl (here admitted.1.2.2),still (by simp) _⟩
  | serverIsActivated u q => cases about; exact reports admitted.1 (by simp) caused.2
  | saveData u q m saveData => cases about; exact reports admitted.1.1.1 (by simp) caused.2
  | sendUserStatus u q m target => cases about; exact reports admitted.1.1.1 (by simp) caused.2
  | endGame u q m => cases about; exact reports admitted.1.1.1 (by simp) caused.2
  | selectTeam u q m target team => cases about; exact reports admitted.1.1.1 (by simp) caused.2
  | removeRoom q =>
    obtain ⟨now,rfl⟩ := caused
    cases sent
  | _ => cases about

-- Only the first operation of such an event is about a room that was there before.
theorem doneFirst {l : Lobby} {op : Lobby.Op} (sent : sender action = some c) (about : l.about op = some r)
    (done : s.Done action l op) : l = s.lobby := by
  obtain ⟨-,caused⟩ := done
  cases op with
  | removeUser u =>
    rcases caused with ⟨first,-⟩ | ⟨-,outside,-⟩
    · exact first
    · rw [Lobby.about,outside] at about
      cases about
  | removeRoom q =>
    obtain ⟨now,rfl⟩ := caused
    cases sent
  | addUser connection userID userName => cases about
  | setUserNetwork u userNetwork => cases about
  | enterServerList u => cases about
  | enterLobby u => cases about
  | removeAllRooms => cases about
  | _ => exact caused.1

theorem doneConfined {l : Lobby} {op : Lobby.Op} (sent : sender action = some c) (old : r ≠ s.lobby.fresh)
    (before : Confined s.lobby action c r l) (done : s.Done action l op) : Confined s.lobby action c r (l.apply op) := by
  by_cases about : l.about op = some r
  · obtain rfl := doneFirst sent about done
    exact .inr (doneReached sent old about done)
  · have single : op ≠ .removeAllRooms := by
      rintro rfl
      rcases done.2 with rfl | rfl <;> cases sent
    obtain ⟨same,registered⟩ := Lobby.applyElsewhere about single
    rcases before with ⟨room,mem⟩ | ⟨u,known,reached⟩
    · exact .inl ⟨same.trans room,registered mem⟩
    · exact .inr ⟨u,known,reached.elsewhere same registered⟩

theorem actConfined (sent : sender action = some c) (sound : s.lobby.Sound) (registered : r ∈ s.lobby.rooms) :
    Confined s.lobby action c r (s.act action).lobby :=
  Reaches.invariant (fun _ _ => doneConfined sent (Nat.ne_of_lt (sound.roomsOld r registered)))
    (effectsReaches actEffects) (.inl ⟨rfl,registered⟩)

theorem startLobbySound (serverConfig : ChannelConfig) (database : Database) (environment : Environment) (time : Nat)
    (events : List Event) :
    Always step (fun s => s.lobby.Sound) (start serverConfig database environment time) events :=
  alwaysOfEach (fun _ e sound _ => stepSound sound e) Lobby.startSound (eachTrue _ events)

theorem roomIsolation (serverConfig : ChannelConfig) (database : Database) (environment : Environment) (time : Nat)
    (events : List Event) :
    Always step
      (fun s => ∀ e c, sender e.action = some c → ∀ r ∈ s.lobby.rooms, Confined s.lobby e.action c r (s.step e).lobby)
      (start serverConfig database environment time) events := by
  refine alwaysMono (fun s sound e c sent r registered => ?_)
    (startLobbySound serverConfig database environment time events)
  exact actConfined (s := s.enter e.environment) sent sound registered

-- The host leaves the room its match is running in.
theorem roomIsolationPlaying :
    let s := run step sampleStart playing
    Confined s.lobby (arrives 0 [65,2]).action 0 1 (s.step (arrives 0 [65,2])).lobby :=
  alwaysLast (roomIsolation sampleChannel sampleTables sampleEnvironment 0 playing) (arrives 0 [65,2]) 0 rfl 1
    (by decide +kernel)

end Isolation
end State
end CsoMaster
