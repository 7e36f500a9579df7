import CsoMaster.LobbyConnections
import CsoMaster.LobbyPhase
import CsoMaster.ServerEffects

/-! Every event moves the lobby by operations that are admitted where they are applied. Three
kinds of event have conditions put on them, each read off the state before the event: a packet
that takes a user into a room, a user that leaves its room or its match, and a login. -/
namespace CsoMaster.State
open Runs

section Conditions

-- The user of a CreateRoom or JoinRoom that gets through the guards.
def entering (s : State) : UserRef × UInt8 × Packet → Option UserRef
  | (u,0,_) => if (s.admitCreateRoom u).1.isSome then some u else none
  | (u,1,p) => if (s.admitJoinRoom u p).1.isSome then some u else none
  | _ => none

-- The user of a LeaveRoom or ReturnToRoom, and its room.
def leaving (s : State) : UserRef × UInt8 × Packet → Option (UserRef × RoomRef)
  | (u,2,_) => (s.currentRoom u [.InRoom,.InGame]).map (u,·)
  | (u,11,_) => (s.returning u).map fun found => (u,found.1)
  | _ => none

def logsIn (s : State) (c : ConnectionRef) (packet : Packet) : Bool :=
  match packetID packet.readUInt8.1 with
  | some .Login => (s.login c packet.readUInt8.2).1.isSome
  | some .TransferLogin => (s.transferLogin c packet.readUInt8.2).1.isSome
  | _ => false

-- No user whose match is running enters another room.
def Calm (s : State) : Action → Prop
  | .packet c packet => ∀ u ∈ (s.roomRequest c packet).bind s.entering, (s.lobby.user u).userStatus ≠ .InGame
  | _ => True

-- No user that is InGame sends CreateRoom or JoinRoom.
def Stays (s : State) : Action → Prop
  | .packet c packet => ∀ asked ∈ s.roomRequest c packet, asked.2.1 = 0 ∨ asked.2.1 = 1 →
      (s.lobby.user asked.1).userStatus ≠ .InGame
  | _ => True

def leaves (s : State) : Action → Option (UserRef × RoomRef)
  | .packet c packet => (s.roomRequest c packet).bind s.leaving
  | .disconnect c _ =>
    (s.getUserByConnection c).bind fun u => (s.lobby.getRoomByRoomID (s.lobby.user u).currentRoomID).map (u,·)
  | _ => none

-- No host leaves an unsaved match to others.
def Handed (s : State) (action : Action) : Prop :=
  ∀ left ∈ s.leaves action, (s.lobby.room left.2).HandsOver left.1

-- No connection that has a user gets another one.
def Single (s : State) : Action → Prop
  | .packet c packet => s.logsIn c packet = true → s.getUserByConnection c = none
  | _ => True

-- An UpdateRoomSettings that selects the room state.
def CarriesRoomState : Action → Prop
  | .packet _ packet =>
    let p := packet.readUInt8
    packetID p.1 = some .Room ∧ p.2.readUInt8.1 = 5 ∧
      (readRoomSettings p.2.readUInt8.2).1.low ROOMSETTINGS_LFLAG_ROOMSTATE = true
  | _ => False

instance (s : State) (action : Action) : Decidable (s.Calm action) :=
  match action with
  | .packet c packet =>
    inferInstanceAs (Decidable (∀ u ∈ (s.roomRequest c packet).bind s.entering, (s.lobby.user u).userStatus ≠ .InGame))
  | .connect _ | .disconnect _ _ | .clientDatagram _ _ _ | .serverDatagram _ | .secondTick _ | .removeAllRooms
  | .disconnectAllClients => .isTrue trivial

instance (s : State) (action : Action) : Decidable (s.Stays action) :=
  match action with
  | .packet c packet => inferInstanceAs (Decidable (∀ asked ∈ s.roomRequest c packet, asked.2.1 = 0 ∨ asked.2.1 = 1 →
      (s.lobby.user asked.1).userStatus ≠ .InGame))
  | .connect _ | .disconnect _ _ | .clientDatagram _ _ _ | .serverDatagram _ | .secondTick _ | .removeAllRooms
  | .disconnectAllClients => .isTrue trivial

instance (s : State) (action : Action) : Decidable (s.Handed action) :=
  inferInstanceAs (Decidable (∀ left ∈ s.leaves action, (s.lobby.room left.2).HandsOver left.1))

instance (s : State) (action : Action) : Decidable (s.Single action) :=
  match action with
  | .packet c packet => inferInstanceAs (Decidable (s.logsIn c packet = true → s.getUserByConnection c = none))
  | .connect _ | .disconnect _ _ | .clientDatagram _ _ _ | .serverDatagram _ | .secondTick _ | .removeAllRooms
  | .disconnectAllClients => .isTrue trivial

instance (action : Action) : Decidable (CarriesRoomState action) :=
  match action with
  | .packet _ packet =>
    inferInstanceAs (Decidable (packetID packet.readUInt8.1 = some .Room ∧ packet.readUInt8.2.readUInt8.1 = 5 ∧
      (readRoomSettings packet.readUInt8.2.readUInt8.2).1.low ROOMSETTINGS_LFLAG_ROOMSTATE = true))
  | .connect _ | .disconnect _ _ | .clientDatagram _ _ _ | .serverDatagram _ | .secondTick _ | .removeAllRooms
  | .disconnectAllClients => .isFalse id

end Conditions

-- What one operation of an event meets, as far as the event does.
structure Meets (calm handed single : Prop) (l : Lobby) (op : Lobby.Op) : Prop where
  admitted : l.Admitted op
  calm : calm → l.Calm op
  handed : handed → l.Handed op
  single : single → l.Single op

def Moves (calm handed single : Prop) (s t : State) : Prop :=
  Reaches Lobby.apply (Meets calm handed single) s.lobby t.lobby

section Moves
variable {calm handed single : Prop} {s t : State} {c : ConnectionRef} {action : Action} {l : Lobby} {op : Lobby.Op}

theorem noUser (absent : s.getUserByConnection c = none) : ∀ u ∈ s.lobby.users, (s.lobby.user u).connection ≠ c := by
  simpa [getUserByConnection,Lobby.getUserByConnection] using absent

theorem addedLogsIn {packet : Packet} {userID : UInt32} (new : s.addedUserID c packet = some userID) :
    s.logsIn c packet = true := by
  cases kind : packetID packet.readUInt8.1 with
  | none => simp [addedUserID,kind] at new
  | some id =>
    cases id with
    | Login =>
      obtain ⟨u,added,-⟩ := Option.map_eq_some_iff.mp (by simpa [addedUserID,kind] using new)
      simp [logsIn,kind,added]
    | TransferLogin =>
      obtain ⟨u,added,-⟩ := Option.map_eq_some_iff.mp (by simpa [addedUserID,kind] using new)
      simp [logsIn,kind,added]
    | _ => simp [addedUserID,kind] at new

theorem Asks.entering {u : UserRef} {type : UInt8} {p : Packet} (asks : s.Asks action u type p) (calm : s.Calm action)
    (enters : s.entering (u,type,p) = some u) : (s.lobby.user u).userStatus ≠ .InGame := by
  obtain ⟨c,packet,rfl,request⟩ := asks
  exact calm u (Option.mem_bind_iff.mpr ⟨_,request,enters⟩)

theorem Asks.leaving {u v : UserRef} {r : RoomRef} {type : UInt8} {p : Packet} (asks : s.Asks action u type p)
    (handed : s.Handed action) (leaves : s.leaving (u,type,p) = some (v,r)) : (s.lobby.room r).HandsOver v := by
  obtain ⟨c,packet,rfl,request⟩ := asks
  exact handed (v,r) (Option.mem_bind_iff.mpr ⟨_,request,leaves⟩)

theorem Asks.carries {u : UserRef} {p : Packet} (asks : s.Asks action u 5 p) (unset : ¬ CarriesRoomState action) :
    (readRoomSettings p).1.low ROOMSETTINGS_LFLAG_ROOMSTATE = false := by
  obtain ⟨c,packet,rfl,request⟩ := asks
  rw [roomRequest] at request
  split at request
  · rename_i kind
    obtain ⟨-,five,rfl⟩ := roomPacketSome request
    exact Bool.eq_false_iff.mpr fun set => unset ⟨kind,five,set⟩
  · cases request

theorem enteringAsks {u v : UserRef} {type : UInt8} {p : Packet} (enters : s.entering (u,type,p) = some v) :
    v = u ∧ (type = 0 ∨ type = 1) := by
  have asked {found : Bool} (entered : (if found = true then some u else none) = some v) : v = u :=
    (Option.some.inj (Option.ite_none_right_eq_some.mp entered).2).symm
  unfold entering at enters
  split at enters
  · rename_i same
    cases same
    exact ⟨asked enters,.inl rfl⟩
  · rename_i same
    cases same
    exact ⟨asked enters,.inr rfl⟩
  · cases enters

theorem staysCalm (stays : s.Stays action) : s.Calm action := by
  cases action with
  | packet c packet =>
    intro u enters
    obtain ⟨⟨v,type,p⟩,request,entered⟩ := Option.mem_bind_iff.mp enters
    obtain ⟨rfl,kind⟩ := enteringAsks entered
    exact stays (u,type,p) request kind
  | _ => trivial

theorem doneCalm (done : s.Done action l op) (quiet : s.Calm action) : l.Calm op := by
  obtain ⟨-,caused⟩ := done
  cases op with
  | createRoom u settings added =>
    obtain ⟨rfl,⟨p,asks,-⟩,admitted⟩ := caused
    exact asks.entering quiet (by simp [entering,admitted])
  | joinRoom u r =>
    obtain ⟨rfl,p,asks,admitted⟩ := caused
    refine asks.entering quiet ?_
    cases found : (s.admitJoinRoom u p).1 with
    | none => simp [found] at admitted
    | some room => simp [entering,found]
  | _ => trivial

theorem doneHanded (done : s.Done action l op) (saved : s.Handed action) (unset : ¬ CarriesRoomState action) :
    l.Handed op := by
  obtain ⟨-,caused⟩ := done
  cases op with
  | removeUser u =>
    intro r found
    rcases caused with ⟨rfl,c,ec,rfl,here⟩ | ⟨-,outside,-⟩
    · exact saved (u,r) (Option.mem_bind_iff.mpr ⟨u,here,Option.mem_map_of_mem (u,·) found⟩)
    · rw [outside] at found
      cases found
  | leaveRoom u r =>
    obtain ⟨rfl,⟨p,asks⟩,current⟩ := caused
    exact asks.leaving saved (by simp [leaving,current])
  | updateRoomSettings u r settings =>
    obtain ⟨rfl,p,asks,rfl⟩ := caused
    exact asks.carries unset
  | returnToRoom u r m =>
    obtain ⟨rfl,⟨p,asks⟩,found⟩ := caused
    exact asks.leaving saved (by simp [leaving,found])
  | _ => trivial

theorem doneSingle (done : s.Done action l op) (alone : s.Single action) : l.Single op := by
  obtain ⟨-,caused⟩ := done
  cases op with
  | addUser c userID userName =>
    obtain ⟨rfl,packet,rfl,new⟩ := caused
    exact noUser (alone (addedLogsIn new))
  | _ => trivial

theorem actMoves (quiet : calm → s.Calm action) (saved : handed → s.Handed action)
    (unset : handed → ¬ CarriesRoomState action) (alone : single → s.Single action) :
    Moves calm handed single s (s.act action) :=
  (effectsReaches actEffects).mono fun _ _ done =>
    ⟨done.1,fun still => doneCalm done (quiet still),fun hands => doneHanded done (saved hands) (unset hands),
      fun one => doneSingle done (alone one)⟩

end Moves

section Step

-- The conditions on an event, with what the surroundings answer during it.
def CalmStep (s : State) (e : Event) : Prop := (s.enter e.environment).Calm e.action

def StaysStep (s : State) (e : Event) : Prop := (s.enter e.environment).Stays e.action

def HandedStep (s : State) (e : Event) : Prop := (s.enter e.environment).Handed e.action

def SingleStep (s : State) (e : Event) : Prop := (s.enter e.environment).Single e.action

instance (s : State) (e : Event) : Decidable (s.CalmStep e) := inferInstanceAs (Decidable (Calm _ _))

instance (s : State) (e : Event) : Decidable (s.StaysStep e) := inferInstanceAs (Decidable (Stays _ _))

instance (s : State) (e : Event) : Decidable (s.HandedStep e) := inferInstanceAs (Decidable (Handed _ _))

instance (s : State) (e : Event) : Decidable (s.SingleStep e) := inferInstanceAs (Decidable (Single _ _))

theorem stepMoves (s : State) (e : Event) :
    Moves (s.CalmStep e) (s.HandedStep e ∧ ¬ CarriesRoomState e.action) (s.SingleStep e) s (s.step e) :=
  actMoves id And.left And.right id

theorem stepSound {s : State} (sound : s.lobby.Sound) (e : Event) : (s.step e).lobby.Sound :=
  Reaches.invariant (fun (l : Lobby) _ (sound : l.Sound) meets => Lobby.applySound sound meets.admitted)
    (stepMoves s e) sound

end Step
end CsoMaster.State
