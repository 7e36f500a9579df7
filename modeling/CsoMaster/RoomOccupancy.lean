import CsoMaster.RoomTable

/-! How full rooms are. Nobody is let into a full room, but what full means comes from the
packets that open a room and change its settings: as long as these leave a seat to every user
in the room, no room ever has more users than seats, and none is ever empty. -/
namespace CsoMaster

namespace Lobby
variable {l : Lobby} {r : RoomRef}

-- No room has more users than seats.
def Seated (l : Lobby) : Prop :=
  ∀ r ∈ l.rooms, (l.room r).roomUsers.length ≤ (l.room r).roomSettings.maxPlayers.toNat

-- A room is opened with a seat for its creator and never gets fewer seats than it has users.
def Seats (l : Lobby) : Op → Prop
  | .createRoom _ s _ => 0 < s.maxPlayers.toNat
  | .updateRoomSettings _ r s =>
    s.low ROOMSETTINGS_LFLAG_MAXPLAYERS = true → (l.room r).roomUsers.length ≤ s.maxPlayers.toNat
  | _ => True

theorem applySeated (seated : l.Seated) {op : Op} (admitted : l.Admitted op) (seats : l.Seats op) : (l.apply op).Seated := by
  have every : l.Filled fun n m => n ≤ m.toNat := seated
  refine applyFilled every admitted (fun _ _ _ less fits => less.trans fits) (fun _ _ free _ => Nat.succ_le_of_lt free)
    (fun u s created => ?_) fun u r s updated selected _ => ?_
  · subst created
    exact Nat.succ_le_of_lt seats
  · subst updated
    exact seats selected

end Lobby

namespace State
open Runs
open SqlText (ascii)

section Run
variable {s : State} {l : Lobby} {op : Lobby.Op} {action : Action}

-- A CreateRoom that gets through the guards asks for a seat at least.
def SeatsCreator (s : State) (u : UserRef) (p : Packet) : Prop :=
  (s.admitCreateRoom u).1.isSome →
    0 < (readCreateRoom (Room.new s.lobby.getFreeRoomID u).roomSettings p).1.1.maxPlayers.toNat

-- An UpdateRoomSettings of the host that selects the number of seats leaves one to every user.
def SeatsUsers (s : State) (u : UserRef) (p : Packet) : Prop :=
  ∀ r ∈ s.currentRoom u [.InRoom], (s.lobby.room r).roomHostUser = u →
    (readRoomSettings p).1.low ROOMSETTINGS_LFLAG_MAXPLAYERS = true →
      (s.lobby.room r).roomUsers.length ≤ (readRoomSettings p).1.maxPlayers.toNat

def Seating (s : State) : Action → Prop
  | .packet c packet => ∀ asked ∈ s.roomRequest c packet,
      (asked.2.1 = 0 → s.SeatsCreator asked.1 asked.2.2) ∧ (asked.2.1 = 5 → s.SeatsUsers asked.1 asked.2.2)
  | _ => True

def SeatingStep (s : State) (e : Event) : Prop := (s.enter e.environment).Seating e.action

instance (s : State) (u : UserRef) (p : Packet) : Decidable (s.SeatsCreator u p) := inferInstanceAs (Decidable (_ → _))

instance (s : State) (u : UserRef) (p : Packet) : Decidable (s.SeatsUsers u p) :=
  inferInstanceAs (Decidable (∀ r ∈ s.currentRoom u [.InRoom], (s.lobby.room r).roomHostUser = u →
    (readRoomSettings p).1.low ROOMSETTINGS_LFLAG_MAXPLAYERS = true →
      (s.lobby.room r).roomUsers.length ≤ (readRoomSettings p).1.maxPlayers.toNat))

instance (s : State) (action : Action) : Decidable (s.Seating action) :=
  match action with
  | .packet c packet => inferInstanceAs (Decidable (∀ asked ∈ s.roomRequest c packet,
      (asked.2.1 = 0 → s.SeatsCreator asked.1 asked.2.2) ∧ (asked.2.1 = 5 → s.SeatsUsers asked.1 asked.2.2)))
  | .connect _ | .disconnect _ _ | .clientDatagram _ _ _ | .serverDatagram _ | .secondTick _ | .removeAllRooms
  | .disconnectAllClients => .isTrue trivial

instance (s : State) (e : Event) : Decidable (s.SeatingStep e) := inferInstanceAs (Decidable (Seating _ _))

theorem doneSeats (done : s.Done action l op) (seats : s.Seating action) : l.Seats op := by
  obtain ⟨admitted,caused⟩ := done
  cases op with
  | createRoom u settings added =>
    obtain ⟨rfl,⟨p,⟨c,packet,rfl,request⟩,rfl⟩,through⟩ := caused
    exact (seats _ request).1 rfl through
  | updateRoomSettings u r settings =>
    obtain ⟨rfl,p,⟨c,packet,rfl,request⟩,rfl⟩ := caused
    obtain ⟨⟨-,-,found⟩,status,host⟩ := admitted
    exact (seats _ request).2 rfl r (by simp [currentRoom,status,found]) host
  | _ => trivial

theorem stepSeated (s : State) (e : Event) (seated : s.lobby.Seated) (seats : s.SeatingStep e) :
    (s.step e).lobby.Seated := by
  exact Reaches.invariant (fun (l : Lobby) _ (before : l.Seated) done => Lobby.applySeated before done.1 (doneSeats done seats))
    (effectsReaches actEffects) seated

structure RoomOccupancy (s : State) : Prop where
  occupied : ∀ r ∈ s.lobby.rooms, 1 ≤ (s.lobby.room r).roomUsers.length
  limited : ∀ r ∈ s.lobby.rooms, (s.lobby.room r).roomUsers.length ≤ (s.lobby.room r).roomSettings.maxPlayers.toNat

theorem roomOccupancy (serverConfig : ChannelConfig) (database : Database) (environment : Environment) (time : Nat)
    {events : List Event} (seats : Each step SeatingStep (start serverConfig database environment time) events) :
    Always step RoomOccupancy (start serverConfig database environment time) events := by
  have begun : (start serverConfig database environment time).Standing ∧
      (start serverConfig database environment time).lobby.Seated :=
    ⟨⟨Lobby.startSound,Lobby.startPlaced,rfl⟩,fun r mem => by cases mem⟩
  have keeps (s : State) (e : Event) (both : s.Standing ∧ s.lobby.Seated) (seats : s.SeatingStep e) :
      (s.step e).Standing ∧ (s.step e).lobby.Seated :=
    ⟨stepStanding both.1 e,stepSeated s e both.2 seats⟩
  refine alwaysMono (fun s both => ?_) (alwaysOfEach keeps begun seats)
  exact ⟨fun r registered => List.length_pos_of_mem (both.1.placed.rooms r registered).host,both.2⟩

end Run

section Sample

theorem roomOccupancyPlaying : Always step RoomOccupancy sampleStart playing :=
  roomOccupancy _ _ _ _ ⟨trivial,by decide +kernel,by decide +kernel,by decide +kernel,by decide +kernel,trivial⟩

-- A room without seats is opened, with its creator in it.
theorem noSeatForCreator :
    ¬ ∀ serverConfig database environment time events,
      Always step RoomOccupancy (start serverConfig database environment time) events := by
  intro always
  have last := alwaysLast (always sampleChannel sampleTables sampleEnvironment 0
    [connects,arrives 0 (transferLoginBody "one"),arrives 0 ([65,0] ++ ascii "room" ++ [0,0,0,1,1,10,0,0,3,3,0,0,0,0])])
  exact absurd (last.limited 1 (by decide +kernel)) (by decide +kernel)

end Sample
end State
end CsoMaster
