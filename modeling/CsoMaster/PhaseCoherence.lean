import CsoMaster.RoomMembership

/-! The phase of a room over whole runs: its state, its match and the statuses of its members.
No packet of the run sets the room state; then the three stay in step as long as no user in
game enters another room and no host leaves an unsaved match to others. -/
namespace CsoMaster.State
open Runs

structure PhaseCoherent (s : State) : Prop where
  state : ∀ r ∈ s.lobby.rooms,
    (s.lobby.room r).roomSettings.roomState = .Playing ↔ (s.lobby.room r).gameMatch.isSome = true
  seats : ∀ r ∈ s.lobby.rooms, ∀ u ∈ (s.lobby.room r).roomUsers,
    (s.lobby.user u).userStatus = .InGame ↔ u ∈ (s.lobby.room r).participants

structure InStep (s : State) : Prop extends Settled s where
  coherent : s.lobby.Coherent

theorem stepInStep (s : State) (e : Event) (inStep : s.InStep)
    (ok : (s.CalmStep e ∧ s.HandedStep e) ∧ ¬ CarriesRoomState e.action) : (s.step e).InStep := by
  obtain ⟨⟨calm,handed⟩,unset⟩ := ok
  have kept : ((s.step e).lobby.Sound ∧ (s.step e).lobby.Members) ∧ (s.step e).lobby.Coherent :=
    Reaches.invariant (fun (l : Lobby) _ (before : (l.Sound ∧ l.Members) ∧ l.Coherent) meets =>
        ⟨⟨Lobby.applySound before.1.1 meets.admitted,
            Lobby.applyMembers before.1.1 before.1.2 meets.admitted (meets.calm calm)⟩,
          Lobby.applyCoherent before.1.1 before.1.2 before.2 meets.admitted (meets.calm calm)
            (meets.handed ⟨handed,unset⟩)⟩)
      (stepMoves s e) ⟨⟨inStep.sound,inStep.members⟩,inStep.coherent⟩
  exact ⟨⟨kept.1.1,kept.1.2⟩,kept.2⟩

theorem InStep.phaseCoherent {s : State} (inStep : s.InStep) : s.PhaseCoherent where
  state r registered := (inStep.coherent r registered).state
  seats r registered := (inStep.coherent r registered).seats

theorem phaseCoherence (serverConfig : ChannelConfig) (database : Database) (environment : Environment) (time : Nat)
    {events : List Event} (unset : ∀ e ∈ events, ¬ CarriesRoomState e.action)
    (ok : Each step (fun s e => s.CalmStep e ∧ s.HandedStep e) (start serverConfig database environment time) events) :
    Always step PhaseCoherent (start serverConfig database environment time) events := by
  have begun : (start serverConfig database environment time).InStep :=
    ⟨startSettled serverConfig database environment time,Lobby.startCoherent⟩
  exact alwaysMono (fun _ => InStep.phaseCoherent) (alwaysOfEach stepInStep begun (eachAlso ok unset))

-- Two users in the match of a room that the first one hosts.
def twoPlaying : List Event :=
  [connects,connects,arrives 0 (transferLoginBody "one"),arrives 1 (transferLoginBody "two"),
    arrives 0 createRoomBody,arrives 1 [65,1,1,0,0],arrives 0 [68,0],arrives 0 [68,2,1,0,0,0,1],
    arrives 0 [68,2,2,0,0,0,1]]

-- The host saves the match, then leaves it to the other user.
theorem phaseCoherenceHandedOver :
    Always step PhaseCoherent sampleStart (twoPlaying ++ [arrives 0 [68,1,1,0,7],arrives 0 [65,2]]) :=
  phaseCoherence _ _ _ _ (by decide +kernel)
    ⟨by decide +kernel,by decide +kernel,by decide +kernel,by decide +kernel,by decide +kernel,by decide +kernel,
      by decide +kernel,by decide +kernel,by decide +kernel,by decide +kernel,by decide +kernel,trivial⟩

-- Without a save the room goes on Playing, with no match and the other user in game.
theorem unsavedMatchDropped :
    ¬ ∀ serverConfig database environment time events, (∀ e ∈ events, ¬ CarriesRoomState e.action) →
      Always step PhaseCoherent (start serverConfig database environment time) events := by
  intro always
  have last := alwaysLast
    (always sampleChannel sampleTables sampleEnvironment 0 (twoPlaying ++ [arrives 0 [65,2]]) (by decide +kernel))
  exact absurd ((last.state 2 (by decide +kernel)).mp (by decide +kernel)) (by decide +kernel)

end CsoMaster.State
