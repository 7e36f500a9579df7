import CsoMaster.RoomMembership

/-! The users of one connection over whole runs. A login asks whether the connection's user is
past InLogin, not whether there is one; as long as none logs in over another, every connection
has one user at most, and its disconnect leaves neither user nor session behind. -/
namespace CsoMaster.State
open Runs
open SqlText (ascii)

section Run
variable {s : State} {c : ConnectionRef} {u : UserRef}

-- `deletes`: the removals whose session row is looked at.
structure OneUserPerConnection (deletes : State → UserRef → Prop) (s : State) : Prop where
  distinct : ∀ u ∈ s.lobby.users, ∀ v ∈ s.lobby.users,
    (s.lobby.user u).connection = (s.lobby.user v).connection → u = v
  disconnected : ∀ environment c ec,
    let t := (s.enter environment).disconnectUserByConnection c ec
    ∀ u ∈ t.lobby.users, (t.lobby.user u).connection ≠ c
  unsessioned : ∀ environment c ec, ∀ u ∈ s.lobby.users, (s.lobby.user u).connection = c →
    deletes (s.enter environment) u →
      ((s.enter environment).disconnectUserByConnection c ec).store.database.userSessions.lookup
        (s.lobby.user u).userID = none

structure Apart (s : State) : Prop where
  sound : s.lobby.Sound
  distinct : s.lobby.Distinct

theorem stepApart (s : State) (e : Event) (apart : s.Apart) (single : s.SingleStep e) : (s.step e).Apart := by
  have kept : (s.step e).lobby.Sound ∧ (s.step e).lobby.Distinct :=
    Reaches.invariant (fun (l : Lobby) _ (before : l.Sound ∧ l.Distinct) meets =>
        ⟨Lobby.applySound before.1 meets.admitted,Lobby.applyDistinct before.1 before.2 (meets.single single)⟩)
      (stepMoves s e) ⟨apart.sound,apart.distinct⟩
  exact ⟨kept.1,kept.2⟩

theorem Apart.getUser (apart : s.Apart) (mem : u ∈ s.lobby.users) (own : (s.lobby.user u).connection = c) :
    s.getUserByConnection c = some u := by
  cases found : s.getUserByConnection c with
  | none => exact absurd own (noUser found u mem)
  | some v =>
    obtain ⟨known,same⟩ := Lobby.getUserByConnectionSome found
    rw [apart.distinct v known u mem (same.trans own.symm)]

theorem Apart.disconnected (apart : s.Apart) (c : ConnectionRef) (ec : Option ErrorCode) :
    ∀ u ∈ (s.disconnectUserByConnection c ec).lobby.users,
      ((s.disconnectUserByConnection c ec).lobby.user u).connection ≠ c := by
  cases found : s.getUserByConnection c with
  | none =>
    rw [disconnectNobodyLobby s found ec]
    exact noUser found
  | some v =>
    rw [disconnectSomebodyLobby s found ec,Lobby.removeUserUsers]
    intro u mem own
    rw [Lobby.removeUserConnection] at own
    obtain ⟨other,known⟩ := apart.sound.usersNodup.mem_erase_iff.mp mem
    have same := apart.getUser known own
    rw [found] at same
    exact other (Option.some.inj same).symm

theorem leaveLobbyUserID (s : State) (u : UserRef) :
    ((s.leaveLobby u).lobby.user u).userID = (s.lobby.user u).userID := by
  rw [leaveLobbyLobby]
  split
  · rfl
  · exact ((Lobby.removeRoomUserFrame s.lobby _ u).2.2.2.2.1 u).2

theorem Apart.unsessioned (apart : s.Apart) (mem : u ∈ s.lobby.users) (own : (s.lobby.user u).connection = c)
    (deletes : (s.leaveLobby u).store.runsNext = true) (ec : Option ErrorCode) :
    (s.disconnectUserByConnection c ec).store.database.userSessions.lookup (s.lobby.user u).userID = none := by
  rw [disconnectSomebodyStore s (apart.getUser mem own) ec,removeUserStore,leaveLobbyUserID]
  exact DatabaseManager.removeUserSessionErased deletes _

theorem oneUserPerConnection (serverConfig : ChannelConfig) (database : Database) (environment : Environment)
    (time : Nat) {events : List Event}
    (single : Each step SingleStep (start serverConfig database environment time) events) :
    Always step (OneUserPerConnection fun s u => (s.leaveLobby u).store.runsNext = true)
      (start serverConfig database environment time) events := by
  have begun : (start serverConfig database environment time).Apart := ⟨Lobby.startSound,Lobby.startDistinct⟩
  refine alwaysMono (fun s apart => ?_) (alwaysOfEach stepApart begun single)
  have entered (environment : Environment) : (s.enter environment).Apart := ⟨apart.sound,apart.distinct⟩
  exact {
    distinct := apart.distinct
    disconnected := fun environment c ec => (entered environment).disconnected c ec
    unsessioned := fun environment _ ec _ mem own deletes => (entered environment).unsessioned mem own deletes ec }

end Run

def versionBody : Bytes :=
  [0,67,11,0] ++ ByteOrder.encode .little 4 sampleBuildTimestamp.toNat ++ ByteOrder.encode .little 4 1860010506

-- A new account logs in and is asked for a character.
def newcomer : List Event :=
  [connects,arrives 0 versionBody,arrives 0 ([3] ++ ascii "third" ++ [0] ++ ascii "pw" ++ [0])]

theorem oneUserPerConnectionNewcomer :
    Always step (OneUserPerConnection fun s u => (s.leaveLobby u).store.runsNext = true) sampleStart newcomer :=
  oneUserPerConnection _ _ _ _ ⟨trivial,by decide +kernel,by decide +kernel,trivial⟩

-- Instead of creating one it transfers in as another account, on the same connection.
theorem transferOverNewcomer :
    ¬ ∀ serverConfig database environment time events,
      Always step (OneUserPerConnection fun _ _ => True) (start serverConfig database environment time) events := by
  intro always
  have last := alwaysLast (always sampleChannel sampleTables sampleEnvironment 0
    (newcomer ++ [arrives 0 (transferLoginBody "one")]))
  exact absurd (last.distinct 0 (by decide +kernel) 1 (by decide +kernel) (by decide +kernel)) (by decide)

end CsoMaster.State
