import CsoMaster.RoomBriefSteps
import CsoMaster.UserListSteps

/-! The members of a room hold its host and the IDs of its users, over whole runs in which every
character that is asked for is there. UserLeave names a user by its ID only; as long as nobody
leaves a room in which somebody else has the same ID, the set that a member has been told is the
set of those that are in the room. -/
namespace CsoMaster

structure Roster where
  hostUserID : UInt32
  userIDs : Finset UInt32
  deriving DecidableEq

def Brief.roster (b : Brief) : Roster := ⟨b.hostUserID,b.userIDs.toFinset⟩

def rosterReplica : Replica Message Roster where
  opens
    | .replyCreateAndJoin hostUserID _ _ gameUsers => some ⟨hostUserID,(gameUsers.map GameUser.userID).toFinset⟩
    | _ => none
  change held
    | .userJoin gameUser => { held with userIDs := insert gameUser.userID held.userIDs }
    | .userLeave userID => { held with userIDs := held.userIDs.erase userID }
    | .updateRoom room flag => if flag &&& ROOMLIST_FLAG_ROOMHOST ≠ 0 then { held with hostUserID := room.hostUserID } else held
    | _ => held

theorem rosterFollows : Follows True rosterReplica Brief.roster where
  opens {b _ gameUsers} _ named := by
    have ids := congrArg Multiset.toFinset (named trivial)
    rw [List.toFinset_coe] at ids
    exact congrArg some (congrArg (Roster.mk b.hostUserID) ids)
  revises {b _ _} revises := by
    cases revises with
    | userJoin gameUser =>
      rw [Replica.absorbChange rfl]
      exact congrArg some (congrArg (Roster.mk b.hostUserID) (Multiset.toFinset_cons _ _).symm)
    | userReady userID ready => rfl
    | @userLeave userID userIDs alone =>
      obtain ⟨left,absent⟩ := alone trivial
      have gone : b.userIDs.toFinset.erase userID = userIDs.toFinset := by
        ext other
        rw [Finset.mem_erase,Multiset.mem_toFinset,Multiset.mem_toFinset]
        by_cases own : other = userID
        · subst own
          simp [absent]
        · rw [left,Multiset.mem_erase_of_ne own]
          exact ⟨And.right,fun present => ⟨own,present⟩⟩
      rw [Replica.absorbChange rfl]
      exact congrArg some (congrArg (Roster.mk b.hostUserID) gone)
    | roomHost room => rfl
    | roomState room => rfl
    | settings clean => rfl
  kept _ same := by rw [same trivial]

namespace State
open Runs
open SqlText (ascii)

-- What the members of a room have been told of its host and its users is so.
structure RosterAgreed (s : State) : Prop where
  held : ∀ r ∈ s.lobby.rooms, ∀ u ∈ (s.lobby.room r).roomUsers, (s.connection (s.lobby.user u).connection).isOpen = true →
    ∃ roster, rosterReplica.copy s.told (u,r) = some roster ∧
      roster.hostUserID = (s.lobby.user (s.lobby.room r).roomHostUser).userID ∧
      ∀ userID, userID ∈ roster.userIDs ↔ ∃ v ∈ (s.lobby.room r).roomUsers, (s.lobby.user v).userID = userID

theorem roomRosters (serverConfig : ChannelConfig) (database : Database) (environment : Environment) (time : Nat)
    {events : List Event}
    (ok : Each step (fun s e => s.StaysStep e ∧ s.PartsStep e) (start serverConfig database environment time) events) :
    Always step (fun s => s.characterMissed = false → s.RosterAgreed) (start serverConfig database environment time) events := by
  have carried := alwaysOfEach
    (fun s e before (ok : s.StaysStep e ∧ s.PartsStep e) =>
      stepCarries rosterFollows s e before fun _ => ⟨staysCalm ok.1,ok.2⟩)
    (startCarries True rosterReplica Brief.roster serverConfig database environment time) ok
  refine alwaysMono (fun s carries found => ⟨fun r registered u member isOpen => ?_⟩) carried
  refine ⟨_,carries.followed (fun _ => found) u r ⟨registered,member,isOpen⟩,rfl,fun userID => ?_⟩
  simp [Brief.roster,Lobby.brief]

-- One opens a room, the other joins it, and the host leaves.
theorem roomRostersHostLeft :
    Always step (fun s => s.characterMissed = false → s.RosterAgreed) sampleStart
      [connects,connects,arrives 0 (transferLoginBody "one"),arrives 1 (transferLoginBody "two"),arrives 0 createRoomBody,
        arrives 1 [65,1,1,0,0],arrives 0 [65,2]] :=
  roomRosters _ _ _ _ ⟨by decide +kernel,by decide +kernel,by decide +kernel,by decide +kernel,by decide +kernel,
    by decide +kernel,by decide +kernel,trivial⟩

-- The account of the first user comes a second time, from another server, and into the same room.
def sharedRoom : List Event :=
  [connects,connects,arrives 0 (transferLoginBody "one"),
    ⟨.packet 1 (received (transferLoginBody "again")),{ sampleEnvironment with statements := [otherServerTakes] }⟩,
    arrives 0 createRoomBody,arrives 1 [65,1,1,0,0],arrives 1 [65,2]]

-- One of the two leaves, and the other is told that it is no longer there itself.
theorem sameUserTwiceInRoom :
    ¬ ∀ serverConfig database environment time events,
      Each step StaysStep (start serverConfig database environment time) events →
        Always step (fun s => s.characterMissed = false → s.RosterAgreed) (start serverConfig database environment time) events := by
  intro always
  have stays : Each step StaysStep sampleStart sharedRoom :=
    ⟨trivial,trivial,by decide +kernel,by decide +kernel,by decide +kernel,by decide +kernel,by decide +kernel,trivial⟩
  have last := alwaysLast (always sampleChannel sampleTables sampleEnvironment 0 sharedRoom stays)
  obtain ⟨roster,copied,-,same⟩ := (last (by decide +kernel)).held 2 (by decide +kernel) 0 (by decide +kernel) (by decide +kernel)
  have named : 1 ∈ roster.userIDs := (same 1).mpr ⟨0,by decide +kernel,by decide +kernel⟩
  have held : (rosterReplica.copy (run step sampleStart sharedRoom).told (0,2)).map (decide <| 1 ∈ ·.userIDs) = some false := by
    decide +kernel
  have gone : (some roster).map (decide <| 1 ∈ ·.userIDs) = some false := copied ▸ held
  simp [named] at gone

end State
end CsoMaster
