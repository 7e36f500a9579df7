import CsoMaster.QuietSteps
import CsoMaster.LobbyConnections
import CsoMaster.Replication
import Mathlib.Data.Finset.Basic

/-! The user list that a client in the lobby is shown: a set of user IDs, opened by
FullUserList, added to by AddUser, taken from by RemoveUser. -/
namespace CsoMaster

abbrev UserList := Finset UInt32

def userListReplica : Replica Message UserList where
  opens
    | .fullUserList gameUsers => some (gameUsers.map GameUser.userID).toFinset
    | _ => none
  change list
    | .addUser gameUser => insert gameUser.userID list
    | .removeUser userID => list.erase userID
    | _ => list

def Message.usersListed : Message → Bool
  | .fullUserList _ | .addUser _ | .removeUser _ => true
  | _ => false

section Packets
variable {m : Message}

theorem addUserSettles (gameUser : GameUser) : userListReplica.Settles (.addUser gameUser) :=
  Replica.settlesOf rfl fun _ => Finset.insert_idem _ _

theorem removeUserSettles (userID : UInt32) : userListReplica.Settles (.removeUser userID) :=
  Replica.settlesOf rfl fun _ => Finset.erase_idem

theorem userListIgnores (other : m.usersListed = false) : userListReplica.Ignores m := by
  cases m with
  | fullUserList | addUser | removeUser => cases other
  | _ => exact Replica.ignoresOf rfl fun _ => rfl

theorem userListPlain (plain : m.listed = false) : userListReplica.Ignores m := by
  cases m with
  | fullUserList | addUser | removeUser => cases plain
  | _ => exact userListIgnores rfl

end Packets

namespace Lobby

-- Who is listed.
def Lists (l : Lobby) (u : UserRef) : Prop := u ∈ l.users ∧ (l.user u).userStatus = .InLobby

def userList (l : Lobby) : UserList :=
  ((l.users.filter fun u => (l.user u).userStatus = .InLobby).map fun u => (l.user u).userID).toFinset

-- No other user that is listed has its ID.
def Alone (l : Lobby) (u : UserRef) : Prop :=
  ∀ v ∈ l.users, (l.user v).userStatus = .InLobby → v ≠ u → (l.user v).userID ≠ (l.user u).userID

instance (l : Lobby) (u : UserRef) : Decidable (l.Alone u) :=
  inferInstanceAs (Decidable (∀ v ∈ l.users, (l.user v).userStatus = .InLobby → v ≠ u → (l.user v).userID ≠ (l.user u).userID))

section UserList
variable {l other : Lobby} {u : UserRef} {userID : UInt32}

theorem memUserList : userID ∈ l.userList ↔ ∃ u, l.Lists u ∧ (l.user u).userID = userID := by
  simp [userList,Lists]

theorem userListSame (lists : ∀ v, other.Lists v ↔ l.Lists v) (same : ∀ v, l.Lists v → (other.user v).userID = (l.user v).userID) :
    other.userList = l.userList := by
  refine Finset.ext fun userID => ?_
  rw [memUserList,memUserList]
  refine exists_congr fun v => ?_
  rw [lists v]
  refine and_congr_right fun listed => ?_
  rw [same v listed]

-- A user that is listed from now on; it may have been before.
theorem userListArrive (arrives : other.Lists u) (others : ∀ v, v ≠ u → (other.Lists v ↔ l.Lists v))
    (same : ∀ v, (other.user v).userID = (l.user v).userID) : other.userList = insert (l.user u).userID l.userList := by
  refine Finset.ext fun userID => ?_
  rw [Finset.mem_insert,memUserList,memUserList]
  constructor
  · rintro ⟨v,listed,rfl⟩
    rw [same v]
    by_cases own : v = u
    · exact .inl (congrArg (fun v => (l.user v).userID) own)
    · exact .inr ⟨v,(others v own).mp listed,rfl⟩
  · rintro (rfl | ⟨v,listed,rfl⟩)
    · exact ⟨u,arrives,same u⟩
    · refine ⟨v,?_,same v⟩
      by_cases own : v = u
      · rwa [own]
      · exact (others v own).mpr listed

-- A user whose ID no other that is listed has.
theorem userListDepart (departs : ¬ other.Lists u) (others : ∀ v, v ≠ u → (other.Lists v ↔ l.Lists v))
    (same : ∀ v, (other.user v).userID = (l.user v).userID)
    (alone : l.Alone u) : other.userList = l.userList.erase (l.user u).userID := by
  refine Finset.ext fun userID => ?_
  rw [Finset.mem_erase,memUserList,memUserList]
  constructor
  · rintro ⟨v,listed,rfl⟩
    have own : v ≠ u := by
      rintro rfl
      exact departs listed
    have before := (others v own).mp listed
    rw [same v]
    exact ⟨alone v before.1 before.2 own,v,before,rfl⟩
  · rintro ⟨foreign,v,listed,rfl⟩
    have own : v ≠ u := by
      rintro rfl
      exact foreign rfl
    exact ⟨v,(others v own).mpr listed,same v⟩

theorem listsOthers (users : other.users = l.users) (kept : ∀ v, v ≠ u → other.user v = l.user v) (v : UserRef) (own : v ≠ u) :
    other.Lists v ↔ l.Lists v := by
  rw [Lists,Lists,users,kept v own]

theorem setUserOthers {user : User} (v : UserRef) (own : v ≠ u) : (l.setUser u user).Lists v ↔ l.Lists v := by
  simp [Lists,setUser,own]

theorem setUserIDs {user : User} (id : user.userID = (l.user u).userID) (v : UserRef) :
    ((l.setUser u user).user v).userID = (l.user v).userID := by
  by_cases own : v = u
  · subst own
    simp [setUser,id]
  · simp [setUser,own]

-- One user has changed; its record is what the list depends on.
theorem userListSetUser {user : User} (id : user.userID = (l.user u).userID)
    (status : user.userStatus = .InLobby ↔ (l.user u).userStatus = .InLobby) : (l.setUser u user).userList = l.userList := by
  refine userListSame (fun v => ?_) fun v _ => setUserIDs id v
  by_cases own : v = u
  · subst own
    simp [Lists,setUser,status]
  · exact setUserOthers v own

theorem userListCome {user : User} (mem : u ∈ l.users) (id : user.userID = (l.user u).userID) (status : user.userStatus = .InLobby) :
    (l.setUser u user).userList = insert (l.user u).userID l.userList :=
  userListArrive ⟨mem,by simpa [setUser] using status⟩ setUserOthers (setUserIDs id)

theorem userListGo {user : User} (id : user.userID = (l.user u).userID) (status : user.userStatus ≠ .InLobby) (alone : l.Alone u) :
    (l.setUser u user).userList = l.userList.erase (l.user u).userID :=
  userListDepart (fun listed => status (by simpa [setUser] using listed.2))
    setUserOthers (setUserIDs id) alone

-- Who has just logged in is not in the lobby yet.
theorem userListAddUser {user : User} (old : ∀ v ∈ l.users, v ≠ l.fresh) (new : user.userStatus ≠ .InLobby) :
    (l.addUser user).userList = l.userList := by
  refine userListSame (fun v => ?_) fun v listed => by simp [addUser,old v listed.1]
  by_cases own : v = l.fresh
  · subst own
    simp only [Lists,addUser,Function.update_self]
    exact iff_of_false (fun listed => new listed.2) fun listed => old _ listed.1 rfl
  · simp [Lists,addUser,own]

theorem removeRoomUserUser (l : Lobby) (r : RoomRef) (u : UserRef) :
    (l.removeRoomUser r u).user = Function.update l.user u (l.user u).backToLobby := by
  cases left : (l.room r).roomUsers.erase u with
  | nil =>
    rw [removeRoomUserLast l left]
    rfl
  | cons first rest =>
    rw [removeRoomUserOthers l left]
    rfl

theorem userListLeaveRoom (mem : u ∈ l.users) (r : RoomRef) :
    (l.removeRoomUser r u).userList = insert (l.user u).userID l.userList := by
  have users := (removeRoomUserFrame l r u).1
  refine userListArrive ⟨users.symm ▸ mem,by simp [removeRoomUserUser,User.backToLobby]⟩
    (listsOthers users fun v own => by simp [removeRoomUserUser,own]) fun v => ?_
  exact ((removeRoomUserFrame l r u).2.2.2.2.1 v).2

theorem removeUserOthers (v : UserRef) (own : v ≠ u) : (l.removeUser u).user v = l.user v := by
  cases found : l.getRoomByRoomID (l.user u).currentRoomID with
  | none => rw [removeUserOutside found]
  | some r =>
    rw [removeUserInside found]
    simp [removeRoomUserUser,own]

theorem removeUserLists (nodup : l.users.Nodup) (v : UserRef) : (l.removeUser u).Lists v ↔ l.Lists v ∧ v ≠ u := by
  rw [Lists,Lists,removeUserUsers,nodup.mem_erase_iff]
  constructor
  · rintro ⟨⟨own,mem⟩,status⟩
    rw [removeUserOthers v own] at status
    exact ⟨⟨mem,status⟩,own⟩
  · rintro ⟨⟨mem,status⟩,own⟩
    rw [removeUserOthers v own]
    exact ⟨⟨own,mem⟩,status⟩

theorem removeUserIDs (v : UserRef) : ((l.removeUser u).user v).userID = (l.user v).userID := by
  cases found : l.getRoomByRoomID (l.user u).currentRoomID with
  | none => rw [removeUserOutside found]
  | some r =>
    rw [removeUserInside found]
    exact ((removeRoomUserFrame l r u).2.2.2.2.1 v).2

theorem userListRemoveUser (nodup : l.users.Nodup) (alone : l.Alone u) :
    (l.removeUser u).userList = l.userList.erase (l.user u).userID := by
  refine userListDepart (fun listed => ((removeUserLists nodup u).mp listed).2 rfl) (fun v own => ?_) removeUserIDs alone
  rw [removeUserLists nodup]
  exact and_iff_left own

theorem userListRemoveOutsider (nodup : l.users.Nodup) (outside : (l.user u).userStatus ≠ .InLobby) :
    (l.removeUser u).userList = l.userList := by
  refine userListSame (fun v => ?_) fun v _ => removeUserIDs v
  rw [removeUserLists nodup]
  refine and_iff_left_of_imp fun listed own => outside ?_
  rw [← own]
  exact listed.2

end UserList
end Lobby
end CsoMaster
