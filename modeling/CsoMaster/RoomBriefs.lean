import CsoMaster.ClientCopies
import CsoMaster.RoomSettingsCodec
import Mathlib.Data.Multiset.MapFold

/-! What the members of a room are told of it. Whatever an event does, each member that is left is
told the changes of its room one by one, and whoever has come in is told all of it first. `precise`
stands for what makes the host and the member IDs right as well as the settings: characters that
are all there, and nobody leaving a room in which somebody else has the same ID. -/
namespace CsoMaster

structure Brief where
  hostUserID : UInt32
  roomSettings : RoomSettings
  userIDs : Multiset UInt32

-- No other member of the room has the user's ID.
def Lobby.AloneIn (l : Lobby) (r : RoomRef) (u : UserRef) : Prop :=
  ∀ v ∈ (l.room r).roomUsers, v ≠ u → (l.user v).userID ≠ (l.user u).userID

instance (l : Lobby) (r : RoomRef) (u : UserRef) : Decidable (l.AloneIn r u) :=
  inferInstanceAs (Decidable (∀ v ∈ (l.room r).roomUsers, v ≠ u → (l.user v).userID ≠ (l.user u).userID))

def Lobby.brief (l : Lobby) (r : RoomRef) : Brief where
  hostUserID := (l.user (l.room r).roomHostUser).userID
  roomSettings := (l.room r).roomSettings
  userIDs := (l.room r).roomUsers.map fun u => (l.user u).userID

-- What one message makes of a brief.
inductive Revises (precise : Prop) (b : Brief) : Message → Brief → Prop where
  | userJoin (gameUser : GameUser) : Revises precise b (.userJoin gameUser) { b with userIDs := gameUser.userID ::ₘ b.userIDs }
  | userReady (userID : UInt32) (ready : UInt8) : Revises precise b (.userReady userID ready) b
  | userLeave {userID : UInt32} {userIDs : Multiset UInt32}
      (alone : precise → userIDs = b.userIDs.erase userID ∧ userID ∉ userIDs) :
      Revises precise b (.userLeave userID) { b with userIDs := userIDs }
  | roomHost (room : RoomInfo) :
      Revises precise b (.updateRoom room ROOMLIST_FLAG_ROOMHOST) { b with hostUserID := room.hostUserID }
  | roomState (room : RoomInfo) : Revises precise b (.updateRoom room ROOMLIST_FLAG_ROOMSTATE) b
  | settings {roomSettings : RoomSettings} (clean : roomSettings.NulFree) :
      Revises precise b (.replyUpdateRoomSettings roomSettings) { b with roomSettings := b.roomSettings.update roomSettings }

-- What a member knows after some messages, from what it knew before; nothing is known of others.
inductive Briefing (precise : Prop) (held : Option Brief) : List Message → Option Brief → Prop where
  | same : Briefing precise held [] held
  | gone {ms : List Message} : Briefing precise held ms none
  | kept {ms : List Message} {b also : Brief} (before : Briefing precise held ms (some b))
      (settings : also.roomSettings = b.roomSettings) (same : precise → also = b) : Briefing precise held ms (some also)
  | opened {ms : List Message} {b : Brief} {roomID : UInt16} {gameUsers : List GameUser} (whole : b.roomSettings.Whole)
      (named : precise → (gameUsers.map GameUser.userID : Multiset UInt32) = b.userIDs) :
      Briefing precise held (ms ++ [.replyCreateAndJoin b.hostUserID roomID b.roomSettings gameUsers]) (some b)
  | revised {ms : List Message} {m : Message} {b also : Brief} (before : Briefing precise held ms (some b))
      (revises : Revises precise b m also) : Briefing precise held (ms ++ [m]) (some also)

section Briefing
variable {precise : Prop} {held known : Option Brief} {ms more : List Message}

theorem Briefing.trans (before : Briefing precise held ms known) {later : Option Brief} (after : Briefing precise known more later) :
    Briefing precise held (ms ++ more) later := by
  induction after with
  | same => rwa [List.append_nil]
  | gone => exact .gone
  | kept _ settings same ih => exact .kept ih settings same
  | opened whole named =>
    rw [← List.append_assoc]
    exact .opened whole named
  | revised _ revises ih =>
    rw [← List.append_assoc]
    exact .revised ih revises

theorem Revises.briefing {b also : Brief} {m : Message} (revises : Revises precise b m also) :
    Briefing precise (some b) [m] (some also) :=
  .revised .same revises

end Briefing

-- A replica that is opened with the brief it is a replica of, and that each revision carries on.
structure Follows {ν : Type} (precise : Prop) (R : Replica Message ν) (f : Brief → ν) : Prop where
  opens : ∀ {b : Brief} {roomID : UInt16} {gameUsers : List GameUser}, b.roomSettings.Whole →
    (precise → (gameUsers.map GameUser.userID : Multiset UInt32) = b.userIDs) →
      R.opens (.replyCreateAndJoin b.hostUserID roomID b.roomSettings gameUsers) = some (f b)
  revises : ∀ {b also : Brief} {m : Message}, Revises precise b m also → R.absorb (some (f b)) m = some (f also)
  kept : ∀ {b also : Brief}, also.roomSettings = b.roomSettings → (precise → also = b) → f also = f b

theorem Briefing.read {ν : Type} {precise : Prop} {R : Replica Message ν} {f : Brief → ν} (follows : Follows precise R f)
    {held known : Option Brief} {ms : List Message} (briefing : Briefing precise held ms known) {copy : Option ν}
    (before : ∀ b ∈ held, copy = some (f b)) : ∀ b ∈ known, ms.foldl R.absorb copy = some (f b) := by
  induction briefing with
  | same => exact before
  | gone =>
    intro b mem
    cases mem
  | kept _ settings same ih =>
    rintro _ ⟨⟩
    rw [follows.kept settings same]
    exact ih _ rfl
  | opened whole named =>
    rintro _ ⟨⟩
    rw [List.foldl_append]
    exact Replica.absorbOpening (follows.opens whole named) _
  | revised _ revises ih =>
    rintro _ ⟨⟩
    rw [List.foldl_append,ih _ rfl]
    exact follows.revises revises

namespace State
open DatabaseManager

-- What a user has been told of a room.
def mail (s : State) (u : UserRef) (r : RoomRef) : List Message := Replica.mail s.told (u,r)

-- A member of a room, on a connection that is open.
structure Attends (s : State) (u : UserRef) (r : RoomRef) : Prop where
  registered : r ∈ s.lobby.rooms
  member : u ∈ (s.lobby.room r).roomUsers
  isOpen : (s.connection (s.lobby.user u).connection).isOpen = true

instance (s : State) (u : UserRef) (r : RoomRef) : Decidable (s.Attends u r) :=
  decidable_of_iff (r ∈ s.lobby.rooms ∧ u ∈ (s.lobby.room r).roomUsers ∧ (s.connection (s.lobby.user u).connection).isOpen = true)
    ⟨fun ⟨registered,member,isOpen⟩ => ⟨registered,member,isOpen⟩,fun ⟨registered,member,isOpen⟩ => ⟨registered,member,isOpen⟩⟩

-- What a user should know of a room.
def held (s : State) (u : UserRef) (r : RoomRef) : Option Brief := if s.Attends u r then some (s.lobby.brief r) else none

structure Orderly (s : State) : Prop where
  nodup : ∀ r ∈ s.lobby.rooms, (s.lobby.room r).roomUsers.Nodup
  whole : ∀ r ∈ s.lobby.rooms, (s.lobby.room r).roomSettings.Whole

-- A stretch in which every user of room `r` is told its own letters, and nothing of other rooms.
structure Posts (r : RoomRef) (ms : UserRef → List Message) (s t : State) : Prop extends Steady s t where
  users : s.lobby.SameUsers t.lobby
  told : ∃ more, t.told = s.told ++ more ∧ ∀ u q, (t.connection (t.lobby.user u).connection).isOpen = true →
    Replica.mail more (u,q) = if q = r then ms u else []

-- A stretch in which nobody is told anything, and rooms only go.
structure Silent (s t : State) : Prop extends Steady s t where
  users : s.lobby.SameUsers t.lobby
  told : t.told = s.told
  rooms : ∀ r ∈ t.lobby.rooms, r ∈ s.lobby.rooms
  room : t.lobby.room = s.lobby.room

section Silent
variable {s t m : State} {r : RoomRef} {u : UserRef}

theorem Silent.refl (s : State) : Silent s s := ⟨.refl s,fun _ => ⟨rfl,rfl⟩,rfl,fun _ => id,rfl⟩

theorem Silent.trans (left : Silent s m) (right : Silent m t) : Silent s t where
  toSteady := left.toSteady.trans right.toSteady
  users u := ⟨(right.users u).1.trans (left.users u).1,(right.users u).2.trans (left.users u).2⟩
  told := right.told.trans left.told
  rooms r registered := left.rooms r (right.rooms r registered)
  room := right.room.trans left.room

theorem Silent.setLobby (silent : Silent s t) {l : Lobby} (users : t.lobby.SameUsers l)
    (rooms : ∀ r ∈ l.rooms, r ∈ t.lobby.rooms) (room : l.room = t.lobby.room) : Silent s (t.setLobby l) :=
  silent.trans ⟨(Steady.refl t).setLobby l,users,rfl,rooms,room⟩

theorem Silent.setUser (silent : Silent s t) {user : User} (connection : user.connection = (t.lobby.user u).connection)
    (userID : user.userID = (t.lobby.user u).userID) : Silent s (t.setLobby (t.lobby.setUser u user)) :=
  silent.setLobby (Lobby.setUserSame _ u connection userID) (fun _ => id) rfl

theorem Silent.unheard (silent : Silent s m) (unheard : Unheard (fun _ => True) (fun _ => False) m t) : Silent s t := by
  refine silent.trans ⟨unheard.toSteady,?_,?_,?_,by rw [unheard.lobby]⟩
  · rw [unheard.lobby]
    exact fun _ => ⟨rfl,rfl⟩
  · obtain ⟨more,told,none⟩ := unheard.told
    rw [told,List.eq_nil_iff_forall_not_mem.mpr none,List.append_nil]
  · rw [unheard.lobby]
    exact fun _ => id

theorem Silent.quiet (silent : Silent s m) (quiet : Quiet m t) : Silent s t :=
  silent.unheard ((Unheard.refl m).quiet (fun _ _ => trivial) quiet)

-- Folds of what is silent are silent.
theorem Silent.fold {α : Type} {f : State → α → State} (silent : Silent s t) (each : ∀ s a, Silent s (f s a))
    (as : List α) : Silent s (as.foldl f t) := by
  induction as generalizing t with
  | nil => exact silent
  | cons a as ih => exact ih (silent.trans (each t a))

theorem Silent.showLobby (silent : Silent s t) (u : UserRef) : Silent s (t.showLobby u) := by
  refine silent.unheard ?_
  have announced : Unheard (fun _ => True) (fun _ => False) t (t.sendAddUserPacketToAll u) :=
    (Unheard.refl t).sendAddUserPacketToAll (fun _ => trivial) u
  exact ((announced.sendTo trivial u).sendFullUserListPacket (fun _ => trivial) _).send trivial _

theorem Silent.backToLobby (silent : Silent s t) (u : UserRef) : Silent s (t.setLobby (t.lobby.backToLobby u)) :=
  silent.setUser rfl rfl

theorem Silent.destroyRoom (silent : Silent s t) (us : List UserRef) : Silent s (t.destroyRoom us) := by
  unfold State.destroyRoom
  exact silent.fold (fun s u => ((Silent.refl s).backToLobby u).showLobby u) us

theorem Silent.removeRoom (silent : Silent s t) (r : RoomRef) : Silent s (t.removeRoom r) := by
  have told : Silent s (t.sendRemoveRoomPacketToAll (t.lobby.room r).roomID) :=
    silent.unheard ((Unheard.refl t).sendAll trivial _)
  have closed : Silent s (t.closeRoom r) := by
    refine Silent.setLobby (told.unheard (((Unheard.refl _).exec _).erasing _)) (fun _ => ⟨rfl,rfl⟩) (fun q => ?_) rfl
    exact List.mem_of_mem_erase
  rw [removeRoomCloses]
  exact closed.destroyRoom _

theorem Silent.setUserStatus (silent : Silent s t) (u : UserRef) (userStatus : UserStatus) :
    Silent s (t.setUserStatus u userStatus) :=
  silent.setUser rfl rfl

theorem Silent.sendRemoveUserPacketToAll (silent : Silent s t) (u : UserRef) : Silent s (t.sendRemoveUserPacketToAll u) :=
  silent.unheard ((Unheard.refl t).sendAll trivial _)

theorem Silent.sendUpdateRoomPacketToAll (silent : Silent s t) (r : RoomRef) (flag : UInt16) :
    Silent s (t.sendUpdateRoomPacketToAll r flag) :=
  silent.unheard ((Unheard.refl t).sendAll trivial _)

theorem Silent.updateRoom (silent : Silent s t) (r : RoomRef) : Silent s (t.updateRoom r) :=
  silent.unheard ((Unheard.refl t).exec _)

theorem Silent.enterLobby (silent : Silent s t) (u : UserRef) : Silent s (t.enterLobby u) := by
  refine (silent.setUserStatus u .InLobby).unheard ?_
  have announced : Unheard (fun _ => True) (fun _ => False) (t.setUserStatus u .InLobby)
      ((t.setUserStatus u .InLobby).sendAddUserPacketToAll u) :=
    (Unheard.refl _).sendAddUserPacketToAll (fun _ => trivial) u
  exact (announced.sendFullUserListPacket (fun _ => trivial) _).send trivial _

theorem Silent.farewell (silent : Silent s t) (u : UserRef) : Silent s (t.farewell u) := by
  unfold State.farewell
  split
  · exact silent.sendRemoveUserPacketToAll u
  · exact silent

theorem Silent.dropUser (silent : Silent s t) (u : UserRef) : Silent s (t.dropUser u) := by
  have counted (m : State) (silent : Silent s m) : Silent s m.updateChannelNumPlayers := by
    rcases m.updateChannelNumPlayersCases with ⟨-,quiet⟩ | ⟨-,faulted⟩
    · exact silent.quiet quiet
    · rw [faulted]
      exact silent.trans ⟨⟨rfl,fun _ => id,rfl,id⟩,fun _ => ⟨rfl,rfl⟩,rfl,fun _ => id,rfl⟩
  refine counted _ (Silent.setLobby (silent.unheard (((Unheard.refl t).exec _).erasing _)) (fun _ => ⟨rfl,rfl⟩) (fun _ => id) rfl)

theorem Silent.approachRoom (silent : Silent s t) (u : UserRef) : Silent s (t.approachRoom u) := by
  have entered : Silent s (t.setLobby (t.lobby.setUser u ((t.lobby.user u).enterRoom t.lobby.getFreeRoomID))) :=
    silent.setUser rfl rfl
  exact entered.sendRemoveUserPacketToAll u

theorem Silent.roomRefused (silent : Silent s t) (u : UserRef) : Silent s (t.roomRefused u) := by
  refine Silent.destroyRoom ((silent.backToLobby u).unheard ?_) _
  exact ((Unheard.refl _).sendAddUserPacketToAll (fun _ => trivial) u).sendTo trivial u

end Silent

section Posts
variable {s t m : State} {r : RoomRef} {u : UserRef} {ms more : UserRef → List Message} {message : Message}

theorem Silent.posts (silent : Silent s t) (r : RoomRef) : Posts r (fun _ => []) s t where
  toSteady := silent.toSteady
  users := silent.users
  told := ⟨[],by rw [silent.told,List.append_nil],fun _ _ _ => by split <;> rfl⟩

theorem Posts.trans (left : Posts r ms s m) (right : Posts r more m t) : Posts r (fun u => ms u ++ more u) s t where
  toSteady := left.toSteady.trans right.toSteady
  users u := ⟨(right.users u).1.trans (left.users u).1,(right.users u).2.trans (left.users u).2⟩
  told := by
    obtain ⟨first,whole,letters⟩ := left.told
    obtain ⟨second,also,others⟩ := right.told
    refine ⟨first ++ second,by rw [also,whole,List.append_assoc],fun u q isOpen => ?_⟩
    have before : (m.connection (m.lobby.user u).connection).isOpen = true := by
      rw [← (right.users u).1]
      exact right.closed _ isOpen
    rw [Replica.mailAppend,letters u q before,others u q isOpen]
    split <;> rfl

theorem Posts.silent (posts : Posts r ms s m) (silent : Silent m t) : Posts r ms s t := by
  simpa only [List.append_nil] using posts.trans (silent.posts r)

theorem Posts.setLobby (posts : Posts r ms s t) {l : Lobby} (users : t.lobby.SameUsers l) : Posts r ms s (t.setLobby l) where
  toSteady := posts.toSteady.setLobby _
  users u := ⟨(users u).1.trans (posts.users u).1,(users u).2.trans (posts.users u).2⟩
  told := by
    obtain ⟨more,told,letters⟩ := posts.told
    refine ⟨more,told,fun u q isOpen => letters u q ?_⟩
    rw [← (users u).1]
    exact isOpen

theorem Posts.setRoom (posts : Posts r ms s t) (q : RoomRef) (room : Room) : Posts r ms s (t.setLobby (t.lobby.setRoom q room)) :=
  posts.setLobby fun _ => ⟨rfl,rfl⟩

-- One user is told one letter.
theorem Posts.tell (posts : Posts r ms s t) (u : UserRef) (message : Message) :
    Posts r (fun v => ms v ++ if v = u then [message] else []) s (t.tell u r message) := by
  have mails := (Mails.refl t).tell u r message
  refine posts.trans ⟨mails.toKeeps.steady,by rw [mails.lobby]; exact fun _ => ⟨rfl,rfl⟩,?_⟩
  unfold State.tell
  split
  · refine ⟨[((u,r),message)],rfl,fun v q _ => ?_⟩
    by_cases room : q = r
    · by_cases own : v = u
      · simp [Replica.mail,room,own]
      · simp [Replica.mail,own,Ne.symm own]
    · simp [Replica.mail,room,Ne.symm room]
  · rename_i shut
    refine ⟨[],by rw [List.append_nil],fun v q isOpen => ?_⟩
    have other : v ≠ u := by
      rintro rfl
      exact shut isOpen
    simp [Replica.mail,other]

theorem Posts.tellTwice (posts : Posts r ms s t) (u : UserRef) (first second : Message) :
    Posts r (fun v => ms v ++ if v = u then [first,second] else []) s ((t.tell u r first).tell u r second) := by
  refine (congrArg (Posts r · s _) (funext fun v => ?_)).mp ((posts.tell u first).tell u second)
  by_cases own : v = u <;> simp [own]

-- One user after the other is told the same letters.
theorem Posts.each {f : State → UserRef → State} {letters : List Message} (us : List UserRef) (nodup : us.Nodup)
    (lobby : ∀ m u, (f m u).lobby = m.lobby)
    (once : ∀ m u, m.lobby = t.lobby → Posts r (fun v => if v = u then letters else []) m (f m u))
    (posts : Posts r ms s t) : Posts r (fun v => ms v ++ if v ∈ us then letters else []) s (us.foldl f t) := by
  induction us generalizing t ms with
  | nil => simpa using posts
  | cons u us ih =>
    obtain ⟨fresh,rest⟩ := List.nodup_cons.mp nodup
    have told := ih rest (fun m v same => once m v (same.trans (lobby t u))) (posts.trans (once t u rfl))
    refine (congrArg (Posts r · s (us.foldl f (f t u))) (funext fun v => ?_)).mp told
    by_cases own : v = u
    · subst own
      simp [fresh]
    · simp [own]

theorem Posts.tellAll (posts : Posts r ms s t) {us : List UserRef} (nodup : us.Nodup) (message : Message) :
    Posts r (fun v => ms v ++ if v ∈ us then [message] else []) s (t.tellAll us r message) :=
  posts.each us nodup (fun _ _ => tellLobby _ _ _ _) fun m u _ => ((Silent.refl m).posts r).tell u message

theorem Posts.announceRoomState (posts : Posts r ms s t) (nodup : (t.lobby.room r).roomUsers.Nodup) (roomState : RoomState) :
    Posts r (fun v => ms v ++ if v ∈ (t.lobby.room r).roomUsers then
      [.replyUpdateRoomSettings (.ofRoomState roomState),.updateRoom (t.roomInfo r) ROOMLIST_FLAG_ROOMSTATE] else [])
        s (t.announceRoomState r roomState) := by
  have shown : Posts r ms s (t.sendUpdateRoomPacketToAll r ROOMLIST_FLAG_ROOMSTATE) :=
    posts.silent ((Silent.refl t).unheard ((Unheard.refl t).sendAll trivial _))
  have lobby : (t.sendUpdateRoomPacketToAll r ROOMLIST_FLAG_ROOMSTATE).lobby = t.lobby := by simp
  dsimp only [State.announceRoomState]
  rw [lobby]
  refine Posts.each _ nodup (fun _ _ => by simp) (fun m u same => ?_) shown
  have info : m.roomInfo r = t.roomInfo r := by
    unfold State.roomInfo
    rw [same,lobby]
  rw [← info]
  exact ((Silent.refl m).posts r).tellTwice u _ _

theorem introduceEach (newcomer : GameUser) (us : List UserRef) : (s.introduce r newcomer us).2 = us.foldl
    (fun s v => ((s.getUserCharacter v USERCHARACTER_FLAG_ALL).2.tell v r (.userJoin newcomer)).tell v r
      (.userReady newcomer.userID 0)) s := by
  induction us generalizing s with
  | nil => rfl
  | cons v us ih =>
    rw [List.foldl_cons,← ih]
    rfl

theorem Posts.introduce (posts : Posts r ms s t) {us : List UserRef} (nodup : us.Nodup) (newcomer : GameUser) :
    Posts r (fun v => ms v ++ if v ∈ us then [.userJoin newcomer,.userReady newcomer.userID 0] else []) s
      (t.introduce r newcomer us).2 := by
  rw [introduceEach]
  refine posts.each us nodup (fun _ _ => by simp) fun m u _ => ?_
  have asked : Silent m (m.getUserCharacter u USERCHARACTER_FLAG_ALL).2 :=
    (Silent.refl m).unheard ((Unheard.refl m).getUserCharacter u _)
  exact (asked.posts r).tellTwice u _ _

end Posts
-- Rooms stay in order, and whoever attends one has been told what has become of it.
structure Briefed (precise : Prop) (s t : State) : Prop where
  orderly : s.Orderly → t.Orderly
  told : s.Orderly → ∀ u r, ∃ ms, t.mail u r = s.mail u r ++ ms ∧ Briefing precise (s.held u r) ms (t.held u r)

section Rules
variable {precise : Prop} {s t m : State} {r : RoomRef} {u : UserRef} {ms : UserRef → List Message} {letters : List Message}

theorem heldSome (attends : s.Attends u r) : s.held u r = some (s.lobby.brief r) := if_pos attends

theorem heldNone (away : ¬ s.Attends u r) : s.held u r = none := if_neg away

theorem briefSame {l other : Lobby} (users : l.SameUsers other) (room : other.room r = l.room r) : other.brief r = l.brief r := by
  unfold Lobby.brief
  simp only [room,(users _).2]

theorem Briefed.refl (s : State) : Briefed precise s s :=
  ⟨id,fun _ _ _ => ⟨[],(List.append_nil _).symm,.same⟩⟩

theorem Briefed.trans (left : Briefed precise s m) (right : Briefed precise m t) : Briefed precise s t where
  orderly orderly := right.orderly (left.orderly orderly)
  told orderly u r := by
    obtain ⟨first,whole,before⟩ := left.told orderly u r
    obtain ⟨second,also,after⟩ := right.told (left.orderly orderly) u r
    exact ⟨first ++ second,by rw [also,whole,List.append_assoc],before.trans after⟩

theorem Briefed.of (briefed : s.Orderly → Briefed precise s t) : Briefed precise s t :=
  ⟨fun orderly => (briefed orderly).orderly orderly,fun orderly => (briefed orderly).told orderly⟩

-- What happens to room `r`, told to those that attend it then.
theorem Posts.briefed (posts : Posts r ms s t) (rooms : ∀ q ∈ t.lobby.rooms, q ≠ r → q ∈ s.lobby.rooms)
    (others : ∀ q, q ≠ r → t.lobby.room q = s.lobby.room q)
    (orderly : r ∈ t.lobby.rooms → (t.lobby.room r).roomUsers.Nodup ∧ (t.lobby.room r).roomSettings.Whole)
    (briefing : ∀ u, t.Attends u r → Briefing precise (s.held u r) (ms u) (some (t.lobby.brief r))) : Briefed precise s t where
  orderly before := by
    refine ⟨fun q registered => ?_,fun q registered => ?_⟩
    · by_cases own : q = r
      · subst own
        exact (orderly registered).1
      · rw [others q own]
        exact before.nodup q (rooms q registered own)
    · by_cases own : q = r
      · subst own
        exact (orderly registered).2
      · rw [others q own]
        exact before.whole q (rooms q registered own)
  told _ u q := by
    obtain ⟨more,told,mail⟩ := posts.told
    refine ⟨Replica.mail more (u,q),by rw [State.mail,told,Replica.mailAppend]; rfl,?_⟩
    by_cases attends : t.Attends u q
    · rw [heldSome attends,mail u q attends.isOpen]
      by_cases own : q = r
      · subst own
        rw [if_pos rfl]
        exact briefing u attends
      · have before : s.Attends u q := by
          refine ⟨rooms q attends.registered own,others q own ▸ attends.member,?_⟩
          rw [← (posts.users u).1]
          exact posts.closed _ attends.isOpen
        rw [if_neg own,heldSome before,briefSame posts.users (others q own)]
        exact .same
    · rw [heldNone attends]
      exact .gone

-- All that are left in the room are told the same.
theorem Posts.broadcast (posts : Posts r ms s t) (ordered : s.Orderly) (rooms : ∀ q ∈ t.lobby.rooms, q ∈ s.lobby.rooms)
    (others : ∀ q, q ≠ r → t.lobby.room q = s.lobby.room q)
    (members : (t.lobby.room r).roomUsers.Sublist (s.lobby.room r).roomUsers)
    (heard : ∀ u ∈ (t.lobby.room r).roomUsers, ms u = letters)
    (whole : (s.lobby.room r).roomSettings.Whole → (t.lobby.room r).roomSettings.Whole)
    (briefing : Briefing precise (some (s.lobby.brief r)) letters (some (t.lobby.brief r))) : Briefed precise s t := by
  refine posts.briefed (fun q registered _ => rooms q registered) others (fun registered => ?_) fun u attends => ?_
  · exact ⟨members.nodup (ordered.nodup r (rooms r registered)),whole (ordered.whole r (rooms r registered))⟩
  · have before : s.Attends u r := by
      refine ⟨rooms r attends.registered,members.subset attends.member,?_⟩
      rw [← (posts.users u).1]
      exact posts.closed _ attends.isOpen
    rw [heldSome before,heard u attends.member]
    exact briefing

-- Nobody is told anything, and there is nothing to tell.
theorem briefedStill (told : t.told = s.told) (rooms : ∀ r ∈ t.lobby.rooms, r ∈ s.lobby.rooms) (room : t.lobby.room = s.lobby.room)
    (attends : ∀ u r, t.Attends u r → s.Attends u r) (brief : precise → ∀ r ∈ t.lobby.rooms, t.lobby.brief r = s.lobby.brief r) :
    Briefed precise s t where
  orderly ordered := by
    refine ⟨fun r registered => ?_,fun r registered => ?_⟩ <;> rw [room]
    · exact ordered.nodup r (rooms r registered)
    · exact ordered.whole r (rooms r registered)
  told _ u r := by
    refine ⟨[],by rw [mail,mail,told,List.append_nil],?_⟩
    by_cases here : t.Attends u r
    · rw [heldSome here,heldSome (attends u r here)]
      exact .kept .same (by rw [Lobby.brief,Lobby.brief,room]) fun given => brief given r here.registered
    · rw [heldNone here]
      exact .gone

theorem Silent.briefed (silent : Silent s t) : Briefed precise s t := by
  refine briefedStill silent.told silent.rooms silent.room (fun u r attends => ?_) fun _ r _ =>
    briefSame silent.users (by rw [silent.room])
  refine ⟨silent.rooms r attends.registered,silent.room ▸ attends.member,?_⟩
  rw [← (silent.users u).1]
  exact silent.closed _ attends.isOpen

theorem Briefed.silent (briefed : Briefed precise s m) (silent : Silent m t) : Briefed precise s t := briefed.trans silent.briefed

-- A change of a room that its members are not told of: of its match.
theorem Briefed.setRoom (briefed : Briefed precise s t) {room : Room} (users : room.roomUsers = (t.lobby.room r).roomUsers)
    (host : room.roomHostUser = (t.lobby.room r).roomHostUser) (settings : room.roomSettings = (t.lobby.room r).roomSettings) :
    Briefed precise s (t.setLobby (t.lobby.setRoom r room)) := by
  refine briefed.trans (.of fun ordered => ?_)
  refine (((Silent.refl t).posts r).setRoom r room).broadcast ordered (fun _ => id) (fun q other => by simp [Lobby.setRoom,other])
    (by simp [roomSet,users]) (fun _ _ => rfl) (by simp [roomSet,settings]) ?_
  have same : (t.lobby.setRoom r room).brief r = t.lobby.brief r := by
    simp [Lobby.brief,Lobby.setRoom,users,host,settings]
  rw [setLobbyLobby,same]
  exact .same

-- Whoever attends a room holds the replica's copy of its brief.
def Followed {ν : Type} (R : Replica Message ν) (f : Brief → ν) (s : State) : Prop :=
  ∀ u r, s.Attends u r → R.copy s.told (u,r) = some (f (s.lobby.brief r))

theorem Briefed.followed {ν : Type} {R : Replica Message ν} {f : Brief → ν} (follows : Follows precise R f)
    (briefed : Briefed precise s t) (ordered : s.Orderly) (before : Followed R f s) : Followed R f t := by
  intro u r attends
  obtain ⟨ms,mail,briefing⟩ := briefed.told ordered u r
  have copied : ∀ b ∈ s.held u r, (s.mail u r).foldl R.absorb none = some (f b) := by
    intro b known
    obtain ⟨here,same⟩ := Option.ite_none_right_eq_some.mp known
    cases same
    rw [← before u r here,Replica.copyMail]
    rfl
  have read := briefing.read follows copied _ (heldSome attends)
  rw [← List.foldl_append,← mail] at read
  rw [Replica.copyMail]
  exact read

end Rules

end State
end CsoMaster
