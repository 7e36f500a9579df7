import CsoMaster.LobbyConnections
import CsoMaster.Replication
import CsoMaster.ServerEffects

/-! What clients keep of what they are sent: a user in the lobby of the lists, from all that its
connection has got, and a member of a room of that room, from what it was told about it. -/
namespace CsoMaster.State
open DatabaseManager

section Logs
variable {ν : Type} {R : Replica Message ν} {s : State} {c d : ConnectionRef} {u v : UserRef} {r q : RoomRef}
  {m : Message}

theorem copySend (isOpen : (s.connection d).isOpen = true) :
    R.copy (s.send c m).sent d = if c = d then R.absorb (R.copy s.sent d) m else R.copy s.sent d := by
  unfold send
  split
  · rw [Replica.copySnoc]
  · rename_i shut
    rw [if_neg]
    rintro rfl
    exact shut isOpen

theorem sendAllSent (us : List UserRef) (m : Message) : (s.sendAll us m).sent =
    s.sent ++ ((us.map fun u => (s.lobby.user u).connection).filter fun c => (s.connection c).isOpen).map (·,m) := by
  unfold sendAll
  induction us generalizing s with
  | nil => simp
  | cons u us ih =>
    rw [List.foldl_cons,ih,sendToLobby]
    unfold sendTo send
    split
    · rename_i isOpen
      simp [isOpen]
    · rename_i shut
      simp [shut]

theorem copySendAll (settles : R.Settles m) (isOpen : (s.connection d).isOpen = true) (us : List UserRef) :
    R.copy (s.sendAll us m).sent d =
      if ∃ u ∈ us, (s.lobby.user u).connection = d then R.absorb (R.copy s.sent d) m else R.copy s.sent d := by
  rw [sendAllSent,Replica.copyBroadcast settles]
  simp [isOpen]

theorem tellAllSent (us : List UserRef) (r : RoomRef) (m : Message) : (s.tellAll us r m).sent = (s.sendAll us m).sent := by
  rw [sendAllSent]
  unfold tellAll
  induction us generalizing s with
  | nil => simp
  | cons u us ih =>
    rw [List.foldl_cons,ih,tellLobby]
    unfold tell
    split
    · rename_i isOpen
      simp [isOpen]
    · rename_i shut
      simp [shut]

end Logs

-- What every event but a new connection leaves alone, whatever it does to users and rooms.
structure Steady (s t : State) : Prop where
  accepted : t.accepted = s.accepted
  closed : ∀ c, (t.connection c).isOpen = true → (s.connection c).isOpen = true
  layout : t.serverConfig.layout = s.serverConfig.layout
  missed : t.characterMissed = false → s.characterMissed = false

-- A stretch of sends and queries in which everything sent is in `inLobby` and everything told
-- in `inRoom`: what certain copies do not depend on.
structure Unheard (inLobby inRoom : Message → Prop) (s t : State) : Prop extends Steady s t where
  lobby : t.lobby = s.lobby
  sent : ∃ more, t.sent = s.sent ++ more ∧ ∀ entry ∈ more, inLobby entry.2
  told : ∃ more, t.told = s.told ++ more ∧ ∀ entry ∈ more, inRoom entry.2

section Steady
variable {s t m : State}

theorem Steady.refl (s : State) : Steady s s := ⟨rfl,fun _ => id,rfl,id⟩

theorem Steady.trans (left : Steady s m) (right : Steady m t) : Steady s t where
  accepted := right.accepted.trans left.accepted
  closed c isOpen := left.closed c (right.closed c isOpen)
  layout := right.layout.trans left.layout
  missed none := left.missed (right.missed none)

theorem foundCharacter {u : UserRef} {flag : UInt16} (found : (s.getUserCharacter u flag).2.characterMissed = false) :
    0 < (s.getUserCharacter u flag).1.result := by
  have both : (s.characterMissed || decide ((s.getUserCharacter u flag).1.result ≤ 0)) = false := found
  simpa using (Bool.or_eq_false_iff.mp both).2

theorem Keeps.steady (keeps : Keeps s t) : Steady s t := ⟨keeps.accepted,keeps.closed,keeps.layout,keeps.missed⟩

theorem Steady.setLobby (steady : Steady s t) (lobby : Lobby) : Steady s (t.setLobby lobby) :=
  steady.trans ⟨rfl,fun _ => id,rfl,id⟩

theorem Steady.exec {α : Type} (steady : Steady s t) (q : Sql α) : Steady s (t.exec q) :=
  steady.trans ⟨rfl,fun _ => id,rfl,id⟩

theorem Steady.updateRoom (steady : Steady s t) (r : RoomRef) : Steady s (t.updateRoom r) := steady.exec _

theorem Steady.erasing (steady : Steady s t) (found : Prop) [Decidable found] : Steady s (t.erasing found) :=
  steady.trans ⟨rfl,fun _ => id,rfl,id⟩

theorem Steady.fold {α : Type} {f : State → α → State} (steady : Steady s t) (each : ∀ s a, Steady s (f s a))
    (as : List α) : Steady s (as.foldl f t) := by
  induction as generalizing t with
  | nil => exact steady
  | cons a as ih => exact ih (steady.trans (each t a))

theorem Steady.takeOut (steady : Steady s t) (r : RoomRef) (u : UserRef) : Steady s (t.takeOut r u) :=
  (((steady.erasing _).setLobby _).trans ((Mails.refl _).sendUpdateRoomPacketToAll r _).toKeeps.steady).setLobby _

theorem Steady.removeRoom (steady : Steady s t) (r : RoomRef) : Steady s (t.removeRoom r) :=
  ((((steady.trans ((Mails.refl t).sendAll _ _).toKeeps.steady).exec _).erasing _).setLobby _).trans
    ((Keeps.refl _).destroyRoom _).steady

theorem Steady.removeRoomUser (steady : Steady s t) (r : RoomRef) (u : UserRef) : Steady s (t.removeRoomUser r u) := by
  refine steady.trans ?_
  cases left : (t.lobby.room r).roomUsers.erase u with
  | nil =>
    rw [removeRoomUserLast left]
    exact ((Steady.refl t).takeOut r u).removeRoom r
  | cons first rest =>
    have seen : Steady t (t.seeOff r u) :=
      (((Steady.refl t).takeOut r u).exec _).trans ((Mails.refl _).tellAll _ r _).toKeeps.steady
    rw [removeRoomUserOthers left]
    split
    · exact seen.trans ((Keeps.refl _).hostLeft r first).steady
    · exact seen

theorem Steady.dropUser (steady : Steady s t) (u : UserRef) : Steady s (t.dropUser u) := by
  have counted (t : State) : Steady t t.updateChannelNumPlayers := by
    rcases t.updateChannelNumPlayersCases with ⟨-,quiet⟩ | ⟨-,faulted⟩
    · exact quiet.toKeeps.steady
    · rw [faulted]
      exact ⟨rfl,fun _ => id,rfl,id⟩
  exact (((steady.exec _).erasing _).setLobby _).trans (counted _)

theorem Steady.removeUser (steady : Steady s t) (u : UserRef) : Steady s (t.removeUser u) := by
  have left := steady.trans ((Mails.refl t).farewell u).toKeeps.steady
  rw [removeUserEq]
  cases found : t.lobby.getRoomByRoomID (t.lobby.user u).currentRoomID with
  | none =>
    rw [leaveLobbyOutside found]
    exact left.dropUser u
  | some r =>
    rw [leaveLobbyInside found]
    exact (left.removeRoomUser r u).dropUser u

theorem Steady.openRoom (steady : Steady s t) (u : UserRef) (userCharacter : UserCharacter) (settings : RoomSettings)
    (fastStart : Bool) : Steady s (t.openRoom u userCharacter settings fastStart) := by
  have added := (steady.trans ((Keeps.refl t).approachRoom u).steady).exec
    (addRoom ((t.approachRoom u).roomRow (t.opened u settings)))
  rw [openRoomEq]
  dsimp only
  split
  · exact added.trans ((Keeps.refl _).roomRefused u).steady
  · exact added.trans ((Keeps.refl _).roomAdded u _ _ _).steady

theorem Steady.enterRoom (steady : Steady s t) (u : UserRef) (r : RoomRef) (userCharacter : UserCharacter) :
    Steady s (t.enterRoom u r userCharacter) := by
  refine ((steady.setLobby (t.lobby.joinRoom u r)).updateRoom r).trans (Keeps.steady (Mails.toKeeps ?_))
  exact ((((Mails.refl _).sendRemoveUserPacketToAll u).sendUpdateRoomPacketToAll r _).introduce r _ _).tell u r _
    |>.tell u r _

theorem Steady.recoverRoom (steady : Steady s t) (r : RoomRef) : Steady s (t.recoverRoom r) := by
  have added := steady.exec (addRoom (t.roomRow (t.lobby.room r)))
  dsimp only [State.recoverRoom]
  split
  · exact added.removeRoom r
  · exact added

theorem Steady.removeAllRooms (steady : Steady s t) : Steady s t.removeAllRooms := by
  refine Steady.fold (steady.setLobby _) (fun t r => ?_) _
  exact ((Mails.refl t).sendAll _ _).toKeeps.steady.trans ((Keeps.refl _).destroyRoom _).steady

theorem effectSteady {may : Lobby → Lobby.Op → Prop} (effect : Effect may s t) :
    (∃ ipAddress, t = s.connect ipAddress) ∨ Steady s t := by
  cases effect with
  | quiet quiet => exact .inr quiet.toKeeps.steady
  | fault => exact .inr ⟨rfl,fun _ => id,rfl,id⟩
  | connect ipAddress => exact .inl ⟨ipAddress,rfl⟩
  | showServers c => exact .inr ((Mails.refl s).send c _).toKeeps.steady
  | addUser known op => exact .inr ((Steady.refl s).setLobby _)
  | removeUser op => exact .inr ((Steady.refl s).removeUser _)
  | setUserNetwork op => exact .inr ((Steady.refl s).setLobby _)
  | showServerList op new => exact .inr ((Steady.refl s).setLobby _)
  | leaveLobby op present =>
    exact .inr (((Steady.refl s).setLobby _).trans ((Mails.refl _).sendRemoveUserPacketToAll _).toKeeps.steady)
  | enterLobby op => exact .inr ((Keeps.refl s).enterLobby _).steady
  | openRoom op => exact .inr ((Steady.refl s).openRoom _ _ _ _)
  | enterRoom op => exact .inr ((Steady.refl s).enterRoom _ _ _)
  | leaveRoom op =>
    exact .inr (((Steady.refl s).removeRoomUser _ _).trans ((Mails.refl _).showLobby _).toKeeps.steady)
  | changeRoomSettings op =>
    rename_i u r settings
    have changed := ((Steady.refl s).setLobby (s.lobby.setRoom r ((s.lobby.room r).updateRoomSettings settings))).updateRoom r
    refine .inr (changed.trans (Keeps.steady (Mails.toKeeps ?_)))
    exact ((Mails.refl _).sendUpdateRoomPacketToAll _ _).tellAll _ _ _
  | returnUser op => exact .inr ((Keeps.refl s).returnUser _ _ _).steady
  | startMatch op => exact .inr ((Keeps.refl s).startMatch _).steady
  | saveData op => exact .inr ((Steady.refl s).setLobby _)
  | sendUserStatus op => exact .inr ((Steady.refl s).setLobby _)
  | endGame op => exact .inr ((Keeps.refl s).endGame _ _).steady
  | selectTeam op => exact .inr ((Steady.refl s).setLobby _)
  | recoverRooms op =>
    exact .inr (Steady.fold ((Steady.refl s).exec _) (fun t r => (Steady.refl t).recoverRoom r) s.lobby.rooms)
  | removeAllRooms op => exact .inr ((Steady.refl s).removeAllRooms.exec _)

end Steady

-- Who is known has an address and a connection given out before.
def Dated (s : State) : Prop := ∀ u, s.lobby.Known u → u < s.lobby.fresh ∧ (s.lobby.user u).connection < s.accepted

section Dated
open Runs
variable {s t : State}

theorem applyDated {l : Lobby} {op : Lobby.Op} {accepted : Nat} (admitted : l.Admitted op)
    (dated : ∀ u, l.Known u → u < l.fresh ∧ (l.user u).connection < accepted)
    (connected : ∀ c userID userName, op = .addUser c userID userName → c < accepted) {u : UserRef}
    (known : (l.apply op).Known u) : u < (l.apply op).fresh ∧ ((l.apply op).user u).connection < accepted := by
  have more := (l.applyUsers op).1
  rcases Lobby.applyKnown admitted known with before | ⟨rfl,c,userID,userName,rfl⟩
  · obtain ⟨old,low⟩ := dated u before
    refine ⟨Nat.lt_of_lt_of_le old more,?_⟩
    by_cases login : ∃ c userID userName, op = .addUser c userID userName
    · obtain ⟨c,userID,userName,rfl⟩ := login
      simpa [Lobby.apply,Lobby.addUser,Nat.ne_of_lt old] using low
    · rwa [(l.applySameUsers (fun c userID userName same => login ⟨c,userID,userName,same⟩) u).1]
  · refine ⟨Nat.lt_succ_self _,?_⟩
    simpa [Lobby.apply,Lobby.addUser,User.new] using connected c userID userName rfl

theorem effectDated {may : Lobby → Lobby.Op → Prop} (admitted : ∀ l op, may l op → l.Admitted op)
    (sound : s.lobby.Sound) (dated : s.Dated) (effect : Effect may s t) : t.Dated := by
  let Kept (l : Lobby) : Prop := l.Sound ∧ ∀ u, l.Known u → u < l.fresh ∧ (l.user u).connection < s.accepted
  have kept : Kept t.lobby := by
    have keeps (l : Lobby) (op : Lobby.Op) (before : Kept l)
        (meets : l.Admitted op ∧ ∀ c userID userName, op = .addUser c userID userName → c < s.accepted) :
        Kept (l.apply op) :=
      ⟨Lobby.applySound before.1 meets.1,fun u known => applyDated meets.1 before.2 meets.2 known⟩
    exact Reaches.invariant keeps
      (effectReaches (effect.mono fun l op connected performed => ⟨admitted l op performed,connected⟩)) ⟨sound,dated⟩
  intro u known
  obtain ⟨old,low⟩ := kept.2 u known
  refine ⟨old,?_⟩
  rcases effectSteady effect with ⟨ipAddress,rfl⟩ | steady
  · exact Nat.lt_succ_of_lt low
  · rwa [steady.accepted]

end Dated

section Unheard
variable {inLobby inRoom : Message → Prop} {s t m : State}

theorem Unheard.refl (s : State) : Unheard inLobby inRoom s s := ⟨.refl s,rfl,⟨[],by simp⟩,⟨[],by simp⟩⟩

theorem Unheard.trans (left : Unheard inLobby inRoom s m) (right : Unheard inLobby inRoom m t) :
    Unheard inLobby inRoom s t where
  toSteady := left.toSteady.trans right.toSteady
  lobby := right.lobby.trans left.lobby
  sent := by
    obtain ⟨first,whole,ignored⟩ := left.sent
    obtain ⟨second,also,too⟩ := right.sent
    refine ⟨first ++ second,by rw [also,whole,List.append_assoc],fun entry mem => ?_⟩
    exact (List.mem_append.mp mem).elim (ignored entry) (too entry)
  told := by
    obtain ⟨first,whole,ignored⟩ := left.told
    obtain ⟨second,also,too⟩ := right.told
    refine ⟨first ++ second,by rw [also,whole,List.append_assoc],fun entry mem => ?_⟩
    exact (List.mem_append.mp mem).elim (ignored entry) (too entry)

theorem Unheard.silent (unheard : Unheard inLobby inRoom s m) (steady : Steady m t) (lobby : t.lobby = m.lobby)
    (sent : t.sent = m.sent) (told : t.told = m.told) : Unheard inLobby inRoom s t :=
  unheard.trans ⟨steady,lobby,⟨[],by simp [sent]⟩,⟨[],by simp [told]⟩⟩

theorem Unheard.quiet (unheard : Unheard inLobby inRoom s m) (plain : ∀ message : Message, message.listed = false → inLobby message)
    (quiet : Quiet m t) : Unheard inLobby inRoom s t := by
  obtain ⟨more,sent,unlisted⟩ := quiet.sent
  exact unheard.trans ⟨quiet.toKeeps.steady,quiet.lobby,
    ⟨more,sent,fun entry mem => plain _ (Message.routineUnlisted (unlisted entry mem))⟩,⟨[],by simp [quiet.told]⟩⟩

theorem Unheard.send (unheard : Unheard inLobby inRoom s t) {message : Message} (ignored : inLobby message)
    (c : ConnectionRef) : Unheard inLobby inRoom s (t.send c message) := by
  have mails := (Mails.refl t).send c message
  refine unheard.trans ⟨mails.toKeeps.steady,mails.lobby,?_,?_⟩
  · unfold State.send
    split
    · exact ⟨[(c,message)],rfl,by simpa using ignored⟩
    · exact ⟨[],by simp⟩
  · unfold State.send
    split <;> exact ⟨[],by simp⟩

theorem Unheard.sendTo (unheard : Unheard inLobby inRoom s t) {message : Message} (ignored : inLobby message)
    (u : UserRef) : Unheard inLobby inRoom s (t.sendTo u message) :=
  unheard.send ignored _

theorem Unheard.tell (unheard : Unheard inLobby inRoom s t) {message : Message} (ignored : inLobby message)
    (also : inRoom message) (u : UserRef) (r : RoomRef) : Unheard inLobby inRoom s (t.tell u r message) := by
  have mails := (Mails.refl t).tell u r message
  refine unheard.trans ⟨mails.toKeeps.steady,mails.lobby,?_,?_⟩
  · unfold State.tell
    split
    · exact ⟨[((t.lobby.user u).connection,message)],rfl,by simpa using ignored⟩
    · exact ⟨[],by simp⟩
  · unfold State.tell
    split
    · exact ⟨[((u,r),message)],rfl,by simpa using also⟩
    · exact ⟨[],by simp⟩

-- Folds of what is not heard are not heard.
theorem Unheard.fold {α : Type} {f : State → α → State} (unheard : Unheard inLobby inRoom s t)
    (each : ∀ s a, Unheard inLobby inRoom s (f s a)) (as : List α) : Unheard inLobby inRoom s (as.foldl f t) := by
  induction as generalizing t with
  | nil => exact unheard
  | cons a as ih => exact ih (unheard.trans (each t a))

theorem Unheard.sendAll (unheard : Unheard inLobby inRoom s t) {message : Message} (ignored : inLobby message)
    (us : List UserRef) : Unheard inLobby inRoom s (t.sendAll us message) :=
  unheard.fold (fun s u => (Unheard.refl s).sendTo ignored u) us

theorem Unheard.tellAll (unheard : Unheard inLobby inRoom s t) {message : Message} (ignored : inLobby message)
    (also : inRoom message) (us : List UserRef) (r : RoomRef) : Unheard inLobby inRoom s (t.tellAll us r message) :=
  unheard.fold (fun s u => (Unheard.refl s).tell ignored also u r) us

theorem Unheard.exec {α : Type} (unheard : Unheard inLobby inRoom s t) (q : Sql α) : Unheard inLobby inRoom s (t.exec q) :=
  unheard.silent ((Steady.refl t).exec q) rfl rfl rfl

theorem Unheard.erasing (unheard : Unheard inLobby inRoom s t) (found : Prop) [Decidable found] :
    Unheard inLobby inRoom s (t.erasing found) :=
  unheard.silent ((Steady.refl t).erasing found) rfl rfl rfl

theorem Unheard.getUserCharacter (unheard : Unheard inLobby inRoom s t) (u : UserRef) (flag : UInt16) :
    Unheard inLobby inRoom s (t.getUserCharacter u flag).2 :=
  unheard.silent ((Mails.refl t).getUserCharacter u flag).toKeeps.steady rfl rfl rfl

theorem Unheard.gameUsers (unheard : Unheard inLobby inRoom s t) (us : List UserRef) :
    Unheard inLobby inRoom s (t.gameUsers us).2 := by
  induction us generalizing t with
  | nil => exact unheard
  | cons u us ih => exact ih (unheard.getUserCharacter u _)

theorem Unheard.sendHostRestart (unheard : Unheard inLobby inRoom s t) (plain : ∀ message : Message, message.listed = false → inLobby message)
    (m : GameMatch) (newRoomHostUser : UserRef) : Unheard inLobby inRoom s (t.sendHostRestart m newRoomHostUser) := by
  dsimp only [State.sendHostRestart]
  refine Unheard.fold (unheard.sendTo (plain _ rfl) newRoomHostUser) (fun s v => ?_) _
  exact ((Unheard.refl s).sendTo (plain _ rfl) v).sendTo (plain _ rfl) v

theorem Unheard.sendFullUserListPacket (unheard : Unheard inLobby inRoom s t)
    (ignored : ∀ gameUsers, inLobby (.fullUserList gameUsers)) (c : ConnectionRef) :
    Unheard inLobby inRoom s (t.sendFullUserListPacket c) :=
  (unheard.gameUsers _).send (ignored _) c

theorem Unheard.sendAddUserPacketToAll (unheard : Unheard inLobby inRoom s t)
    (ignored : ∀ gameUser, inLobby (.addUser gameUser)) (u : UserRef) :
    Unheard inLobby inRoom s (t.sendAddUserPacketToAll u) := by
  have asked := unheard.getUserCharacter u USERCHARACTER_FLAG_ALL
  dsimp only [State.sendAddUserPacketToAll]
  split
  · exact asked
  · exact asked.sendAll (ignored _) _

theorem Unheard.announceRoomState (unheard : Unheard inLobby inRoom s t) {roomState : RoomState}
    (settings : inLobby (.replyUpdateRoomSettings (.ofRoomState roomState)) ∧
      inRoom (.replyUpdateRoomSettings (.ofRoomState roomState)))
    (updates : ∀ room, inLobby (.updateRoom room ROOMLIST_FLAG_ROOMSTATE) ∧ inRoom (.updateRoom room ROOMLIST_FLAG_ROOMSTATE))
    (r : RoomRef) : Unheard inLobby inRoom s (t.announceRoomState r roomState) := by
  refine Unheard.fold (unheard.sendAll (updates _).1 _) (fun s v => ?_) _
  exact ((Unheard.refl s).tell settings.1 settings.2 v r).tell (updates _).1 (updates _).2 v r

theorem Unheard.introduce (unheard : Unheard inLobby inRoom s t) {newcomer : GameUser}
    (joins : inLobby (.userJoin newcomer) ∧ inRoom (.userJoin newcomer))
    (ready : inLobby (.userReady newcomer.userID 0) ∧ inRoom (.userReady newcomer.userID 0)) (r : RoomRef)
    (us : List UserRef) : Unheard inLobby inRoom s (t.introduce r newcomer us).2 := by
  induction us generalizing t with
  | nil => exact unheard
  | cons v us ih => exact ih (((unheard.getUserCharacter v _).tell joins.1 joins.2 v r).tell ready.1 ready.2 v r)

end Unheard

-- A user that is shown the lobby, on a connection that is open.
structure Listens (s : State) (v : UserRef) : Prop where
  present : v ∈ s.lobby.users
  status : (s.lobby.user v).userStatus = .InLobby
  isOpen : (s.connection (s.lobby.user v).connection).isOpen = true

-- All listeners but those of `but` hold a copy that meets `P`.
def Informed {ν : Type} (R : Replica Message ν) (P : Option ν → Prop) (but : UserRef → Prop) (s : State) : Prop :=
  ∀ v, s.Listens v → ¬ but v → P (R.copy s.sent (s.lobby.user v).connection)

section Informed
variable {ν : Type} {R : Replica Message ν} {P Q : Option ν → Prop} {but other : UserRef → Prop} {s t : State}

theorem Informed.mono (informed : Informed R P but s) (gives : ∀ held, P held → Q held) (more : ∀ v, but v → other v) :
    Informed R Q other s :=
  fun v listens present => gives _ (informed v listens fun out => present (more v out))

theorem Informed.unheard (informed : Informed R P but s) (unheard : Unheard (R.Respects P) (fun _ => True) s t) :
    Informed R P but t := by
  intro v listens present
  obtain ⟨more,sent,respected⟩ := unheard.sent
  obtain ⟨mem,status,isOpen⟩ := listens
  rw [unheard.lobby] at mem status isOpen ⊢
  rw [sent]
  exact Replica.copyRespected (fun entry mem _ => respected entry mem) (informed v ⟨mem,status,unheard.closed _ isOpen⟩ present)

-- Nobody has come to listen that was not informed before.
theorem Informed.setLobby (informed : Informed R P but s) {l : Lobby}
    (before : ∀ v ∈ l.users, (l.user v).userStatus = .InLobby → ¬ other v →
      (v ∈ s.lobby.users ∧ (s.lobby.user v).userStatus = .InLobby) ∧
        (s.lobby.user v).connection = (l.user v).connection ∧ ¬ but v) : Informed R P other (s.setLobby l) := by
  intro v listens present
  obtain ⟨mem,status,isOpen⟩ := listens
  obtain ⟨⟨known,inLobby⟩,same,informs⟩ := before v mem status present
  have copied := informed v ⟨known,inLobby,by rw [same]; exact isOpen⟩ informs
  rw [same] at copied
  exact copied

theorem Informed.setRoom (informed : Informed R P but s) (r : RoomRef) (room : Room) :
    Informed R P but (s.setLobby (s.lobby.setRoom r room)) :=
  informed.setLobby fun _ mem status stays => ⟨⟨mem,status⟩,rfl,stays⟩

-- One user has come, gone or changed; it may not be informed.
theorem Informed.changeUser {u : UserRef} (informed : Informed R P but s) {l : Lobby}
    (users : ∀ v ∈ l.users, v ≠ u → v ∈ s.lobby.users) (others : ∀ v, v ≠ u → l.user v = s.lobby.user v) :
    Informed R P (fun v => but v ∨ v = u) (s.setLobby l) := by
  refine informed.setLobby fun v mem status stays => ?_
  have other : v ≠ u := fun same => stays (.inr same)
  rw [others v other] at status ⊢
  exact ⟨⟨users v mem other,status⟩,rfl,fun out => stays (.inl out)⟩

theorem Informed.setUser (informed : Informed R P but s) (u : UserRef) (user : User) :
    Informed R P (fun v => but v ∨ v = u) (s.setLobby (s.lobby.setUser u user)) :=
  informed.changeUser (fun _ mem _ => mem) fun v other => by simp [Lobby.setUser,other]

-- A user that is not in the lobby is not a listener.
theorem Informed.settle {u : UserRef} (informed : Informed R P (fun v => but v ∨ v = u) s)
    (away : (s.lobby.user u).userStatus ≠ .InLobby) : Informed R P but s := by
  intro v listens stays
  refine informed v listens fun out => ?_
  rcases out with out | rfl
  · exact stays out
  · exact away listens.status

theorem Informed.dropUser {u : UserRef} (informed : Informed R P (fun v => but v ∨ v = u) s) (nodup : s.lobby.users.Nodup)
    (plain : ∀ message : Message, message.listed = false → R.Respects P message) : Informed R P but (s.dropUser u) := by
  have dropped : Informed R P but (((s.exec (removeUserSession (s.lobby.user u).userID)).erasing
      (u ∈ s.lobby.users)).setLobby { s.lobby with users := s.lobby.users.erase u }) := by
    refine (informed.unheard (((Unheard.refl s).exec _).erasing _)).setLobby fun v mem status stays => ?_
    obtain ⟨other,known⟩ := nodup.mem_erase_iff.mp mem
    exact ⟨⟨known,status⟩,rfl,fun out => out.elim stays other⟩
  have counted (t : State) (informed : Informed R P but t) : Informed R P but t.updateChannelNumPlayers := by
    rcases t.updateChannelNumPlayersCases with ⟨-,quiet⟩ | ⟨-,faulted⟩
    · exact informed.unheard ((Unheard.refl t).quiet plain quiet)
    · rw [faulted]
      exact fun v listens => informed v ⟨listens.present,listens.status,listens.isOpen⟩
  exact counted _ dropped

theorem Informed.connect (informed : Informed R P but s) (dated : s.Dated) (ipAddress : UInt32) :
    Informed R P but (s.connect ipAddress) := by
  intro v listens stays
  have old : (s.lobby.user v).connection ≠ s.accepted := Nat.ne_of_lt (dated v (.inl listens.present)).2
  refine informed v ⟨listens.present,listens.status,?_⟩ stays
  simpa [State.connect,old] using listens.isOpen

-- A new user is in none of the places that are shown.
theorem Informed.addUser (informed : Informed R P but s) (c : ConnectionRef) (userID : UInt32)
    (userName : Bytes) : Informed R P but (s.setLobby (s.lobby.addUser (.new c userID userName))) := by
  have added : Informed R P (fun v => but v ∨ v = s.lobby.fresh) (s.setLobby (s.lobby.addUser (.new c userID userName))) := by
    refine informed.changeUser (fun v mem other => ?_) fun v other => by simp [Lobby.addUser,other]
    exact (List.mem_append.mp mem).resolve_right fun new => other (List.mem_singleton.mp new)
  exact added.settle (by simp [Lobby.addUser,User.new])

theorem Informed.sendAll {m : Message} {us : List UserRef} (informed : Informed R P but s) (settles : R.Settles m)
    (heard : ∀ v, s.Listens v → ¬ but v → v ∈ us) (changes : ∀ held, P held → Q (R.absorb held m)) :
    Informed R Q but (s.sendAll us m) := by
  have mails := (Mails.refl s).sendAll us m
  intro v listens present
  obtain ⟨mem,status,isOpen⟩ := listens
  rw [mails.lobby] at mem status isOpen ⊢
  have before : s.Listens v := ⟨mem,status,mails.closed _ isOpen⟩
  rw [copySendAll settles before.isOpen,if_pos ⟨v,heard v before present,rfl⟩]
  exact changes _ (informed v before present)

theorem Informed.tellAll {m : Message} {us : List UserRef} {r : RoomRef} (informed : Informed R P but s) (settles : R.Settles m)
    (heard : ∀ v, s.Listens v → ¬ but v → v ∈ us) (changes : ∀ held, P held → Q (R.absorb held m)) :
    Informed R Q but (s.tellAll us r m) := by
  have mails := (Mails.refl s).tellAll us r m
  intro v listens present
  obtain ⟨mem,status,isOpen⟩ := listens
  rw [mails.lobby] at mem status isOpen ⊢
  have before : s.Listens v := ⟨mem,status,mails.closed _ isOpen⟩
  rw [tellAllSent,copySendAll settles before.isOpen,if_pos ⟨v,heard v before present,rfl⟩]
  exact changes _ (informed v before present)

-- Whoever was not informed is sent its copy anew.
theorem Informed.send {m : Message} {c : ConnectionRef} {opened : ν} (informed : Informed R P but s)
    (opens : R.opens m = some opened) (right : P (some opened))
    (own : ∀ v, s.Listens v → but v → ¬ other v → (s.lobby.user v).connection = c) : Informed R P other (s.send c m) := by
  have mails := (Mails.refl s).send c m
  intro v listens present
  obtain ⟨mem,status,isOpen⟩ := listens
  rw [mails.lobby] at mem status isOpen ⊢
  have before : s.Listens v := ⟨mem,status,mails.closed _ isOpen⟩
  rw [copySend before.isOpen]
  split
  · rw [Replica.absorbOpening opens]
    exact right
  · rename_i foreign
    exact informed v before fun out => foreign (own v before out present).symm

end Informed

-- The listeners hold what the copy is one of, as it is now.
def Current {ν : Type} (R : Replica Message ν) (truth : Lobby → ν) (but : UserRef → Prop) (s : State) : Prop :=
  Informed R (· = some (truth s.lobby)) but s

-- Nobody is left out.
def nobody : UserRef → Prop := fun _ => False

section Current
variable {ν : Type} {R : Replica Message ν} {truth : Lobby → ν} {but other : UserRef → Prop} {s t : State} {u : UserRef}
  {r : RoomRef}

theorem Current.of (informed : Informed R (· = some (truth s.lobby)) but t) (same : truth t.lobby = truth s.lobby) :
    Current R truth but t := by
  unfold Current
  rw [same]
  exact informed

theorem Current.unheard (current : Current R truth but s)
    (unheard : Unheard (R.Respects (· = some (truth s.lobby))) (fun _ => True) s t) : Current R truth but t :=
  Current.of (Informed.unheard current unheard) (by rw [unheard.lobby])

theorem Current.mono (current : Current R truth but s) (more : ∀ v, but v → other v) : Current R truth other s :=
  Informed.mono current (fun _ => id) more

theorem Current.exec {α : Type} (current : Current R truth but s) (q : Sql α) : Current R truth but (s.exec q) :=
  current.unheard ((Unheard.refl s).exec q)

theorem Current.setRoom (current : Current R truth but s) {room : Room}
    (same : truth (s.lobby.setRoom r room) = truth s.lobby) : Current R truth but (s.setLobby (s.lobby.setRoom r room)) :=
  Current.of (Informed.setRoom current r room) same

theorem Current.setUser (current : Current R truth but s) {user : User}
    (same : truth (s.lobby.setUser u user) = truth s.lobby) :
    Current R truth (fun v => but v ∨ v = u) (s.setLobby (s.lobby.setUser u user)) :=
  Current.of (Informed.setUser current u user) same

theorem Current.setUserNetwork {userNetwork : UserNetwork} (current : Current R truth but s)
    (same : truth (s.setUserNetwork u userNetwork).lobby = truth s.lobby) :
    Current R truth but (s.setUserNetwork u userNetwork) := by
  refine Current.of (Informed.setLobby current fun v mem status stays => ⟨⟨mem,?_⟩,?_,stays⟩) same
  · by_cases own : v = u
    · simpa [Lobby.setUser,own] using status
    · simpa [Lobby.setUser,own] using status
  · by_cases own : v = u <;> simp [Lobby.setUser,own]

theorem Current.settle (current : Current R truth (fun v => but v ∨ v = u) s)
    (away : (s.lobby.user u).userStatus ≠ .InLobby) : Current R truth but s :=
  Informed.settle current away

theorem listensIn (listens : s.Listens u) : u ∈ s.usersInLobby :=
  List.mem_filter.mpr ⟨listens.present,by simpa using listens.status⟩

end Current
end CsoMaster.State
