import CsoMaster.UserSessions
import Mathlib.Data.Fintype.Defs

/-! Any number of channel servers on one `user_sessions` table. A server's logins and its
clock-jump recovery are tasks that run one SQL statement at a time, in any order; a removal
has one statement. What a server thinks of the others may change at any moment. -/
namespace CsoMaster.SessionCluster
open Runs UserSessions

-- `AddUser` of one account, or the loop of the recovery over the users it copied: at
-- `IsUserSessionAdded` of the first one, or in its `AddUserSession`.
inductive Task where
  | login (userID : UInt32) (call : AddUserSession)
  | recovery (users : List UInt32) (call : Option AddUserSession)
  deriving DecidableEq, Repr

structure ChannelServer where
  serverList : List Server
  users : List UInt32
  tasks : List Task
  deriving DecidableEq, Repr

structure Cluster (ι : Type) where
  sessions : Sessions
  server : ι → ChannelServer

variable {ι : Type} [DecidableEq ι]

inductive Action (ι : Type) where
  | heard (i : ι) (serverList : List Server)
  | addUser (i : ι) (userID : UInt32)
  | recover (i : ι)
  | runTask (i : ι) (task : Nat) (ok : Bool)
  | removeUser (i : ι) (userID : UInt32) (ok : Bool)

def isUserSessionAdded (serverConfig : ServerConfig) : Option Place → Int
  | none => 0
  | some row =>
    match serverConfig.channel row with
    | none => 2
    | some _ => if row ≠ serverConfig.place then 2 else 1

-- The clock jump: every channel but the own one goes offline, every other server NotReady.
def forgetOthers (place : Place) (serverList : List Server) : List Server :=
  serverList.map fun server =>
    { server with
      status := if server.id ≠ place.serverID then .NotReady else server.status
      channels := server.channels.map fun channel =>
        if server.id = place.serverID ∧ channel.id = place.channelID then channel
        else { channel with isOnline := false, lastHeartbeat := 0, numPlayers := 0 } }

section Step
variable (serverConfig : ι → ServerConfig)

def config (s : Cluster ι) (i : ι) : ServerConfig :=
  { serverConfig i with serverList := (s.server i).serverList }

def setServer (s : Cluster ι) (i : ι) (server : ChannelServer) : Cluster ι :=
  { s with server := Function.update s.server i server }

-- One statement of a task: the table, the accounts it adds to `_users`, and what is left.
def taskStep (c : ServerConfig) (ok : Bool) (sessions : Sessions) : Task → Sessions × List UInt32 × Option Task
  | .login userID call =>
    let next := statement c userID ok sessions call
    match next.2 with
    | .done result => (next.1,if result > 0 then [userID] else [],none)
    | more => (next.1,[],some (.login userID more))
  | .recovery [] _ => (sessions,[],none)
  | .recovery (userID :: rest) none =>
    let result := if ok then isUserSessionAdded c (sessions.lookup userID) else -1
    if result = 0 then (sessions,[],some (.recovery (userID :: rest) (some .select)))
    else (sessions,[],some (.recovery rest none))
  | .recovery (userID :: rest) (some call) =>
    let next := statement c userID ok sessions call
    match next.2 with
    | .done _ => (next.1,[],some (.recovery rest none))
    | more => (next.1,[],some (.recovery (userID :: rest) (some more)))

def step (s : Cluster ι) : Action ι → Cluster ι
  | .heard i serverList => setServer s i { s.server i with serverList := serverList }
  | .addUser i userID =>
    if (s.server i).users.length ≥ (serverConfig i).maxPlayers then s
    else setServer s i { s.server i with tasks := (s.server i).tasks ++ [.login userID .select] }
  | .recover i =>
    setServer s i { s.server i with
      serverList := forgetOthers (serverConfig i).place (s.server i).serverList
      tasks := (s.server i).tasks ++ [.recovery (s.server i).users none] }
  | .runTask i task ok =>
    match (s.server i).tasks[task]? with
    | none => s
    | some current =>
      let next := taskStep (config serverConfig s i) ok s.sessions current
      setServer { s with sessions := next.1 } i { s.server i with
        users := (s.server i).users ++ next.2.1
        tasks := (s.server i).tasks.eraseIdx task ++ next.2.2.toList }
  | .removeUser i userID ok =>
    if userID ∈ (s.server i).users then
      setServer { s with sessions := if ok then s.sessions.erase userID else s.sessions } i
        { s.server i with users := (s.server i).users.erase userID }
    else s

def start (sessions : Sessions) (serverList : ι → List Server) : Cluster ι :=
  ⟨sessions,fun i => ⟨serverList i,[],[]⟩⟩

-- The account a task's next statement is a DELETE for, the one of the stale branch.
def deletes : Task → Option UInt32
  | .login userID .delete => some userID
  | .recovery (userID :: _) (some .delete) => some userID
  | _ => none

-- No DELETE of the stale branch takes the row of a server that still has the user.
def Permitted (s : Cluster ι) : Action ι → Prop
  | .runTask i task true =>
    ∀ current ∈ (s.server i).tasks[task]?, ∀ userID ∈ deletes current, ∀ j,
      s.sessions.lookup userID = some (serverConfig j).place → userID ∉ (s.server j).users
  | _ => True

instance [Fintype ι] (s : Cluster ι) : (a : Action ι) → Decidable (Permitted serverConfig s a)
  | .runTask i task true =>
    have (userID : UInt32) : Decidable (∀ j,
        s.sessions.lookup userID = some (serverConfig j).place → userID ∉ (s.server j).users) := inferInstance
    @Option.decidableForallMem _ _ (fun current => Option.decidableForallMem (deletes current))
      (s.server i).tasks[task]?
  | .runTask _ _ false => .isTrue trivial
  | .heard _ _ => .isTrue trivial
  | .addUser _ _ => .isTrue trivial
  | .recover _ => .isTrue trivial
  | .removeUser _ _ _ => .isTrue trivial

-- The rows of every other channel are the same in both tables.
def ForeignKept (place : Place) (before after : Sessions) : Prop :=
  ∀ userID row, row ≠ place → (after.lookup userID = some row ↔ before.lookup userID = some row)

def running : Task → Bool
  | .login _ (.done _) => false
  | .recovery _ (some (.done _)) => false
  | _ => true

structure Held (s : Cluster ι) : Prop where
  owned : ∀ i userID, userID ∈ (s.server i).users → s.sessions.lookup userID = some (serverConfig i).place
  nodup : ∀ i, (s.server i).users.Nodup
  live : ∀ i, ∀ task ∈ (s.server i).tasks, running task = true

end Step

def Refused (next : AddUserSession) : Prop := ∀ result, next = .done result → ¬ result > 0

-- What one statement of AddUserSession can do to the table.
theorem statementCases (c : ServerConfig) (userID : UInt32) (ok : Bool) (sessions : Sessions)
    {call : AddUserSession} (undone : ∀ result, call ≠ .done result) :
    (∃ next, statement c userID ok sessions call = (sessions,next) ∧ Refused next) ∨
      (call = .delete ∧ ok = true ∧ statement c userID ok sessions call = (sessions.erase userID,.insertAgain)) ∨
      (sessions.lookup userID = none ∧
        statement c userID ok sessions call = (sessions.insert userID c.place,.done 1)) := by
  have zero : Refused (.done 0) := fun result same => by cases same; decide
  have insertCases : (∃ next, insertRow c userID sessions = (sessions,next) ∧ Refused next) ∨
      (sessions.lookup userID = none ∧ insertRow c userID sessions = (sessions.insert userID c.place,.done 1)) := by
    cases here : sessions.lookup userID with
    | none => exact .inr ⟨rfl,insertFree here c⟩
    | some row => exact .inl ⟨_,insertTaken here c,zero⟩
  cases ok with
  | false =>
    have failed : Refused (.done (-1)) := fun result same => by cases same; decide
    cases call with
    | done result => exact absurd rfl (undone result)
    | _ => exact .inl ⟨_,rfl,failed⟩
  | true =>
    cases call with
    | done result => exact absurd rfl (undone result)
    | select =>
      refine .inl ⟨_,rfl,?_⟩
      cases sessions.lookup userID with
      | none => exact fun result same => by cases same
      | some row =>
        rw [afterSelectRow]
        split
        · exact fun result same => by cases same
        · exact zero
    | delete => exact .inr (.inl ⟨rfl,rfl,rfl⟩)
    | insert =>
      rcases insertCases with kept | wrote
      · exact .inl kept
      · exact .inr (.inr wrote)
    | insertAgain =>
      rcases insertCases with kept | wrote
      · exact .inl kept
      · exact .inr (.inr wrote)

-- The same for a task: the table, who joins `_users`, and a rest that has not finished.
inductive TaskEffect (c : ServerConfig) (ok : Bool) (sessions : Sessions) (task : Task) :
    Sessions × List UInt32 × Option Task → Prop where
  | nothing {rest} (live : ∀ more ∈ rest, running more = true) : TaskEffect c ok sessions task (sessions,[],rest)
  | deleted {userID rest} (live : ∀ more ∈ rest, running more = true) (ran : ok = true)
      (stale : deletes task = some userID) : TaskEffect c ok sessions task (sessions.erase userID,[],rest)
  | inserted {userID rest} (live : ∀ more ∈ rest, running more = true) (free : sessions.lookup userID = none) :
      TaskEffect c ok sessions task (sessions.insert userID c.place,[],rest)
  | admitted {userID rest} (live : ∀ more ∈ rest, running more = true) (free : sessions.lookup userID = none) :
      TaskEffect c ok sessions task (sessions.insert userID c.place,[userID],rest)

theorem loginEffect (c : ServerConfig) (ok : Bool) (sessions : Sessions) (userID : UInt32)
    {call : AddUserSession} (undone : ∀ result, call ≠ .done result) :
    TaskEffect c ok sessions (.login userID call) (taskStep c ok sessions (.login userID call)) := by
  rcases statementCases c userID ok sessions undone with ⟨next,read,refused⟩ | ⟨rfl,ran,read⟩ | ⟨free,read⟩
  · cases next with
    | done result =>
      simp only [taskStep,read,if_neg (refused result rfl)]
      exact .nothing (by simp)
    | _ => simp only [taskStep,read]; exact .nothing (by simp [running])
  · simp only [taskStep,read]
    exact .deleted (by simp [running]) ran rfl
  · simp only [taskStep,read]
    exact .admitted (by simp) free

theorem recoveryEffect (c : ServerConfig) (ok : Bool) (sessions : Sessions) (users : List UInt32)
    {call : Option AddUserSession} (undone : ∀ result, call ≠ some (.done result)) :
    TaskEffect c ok sessions (.recovery users call) (taskStep c ok sessions (.recovery users call)) := by
  cases users with
  | nil => exact .nothing (by simp)
  | cons userID rest =>
    cases call with
    | none =>
      simp only [taskStep]
      split_ifs <;> exact .nothing (by simp [running])
    | some call =>
      have going : ∀ result, call ≠ .done result := fun result same => undone result (by rw [same])
      rcases statementCases c userID ok sessions going with ⟨next,read,-⟩ | ⟨rfl,ran,read⟩ | ⟨free,read⟩
      · cases next <;> simp only [taskStep,read] <;> exact .nothing (by simp [running])
      · simp only [taskStep,read]
        exact .deleted (by simp [running]) ran rfl
      · simp only [taskStep,read]
        exact .inserted (by simp [running]) free

theorem taskEffect (c : ServerConfig) (ok : Bool) (sessions : Sessions) {task : Task}
    (live : running task = true) : TaskEffect c ok sessions task (taskStep c ok sessions task) := by
  cases task with
  | login userID call =>
    refine loginEffect c ok sessions userID ?_
    rintro result rfl
    cases live
  | recovery users call =>
    refine recoveryEffect c ok sessions users ?_
    rintro result rfl
    cases live

/-! Users of a server own their row, as long as no held row is deleted for stale. -/

section Proof
variable {serverConfig : ι → ServerConfig}

theorem serverSelf (s : Cluster ι) (i : ι) (server : ChannelServer) : (setServer s i server).server i = server := by
  simp [setServer]

theorem serverOther (s : Cluster ι) {i j : ι} (server : ChannelServer) (differs : j ≠ i) :
    (setServer s i server).server j = s.server j := by
  simp [setServer,differs]

theorem heldUpdate {s : Cluster ι} (held : Held serverConfig s) (i : ι) {sessions : Sessions}
    {server : ChannelServer}
    (own : ∀ userID ∈ server.users, sessions.lookup userID = some (serverConfig i).place)
    (others : ∀ j, j ≠ i → ∀ userID ∈ (s.server j).users, sessions.lookup userID = some (serverConfig j).place)
    (nodup : server.users.Nodup) (live : ∀ task ∈ server.tasks, running task = true) :
    Held serverConfig (setServer { s with sessions := sessions } i server) := by
  refine ⟨fun j => ?_,fun j => ?_,fun j => ?_⟩ <;> by_cases self : j = i
  · rw [self,serverSelf]; exact own
  · rw [serverOther _ server self]; exact others j self
  · rw [self,serverSelf]; exact nodup
  · rw [serverOther _ server self]; exact held.nodup j
  · rw [self,serverSelf]; exact live
  · rw [serverOther _ server self]; exact held.live j

omit [DecidableEq ι] in
theorem insertKeeps {s : Cluster ι} (held : Held serverConfig s) {userID : UInt32} (place : Place)
    (free : s.sessions.lookup userID = none) (j : ι) :
    ∀ other ∈ (s.server j).users, (s.sessions.insert userID place).lookup other = some (serverConfig j).place := by
  intro other member
  have row := held.owned j other member
  have differs : other ≠ userID := by
    rintro rfl
    rw [free] at row
    cases row
  rw [AList.lookup_insert_ne differs,row]

-- A step that leaves the table and the users alone.
theorem quietKeeps {s : Cluster ι} (held : Held serverConfig s) (i : ι) {server : ChannelServer}
    (users : server.users = (s.server i).users) (live : ∀ task ∈ server.tasks, running task = true) :
    Held serverConfig (setServer s i server) := by
  have own : ∀ userID ∈ server.users, s.sessions.lookup userID = some (serverConfig i).place := by
    rw [users]; exact held.owned i
  exact heldUpdate held i own (fun j _ => held.owned j) (by rw [users]; exact held.nodup i) live

theorem taskKeeps {s : Cluster ι} (held : Held serverConfig s) {i : ι} {task : Nat} {ok : Bool}
    (permitted : Permitted serverConfig s (.runTask i task ok)) {current : Task}
    (here : (s.server i).tasks[task]? = some current) :
    Held serverConfig (step serverConfig s (.runTask i task ok)) := by
  have live := held.live i current (List.mem_of_getElem? here)
  have left (rest : Option Task) (more : ∀ task ∈ rest, running task = true) :
      ∀ other ∈ (s.server i).tasks.eraseIdx task ++ rest.toList, running other = true := by
    intro other member
    rcases List.mem_append.mp member with old | new
    · exact held.live i other (List.mem_of_mem_eraseIdx old)
    · exact more other (by simpa using new)
  have effect := taskEffect (config serverConfig s i) ok s.sessions live
  simp only [step,here]
  generalize taskStep (config serverConfig s i) ok s.sessions current = next at effect ⊢
  cases effect with
  | nothing more =>
    exact heldUpdate held i (by simpa using held.owned i) (fun j _ => held.owned j)
      (by simpa using held.nodup i) (left _ more)
  | @deleted userID rest more ran stale =>
    have kept : ∀ j, ∀ other ∈ (s.server j).users,
        (s.sessions.erase userID).lookup other = some (serverConfig j).place := by
      intro j other member
      have row := held.owned j other member
      have differs : other ≠ userID := by
        rintro rfl
        subst ran
        exact permitted current here other stale j row member
      rw [AList.lookup_erase_ne differs,row]
    exact heldUpdate held i (by simpa using kept i) (fun j _ => kept j) (by simpa using held.nodup i) (left _ more)
  | @inserted userID rest more free =>
    have kept := insertKeeps held (serverConfig i).place free
    exact heldUpdate held i (by simpa [config] using kept i) (fun j _ => kept j) (by simpa using held.nodup i)
      (left _ more)
  | @admitted userID rest more free =>
    have kept := insertKeeps held (serverConfig i).place free
    have fresh : userID ∉ (s.server i).users := by
      intro member
      rw [held.owned i userID member] at free
      cases free
    refine heldUpdate held i ?_ (fun j _ => kept j) ?_ (left _ more)
    · intro other member
      rcases List.mem_append.mp member with old | new
      · exact kept i other old
      · rw [List.mem_singleton.mp new]
        exact AList.lookup_insert _
    · refine List.nodup_append.mpr ⟨held.nodup i,List.nodup_singleton _,fun x old y new same => ?_⟩
      rw [List.mem_singleton.mp new] at same
      exact fresh (same ▸ old)

-- The removal: its own user's row is its own.
theorem removeUserSessions {s : Cluster ι} {i : ι} {userID : UInt32} (ok : Bool)
    (member : userID ∈ (s.server i).users) :
    (step serverConfig s (.removeUser i userID ok)).sessions =
      if ok then s.sessions.erase userID else s.sessions := by
  simp only [step,if_pos member,setServer]

theorem removeKeeps {s : Cluster ι} (held : Held serverConfig s)
    (distinct : Function.Injective fun i => (serverConfig i).place) (i : ι) (userID : UInt32) (ok : Bool) :
    Held serverConfig (step serverConfig s (.removeUser i userID ok)) := by
  by_cases member : userID ∈ (s.server i).users
  · have row := held.owned i userID member
    simp only [step,if_pos member]
    have kept (j : ι) (other : UInt32) (here : other ∈ (s.server j).users) (differs : other = userID → j ≠ i) :
        (if ok then s.sessions.erase userID else s.sessions).lookup other = some (serverConfig j).place := by
      have own := held.owned j other here
      have unlike : other ≠ userID := by
        rintro rfl
        rw [row] at own
        exact differs rfl (distinct (Option.some.inj own).symm)
      cases ok with
      | true => rw [if_pos rfl,AList.lookup_erase_ne unlike,own]
      | false => exact own
    refine heldUpdate held i ?_ (fun j differs other here => kept j other here fun _ => differs)
      ((held.nodup i).erase userID) (held.live i)
    intro other here
    obtain ⟨unlike,old⟩ := (held.nodup i).mem_erase_iff.mp here
    exact kept i other old fun same => absurd same unlike
  · simp only [step,if_neg member]
    exact held

theorem stepKeeps {s : Cluster ι} (held : Held serverConfig s)
    (distinct : Function.Injective fun i => (serverConfig i).place) {a : Action ι}
    (permitted : Permitted serverConfig s a) : Held serverConfig (step serverConfig s a) := by
  have added (i : ι) {task : Task} (live : running task = true) :
      ∀ other ∈ (s.server i).tasks ++ [task], running other = true := by
    intro other member
    rcases List.mem_append.mp member with old | new
    · exact held.live i other old
    · rw [List.mem_singleton.mp new]; exact live
  cases a with
  | heard i serverList => exact quietKeeps held i rfl (held.live i)
  | addUser i userID =>
    simp only [step]
    split
    · exact held
    · exact quietKeeps held i rfl (added i rfl)
  | recover i => exact quietKeeps held i rfl (added i rfl)
  | runTask i task ok =>
    cases here : (s.server i).tasks[task]? with
    | none => simp only [step,here]; exact held
    | some current => exact taskKeeps held permitted here
  | removeUser i userID ok => exact removeKeeps held distinct i userID ok

omit [DecidableEq ι] in
theorem startHeld (sessions : Sessions) (serverList : ι → List Server) :
    Held serverConfig (start sessions serverList) :=
  ⟨fun _ _ member => absurd member List.not_mem_nil,fun _ => List.nodup_nil,
    fun _ _ member => absurd member List.not_mem_nil⟩

-- One removal by itself: it spares the rows of others unless it takes one of them.
theorem removalForeign {s : Cluster ι} {i : ι} {userID : UInt32} (ok : Bool)
    (member : userID ∈ (s.server i).users) :
    ForeignKept (serverConfig i).place s.sessions (step serverConfig s (.removeUser i userID ok)).sessions ↔
      (ok = true → ∀ row, s.sessions.lookup userID = some row → row = (serverConfig i).place) := by
  rw [removeUserSessions ok member]
  cases ok with
  | false => simp [ForeignKept]
  | true =>
    simp only [ForeignKept,if_true,true_implies]
    constructor
    · intro kept row here
      by_contra foreign
      have left := (kept userID row foreign).mpr here
      rw [AList.lookup_erase] at left
      cases left
    · intro own other row foreign
      by_cases same : other = userID
      · rw [same,AList.lookup_erase]
        constructor
        · intro none
          cases none
        · intro here
          exact absurd (own row here) foreign
      · rw [AList.lookup_erase_ne same]

-- As long as no stale-row DELETE takes a held row, every removal of a run spares the rows
-- of the other channels; a removal by itself does so exactly when its row is its own.
theorem removalsSpareForeignRows (distinct : Function.Injective fun i => (serverConfig i).place)
    (sessions : Sessions) (serverList : ι → List Server) {as : List (Action ι)}
    (permitted : Each (step serverConfig) (Permitted serverConfig) (start sessions serverList) as) :
    let s := run (step serverConfig) (start sessions serverList) as
    ∀ i userID ok, userID ∈ (s.server i).users →
      ForeignKept (serverConfig i).place s.sessions (step serverConfig s (.removeUser i userID ok)).sessions := by
  intro s i userID ok member
  have keeps (s : Cluster ι) (a : Action ι) (held : Held serverConfig s) (ok : Permitted serverConfig s a) :
      Held serverConfig (step serverConfig s a) := stepKeeps held distinct ok
  have held : Held serverConfig s := runInvariant keeps (startHeld sessions serverList) permitted
  rw [removalForeign ok member]
  intro _ row here
  rw [held.owned i userID member] at here
  exact (Option.some.inj here).symm

end Proof

-- One server with two channels, neither of which has heard of the other yet.
def unheardChannel (id : UInt8) (isOnline : Bool) : Channel := ⟨id,0,600,isOnline,0⟩

def unheardList (first : Bool) : List Server :=
  [⟨1,.Ready,.Normal,[unheardChannel 1 first,unheardChannel 2 !first]⟩]

def unheardPair (first : Bool) : ServerConfig := ⟨⟨1,if first then 1 else 2⟩,600,[],unheardList first⟩

theorem unheardPairDistinct : Function.Injective fun first => (unheardPair first).place := by
  intro i j same
  revert same
  cases i <;> cases j <;> decide

theorem removalsSpareForeignRowsLogin :
    ForeignKept ⟨1,1⟩ (((∅ : Sessions).insert 9 ⟨1,2⟩).insert 7 ⟨1,1⟩) ((∅ : Sessions).insert 9 ⟨1,2⟩) := by
  have permitted : Each (step unheardPair) (Permitted unheardPair)
      (start ((∅ : Sessions).insert 9 ⟨1,2⟩) unheardList)
      [.addUser true 7,.runTask true 0 true,.runTask true 0 true] :=
    ⟨trivial,by decide,by decide,trivial⟩
  exact removalsSpareForeignRows unheardPairDistinct _ unheardList permitted true 7 true (by decide)

-- Channel 2 takes over account 7 from channel 1, which it has not heard of; when channel 1
-- loses the user, the row it deletes is channel 2's.
theorem takenOverRowDeleted :
    ¬ ∀ (serverConfig : Bool → ServerConfig) (sessions : Sessions) (serverList : Bool → List Server) as,
      (Function.Injective fun i => (serverConfig i).place) →
      let s := run (step serverConfig) (start sessions serverList) as
      ∀ i userID ok, userID ∈ (s.server i).users →
        ForeignKept (serverConfig i).place s.sessions (step serverConfig s (.removeUser i userID ok)).sessions := by
  intro always
  have kept := always unheardPair ∅ unheardList
    [.addUser true 7,.runTask true 0 true,.runTask true 0 true,.addUser false 7,.runTask false 0 true,
      .runTask false 0 true,.runTask false 0 true] unheardPairDistinct true 7 true (by decide)
  rw [removalForeign true (by decide)] at kept
  exact absurd (kept rfl ⟨1,2⟩ (by decide)) (by decide)

end CsoMaster.SessionCluster
