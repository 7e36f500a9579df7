import CsoMaster.Runs
import CsoMaster.ServerConfig
import Mathlib.Data.List.AList

/-! The `user_sessions` table, keyed by `userID`, and `DatabaseManager::AddUserSession`
statement by statement: a SELECT, then an INSERT, or a DELETE and an INSERT where the row
found belongs to a listed channel that is not online. `ok` says whether the statement runs;
a duplicate key is an outcome of its own. -/
namespace CsoMaster.UserSessions
open Runs

abbrev Sessions := AList fun _ : UInt32 => Place

inductive AddUserSession where
  | select
  | insert
  | delete
  | insertAgain
  | done (result : Int)
  deriving DecidableEq, Repr

def insertRow (serverConfig : ServerConfig) (userID : UInt32) (sessions : Sessions) : Sessions × AddUserSession :=
  match sessions.lookup userID with
  | some _ => (sessions,.done 0)
  | none => (sessions.insert userID serverConfig.place,.done 1)

def afterSelect (serverConfig : ServerConfig) : Option Place → AddUserSession
  | none => .insert
  | some row =>
    match serverConfig.channel row with
    | none => .done 0
    | some channel => if channel.isOnline then .done 0 else .delete

def statement (serverConfig : ServerConfig) (userID : UInt32) (ok : Bool) (sessions : Sessions) :
    AddUserSession → Sessions × AddUserSession
  | .done result => (sessions,.done result)
  | .select => if ok then (sessions,afterSelect serverConfig (sessions.lookup userID)) else (sessions,.done (-1))
  | .insert => if ok then insertRow serverConfig userID sessions else (sessions,.done (-1))
  | .delete => if ok then (sessions.erase userID,.insertAgain) else (sessions,.done (-1))
  | .insertAgain => if ok then insertRow serverConfig userID sessions else (sessions,.done (-1))

theorem afterSelectRow (serverConfig : ServerConfig) (row : Place) :
    afterSelect serverConfig (some row) = if serverConfig.isStale row then .delete else .done 0 := by
  cases listed : serverConfig.channel row with
  | none => simp [afterSelect,ServerConfig.isStale,listed]
  | some channel => cases online : channel.isOnline <;> simp [afterSelect,ServerConfig.isStale,listed,online]

/-! One account and any number of servers with one call each, in any interleaving. -/

structure Race (ι : Type) where
  sessions : Sessions
  call : ι → AddUserSession

variable {ι : Type} [DecidableEq ι]

section Race
variable (serverConfig : ι → ServerConfig) (userID : UInt32)

def Race.start (sessions : Sessions) : Race ι := ⟨sessions,fun _ => .select⟩

-- Server `i` runs its next statement.
def step (r : Race ι) (i : ι) : Race ι :=
  let next := statement (serverConfig i) userID true r.sessions (r.call i)
  ⟨next.1,Function.update r.call i next.2⟩

def AdmittedOnce (r : Race ι) : Prop := ∀ i j, r.call i = .done 1 → r.call j = .done 1 → i = j

def StaleForTwo (sessions : Sessions) : Prop :=
  ∃ row, sessions.lookup userID = some row ∧
    ∃ i j, i ≠ j ∧ (serverConfig i).isStale row = true ∧ (serverConfig j).isStale row = true

-- Nobody has changed the row there was: a call may be about to delete it that holds its
-- owner for stale.
def Untouched (row : Place) (r : Race ι) : Prop :=
  r.sessions.lookup userID = some row ∧
    ∀ i, r.call i = .select ∨ r.call i = .done 0 ∨ r.call i = .delete ∧ (serverConfig i).isStale row = true

def Waiting (pc : AddUserSession) : Prop :=
  pc = .select ∨ pc = .insert ∨ pc = .insertAgain ∨ pc = .done 0

def Free (r : Race ι) : Prop := r.sessions.lookup userID = none ∧ ∀ i, Waiting (r.call i)

def TakenBy (i : ι) (r : Race ι) : Prop :=
  r.sessions.lookup userID = some (serverConfig i).place ∧ r.call i = .done 1 ∧ ∀ j, j ≠ i → Waiting (r.call j)

def Contended (row : Option Place) (r : Race ι) : Prop :=
  (∃ owner, row = some owner ∧ Untouched serverConfig userID owner r) ∨ Free userID r ∨
    ∃ i, TakenBy serverConfig userID i r

end Race

section Statement
variable {userID : UInt32} {sessions : Sessions}

theorem insertFree (free : sessions.lookup userID = none) (serverConfig : ServerConfig) :
    insertRow serverConfig userID sessions = (sessions.insert userID serverConfig.place,.done 1) := by
  simp only [insertRow,free]

theorem insertTaken {row} (taken : sessions.lookup userID = some row) (serverConfig : ServerConfig) :
    insertRow serverConfig userID sessions = (sessions,.done 0) := by
  simp only [insertRow,taken]

-- A waiting call on a free row: it becomes an insert, or writes its own place.
theorem waitingFree (free : sessions.lookup userID = none) {pc : AddUserSession} (waiting : Waiting pc)
    (serverConfig : ServerConfig) :
    (∃ next, statement serverConfig userID true sessions pc = (sessions,next) ∧ Waiting next) ∨
      statement serverConfig userID true sessions pc = (sessions.insert userID serverConfig.place,.done 1) := by
  rcases waiting with rfl | rfl | rfl | rfl
  · exact .inl ⟨.insert,by simp only [statement,if_true,free,afterSelect],.inr (.inl rfl)⟩
  · exact .inr (by simp only [statement,if_true,insertFree free])
  · exact .inr (by simp only [statement,if_true,insertFree free])
  · exact .inl ⟨.done 0,rfl,.inr (.inr (.inr rfl))⟩

-- A waiting call on a row of a channel it does not hold for stale changes nothing.
theorem waitingTaken {row} (taken : sessions.lookup userID = some row) {pc : AddUserSession}
    (waiting : Waiting pc) {serverConfig : ServerConfig} (fresh : serverConfig.isStale row = false) :
    ∃ next, statement serverConfig userID true sessions pc = (sessions,next) ∧ Waiting next := by
  have refused : Waiting (.done 0) := .inr (.inr (.inr rfl))
  rcases waiting with rfl | rfl | rfl | rfl
  · refine ⟨.done 0,?_,refused⟩
    simp only [statement,if_true,taken,afterSelectRow,fresh,Bool.false_eq_true,if_false]
  · exact ⟨.done 0,by simp only [statement,if_true,insertTaken taken],refused⟩
  · exact ⟨.done 0,by simp only [statement,if_true,insertTaken taken],refused⟩
  · exact ⟨.done 0,rfl,refused⟩

-- An untouched row: the call reads it, answers 0, or deletes it for stale.
theorem untouchedStep {row} (here : sessions.lookup userID = some row) {pc : AddUserSession}
    {serverConfig : ServerConfig}
    (at' : pc = .select ∨ pc = .done 0 ∨ pc = .delete ∧ serverConfig.isStale row = true) :
    (∃ next, statement serverConfig userID true sessions pc = (sessions,next) ∧
        (next = .select ∨ next = .done 0 ∨ next = .delete ∧ serverConfig.isStale row = true)) ∨
      statement serverConfig userID true sessions pc = (sessions.erase userID,.insertAgain) ∧
        serverConfig.isStale row = true := by
  rcases at' with rfl | rfl | ⟨rfl,stale⟩
  · refine .inl ⟨if serverConfig.isStale row then .delete else .done 0,
      by simp only [statement,if_true,here,afterSelectRow],?_⟩
    cases stale : serverConfig.isStale row <;> simp
  · exact .inl ⟨.done 0,rfl,.inr (.inl rfl)⟩
  · exact .inr ⟨by simp only [statement,if_true],stale⟩

end Statement

section Proof
variable {serverConfig : ι → ServerConfig} {userID : UInt32} {row : Option Place}

theorem callSelf (r : Race ι) (i : ι) :
    (step serverConfig userID r i).call i = (statement (serverConfig i) userID true r.sessions (r.call i)).2 := by
  simp [step]

theorem callOther (r : Race ι) {i j : ι} (differs : j ≠ i) :
    (step serverConfig userID r i).call j = r.call j := by
  simp [step,differs]

-- What holds of every call before the step and of the stepping call after it.
theorem callsKept {P : AddUserSession → Prop} {r : Race ι} {i : ι} (others : ∀ j, j ≠ i → P (r.call j))
    (own : P (statement (serverConfig i) userID true r.sessions (r.call i)).2) (j : ι) :
    P ((step serverConfig userID r i).call j) := by
  by_cases same : j = i
  · rw [same,callSelf]; exact own
  · rw [callOther r same]; exact others j same

theorem untouchedKeeps {r : Race ι} {owner : Place} (untouched : Untouched serverConfig userID owner r)
    (single : ∀ i j, i ≠ j → (serverConfig i).isStale owner = true → (serverConfig j).isStale owner = false)
    (i : ι) : Contended serverConfig userID (some owner) (step serverConfig userID r i) := by
  obtain ⟨here,calls⟩ := untouched
  rcases untouchedStep here (calls i) with ⟨next,read,at'⟩ | ⟨deleted,stale⟩
  · refine .inl ⟨owner,rfl,by simp only [step,read]; exact here,fun j => ?_⟩
    by_cases same : j = i
    · rw [same,callSelf,read]; exact at'
    · rw [callOther r same]; exact calls j
  · refine .inr (.inl ⟨by simp only [step,deleted]; exact AList.lookup_erase userID _,?_⟩)
    refine callsKept (fun j differs => ?_) (by rw [deleted]; exact .inr (.inr (.inl rfl)))
    rcases calls j with select | refused | ⟨-,alsoStale⟩
    · exact .inl select
    · exact .inr (.inr (.inr refused))
    · rw [single i j (Ne.symm differs) stale] at alsoStale
      cases alsoStale

theorem freeKeeps {r : Race ι} (free : Free userID r) (i : ι) :
    Contended serverConfig userID row (step serverConfig userID r i) := by
  obtain ⟨here,calls⟩ := free
  rcases waitingFree here (calls i) (serverConfig i) with ⟨next,read,waiting⟩ | wrote
  · refine .inr (.inl ⟨by simp only [step,read]; exact here,?_⟩)
    exact callsKept (fun j _ => calls j) (by rw [read]; exact waiting)
  · refine .inr (.inr ⟨i,?_,by rw [callSelf,wrote],fun j differs => by rw [callOther r differs]; exact calls j⟩)
    simp only [step,wrote]
    exact AList.lookup_insert _

theorem takenKeeps {r : Race ι} {winner : ι} (taken : TakenBy serverConfig userID winner r)
    (online : ∀ j, j ≠ winner → (serverConfig j).isOnline (serverConfig winner).place = true) (i : ι) :
    Contended serverConfig userID row (step serverConfig userID r i) := by
  obtain ⟨here,won,calls⟩ := taken
  by_cases same : i = winner
  · have nothing : statement (serverConfig i) userID true r.sessions (r.call i) = (r.sessions,.done 1) := by
      rw [same,won]; rfl
    refine .inr (.inr ⟨winner,by simp only [step,nothing]; exact here,by rw [← same,callSelf,nothing],?_⟩)
    intro j differs
    rw [callOther r (by rw [same]; exact differs)]
    exact calls j differs
  · obtain ⟨next,read,waiting⟩ := waitingTaken here (calls i same) (ServerConfig.staleNotOnline (online i same))
    refine .inr (.inr ⟨winner,by simp only [step,read]; exact here,?_,fun j differs => ?_⟩)
    · rw [callOther r (Ne.symm same)]; exact won
    · by_cases self : j = i
      · rw [self,callSelf,read]; exact waiting
      · rw [callOther r self]; exact calls j differs

theorem contendedOnce {r : Race ι} (contended : Contended serverConfig userID row r) : AdmittedOnce r := by
  have waits {pc : AddUserSession} (waiting : Waiting pc) : pc ≠ .done 1 := by
    rcases waiting with rfl | rfl | rfl | rfl <;> simp
  intro i j wonI wonJ
  rcases contended with ⟨owner,-,-,calls⟩ | ⟨-,calls⟩ | ⟨winner,-,-,calls⟩
  · rcases calls i with h | h | ⟨h,-⟩ <;> rw [wonI] at h <;> cases h
  · exact absurd wonI (waits (calls i))
  · by_cases iWins : i = winner
    · by_cases jWins : j = winner
      · rw [iWins,jWins]
      · exact absurd wonJ (waits (calls j jWins))
    · exact absurd wonI (waits (calls i iWins))

omit [DecidableEq ι] in
theorem startContended (sessions : Sessions) :
    Contended serverConfig userID (sessions.lookup userID) (Race.start sessions : Race ι) := by
  cases here : sessions.lookup userID with
  | none => exact .inr (.inl ⟨here,fun _ => .inl rfl⟩)
  | some owner => exact .inl ⟨owner,rfl,here,fun _ => .inl rfl⟩

-- Both calls read the stale row before either deletes it; the second DELETE takes the
-- row the first call has just written.
theorem staleAdmitsBoth {sessions : Sessions} {owner : Place} (here : sessions.lookup userID = some owner)
    {i j : ι} (differs : i ≠ j) (staleI : (serverConfig i).isStale owner = true)
    (staleJ : (serverConfig j).isStale owner = true) :
    ¬ AdmittedOnce (run (step serverConfig userID) (Race.start sessions) [i,j,i,i,j,j]) := by
  intro once
  refine differs (once i j ?_ ?_)
  · simp [runCons,step,statement,Race.start,here,afterSelectRow,staleI,staleJ,differs,differs.symm,insertRow]
  · simp [runCons,step,statement,Race.start,here,afterSelectRow,staleI,staleJ,differs,differs.symm,insertRow]

-- Concurrent AddUserSession calls of one account admit it once in every interleaving,
-- exactly when its row is not stale for two of the servers.
theorem addUserSessionOnce
    (online : ∀ i j, i ≠ j → (serverConfig i).isOnline (serverConfig j).place = true) (sessions : Sessions) :
    (∀ schedule, AdmittedOnce (run (step serverConfig userID) (Race.start sessions) schedule)) ↔
      ¬ StaleForTwo serverConfig userID sessions := by
  constructor
  · rintro always ⟨owner,here,i,j,differs,staleI,staleJ⟩
    exact staleAdmitsBoth here differs staleI staleJ (always _)
  · intro single schedule
    have keeps (r : Race ι) (i : ι) (contended : Contended serverConfig userID (sessions.lookup userID) r) :
        Contended serverConfig userID (sessions.lookup userID) (step serverConfig userID r i) := by
      rcases contended with ⟨owner,here,untouched⟩ | free | ⟨winner,taken⟩
      · rw [here]
        refine untouchedKeeps untouched (fun j k differs staleJ => ?_) i
        by_contra staleK
        exact single ⟨owner,here,j,k,differs,staleJ,by simpa using staleK⟩
      · exact freeKeeps free i
      · exact takenKeeps taken (fun j differs => online j winner differs) i
    exact contendedOnce (runInvariant (fun r i inv _ => keeps r i inv) (startContended sessions)
      (eachTrue _ schedule))

end Proof

-- Channels 1 and 2 of one server see each other; nobody has heard of channel 3.
def someChannel (id : UInt8) (isOnline : Bool) : Channel := ⟨id,0,600,isOnline,0⟩

def somePair (first : Bool) : ServerConfig :=
  ⟨⟨1,if first then 1 else 2⟩,600,[],
    [⟨1,.Ready,.Normal,[someChannel 1 true,someChannel 2 true,someChannel 3 false]⟩]⟩

theorem somePairOnline : ∀ i j, i ≠ j → (somePair i).isOnline (somePair j).place = true := by decide

theorem addUserSessionOnceFresh :
    AdmittedOnce (run (step somePair 7) (Race.start (∅ : Sessions)) [true,false,true,false]) :=
  (addUserSessionOnce somePairOnline ∅).mpr (by rintro ⟨row,here,-⟩; cases here) _

theorem staleRowAdmitsBoth :
    ¬ ∀ (serverConfig : Bool → ServerConfig) (userID : UInt32) (sessions : Sessions),
      (∀ i j, i ≠ j → (serverConfig i).isOnline (serverConfig j).place = true) →
      ∀ schedule, AdmittedOnce (run (step serverConfig userID) (Race.start sessions) schedule) := by
  intro always
  have once := always somePair 7 ((∅ : Sessions).insert 7 ⟨1,3⟩) somePairOnline
    [true,false,true,true,false,false]
  exact staleAdmitsBoth (AList.lookup_insert _) (by decide) (by decide) (by decide) once

end CsoMaster.UserSessions
