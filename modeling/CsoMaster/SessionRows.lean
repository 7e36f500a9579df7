import CsoMaster.QueryFrames
import Mathlib.Data.Set.Insert

/-! The rows of one channel in `user_sessions`. While the channel is not shown offline to itself and
the other servers leave its rows alone, a call of `AddUserSession` enters an account that has none
of them, or leaves them as they are; it never takes over a row of the channel's own. -/
namespace CsoMaster

def sessionRows (place : Place) (d : Database) : Set UInt32 := {userID | d.userSessions.lookup userID = some place}

namespace DatabaseManager
variable {place : Place} {userID : UInt32} {rows : Set UInt32} {serverConfig : ServerConfig} {d : Database}

theorem rowsInserted : sessionRows place { d with userSessions := d.userSessions.insert userID place } =
    insert userID (sessionRows place d) := by
  ext other
  by_cases same : other = userID
  · simp [sessionRows,same]
  · simp [sessionRows,same,AList.lookup_insert_ne same]

theorem rowsErased : sessionRows place { d with userSessions := d.userSessions.erase userID } = sessionRows place d \ {userID} := by
  ext other
  by_cases same : other = userID
  · simp [sessionRows,same]
  · simp [sessionRows,same,AList.lookup_erase_ne same]

theorem rowsCleared :
    sessionRows place { d with
      userSessions := ⟨d.userSessions.entries.filter (·.2 ≠ place),d.userSessions.nodupKeys.sublist List.filter_sublist⟩ } = ∅ := by
  refine Set.eq_empty_of_forall_notMem fun userID taken => ?_
  have kept := AList.mem_lookup_iff.mp (Option.mem_def.mpr taken)
  simp at kept

-- Where a call stands: nothing has changed yet, or the account has been entered.
def Entering (userID : UInt32) (rows : Set UInt32) : UserSessions.AddUserSession → Set UInt32 → Prop
  | .select, now => now = rows
  | .done result, now => (result > 0 ∧ userID ∉ rows ∧ now = insert userID rows) ∨ (result ≤ 0 ∧ now = rows)
  | _, now => userID ∉ rows ∧ now = rows

theorem insertEnters (free : userID ∉ rows) (same : sessionRows place d = rows) (own : serverConfig.place = place) :
    Entering userID rows (UserSessions.insertRow serverConfig userID d.userSessions).2
      (sessionRows place { d with userSessions := (UserSessions.insertRow serverConfig userID d.userSessions).1 }) := by
  unfold UserSessions.insertRow
  split
  · exact .inr ⟨le_refl _,same⟩
  · rw [own]
    exact .inl ⟨by decide,free,by rw [rowsInserted,same]⟩

-- A row that is held for stale is another channel's.
theorem statementEnters (own : serverConfig.place = place) (online : serverConfig.isStale place = false) {call : UserSessions.AddUserSession}
    (entering : Entering userID rows call (sessionRows place d)) :
    Entering userID rows (UserSessions.statement serverConfig userID true d.userSessions call).2
      (sessionRows place { d with userSessions := (UserSessions.statement serverConfig userID true d.userSessions call).1 }) := by
  cases call with
  | done result => exact entering
  | select =>
    have same : sessionRows place d = rows := entering
    simp only [UserSessions.statement,if_true]
    cases found : d.userSessions.lookup userID with
    | none =>
      refine ⟨?_,same⟩
      rw [← same]
      simp [sessionRows,found]
    | some row =>
      rw [UserSessions.afterSelectRow]
      cases stale : serverConfig.isStale row with
      | false => exact .inr ⟨le_refl _,same⟩
      | true =>
        refine ⟨?_,same⟩
        rw [← same]
        simp only [sessionRows,Set.mem_ofPred_eq,found,Option.some.injEq]
        rintro rfl
        rw [online] at stale
        cases stale
  | insert => exact insertEnters entering.1 entering.2 own
  | delete =>
    refine ⟨entering.1,?_⟩
    change sessionRows place { d with userSessions := d.userSessions.erase userID } = rows
    rw [rowsErased,entering.2]
    exact Set.sdiff_singleton_eq_self entering.1
  | insertAgain => exact insertEnters entering.1 entering.2 own

theorem sessionStatementEnters (own : serverConfig.place = place) (online : serverConfig.isStale place = false)
    (call : UserSessions.AddUserSession) :
    Triple (sessionRows place) (Entering userID rows call) (sessionStatement serverConfig userID call) (Entering userID rows) := by
  have failed (pending : ∀ result, call ≠ .done result) (now : Set UInt32) (entering : Entering userID rows call now) :
      Entering userID rows (.done (-1)) now := by
    cases call with
    | done result => exact absurd rfl (pending result)
    | select => exact .inr ⟨by decide,entering⟩
    | _ => exact .inr ⟨by decide,entering.2⟩
  unfold sessionStatement
  split
  · exact .pure fun _ => id
  · rename_i pending
    exact .bind (R := fun next now => Entering userID rows (next.getD (.done (-1))) now)
      (.query (failed pending) fun d entering => statementEnters own online entering) fun _ => .pure fun _ => id

theorem addUserSessionEnters (userID : UInt32) (own : serverConfig.place = place) (online : serverConfig.isStale place = false) :
    Triple (sessionRows place) (· = rows) (addUserSession serverConfig userID) fun result now =>
      (result > 0 ∧ userID ∉ rows ∧ now = insert userID rows) ∨ (result ≤ 0 ∧ now = rows) := by
  have each (call : UserSessions.AddUserSession) : Triple (sessionRows place) (Entering userID rows call) _ (Entering userID rows) :=
    sessionStatementEnters own online call
  refine .bind (each .select) fun second => .bind (each second) fun third => .bind (each third) fun call => ?_
  cases call with
  | done result => exact .pure fun _ => id
  | select => exact .pure fun _ entering => .inr ⟨by decide,entering⟩
  | _ => exact .pure fun _ entering => .inr ⟨by decide,entering.2⟩

theorem removeUserSessionStrikes (userID : UInt32) :
    Triple (sessionRows place) (· = rows) (removeUserSession userID) fun done now =>
      (done = true ∧ now = rows \ {userID}) ∨ (done = false ∧ now = rows) := by
  refine .execute (fun now same => .inr ⟨rfl,same⟩) fun d same => .inl ⟨rfl,?_⟩
  rw [rowsErased,same]

theorem removeAllUserSessionsClears (place : Place) :
    Triple (sessionRows place) (fun _ => True) (removeAllUserSessions place) fun done now => done = true → now = ∅ :=
  .execute (fun _ _ => nofun) fun _ _ _ => rowsCleared

-- The row of an account that has one is found to be the channel's own.
theorem isUserSessionAddedOwn (own : serverConfig.place = place) (taken : userID ∈ rows) :
    Triple (sessionRows place) (· = rows) (isUserSessionAdded serverConfig userID) fun result now => result ≠ 0 ∧ now = rows := by
  refine .bind (R := fun found now => (∀ row, found = some row → row = some place) ∧ now = rows)
    (.select (fun now same => ⟨fun _ none => (nomatch none),same⟩) fun d same => ⟨fun row read => ?_,same⟩) fun found => ?_
  · rw [← Option.some.inj read]
    rw [← same] at taken
    exact taken
  · cases found with
    | none => exact .pure fun _ ⟨_,same⟩ => ⟨by decide,same⟩
    | some row =>
      refine .pure fun _ ⟨read,same⟩ => ⟨?_,same⟩
      rw [read row rfl,SessionCluster.isUserSessionAdded]
      split
      · decide
      · rw [if_neg (not_not.mpr own.symm)]
        decide

end DatabaseManager
end CsoMaster
