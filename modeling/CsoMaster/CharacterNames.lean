import CsoMaster.DatabaseManager

/-! `user_characters`, keyed by `userID`, and `DatabaseManager::CreateUserCharacter` statement by
statement: a SELECT by the nickname, then an INSERT. `nickName` is a VARBINARY, so names are the
same when their bytes are, and the table has no key on it. -/
namespace CsoMaster.CharacterNames
open Runs

abbrev Characters := AList fun _ : UInt32 => UserCharacter

-- The columns a new row does not name have their defaults.
def newRow (nickName : Bytes) : UserCharacter := { (default : UserCharacter) with nickName := nickName, level := 1 }

def HasName (characters : Characters) (nickName : Bytes) : Prop :=
  ∃ userID row, characters.lookup userID = some row ∧ row.nickName = nickName

def named (nickName : Bytes) (characters : Characters) : Bool :=
  characters.entries.any fun row => row.2.nickName = nickName

inductive CreateUserCharacter where
  | select
  | insert
  | done (result : Int)
  deriving DecidableEq, Repr

def statement (userID : UInt32) (nickName : Bytes) (characters : Characters) :
    CreateUserCharacter → Characters × CreateUserCharacter
  | .done result => (characters,.done result)
  | .select => (characters,if named nickName characters then .done 0 else .insert)
  | .insert =>
    if (characters.lookup userID).isSome then (characters,.done (-1))
    else (characters.insert userID (newRow nickName),.done 1)

theorem namedIff {nickName : Bytes} {characters : Characters} :
    named nickName characters = true ↔ HasName characters nickName := by
  rw [named,List.any_eq_true]
  constructor
  · rintro ⟨entry,mem,same⟩
    exact ⟨entry.1,entry.2,AList.mem_lookup_iff.mpr mem,of_decide_eq_true same⟩
  · rintro ⟨userID,row,found,same⟩
    exact ⟨⟨userID,row⟩,AList.mem_lookup_iff.mp found,decide_eq_true same⟩

section Alone
variable {userID : UInt32} {nickName : Bytes} {database : Database} {first second : Database → Database}

-- A call by itself, with what the others do before each of its statements.
theorem selectRefuses {result : Int}
    (taken : (statement userID nickName (first database).userCharacters .select).2 = .done result) :
    (DatabaseManager.createUserCharacter userID nickName ⟨database,[⟨first,true⟩,⟨second,true⟩]⟩).1 = result := by
  simp only [statement] at taken
  split at taken
  · rename_i there
    cases taken
    simp only [DatabaseManager.createUserCharacter,DatabaseManager.select,DatabaseManager.query,bind,StateT.bind]
    simp only [named] at there
    simp only [there,if_true]
    rfl
  · cases taken

theorem insertAnswers (free : (statement userID nickName (first database).userCharacters .select).2 = .insert) :
    let created := DatabaseManager.createUserCharacter userID nickName ⟨database,[⟨first,true⟩,⟨second,true⟩]⟩
    statement userID nickName (second (first database)).userCharacters .insert =
      (created.2.database.userCharacters,.done created.1) := by
  simp only [statement] at free
  split at free
  · cases free
  · rename_i absent
    rw [Bool.not_eq_true,named] at absent
    simp only [statement,DatabaseManager.createUserCharacter,DatabaseManager.select,DatabaseManager.query,bind,StateT.bind,if_true,
      absent,DatabaseManager.pureRuns]
    split <;> rfl

end Alone

/-! Any number of calls at once, each for an account and a name of its own, in any interleaving. -/

structure Race (ι : Type) where
  characters : Characters
  call : ι → CreateUserCharacter

def UniqueNames (characters : Characters) : Prop :=
  ∀ userID row other found, characters.lookup userID = some row → characters.lookup other = some found →
    row.nickName = found.nickName → userID = other

variable {ι : Type} [DecidableEq ι]

section Race
variable (userID : ι → UInt32) (nickName : ι → Bytes)

def Race.start (characters : Characters) : Race ι := ⟨characters,fun _ => .select⟩

-- Call `i` runs its next statement.
def step (r : Race ι) (i : ι) : Race ι :=
  let next := statement (userID i) (nickName i) r.characters (r.call i)
  ⟨next.1,Function.update r.call i next.2⟩

def Written (r : Race ι) (name : Bytes) : Prop := ∃ j, r.call j = .done 1 ∧ nickName j = name

-- Nobody's INSERT has written the name that the INSERT of call `i` is about to write.
def Unwritten (r : Race ι) (i : ι) : Prop :=
  r.call i = .insert → r.characters.lookup (userID i) = none → ¬ Written nickName r (nickName i)

-- The names are those there were and those written since; what a call is about to insert was
-- not there when the calls began.
structure Sound (characters : Characters) (r : Race ι) : Prop where
  unique : UniqueNames r.characters
  rows : ∀ name, HasName r.characters name ↔ HasName characters name ∨ Written nickName r name
  passed : ∀ i, r.call i = .insert → ¬ HasName characters (nickName i)

end Race

section Proof
variable {userID : ι → UInt32} {nickName : ι → Bytes} {characters : Characters}

theorem hasNameInsert {table : Characters} {owner : UInt32} (free : table.lookup owner = none) (name other : Bytes) :
    HasName (table.insert owner (newRow name)) other ↔ HasName table other ∨ other = name := by
  constructor
  · rintro ⟨key,row,found,rfl⟩
    by_cases own : key = owner
    · subst own
      rw [AList.lookup_insert,Option.some.injEq] at found
      exact .inr (found ▸ rfl)
    · rw [AList.lookup_insert_ne own] at found
      exact .inl ⟨key,row,found,rfl⟩
  · rintro (⟨key,row,found,same⟩ | rfl)
    · have apart : key ≠ owner := by
        rintro rfl
        rw [free] at found
        cases found
      exact ⟨key,row,by rw [AList.lookup_insert_ne apart,found],same⟩
    · exact ⟨owner,newRow other,AList.lookup_insert _,rfl⟩

-- A step that writes no row: the names stay, and so does who has written one.
theorem quietSound {r : Race ι} (sound : Sound nickName characters r) {i : ι} {next : CreateUserCharacter}
    (quiet : statement (userID i) (nickName i) r.characters (r.call i) = (r.characters,next))
    (wrote : next = .done 1 ↔ r.call i = .done 1) (passes : next = .insert → ¬ HasName characters (nickName i)) :
    Sound nickName characters (step userID nickName r i) := by
  have written (name : Bytes) : Written nickName (step userID nickName r i) name ↔ Written nickName r name := by
    refine exists_congr fun j => and_congr_left fun _ => ?_
    by_cases same : j = i
    · subst same
      simp [step,quiet,wrote]
    · simp [step,same]
  refine ⟨by simpa only [step,quiet] using sound.unique,fun name => ?_,fun j inserts => ?_⟩
  · rw [written]
    simpa only [step,quiet] using sound.rows name
  · by_cases same : j = i
    · subst same
      simp only [step,quiet,Function.update_self] at inserts
      exact passes inserts
    · simp only [step,Function.update_of_ne same] at inserts
      exact sound.passed j inserts

-- An INSERT on a free key: the row is there, and its call has written it.
theorem insertSound {r : Race ι} (sound : Sound nickName characters r) {i : ι} (inserts : r.call i = .insert)
    (free : r.characters.lookup (userID i) = none) (alone : ¬ Written nickName r (nickName i)) :
    Sound nickName characters (step userID nickName r i) := by
  have ran : step userID nickName r i =
      ⟨r.characters.insert (userID i) (newRow (nickName i)),Function.update r.call i (.done 1)⟩ := by
    simp [step,inserts,statement,free]
  have written (name : Bytes) : Written nickName (step userID nickName r i) name ↔ Written nickName r name ∨ name = nickName i := by
    rw [ran]
    constructor
    · rintro ⟨j,done,rfl⟩
      by_cases same : j = i
      · exact .inr (same ▸ rfl)
      · exact .inl ⟨j,by simpa [same] using done,rfl⟩
    · rintro (⟨j,done,rfl⟩ | rfl)
      · have other : j ≠ i := by
          rintro rfl
          rw [inserts] at done
          cases done
        exact ⟨j,by simpa [other] using done,rfl⟩
      · exact ⟨i,Function.update_self ..,rfl⟩
  have absent : ¬ HasName r.characters (nickName i) := fun there =>
    ((sound.rows _).mp there).elim (sound.passed i inserts) alone
  refine ⟨?_,fun name => ?_,fun j still => ?_⟩
  · have apart {key : UInt32} {row : UserCharacter} (found : (r.characters.insert (userID i) (newRow (nickName i))).lookup key = some row)
        (other : key ≠ userID i) : r.characters.lookup key = some row := by
      rwa [AList.lookup_insert_ne other] at found
    have own {row : UserCharacter} (found : (r.characters.insert (userID i) (newRow (nickName i))).lookup (userID i) = some row) :
        row.nickName = nickName i := by
      rw [AList.lookup_insert,Option.some.injEq] at found
      exact found ▸ rfl
    intro key row other found here there same
    rw [ran] at here there
    by_cases first : key = userID i <;> by_cases second : other = userID i
    · rw [first,second]
    · exact absurd ⟨other,found,apart there second,same.symm.trans (own (first ▸ here))⟩ absent
    · exact absurd ⟨key,row,apart here first,same.trans (own (second ▸ there))⟩ absent
    · exact sound.unique key row other found (apart here first) (apart there second) same
  · rw [written,← or_assoc,← sound.rows name,ran]
    exact hasNameInsert free _ _
  · rw [ran] at still
    by_cases same : j = i
    · subst same
      simp at still
    · exact sound.passed j (by simpa [same] using still)

theorem stepSound (r : Race ι) (i : ι) (sound : Sound nickName characters r) (unwritten : Unwritten userID nickName r i) :
    Sound nickName characters (step userID nickName r i) := by
  cases at' : r.call i with
  | done result => exact quietSound sound (by rw [at']; rfl) (by rw [at']) (fun same => by cases same)
  | select =>
    refine quietSound sound (by rw [at']; rfl) ?_ fun passes there => ?_
    · rw [at']
      split <;> simp
    · have found : named (nickName i) r.characters = true := namedIff.mpr ((sound.rows _).mpr (.inl there))
      rw [found] at passes
      cases passes
  | insert =>
    cases key : r.characters.lookup (userID i) with
    | none => exact insertSound sound at' key (unwritten at' key)
    | some row => exact quietSound sound (by simp only [at',statement,key]; rfl) (by simp [at']) (fun same => by cases same)

-- The INSERT of a name that another call has written.
theorem doubleInsert (r : Race ι) (i : ι) (sound : Sound nickName characters r) (late : ¬ Unwritten userID nickName r i) :
    ¬ UniqueNames (step userID nickName r i).characters := by
  simp only [Unwritten,not_forall,not_not] at late
  obtain ⟨inserts,free,there⟩ := late
  obtain ⟨owner,row,found,same⟩ := (sound.rows _).mpr (.inr there)
  intro unique
  have apart : owner ≠ userID i := by
    rintro rfl
    rw [free] at found
    cases found
  have table : (step userID nickName r i).characters = r.characters.insert (userID i) (newRow (nickName i)) := by
    simp [step,inserts,statement,free]
  rw [table] at unique
  exact apart (unique owner row (userID i) (newRow (nickName i)) (by rw [AList.lookup_insert_ne apart,found])
    (AList.lookup_insert _) same)

omit [DecidableEq ι] in
theorem startSound (unique : UniqueNames characters) : Sound nickName characters (Race.start characters) where
  unique := unique
  rows name := ⟨.inl,fun there => there.elim id fun ⟨_,done,_⟩ => by cases done⟩
  passed _ inserts := by cases inserts

-- Names stay unique in exactly the interleavings in which no call inserts a name that another
-- one has inserted since its SELECT.
theorem nickNamesUnique (unique : UniqueNames characters) (schedule : List ι) :
    Always (step userID nickName) (fun r => UniqueNames r.characters) (.start characters) schedule ↔
      Each (step userID nickName) (Unwritten userID nickName) (.start characters) schedule :=
  alwaysIffEach stepSound (fun _ sound => sound.unique) doubleInsert (startSound unique)

end Proof

theorem noNames : UniqueNames ∅ := fun _ _ _ _ found => by cases found

-- Accounts 1 and 2 want to be called the same.
def namesake (_ : Bool) : Bytes := [65,110,110,97]

def account (first : Bool) : UInt32 := if first then 1 else 2

theorem nickNamesUniqueInTurn :
    Always (step account namesake) (fun r => UniqueNames r.characters) (.start ∅) [true,true,false,false] := by
  refine (nickNamesUnique noNames _).mpr ⟨?_,?_,?_,?_,trivial⟩
  · exact fun inserts => absurd inserts (by decide)
  · rintro - - ⟨j,done,-⟩
    revert done
    cases j <;> decide
  · exact fun inserts => absurd inserts (by decide)
  · exact fun inserts => absurd inserts (by decide)

-- Both look before either writes.
theorem namesakesBothWritten :
    ¬ ∀ (userID : Bool → UInt32) (nickName : Bool → Bytes) (characters : Characters) (schedule : List Bool),
      Function.Injective userID → UniqueNames characters →
      Always (step userID nickName) (fun r => UniqueNames r.characters) (.start characters) schedule := by
  intro always
  have last := alwaysLast (always account namesake ∅ [true,false,true,false] (by decide) noNames)
  exact absurd (last 1 (newRow (namesake true)) 2 (newRow (namesake false)) (by decide) (by decide) rfl) (by decide)

end CsoMaster.CharacterNames
