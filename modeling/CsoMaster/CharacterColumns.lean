import CsoMaster.ListPackets

/-! `GetUserCharacter` at the level of the row: the select list it asks with, the columns it takes
from the row by a running index, and the groups `BuildUserCharacter` writes. All three go over
the same bits of the flag. -/
namespace CsoMaster
open SqlText (ascii decimal)
open Packet

section Numbers

def isSpace (b : UInt8) : Bool := b = 32 || (9 ≤ b && b ≤ 13)

-- The digits in front, after those read as `n`.
def digits (n : Nat) : Bytes → Nat
  | [] => n
  | b :: text => if QueryText.isDigit b then digits (n * 10 + (b.toNat - 48)) text else n

def signed : Bytes → Int
  | 45 :: text => -(digits 0 text : Int)
  | 43 :: text => digits 0 text
  | text => digits 0 text

-- What an integer type of so many bits does not hold becomes its nearest value.
def saturate (bits : Nat) (n : Int) : Int := max (-2 ^ (bits - 1)) (min (2 ^ (bits - 1) - 1) n)

def atoi (text : Bytes) : Int := saturate 32 (signed (text.dropWhile isSpace))
def atoll (text : Bytes) : Int := saturate 64 (signed (text.dropWhile isSpace))

end Numbers

-- `MYSQL_ROW`: the text of each column, none where it is NULL.
abbrev Row := List (Option Bytes)

inductive RowFault where
  | outside
  | null
  deriving DecidableEq, Repr

abbrev Fetch := StateT Nat (Except RowFault)

-- `row[index++]`, which is handed to `atoi` or to a string.
def nextColumn (row : Row) : Fetch Bytes := fun index =>
  match row[index]? with
  | none => .error .outside
  | some none => .error .null
  | some (some text) => .ok (text,index + 1)

-- What a string takes over from a `char*`.
def cString (text : Bytes) : Bytes := text.takeWhile (· ≠ 0)

def unsignedChar (text : Bytes) : UInt8 := UInt8.ofInt (atoi text)
def unsignedShort (text : Bytes) : UInt16 := UInt16.ofInt (atoi text)
def unsignedLong (text : Bytes) : UInt32 := UInt32.ofInt (atoi text)
def unsignedLongLong (text : Bytes) : UInt64 := UInt64.ofInt (atoll text)

section Select

-- `info` with a comma behind every column.
def selectItems (flag : UInt16) : Bytes :=
  let has := hasFlag flag
  chosen (has USERCHARACTER_FLAG_UNK1) (ascii " unk1,") ++
  chosen (has USERCHARACTER_FLAG_NICKNAME) (ascii " nickName,") ++
  chosen (has USERCHARACTER_FLAG_UNK4) (ascii " unk4_1, unk4_2, unk4_3, unk4_4,") ++
  chosen (has USERCHARACTER_FLAG_LEVEL) (ascii " level,") ++
  chosen (has USERCHARACTER_FLAG_UNK10) (ascii " unk10,") ++
  chosen (has USERCHARACTER_FLAG_EXP) (ascii " exp,") ++
  chosen (has USERCHARACTER_FLAG_CASH) (ascii " cash,") ++
  chosen (has USERCHARACTER_FLAG_POINTS) (ascii " points,") ++
  chosen (has USERCHARACTER_FLAG_BATTLESTATS) (ascii " battles, wins, frags, deaths,") ++
  chosen (has USERCHARACTER_FLAG_LOCATION) (ascii " city, county, neighborhood, unk200_5,") ++
  chosen (has USERCHARACTER_FLAG_UNK400) (ascii " unk400,") ++
  chosen (has USERCHARACTER_FLAG_UNK800) (ascii " unk800,") ++
  chosen (has USERCHARACTER_FLAG_CLAN) (ascii " clanID, clanMarkID, clanName, clanUnk4, clanUnk5, clanUnk6,")

-- The last comma is overwritten, so there must be one.
def selectList (flag : UInt16) : Option Bytes :=
  if flag = 0 then some (ascii " 1 ")
  else if selectItems flag = [] then none
  else some ((selectItems flag).dropLast ++ [32])

-- The items of a select list, and the row a table row with these columns is fetched as.
def columnNames (selectList : Bytes) : List Bytes := (selectList.splitOn 44).map fun item => item.filter (· ≠ 32)

def fetched (columns : Bytes → Option Bytes) (selectList : Bytes) : Row := (columnNames selectList).map columns

end Select

section Read

-- Each field is assigned at most once, so one whose bit is not set keeps its default.
def readGiven {α : Type} [Inhabited α] (row : Row) (flag bit : UInt16) (read : Bytes → α) : Fetch α :=
  if hasFlag flag bit then read <$> nextColumn row else pure default

def readUserCharacter (row : Row) (flag : UInt16) : Fetch UserCharacter := do
  return {
    flag := flag
    unk1 := ← readGiven row flag USERCHARACTER_FLAG_UNK1 unsignedChar
    nickName := ← readGiven row flag USERCHARACTER_FLAG_NICKNAME cString
    unk4_1 := ← readGiven row flag USERCHARACTER_FLAG_UNK4 cString
    unk4_2 := ← readGiven row flag USERCHARACTER_FLAG_UNK4 unsignedChar
    unk4_3 := ← readGiven row flag USERCHARACTER_FLAG_UNK4 unsignedChar
    unk4_4 := ← readGiven row flag USERCHARACTER_FLAG_UNK4 unsignedChar
    level := ← readGiven row flag USERCHARACTER_FLAG_LEVEL unsignedChar
    unk10 := ← readGiven row flag USERCHARACTER_FLAG_UNK10 unsignedChar
    exp := ← readGiven row flag USERCHARACTER_FLAG_EXP unsignedLongLong
    cash := ← readGiven row flag USERCHARACTER_FLAG_CASH unsignedLongLong
    points := ← readGiven row flag USERCHARACTER_FLAG_POINTS unsignedLongLong
    battles := ← readGiven row flag USERCHARACTER_FLAG_BATTLESTATS unsignedLong
    wins := ← readGiven row flag USERCHARACTER_FLAG_BATTLESTATS unsignedLong
    frags := ← readGiven row flag USERCHARACTER_FLAG_BATTLESTATS unsignedLong
    deaths := ← readGiven row flag USERCHARACTER_FLAG_BATTLESTATS unsignedLong
    city := ← readGiven row flag USERCHARACTER_FLAG_LOCATION unsignedShort
    county := ← readGiven row flag USERCHARACTER_FLAG_LOCATION unsignedShort
    neighborhood := ← readGiven row flag USERCHARACTER_FLAG_LOCATION unsignedShort
    unk200_5 := ← readGiven row flag USERCHARACTER_FLAG_LOCATION cString
    unk400 := ← readGiven row flag USERCHARACTER_FLAG_UNK400 unsignedLong
    unk800 := ← readGiven row flag USERCHARACTER_FLAG_UNK800 unsignedChar
    clanID := ← readGiven row flag USERCHARACTER_FLAG_CLAN unsignedLong
    clanMarkID := ← readGiven row flag USERCHARACTER_FLAG_CLAN unsignedLong
    clanName := ← readGiven row flag USERCHARACTER_FLAG_CLAN cString
    clanUnk4 := ← readGiven row flag USERCHARACTER_FLAG_CLAN unsignedChar
    clanUnk5 := ← readGiven row flag USERCHARACTER_FLAG_CLAN unsignedChar
    clanUnk6 := ← readGiven row flag USERCHARACTER_FLAG_CLAN unsignedChar }

-- `GetUserCharacter` of the row that is there.
def userCharacterOfRow (row : Row) (flag : UInt16) : Except RowFault UserCharacter :=
  (readUserCharacter row flag).run' 0

end Read

-- What the columns of a table row stand for, each by its name.
section Columns
variable (columns : Bytes → Option Bytes)

def columnText (name : String) : Bytes := (columns (ascii name)).getD []

def UserCharacter.ofColumns : UserCharacter :=
  let text := columnText columns
  { flag := 0
    unk1 := unsignedChar (text "unk1")
    nickName := cString (text "nickName")
    unk4_1 := cString (text "unk4_1")
    unk4_2 := unsignedChar (text "unk4_2")
    unk4_3 := unsignedChar (text "unk4_3")
    unk4_4 := unsignedChar (text "unk4_4")
    level := unsignedChar (text "level")
    unk10 := unsignedChar (text "unk10")
    exp := unsignedLongLong (text "exp")
    cash := unsignedLongLong (text "cash")
    points := unsignedLongLong (text "points")
    battles := unsignedLong (text "battles")
    wins := unsignedLong (text "wins")
    frags := unsignedLong (text "frags")
    deaths := unsignedLong (text "deaths")
    city := unsignedShort (text "city")
    county := unsignedShort (text "county")
    neighborhood := unsignedShort (text "neighborhood")
    unk200_5 := cString (text "unk200_5")
    unk400 := unsignedLong (text "unk400")
    unk800 := unsignedChar (text "unk800")
    clanID := unsignedLong (text "clanID")
    clanMarkID := unsignedLong (text "clanMarkID")
    clanName := cString (text "clanName")
    clanUnk4 := unsignedChar (text "clanUnk4")
    clanUnk5 := unsignedChar (text "clanUnk5")
    clanUnk6 := unsignedChar (text "clanUnk6") }

def userCharacterColumns : List (UInt16 × String) :=
  [(USERCHARACTER_FLAG_UNK1,"unk1"),(USERCHARACTER_FLAG_NICKNAME,"nickName"),(USERCHARACTER_FLAG_UNK4,"unk4_1"),
    (USERCHARACTER_FLAG_UNK4,"unk4_2"),(USERCHARACTER_FLAG_UNK4,"unk4_3"),(USERCHARACTER_FLAG_UNK4,"unk4_4"),
    (USERCHARACTER_FLAG_LEVEL,"level"),(USERCHARACTER_FLAG_UNK10,"unk10"),(USERCHARACTER_FLAG_EXP,"exp"),
    (USERCHARACTER_FLAG_CASH,"cash"),(USERCHARACTER_FLAG_POINTS,"points"),(USERCHARACTER_FLAG_BATTLESTATS,"battles"),
    (USERCHARACTER_FLAG_BATTLESTATS,"wins"),(USERCHARACTER_FLAG_BATTLESTATS,"frags"),
    (USERCHARACTER_FLAG_BATTLESTATS,"deaths"),(USERCHARACTER_FLAG_LOCATION,"city"),
    (USERCHARACTER_FLAG_LOCATION,"county"),(USERCHARACTER_FLAG_LOCATION,"neighborhood"),
    (USERCHARACTER_FLAG_LOCATION,"unk200_5"),(USERCHARACTER_FLAG_UNK400,"unk400"),
    (USERCHARACTER_FLAG_UNK800,"unk800"),(USERCHARACTER_FLAG_CLAN,"clanID"),(USERCHARACTER_FLAG_CLAN,"clanMarkID"),
    (USERCHARACTER_FLAG_CLAN,"clanName"),(USERCHARACTER_FLAG_CLAN,"clanUnk4"),(USERCHARACTER_FLAG_CLAN,"clanUnk5"),
    (USERCHARACTER_FLAG_CLAN,"clanUnk6")]

def selectedColumns (flag : UInt16) : List Bytes :=
  (userCharacterColumns.filter fun column => hasFlag flag column.1).map fun column => ascii column.2

-- `read` takes the columns of these names and no others, from wherever the index stands, and
-- stops at the first that is NULL.
def Takes {α : Type} (names : List Bytes) (read : Row → Fetch α) (a : α) : Prop :=
  ∀ before after : Row, read (before ++ names.map columns ++ after) before.length =
    if names.all fun name => (columns name).isSome then .ok (a,before.length + names.length) else .error .null

end Columns

section Takes
variable {columns : Bytes → Option Bytes} {α β : Type} {names more : List Bytes}

theorem takesPure (a : α) : Takes columns [] (fun _ => pure a) a := fun _ _ => rfl

theorem takesNext (name : Bytes) : Takes columns [name] nextColumn ((columns name).getD []) := by
  intro before after
  have here : (before ++ [name].map columns ++ after)[before.length]? = some (columns name) := by simp
  rw [nextColumn,here]
  cases given : columns name with
  | none => simp [given]
  | some text => simp [given]

theorem takesBind {read : Row → Fetch α} {rest : Row → α → Fetch β} {a : α} {b : β} (first : Takes columns names read a)
    (then' : Takes columns more (rest · a) b) : Takes columns (names ++ more) (fun row => read row >>= rest row) b := by
  intro before after
  have firstRead := first before (more.map columns ++ after)
  have thenRead := then' (before ++ names.map columns) after
  simp only [List.map_append,List.append_assoc,List.length_append,List.length_map] at firstRead thenRead ⊢
  simp only [bind,StateT.bind,firstRead,List.all_append]
  cases names.all fun name => (columns name).isSome with
  | false => rfl
  | true =>
    simp only [if_true,Except.bind,thenRead,Bool.true_and]
    split
    · rw [Nat.add_assoc]
    · rfl

theorem takesGiven [Inhabited α] (flag bit : UInt16) (name : String) (read : Bytes → α) :
    Takes columns (chosen (hasFlag flag bit) [ascii name]) (readGiven · flag bit read)
      (if flag &&& bit ≠ 0 then read (columnText columns name) else default) := by
  by_cases given : flag &&& bit ≠ 0
  · have has : hasFlag flag bit = true := by simpa [hasFlag] using given
    simp only [readGiven,has,if_true,if_pos given,chosen,← bind_pure_comp]
    exact takesBind (takesNext (ascii name)) (takesPure (read (columnText columns name)))
  · have has : hasFlag flag bit = false := by simpa [hasFlag] using given
    simp only [readGiven,has,if_neg given,chosen]
    exact takesPure _

-- The columns of a table in their order, those left out that are not selected.
theorem selectedCons (flag bit : UInt16) (name : String) (table : List (UInt16 × String)) :
    (((bit,name) :: table).filter fun column => hasFlag flag column.1).map (fun column => ascii column.2) =
      chosen (hasFlag flag bit) [ascii name] ++
        (table.filter fun column => hasFlag flag column.1).map fun column => ascii column.2 := by
  cases has : hasFlag flag bit <;> simp [has,chosen]

theorem readTakes (flag : UInt16) :
    Takes columns (selectedColumns flag) (readUserCharacter · flag) ((UserCharacter.ofColumns columns).select flag) := by
  rw [selectedColumns,userCharacterColumns]
  repeat
    rw [selectedCons]
    refine takesBind (takesGiven _ _ _ _) ?_
  exact takesPure _

end Takes

section SelectList
variable {flag : UInt16}

-- One item of the list, as it is appended to `info`.
def selectItem (name : Bytes) : Bytes := 32 :: name ++ [44]

def PlainName (name : Bytes) : Prop := 32 ∉ name ∧ 44 ∉ name

theorem itemName {name : Bytes} (plain : PlainName name) (tail : Bytes) (blank : ∀ b ∈ tail, b = 32) :
    (32 :: name ++ tail).filter (· ≠ 32) = name := by
  have kept : name.filter (· ≠ 32) = name := List.filter_eq_self.mpr fun b mem => by
    simpa using fun same : b = 32 => plain.1 (same ▸ mem)
  have dropped : tail.filter (· ≠ 32) = [] := List.filter_eq_nil_iff.mpr fun b mem => by simp [blank b mem]
  rw [List.filter_append,dropped,List.append_nil]
  simpa using kept

theorem itemComma {name : Bytes} (plain : PlainName name) (tail : Bytes) (blank : ∀ b ∈ tail, b = 32) :
    ∀ b ∈ 32 :: name ++ tail, (b == 44) = false := by
  intro b mem
  rcases List.mem_append.mp mem with inside | behind
  · rcases List.mem_cons.mp inside with rfl | inside
    · rfl
    · exact beq_false_of_ne fun same => plain.2 (same ▸ inside)
  · rw [blank b behind]
    rfl

theorem columnNamesItems {names : List Bytes} (plain : ∀ name ∈ names, PlainName name) (given : names ≠ []) :
    columnNames ((names.flatMap selectItem).dropLast ++ [32]) = names := by
  induction names with
  | nil => exact absurd rfl given
  | cons name names ih =>
    obtain ⟨first,others⟩ := List.forall_mem_cons.mp plain
    cases names with
    | nil =>
      have text : ([name].flatMap selectItem).dropLast ++ [32] = 32 :: name ++ [32] := by
        rw [List.flatMap_cons,List.flatMap_nil,List.append_nil,selectItem,List.dropLast_concat]
      rw [text,columnNames,List.splitOn_eq_splitOnP,List.splitOnP_eq_singleton (itemComma first [32] (by simp)),
        List.map_singleton,itemName first [32] (by simp)]
    | cons second names =>
      have more : (second :: names).flatMap selectItem ≠ [] := by simp [selectItem]
      have text : ((name :: second :: names).flatMap selectItem).dropLast ++ [32] =
          (32 :: name ++ []) ++ 44 :: (((second :: names).flatMap selectItem).dropLast ++ [32]) := by
        rw [List.flatMap_cons,List.dropLast_append_of_ne_nil more,selectItem]
        simp
      have rest := ih others (List.cons_ne_nil second names)
      rw [columnNames,List.splitOn_eq_splitOnP] at rest
      rw [text,columnNames,List.splitOn_eq_splitOnP,
        List.splitOnP_append_cons_of_forall_mem (itemComma first [] (by simp)) 44 rfl,List.map_cons,itemName first [] (by simp),rest]

theorem columnsPlain : ∀ column ∈ userCharacterColumns, PlainName (ascii column.2) := by
  unfold PlainName
  decide

theorem selectedPlain (flag : UInt16) : ∀ name ∈ selectedColumns flag, PlainName name := by
  intro name mem
  obtain ⟨column,selected,rfl⟩ := List.mem_map.mp mem
  exact columnsPlain column (List.mem_of_mem_filter selected)

theorem chosenItem (selected : Bool) (name : Bytes) :
    (chosen selected [name]).flatMap selectItem = chosen selected (selectItem name) := by
  cases selected <;> simp [chosen]

theorem selectItemsColumns (flag : UInt16) : selectItems flag = (selectedColumns flag).flatMap selectItem := by
  have unk4 : ascii " unk4_1, unk4_2, unk4_3, unk4_4," = selectItem (ascii "unk4_1") ++ (selectItem (ascii "unk4_2") ++
      (selectItem (ascii "unk4_3") ++ selectItem (ascii "unk4_4"))) := rfl
  have battleStats : ascii " battles, wins, frags, deaths," = selectItem (ascii "battles") ++ (selectItem (ascii "wins") ++
      (selectItem (ascii "frags") ++ selectItem (ascii "deaths"))) := rfl
  have location : ascii " city, county, neighborhood, unk200_5," = selectItem (ascii "city") ++ (selectItem (ascii "county") ++
      (selectItem (ascii "neighborhood") ++ selectItem (ascii "unk200_5"))) := rfl
  have clan : ascii " clanID, clanMarkID, clanName, clanUnk4, clanUnk5, clanUnk6," = selectItem (ascii "clanID") ++
      (selectItem (ascii "clanMarkID") ++ (selectItem (ascii "clanName") ++ (selectItem (ascii "clanUnk4") ++
      (selectItem (ascii "clanUnk5") ++ selectItem (ascii "clanUnk6"))))) := rfl
  rw [selectedColumns,userCharacterColumns]
  repeat rw [selectedCons,List.flatMap_append,chosenItem]
  simp only [selectItems,unk4,battleStats,location,clan,chosenAppend,List.append_assoc,List.filter_nil,List.map_nil,
    List.flatMap_nil,List.append_nil]
  rfl

theorem selectListNames (given : flag ≠ 0) (some' : selectedColumns flag ≠ []) :
    ∃ text, selectList flag = some text ∧ columnNames text = selectedColumns flag := by
  have items : selectItems flag ≠ [] := by
    rw [selectItemsColumns]
    intro empty
    exact some' (List.eq_nil_iff_forall_not_mem.mpr fun name mem => by
      simpa [selectItem] using List.flatMap_eq_nil_iff.mp empty name mem)
  refine ⟨_,by rw [selectList,if_neg given,if_neg items],?_⟩
  rw [selectItemsColumns]
  exact columnNamesItems (selectedPlain flag) some'

end SelectList

section Groups
variable {flag : UInt16} {columns : Bytes → Option Bytes}

-- What is written for each bit.
def userCharacterGroups : List (UInt16 × (UserCharacter → List Write)) :=
  [(USERCHARACTER_FLAG_UNK1,fun c => [.uint8 c.unk1]),
    (USERCHARACTER_FLAG_NICKNAME,fun c => [.string c.nickName]),
    (USERCHARACTER_FLAG_UNK4,fun c => [.string c.unk4_1,.uint8 c.unk4_2,.uint8 c.unk4_3,.uint8 c.unk4_4]),
    (USERCHARACTER_FLAG_LEVEL,fun c => [.uint8 c.level]),
    (USERCHARACTER_FLAG_UNK10,fun c => [.uint8 c.unk10]),
    (USERCHARACTER_FLAG_EXP,fun c => [.uint64 .little c.exp]),
    (USERCHARACTER_FLAG_CASH,fun c => [.uint64 .little c.cash]),
    (USERCHARACTER_FLAG_POINTS,fun c => [.uint64 .little c.points]),
    (USERCHARACTER_FLAG_BATTLESTATS,fun c => [.uint32 .little c.battles,.uint32 .little c.wins,.uint32 .little c.frags,
      .uint32 .little c.deaths]),
    (USERCHARACTER_FLAG_LOCATION,fun c => [.string [],.uint16 .little c.city,.uint16 .little c.county,
      .uint16 .little c.neighborhood,.string c.unk200_5]),
    (USERCHARACTER_FLAG_UNK400,fun c => [.uint32 .little c.unk400]),
    (USERCHARACTER_FLAG_UNK800,fun c => [.uint8 c.unk800]),
    (USERCHARACTER_FLAG_CLAN,fun c => [.uint32 .little c.clanID,.uint32 .little c.clanMarkID,.string c.clanName,
      .uint8 c.clanUnk4,.uint8 c.clanUnk5,.uint8 c.clanUnk6])]

def selectedGroups (flag : UInt16) : List (UInt16 × (UserCharacter → List Write)) :=
  userCharacterGroups.filter fun group => hasFlag flag group.1

theorem groupsAscend : (userCharacterGroups.map Prod.fst).Pairwise (· < ·) := by decide

theorem groupCons (flag bit : UInt16) (write : UserCharacter → List Write) (c : UserCharacter)
    (groups : List (UInt16 × (UserCharacter → List Write))) :
    (((bit,write) :: groups).filter fun group => hasFlag flag group.1).flatMap (fun group => group.2 c) =
      chosen (hasFlag flag bit) (write c) ++
        (groups.filter fun group => hasFlag flag group.1).flatMap fun group => group.2 c := by
  cases has : hasFlag flag bit <;> simp [has,chosen]

theorem writesSelected (c : UserCharacter) :
    c.writes.flatten = .uint16 .little c.flag :: (selectedGroups c.flag).flatMap fun group => group.2 c := by
  rw [selectedGroups,userCharacterGroups]
  repeat rw [groupCons]
  rfl

-- Every bit with a group of writes has columns.
theorem groupColumns : ∀ bit ∈ userCharacterGroups.map Prod.fst, ∃ column ∈ userCharacterColumns, column.1 = bit := by
  have all : (userCharacterGroups.map Prod.fst).all (fun bit => userCharacterColumns.any fun column => column.1 == bit) = true := rfl
  simpa using all

theorem selectedSome {bit : UInt16} (defined : bit ∈ userCharacterGroups.map Prod.fst) (has : hasFlag flag bit = true) :
    selectedColumns flag ≠ [] := by
  obtain ⟨column,mem,rfl⟩ := groupColumns bit defined
  exact List.ne_nil_of_mem (List.mem_map_of_mem (List.mem_filter.mpr ⟨mem,has⟩))

theorem rowTaken {read : Row → Fetch UserCharacter} {names : List Bytes} {c : UserCharacter}
    (taken : Takes columns names read c) (after : Row) :
    (read (names.map columns ++ after)).run' 0 = if ∀ name ∈ names, columns name ≠ none then .ok c else .error .null := by
  have whole := taken [] after
  have all : (names.all fun name => (columns name).isSome) = true ↔ ∀ name ∈ names, columns name ≠ none := by
    simp only [List.all_eq_true,Option.isSome_iff_ne_none]
  simp only [List.nil_append,List.length_nil,all] at whole
  rw [StateT.run',whole]
  split <;> rfl

-- A flag without a defined bit leaves no comma to overwrite.
def DefinedFlag (flag : UInt16) : Prop := flag = 0 ∨ ∃ bit ∈ userCharacterGroups.map Prod.fst, hasFlag flag bit = true

theorem rowRead (columns : Bytes → Option Bytes) (defined : DefinedFlag flag) :
    ∃ text, selectList flag = some text ∧ userCharacterOfRow (fetched columns text) flag =
      if ∀ name ∈ selectedColumns flag, columns name ≠ none then .ok ((UserCharacter.ofColumns columns).select flag)
      else .error .null := by
  by_cases none : flag = 0
  · subst none
    exact ⟨_,rfl,rowTaken (readTakes 0) (fetched columns (ascii " 1 "))⟩
  · obtain ⟨bit,mem,has⟩ := defined.resolve_left none
    obtain ⟨text,same,names⟩ := selectListNames none (selectedSome mem has)
    refine ⟨text,same,?_⟩
    rw [fetched,names,← List.append_nil ((selectedColumns flag).map columns)]
    exact rowTaken (readTakes flag) []

-- The typed rows of the tables are these rows with their columns converted.
theorem getUserCharacterRow {userID : UInt32} {d : Store} (runs : d.runsNext = true) (defined : DefinedFlag flag)
    (found : (DatabaseManager.answered d).database.userCharacters.lookup userID = some (UserCharacter.ofColumns columns))
    (given : ∀ name ∈ selectedColumns flag, columns name ≠ none) :
    ∃ text, selectList flag = some text ∧ userCharacterOfRow (fetched columns text) flag =
      .ok (DatabaseManager.getUserCharacter userID flag d).1.userCharacter := by
  obtain ⟨text,same,read⟩ := rowRead columns defined
  refine ⟨text,same,?_⟩
  rw [read,if_pos given]
  simp [DatabaseManager.getUserCharacter,DatabaseManager.select,bind,StateT.bind,DatabaseManager.queryRuns runs,found,DatabaseManager.pureRuns]

end Groups
end CsoMaster
