import CsoMaster.StoredNumbers
import Mathlib.Data.List.TakeWhile

/-! The three ladders over the bits of a flag, on the rows that the tables can hold: the select
list, the running index of `GetUserCharacter` and the groups of `BuildUserCharacter`. They agree
on every row that can be read at all. -/
namespace CsoMaster
open SqlText (ascii decimal)
open Packet

-- A field that the flag selects has its column's value, any other its default.
def Assigned {α : Type} [Inhabited α] (flag bit : UInt16) (column : Option α) (value : α) : Prop :=
  if flag &&& bit ≠ 0 then column = some value else value = default

section Rows
variable (row : CharacterRow) (flag : UInt16)

-- Every field and the column of its name, of the signed columns their 8 bits.
structure FieldsAligned (c : UserCharacter) : Prop where
  asked : c.flag = flag
  unk1 : Assigned flag USERCHARACTER_FLAG_UNK1 row.unk1 c.unk1
  nickName : Assigned flag USERCHARACTER_FLAG_NICKNAME (some row.nickName) c.nickName
  unk4_1 : Assigned flag USERCHARACTER_FLAG_UNK4 row.unk4_1 c.unk4_1
  unk4_2 : Assigned flag USERCHARACTER_FLAG_UNK4 row.unk4_2 c.unk4_2
  unk4_3 : Assigned flag USERCHARACTER_FLAG_UNK4 row.unk4_3 c.unk4_3
  unk4_4 : Assigned flag USERCHARACTER_FLAG_UNK4 row.unk4_4 c.unk4_4
  level : Assigned flag USERCHARACTER_FLAG_LEVEL row.level c.level
  unk10 : Assigned flag USERCHARACTER_FLAG_UNK10 row.unk10 c.unk10
  exp : Assigned flag USERCHARACTER_FLAG_EXP row.exp c.exp
  cash : Assigned flag USERCHARACTER_FLAG_CASH row.cash c.cash
  points : Assigned flag USERCHARACTER_FLAG_POINTS row.points c.points
  battles : Assigned flag USERCHARACTER_FLAG_BATTLESTATS row.battles c.battles
  wins : Assigned flag USERCHARACTER_FLAG_BATTLESTATS row.wins c.wins
  frags : Assigned flag USERCHARACTER_FLAG_BATTLESTATS row.frags c.frags
  deaths : Assigned flag USERCHARACTER_FLAG_BATTLESTATS row.deaths c.deaths
  city : Assigned flag USERCHARACTER_FLAG_LOCATION row.city c.city
  county : Assigned flag USERCHARACTER_FLAG_LOCATION row.county c.county
  neighborhood : Assigned flag USERCHARACTER_FLAG_LOCATION row.neighborhood c.neighborhood
  unk200_5 : Assigned flag USERCHARACTER_FLAG_LOCATION row.unk200_5 c.unk200_5
  unk400 : Assigned flag USERCHARACTER_FLAG_UNK400 row.unk400 c.unk400
  unk800 : Assigned flag USERCHARACTER_FLAG_UNK800 row.unk800 c.unk800
  clanID : Assigned flag USERCHARACTER_FLAG_CLAN row.clanID c.clanID
  clanMarkID : Assigned flag USERCHARACTER_FLAG_CLAN row.clanMarkID c.clanMarkID
  clanName : Assigned flag USERCHARACTER_FLAG_CLAN row.clanName c.clanName
  clanUnk4 : Assigned flag USERCHARACTER_FLAG_CLAN (row.clanUnk4.map Int8.toUInt8) c.clanUnk4
  clanUnk5 : Assigned flag USERCHARACTER_FLAG_CLAN (row.clanUnk5.map Int8.toUInt8) c.clanUnk5
  clanUnk6 : Assigned flag USERCHARACTER_FLAG_CLAN (row.clanUnk6.map Int8.toUInt8) c.clanUnk6

-- The row fetched for the select list is read without a fault, and what was read is written group
-- by group.
def CharacterAligned : Prop :=
  ∃ text c, selectList flag = some text ∧ userCharacterOfRow (fetched row.columns text) flag = .ok c ∧
    FieldsAligned row flag c ∧ c.writes.flatten = .uint16 .little flag :: ((selectedGroups flag).flatMap fun group => group.2 c) ∧
      ((selectedGroups flag).map Prod.fst).Pairwise (· < ·)

-- Of the columns that the flag selects none is NULL, no string has a NUL byte, and no number is
-- past what `atoi` and `atoll` can hold.
structure CharacterReadable : Prop where
  given : ∀ name ∈ selectedColumns flag, row.columns name ≠ none
  strings : ∀ column ∈ [(USERCHARACTER_FLAG_NICKNAME,some row.nickName),(USERCHARACTER_FLAG_UNK4,row.unk4_1),
      (USERCHARACTER_FLAG_LOCATION,row.unk200_5),(USERCHARACTER_FLAG_CLAN,row.clanName)],
    flag &&& column.1 ≠ 0 → ∀ text, column.2 = some text → 0 ∉ text
  longs : ∀ column ∈ [(USERCHARACTER_FLAG_BATTLESTATS,row.battles),(USERCHARACTER_FLAG_BATTLESTATS,row.wins),
      (USERCHARACTER_FLAG_BATTLESTATS,row.frags),(USERCHARACTER_FLAG_BATTLESTATS,row.deaths),
      (USERCHARACTER_FLAG_UNK400,row.unk400),(USERCHARACTER_FLAG_CLAN,row.clanID),(USERCHARACTER_FLAG_CLAN,row.clanMarkID)],
    flag &&& column.1 ≠ 0 → ∀ n, column.2 = some n → n.toNat < 2 ^ 31
  longLongs : ∀ column ∈ [(USERCHARACTER_FLAG_EXP,row.exp),(USERCHARACTER_FLAG_CASH,row.cash),(USERCHARACTER_FLAG_POINTS,row.points)],
    flag &&& column.1 ≠ 0 → ∀ n, column.2 = some n → n.toNat < 2 ^ 63

end Rows

section Field
variable {α β : Type} {flag bit : UInt16} {column : Option α} {text : α → Bytes}

theorem assignedSplit [Inhabited β] {column : Option β} {value : β} :
    Assigned flag bit column (if flag &&& bit ≠ 0 then value else default) ↔ (flag &&& bit ≠ 0 → column = some value) := by
  unfold Assigned
  split
  · rename_i has
    exact ⟨fun same _ => same,fun same => same has⟩
  · rename_i hasNot
    exact ⟨fun _ has => absurd has hasNot,fun _ => rfl⟩

theorem assignedAny [Inhabited β] {convert : Bytes → β} {keep : α → β} (kept : ∀ n, convert (text n) = keep n)
    (given : flag &&& bit ≠ 0 → column.map text ≠ none) :
    Assigned flag bit (column.map keep) (if flag &&& bit ≠ 0 then convert ((column.map text).getD []) else default) :=
  assignedSplit.mpr fun has => loadedAny kept (given has)

theorem assignedSame [Inhabited α] {convert : Bytes → α} (kept : ∀ n, convert (text n) = n)
    (given : flag &&& bit ≠ 0 → column.map text ≠ none) :
    Assigned flag bit column (if flag &&& bit ≠ 0 then convert ((column.map text).getD []) else default) :=
  assignedSplit.mpr fun has => loadedSame kept (given has)

theorem assignedIff [Inhabited α] {convert : Bytes → α} {small : α → Prop} (kept : ∀ n, convert (text n) = n ↔ small n)
    (given : flag &&& bit ≠ 0 → column.map text ≠ none) :
    Assigned flag bit column (if flag &&& bit ≠ 0 then convert ((column.map text).getD []) else default) ↔
      (flag &&& bit ≠ 0 → ∀ n, column = some n → small n) :=
  assignedSplit.trans (forall_congr' fun has => loadedIff kept (given has))

theorem cStringWhole (text : Bytes) : cString text = text ↔ 0 ∉ text := by
  rw [cString,List.takeWhile_eq_self_iff]
  constructor
  · intro nonzero mem
    simpa using nonzero 0 mem
  · intro clean b mem
    simpa using fun zero : b = 0 => clean (zero ▸ mem)

theorem stringAssigned {column : Option Bytes} (given : flag &&& bit ≠ 0 → column ≠ none) :
    Assigned flag bit column (if flag &&& bit ≠ 0 then cString (column.getD []) else default) ↔
      (flag &&& bit ≠ 0 → ∀ text, column = some text → 0 ∉ text) := by
  refine assignedSplit.trans (forall_congr' fun has => ?_)
  cases column with
  | none => exact absurd rfl (given has)
  | some text => simpa [eq_comm] using cStringWhole text

end Field

section Aligned
variable (row : CharacterRow) {flag : UInt16}

-- A selected column is one of the table, under a bit of the flag.
theorem selectedGiven : (∀ name ∈ selectedColumns flag, row.columns name ≠ none) ↔
    ∀ column ∈ userCharacterColumns, flag &&& column.1 ≠ 0 → row.columns (ascii column.2) ≠ none := by
  simp only [selectedColumns,List.forall_mem_map,List.mem_filter,and_imp,hasFlag,bne_iff_ne]

theorem fieldsAlignedIff (given : ∀ name ∈ selectedColumns flag, row.columns name ≠ none) :
    FieldsAligned row flag ((UserCharacter.ofColumns row.columns).select flag) ↔ CharacterReadable row flag := by
  have columns := (selectedGiven row).mp given
  simp only [userCharacterColumns,List.forall_mem_cons] at columns
  obtain ⟨unk1,nickName,unk4_1,unk4_2,unk4_3,unk4_4,level,unk10,exp,cash,points,battles,wins,frags,deaths,city,county,neighborhood,
    unk200_5,unk400,unk800,clanID,clanMarkID,clanName,clanUnk4,clanUnk5,clanUnk6,-⟩ := columns
  constructor
  · intro aligned
    refine ⟨given,?_,?_,?_⟩
    · simp only [List.forall_mem_cons,List.not_mem_nil,false_implies,implies_true,and_true]
      exact ⟨(stringAssigned nickName).mp aligned.nickName,(stringAssigned unk4_1).mp aligned.unk4_1,
        (stringAssigned unk200_5).mp aligned.unk200_5,(stringAssigned clanName).mp aligned.clanName⟩
    · simp only [List.forall_mem_cons,List.not_mem_nil,false_implies,implies_true,and_true]
      exact ⟨(assignedIff unsignedLongDecimal battles).mp aligned.battles,(assignedIff unsignedLongDecimal wins).mp aligned.wins,
        (assignedIff unsignedLongDecimal frags).mp aligned.frags,(assignedIff unsignedLongDecimal deaths).mp aligned.deaths,
        (assignedIff unsignedLongDecimal unk400).mp aligned.unk400,(assignedIff unsignedLongDecimal clanID).mp aligned.clanID,
        (assignedIff unsignedLongDecimal clanMarkID).mp aligned.clanMarkID⟩
    · simp only [List.forall_mem_cons,List.not_mem_nil,false_implies,implies_true,and_true]
      exact ⟨(assignedIff unsignedLongLongDecimal exp).mp aligned.exp,(assignedIff unsignedLongLongDecimal cash).mp aligned.cash,
        (assignedIff unsignedLongLongDecimal points).mp aligned.points⟩
  · rintro ⟨-,strings,longs,longLongs⟩
    simp only [List.forall_mem_cons,List.not_mem_nil,false_implies,implies_true,and_true] at strings longs longLongs
    obtain ⟨cleanNickName,cleanUnk4_1,cleanUnk200_5,cleanClanName⟩ := strings
    obtain ⟨smallBattles,smallWins,smallFrags,smallDeaths,smallUnk400,smallClanID,smallClanMarkID⟩ := longs
    obtain ⟨smallExp,smallCash,smallPoints⟩ := longLongs
    exact {
      asked := rfl
      unk1 := assignedSame unsignedCharDecimal unk1
      nickName := (stringAssigned nickName).mpr cleanNickName
      unk4_1 := (stringAssigned unk4_1).mpr cleanUnk4_1
      unk4_2 := assignedSame unsignedCharDecimal unk4_2
      unk4_3 := assignedSame unsignedCharDecimal unk4_3
      unk4_4 := assignedSame unsignedCharDecimal unk4_4
      level := assignedSame unsignedCharDecimal level
      unk10 := assignedSame unsignedCharDecimal unk10
      exp := (assignedIff unsignedLongLongDecimal exp).mpr smallExp
      cash := (assignedIff unsignedLongLongDecimal cash).mpr smallCash
      points := (assignedIff unsignedLongLongDecimal points).mpr smallPoints
      battles := (assignedIff unsignedLongDecimal battles).mpr smallBattles
      wins := (assignedIff unsignedLongDecimal wins).mpr smallWins
      frags := (assignedIff unsignedLongDecimal frags).mpr smallFrags
      deaths := (assignedIff unsignedLongDecimal deaths).mpr smallDeaths
      city := assignedSame unsignedShortDecimal city
      county := assignedSame unsignedShortDecimal county
      neighborhood := assignedSame unsignedShortDecimal neighborhood
      unk200_5 := (stringAssigned unk200_5).mpr cleanUnk200_5
      unk400 := (assignedIff unsignedLongDecimal unk400).mpr smallUnk400
      unk800 := assignedSame unsignedCharDecimal unk800
      clanID := (assignedIff unsignedLongDecimal clanID).mpr smallClanID
      clanMarkID := (assignedIff unsignedLongDecimal clanMarkID).mpr smallClanMarkID
      clanName := (stringAssigned clanName).mpr cleanClanName
      clanUnk4 := assignedAny unsignedCharSigned clanUnk4
      clanUnk5 := assignedAny unsignedCharSigned clanUnk5
      clanUnk6 := assignedAny unsignedCharSigned clanUnk6 }

-- A flag without a defined bit leaves no comma to overwrite, and is not asked for.
theorem characterColumnsAligned (defined : flag = 0 ∨ ∃ bit ∈ userCharacterGroups.map Prod.fst, hasFlag flag bit = true) :
    CharacterAligned row flag ↔ CharacterReadable row flag := by
  obtain ⟨text,same,read⟩ := rowRead row.columns defined
  constructor
  · rintro ⟨other,c,listed,loaded,aligned,-⟩
    cases Option.some.inj (same.symm.trans listed)
    rw [read] at loaded
    split at loaded
    · rename_i given
      cases loaded
      exact (fieldsAlignedIff row given).mp aligned
    · cases loaded
  · intro readable
    have loaded := read.trans (if_pos readable.given)
    exact ⟨text,_,same,loaded,(fieldsAlignedIff row readable.given).mpr readable,writesSelected _,
      groupsAscend.sublist (List.filter_sublist.map Prod.fst)⟩

-- The level and the clan of a row with another value in every column.
def numbered : CharacterRow :=
  ⟨some 1,ascii "two",some (ascii "three"),some 4,some 5,some 6,some 7,some 8,some 9,some 10,some 11,some 12,some 13,some 14,some 15,
    some 16,some 17,some 18,some (ascii "nineteen"),some 20,some 21,some 22,some 23,some (ascii "clan"),some (-25),some 26,some 27⟩

theorem characterColumnsAlignedLevel : CharacterAligned numbered (USERCHARACTER_FLAG_LEVEL ||| USERCHARACTER_FLAG_CLAN) := by
  refine (characterColumnsAligned numbered (.inr ⟨USERCHARACTER_FLAG_LEVEL,by decide,by decide⟩)).mpr ⟨by decide,?_,?_,?_⟩
  · simp [numbered]
    decide
  · simp [numbered]
  · simp [numbered]

-- A column may be NULL unless the schema says otherwise, and the level is one that may.
theorem nullLevel : ¬ ∀ flag : UInt16, (flag = 0 ∨ ∃ bit ∈ userCharacterGroups.map Prod.fst, hasFlag flag bit = true) →
    ∀ row : CharacterRow, CharacterAligned row flag := by
  intro always
  have defined : ∃ bit ∈ userCharacterGroups.map Prod.fst, hasFlag USERCHARACTER_FLAG_LEVEL bit = true :=
    ⟨USERCHARACTER_FLAG_LEVEL,by decide,by decide⟩
  have aligned := always USERCHARACTER_FLAG_LEVEL (.inr defined) { numbered with level := none }
  obtain ⟨text,c,listed,loaded,-⟩ := aligned
  cases listed
  have null : userCharacterOfRow (fetched { numbered with level := none }.columns (ascii " level ")) USERCHARACTER_FLAG_LEVEL =
      .error .null := by decide
  cases loaded.symm.trans null

end Aligned
end CsoMaster
