import CsoMaster.CharacterColumns

/-! The rows `csodatabase.sql` permits, and which of their numbers come back as they are stored:
the text of a column goes through `atoi` or `atoll`, which stop at the signed range. -/
namespace CsoMaster
open SqlText (ascii decimal)

section Text

theorem digitByte {c : Char} (digit : c.isDigit = true) :
    (UInt8.ofNat c.toNat).toNat = c.toNat ∧ 48 ≤ c.toNat ∧ c.toNat ≤ 57 := by
  simp only [Char.isDigit,Bool.and_eq_true,decide_eq_true_eq,ge_iff_le,UInt32.le_iff_toNat_le] at digit
  have low : 48 ≤ c.toNat := digit.1
  have high : c.toNat ≤ 57 := digit.2
  exact ⟨by rw [UInt8.toNat_ofNat']; omega,low,high⟩

theorem isDigitByte {c : Char} (digit : c.isDigit = true) : QueryText.isDigit (UInt8.ofNat c.toNat) = true := by
  obtain ⟨same,low,high⟩ := digitByte digit
  simp only [QueryText.isDigit,Bool.and_eq_true,decide_eq_true_eq,UInt8.le_iff_toNat_le,same]
  exact ⟨low,high⟩

theorem digitsOfChars {chars : List Char} (all : ∀ c ∈ chars, c.isDigit = true) (n : Nat) :
    digits n (chars.map fun c => UInt8.ofNat c.toNat) = Nat.ofDigitChars 10 chars n := by
  induction chars generalizing n with
  | nil => rfl
  | cons c chars ih =>
    obtain ⟨first,others⟩ := List.forall_mem_cons.mp all
    rw [List.map_cons,digits,if_pos (isDigitByte first),ih others,Nat.ofDigitChars_cons,(digitByte first).1,Nat.mul_comm 10 n]
    rfl

theorem decimalChars (n : Nat) : ∀ c ∈ Nat.toDigits 10 n, c.isDigit = true :=
  fun _ mem => Nat.isDigit_of_mem_toDigits (by decide) (by decide) mem

theorem digitsDecimal (n : Nat) : digits 0 (decimal n) = n := by
  rw [decimal,digitsOfChars (decimalChars n),Nat.ofDigitChars_ten_toDigits]

-- The first byte of a number is neither a blank nor a sign.
theorem decimalHead (n : Nat) : ∃ b rest, decimal n = b :: rest ∧ isSpace b = false ∧ b ≠ 43 ∧ b ≠ 45 := by
  obtain ⟨c,chars,all⟩ := List.exists_cons_of_ne_nil (Nat.toDigits_ne_nil (n := n) (b := 10))
  refine ⟨UInt8.ofNat c.toNat,_,by rw [decimal,all,List.map_cons],?_⟩
  obtain ⟨same,low,high⟩ := digitByte (decimalChars n c (by rw [all]; exact List.mem_cons_self))
  simp only [isSpace,Bool.or_eq_false_iff,Bool.and_eq_false_iff,decide_eq_false_iff_not,UInt8.le_iff_toNat_le,ne_eq,
    ← UInt8.toNat_inj,same]
  refine ⟨⟨?_,.inr ?_⟩,?_,?_⟩ <;> simp <;> omega

theorem signedDecimal (n : Nat) : signed ((decimal n).dropWhile isSpace) = n := by
  obtain ⟨b,rest,text,blank,plus,minus⟩ := decimalHead n
  have same := digitsDecimal n
  rw [text] at same ⊢
  rw [List.dropWhile_cons,if_neg (by simp [blank]),← same]
  unfold signed
  split
  · rename_i first
    exact absurd (List.cons.inj first).1 minus
  · rename_i first
    exact absurd (List.cons.inj first).1 plus
  · rfl

-- What the server of the tables sends of a signed column.
def decimalInt (n : Int) : Bytes := if n < 0 then 45 :: decimal n.natAbs else decimal n.natAbs

theorem signedDecimalInt (n : Int) : signed ((decimalInt n).dropWhile isSpace) = n := by
  unfold decimalInt
  split
  · rw [List.dropWhile_cons,if_neg (by decide),signed,digitsDecimal]
    omega
  · rw [signedDecimal]
    omega

end Text

section Conversions

theorem saturateWithin {bits : Nat} {n : Int} (low : -2 ^ (bits - 1) ≤ n) (high : n < 2 ^ (bits - 1)) : saturate bits n = n := by
  rw [saturate,min_eq_right (by omega),max_eq_right low]

theorem saturateAbove {bits : Nat} {n : Int} (high : 2 ^ (bits - 1) ≤ n) : saturate bits n = 2 ^ (bits - 1) - 1 := by
  have positive : (0 : Int) < 2 ^ (bits - 1) := by positivity
  rw [saturate,min_eq_left (by omega),max_eq_right (by omega)]

theorem atoiDecimal {n : Nat} (small : n < 2 ^ 31) : atoi (decimal n) = n := by
  rw [atoi,signedDecimal]
  exact saturateWithin (by omega) (by simpa using mod_cast small)

theorem unsignedCharDecimal (n : UInt8) : unsignedChar (decimal n.toNat) = n := by
  have bound := n.toNat_lt
  rw [unsignedChar,atoiDecimal (by omega),UInt8.ofInt]
  have same : ((n.toNat : Int) % 2 ^ 8).toNat = n.toNat := by omega
  rw [same,UInt8.ofNat_toNat]

theorem unsignedShortDecimal (n : UInt16) : unsignedShort (decimal n.toNat) = n := by
  have bound := n.toNat_lt
  rw [unsignedShort,atoiDecimal (by omega),UInt16.ofInt]
  have same : ((n.toNat : Int) % 2 ^ 16).toNat = n.toNat := by omega
  rw [same,UInt16.ofNat_toNat]

-- From 2147483648 on `atoi` gives 2147483647.
theorem unsignedLongDecimal (n : UInt32) : unsignedLong (decimal n.toNat) = n ↔ n.toNat < 2 ^ 31 := by
  have bound := n.toNat_lt
  constructor
  · intro same
    by_contra large
    have saturated : atoi (decimal n.toNat) = 2 ^ 31 - 1 := by
      rw [atoi,signedDecimal]
      exact saturateAbove (by simpa using mod_cast Nat.not_lt.mp large)
    rw [unsignedLong,saturated] at same
    have number : n.toNat = 2 ^ 31 - 1 := by rw [← same]; rfl
    omega
  · intro small
    rw [unsignedLong,atoiDecimal small,UInt32.ofInt]
    have same : ((n.toNat : Int) % 2 ^ 32).toNat = n.toNat := by omega
    rw [same,UInt32.ofNat_toNat]

theorem unsignedLongLongDecimal (n : UInt64) : unsignedLongLong (decimal n.toNat) = n ↔ n.toNat < 2 ^ 63 := by
  have bound := n.toNat_lt
  constructor
  · intro same
    by_contra large
    have saturated : atoll (decimal n.toNat) = 2 ^ 63 - 1 := by
      rw [atoll,signedDecimal]
      exact saturateAbove (by simpa using mod_cast Nat.not_lt.mp large)
    rw [unsignedLongLong,saturated] at same
    have number : n.toNat = 2 ^ 63 - 1 := by rw [← same]; rfl
    omega
  · intro small
    have exact' : atoll (decimal n.toNat) = n.toNat := by
      rw [atoll,signedDecimal]
      exact saturateWithin (by omega) (by simpa using mod_cast small)
    rw [unsignedLongLong,exact',UInt64.ofInt]
    have same : ((n.toNat : Int) % 2 ^ 64).toNat = n.toNat := by omega
    rw [same,UInt64.ofNat_toNat]

theorem atoiSigned (n : Int8) : atoi (decimalInt n.toInt) = n.toInt := by
  have low := n.le_toInt
  have high := n.toInt_lt
  rw [atoi,signedDecimalInt]
  exact saturateWithin (by omega) (by omega)

-- A signed column keeps its 8 bits.
theorem unsignedCharSigned (n : Int8) : unsignedChar (decimalInt n.toInt) = n.toUInt8 := by
  rw [unsignedChar,atoiSigned]
  apply UInt8.toBitVec_inj.mp
  have back : BitVec.ofInt 8 n.toBitVec.toInt = n.toBitVec := BitVec.ofInt_toInt
  change (UInt8.ofNat (n.toBitVec.toInt % 2 ^ 8).toNat).toBitVec = n.toBitVec
  rw [← back]
  apply BitVec.eq_of_toNat_eq
  rw [BitVec.toNat_ofInt,BitVec.ofInt_toInt,UInt8.toBitVec_ofNat']
  simp only [BitVec.toNat_ofNat]
  omega

end Conversions

-- What a row of `user_characters` can hold besides its key. Only the name is never NULL.
structure CharacterRow where
  unk1 : Option UInt8
  nickName : Bytes
  unk4_1 : Option Bytes
  unk4_2 : Option UInt8
  unk4_3 : Option UInt8
  unk4_4 : Option UInt8
  level : Option UInt8
  unk10 : Option UInt8
  exp : Option UInt64
  cash : Option UInt64
  points : Option UInt64
  battles : Option UInt32
  wins : Option UInt32
  frags : Option UInt32
  deaths : Option UInt32
  city : Option UInt16
  county : Option UInt16
  neighborhood : Option UInt16
  unk200_5 : Option Bytes
  unk400 : Option UInt32
  unk800 : Option UInt8
  clanID : Option UInt32
  clanMarkID : Option UInt32
  clanName : Option Bytes
  clanUnk4 : Option Int8
  clanUnk5 : Option Int8
  clanUnk6 : Option Int8

section CharacterRow
variable (row : CharacterRow)

-- The texts its columns are sent as.
def CharacterRow.texts : List (Bytes × Option Bytes) :=
  let uint8 (n : Option UInt8) := n.map fun n => decimal n.toNat
  let uint16 (n : Option UInt16) := n.map fun n => decimal n.toNat
  let uint32 (n : Option UInt32) := n.map fun n => decimal n.toNat
  let uint64 (n : Option UInt64) := n.map fun n => decimal n.toNat
  let int8 (n : Option Int8) := n.map fun n => decimalInt n.toInt
  [(ascii "unk1",uint8 row.unk1),(ascii "nickName",some row.nickName),(ascii "unk4_1",row.unk4_1),
    (ascii "unk4_2",uint8 row.unk4_2),(ascii "unk4_3",uint8 row.unk4_3),(ascii "unk4_4",uint8 row.unk4_4),
    (ascii "level",uint8 row.level),(ascii "unk10",uint8 row.unk10),(ascii "exp",uint64 row.exp),
    (ascii "cash",uint64 row.cash),(ascii "points",uint64 row.points),(ascii "battles",uint32 row.battles),
    (ascii "wins",uint32 row.wins),(ascii "frags",uint32 row.frags),(ascii "deaths",uint32 row.deaths),
    (ascii "city",uint16 row.city),(ascii "county",uint16 row.county),(ascii "neighborhood",uint16 row.neighborhood),
    (ascii "unk200_5",row.unk200_5),(ascii "unk400",uint32 row.unk400),(ascii "unk800",uint8 row.unk800),
    (ascii "clanID",uint32 row.clanID),(ascii "clanMarkID",uint32 row.clanMarkID),(ascii "clanName",row.clanName),
    (ascii "clanUnk4",int8 row.clanUnk4),(ascii "clanUnk5",int8 row.clanUnk5),(ascii "clanUnk6",int8 row.clanUnk6)]

def CharacterRow.columns (name : Bytes) : Option Bytes := (row.texts.lookup name).join

-- Every number as it is stored, of the signed columns their 8 bits.
structure CharacterExact (c : UserCharacter) : Prop where
  unk1 : row.unk1 = some c.unk1
  unk4_2 : row.unk4_2 = some c.unk4_2
  unk4_3 : row.unk4_3 = some c.unk4_3
  unk4_4 : row.unk4_4 = some c.unk4_4
  level : row.level = some c.level
  unk10 : row.unk10 = some c.unk10
  exp : row.exp = some c.exp
  cash : row.cash = some c.cash
  points : row.points = some c.points
  battles : row.battles = some c.battles
  wins : row.wins = some c.wins
  frags : row.frags = some c.frags
  deaths : row.deaths = some c.deaths
  city : row.city = some c.city
  county : row.county = some c.county
  neighborhood : row.neighborhood = some c.neighborhood
  unk400 : row.unk400 = some c.unk400
  unk800 : row.unk800 = some c.unk800
  clanID : row.clanID = some c.clanID
  clanMarkID : row.clanMarkID = some c.clanMarkID
  clanUnk4 : row.clanUnk4.map Int8.toUInt8 = some c.clanUnk4
  clanUnk5 : row.clanUnk5.map Int8.toUInt8 = some c.clanUnk5
  clanUnk6 : row.clanUnk6.map Int8.toUInt8 = some c.clanUnk6

-- The row is fetched, and read without a fault.
def CharacterLoaded : Prop :=
  ∃ text c, selectList USERCHARACTER_FLAG_ALL = some text ∧
    userCharacterOfRow (fetched row.columns text) USERCHARACTER_FLAG_ALL = .ok c ∧ CharacterExact row c

structure CharacterLoadable : Prop where
  given : ∀ column ∈ row.texts, column.2 ≠ none
  longs : ∀ number ∈ [row.battles,row.wins,row.frags,row.deaths,row.unk400,row.clanID,row.clanMarkID],
    ∀ n, number = some n → n.toNat < 2 ^ 31
  longLongs : ∀ number ∈ [row.exp,row.cash,row.points], ∀ n, number = some n → n.toNat < 2 ^ 63

theorem lookupMem {α β : Type} [BEq α] [LawfulBEq α] {table : List (α × β)} (distinct : (table.map Prod.fst).Nodup)
    {name : α} {value : β} (mem : (name,value) ∈ table) : table.lookup name = some value := by
  induction table with
  | nil => cases mem
  | cons first table ih =>
    obtain ⟨key,entry⟩ := first
    rw [List.map_cons,List.nodup_cons] at distinct
    rw [List.lookup_cons]
    rcases List.mem_cons.mp mem with same | later
    · obtain ⟨rfl,rfl⟩ := Prod.mk.inj same
      rw [beq_self_eq_true]
    · have other : (name == key) = false := beq_false_of_ne fun same =>
        distinct.1 (same ▸ List.mem_map.mpr ⟨(name,value),later,rfl⟩)
      rw [other]
      exact ih distinct.2 later

theorem columnNamesNodup : (userCharacterColumns.map fun column => ascii column.2).Nodup := by decide

theorem selectedAll : selectedColumns USERCHARACTER_FLAG_ALL = userCharacterColumns.map fun column => ascii column.2 := by
  rw [selectedColumns,List.filter_eq_self.mpr (by decide)]

theorem textNames : row.texts.map Prod.fst = userCharacterColumns.map fun column => ascii column.2 := rfl

theorem givenAll : (∀ name ∈ selectedColumns USERCHARACTER_FLAG_ALL, row.columns name ≠ none) ↔
    ∀ column ∈ row.texts, column.2 ≠ none := by
  have distinct : (row.texts.map Prod.fst).Nodup := by
    rw [textNames]
    exact columnNamesNodup
  have found {column : Bytes × Option Bytes} (mem : column ∈ row.texts) : row.columns column.1 = column.2 := by
    rw [CharacterRow.columns,lookupMem distinct mem]
    rfl
  rw [selectedAll,← textNames row]
  constructor
  · intro given column mem
    rw [← found mem]
    exact given column.1 (List.mem_map_of_mem mem)
  · intro given name mem
    obtain ⟨column,listed,rfl⟩ := List.mem_map.mp mem
    rw [found listed]
    exact given column listed

section Field
variable {α β : Type} {column : Option α} {text : α → Bytes} {convert : Bytes → β}

-- A column whose every number comes back, as `keep` has it.
theorem loadedAny {keep : α → β} (kept : ∀ n, convert (text n) = keep n) (given : column.map text ≠ none) :
    column.map keep = some (convert ((column.map text).getD [])) := by
  cases column with
  | none => exact absurd rfl given
  | some n => simp [kept]

theorem loadedSame {convert : Bytes → α} (kept : ∀ n, convert (text n) = n) (given : column.map text ≠ none) :
    column = some (convert ((column.map text).getD [])) := by
  simpa using loadedAny kept given

theorem loadedIff {convert : Bytes → α} {small : α → Prop} (kept : ∀ n, convert (text n) = n ↔ small n)
    (given : column.map text ≠ none) :
    column = some (convert ((column.map text).getD [])) ↔ ∀ n, column = some n → small n := by
  cases column with
  | none => exact absurd rfl given
  | some n => simpa [eq_comm] using kept n

end Field

theorem characterLoadedRead : CharacterLoaded row ↔
    (∀ column ∈ row.texts, column.2 ≠ none) ∧
      CharacterExact row ((UserCharacter.ofColumns row.columns).select USERCHARACTER_FLAG_ALL) := by
  have defined : DefinedFlag USERCHARACTER_FLAG_ALL := .inr ⟨USERCHARACTER_FLAG_UNK1,by decide,by decide⟩
  obtain ⟨text,same,read⟩ := rowRead row.columns defined
  rw [← givenAll]
  constructor
  · rintro ⟨other,c,listed,loaded,exact'⟩
    cases Option.some.inj (same.symm.trans listed)
    rw [read] at loaded
    split at loaded
    · rename_i given
      cases loaded
      exact ⟨given,exact'⟩
    · cases loaded
  · rintro ⟨given,exact'⟩
    exact ⟨text,_,same,by rw [read,if_pos given],exact'⟩

theorem characterExactIff (given : ∀ column ∈ row.texts, column.2 ≠ none) :
    CharacterExact row ((UserCharacter.ofColumns row.columns).select USERCHARACTER_FLAG_ALL) ↔
      (∀ number ∈ [row.battles,row.wins,row.frags,row.deaths,row.unk400,row.clanID,row.clanMarkID],
        ∀ n, number = some n → n.toNat < 2 ^ 31) ∧
      ∀ number ∈ [row.exp,row.cash,row.points], ∀ n, number = some n → n.toNat < 2 ^ 63 := by
  simp only [CharacterRow.texts,List.forall_mem_cons] at given
  obtain ⟨unk1,-,unk4_1,unk4_2,unk4_3,unk4_4,level,unk10,exp,cash,points,battles,wins,frags,deaths,city,county,neighborhood,
    unk200_5,unk400,unk800,clanID,clanMarkID,clanName,clanUnk4,clanUnk5,clanUnk6,-⟩ := given
  simp only [List.forall_mem_cons,List.not_mem_nil,false_implies,implies_true,and_true]
  constructor
  · intro loaded
    refine ⟨⟨(loadedIff unsignedLongDecimal battles).mp loaded.battles,(loadedIff unsignedLongDecimal wins).mp loaded.wins,
      (loadedIff unsignedLongDecimal frags).mp loaded.frags,(loadedIff unsignedLongDecimal deaths).mp loaded.deaths,
      (loadedIff unsignedLongDecimal unk400).mp loaded.unk400,(loadedIff unsignedLongDecimal clanID).mp loaded.clanID,
      (loadedIff unsignedLongDecimal clanMarkID).mp loaded.clanMarkID⟩,?_⟩
    exact ⟨(loadedIff unsignedLongLongDecimal exp).mp loaded.exp,(loadedIff unsignedLongLongDecimal cash).mp loaded.cash,
      (loadedIff unsignedLongLongDecimal points).mp loaded.points⟩
  · rintro ⟨⟨smallBattles,smallWins,smallFrags,smallDeaths,smallUnk400,smallClanID,smallClanMarkID⟩,smallExp,smallCash,smallPoints⟩
    exact {
      unk1 := loadedSame unsignedCharDecimal unk1
      unk4_2 := loadedSame unsignedCharDecimal unk4_2
      unk4_3 := loadedSame unsignedCharDecimal unk4_3
      unk4_4 := loadedSame unsignedCharDecimal unk4_4
      level := loadedSame unsignedCharDecimal level
      unk10 := loadedSame unsignedCharDecimal unk10
      exp := (loadedIff unsignedLongLongDecimal exp).mpr smallExp
      cash := (loadedIff unsignedLongLongDecimal cash).mpr smallCash
      points := (loadedIff unsignedLongLongDecimal points).mpr smallPoints
      battles := (loadedIff unsignedLongDecimal battles).mpr smallBattles
      wins := (loadedIff unsignedLongDecimal wins).mpr smallWins
      frags := (loadedIff unsignedLongDecimal frags).mpr smallFrags
      deaths := (loadedIff unsignedLongDecimal deaths).mpr smallDeaths
      city := loadedSame unsignedShortDecimal city
      county := loadedSame unsignedShortDecimal county
      neighborhood := loadedSame unsignedShortDecimal neighborhood
      unk400 := (loadedIff unsignedLongDecimal unk400).mpr smallUnk400
      unk800 := loadedSame unsignedCharDecimal unk800
      clanID := (loadedIff unsignedLongDecimal clanID).mpr smallClanID
      clanMarkID := (loadedIff unsignedLongDecimal clanMarkID).mpr smallClanMarkID
      clanUnk4 := loadedAny unsignedCharSigned clanUnk4
      clanUnk5 := loadedAny unsignedCharSigned clanUnk5
      clanUnk6 := loadedAny unsignedCharSigned clanUnk6 }

end CharacterRow

section Inventory

-- A row of `user_inventory` besides its keys. BOOL is a signed TINYINT.
structure InventoryRow where
  slotID : UInt8
  itemID : UInt8
  count : UInt8
  inUse : Option Int8
  obtainTime : Option UInt32
  expirationTime : Option UInt32

-- The row fetched for `slotID, itemID, count, inUse, obtainTime, expirationTime`.
def InventoryRow.fetched (row : InventoryRow) : Row :=
  [some (decimal row.slotID.toNat),some (decimal row.itemID.toNat),some (decimal row.count.toNat),
    row.inUse.map fun n => decimalInt n.toInt,row.obtainTime.map fun n => decimal n.toNat,
    row.expirationTime.map fun n => decimal n.toNat]

-- `row[index]`, handed to `atoi`.
def columnAt (row : Row) (index : Nat) : Except RowFault Bytes :=
  match row[index]? with
  | none => .error .outside
  | some none => .error .null
  | some (some text) => .ok text

def inventoryItemOfRow (row : Row) : Except RowFault InventoryItem := do
  return {
    slotID := unsignedChar (← columnAt row 0)
    itemID := unsignedChar (← columnAt row 1)
    count := unsignedChar (← columnAt row 2)
    inUse := atoi (← columnAt row 3) ≠ 0
    obtainTime := unsignedLong (← columnAt row 4)
    expirationTime := unsignedLong (← columnAt row 5) }

-- `GetUserInventory` of the rows that are there.
def userInventoryOfRows (rows : List Row) : Except RowFault (List InventoryItem) := rows.mapM inventoryItemOfRow

structure ItemExact (row : InventoryRow) (item : InventoryItem) : Prop where
  slotID : row.slotID = item.slotID
  itemID : row.itemID = item.itemID
  count : row.count = item.count
  inUse : row.inUse.map (fun n => decide (n ≠ 0)) = some item.inUse
  obtainTime : row.obtainTime = some item.obtainTime
  expirationTime : row.expirationTime = some item.expirationTime

def InventoryLoaded (rows : List InventoryRow) : Prop :=
  ∃ items, userInventoryOfRows (rows.map InventoryRow.fetched) = .ok items ∧ List.Forall₂ ItemExact rows items

structure ItemLoadable (row : InventoryRow) : Prop where
  inUse : row.inUse ≠ none
  obtainTime : ∃ n, row.obtainTime = some n ∧ n.toNat < 2 ^ 31
  expirationTime : ∃ n, row.expirationTime = some n ∧ n.toNat < 2 ^ 31

theorem itemNull {row : InventoryRow} (null : row.inUse = none ∨ row.obtainTime = none ∨ row.expirationTime = none) :
    inventoryItemOfRow row.fetched = .error .null := by
  obtain ⟨slotID,itemID,count,inUse,obtainTime,expirationTime⟩ := row
  cases inUse with
  | none => rfl
  | some inUse =>
    cases obtainTime with
    | none => rfl
    | some obtainTime =>
      cases expirationTime with
      | none => rfl
      | some expirationTime => simp at null

theorem itemGiven (slotID itemID count : UInt8) (inUse : Int8) (obtainTime expirationTime : UInt32) :
    inventoryItemOfRow (InventoryRow.fetched ⟨slotID,itemID,count,some inUse,some obtainTime,some expirationTime⟩) =
      .ok ⟨slotID,itemID,count,inUse ≠ 0,unsignedLong (decimal obtainTime.toNat),unsignedLong (decimal expirationTime.toNat)⟩ := by
  have used : decide (atoi (decimalInt inUse.toInt) ≠ 0) = decide (inUse ≠ 0) := by
    rw [atoiSigned,decide_eq_decide,ne_eq,ne_eq,not_iff_not,← Int8.toInt_inj]
    rfl
  have read : inventoryItemOfRow (InventoryRow.fetched ⟨slotID,itemID,count,some inUse,some obtainTime,some expirationTime⟩) =
      .ok ⟨unsignedChar (decimal slotID.toNat),unsignedChar (decimal itemID.toNat),unsignedChar (decimal count.toNat),
        decide (atoi (decimalInt inUse.toInt) ≠ 0),unsignedLong (decimal obtainTime.toNat),
        unsignedLong (decimal expirationTime.toNat)⟩ := rfl
  rw [read,used,unsignedCharDecimal,unsignedCharDecimal,unsignedCharDecimal]

theorem itemLoaded (row : InventoryRow) : (∃ item, inventoryItemOfRow row.fetched = .ok item ∧ ItemExact row item) ↔ ItemLoadable row := by
  by_cases null : row.inUse = none ∨ row.obtainTime = none ∨ row.expirationTime = none
  · rw [itemNull null]
    constructor
    · rintro ⟨item,loaded,-⟩
      cases loaded
    · rintro ⟨inUse,⟨obtained,obtainTime,-⟩,⟨expires,expirationTime,-⟩⟩
      simp [inUse,obtainTime,expirationTime] at null
  · obtain ⟨slotID,itemID,count,inUse,obtainTime,expirationTime⟩ := row
    simp only [not_or,← ne_eq,Option.ne_none_iff_exists'] at null
    obtain ⟨⟨inUse,rfl⟩,⟨obtainTime,rfl⟩,⟨expirationTime,rfl⟩⟩ := null
    rw [itemGiven]
    constructor
    · rintro ⟨item,loaded,exact'⟩
      cases loaded
      exact ⟨by simp,⟨obtainTime,rfl,(unsignedLongDecimal obtainTime).mp (Option.some.inj exact'.obtainTime).symm⟩,
        ⟨expirationTime,rfl,(unsignedLongDecimal expirationTime).mp (Option.some.inj exact'.expirationTime).symm⟩⟩
    · rintro ⟨-,⟨obtained,same,smallObtain⟩,⟨expires,same',smallExpire⟩⟩
      cases same
      cases same'
      exact ⟨_,rfl,rfl,rfl,rfl,rfl,by rw [(unsignedLongDecimal _).mpr smallObtain],by rw [(unsignedLongDecimal _).mpr smallExpire]⟩

theorem inventoryLoadedCons (row : InventoryRow) (rows : List InventoryRow) :
    InventoryLoaded (row :: rows) ↔
      (∃ item, inventoryItemOfRow row.fetched = .ok item ∧ ItemExact row item) ∧ InventoryLoaded rows := by
  simp only [InventoryLoaded,userInventoryOfRows,List.map_cons,List.mapM_cons]
  constructor
  · rintro ⟨items,loaded,exact'⟩
    cases first : inventoryItemOfRow row.fetched with
    | error fault => simp [first,bind,Except.bind] at loaded
    | ok item =>
      cases others : (rows.map InventoryRow.fetched).mapM inventoryItemOfRow with
      | error fault => simp [first,others,bind,Except.bind] at loaded
      | ok rest =>
        simp only [first,others,bind,Except.bind,pure,Except.pure,Except.ok.injEq] at loaded
        subst loaded
        obtain ⟨head,tail⟩ := List.forall₂_cons.mp exact'
        exact ⟨⟨item,rfl,head⟩,rest,rfl,tail⟩
  · rintro ⟨⟨item,first,head⟩,rest,others,tail⟩
    exact ⟨item :: rest,by simp [first,others,bind,Except.bind,pure,Except.pure],.cons head tail⟩

theorem inventoryLoaded (rows : List InventoryRow) : InventoryLoaded rows ↔ ∀ row ∈ rows, ItemLoadable row := by
  induction rows with
  | nil => exact ⟨fun _ _ mem => (List.not_mem_nil mem).elim,fun _ => ⟨[],rfl,.nil⟩⟩
  | cons row rows ih => rw [inventoryLoadedCons,itemLoaded,ih,List.forall_mem_cons]

end Inventory

section Stored
variable (row : CharacterRow)

theorem characterLoaded : CharacterLoaded row ↔ CharacterLoadable row := by
  rw [characterLoadedRead]
  constructor
  · rintro ⟨given,exact'⟩
    obtain ⟨longs,longLongs⟩ := (characterExactIff row given).mp exact'
    exact ⟨given,longs,longLongs⟩
  · rintro ⟨given,longs,longLongs⟩
    exact ⟨given,(characterExactIff row given).mpr ⟨longs,longLongs⟩⟩

-- Nothing NULL, and nothing past what `atoi` and `atoll` can hold.
theorem storedNumbersExact (row : CharacterRow) (rows : List InventoryRow) :
    (CharacterLoaded row ↔ CharacterLoadable row) ∧ (InventoryLoaded rows ↔ ∀ item ∈ rows, ItemLoadable item) :=
  ⟨characterLoaded row,inventoryLoaded rows⟩

-- 4294967295 battles.
def veteran : CharacterRow :=
  ⟨some 0,ascii "veteran",some [],some 0,some 0,some 0,some 1,some 0,some 0,some 0,some 0,some 4294967295,some 0,some 0,some 0,
    some 0,some 0,some 0,some [],some 0,some 0,some 0,some 0,some [],some 0,some 0,some 0⟩

theorem battlesSaturate : ¬ ∀ (row : CharacterRow) (rows : List InventoryRow), CharacterLoaded row ∧ InventoryLoaded rows := by
  intro always
  have loadable := (characterLoaded veteran).mp (always veteran []).1
  have small := loadable.longs (some 4294967295) (by simp [veteran]) 4294967295 rfl
  exact absurd small (by decide)

end Stored
end CsoMaster
