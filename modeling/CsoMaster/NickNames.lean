import CsoMaster.QueryText

/-! Which nicknames get past the checks of RecvCharacter. The rule about digits goes by two
positions and takes a name of digits alone for one with a digit before a character; the list of
prohibited names is compared as it is configured, with a name in lower case. -/
namespace CsoMaster.QueryText
open SqlText (ascii)

section Grammar
variable {α : Type} {nickName : Bytes}

-- No digit before a byte that is none.
def DigitsLast (nickName : Bytes) : Prop :=
  nickName.Pairwise fun earlier later => isDigit earlier = true → isDigit later = true

structure Grammar (nickName : Bytes) : Prop where
  least : 4 ≤ nickName.length
  most : nickName.length ≤ 16
  clean : ∀ b ∈ nickName, b ∉ INVALID_CHARS
  digits : DigitsLast nickName
  few : ∀ b, nickName.count b ≤ 3

-- Through the checks exactly by the grammar, and told of its digits only where the rule is broken.
structure GrammarChecked (nickName : Bytes) : Prop where
  through : nickNameReply [] nickName = none ↔ Grammar nickName
  told : nickNameReply [] nickName = some .ID_DIGIT_BEFORE_CHAR → ¬ DigitsLast nickName

-- The position `find_last_not_of` gives, counted from the front.
theorem lastPosition {p : α → Bool} {xs : List α} {i : Nat}
    (found : (xs.reverse.findIdx? p).map (xs.length - 1 - ·) = some i) :
    ∃ inside : i < xs.length, p (xs[i]) = true ∧ ∀ j, i < j → (more : j < xs.length) → p (xs[j]) = false := by
  obtain ⟨k,at',rfl⟩ := Option.map_eq_some_iff.mp found
  obtain ⟨bound,here,before⟩ := List.findIdx?_eq_some_iff_getElem.mp at'
  rw [List.length_reverse] at bound
  rw [List.getElem_reverse] at here
  refine ⟨by omega,here,fun j later more => ?_⟩
  have passed := before (xs.length - 1 - j) (by omega)
  rw [List.getElem_reverse] at passed
  have back : xs.length - 1 - (xs.length - 1 - j) = j := by omega
  simpa [back] using passed

theorem digitBeforeCharIff (some' : ∃ b ∈ nickName, isDigit b = false) :
    digitBeforeChar nickName = true ↔ ¬ DigitsLast nickName := by
  rw [DigitsLast,List.pairwise_iff_getElem]
  dsimp only [digitBeforeChar]
  cases first : nickName.findIdx? isDigit with
  | none =>
    have plain := List.findIdx?_eq_none_iff.mp first
    simp only [Bool.false_eq_true,false_iff,not_not]
    intro i j inside _ _ digit
    rw [plain _ (List.getElem_mem inside)] at digit
    cases digit
  | some i =>
    obtain ⟨inside,digit,before⟩ := List.findIdx?_eq_some_iff_getElem.mp first
    cases last : (nickName.reverse.findIdx? (!isDigit ·)).map (nickName.length - 1 - ·) with
    | none =>
      obtain ⟨b,mem,char⟩ := some'
      have all := List.findIdx?_eq_none_iff.mp (Option.map_eq_none_iff.mp last) b (List.mem_reverse.mpr mem)
      rw [char] at all
      cases all
    | some j =>
      obtain ⟨bound,char,after⟩ := lastPosition last
      have apart : i ≠ j := by
        rintro rfl
        rw [digit] at char
        cases char
      simp only [decide_eq_true_eq,gt_iff_lt]
      constructor
      · intro less rule
        have late := rule i j inside bound less digit
        rw [late] at char
        cases char
      · intro broken
        by_contra least
        refine broken fun k l here there less early => ?_
        -- The digit at `k` is not before the first, which is past the last of the others.
        have from' : i ≤ k := by
          by_contra low
          exact before k (by omega) early
        simpa using after l (by omega) there

theorem digitBeforeCharDigits (digits : ∀ b ∈ nickName, isDigit b = true) (given : nickName ≠ []) :
    digitBeforeChar nickName = true := by
  obtain ⟨b,rest,rfl⟩ := List.exists_cons_of_ne_nil given
  have first : (b :: rest).findIdx? isDigit = some 0 := by simp [List.findIdx?_cons,digits b]
  have none : ((b :: rest).reverse.findIdx? (!isDigit ·)) = none := by
    rw [List.findIdx?_eq_none_iff]
    intro c mem
    rw [digits c (List.mem_reverse.mp mem)]
    rfl
  dsimp only [digitBeforeChar]
  rw [first,none]
  rfl

theorem digitsLastDigits (digits : ∀ b ∈ nickName, isDigit b = true) : DigitsLast nickName := by
  rw [DigitsLast,List.pairwise_iff_getElem]
  exact fun _ j _ there _ _ => digits _ (List.getElem_mem there)

theorem digitPlain {b : UInt8} (digit : isDigit b = true) : b ∉ INVALID_CHARS := by
  have all : INVALID_CHARS.all (!isDigit ·) = true := rfl
  have each : ∀ c ∈ INVALID_CHARS, isDigit c = false := by simpa using all
  intro mem
  rw [each b mem] at digit
  cases digit

-- What passes every check but that of the prohibited names.
theorem nickNameReplyNone : nickNameReply [] nickName = none ↔ 4 ≤ nickName.length ∧ nickName.length ≤ 16 ∧
    (∀ b ∈ nickName, b ∉ INVALID_CHARS) ∧ digitBeforeChar nickName = false ∧ ∀ b ∈ nickName, nickName.count b ≤ 3 := by
  unfold nickNameReply
  simp only [NICKNAME_MIN_SIZE,NICKNAME_MAX_SIZE,NICKNAME_MAX_CHAR_COUNT,List.any_nil,Bool.false_eq_true,if_false]
  split_ifs with short long invalid digit many
  · simp only [false_iff]
    omega
  · simp only [false_iff]
    omega
  · obtain ⟨b,mem,listed⟩ := List.any_eq_true.mp invalid
    simp only [false_iff]
    exact fun passes => passes.2.2.1 b mem (by simpa using listed)
  · simp [digit]
  · obtain ⟨b,mem,more⟩ := List.any_eq_true.mp many
    simp only [false_iff]
    exact fun passes => absurd (passes.2.2.2.2 b mem) (by simpa using more)
  · simp only [List.any_eq_true,not_exists,not_and] at invalid many
    simp only [true_iff]
    exact ⟨by omega,by omega,fun b mem listed => invalid b mem (by simpa using listed),by simpa using digit,
      fun b mem => by simpa using many b mem⟩

theorem nickNameReplyDigit (told : nickNameReply [] nickName = some .ID_DIGIT_BEFORE_CHAR) :
    4 ≤ nickName.length ∧ nickName.length ≤ 16 ∧ digitBeforeChar nickName = true := by
  unfold nickNameReply at told
  split at told
  · cases told
  · rename_i least
    split at told
    · cases told
    · rename_i most
      split at told
      · cases told
      · split at told
        · rename_i digit
          exact ⟨Nat.not_lt.mp least,Nat.not_lt.mp most,digit⟩
        · split at told
          · cases told
          · cases told

theorem grammarThrough (some' : ∃ b ∈ nickName, isDigit b = false) : nickNameReply [] nickName = none ↔ Grammar nickName := by
  have rule : digitBeforeChar nickName = false ↔ DigitsLast nickName := by
    rw [← Bool.not_eq_true,digitBeforeCharIff some',not_not]
  rw [nickNameReplyNone,rule]
  constructor
  · rintro ⟨least,most,clean,digits,few⟩
    refine ⟨least,most,clean,digits,fun b => ?_⟩
    by_cases mem : b ∈ nickName
    · exact few b mem
    · rw [List.count_eq_zero_of_not_mem mem]
      omega
  · exact fun grammar => ⟨grammar.least,grammar.most,grammar.clean,grammar.digits,fun b _ => grammar.few b⟩

-- Where a name that is not too short and not too long is all digits, it is taken for one that is
-- not in the grammar.
theorem nickNameGrammar (nickName : Bytes) :
    GrammarChecked nickName ↔ nickName.length < 4 ∨ 16 < nickName.length ∨ ∃ b ∈ nickName, isDigit b = false := by
  constructor
  · intro checked
    by_contra other
    simp only [not_or,not_exists,not_and,Bool.not_eq_false] at other
    obtain ⟨least,most,digits⟩ := other
    have given : nickName ≠ [] := fun empty => by simp [empty] at least
    have told : nickNameReply [] nickName = some .ID_DIGIT_BEFORE_CHAR := by
      have clean : nickName.any INVALID_CHARS.contains = false := by
        rw [List.any_eq_false]
        exact fun b mem => by simpa using digitPlain (digits b mem)
      unfold nickNameReply
      rw [if_neg (by rw [NICKNAME_MIN_SIZE]; omega),if_neg (by rw [NICKNAME_MAX_SIZE]; omega),clean,
        if_neg Bool.false_ne_true,if_pos (digitBeforeCharDigits digits given)]
    exact checked.told told (digitsLastDigits digits)
  · intro other
    by_cases some' : ∃ b ∈ nickName, isDigit b = false
    · refine ⟨grammarThrough some',fun told => ?_⟩
      exact (digitBeforeCharIff some').mp (nickNameReplyDigit told).2.2
    · have sized : nickName.length < 4 ∨ 16 < nickName.length := by
        rcases other with short | long | char
        · exact .inl short
        · exact .inr long
        · exact absurd char some'
      refine ⟨⟨fun passes => ?_,fun grammar => ?_⟩,fun told => ?_⟩
      · obtain ⟨least,most,-⟩ := nickNameReplyNone.mp passes
        omega
      · have least := grammar.least
        have most := grammar.most
        omega
      · obtain ⟨least,most,-⟩ := nickNameReplyDigit told
        omega

-- The name 1234.
theorem digitsRefused : ¬ ∀ nickName : Bytes, 0 ∉ nickName → GrammarChecked nickName := by
  intro checked
  have told : nickNameReply [] [49,50,51,52] = some .ID_DIGIT_BEFORE_CHAR := rfl
  exact (checked [49,50,51,52] (by decide)).told told (digitsLastDigits (List.all_eq_true.mp rfl))

end Grammar

section Prohibited
variable {prohibitedNames : List Bytes} {name nickName text : Bytes}

theorem findIff : find name text = true ↔ name <:+: text := by
  induction text with
  | nil => simp [find]
  | cons b rest ih => rw [find,Bool.or_eq_true,ih,List.isPrefixOf_iff_prefix,List.infix_cons_iff]

theorem tolowerLower (b : UInt8) : 65 ≤ tolower b → ¬ tolower b ≤ 90 := by
  unfold tolower
  split <;> rename_i upper
  · simp only [Bool.and_eq_true,decide_eq_true_eq,UInt8.le_iff_toNat_le,UInt8.toNat_add,UInt8.reduceToNat] at *
    omega
  · intro least most
    exact upper (by simp [least,most])

theorem tolowerPlain {b : UInt8} (plain : ¬ (65 ≤ b ∧ b ≤ 90)) : tolower b = b := by
  unfold tolower
  rw [if_neg (by simpa using plain)]

-- Written without a capital letter.
def LowerCase (name : Bytes) : Prop := ∀ b ∈ name, ¬ (65 ≤ b ∧ b ≤ 90)

def OccursIgnoringCase (name nickName : Bytes) : Prop := name.map tolower <:+: nickName.map tolower

theorem lowerCaseSame (lower : LowerCase name) : name.map tolower = name := by
  rw [List.map_congr_left fun b mem => tolowerPlain (lower b mem),List.map_id']

-- Nothing but a name in lower case is ever found.
theorem findLowered : find name (nickName.map tolower) = true ↔ LowerCase name ∧ OccursIgnoringCase name nickName := by
  rw [findIff]
  constructor
  · intro occurs
    have lower : LowerCase name := by
      intro b mem upper
      obtain ⟨c,-,rfl⟩ := List.mem_map.mp (occurs.subset mem)
      exact tolowerLower c upper.1 upper.2
    refine ⟨lower,?_⟩
    rwa [OccursIgnoringCase,lowerCaseSame lower]
  · rintro ⟨lower,occurs⟩
    rwa [OccursIgnoringCase,lowerCaseSame lower] at occurs

theorem prohibitedReply (passes : nickNameReply [] nickName = none) :
    nickNameReply prohibitedNames nickName = some .ID_PROHIBITED ↔
      ∃ name ∈ prohibitedNames, LowerCase name ∧ OccursIgnoringCase name nickName := by
  have same : nickNameReply prohibitedNames nickName =
      if prohibitedNames.any (fun name => find name (nickName.map tolower)) then some .ID_PROHIBITED else none := by
    unfold nickNameReply at passes ⊢
    split_ifs at passes with short long invalid digit many
    rw [if_neg short,if_neg long,if_neg invalid,if_neg digit,if_neg many]
  rw [same]
  simp only [ite_eq_left_iff,reduceCtorEq,imp_false,not_not,List.any_eq_true,findLowered]

-- The names with capitals in them count for nothing: the reply is right where another name
-- on the list does their work.
theorem prohibitedNamesIgnoringCase (passes : nickNameReply [] nickName = none) :
    (nickNameReply prohibitedNames nickName = some .ID_PROHIBITED ↔ ∃ name ∈ prohibitedNames, OccursIgnoringCase name nickName) ↔
      ((∃ name ∈ prohibitedNames, OccursIgnoringCase name nickName) →
        ∃ name ∈ prohibitedNames, LowerCase name ∧ OccursIgnoringCase name nickName) := by
  rw [prohibitedReply passes]
  constructor
  · exact fun same occurs => same.mpr occurs
  · exact fun lower => ⟨fun ⟨name,listed,_,occurs⟩ => ⟨name,listed,occurs⟩,lower⟩

-- `admin` is on the list, and MyAdmin is refused.
theorem prohibitedNamesAdmin :
    (nickNameReply [ascii "admin"] (ascii "MyAdmin") = some .ID_PROHIBITED ↔
        ∃ name ∈ [ascii "admin"], OccursIgnoringCase name (ascii "MyAdmin")) ↔
      ((∃ name ∈ [ascii "admin"], OccursIgnoringCase name (ascii "MyAdmin")) →
        ∃ name ∈ [ascii "admin"], LowerCase name ∧ OccursIgnoringCase name (ascii "MyAdmin")) :=
  prohibitedNamesIgnoringCase (by decide)

-- Admin is on the list, and Admin is let through.
theorem capitalNameMissed :
    ¬ ∀ (prohibitedNames : List Bytes) (nickName : Bytes), nickNameReply [] nickName = none →
      (nickNameReply prohibitedNames nickName = some .ID_PROHIBITED ↔
        ∃ name ∈ prohibitedNames, OccursIgnoringCase name nickName) := by
  intro always
  have listed : ∃ name ∈ [ascii "Admin"], OccursIgnoringCase name (ascii "Admin") :=
    ⟨ascii "Admin",List.mem_singleton_self _,List.infix_rfl⟩
  exact absurd ((always [ascii "Admin"] (ascii "Admin") (by decide)).mpr listed) (by decide)

end Prohibited
end CsoMaster.QueryText
