import CsoMaster.ByteOrder

/-! Query text as a server that takes backslash escapes reads it: bytes outside string
literals stay bytes, a literal is one token with its decoded value. A literal is closed
by the quote it was opened with, a doubled quote is the quote itself. -/
namespace CsoMaster.SqlText

def ascii (s : String) : Bytes := s.toList.map fun c => UInt8.ofNat c.toNat
def decimal (n : Nat) : Bytes := (Nat.toDigits 10 n).map fun c => UInt8.ofNat c.toNat

def QUOTE : UInt8 := 39
def DOUBLE_QUOTE : UInt8 := 34
def BACKSLASH : UInt8 := 92

def isQuote (b : UInt8) : Bool := b == QUOTE || b == DOUBLE_QUOTE

-- What a backslash and this byte stand for. The two pattern escapes keep the backslash.
def unescape (c : UInt8) : Bytes :=
  if c = 48 then [0]
  else if c = 98 then [8]
  else if c = 110 then [10]
  else if c = 114 then [13]
  else if c = 116 then [9]
  else if c = 90 then [26]
  else if c = 37 ∨ c = 95 then [BACKSLASH,c]
  else [c]

inductive Token where
  | byte (b : UInt8)
  | literal (value : Bytes)
  deriving DecidableEq, Repr

inductive Mode where
  | outside
  | inside (quote : UInt8) (value : Bytes)
  | escaped (quote : UInt8) (value : Bytes)
  | closing (quote : UInt8) (value : Bytes)
  deriving DecidableEq, Repr

-- An unterminated literal is no statement at all.
def lex : Mode → Bytes → Option (List Token)
  | .outside, [] => some []
  | .inside _ _, [] => none
  | .escaped _ _, [] => none
  | .closing _ value, [] => some [.literal value]
  | .outside, b :: rest =>
    if isQuote b then lex (.inside b []) rest else (lex .outside rest).map (.byte b :: ·)
  | .inside quote value, b :: rest =>
    if b = BACKSLASH then lex (.escaped quote value) rest
    else if b = quote then lex (.closing quote value) rest
    else lex (.inside quote (value ++ [b])) rest
  | .escaped quote value, b :: rest => lex (.inside quote (value ++ unescape b)) rest
  | .closing quote value, b :: rest =>
    if b = quote then lex (.inside quote (value ++ [quote])) rest
    else if isQuote b then (lex (.inside b []) rest).map (.literal value :: ·)
    else (lex .outside rest).map (fun tokens => .literal value :: .byte b :: tokens)

attribute [local simp] lex

def plain (bytes : Bytes) : List Token := bytes.map .byte

def Plain (bytes : Bytes) : Prop := ∀ b ∈ bytes, isQuote b = false

instance (bytes : Bytes) : Decidable (Plain bytes) := List.decidableBAll (isQuote · = false) bytes

-- `raw` between quotes is consumed whole and stands for `value`.
inductive Spells (quote : UInt8) : Bytes → Bytes → Prop where
  | nil : Spells quote [] []
  | byte {b raw value} (ordinary : b ≠ BACKSLASH) (open' : b ≠ quote) (rest : Spells quote raw value) :
      Spells quote (b :: raw) (b :: value)
  | escape {raw value} (c) (rest : Spells quote raw value) :
      Spells quote (BACKSLASH :: c :: raw) (unescape c ++ value)
  | doubled {raw value} (rest : Spells quote raw value) : Spells quote (quote :: quote :: raw) (quote :: value)

-- No quote, and every backslash is followed by one of the two pattern characters.
def verbatim (quote : UInt8) : Bytes → Bool
  | [] => true
  | [b] => b != quote && b != BACKSLASH
  | b :: c :: rest => b != quote && (b != BACKSLASH || c == 37 || c == 95) && verbatim quote (c :: rest)

theorem plainAppend (left right : Bytes) : Plain (left ++ right) ↔ Plain left ∧ Plain right := by
  simp only [Plain,List.mem_append,or_imp,forall_and]

theorem decimalPlain (n : Nat) : Plain (decimal n) := by
  intro b member
  obtain ⟨c,digit,rfl⟩ := List.mem_map.mp member
  have isDigit := Nat.isDigit_of_mem_toDigits (by decide) (by decide) digit
  simp only [Char.isDigit,Bool.and_eq_true,decide_eq_true_eq,ge_iff_le,UInt32.le_iff_toNat_le] at isDigit
  have low : 48 ≤ c.toNat := isDigit.1
  have high : c.toNat ≤ 57 := isDigit.2
  have same : (UInt8.ofNat c.toNat).toNat = c.toNat := by
    rw [UInt8.toNat_ofNat']; omega
  simp only [isQuote,Bool.or_eq_false_iff,beq_eq_false_iff_ne,ne_eq,← UInt8.toNat_inj,same]
  exact ⟨by change ¬ c.toNat = 39; omega,by change ¬ c.toNat = 34; omega⟩

theorem lexPlain {bytes : Bytes} (plainBytes : Plain bytes) (rest : Bytes) :
    lex .outside (bytes ++ rest) = (lex .outside rest).map (plain bytes ++ ·) := by
  induction bytes with
  | nil => simp [plain]
  | cons b more ih =>
    have first : isQuote b = false := plainBytes b (by simp)
    have tail := ih fun c member => plainBytes c (by simp [member])
    simp only [List.cons_append,lex,first,Bool.false_eq_true,if_false,tail,Option.map_map]
    rfl

theorem lexPlainEnd {bytes : Bytes} (plainBytes : Plain bytes) : lex .outside bytes = some (plain bytes) := by
  have whole := lexPlain plainBytes []
  simpa [lex] using whole

theorem lexSpells {quote raw value} (spells : Spells quote raw value) (nonslash : quote ≠ BACKSLASH)
    (before rest : Bytes) :
    lex (.inside quote before) (raw ++ rest) = lex (.inside quote (before ++ value)) rest := by
  induction spells generalizing before with
  | nil => simp
  | @byte b raw value ordinary open' _ ih =>
    simp only [List.cons_append,lex,ordinary,open',if_false,ih,List.append_assoc,List.nil_append]
  | escape c _ ih => simp only [List.cons_append,lex,if_true,ih,List.append_assoc]
  | doubled _ ih =>
    simp only [List.cons_append,lex,nonslash,if_false,if_true,ih,List.append_assoc,List.nil_append]

-- The closing quote and what follows it.
theorem lexClose {quote : UInt8} (nonslash : quote ≠ BACKSLASH) {after : Bytes} (plainAfter : Plain after)
    (isOpen : isQuote quote = true) (value : Bytes) :
    lex (.inside quote value) (quote :: after) = some (.literal value :: plain after) := by
  cases after with
  | nil => simp [lex,nonslash,plain]
  | cons b rest =>
    have first : isQuote b = false := plainAfter b (by simp)
    have tail := @lexPlainEnd rest fun c member => plainAfter c (by simp [member])
    have differs : b ≠ quote := by
      intro same
      rw [same,isOpen] at first
      cases first
    simp [lex,nonslash,differs,first,tail,plain]

/-! One byte or pair of bytes inside a literal. -/

section Inside
variable {quote : UInt8} {before : Bytes}

theorem lexByte {b : UInt8} (ordinary : b ≠ BACKSLASH) (differs : b ≠ quote) (rest : Bytes) :
    lex (.inside quote before) (b :: rest) = lex (.inside quote (before ++ [b])) rest := by
  simp only [lex,ordinary,differs,if_false]

theorem lexEscape (c : UInt8) (rest : Bytes) :
    lex (.inside quote before) (BACKSLASH :: c :: rest) = lex (.inside quote (before ++ unescape c)) rest := by
  simp only [lex,if_true]

theorem lexDoubled (nonslash : quote ≠ BACKSLASH) (rest : Bytes) :
    lex (.inside quote before) (quote :: quote :: rest) = lex (.inside quote (before ++ [quote])) rest := by
  simp only [lex,nonslash,if_false,if_true]

theorem lexEarly (nonslash : quote ≠ BACKSLASH) {c : UInt8} (differs : c ≠ quote) {rest : Bytes} {tokens}
    (read : lex (.inside quote before) (quote :: c :: rest) = some tokens) :
    tokens.head? = some (.literal before) := by
  simp only [lex,nonslash,differs,if_false,if_true] at read
  split_ifs at read <;> obtain ⟨more,-,rfl⟩ := Option.map_eq_some_iff.mp read <;> rfl

theorem lexUnclosed {after : Bytes} (without : quote ∉ after) :
    lex (.inside quote before) after = none ∧ lex (.escaped quote before) after = none := by
  induction after generalizing before with
  | nil => exact ⟨rfl,rfl⟩
  | cons b rest ih =>
    simp only [List.mem_cons,not_or] at without
    obtain ⟨differs,tail⟩ := without
    constructor
    · simp only [lex,Ne.symm differs,if_false,(ih tail).1,(ih tail).2,ite_self]
    · simp only [lex,(ih tail).1]

theorem unescapeLength (c : UInt8) : (unescape c).length ≤ 2 := by
  unfold unescape
  split_ifs <;> simp

theorem unescapePattern (c : UInt8) :
    ((c = 37 ∨ c = 95) ∧ unescape c = [BACKSLASH,c]) ∨ (¬ (c = 37 ∨ c = 95) ∧ (unescape c).length = 1) := by
  by_cases pattern : c = 37 ∨ c = 95
  · refine .inl ⟨pattern,?_⟩
    rcases pattern with rfl | rfl <;> rfl
  · refine .inr ⟨pattern,?_⟩
    unfold unescape
    rw [if_neg pattern]
    split_ifs <;> rfl

end Inside

theorem quoteNotAfter {quote : UInt8} (isOpen : isQuote quote = true) {after : Bytes} (plainAfter : Plain after) :
    quote ∉ after := by
  intro member
  have closed := plainAfter quote member
  rw [isOpen] at closed
  cases closed

theorem quoteNotSlash {quote : UInt8} (isOpen : isQuote quote = true) : quote ≠ BACKSLASH := by
  rintro rfl
  cases isOpen

-- A last byte that escapes the closing quote, or doubles it, leaves the literal open.
theorem lexLast {quote : UInt8} (isOpen : isQuote quote = true) {after before : Bytes} (plainAfter : Plain after) {b : UInt8}
    {tokens : List Token} (read : lex (.inside quote before) (b :: quote :: after) = some tokens) : b ≠ BACKSLASH ∧ b ≠ quote := by
  have open' := quoteNotAfter isOpen plainAfter
  constructor
  · rintro rfl
    rw [lexEscape,(lexUnclosed open').1] at read
    cases read
  · rintro rfl
    rw [lexDoubled (quoteNotSlash isOpen),(lexUnclosed open').1] at read
    cases read

-- Decoding never lengthens: no literal opened in front of `raw` outgrows it.
theorem literalBound {quote : UInt8} (isOpen : isQuote quote = true) {after : Bytes} (plainAfter : Plain after) :
    ∀ (raw before value : Bytes) (tokens : List Token),
      lex (.inside quote before) (raw ++ quote :: after) = some (.literal value :: tokens) →
      value.length ≤ before.length + raw.length
  | [], before, value, tokens, read => by
    rw [List.nil_append,lexClose (quoteNotSlash isOpen) plainAfter isOpen] at read
    simp only [Option.some.injEq,List.cons.injEq,Token.literal.injEq] at read
    rw [← read.1]; simp
  | [b], before, value, tokens, read => by
    simp only [List.singleton_append] at read
    obtain ⟨slash,same⟩ := lexLast isOpen plainAfter read
    rw [lexByte slash same,lexClose (quoteNotSlash isOpen) plainAfter isOpen] at read
    simp only [Option.some.injEq,List.cons.injEq,Token.literal.injEq] at read
    rw [← read.1]; simp
  | b :: c :: rest, before, value, tokens, read => by
    simp only [List.cons_append] at read
    by_cases slash : b = BACKSLASH
    · rw [slash,lexEscape] at read
      have shorter := literalBound isOpen plainAfter rest _ _ _ read
      have pair := unescapeLength c
      simp only [List.length_append,List.length_cons] at shorter ⊢
      omega
    by_cases same : b = quote
    · by_cases again : c = quote
      · rw [same,again,lexDoubled (quoteNotSlash isOpen)] at read
        have shorter := literalBound isOpen plainAfter rest _ _ _ read
        simp only [List.length_append,List.length_cons,List.length_nil] at shorter ⊢
        omega
      · rw [same] at read
        have early := lexEarly (quoteNotSlash isOpen) again read
        simp only [List.head?_cons,Option.some.injEq,Token.literal.injEq] at early
        rw [early]; simp
    · rw [lexByte slash same] at read
      have shorter := literalBound isOpen plainAfter (c :: rest) _ _ _ read
      simp only [List.length_append,List.length_cons,List.length_nil] at shorter ⊢
      omega

theorem verbatimCons {quote b : UInt8} (differs : b ≠ quote) (ordinary : b ≠ BACKSLASH) (rest : Bytes) :
    verbatim quote (b :: rest) = verbatim quote rest := by
  cases rest <;> simp [verbatim,differs,ordinary]

theorem verbatimPattern {quote c : UInt8} (isOpen : isQuote quote = true) (pattern : c = 37 ∨ c = 95)
    (rest : Bytes) : verbatim quote (BACKSLASH :: c :: rest) = verbatim quote rest := by
  have differs : c ≠ quote := by
    rintro rfl
    rcases pattern with rfl | rfl <;> cases isOpen
  have ordinary : c ≠ BACKSLASH := by
    rintro rfl
    rcases pattern with h | h <;> cases h
  have kept := verbatimCons differs ordinary rest
  simp only [verbatim,kept,bne_self_eq_false,Bool.false_or]
  rcases pattern with rfl | rfl <;> simp [(quoteNotSlash isOpen).symm]

theorem verbatimClean {quote : UInt8} {raw : Bytes} (clean : ∀ b ∈ raw, b ≠ quote ∧ b ≠ BACKSLASH) :
    verbatim quote raw = true := by
  induction raw with
  | nil => rfl
  | cons b rest ih =>
    obtain ⟨differs,ordinary⟩ := clean b (by simp)
    rw [verbatimCons differs ordinary]
    exact ih fun c member => clean c (by simp [member])

theorem spellsVerbatim {quote : UInt8} (isOpen : isQuote quote = true) :
    ∀ raw : Bytes, verbatim quote raw = true → Spells quote raw raw
  | [], _ => .nil
  | [b], kept => by
    simp only [verbatim,Bool.and_eq_true,bne_iff_ne,ne_eq] at kept
    exact .byte kept.2 kept.1 .nil
  | b :: c :: rest, kept => by
    by_cases slash : b = BACKSLASH
    · rw [slash] at kept ⊢
      have pattern : c = 37 ∨ c = 95 := by
        simp [verbatim] at kept; exact kept.1.2
      rw [verbatimPattern isOpen pattern] at kept
      have value : unescape c ++ rest = BACKSLASH :: c :: rest := by
        rcases pattern with rfl | rfl <;> rfl
      have pair := Spells.escape c (spellsVerbatim isOpen rest kept)
      rwa [value] at pair
    · simp only [verbatim,Bool.and_eq_true,bne_iff_ne,ne_eq] at kept
      exact .byte slash kept.1.1 (spellsVerbatim isOpen (c :: rest) kept.2)

-- What is put between two quotes is read back unchanged exactly when it is verbatim.
theorem literalVerbatim {quote : UInt8} (isOpen : isQuote quote = true) {after : Bytes}
    (plainAfter : Plain after) :
    ∀ (raw before : Bytes) (tokens : List Token),
      lex (.inside quote before) (raw ++ quote :: after) = some (.literal (before ++ raw) :: tokens) →
      verbatim quote raw = true
  | [], _, _, _ => rfl
  | [b], before, tokens, read => by
    simp only [List.singleton_append] at read
    obtain ⟨slash,same⟩ := lexLast isOpen plainAfter read
    simp [verbatim,slash,same]
  | b :: c :: rest, before, tokens, read => by
    simp only [List.cons_append] at read
    by_cases slash : b = BACKSLASH
    · rw [slash,lexEscape] at read
      rcases unescapePattern c with ⟨pattern,kept⟩ | ⟨-,one⟩
      · have rebracket : before ++ b :: c :: rest = (before ++ unescape c) ++ rest := by
          rw [kept,slash]; simp
        rw [← slash,rebracket] at read
        rw [slash,verbatimPattern isOpen pattern]
        exact literalVerbatim isOpen plainAfter rest _ _ read
      · have shorter := literalBound isOpen plainAfter rest _ _ _ read
        simp only [List.length_append,List.length_cons,one] at shorter
        omega
    by_cases same : b = quote
    · by_cases again : c = quote
      · rw [same,again,lexDoubled (quoteNotSlash isOpen)] at read
        have shorter := literalBound isOpen plainAfter rest _ _ _ read
        simp only [List.length_append,List.length_cons,List.length_nil] at shorter
        omega
      · rw [same] at read
        have early := lexEarly (quoteNotSlash isOpen) again read
        simp only [List.head?_cons,Option.some.injEq,Token.literal.injEq] at early
        simp at early
    · rw [lexByte slash same] at read
      rw [verbatimCons same slash]
      refine literalVerbatim isOpen plainAfter (c :: rest) (before ++ [b]) tokens ?_
      simpa using read

/-! A whole text with one literal in it. -/

def quoted (before raw after : Bytes) : Bytes := before ++ QUOTE :: (raw ++ QUOTE :: after)

section Quoted
variable {before after : Bytes} (plainBefore : Plain before)
include plainBefore

theorem lexQuoted (raw : Bytes) :
    lex .outside (quoted before raw after) =
      (lex (.inside QUOTE []) (raw ++ QUOTE :: after)).map (plain before ++ ·) := by
  have opened : isQuote QUOTE = true := rfl
  rw [quoted,lexPlain plainBefore]
  simp only [lex,opened,if_true]

variable (plainAfter : Plain after)
include plainAfter

theorem quotedSpells {raw value : Bytes} (spells : Spells QUOTE raw value) :
    lex .outside (quoted before raw after) = some (plain before ++ .literal value :: plain after) := by
  rw [lexQuoted plainBefore,lexSpells spells (by decide),lexClose (by decide) plainAfter rfl]
  rfl

theorem quotedVerbatim (raw : Bytes) :
    lex .outside (quoted before raw after) = some (plain before ++ .literal raw :: plain after) ↔
      verbatim QUOTE raw = true := by
  constructor
  · intro read
    rw [lexQuoted plainBefore] at read
    obtain ⟨tokens,inside,same⟩ := Option.map_eq_some_iff.mp read
    rw [List.append_cancel_left same] at inside
    exact literalVerbatim rfl plainAfter raw [] _ inside
  · intro kept
    exact quotedSpells plainBefore plainAfter (spellsVerbatim rfl raw kept)

end Quoted

end CsoMaster.SqlText
