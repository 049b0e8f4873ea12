import DragonOS.Lib.CText

/-!
# Writing tables in C

Rules for a program that writes tables, and their counterparts for the reader: the tokens of a
text that is put together, numbers, products of macros, and whole declarations. A file of
definitions and tables is read as what it stands for (`readUnit_of_lines`).
-/

namespace DragonOS.Lib.CText

-- ---------------------------------------------------------------------------
-- Tokens of a text that is put together
-- ---------------------------------------------------------------------------

theorem flush_append (letters : List UInt8) (left right : List Token) :
    flush letters (left ++ right) = flush letters left ++ right := by
  rw [flush, flush]
  split <;> rfl

/-- A byte that is not of a word is a token of its own, or none. -/
theorem tokens_cons_sign {sign : UInt8} (hsign : isWordByte sign = false) (after : List UInt8) :
    tokens (sign :: after) = (if isSpace sign then [] else [.sign sign]) ++ tokens after := by
  rw [tokens, scan, if_neg (by rw [hsign]; decide)]
  split <;> rfl

theorem scan_append_sign {sign : UInt8} (hsign : isWordByte sign = false)
    (before after letters : List UInt8) :
    scan letters (before ++ sign :: after) = scan letters before ++ scan [] (sign :: after) := by
  have hsign : ¬ isWordByte sign = true := by rw [hsign]; decide
  induction before generalizing letters with
  | nil =>
    rw [List.nil_append, scan, scan, scan, if_neg hsign, if_neg hsign, ← flush_append,
      List.nil_append]
    split <;> rw [flush.eq_def [], if_pos rfl]
  | cons byte before ih =>
    rw [List.cons_append, scan, ih, ih, scan.eq_def letters (byte :: before)]
    simp only
    split
    · rfl
    · split
      · rw [← flush_append]
      · rw [← flush_append, List.cons_append]

/-- No word runs over the border when the first text does not end with one. -/
theorem tokens_append_left (before after : List UInt8)
    (h : before.getLast?.any isWordByte = false) :
    tokens (before ++ after) = tokens before ++ tokens after := by
  cases hlast : before.getLast? with
  | none =>
    rw [List.getLast?_eq_none_iff.mp hlast]
    rfl
  | some last =>
    obtain ⟨front, rfl⟩ := List.getLast?_eq_some_iff.mp hlast
    rw [hlast] at h
    have hafter : tokens (last :: after) = tokens [last] ++ tokens after := by
      rw [tokens_cons_sign h, tokens_cons_sign h, List.append_assoc]
      rfl
    rw [List.append_assoc, List.singleton_append, tokens, scan_append_sign h, tokens,
      scan_append_sign h, List.append_assoc]
    exact congrArg _ hafter

/-- Nor when the second starts with something else. -/
theorem tokens_append_right (before literal after : List UInt8)
    (h : literal.head?.any (!isWordByte ·) = true) :
    tokens (before ++ (literal ++ after)) = tokens before ++ tokens (literal ++ after) := by
  cases literal with
  | nil => exact nomatch h
  | cons sign literal => exact scan_append_sign (by simpa using h) before _ []

theorem tokens_word {letters : List UInt8} (hne : letters ≠ [])
    (hword : letters.all isWordByte = true) : tokens letters = [.word letters] := by
  have hscan (before after : List UInt8) (hafter : after.all isWordByte = true) :
      scan before after = flush (before ++ after) [] := by
    induction after generalizing before with
    | nil => rw [List.append_nil, scan]
    | cons byte after ih =>
      rw [List.all_cons, Bool.and_eq_true] at hafter
      rw [scan, if_pos hafter.1, ih _ hafter.2, List.append_assoc, List.singleton_append]
  rw [tokens, hscan [] letters hword, List.nil_append, flush, if_neg hne]

-- ---------------------------------------------------------------------------
-- Numbers that are written down
-- ---------------------------------------------------------------------------

def writeDigit (digit : Nat) : UInt8 := UInt8.ofNat (48 + digit)

def writeDecimal (value : Nat) : List UInt8 :=
  if value = 0 then [48] else (Nat.digits 10 value).reverse.map writeDigit

theorem toNat_writeDigit {digit : Nat} (h : digit < 10) :
    (writeDigit digit).toNat = 48 + digit := by
  rw [writeDigit, UInt8.toNat_ofNat']
  omega

theorem isDigit_writeDigit {digit : Nat} (h : digit < 10) : isDigit (writeDigit digit) = true := by
  rw [isDigit, Bool.and_eq_true, decide_eq_true_iff, decide_eq_true_iff, UInt8.le_iff_toNat_le,
    UInt8.le_iff_toNat_le, toNat_writeDigit h]
  exact ⟨Nat.le_add_right _ _, by change 48 + digit ≤ 57; omega⟩

theorem readDigit_writeDigit {digit : Nat} (h : digit < 10) :
    readDigit (writeDigit digit) = some digit := by
  rw [readDigit, if_pos (isDigit_writeDigit h), toNat_writeDigit h, Nat.add_sub_cancel_left]

theorem digits_lt {value digit : Nat} (h : digit ∈ (Nat.digits 10 value).reverse) : digit < 10 :=
  Nat.digits_lt_base (by decide) (List.mem_reverse.mp h)

theorem all_isDigit_writeDecimal (value : Nat) : (writeDecimal value).all isDigit = true := by
  rw [writeDecimal]
  split
  · decide
  · rw [List.all_map, List.all_eq_true]
    exact fun digit hdigit => isDigit_writeDigit (digits_lt hdigit)

theorem writeDecimal_ne_nil (value : Nat) : writeDecimal value ≠ [] := by
  rw [writeDecimal]
  split
  next => exact nofun
  next h => exact fun hnil => Nat.digits_ne_nil_iff_ne_zero.mpr h (by simpa using hnil)

theorem readDecimal_writeDecimal (value : Nat) : readDecimal (writeDecimal value) = some value := by
  rw [writeDecimal]
  split
  next h => rw [h]; decide
  next h =>
    have hdigits : Nat.digits 10 value ≠ [] := Nat.digits_ne_nil_iff_ne_zero.mpr h
    have hlast := Nat.getLast_digit_ne_zero 10 h
    have hne : (Nat.digits 10 value).reverse ≠ [] := List.reverse_ne_nil_iff.mpr hdigits
    have hhead : ((Nat.digits 10 value).reverse.map writeDigit).head? ≠ some 48 := by
      rw [List.head?_map, List.head?_reverse, List.getLast?_eq_some_getLast hdigits,
        Option.map_some]
      intro heq
      have hdigit := digits_lt (List.mem_reverse.mpr (List.getLast_mem hdigits))
      have hzero := congrArg UInt8.toNat (Option.some.inj heq)
      rw [toNat_writeDigit hdigit] at hzero
      exact hlast (Nat.add_left_cancel (n := 48) hzero)
    rw [readDecimal, if_neg fun h => hhead h.1, readNumeral_map hne fun digit hdigit =>
      readDigit_writeDigit (digits_lt hdigit), List.reverse_reverse, Nat.ofDigits_digits]

theorem all_isWordByte_of_isDigit {letters : List UInt8} (h : letters.all isDigit = true) :
    letters.all isWordByte = true := by
  rw [List.all_eq_true] at h ⊢
  intro letter hletter
  rw [isWordByte, h letter hletter]
  rfl

theorem readConstant_writeDecimal {value : Nat} (h : value < 2 ^ 31) :
    readConstant (writeDecimal value) = some ⟨value, false⟩ := by
  have hsuffix : (writeDecimal value).getLast? ≠ some 117 := by
    intro hlast
    have hdigit := List.all_eq_true.mp (all_isDigit_writeDecimal value) 117
      (List.mem_of_getLast? hlast)
    exact absurd hdigit (by decide)
  rw [readConstant, if_neg hsuffix, readDecimal_writeDecimal, Option.bind_some, if_pos h]

theorem readConstant_suffix {value : Nat} (h : value < 2 ^ 32) :
    readConstant (writeDecimal value ++ [117]) = some ⟨value, true⟩ := by
  rw [readConstant, if_pos List.getLast?_concat, List.dropLast_concat, readDecimal_writeDecimal,
    Option.bind_some, if_pos h]

-- ---------------------------------------------------------------------------
-- Tables that are written down
-- ---------------------------------------------------------------------------

def listTokens : List (List UInt8) → List Token
  | [] => []
  | [word] => [.word word]
  | word :: rest => .word word :: .sign 44 :: listTokens rest

def declarationTokens (elementType name : List UInt8) (lengthTokens : List Token)
    (items : List (List UInt8)) : List Token :=
  .word staticWord :: .word constWord :: .word elementType :: .word name :: .sign 91 ::
    (lengthTokens ++ .sign 93 :: .sign 61 :: .sign 123 :: (listTokens items ++ [.sign 125]))

theorem listTokens_cons_cons (word next : List UInt8) (rest : List (List UInt8)) :
    listTokens (word :: next :: rest) = .word word :: .sign 44 :: listTokens (next :: rest) := rfl

theorem listTokens_ne_nil {word : List UInt8} {rest : List (List UInt8)} :
    listTokens (word :: rest) ≠ [] := by
  cases rest with
  | nil => exact nofun
  | cons next rest => exact nofun

theorem listTokens_append {left right : List (List UInt8)} (hleft : left ≠ [])
    (hright : right ≠ []) :
    listTokens (left ++ right) = listTokens left ++ .sign 44 :: listTokens right := by
  induction left with
  | nil => exact absurd rfl hleft
  | cons word left ih =>
    cases left with
    | nil =>
      obtain ⟨next, rest, rfl⟩ := List.exists_cons_of_ne_nil hright
      rfl
    | cons next rest =>
      rw [List.cons_append, List.cons_append, listTokens_cons_cons, ← List.cons_append,
        ih (List.cons_ne_nil _ _), listTokens_cons_cons, List.cons_append, List.cons_append]

theorem readItems_listTokens {values : List Nat} (hne : values ≠ [])
    (hsmall : ∀ value ∈ values, value < 2 ^ 31) :
    readItems (listTokens (values.map writeDecimal)) = some values := by
  induction values with
  | nil => exact absurd rfl hne
  | cons value rest ih =>
    have hvalue := readConstant_writeDecimal (hsmall value List.mem_cons_self)
    cases rest with
    | nil => rw [List.map_singleton, listTokens, readItems, hvalue]; rfl
    | cons next rest =>
      have hrest := ih (List.cons_ne_nil _ _) fun value h => hsmall value (List.mem_cons_of_mem _ h)
      rw [List.map_cons] at hrest
      rw [List.map_cons, List.map_cons, listTokens_cons_cons, readItems, if_pos rfl, hvalue,
        Option.bind_eq_bind, Option.bind_some, if_neg listTokens_ne_nil, hrest]
      rfl

theorem mem_listTokens {words : List (List UInt8)} {token : Token} (h : token ∈ listTokens words) :
    token = .sign 44 ∨ ∃ word ∈ words, token = .word word := by
  induction words with
  | nil => exact absurd h List.not_mem_nil
  | cons word rest ih =>
    cases rest with
    | nil => exact .inr ⟨word, List.mem_cons_self, List.mem_singleton.mp h⟩
    | cons next rest =>
      rw [listTokens_cons_cons, List.mem_cons, List.mem_cons] at h
      rcases h with h | h | h
      · exact .inr ⟨word, List.mem_cons_self, h⟩
      · exact .inl h
      · exact (ih h).imp_right fun ⟨word, hword, heq⟩ => ⟨word, List.mem_cons_of_mem _ hword, heq⟩

theorem sign_notMem_listTokens {byte : UInt8} (hbyte : byte ≠ 44) (words : List (List UInt8)) :
    Token.sign byte ∉ listTokens words := by
  intro h
  rcases mem_listTokens h with h | ⟨word, _, h⟩
  · exact hbyte (Token.sign.inj h)
  · exact nomatch h

theorem cut_append {byte : UInt8} {before after : List Token} (h : Token.sign byte ∉ before) :
    cut byte (before ++ .sign byte :: after) = some (before, after) := by
  induction before with
  | nil => rw [List.nil_append, cut, if_pos rfl]
  | cons token before ih =>
    rw [List.mem_cons, not_or] at h
    rw [List.cons_append, cut, if_neg (Ne.symm h.1), ih h.2]
    rfl

theorem readDeclaration_declarationTokens {types : List UInt8 → Option ElementType}
    {elementType name : List UInt8} {lengthTokens : List Token} {length : Constant}
    {values : List Nat} (hname : startsWithDigit name = false)
    (hbracket : Token.sign 93 ∉ lengthTokens)
    (hlength : readProduct lengthTokens = some length) (hne : values ≠ [])
    (hsmall : ∀ value ∈ values, value < 2 ^ 31) :
    readDeclaration types
        (declarationTokens elementType name lengthTokens (values.map writeDecimal)) =
      makeArray types elementType name length.value values := by
  rw [declarationTokens, readDeclaration, if_pos ⟨rfl, rfl, hname, rfl⟩, cut_append hbracket]
  simp only [Option.bind_eq_bind, Option.bind_some, hlength, List.take_succ_cons, List.take_zero,
    List.drop_succ_cons, List.drop_zero, if_true]
  rw [cut_append (sign_notMem_listTokens (by decide) _)]
  simp only [Option.bind_some, readItems_listTokens hne hsmall, if_true]

theorem makeArray_full {types : List UInt8 → Option ElementType} {elementType : List UInt8}
    {type : ElementType} (htype : types elementType = some type) (name : List UInt8)
    {values : List Nat} (hne : values ≠ []) (hsize : values.length * type.size < 2 ^ 31)
    (hbound : ∀ value ∈ values, value < type.bound) :
    makeArray types elementType name values.length values = some ⟨elementType, name, values⟩ := by
  have hall : values.all (· < type.bound) = true := by
    rw [List.all_eq_true]
    exact fun value h => decide_eq_true (hbound value h)
  rw [makeArray, htype, Option.bind_eq_bind, Option.bind_some,
    if_pos ⟨List.length_pos_of_ne_nil hne, hsize, Nat.le_refl _, hall⟩, Nat.sub_self,
    List.replicate_zero, List.append_nil]

-- ---------------------------------------------------------------------------
-- Products that are written down
-- ---------------------------------------------------------------------------

def productTokens : List (List UInt8) → List Token
  | [] => []
  | word :: rest => .word word :: rest.flatMap fun word => [.sign 42, .word word]

theorem sign_notMem_productTokens (words : List (List UInt8)) {byte : UInt8} (h : byte ≠ 42) :
    Token.sign byte ∉ productTokens words := by
  cases words with
  | nil => exact List.not_mem_nil
  | cons word rest => simp [productTokens, h]

/-- The number that a word of an expression stands for, as an `unsigned int`. -/
def StandsFor (macros : Macros) (word : List UInt8) (value : Nat) : Prop :=
  readConstant ((macros.lookup word).getD word) = some ⟨value, true⟩ ∧ value < 2 ^ 32

theorem Constant.times_unsigned (left right : Nat) :
    Constant.times ⟨left % 2 ^ 32, true⟩ ⟨right, true⟩ = some ⟨left * right % 2 ^ 32, true⟩ :=
  (if_pos rfl).trans
    (congrArg (fun value => some (Constant.mk value true)) (Nat.mod_mul_mod left right _))

theorem readFactors_unsigned {macros : Macros} {words : List (List UInt8)} {values : List Nat}
    (h : List.Forall₂ (StandsFor macros) words values) (product : Nat) :
    readFactors ⟨product % 2 ^ 32, true⟩
        ((words.flatMap fun word => [.sign 42, .word word]).map (substitute macros)) =
      some ⟨product * values.prod % 2 ^ 32, true⟩ := by
  induction h generalizing product with
  | nil => rw [List.prod_nil, Nat.mul_one]; rfl
  | cons hword _ ih =>
    rw [List.flatMap_cons, List.map_append, List.map_cons, List.map_singleton, substitute,
      substitute, List.cons_append, List.cons_append, List.nil_append, readFactors, if_pos rfl,
      hword.1, List.prod_cons, ← Nat.mul_assoc, ← ih, Option.bind_eq_bind, Option.bind_some,
      Constant.times_unsigned, Option.bind_some]

/-- A product is read modulo 2^32, and so as it is when it is less. -/
theorem readProduct_unsigned {macros : Macros} {words : List (List UInt8)} {values : List Nat}
    (hne : words ≠ []) (h : List.Forall₂ (StandsFor macros) words values)
    (hsmall : values.prod < 2 ^ 32) :
    readProduct ((productTokens words).map (substitute macros)) = some ⟨values.prod, true⟩ := by
  cases h with
  | nil => exact absurd rfl hne
  | @cons word value words values hword hrest =>
    have hfactors := readFactors_unsigned hrest value
    rw [Nat.mod_eq_of_lt hword.2, ← List.prod_cons, Nat.mod_eq_of_lt hsmall] at hfactors
    rw [productTokens, List.map_cons, substitute, readProduct, hword.1, Option.bind_eq_bind,
      Option.bind_some, hfactors]

-- ---------------------------------------------------------------------------
-- Macros that are written down
-- ---------------------------------------------------------------------------

theorem preprocess_append {before after : List (List Token)} {macros later : Macros}
    {first : List Token} (h : preprocess macros before = some (later, first)) :
    preprocess macros (before ++ after) =
      (preprocess later after).map fun result => (result.1, first ++ result.2) := by
  induction before generalizing macros first with
  | nil =>
    obtain ⟨rfl, rfl⟩ := Prod.mk.inj (Option.some.inj h)
    rw [List.nil_append]
    cases preprocess macros after <;> rfl
  | cons line before ih =>
    rw [preprocess, Option.bind_eq_some_iff] at h
    obtain ⟨head, hline, h⟩ := h
    rw [Option.map_eq_some_iff] at h
    obtain ⟨tail, htail, h⟩ := h
    obtain ⟨rfl, rfl⟩ := Prod.mk.inj h
    rw [List.cons_append, preprocess, hline, Option.bind_some, ih htail, Option.map_map]
    exact congrArg (Option.map · _) (funext fun result => Prod.ext rfl (List.append_assoc ..).symm)

theorem preprocess_plain {lines : List (List Token)}
    (h : ∀ line ∈ lines, line.head? ≠ some (.sign 35)) (macros : Macros) :
    preprocess macros lines = some (macros, lines.flatten.map (substitute macros)) := by
  induction lines with
  | nil => rfl
  | cons line lines ih =>
    rw [preprocess, readLine, if_neg (h line List.mem_cons_self), Option.bind_some,
      ih fun line hline => h line (List.mem_cons_of_mem _ hline), List.flatten_cons,
      List.map_append, Option.map_some]

def directiveTokens (definition : List UInt8 × List UInt8) : List Token :=
  [.sign 35, .word defineWord, .word definition.1, .word definition.2]

theorem lookup_eq_none_of_notMem {macros : Macros} {name : List UInt8}
    (h : name ∉ macros.map Prod.fst) : macros.lookup name = none := by
  rw [List.lookup_eq_none_iff]
  exact fun definition hmem => bne_iff_ne.mpr fun heq =>
    h (List.mem_map.mpr ⟨definition, hmem, heq.symm⟩)

theorem lookup_of_mem {macros : Macros} (hnames : (macros.map Prod.fst).Nodup)
    {name value : List UInt8} (h : (name, value) ∈ macros) : macros.lookup name = some value := by
  obtain ⟨before, after, rfl⟩ := List.append_of_mem h
  rw [List.map_append, List.map_cons] at hnames
  refine List.lookup_eq_some_iff.mpr ⟨before, after, rfl, fun definition hmem => ?_⟩
  refine bne_iff_ne.mpr fun heq => ?_
  exact (List.nodup_append.mp hnames).2.2 _ (List.mem_map_of_mem hmem) _ List.mem_cons_self heq.symm

theorem preprocess_directives {defined macros : Macros}
    (hnames : ((defined ++ macros).map Prod.fst).Nodup)
    (hname : ∀ definition ∈ macros, startsWithDigit definition.1 = false)
    (hvalue : ∀ definition ∈ macros, startsWithDigit definition.2 = true) :
    preprocess defined (macros.map directiveTokens) = some (defined ++ macros, []) := by
  induction macros generalizing defined with
  | nil => rw [List.append_nil, List.map_nil, preprocess]
  | cons definition macros ih =>
    have hnew : defined.lookup definition.1 = none := by
      rw [List.map_append, List.map_cons] at hnames
      exact lookup_eq_none_of_notMem fun h =>
        (List.nodup_append.mp hnames).2.2 _ h _ List.mem_cons_self rfl
    have hfirst : readLine defined (directiveTokens definition) =
        some (defined ++ [definition], []) := by
      rw [readLine, directiveTokens, List.head?_cons, if_pos rfl, List.tail_cons, readDirective,
        if_pos ⟨rfl, hname definition List.mem_cons_self, hvalue definition List.mem_cons_self,
          hnew⟩]
      rfl
    rw [List.append_cons] at hnames
    rw [List.map_cons, preprocess, hfirst, Option.bind_some,
      ih hnames (fun definition h => hname definition (List.mem_cons_of_mem _ h))
        fun definition h => hvalue definition (List.mem_cons_of_mem _ h), ← List.append_cons]
    rfl

-- ---------------------------------------------------------------------------
-- Units that are written down
-- ---------------------------------------------------------------------------

structure Table where
  elementType : List UInt8
  name : List UInt8
  lengthTokens : List Token
  values : List Nat

namespace Table

def tokens (table : Table) : List Token :=
  declarationTokens table.elementType table.name table.lengthTokens (table.values.map writeDecimal)

def declared (table : Table) : ArrayDeclaration := ⟨table.elementType, table.name, table.values⟩

/-- With these macros the expression is the length, and the values are such as the type takes. -/
structure Fits (types : List UInt8 → Option ElementType) (macros : Macros) (table : Table) :
    Prop where
  plainType : table.elementType ∉ macros.map Prod.fst
  plainName : table.name ∉ macros.map Prod.fst
  name : startsWithDigit table.name = false
  brackets : Token.sign 93 ∉ table.lengthTokens
  semicolons : Token.sign 59 ∉ table.lengthTokens
  hashes : Token.sign 35 ∉ table.lengthTokens
  ne_nil : table.values ≠ []
  length : ∃ length, readProduct (table.lengthTokens.map (substitute macros)) = some length ∧
    length.value = table.values.length
  values : ∃ type, types table.elementType = some type ∧ table.values.length * type.size < 2 ^ 31 ∧
    ∀ value ∈ table.values, value < type.bound ∧ value < 2 ^ 31

variable {types : List UInt8 → Option ElementType} {macros : Macros} {table : Table}

theorem substitute_word {letters : List UInt8} (h : letters ∉ macros.map Prod.fst) :
    substitute macros (.word letters) = .word letters := by
  rw [substitute, lookup_eq_none_of_notMem h]
  rfl

theorem map_substitute_listTokens {words : List (List UInt8)}
    (h : ∀ word ∈ words, word ∉ macros.map Prod.fst) :
    (listTokens words).map (substitute macros) = listTokens words := by
  induction words with
  | nil => rfl
  | cons word rest ih =>
    have hword := substitute_word (h word List.mem_cons_self)
    cases rest with
    | nil => rw [listTokens, List.map_singleton, hword]
    | cons next rest =>
      rw [listTokens_cons_cons, List.map_cons, List.map_cons, hword,
        ih fun word hmem => h word (List.mem_cons_of_mem _ hmem)]
      rfl

theorem startsWithDigit_writeDecimal (value : Nat) :
    startsWithDigit (writeDecimal value) = true := by
  have hall := all_isDigit_writeDecimal value
  cases hletters : writeDecimal value with
  | nil => exact absurd hletters (writeDecimal_ne_nil value)
  | cons letter letters =>
    rw [hletters, List.all_cons, Bool.and_eq_true] at hall
    exact hall.1

theorem writeDecimal_notMem (hnames : ∀ definition ∈ macros, startsWithDigit definition.1 = false)
    (value : Nat) : writeDecimal value ∉ macros.map Prod.fst := by
  intro h
  obtain ⟨definition, hmem, hname⟩ := List.mem_map.mp h
  have hdigit := startsWithDigit_writeDecimal value
  rw [← hname, hnames definition hmem] at hdigit
  exact nomatch hdigit

/-- Of a declaration, the macros change the expression for the length. -/
theorem Fits.substituted (h : table.Fits types macros)
    (hnames : ∀ definition ∈ macros, startsWithDigit definition.1 = false)
    (hstatic : staticWord ∉ macros.map Prod.fst) (hconst : constWord ∉ macros.map Prod.fst) :
    table.tokens.map (substitute macros) =
      declarationTokens table.elementType table.name (table.lengthTokens.map (substitute macros))
        (table.values.map writeDecimal) := by
  have hitems : ∀ word ∈ table.values.map writeDecimal, word ∉ macros.map Prod.fst := by
    intro word hword
    obtain ⟨value, _, rfl⟩ := List.mem_map.mp hword
    exact writeDecimal_notMem hnames value
  simp only [tokens, declarationTokens, List.map_cons, List.map_append, substitute_word hstatic,
    substitute_word hconst, substitute_word h.plainType, substitute_word h.plainName,
    map_substitute_listTokens hitems, List.map_nil]
  rfl

theorem sign_notMem_map_substitute {byte : UInt8} {tokens : List Token}
    (h : Token.sign byte ∉ tokens) : Token.sign byte ∉ tokens.map (substitute macros) := by
  intro hmem
  obtain ⟨token, htoken, heq⟩ := List.mem_map.mp hmem
  cases token with
  | word letters => exact nomatch heq
  | sign other => exact h (Token.sign.inj heq ▸ htoken)

theorem Fits.read (h : table.Fits types macros) :
    readDeclaration types (declarationTokens table.elementType table.name
      (table.lengthTokens.map (substitute macros)) (table.values.map writeDecimal)) =
        some table.declared := by
  obtain ⟨length, hlength, hvalue⟩ := h.length
  obtain ⟨type, htype, hsize, hvalues⟩ := h.values
  rw [readDeclaration_declarationTokens h.name (sign_notMem_map_substitute h.brackets) hlength
    h.ne_nil fun value hmem => (hvalues value hmem).2, hvalue,
    makeArray_full htype _ h.ne_nil hsize fun value hmem => (hvalues value hmem).1]
  rfl

/-- The signs of a declaration are brackets, braces, commas and those of its length. -/
theorem sign_notMem_declarationTokens {byte : UInt8} (hbyte : byte ∉ [91, 93, 61, 123, 44, 125])
    {elementType name : List UInt8} {lengthTokens : List Token}
    (hlength : Token.sign byte ∉ lengthTokens) (items : List (List UInt8)) :
    Token.sign byte ∉ declarationTokens elementType name lengthTokens items := by
  simp only [List.mem_cons, List.not_mem_nil, or_false, not_or] at hbyte
  obtain ⟨hopen, hclose, hequals, hleft, hcomma, hright⟩ := hbyte
  have hitems := sign_notMem_listTokens hcomma items
  simp only [declarationTokens, List.mem_cons, List.mem_append, not_or, reduceCtorEq,
    Token.sign.injEq, not_false_eq_true, true_and, List.not_mem_nil, and_true]
  exact ⟨hopen, hlength, hclose, hequals, hleft, hitems, hright⟩

theorem Fits.semicolon_notMem (h : table.Fits types macros) :
    Token.sign 59 ∉ declarationTokens table.elementType table.name
      (table.lengthTokens.map (substitute macros)) (table.values.map writeDecimal) :=
  sign_notMem_declarationTokens (by decide) (sign_notMem_map_substitute h.semicolons) _

theorem Fits.hash_notMem (h : table.Fits types macros) : Token.sign 35 ∉ table.tokens :=
  sign_notMem_declarationTokens (by decide) h.hashes _

end Table

theorem splitOn_flatMap [BEq α] [LawfulBEq α] {separator : α} {parts : List (List α)}
    (h : ∀ part ∈ parts, separator ∉ part) :
    (parts.flatMap (· ++ [separator])).splitOn separator = parts ++ [[]] := by
  induction parts with
  | nil => exact List.splitOn_nil separator
  | cons part parts ih =>
    rw [List.flatMap_cons, List.append_assoc, List.singleton_append, List.splitOn_append_cons_self,
      List.splitOn_eq_singleton (h part List.mem_cons_self),
      ih fun part hpart => h part (List.mem_cons_of_mem _ hpart)]
    rfl

namespace TranslationUnit

variable {source : TranslationUnit}

theorem number_of_mem (hnames : (source.macros.map Prod.fst).Nodup) {name : List UInt8}
    {value : Nat} (h : (name, writeDecimal value ++ [117]) ∈ source.macros) (hvalue : value < 2 ^ 32) :
    source.number name = some value := by
  rw [number, lookup_of_mem hnames h, Option.bind_some, readConstant_suffix hvalue, Option.map_some]

theorem array_of_mem (hnames : (source.arrays.map (·.name)).Nodup) {declaration : ArrayDeclaration}
    (h : declaration ∈ source.arrays) :
    source.array declaration.name = some declaration.elements := by
  obtain ⟨before, after, harrays⟩ := List.append_of_mem h
  rw [harrays, List.map_append, List.map_cons] at hnames
  have hfind : source.arrays.find? (·.name = declaration.name) = some declaration := by
    rw [harrays]
    refine List.find?_eq_some_iff_append.mpr
      ⟨decide_eq_true rfl, before, after, rfl, fun other hother => ?_⟩
    have hne := (List.nodup_append.mp hnames).2.2 _ (List.mem_map_of_mem hother) _
      List.mem_cons_self
    simpa using hne
  rw [array, hfind, Option.map_some]

end TranslationUnit

section
variable {types : List UInt8 → Option ElementType} {macros : Macros} {tables : List Table}

theorem flatMap_substituted (hfits : ∀ table ∈ tables, table.Fits types macros)
    (hnames : ∀ definition ∈ macros, startsWithDigit definition.1 = false)
    (hstatic : staticWord ∉ macros.map Prod.fst) (hconst : constWord ∉ macros.map Prod.fst) :
    (tables.flatMap fun table => table.tokens ++ [.sign 59]).map (substitute macros) =
      (tables.map fun table => declarationTokens table.elementType table.name
        (table.lengthTokens.map (substitute macros)) (table.values.map writeDecimal)).flatMap
          (· ++ [.sign 59]) := by
  rw [List.map_flatMap, List.flatMap_map]
  refine List.flatMap_congr fun table htable => ?_
  rw [List.map_append, (hfits table htable).substituted hnames hstatic hconst]
  rfl

/-- Directives and then tables are read as the macros and the arrays that they stand for. -/
theorem readUnit_of_lines {source : List UInt8} {lines : List (List Token)}
    (hsource : (source.splitOn 10).map tokens = macros.map directiveTokens ++ lines)
    (hlines : lines.flatten = tables.flatMap fun table => table.tokens ++ [.sign 59])
    (hmacros : (macros.map Prod.fst).Nodup)
    (hnames : ∀ definition ∈ macros, startsWithDigit definition.1 = false)
    (hvalues : ∀ definition ∈ macros, startsWithDigit definition.2 = true)
    (hstatic : staticWord ∉ macros.map Prod.fst) (hconst : constWord ∉ macros.map Prod.fst)
    (htables : (tables.map Table.name).Nodup) (hfits : ∀ table ∈ tables, table.Fits types macros) :
    readUnit types source = some ⟨macros, tables.map Table.declared⟩ := by
  have hdirectives : preprocess [] (macros.map directiveTokens) = some (macros, []) :=
    preprocess_directives hmacros hnames hvalues
  have hplain : ∀ line ∈ lines, line.head? ≠ some (.sign 35) := by
    intro line hline hhash
    have hmem := List.mem_flatten.mpr ⟨line, hline, List.mem_of_head? hhash⟩
    rw [hlines, List.mem_flatMap] at hmem
    obtain ⟨table, htable, hmem⟩ := hmem
    rcases List.mem_append.mp hmem with hmem | hmem
    · exact (hfits table htable).hash_notMem hmem
    · exact absurd hmem (by decide)
  have hparts : ∀ part ∈ tables.map fun table => declarationTokens table.elementType table.name
      (table.lengthTokens.map (substitute macros)) (table.values.map writeDecimal),
      Token.sign 59 ∉ part := by
    intro part hpart
    obtain ⟨table, htable, rfl⟩ := List.mem_map.mp hpart
    exact (hfits table htable).semicolon_notMem
  have hread : (tables.map fun table => declarationTokens table.elementType table.name
      (table.lengthTokens.map (substitute macros)) (table.values.map writeDecimal)).mapM
        (readDeclaration types) = some (tables.map Table.declared) := by
    clear hlines hparts htables
    induction tables with
    | nil => rfl
    | cons table tables ih =>
      rw [List.map_cons, List.mapM_cons, (hfits table List.mem_cons_self).read,
        ih fun table htable => hfits table (List.mem_cons_of_mem _ htable)]
      rfl
  have hdistinct : ((tables.map Table.declared).map (·.name)).Nodup := by
    rw [List.map_map]
    exact htables
  rw [readUnit, hsource, preprocess_append hdirectives, preprocess_plain hplain, hlines,
    flatMap_substituted hfits hnames hstatic hconst]
  simp only [Option.map_some, Option.bind_eq_bind, Option.bind_some, List.nil_append,
    splitOn_flatMap hparts, List.getLast?_concat, if_true, List.dropLast_concat, hread, hdistinct]

end

end DragonOS.Lib.CText
