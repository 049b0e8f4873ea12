import DragonOS.Lib.Numerals

/-!
# Tables in C

A reader for a small part of C, enough for a file of tables: macros that stand for a number, and
arrays of numbers that are `static const`. It refuses what is not of this form, comments and
literals among it, so that what it accepts declares what it declares in C. What the types are
called, how much room they take and which values fit is a parameter.
-/

namespace DragonOS.Lib.CText

-- ---------------------------------------------------------------------------
-- Tokens
-- ---------------------------------------------------------------------------

inductive Token
  | word (letters : List UInt8)
  | sign (byte : UInt8)
  deriving DecidableEq, Repr

def isDigit (byte : UInt8) : Bool := 48 ≤ byte && byte ≤ 57

/-- Digits, letters and the underscore. -/
def isWordByte (byte : UInt8) : Bool :=
  isDigit byte || (65 ≤ byte && byte ≤ 90) || byte == 95 || (97 ≤ byte && byte ≤ 122)

/-- Spaces, tabs and carriage returns. -/
def isSpace (byte : UInt8) : Bool := byte == 32 || byte == 9 || byte == 13

def flush (letters : List UInt8) (rest : List Token) : List Token :=
  if letters = [] then rest else .word letters :: rest

/-- Words are as long as they can be; `letters` are those of the word so far. -/
def scan : (letters : List UInt8) → List UInt8 → List Token
  | letters, [] => flush letters []
  | letters, byte :: rest =>
    if isWordByte byte then scan (letters ++ [byte]) rest
    else if isSpace byte then flush letters (scan [] rest)
    else flush letters (.sign byte :: scan [] rest)

def tokens (line : List UInt8) : List Token := scan [] line

-- ---------------------------------------------------------------------------
-- Macros
-- ---------------------------------------------------------------------------

abbrev Macros := List (List UInt8 × List UInt8)

def startsWithDigit (letters : List UInt8) : Bool := letters.head?.any isDigit

def substitute (macros : Macros) : Token → Token
  | .word letters => .word ((macros.lookup letters).getD letters)
  | .sign byte => .sign byte

def defineWord : List UInt8 := [100, 101, 102, 105, 110, 101]

/-- The directive `#define`, after the sign. A macro is defined once, as a number, so that there
is nothing to replace in it. -/
def readDirective (macros : Macros) : List Token → Option Macros
  | [.word directive, .word name, .word value] =>
    if directive = defineWord ∧ startsWithDigit name = false ∧ startsWithDigit value = true ∧
        macros.lookup name = none then
      some (macros ++ [(name, value)])
    else none
  | _ => none

def readLine (macros : Macros) (line : List Token) : Option (Macros × List Token) :=
  if line.head? = some (.sign 35) then
    (readDirective macros line.tail).map fun macros => (macros, [])
  else some (macros, line.map (substitute macros))

def preprocess : Macros → List (List Token) → Option (Macros × List Token)
  | macros, [] => some (macros, [])
  | macros, line :: rest =>
    (readLine macros line).bind fun first =>
      (preprocess first.1 rest).map fun later => (later.1, first.2 ++ later.2)

-- ---------------------------------------------------------------------------
-- Constants
-- ---------------------------------------------------------------------------

/-- A constant of type `int`, or `unsigned int`. -/
structure Constant where
  value : Nat
  isUnsigned : Bool
  deriving DecidableEq, Repr

def readDigit (byte : UInt8) : Option Nat := if isDigit byte then some (byte.toNat - 48) else none

/-- A numeral that starts with a zero is not decimal. -/
def readDecimal (letters : List UInt8) : Option Nat :=
  if letters.head? = some 48 ∧ letters ≠ [48] then none else readNumeral 10 readDigit letters

/-- The suffix is `u`. What does not fit its type has another type, and is refused. -/
def readConstant (letters : List UInt8) : Option Constant :=
  if letters.getLast? = some 117 then
    (readDecimal letters.dropLast).bind fun value =>
      if value < 2 ^ 32 then some ⟨value, true⟩ else none
  else
    (readDecimal letters).bind fun value =>
      if value < 2 ^ 31 then some ⟨value, false⟩ else none

/-- The product of an `int` and an `unsigned int` is `unsigned`, and that wraps. -/
def Constant.times (left right : Constant) : Option Constant :=
  if left.isUnsigned || right.isUnsigned then some ⟨left.value * right.value % 2 ^ 32, true⟩
  else if left.value * right.value < 2 ^ 31 then some ⟨left.value * right.value, false⟩
  else none

def readFactors (product : Constant) : List Token → Option Constant
  | [] => some product
  | .sign byte :: .word letters :: rest =>
    if byte = 42 then do
      let factor ← readConstant letters
      let product ← product.times factor
      readFactors product rest
    else none
  | _ => none

def readProduct : List Token → Option Constant
  | .word letters :: rest => do
    let factor ← readConstant letters
    readFactors factor rest
  | _ => none

-- ---------------------------------------------------------------------------
-- Declarations
-- ---------------------------------------------------------------------------

/-- Values from `bound` on do not fit. -/
structure ElementType where
  size : Nat
  bound : Nat

structure ArrayDeclaration where
  elementType : List UInt8
  name : List UInt8
  elements : List Nat
  deriving DecidableEq, Repr

/-- The items of an initializer; there may be a comma after the last. -/
def readItems : List Token → Option (List Nat)
  | [.word letters] => (readConstant letters).map fun constant => [constant.value]
  | .word letters :: .sign byte :: rest =>
    if byte = 44 then do
      let constant ← readConstant letters
      if rest = [] then some [constant.value] else
      let values ← readItems rest
      some (constant.value :: values)
    else none
  | _ => none

def cut (byte : UInt8) : List Token → Option (List Token × List Token)
  | [] => none
  | token :: rest =>
    if token = .sign byte then some ([], rest)
    else (cut byte rest).map fun parts => (token :: parts.1, parts.2)

def staticWord : List UInt8 := [115, 116, 97, 116, 105, 99]

def constWord : List UInt8 := [99, 111, 110, 115, 116]

section
variable (types : List UInt8 → Option ElementType)

/-- An array with a length and an initializer. Elements without a value are zero, and an object
takes fewer than 2^31 bytes. -/
def makeArray (elementType name : List UInt8) (length : Nat) (values : List Nat) :
    Option ArrayDeclaration := do
  let type ← types elementType
  if 0 < length ∧ length * type.size < 2 ^ 31 ∧ values.length ≤ length ∧
      values.all (· < type.bound) then
    some { elementType, name, elements := values ++ List.replicate (length - values.length) 0 }
  else none

def readDeclaration : List Token → Option ArrayDeclaration
  | .word storage :: .word qualifier :: .word elementType :: .word name :: .sign bracket :: rest =>
    if storage = staticWord ∧ qualifier = constWord ∧ startsWithDigit name = false ∧
        bracket = 91 then do
      let (lengthTokens, rest) ← cut 93 rest
      let length ← readProduct lengthTokens
      if rest.take 2 = [.sign 61, .sign 123] then do
        let (items, rest) ← cut 125 (rest.drop 2)
        let values ← readItems items
        if rest = [] then makeArray types elementType name length.value values else none
      else none
    else none
  | _ => none

structure TranslationUnit where
  macros : Macros
  arrays : List ArrayDeclaration
  deriving DecidableEq, Repr

/-- There is a semicolon after every declaration, and no two of them have one name. -/
def readUnit (source : List UInt8) : Option TranslationUnit := do
  let (macros, text) ← preprocess [] ((source.splitOn 10).map tokens)
  let declarations := text.splitOn (.sign 59)
  if declarations.getLast? = some [] then do
    let arrays ← declarations.dropLast.mapM (readDeclaration types)
    if (arrays.map (·.name)).Nodup then some { macros, arrays } else none
  else none

end

namespace TranslationUnit

def number (source : TranslationUnit) (name : List UInt8) : Option Nat :=
  ((source.macros.lookup name).bind readConstant).map (·.value)

def array (source : TranslationUnit) (name : List UInt8) : Option (List Nat) :=
  (source.arrays.find? (·.name = name)).map (·.elements)

end TranslationUnit

end DragonOS.Lib.CText
