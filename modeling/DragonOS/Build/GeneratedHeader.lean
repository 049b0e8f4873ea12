import DragonOS.Build.ConsoleText
import DragonOS.Build.Resize
import DragonOS.Build.Runtime
import DragonOS.Lib.CTables

/-!
# The generated header

`WriteGeneratedHeader` writes the pictures, the fonts, the curves and the texts of the boot
application as tables in C, and the compiler reads them back. A table has a length of its
own, an expression in the sizes that the header defines first.
-/

namespace DragonOS.Build.NativeUefiCompiler

open Lib Lib.CText
open DragonRuntimeBuilder (decimalDigits)

-- ---------------------------------------------------------------------------
-- What goes into the header
-- ---------------------------------------------------------------------------

def firstChar : Nat := 32

def lastChar : Nat := 126

def glyphCount : Nat := lastChar - firstChar + 1

/-- Every character has a cell of alpha values, and an advance. -/
structure FontAtlas (glyphWidth glyphHeight : Nat) where
  familyName : Text
  alpha : List UInt8
  advances : List UInt8
  alpha_length : alpha.length = glyphCount * glyphWidth * glyphHeight
  advances_length : advances.length = glyphCount

inductive TweenFamily
  | linear | sine | cubic | exponential | back
  deriving DecidableEq, Repr

inductive TweenMode
  | goIn | goOut | inOut | outIn
  deriving DecidableEq, Repr

def TweenFamily.label : TweenFamily → Text
  | linear => text "Linear"
  | sine => text "Sine"
  | cubic => text "Cubic"
  | exponential => text "Exponential"
  | back => text "Back"

def TweenMode.label : TweenMode → Text
  | goIn => text "In"
  | goOut => text "Out"
  | inOut => text "InOut"
  | outIn => text "OutIn"

structure TweenTable where
  values : List UInt16
  values_length : values.length = 1025

/-- The texts about the runtime files are parameters. -/
structure HeaderSources where
  splashImage : BmpImage
  cursorImage : BmpImage
  setupIconImage : BmpImage
  fontAtlas : FontAtlas 24 32
  iconFontAtlas : FontAtlas 8 8
  setupTitleFontAtlas : FontAtlas 72 96
  setupUiFontAtlas : FontAtlas 40 56
  tweenTables : TweenFamily → TweenMode → TweenTable
  runtimeSummaryText : Text
  videoSummaryText : Text
  consoleIconText : Text
  runtimeRegistryText : Text

-- ---------------------------------------------------------------------------
-- Writing the header
-- ---------------------------------------------------------------------------

def intText (value : Int) : Text := (if value < 0 then [45] else []) ++ decimalDigits value.natAbs

def defineLine (size : Text × Int) : Text :=
  text "#define " ++ size.1 ++ text " " ++ intText size.2 ++ text "u"

structure HeaderArray where
  elementType : Text
  name : Text
  lengthExpression : Text
  rows : List (List Nat)

def rowText : List Nat → Text
  | [] => []
  | [value] => decimalDigits value
  | value :: next :: rest => decimalDigits value ++ text ", " ++ rowText (next :: rest)

/-- There is no comma after the last row. -/
def rowLines : List (List Nat) → List Text
  | [] => []
  | [row] => [text "    " ++ rowText row]
  | row :: next :: rest => (text "    " ++ rowText row ++ text ",") :: rowLines (next :: rest)

def HeaderArray.lines (array : HeaderArray) : List Text :=
  (text "static const " ++ array.elementType ++ text " " ++ array.name ++ text "[" ++
    array.lengthExpression ++ text "] = \x7b") :: (rowLines array.rows ++ [text "\x7d;"])

def appendRgbArray (name lengthExpression : Text) (pixels : List Rgb24) : HeaderArray where
  elementType := text "UINT8"
  name
  lengthExpression
  rows := pixels.map fun pixel => [pixel.r.toNat, pixel.g.toNat, pixel.b.toNat]

def appendByteArray (name lengthExpression : Text) (values : List UInt8) : HeaderArray where
  elementType := text "UINT8"
  name
  lengthExpression
  rows := values.map fun value => [value.toNat]

def appendUShortArray (name lengthExpression : Text) (values : List UInt16) : HeaderArray where
  elementType := text "UINT16"
  name
  lengthExpression
  rows := values.map fun value => [value.toNat]

/-- The zero at the end has the last row. -/
def appendAsciiString (name value : Text) : HeaderArray where
  elementType := text "char"
  name
  lengthExpression := decimalDigits ((asciiGetBytes value).length + 1)
  rows := (asciiString value).map fun byte => [byte.toNat]

/-- A picture without alpha values is opaque. -/
def alphaOf (image : BmpImage) : List UInt8 :=
  image.alpha.getD (List.replicate image.pixels.length 255)

def fontSizes (stem : Text) (glyphWidth glyphHeight : Nat) : List (Text × Int) :=
  [(stem ++ text "_FIRST_CHAR", firstChar), (stem ++ text "_GLYPH_COUNT", glyphCount),
    (stem ++ text "_GLYPH_WIDTH", glyphWidth), (stem ++ text "_GLYPH_HEIGHT", glyphHeight)]

def fontArrays {glyphWidth glyphHeight : Nat} (name stem : Text)
    (atlas : FontAtlas glyphWidth glyphHeight) : List HeaderArray :=
  [appendByteArray (name ++ text "Alpha")
      (stem ++ text "_GLYPH_COUNT * " ++ stem ++ text "_GLYPH_WIDTH * " ++ stem ++
        text "_GLYPH_HEIGHT")
      atlas.alpha,
    appendByteArray (name ++ text "Advance") (stem ++ text "_GLYPH_COUNT") atlas.advances]

def tweenFamilies : List TweenFamily := [.linear, .sine, .cubic, .exponential, .back]

def tweenModes : List TweenMode := [.goIn, .goOut, .inOut, .outIn]

def tweenName (family : TweenFamily) (mode : TweenMode) : Text :=
  text "gTween" ++ family.label ++ mode.label

namespace HeaderSources

variable (sources : HeaderSources)

def sizes : List (Text × Int) :=
  [(text "SPLASH_WIDTH", sources.splashImage.width),
    (text "SPLASH_HEIGHT", sources.splashImage.height),
    (text "CURSOR_WIDTH", sources.cursorImage.width),
    (text "CURSOR_HEIGHT", sources.cursorImage.height),
    (text "SETUP_ICON_WIDTH", sources.setupIconImage.width),
    (text "SETUP_ICON_HEIGHT", sources.setupIconImage.height)] ++
  fontSizes (text "FONT") 24 32 ++ fontSizes (text "ICON_FONT") 8 8 ++
  fontSizes (text "SETUP_TITLE_FONT") 72 96 ++ fontSizes (text "SETUP_UI_FONT") 40 56

def pictureArrays : List HeaderArray :=
  [appendRgbArray (text "gSplashPixels") (text "SPLASH_WIDTH * SPLASH_HEIGHT * 3u")
      sources.splashImage.pixels,
    appendRgbArray (text "gCursorPixels") (text "CURSOR_WIDTH * CURSOR_HEIGHT * 3u")
      sources.cursorImage.pixels,
    appendByteArray (text "gCursorAlpha") (text "CURSOR_WIDTH * CURSOR_HEIGHT")
      (alphaOf sources.cursorImage),
    appendRgbArray (text "gSetupIconPixels") (text "SETUP_ICON_WIDTH * SETUP_ICON_HEIGHT * 3u")
      sources.setupIconImage.pixels,
    appendByteArray (text "gSetupIconAlpha") (text "SETUP_ICON_WIDTH * SETUP_ICON_HEIGHT")
      (alphaOf sources.setupIconImage)]

def atlasArrays : List HeaderArray :=
  fontArrays (text "gFontGlyph") (text "FONT") sources.fontAtlas ++
  fontArrays (text "gIconFontGlyph") (text "ICON_FONT") sources.iconFontAtlas ++
  fontArrays (text "gSetupTitleFontGlyph") (text "SETUP_TITLE_FONT") sources.setupTitleFontAtlas ++
  fontArrays (text "gSetupUiFontGlyph") (text "SETUP_UI_FONT") sources.setupUiFontAtlas

def tweenArrays : List HeaderArray :=
  tweenFamilies.flatMap fun family => tweenModes.map fun mode =>
    appendUShortArray (tweenName family mode) (text "1025") (sources.tweenTables family mode).values

def textArrays : List HeaderArray :=
  [appendAsciiString (text "gDefaultFontName") sources.fontAtlas.familyName,
    appendAsciiString (text "gRuntimeSummaryText") sources.runtimeSummaryText,
    appendAsciiString (text "gRuntimeVideoText") sources.videoSummaryText,
    appendAsciiString (text "gConsoleIconText") sources.consoleIconText,
    appendAsciiString (text "gRuntimeRegistryText") sources.runtimeRegistryText]

def arrays : List HeaderArray :=
  sources.pictureArrays ++ sources.atlasArrays ++ sources.tweenArrays ++ sources.textArrays

/-- There is an empty line between two arrays, and after the sizes. -/
def lines : List Text :=
  sources.sizes.map defineLine ++
    [] :: ((sources.arrays.map HeaderArray.lines).intersperse [[]]).flatten

end HeaderSources

def newLine : Text := [13, 10]

def writeGeneratedHeader (sources : HeaderSources) : Bytes :=
  asciiGetBytes (sources.lines.flatMap (· ++ newLine))

-- ---------------------------------------------------------------------------
-- Tokens of the lines
-- ---------------------------------------------------------------------------

def lineTokens (line : Text) : List Token := tokens (asciiGetBytes line)

theorem asciiGetBytes_append (left right : Text) :
    asciiGetBytes (left ++ right) = asciiGetBytes left ++ asciiGetBytes right := List.map_append

theorem asciiGetBytes_decimalDigits (value : Nat) :
    asciiGetBytes (decimalDigits value) = writeDecimal value := by
  have hdigit : ∀ digit < 10,
      (if UInt16.ofNat (48 + digit) < 128 then (UInt16.ofNat (48 + digit)).toUInt8 else 63) =
        writeDigit digit := by decide
  rw [decimalDigits, writeDecimal]
  split
  · rfl
  · rw [asciiGetBytes, List.map_map]
    exact List.map_congr_left fun digit hmem => hdigit digit (digits_lt hmem)

theorem tokens_writeDecimal (value : Nat) :
    tokens (writeDecimal value) = [.word (writeDecimal value)] :=
  tokens_word (writeDecimal_ne_nil value)
    (all_isWordByte_of_isDigit (all_isDigit_writeDecimal value))

theorem lineTokens_rowText (row : List Nat) :
    lineTokens (rowText row) = listTokens (row.map writeDecimal) := by
  fun_induction rowText row with
  | case1 => rfl
  | case2 value => rw [lineTokens, asciiGetBytes_decimalDigits, tokens_writeDecimal]; rfl
  | case3 value next rest ih =>
    have hcomma : tokens (asciiGetBytes (text ", ")) = [.sign 44] := by decide
    rw [lineTokens, asciiGetBytes_append, asciiGetBytes_append, List.append_assoc,
      tokens_append_right _ (asciiGetBytes (text ", ")) _ rfl, tokens_append_left _ _ rfl, hcomma,
      asciiGetBytes_decimalDigits, tokens_writeDecimal]
    exact congrArg (fun later => Token.word (writeDecimal value) :: Token.sign 44 :: later) ih

theorem flatMap_rowLines {rows : List (List Nat)} (hrows : ∀ row ∈ rows, row ≠ []) :
    (rowLines rows).flatMap lineTokens = listTokens (rows.flatten.map writeDecimal) := by
  have hrow (row : List Nat) :
      lineTokens (text "    " ++ rowText row) = listTokens (row.map writeDecimal) := by
    have hindent : tokens (asciiGetBytes (text "    ")) = [] := by decide
    rw [lineTokens, asciiGetBytes_append, tokens_append_left _ _ rfl, hindent, List.nil_append]
    exact lineTokens_rowText row
  fun_induction rowLines rows with
  | case1 => rfl
  | case2 row => rw [List.flatMap_singleton, hrow, List.flatten_singleton]
  | case3 row next rest ih =>
    have hcomma : tokens (asciiGetBytes (text ",")) = [.sign 44] := by decide
    have hfirst : row.map writeDecimal ≠ [] := by simpa using hrows row List.mem_cons_self
    have hlater : (next :: rest).flatten.map writeDecimal ≠ [] := by
      have hnext := hrows next (List.mem_cons_of_mem _ List.mem_cons_self)
      rw [List.flatten_cons, List.map_append]
      exact List.append_ne_nil_of_left_ne_nil (by simpa using hnext) _
    have hline : lineTokens (text "    " ++ rowText row ++ text ",") =
        listTokens (row.map writeDecimal) ++ [.sign 44] := by
      rw [lineTokens, asciiGetBytes_append, ← List.append_nil (asciiGetBytes (text ",")),
        tokens_append_right _ (asciiGetBytes (text ",")) _ rfl, List.append_nil, hcomma]
      exact congrArg (· ++ _) (hrow row)
    rw [List.flatMap_cons, hline, ih fun row hmem => hrows row (List.mem_cons_of_mem _ hmem),
      List.flatten_cons (l := row), List.map_append, listTokens_append hfirst hlater,
      List.append_assoc, List.singleton_append]

namespace HeaderArray

variable {array : HeaderArray}

def table (array : HeaderArray) : Table where
  elementType := asciiGetBytes array.elementType
  name := asciiGetBytes array.name
  lengthTokens := lineTokens array.lengthExpression
  values := array.rows.flatten

def IsWord (value : Text) : Prop :=
  asciiGetBytes value ≠ [] ∧ (asciiGetBytes value).all isWordByte = true

instance : Decidable (IsWord value) := inferInstanceAs (Decidable (_ ∧ _))

theorem flatMap_lines (htype : IsWord array.elementType) (hname : IsWord array.name)
    (hrows : ∀ row ∈ array.rows, row ≠ []) :
    array.lines.flatMap lineTokens = array.table.tokens ++ [.sign 59] := by
  have hstart : tokens (asciiGetBytes (text "static const ")) =
      [.word staticWord, .word constWord] := by decide
  have hspace : tokens (asciiGetBytes (text " ")) = [] := by decide
  have hopen : tokens (asciiGetBytes (text "[")) = [.sign 91] := by decide
  have hclose : tokens (asciiGetBytes (text "] = \x7b")) =
      [.sign 93, .sign 61, .sign 123] := by decide
  have hend : lineTokens (text "\x7d;") = [.sign 125, .sign 59] := by decide
  have hhead : lineTokens (text "static const " ++ array.elementType ++ text " " ++ array.name ++
      text "[" ++ array.lengthExpression ++ text "] = \x7b") =
        .word staticWord :: .word constWord :: .word (asciiGetBytes array.elementType) ::
          .word (asciiGetBytes array.name) :: .sign 91 ::
            (lineTokens array.lengthExpression ++ [.sign 93, .sign 61, .sign 123]) := by
    simp only [lineTokens, asciiGetBytes_append, List.append_assoc]
    rw [tokens_append_left (asciiGetBytes (text "static const ")) _ rfl,
      tokens_append_right _ (asciiGetBytes (text " ")) _ rfl,
      tokens_append_left (asciiGetBytes (text " ")) _ rfl,
      tokens_append_right _ (asciiGetBytes (text "[")) _ rfl,
      tokens_append_left (asciiGetBytes (text "[")) _ rfl,
      ← List.append_nil (asciiGetBytes (text "] = \x7b")),
      tokens_append_right _ (asciiGetBytes (text "] = \x7b")) _ rfl, List.append_nil, hstart, hspace,
      hopen, hclose, tokens_word htype.1 htype.2, tokens_word hname.1 hname.2]
    rfl
  rw [lines, List.flatMap_cons, hhead, List.flatMap_append, flatMap_rowLines hrows,
    List.flatMap_singleton, hend, table, Table.tokens, declarationTokens]
  simp only [List.cons_append, List.append_assoc, List.nil_append]

end HeaderArray

def definition (size : Text × Int) : List UInt8 × List UInt8 :=
  (asciiGetBytes size.1, writeDecimal size.2.toNat ++ [117])

theorem lineTokens_defineLine {size : Text × Int} (hname : HeaderArray.IsWord size.1)
    (hsize : 0 ≤ size.2) : lineTokens (defineLine size) = directiveTokens (definition size) := by
  have hstart : tokens (asciiGetBytes (text "#define ")) = [.sign 35, .word defineWord] := by decide
  have hspace : tokens (asciiGetBytes (text " ")) = [] := by decide
  have hnumber : asciiGetBytes (intText size.2) ++ asciiGetBytes (text "u") =
      writeDecimal size.2.toNat ++ [117] := by
    rw [intText, if_neg (by omega), List.nil_append, asciiGetBytes_decimalDigits,
      show size.2.natAbs = size.2.toNat by omega]
    rfl
  have hword : (writeDecimal size.2.toNat ++ [117]).all isWordByte = true := by
    rw [List.all_append, all_isWordByte_of_isDigit (all_isDigit_writeDecimal _)]
    decide
  rw [lineTokens, defineLine]
  simp only [asciiGetBytes_append, List.append_assoc]
  rw [hnumber, tokens_append_left (asciiGetBytes (text "#define ")) _ rfl,
    tokens_append_right _ (asciiGetBytes (text " ")) _ rfl,
    tokens_append_left (asciiGetBytes (text " ")) _ rfl, hstart, hspace,
    tokens_word hname.1 hname.2,
    tokens_word (List.append_ne_nil_of_right_ne_nil _ (by decide)) hword]
  rfl

-- ---------------------------------------------------------------------------
-- Lines of the file
-- ---------------------------------------------------------------------------

def OneLine (line : Text) : Prop := 10 ∉ asciiGetBytes line

instance : Decidable (OneLine line) := inferInstanceAs (Decidable (¬ _))

theorem oneLine_append {left right : Text} :
    OneLine (left ++ right) ↔ OneLine left ∧ OneLine right := by
  rw [OneLine, asciiGetBytes_append, List.mem_append, not_or]
  rfl

theorem oneLine_decimalDigits (value : Nat) : OneLine (decimalDigits value) := by
  rw [OneLine, asciiGetBytes_decimalDigits]
  intro h
  exact absurd (List.all_eq_true.mp (all_isDigit_writeDecimal value) 10 h) (by decide)

theorem oneLine_of_isWord {value : Text} (h : HeaderArray.IsWord value) : OneLine value :=
  fun hmem => absurd (List.all_eq_true.mp h.2 10 hmem) (by decide)

theorem oneLine_rowText (row : List Nat) : OneLine (rowText row) := by
  fun_induction rowText row with
  | case1 => exact List.not_mem_nil
  | case2 value => exact oneLine_decimalDigits value
  | case3 value next rest ih =>
    exact oneLine_append.mpr ⟨oneLine_append.mpr ⟨oneLine_decimalDigits value, by decide⟩, ih⟩

theorem oneLine_rowLines (rows : List (List Nat)) : ∀ line ∈ rowLines rows, OneLine line := by
  have hrow (row : List Nat) : OneLine (text "    " ++ rowText row) :=
    oneLine_append.mpr ⟨by decide, oneLine_rowText row⟩
  fun_induction rowLines rows with
  | case1 => exact fun _ h => absurd h List.not_mem_nil
  | case2 row => exact List.forall_mem_singleton.mpr (hrow row)
  | case3 row next rest ih =>
    exact List.forall_mem_cons.mpr ⟨oneLine_append.mpr ⟨hrow row, by decide⟩, ih⟩

theorem HeaderArray.oneLine_lines {array : HeaderArray} (htype : IsWord array.elementType)
    (hname : IsWord array.name) (hlength : OneLine array.lengthExpression) :
    ∀ line ∈ array.lines, OneLine line := by
  rw [HeaderArray.lines, List.forall_mem_cons, List.forall_mem_append, List.forall_mem_singleton]
  simp only [oneLine_append]
  exact ⟨⟨⟨⟨⟨⟨⟨by decide, oneLine_of_isWord htype⟩, by decide⟩, oneLine_of_isWord hname⟩, by decide⟩,
    hlength⟩, by decide⟩, oneLine_rowLines array.rows, by decide⟩

theorem oneLine_defineLine {size : Text × Int} (hname : HeaderArray.IsWord size.1) :
    OneLine (defineLine size) := by
  have hnumber : OneLine (intText size.2) := by
    rw [intText, oneLine_append]
    refine ⟨?_, oneLine_decimalDigits _⟩
    split <;> decide
  simp only [defineLine, oneLine_append]
  exact ⟨⟨⟨⟨by decide, oneLine_of_isWord hname⟩, by decide⟩, hnumber⟩, by decide⟩

theorem lines_written {lines : List Text} (h : ∀ line ∈ lines, OneLine line) :
    ((asciiGetBytes (lines.flatMap (· ++ newLine))).splitOn 10).map tokens =
      lines.map lineTokens ++ [[]] := by
  have hbytes : asciiGetBytes (lines.flatMap (· ++ newLine)) =
      (lines.map fun line => asciiGetBytes line ++ [13]).flatMap (· ++ [10]) := by
    rw [asciiGetBytes, List.map_flatMap, List.flatMap_map]
    refine List.flatMap_congr fun line _ => ?_
    rw [List.map_append, List.append_assoc]
    rfl
  have hparts : ∀ part ∈ lines.map fun line => asciiGetBytes line ++ [13], 10 ∉ part := by
    intro part hpart
    obtain ⟨line, hline, rfl⟩ := List.mem_map.mp hpart
    rw [List.mem_append, not_or]
    exact ⟨h line hline, by decide⟩
  rw [hbytes, splitOn_flatMap hparts, List.map_append, List.map_map]
  refine congrArg (· ++ [[]]) (List.map_congr_left fun line _ => ?_)
  rw [Function.comp_apply, ← List.append_nil [13], tokens_append_right _ [13] _ rfl]
  exact List.append_nil _

theorem forall_mem_intersperse {P : Text → Prop} (hnil : P []) {parts : List (List Text)}
    (h : ∀ part ∈ parts, ∀ line ∈ part, P line) :
    ∀ line ∈ (parts.intersperse [[]]).flatten, P line := by
  induction parts with
  | nil => exact fun _ h => absurd h List.not_mem_nil
  | cons part rest ih =>
    rw [List.forall_mem_cons] at h
    cases rest with
    | nil => simpa using h.1
    | cons next rest =>
      rw [List.intersperse_cons_cons, List.flatten_cons, List.flatten_cons, List.forall_mem_append,
        List.forall_mem_append, List.forall_mem_singleton]
      exact ⟨h.1, hnil, ih h.2⟩

theorem flatMap_intersperse (parts : List (List Text)) :
    (parts.intersperse [[]]).flatten.flatMap lineTokens = parts.flatten.flatMap lineTokens := by
  induction parts with
  | nil => rfl
  | cons part rest ih =>
    cases rest with
    | nil => rfl
    | cons next rest =>
      rw [List.intersperse_cons_cons, List.flatten_cons, List.flatten_cons, List.flatten_cons,
        List.flatMap_append, List.flatMap_append, List.flatMap_append, ih]
      rfl

end DragonOS.Build.NativeUefiCompiler
