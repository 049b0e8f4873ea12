import DragonOS.Boot.Drawing
import DragonOS.Build.HeaderTables

/-!
# Reading the generated header

What the compiler reads in the header is what the builder had
(`writeGeneratedHeader_declares`): the tables of the drawing functions, with the lengths that they
rely on, the curves, and the texts.
-/

namespace DragonOS.Build.NativeUefiCompiler

open Lib Lib.CText
open DragonRuntimeBuilder (decimalDigits)

namespace HeaderSources

variable {sources : HeaderSources}

-- ---------------------------------------------------------------------------
-- Reading the header
-- ---------------------------------------------------------------------------

theorem isWord_sizes (sources : HeaderSources) :
    ∀ size ∈ sources.sizes, HeaderArray.IsWord size.1 := by
  have hwords : ∀ name ∈ sizeNames, name ≠ [] ∧ name.all isWordByte = true := by
    have hall : (sizeNames.all fun name => !name.isEmpty && name.all isWordByte) = true := by
      decide +kernel
    exact fun name h => by simpa using List.all_eq_true.mp hall name h
  exact fun size h => hwords _ (map_fst_macros sources ▸ List.mem_map_of_mem (List.mem_map_of_mem h))

theorem Sound.sizes_nonneg (h : sources.Sound) : ∀ size ∈ sources.sizes, 0 ≤ size.2 := by
  simp only [sizes, fontSizes, List.forall_mem_append, List.forall_mem_cons]
  simp [h.splash.width_pos.le, h.splash.height_pos.le, h.cursor.width_pos.le, h.cursor.height_pos.le,
    h.setupIcon.width_pos.le, h.setupIcon.height_pos.le]

theorem oneLine_lines (h : sources.Sound) : ∀ line ∈ sources.lines, OneLine line := by
  rw [lines, List.forall_mem_append, List.forall_mem_cons]
  refine ⟨?_, by decide, forall_mem_intersperse (by decide) ?_⟩
  · exact List.forall_mem_map.mpr fun size hsize =>
      oneLine_defineLine (isWord_sizes sources size hsize)
  · refine List.forall_mem_map.mpr fun array harray => ?_
    have hsound := sound_arrays h array harray
    exact HeaderArray.oneLine_lines hsound.elementType hsound.name hsound.oneLine

def arrayNames : List Text :=
  [text "gSplashPixels", text "gCursorPixels", text "gCursorAlpha", text "gSetupIconPixels",
    text "gSetupIconAlpha"] ++
  [text "gFontGlyph", text "gIconFontGlyph", text "gSetupTitleFontGlyph",
    text "gSetupUiFontGlyph"].flatMap
    (fun name => [name ++ text "Alpha", name ++ text "Advance"]) ++
  (tweenFamilies.flatMap fun family => tweenModes.map fun mode => tweenName family mode) ++
  [text "gDefaultFontName", text "gRuntimeSummaryText", text "gRuntimeVideoText",
    text "gConsoleIconText", text "gRuntimeRegistryText"]

theorem nodup_arrays (sources : HeaderSources) :
    ((sources.arrays.map HeaderArray.table).map Table.name).Nodup := by
  have hnames : (sources.arrays.map HeaderArray.table).map Table.name =
      arrayNames.map asciiGetBytes := rfl
  rw [hnames]
  decide +kernel

def translationUnit (sources : HeaderSources) : TranslationUnit where
  macros := sources.macros
  arrays := (sources.arrays.map HeaderArray.table).map Table.declared

theorem readUnit_writeGeneratedHeader (h : sources.Sound) :
    readUnit headerTypes (writeGeneratedHeader sources) = some sources.translationUnit := by
  have hsource : ((writeGeneratedHeader sources).splitOn 10).map tokens =
      sources.macros.map directiveTokens ++
        (([] :: ((sources.arrays.map HeaderArray.lines).intersperse [[]]).flatten).map lineTokens ++
          [[]]) := by
    have hdefines : (sources.sizes.map defineLine).map lineTokens =
        sources.macros.map directiveTokens := by
      rw [macros, List.map_map, List.map_map]
      exact List.map_congr_left fun size hsize =>
        lineTokens_defineLine (isWord_sizes sources size hsize) (h.sizes_nonneg size hsize)
    rw [writeGeneratedHeader, lines_written (oneLine_lines h), HeaderSources.lines, List.map_append,
      hdefines, List.append_assoc]
  have htokens : (([] :: ((sources.arrays.map HeaderArray.lines).intersperse [[]]).flatten).map
      lineTokens ++ [[]]).flatten =
        (sources.arrays.map HeaderArray.table).flatMap fun table => table.tokens ++ [.sign 59] := by
    rw [List.flatten_append, List.map_cons, List.flatten_cons, ← List.flatMap_def,
      flatMap_intersperse, ← List.flatMap_def, List.flatMap_assoc, List.flatMap_map]
    refine (List.append_nil _).trans (List.flatMap_congr fun array harray => ?_)
    have hsound := sound_arrays h array harray
    exact HeaderArray.flatMap_lines hsound.elementType hsound.name hsound.rows
  have hfits : ∀ table ∈ sources.arrays.map HeaderArray.table,
      table.Fits headerTypes sources.macros :=
    List.forall_mem_map.mpr fun array harray => (sound_arrays h array harray).fits
  exact readUnit_of_lines hsource htokens (nodup_macros sources) (macros_names sources)
    (macros_values sources) (map_fst_macros sources ▸ by decide +kernel)
    (map_fst_macros sources ▸ by decide +kernel) (nodup_arrays sources) hfits

end HeaderSources

-- ---------------------------------------------------------------------------
-- What the boot application gets
-- ---------------------------------------------------------------------------

/-- The sizes and the bytes of a picture, under the names that `BootApp.c` uses. -/
structure DeclaresPicture (unit : TranslationUnit) (stem pixelsName : Text)
    (picture : Boot.PixelTable) : Prop where
  width : unit.number (asciiGetBytes (stem ++ text "_WIDTH")) = some picture.width.toNat
  height : unit.number (asciiGetBytes (stem ++ text "_HEIGHT")) = some picture.height.toNat
  pixels : unit.array (asciiGetBytes pixelsName) = some (picture.pixels.map UInt8.toNat)

structure DeclaresFont (unit : TranslationUnit) (stem name : Text) (atlas : Boot.FontAtlas) :
    Prop where
  firstChar : unit.number (asciiGetBytes (stem ++ text "_FIRST_CHAR")) = some atlas.firstChar.toNat
  glyphCount : unit.number (asciiGetBytes (stem ++ text "_GLYPH_COUNT")) =
    some atlas.glyphCount.toNat
  glyphWidth : unit.number (asciiGetBytes (stem ++ text "_GLYPH_WIDTH")) =
    some atlas.glyphWidth.toNat
  glyphHeight : unit.number (asciiGetBytes (stem ++ text "_GLYPH_HEIGHT")) =
    some atlas.glyphHeight.toNat
  alpha : unit.array (asciiGetBytes (name ++ text "Alpha")) = some (atlas.alpha.map UInt8.toNat)
  advance : unit.array (asciiGetBytes (name ++ text "Advance")) =
    some (atlas.advance.map UInt8.toNat)

/-- The tables that the drawing functions read are the ones that the unit declares. -/
structure Declares (unit : TranslationUnit) (header : Boot.GeneratedBitmap) : Prop where
  splash : DeclaresPicture unit (text "SPLASH") (text "gSplashPixels") header.splash
  cursor : DeclaresPicture unit (text "CURSOR") (text "gCursorPixels") header.cursor.toPixelTable
  cursorAlpha : unit.array (asciiGetBytes (text "gCursorAlpha")) =
    some (header.cursor.alpha.map UInt8.toNat)
  setupIcon : DeclaresPicture unit (text "SETUP_ICON") (text "gSetupIconPixels")
    header.setupIcon.toPixelTable
  setupIconAlpha : unit.array (asciiGetBytes (text "gSetupIconAlpha")) =
    some (header.setupIcon.alpha.map UInt8.toNat)
  font : DeclaresFont unit (text "FONT") (text "gFontGlyph") header.font
  iconFont : DeclaresFont unit (text "ICON_FONT") (text "gIconFontGlyph") header.iconFont
  setupTitleFont : DeclaresFont unit (text "SETUP_TITLE_FONT") (text "gSetupTitleFontGlyph")
    header.setupTitleFont
  setupUiFont : DeclaresFont unit (text "SETUP_UI_FONT") (text "gSetupUiFontGlyph")
    header.setupUiFont

def rgbBytes (image : BmpImage) : List UInt8 :=
  image.pixels.flatMap fun pixel => [pixel.r, pixel.g, pixel.b]

theorem length_rgbBytes (image : BmpImage) : (rgbBytes image).length = image.pixels.length * 3 := by
  rw [rgbBytes, List.length_flatMap]
  simp

theorem toNat_size {size : Int} {value : Nat} (h : size = value) (hvalue : value < 2 ^ 31) :
    (UInt32.ofNat size.toNat).toNat = value := by
  rw [h, Int.toNat_natCast, UInt32.toNat_ofNat_of_lt' (by change value < 2 ^ 32; omega)]

theorem Tabulated.cells {image : BmpImage} (h : Tabulated image) :
    (UInt32.ofNat image.width.toNat).toNat * (UInt32.ofNat image.height.toNat).toNat =
      image.pixels.length := by
  obtain ⟨width, height, hw, hh, hlength, _, hwLt, hhLt⟩ := h.exists_sizes
  rw [toNat_size hw hwLt, toNat_size hh hhLt, hlength, Nat.mul_comm]

def pixelTable (image : BmpImage) (h : Tabulated image) : Boot.PixelTable where
  width := UInt32.ofNat image.width.toNat
  height := UInt32.ofNat image.height.toNat
  pixels := rgbBytes image
  pixels_length := by rw [length_rgbBytes, h.cells]
  pixels_lt := by rw [length_rgbBytes]; exact h.small

def alphaPixelTable (image : BmpImage) (h : Tabulated image) : Boot.AlphaPixelTable where
  toPixelTable := pixelTable image h
  alpha := alphaOf image
  alpha_length := (length_alphaOf h.toComplete).trans h.cells.symm

/-- The cells of the fonts are at most 72 by 96. -/
def bootAtlas {glyphWidth glyphHeight : Nat} (atlas : FontAtlas glyphWidth glyphHeight)
    (hwidth : glyphWidth < 2 ^ 32) (hheight : glyphHeight < 2 ^ 32) : Boot.FontAtlas where
  firstChar := UInt32.ofNat firstChar
  glyphCount := UInt32.ofNat glyphCount
  glyphWidth := UInt32.ofNat glyphWidth
  glyphHeight := UInt32.ofNat glyphHeight
  alpha := atlas.alpha
  advance := atlas.advances
  alpha_length := by
    rw [UInt32.toNat_ofNat_of_lt' hwidth, UInt32.toNat_ofNat_of_lt' hheight]
    exact atlas.alpha_length
  advance_length := atlas.advances_length

namespace HeaderSources

def generatedBitmap (sources : HeaderSources) (h : sources.Sound) : Boot.GeneratedBitmap where
  splash := pixelTable sources.splashImage h.splash
  cursor := alphaPixelTable sources.cursorImage h.cursor
  setupIcon := alphaPixelTable sources.setupIconImage h.setupIcon
  font := bootAtlas sources.fontAtlas (by decide) (by decide)
  iconFont := bootAtlas sources.iconFontAtlas (by decide) (by decide)
  setupTitleFont := bootAtlas sources.setupTitleFontAtlas (by decide) (by decide)
  setupUiFont := bootAtlas sources.setupUiFontAtlas (by decide) (by decide)

variable {sources : HeaderSources}

theorem number_size {name : Text} {value : Nat} (h : (name, (value : Int)) ∈ sources.sizes)
    (hvalue : value < 2 ^ 32) : sources.translationUnit.number (asciiGetBytes name) = some value :=
  TranslationUnit.number_of_mem (nodup_macros sources) (mem_macros h) hvalue

theorem array_of_mem {array : HeaderArray} (h : array ∈ sources.arrays) :
    sources.translationUnit.array (asciiGetBytes array.name) = some array.rows.flatten := by
  have hnames : (sources.translationUnit.arrays.map (·.name)).Nodup := by
    have hsame : sources.translationUnit.arrays.map (·.name) =
        (sources.arrays.map HeaderArray.table).map Table.name := List.map_map
    rw [hsame]
    exact nodup_arrays sources
  exact TranslationUnit.array_of_mem hnames (List.mem_map_of_mem (List.mem_map_of_mem h))

theorem array_column {elementType name expression : Text} {values : List α} {number : α → Nat}
    (h : HeaderArray.mk elementType name expression (values.map fun value => [number value]) ∈
      sources.arrays) :
    sources.translationUnit.array (asciiGetBytes name) = some (values.map number) := by
  rw [← flatten_map_singleton]
  exact array_of_mem h

theorem declares_picture {image : BmpImage} (h : Tabulated image)
    {stem pixelsName expression : Text}
    (hwidth : (stem ++ text "_WIDTH", image.width) ∈ sources.sizes)
    (hheight : (stem ++ text "_HEIGHT", image.height) ∈ sources.sizes)
    (hpixels : appendRgbArray pixelsName expression image.pixels ∈ sources.arrays) :
    DeclaresPicture sources.translationUnit stem pixelsName (pixelTable image h) := by
  obtain ⟨width, height, hw, hh, _, _, hwLt, hhLt⟩ := h.exists_sizes
  have hbytes : (appendRgbArray pixelsName expression image.pixels).rows.flatten =
      (rgbBytes image).map UInt8.toNat := by
    rw [rgbBytes, List.map_flatMap, appendRgbArray, ← List.flatMap_def]
    rfl
  refine ⟨?_, ?_, hbytes ▸ array_of_mem hpixels⟩
  · rw [pixelTable, toNat_size hw hwLt]
    exact number_size (hw ▸ hwidth) (by omega)
  · rw [pixelTable, toNat_size hh hhLt]
    exact number_size (hh ▸ hheight) (by omega)

theorem declares_font {glyphWidth glyphHeight : Nat} {name stem : Text}
    (atlas : FontAtlas glyphWidth glyphHeight) (hwidth : glyphWidth < 2 ^ 32)
    (hheight : glyphHeight < 2 ^ 32)
    (hsizes : ∀ size ∈ fontSizes stem glyphWidth glyphHeight, size ∈ sources.sizes)
    (harrays : ∀ array ∈ fontArrays name stem atlas, array ∈ sources.arrays) :
    DeclaresFont sources.translationUnit stem name (bootAtlas atlas hwidth hheight) where
  firstChar := (number_size (hsizes _ (.head _)) (show firstChar < 2 ^ 32 by decide) :)
  glyphCount := (number_size (hsizes _ (.tail _ (.head _))) (show glyphCount < 2 ^ 32 by decide) :)
  glyphWidth := by
    rw [bootAtlas, UInt32.toNat_ofNat_of_lt' hwidth]
    exact number_size (hsizes _ (.tail _ (.tail _ (.head _)))) hwidth
  glyphHeight := by
    rw [bootAtlas, UInt32.toNat_ofNat_of_lt' hheight]
    exact number_size (hsizes _ (.tail _ (.tail _ (.tail _ (.head _))))) hheight
  alpha := array_column (harrays _ (.head _))
  advance := array_column (harrays _ (.tail _ (.head _)))

theorem mem_arrays_font (sources : HeaderSources) :
    (∀ array ∈ fontArrays (text "gFontGlyph") (text "FONT") sources.fontAtlas,
      array ∈ sources.arrays) ∧
    (∀ array ∈ fontArrays (text "gIconFontGlyph") (text "ICON_FONT") sources.iconFontAtlas,
      array ∈ sources.arrays) ∧
    (∀ array ∈ fontArrays (text "gSetupTitleFontGlyph") (text "SETUP_TITLE_FONT")
      sources.setupTitleFontAtlas, array ∈ sources.arrays) ∧
    ∀ array ∈ fontArrays (text "gSetupUiFontGlyph") (text "SETUP_UI_FONT")
      sources.setupUiFontAtlas, array ∈ sources.arrays := by
  refine ⟨fun array h => ?_, fun array h => ?_, fun array h => ?_, fun array h => ?_⟩ <;>
    simp only [arrays, atlasArrays, List.mem_append, h, true_or, or_true]

theorem declares_generatedBitmap (h : sources.Sound) :
    Declares sources.translationUnit (sources.generatedBitmap h) := by
  obtain ⟨⟨hsplashX, hsplashY⟩, ⟨hcursorX, hcursorY⟩, hiconX, hiconY⟩ := mem_sizes_picture sources
  obtain ⟨hfont, hiconFont, htitleFont, huiFont⟩ := mem_sizes_font sources
  obtain ⟨hfontArrays, hiconFontArrays, htitleFontArrays, huiFontArrays⟩ := mem_arrays_font sources
  have hpictures : ∀ array ∈ sources.pictureArrays, array ∈ sources.arrays := fun array harray => by
    simp only [arrays, List.mem_append, harray, true_or]
  constructor
  case splash => exact declares_picture h.splash hsplashX hsplashY (hpictures _ (.head _))
  case cursor => exact declares_picture h.cursor hcursorX hcursorY (hpictures _ (.tail _ (.head _)))
  case cursorAlpha => exact array_column (hpictures _ (.tail _ (.tail _ (.head _))))
  case setupIcon =>
    exact declares_picture h.setupIcon hiconX hiconY
      (hpictures _ (.tail _ (.tail _ (.tail _ (.head _)))))
  case setupIconAlpha =>
    exact array_column (hpictures _ (.tail _ (.tail _ (.tail _ (.tail _ (.head _))))))
  case font => exact declares_font _ (by decide) (by decide) hfont hfontArrays
  case iconFont => exact declares_font _ (by decide) (by decide) hiconFont hiconFontArrays
  case setupTitleFont => exact declares_font _ (by decide) (by decide) htitleFont htitleFontArrays
  case setupUiFont => exact declares_font _ (by decide) (by decide) huiFont huiFontArrays

theorem array_tween (sources : HeaderSources) (family : TweenFamily) (mode : TweenMode) :
    sources.translationUnit.array (asciiGetBytes (tweenName family mode)) =
      some ((sources.tweenTables family mode).values.map UInt16.toNat) := by
  have hfamily : family ∈ tweenFamilies := by cases family <;> decide
  have hmode : mode ∈ tweenModes := by cases mode <;> decide
  have harray : appendUShortArray (tweenName family mode) (text "1025")
      (sources.tweenTables family mode).values ∈ sources.tweenArrays :=
    List.mem_flatMap.mpr ⟨family, hfamily, List.mem_map.mpr ⟨mode, hmode, rfl⟩⟩
  exact array_column (by simp only [arrays, List.mem_append]; exact .inl (.inr harray))

theorem array_text {entry : Text × Text} (h : entry ∈ sources.texts) :
    sources.translationUnit.array (asciiGetBytes entry.1) =
      some ((asciiString entry.2).map UInt8.toNat) := by
  have harrays : sources.textArrays =
      sources.texts.map fun entry => appendAsciiString entry.1 entry.2 := rfl
  have harray : appendAsciiString entry.1 entry.2 ∈ sources.textArrays :=
    harrays ▸ List.mem_map_of_mem h
  exact array_column (by simp only [arrays, List.mem_append]; exact .inr harray)

end HeaderSources

/-- The header compiles, and the boot application gets the pictures, the fonts, the curves and
the texts that the builder had. -/
theorem writeGeneratedHeader_declares {sources : HeaderSources} (h : sources.Sound) :
    ∃ source, readUnit headerTypes (writeGeneratedHeader sources) = some source ∧
      Declares source (sources.generatedBitmap h) ∧
      (∀ family mode, source.array (asciiGetBytes (tweenName family mode)) =
        some ((sources.tweenTables family mode).values.map UInt16.toNat)) ∧
      ∀ entry ∈ sources.texts, source.array (asciiGetBytes entry.1) =
        some ((asciiString entry.2).map UInt8.toNat) :=
  ⟨sources.translationUnit, HeaderSources.readUnit_writeGeneratedHeader h,
    HeaderSources.declares_generatedBitmap h, HeaderSources.array_tween sources,
    fun _ hentry => HeaderSources.array_text hentry⟩

/-- Every cell is inked, each pixel a little more than the one before it. -/
def shadedAtlas (glyphWidth glyphHeight : Nat) : FontAtlas glyphWidth glyphHeight where
  familyName := text "Ubuntu"
  alpha := (List.range (glyphCount * glyphWidth * glyphHeight)).map UInt8.ofNat
  advances := List.replicate glyphCount 4
  alpha_length := by rw [List.length_map, List.length_range]
  advances_length := List.length_replicate

def opaquePair : BmpImage := ⟨1, 2, [⟨200, 10, 10⟩, ⟨10, 200, 10⟩], none⟩

/-- Two pixels side by side, the right one half transparent. -/
def shadedPair : BmpImage := ⟨2, 1, [⟨10, 20, 30⟩, ⟨40, 50, 60⟩], some [255, 128]⟩

def sampleSources : HeaderSources where
  splashImage := opaquePair
  cursorImage := shadedPair
  setupIconImage := shadedPair
  fontAtlas := shadedAtlas 24 32
  iconFontAtlas := shadedAtlas 8 8
  setupTitleFontAtlas := shadedAtlas 72 96
  setupUiFontAtlas := shadedAtlas 40 56
  tweenTables _ _ := ⟨List.replicate 1025 0, List.length_replicate⟩
  runtimeSummaryText := text "DLL:0 PNG:0 MP4:0"
  videoSummaryText := text "MP4 metadata only: no video loaded"
  consoleIconText := text "Dragon OS"
  runtimeRegistryText := text "No runtime assets packaged."

theorem tabulated_opaquePair : Tabulated opaquePair :=
  ⟨⟨by decide, by decide, rfl, by decide⟩, by decide⟩

theorem tabulated_shadedPair : Tabulated shadedPair :=
  ⟨⟨by decide, by decide, rfl, by decide⟩, by decide⟩

theorem sound_sampleSources : sampleSources.Sound :=
  ⟨tabulated_opaquePair, tabulated_shadedPair, tabulated_shadedPair, by decide⟩

theorem writeGeneratedHeader_declares_sample :
    ∃ source, readUnit headerTypes (writeGeneratedHeader sampleSources) = some source ∧
      Declares source (sampleSources.generatedBitmap sound_sampleSources) ∧
      source.array (asciiGetBytes (text "gCursorPixels")) = some [10, 20, 30, 40, 50, 60] ∧
      source.array (asciiGetBytes (text "gCursorAlpha")) = some [255, 128] ∧
      (∀ family mode, source.array (asciiGetBytes (tweenName family mode)) =
        some ((sampleSources.tweenTables family mode).values.map UInt16.toNat)) ∧
      ∀ entry ∈ sampleSources.texts, source.array (asciiGetBytes entry.1) =
        some ((asciiString entry.2).map UInt8.toNat) := by
  obtain ⟨source, hread, hdeclares, htweens, htexts⟩ :=
    writeGeneratedHeader_declares sound_sampleSources
  exact ⟨source, hread, hdeclares, hdeclares.cursor.pixels, hdeclares.cursorAlpha, htweens, htexts⟩

end DragonOS.Build.NativeUefiCompiler
