import DragonOS.Build.GeneratedHeader

/-!
# Tables of the generated header

The arrays of the header are such as the reader takes: their names are not those of macros, their
values fit, and the expressions for their lengths, with the sizes of the header in them, give
the number of their values.
-/

namespace DragonOS.Build.NativeUefiCompiler

open Lib Lib.CText
open DragonRuntimeBuilder (decimalDigits)

-- ---------------------------------------------------------------------------
-- Arrays that the reader takes
-- ---------------------------------------------------------------------------

/-- The types, as `BootApp.c` and the compiler have them. A `char` is signed. -/
def headerTypes (name : List UInt8) : Option ElementType :=
  if name = asciiGetBytes (text "UINT8") then some ⟨1, 2 ^ 8⟩
  else if name = asciiGetBytes (text "UINT16") then some ⟨2, 2 ^ 16⟩
  else if name = asciiGetBytes (text "char") then some ⟨1, 2 ^ 7⟩
  else none

def Named (taken : List (List UInt8)) (name : Text) : Prop :=
  HeaderArray.IsWord name ∧ startsWithDigit (asciiGetBytes name) = false ∧ asciiGetBytes name ∉ taken

instance : Decidable (Named taken name) := inferInstanceAs (Decidable (_ ∧ _ ∧ _))

/-- The expression is a constant for `length` on a line of its own. -/
structure Measures (macros : Macros) (expression : Text) (length : Nat) : Prop where
  oneLine : OneLine expression
  signs : ∀ byte ∈ [93, 59, 35], Token.sign byte ∉ lineTokens expression
  value : ∃ constant, readProduct ((lineTokens expression).map (substitute macros)) = some constant ∧
    constant.value = length

structure HeaderArray.Sound (macros : Macros) (array : HeaderArray) : Prop where
  elementType : IsWord array.elementType
  name : IsWord array.name
  rows : ∀ row ∈ array.rows, row ≠ []
  oneLine : OneLine array.lengthExpression
  fits : array.table.Fits headerTypes macros

section
variable {macros : Macros} {name expression : Text}

theorem HeaderArray.sound {array : HeaderArray} (size bound : Nat)
    (helement : Named (macros.map Prod.fst) array.elementType)
    (htype : headerTypes (asciiGetBytes array.elementType) = some ⟨size, bound⟩)
    (hbound : bound ≤ 2 ^ 31) (hname : Named (macros.map Prod.fst) array.name)
    (hlength : Measures macros array.lengthExpression array.rows.flatten.length)
    (hrows : ∀ row ∈ array.rows, row ≠ []) (hne : array.rows.flatten ≠ [])
    (hsize : array.rows.flatten.length * size < 2 ^ 31)
    (hvalues : ∀ value ∈ array.rows.flatten, value < bound) : array.Sound macros where
  elementType := helement.1
  name := hname.1
  rows := hrows
  oneLine := hlength.oneLine
  fits :=
    { plainType := helement.2.2
      plainName := hname.2.2
      name := hname.2.1
      brackets := hlength.signs 93 (by decide)
      semicolons := hlength.signs 59 (by decide)
      hashes := hlength.signs 35 (by decide)
      ne_nil := hne
      length := hlength.value
      values := ⟨_, htype, hsize, fun value h =>
        ⟨hvalues value h, Nat.lt_of_lt_of_le (hvalues value h) hbound⟩⟩ }

theorem flatten_map_singleton (values : List α) (number : α → Nat) :
    (values.map fun value => [number value]).flatten = values.map number := by
  rw [← List.flatMap_def, List.map_eq_flatMap]

theorem sound_column (size bound : Nat) {elementType : Text} {values : List α} {number : α → Nat}
    (helement : Named (macros.map Prod.fst) elementType)
    (htype : headerTypes (asciiGetBytes elementType) = some ⟨size, bound⟩) (hbound : bound ≤ 2 ^ 31)
    (hname : Named (macros.map Prod.fst) name) (hlength : Measures macros expression values.length)
    (hne : values ≠ []) (hsize : values.length * size < 2 ^ 31)
    (hvalues : ∀ value ∈ values, number value < bound) :
    (HeaderArray.mk elementType name expression (values.map fun value => [number value])).Sound
      macros := by
  have hflat := flatten_map_singleton values number
  refine HeaderArray.sound size bound helement htype hbound hname ?_ ?_ ?_ ?_ ?_
  · rwa [hflat, List.length_map]
  · exact List.forall_mem_map.mpr fun _ _ => List.cons_ne_nil _ _
  · rwa [hflat, ne_eq, List.map_eq_nil_iff]
  · rwa [hflat, List.length_map]
  · rw [hflat]
    exact List.forall_mem_map.mpr hvalues

theorem sound_appendByteArray {values : List UInt8}
    (helement : Named (macros.map Prod.fst) (text "UINT8"))
    (hname : Named (macros.map Prod.fst) name)
    (hlength : Measures macros expression values.length) (hne : values ≠ [])
    (hsize : values.length < 2 ^ 31) : (appendByteArray name expression values).Sound macros :=
  sound_column 1 (2 ^ 8) helement rfl (by decide) hname hlength hne (by rwa [Nat.mul_one])
    fun value _ => value.toNat_lt

theorem sound_appendUShortArray {values : List UInt16}
    (helement : Named (macros.map Prod.fst) (text "UINT16"))
    (hname : Named (macros.map Prod.fst) name)
    (hlength : Measures macros expression values.length) (hne : values ≠ [])
    (hsize : values.length * 2 < 2 ^ 31) : (appendUShortArray name expression values).Sound macros :=
  sound_column 2 (2 ^ 16) helement rfl (by decide) hname hlength hne hsize
    fun value _ => value.toNat_lt

theorem length_rgbRows (pixels : List Rgb24) :
    (pixels.map fun pixel => [pixel.r.toNat, pixel.g.toNat, pixel.b.toNat]).flatten.length =
      pixels.length * 3 := by
  induction pixels with
  | nil => rfl
  | cons pixel pixels ih =>
    rw [List.map_cons, List.flatten_cons, List.length_append, ih]
    simp only [List.length_cons, List.length_nil]
    omega

theorem sound_appendRgbArray {pixels : List Rgb24}
    (helement : Named (macros.map Prod.fst) (text "UINT8"))
    (hname : Named (macros.map Prod.fst) name)
    (hlength : Measures macros expression (pixels.length * 3)) (hne : pixels ≠ [])
    (hsize : pixels.length * 3 < 2 ^ 31) : (appendRgbArray name expression pixels).Sound macros := by
  have hflat := length_rgbRows pixels
  refine HeaderArray.sound 1 (2 ^ 8) helement rfl (by decide) hname ?_ ?_ ?_ ?_ ?_
  · exact hflat ▸ hlength
  · exact List.forall_mem_map.mpr fun _ _ => List.cons_ne_nil _ _
  · refine List.ne_nil_of_length_pos ?_
    have hpos := List.length_pos_of_ne_nil hne
    change 0 < (pixels.map fun pixel => [pixel.r.toNat, pixel.g.toNat, pixel.b.toNat]).flatten.length
    omega
  · change (pixels.map fun pixel =>
      [pixel.r.toNat, pixel.g.toNat, pixel.b.toNat]).flatten.length * 1 < 2 ^ 31
    omega
  · intro value hvalue
    obtain ⟨row, hrow, hvalue⟩ := List.mem_flatten.mp hvalue
    obtain ⟨pixel, _, rfl⟩ := List.mem_map.mp hrow
    simp only [List.mem_cons, List.not_mem_nil, or_false] at hvalue
    rcases hvalue with rfl | rfl | rfl
    · exact pixel.r.toNat_lt
    · exact pixel.g.toNat_lt
    · exact pixel.b.toNat_lt

theorem measures_decimalDigits
    (hnames : ∀ definition ∈ macros, startsWithDigit definition.1 = false)
    {value : Nat} (h : value < 2 ^ 31) : Measures macros (decimalDigits value) value := by
  have htokens : lineTokens (decimalDigits value) = [.word (writeDecimal value)] := by
    rw [lineTokens, asciiGetBytes_decimalDigits, tokens_writeDecimal]
  have hword := Table.substitute_word (Table.writeDecimal_notMem hnames value)
  refine ⟨oneLine_decimalDigits value, fun byte _ => by rw [htokens]; simp, ⟨value, false⟩, ?_, rfl⟩
  rw [htokens, List.map_singleton, hword, readProduct, readConstant_writeDecimal h]
  rfl

theorem length_asciiString (value : Text) :
    (asciiString value).length = (asciiGetBytes value).length + 1 := List.length_append

theorem asciiString_lt {value : Text} : ∀ byte ∈ asciiString value, byte.toNat < 2 ^ 7 := by
  rw [asciiString, List.forall_mem_append]
  refine ⟨List.forall_mem_map.mpr fun unit _ => ?_, List.forall_mem_singleton.mpr (by decide)⟩
  split
  next h =>
    rw [UInt16.lt_iff_toNat_lt] at h
    rw [UInt16.toNat_toUInt8]
    exact Nat.lt_of_le_of_lt (Nat.mod_le _ _) h
  next => decide

theorem sound_appendAsciiString {value : Text}
    (helement : Named (macros.map Prod.fst) (text "char"))
    (hname : Named (macros.map Prod.fst) name)
    (hnames : ∀ definition ∈ macros, startsWithDigit definition.1 = false)
    (hsize : value.length + 1 < 2 ^ 31) : (appendAsciiString name value).Sound macros := by
  have hlength : (asciiGetBytes value).length = value.length := List.length_map _
  refine sound_column 1 (2 ^ 7) helement rfl (by decide) hname ?_ ?_ ?_ asciiString_lt
  · rw [length_asciiString]
    exact measures_decimalDigits hnames (by omega)
  · exact List.append_ne_nil_of_right_ne_nil _ (List.cons_ne_nil _ _)
  · rw [length_asciiString]
    omega

theorem measures_product {words : List (List UInt8)} {values : List Nat}
    (honeLine : OneLine expression) (htokens : lineTokens expression = productTokens words)
    (hne : words ≠ []) (hwords : List.Forall₂ (StandsFor macros) words values)
    (hsmall : values.prod < 2 ^ 32) : Measures macros expression values.prod where
  oneLine := honeLine
  signs := by
    have hstar : ∀ byte ∈ [93, 59, 35], byte ≠ (42 : UInt8) := by simp
    exact htokens ▸ fun byte hbyte => sign_notMem_productTokens words (hstar byte hbyte)
  value := ⟨_, htokens ▸ readProduct_unsigned hne hwords hsmall, rfl⟩

end

-- ---------------------------------------------------------------------------
-- Sources of a header that compiles
-- ---------------------------------------------------------------------------

/-- A complete picture, small enough for one object in C. -/
structure Tabulated (image : BmpImage) : Prop extends image.Complete where
  small : image.pixels.length * 3 < 2 ^ 31

theorem Tabulated.exists_sizes {image : BmpImage} (h : Tabulated image) :
    ∃ width height : Nat, image.width = width ∧ image.height = height ∧
      image.pixels.length = height * width ∧ image.pixels ≠ [] ∧ width < 2 ^ 31 ∧
        height < 2 ^ 31 := by
  obtain ⟨width, hwidth⟩ := Int.eq_ofNat_of_zero_le h.width_pos.le
  obtain ⟨height, hheight⟩ := Int.eq_ofNat_of_zero_le h.height_pos.le
  have hwidthPos := h.width_pos
  have hheightPos := h.height_pos
  have hlength := h.toComplete.length_pixels hwidth hheight
  have hsmall := h.small
  rw [hlength] at hsmall
  have hwidthLe := Nat.le_mul_of_pos_left width (show 0 < height by omega)
  have hheightLe := Nat.le_mul_of_pos_right height (show 0 < width by omega)
  refine ⟨width, height, hwidth, hheight, hlength, List.ne_nil_of_length_pos ?_, by omega, by omega⟩
  omega

theorem length_alphaOf {image : BmpImage} (h : image.Complete) :
    (alphaOf image).length = image.pixels.length := by
  have halpha := h.alpha
  rw [alphaOf]
  cases hcase : image.alpha with
  | none => exact List.length_replicate
  | some alpha => exact halpha alpha hcase

namespace HeaderSources

def texts (sources : HeaderSources) : List (Text × Text) :=
  [(text "gDefaultFontName", sources.fontAtlas.familyName),
    (text "gRuntimeSummaryText", sources.runtimeSummaryText),
    (text "gRuntimeVideoText", sources.videoSummaryText),
    (text "gConsoleIconText", sources.consoleIconText),
    (text "gRuntimeRegistryText", sources.runtimeRegistryText)]

structure Sound (sources : HeaderSources) : Prop where
  splash : Tabulated sources.splashImage
  cursor : Tabulated sources.cursorImage
  setupIcon : Tabulated sources.setupIconImage
  texts : ∀ entry ∈ sources.texts, entry.2.length + 1 < 2 ^ 31

def macros (sources : HeaderSources) : Macros := sources.sizes.map definition

/-- The names of the macros, which do not depend on the sources. -/
def sizeNames : List (List UInt8) :=
  ([text "SPLASH_WIDTH", text "SPLASH_HEIGHT", text "CURSOR_WIDTH", text "CURSOR_HEIGHT",
    text "SETUP_ICON_WIDTH", text "SETUP_ICON_HEIGHT"] ++
    (fontSizes (text "FONT") 24 32 ++ fontSizes (text "ICON_FONT") 8 8 ++
      fontSizes (text "SETUP_TITLE_FONT") 72 96 ++ fontSizes (text "SETUP_UI_FONT") 40 56).map
        Prod.fst).map asciiGetBytes

variable {sources : HeaderSources}

theorem map_fst_macros (sources : HeaderSources) : sources.macros.map Prod.fst = sizeNames := rfl

theorem nodup_macros (sources : HeaderSources) : (sources.macros.map Prod.fst).Nodup := by
  rw [map_fst_macros]
  decide +kernel

theorem macros_names (sources : HeaderSources) :
    ∀ definition ∈ sources.macros, startsWithDigit definition.1 = false := by
  have hall : ∀ name ∈ sizeNames, startsWithDigit name = false := by
    have hnames : (sizeNames.all fun name => !startsWithDigit name) = true := by decide +kernel
    exact fun name h => by simpa using List.all_eq_true.mp hnames name h
  exact fun definition h => hall _ (map_fst_macros sources ▸ List.mem_map_of_mem h)

theorem macros_values (sources : HeaderSources) :
    ∀ definition ∈ sources.macros, startsWithDigit definition.2 = true := by
  refine List.forall_mem_map.mpr fun size _ => ?_
  have hdigit := Table.startsWithDigit_writeDecimal size.2.toNat
  obtain ⟨first, rest, hletters⟩ := List.exists_cons_of_ne_nil (writeDecimal_ne_nil size.2.toNat)
  rw [definition, hletters]
  rwa [hletters] at hdigit

theorem mem_macros {name : Text} {value : Nat} (h : (name, (value : Int)) ∈ sources.sizes) :
    (asciiGetBytes name, writeDecimal value ++ [117]) ∈ sources.macros :=
  List.mem_map_of_mem (f := definition) h

theorem standsFor_size {name : Text} {value : Nat} (h : (name, (value : Int)) ∈ sources.sizes)
    (hvalue : value < 2 ^ 32) : StandsFor sources.macros (asciiGetBytes name) value := by
  refine ⟨?_, hvalue⟩
  rw [lookup_of_mem (nodup_macros sources) (mem_macros h)]
  exact readConstant_suffix hvalue

theorem standsFor_three (sources : HeaderSources) : StandsFor sources.macros [51, 117] 3 := by
  have hnone : sources.macros.lookup [51, 117] = none :=
    lookup_eq_none_of_notMem (map_fst_macros sources ▸ by decide +kernel)
  exact ⟨by rw [hnone]; decide, by decide⟩

theorem named_uint8 : Named (sources.macros.map Prod.fst) (text "UINT8") := by
  rw [map_fst_macros]
  decide +kernel

theorem sound_picture (widthName heightName : Text) {image : BmpImage}
    {pixelsName pixelsLength : Text} (h : Tabulated image)
    (hwidth : (widthName, image.width) ∈ sources.sizes)
    (hheight : (heightName, image.height) ∈ sources.sizes) (hname : Named sizeNames pixelsName)
    (hline : OneLine pixelsLength)
    (htokens : lineTokens pixelsLength =
      productTokens [asciiGetBytes widthName, asciiGetBytes heightName, [51, 117]]) :
    (appendRgbArray pixelsName pixelsLength image.pixels).Sound sources.macros := by
  obtain ⟨width, height, hw, hh, hlength, hne, hwLt, hhLt⟩ := h.exists_sizes
  have hsmall := h.small
  have hprod : [width, height, 3].prod = image.pixels.length * 3 := by
    rw [hlength, List.prod_cons, List.prod_cons, List.prod_singleton, ← Nat.mul_assoc,
      Nat.mul_comm width]
  refine sound_appendRgbArray named_uint8 (map_fst_macros sources ▸ hname) ?_ hne hsmall
  rw [← hprod]
  exact measures_product hline htokens (List.cons_ne_nil _ _)
    (.cons (standsFor_size (hw ▸ hwidth) (by omega))
      (.cons (standsFor_size (hh ▸ hheight) (by omega)) (.cons (standsFor_three sources) .nil)))
    (by omega)

theorem sound_alpha (widthName heightName : Text) {image : BmpImage} {alphaName alphaLength : Text}
    (h : Tabulated image) (hwidth : (widthName, image.width) ∈ sources.sizes)
    (hheight : (heightName, image.height) ∈ sources.sizes) (hname : Named sizeNames alphaName)
    (hline : OneLine alphaLength)
    (htokens : lineTokens alphaLength =
      productTokens [asciiGetBytes widthName, asciiGetBytes heightName]) :
    (appendByteArray alphaName alphaLength (alphaOf image)).Sound sources.macros := by
  obtain ⟨width, height, hw, hh, hlength, hne, hwLt, hhLt⟩ := h.exists_sizes
  have hsmall := h.small
  have halpha := length_alphaOf h.toComplete
  have hpos := List.length_pos_of_ne_nil hne
  have hprod : [width, height].prod = (alphaOf image).length := by
    rw [halpha, hlength, List.prod_cons, List.prod_singleton, Nat.mul_comm]
  refine sound_appendByteArray named_uint8 (map_fst_macros sources ▸ hname) ?_
    (List.ne_nil_of_length_pos (by omega)) (by omega)
  rw [← hprod]
  exact measures_product hline htokens (List.cons_ne_nil _ _)
    (.cons (standsFor_size (hw ▸ hwidth) (by omega))
      (.cons (standsFor_size (hh ▸ hheight) (by omega)) .nil)) (by omega)

theorem mem_sizes_picture (sources : HeaderSources) :
    ((text "SPLASH_WIDTH", sources.splashImage.width) ∈ sources.sizes ∧
      (text "SPLASH_HEIGHT", sources.splashImage.height) ∈ sources.sizes) ∧
    ((text "CURSOR_WIDTH", sources.cursorImage.width) ∈ sources.sizes ∧
      (text "CURSOR_HEIGHT", sources.cursorImage.height) ∈ sources.sizes) ∧
    ((text "SETUP_ICON_WIDTH", sources.setupIconImage.width) ∈ sources.sizes ∧
      (text "SETUP_ICON_HEIGHT", sources.setupIconImage.height) ∈ sources.sizes) := by
  simp only [sizes, List.mem_append, List.mem_cons, true_or, or_true, and_self]

theorem mem_sizes_font (sources : HeaderSources) :
    (∀ size ∈ fontSizes (text "FONT") 24 32, size ∈ sources.sizes) ∧
    (∀ size ∈ fontSizes (text "ICON_FONT") 8 8, size ∈ sources.sizes) ∧
    (∀ size ∈ fontSizes (text "SETUP_TITLE_FONT") 72 96, size ∈ sources.sizes) ∧
    ∀ size ∈ fontSizes (text "SETUP_UI_FONT") 40 56, size ∈ sources.sizes := by
  refine ⟨fun size h => ?_, fun size h => ?_, fun size h => ?_, fun size h => ?_⟩ <;>
    simp only [sizes, List.mem_append, h, true_or, or_true]

theorem sound_pictureArrays (h : sources.Sound) :
    ∀ array ∈ sources.pictureArrays, array.Sound sources.macros := by
  obtain ⟨⟨hsplashX, hsplashY⟩, ⟨hcursorX, hcursorY⟩, hiconX, hiconY⟩ := mem_sizes_picture sources
  simp only [pictureArrays, List.forall_mem_cons]
  refine ⟨?splash, ?cursor, ?cursorAlpha, ?icon, ?iconAlpha, fun _ h => absurd h List.not_mem_nil⟩
  case splash =>
    exact sound_picture _ _ h.splash hsplashX hsplashY (by decide +kernel) (by decide)
      (by decide +kernel)
  case cursor =>
    exact sound_picture _ _ h.cursor hcursorX hcursorY (by decide +kernel) (by decide)
      (by decide +kernel)
  case cursorAlpha =>
    exact sound_alpha _ _ h.cursor hcursorX hcursorY (by decide +kernel) (by decide)
      (by decide +kernel)
  case icon =>
    exact sound_picture _ _ h.setupIcon hiconX hiconY (by decide +kernel) (by decide)
      (by decide +kernel)
  case iconAlpha =>
    exact sound_alpha _ _ h.setupIcon hiconX hiconY (by decide +kernel) (by decide)
      (by decide +kernel)

theorem sound_fontArrays {glyphWidth glyphHeight : Nat} {name stem : Text}
    (atlas : FontAtlas glyphWidth glyphHeight)
    (hsizes : ∀ size ∈ fontSizes stem glyphWidth glyphHeight, size ∈ sources.sizes)
    (hcells : 0 < glyphWidth * glyphHeight ∧ glyphWidth * glyphHeight < 2 ^ 24)
    (hnames : Named sizeNames (name ++ text "Alpha") ∧ Named sizeNames (name ++ text "Advance"))
    (halpha : OneLine (stem ++ text "_GLYPH_COUNT * " ++ stem ++ text "_GLYPH_WIDTH * " ++ stem ++
        text "_GLYPH_HEIGHT") ∧
      lineTokens (stem ++ text "_GLYPH_COUNT * " ++ stem ++ text "_GLYPH_WIDTH * " ++ stem ++
          text "_GLYPH_HEIGHT") =
        productTokens [asciiGetBytes (stem ++ text "_GLYPH_COUNT"),
          asciiGetBytes (stem ++ text "_GLYPH_WIDTH"), asciiGetBytes (stem ++ text "_GLYPH_HEIGHT")])
    (hadvance : OneLine (stem ++ text "_GLYPH_COUNT") ∧ lineTokens (stem ++ text "_GLYPH_COUNT") =
      productTokens [asciiGetBytes (stem ++ text "_GLYPH_COUNT")]) :
    ∀ array ∈ fontArrays name stem atlas, array.Sound sources.macros := by
  have hwidthPos : 0 < glyphWidth := Nat.pos_of_mul_pos_right hcells.1
  have hheightPos : 0 < glyphHeight := Nat.pos_of_mul_pos_left hcells.1
  have hwidth : glyphWidth < 2 ^ 32 := by
    have hle := Nat.le_mul_of_pos_right glyphWidth hheightPos
    omega
  have hheight : glyphHeight < 2 ^ 32 := by
    have hle := Nat.le_mul_of_pos_left glyphHeight hwidthPos
    omega
  have hcount : glyphCount = 95 := rfl
  have hcounted :
      StandsFor sources.macros (asciiGetBytes (stem ++ text "_GLYPH_COUNT")) glyphCount :=
    standsFor_size (hsizes _ (.tail _ (.head _))) (by omega)
  have hlength := atlas.alpha_length
  rw [Nat.mul_assoc, hcount] at hlength
  rw [fontArrays, List.forall_mem_cons, List.forall_mem_singleton]
  constructor
  · have hprod : [glyphCount, glyphWidth, glyphHeight].prod = atlas.alpha.length := by
      rw [hlength, hcount, List.prod_cons, List.prod_cons, List.prod_singleton]
    refine sound_appendByteArray named_uint8 (map_fst_macros sources ▸ hnames.1) ?_
      (List.ne_nil_of_length_pos (by omega)) (by omega)
    rw [← hprod]
    exact measures_product halpha.1 halpha.2 (List.cons_ne_nil _ _) (.cons hcounted
      (.cons (standsFor_size (hsizes _ (.tail _ (.tail _ (.head _)))) hwidth)
        (.cons (standsFor_size (hsizes _ (.tail _ (.tail _ (.tail _ (.head _))))) hheight) .nil)))
      (by omega)
  · have hprod : [glyphCount].prod = atlas.advances.length := by
      rw [atlas.advances_length, List.prod_singleton]
    refine sound_appendByteArray named_uint8 (map_fst_macros sources ▸ hnames.2) ?_
      (List.ne_nil_of_length_pos (by rw [atlas.advances_length]; decide))
      (by rw [atlas.advances_length]; decide)
    rw [← hprod]
    exact measures_product hadvance.1 hadvance.2 (List.cons_ne_nil _ _) (.cons hcounted .nil)
      (by rw [List.prod_singleton]; decide)

theorem sound_atlasArrays (sources : HeaderSources) :
    ∀ array ∈ sources.atlasArrays, array.Sound sources.macros := by
  obtain ⟨hfont, hicon, htitle, hui⟩ := mem_sizes_font sources
  simp only [atlasArrays, List.forall_mem_append]
  refine ⟨⟨⟨?font, ?icon⟩, ?title⟩, ?ui⟩
  case font =>
    exact sound_fontArrays _ hfont (by decide) (by decide +kernel) (by decide +kernel)
      (by decide +kernel)
  case icon =>
    exact sound_fontArrays _ hicon (by decide) (by decide +kernel) (by decide +kernel)
      (by decide +kernel)
  case title =>
    exact sound_fontArrays _ htitle (by decide) (by decide +kernel) (by decide +kernel)
      (by decide +kernel)
  case ui =>
    exact sound_fontArrays _ hui (by decide) (by decide +kernel) (by decide +kernel)
      (by decide +kernel)

theorem sound_tweenArrays (sources : HeaderSources) :
    ∀ array ∈ sources.tweenArrays, array.Sound sources.macros := by
  have hnames : ∀ family ∈ tweenFamilies, ∀ mode ∈ tweenModes,
      Named sizeNames (tweenName family mode) := by decide +kernel
  have hmeasures : Measures sources.macros (text "1025") 1025 :=
    measures_decimalDigits (macros_names sources) (show 1025 < 2 ^ 31 by decide)
  intro array harray
  obtain ⟨family, hfamily, harray⟩ := List.mem_flatMap.mp harray
  obtain ⟨mode, hmode, rfl⟩ := List.mem_map.mp harray
  have hlength := (sources.tweenTables family mode).values_length
  refine sound_appendUShortArray (map_fst_macros sources ▸ by decide +kernel)
    (map_fst_macros sources ▸ hnames family hfamily mode hmode) (hlength ▸ hmeasures)
    (List.ne_nil_of_length_pos (by omega)) (by omega)

theorem sound_textArrays (h : sources.Sound) :
    ∀ array ∈ sources.textArrays, array.Sound sources.macros := by
  have hnames : ∀ name ∈ sources.texts.map Prod.fst, Named sizeNames name := by
    show ∀ name ∈ [text "gDefaultFontName", text "gRuntimeSummaryText", text "gRuntimeVideoText",
      text "gConsoleIconText", text "gRuntimeRegistryText"], Named sizeNames name
    decide +kernel
  have harrays : sources.textArrays =
      sources.texts.map fun entry => appendAsciiString entry.1 entry.2 := rfl
  rw [harrays]
  refine List.forall_mem_map.mpr fun entry hentry => ?_
  exact sound_appendAsciiString (map_fst_macros sources ▸ by decide +kernel)
    (map_fst_macros sources ▸ hnames _ (List.mem_map_of_mem hentry)) (macros_names sources)
    (h.texts entry hentry)

theorem sound_arrays (h : sources.Sound) :
    ∀ array ∈ sources.arrays, array.Sound sources.macros := by
  simp only [arrays, List.forall_mem_append]
  exact ⟨⟨⟨sound_pictureArrays h, sound_atlasArrays sources⟩, sound_tweenArrays sources⟩,
    sound_textArrays h⟩

end HeaderSources

end DragonOS.Build.NativeUefiCompiler
