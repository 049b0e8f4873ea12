import DragonOS.Boot.Blend
import DragonOS.Boot.OnScreen
import DragonOS.Boot.ScaledText
import DragonOS.Lib.Averages
import DragonOS.Lib.Lines
import DragonOS.Lib.SignedWords

/-!
# Text layout

The loader lays a text out in six places: two functions draw it, one measures it,
and each of the three exists for an atlas and for the scaled font. All of them
agree with the exact layout `placed` of the lines (`TextAgreement`), as long as
the exact width and the exact places fit into the machine's words.
-/

namespace DragonOS.Boot

open Lib

def FontAtlas.exactAdvance (font : FontAtlas) (fallbackAdvance : UInt32) (glyph : UInt8) : Nat :=
  if glyph.toUInt32 ≥ font.firstChar ∧ glyph.toUInt32 < font.firstChar + font.glyphCount then
    (entry font.advance (glyph.toUInt32 - font.firstChar)).toNat
  else fallbackAdvance.toNat

def FontAtlas.exactScaledAdvance (font : FontAtlas) (scale : UInt32) (glyph : UInt8) : Nat :=
  font.exactAdvance 8 glyph * scale.toNat

theorem toInt32_eq_ofNat (value : UInt32) : value.toInt32 = Int32.ofNat value.toNat := by
  conv_lhs => rw [← UInt32.ofNat_toNat (x := value)]
  exact UInt32.toInt32_ofNat'

theorem toInt32_mul_eq_ofNat (a b : UInt32) :
    (a * b).toInt32 = Int32.ofNat (a.toNat * b.toNat) := by
  rw [UInt32.toInt32_mul, toInt32_eq_ofNat, toInt32_eq_ofNat, Int32.ofNat_mul]

theorem glyphAdvance_eq (font : FontAtlas) (fallbackAdvance : UInt32) (glyph : UInt8) :
    font.glyphAdvance fallbackAdvance.toInt32 glyph =
      Int32.ofNat (font.exactAdvance fallbackAdvance glyph) := by
  unfold FontAtlas.glyphAdvance FontAtlas.exactAdvance
  split <;> simp [toInt32_eq_ofNat]

theorem scaledAdvance_eq (header : GeneratedBitmap) (scale : UInt32) (glyph : UInt8) :
    scaledAdvance header scale glyph =
      Int32.ofNat (header.font.exactScaledAdvance scale glyph) := by
  unfold scaledAdvance FontAtlas.exactScaledAdvance FontAtlas.exactAdvance
  split <;> rw [toInt32_mul_eq_ofNat]
  rw [UInt8.toNat_toUInt32]

theorem ite_gt_ofNat {a b : Nat} (ha : a < 2 ^ 31) (hb : b < 2 ^ 31) :
    (if Int32.ofNat a > Int32.ofNat b then Int32.ofNat a else Int32.ofNat b) =
      Int32.ofNat (max b a) := by
  have hlt : Int32.ofNat a > Int32.ofNat b ↔ b < a := by
    rw [gt_iff_lt, Int32.lt_iff_toInt_lt, Int32.toInt_ofNat_of_lt ha, Int32.toInt_ofNat_of_lt hb,
      Int.ofNat_lt]
  split
  next h => rw [max_eq_right (hlt.mp h).le]
  next h => rw [max_eq_left (Nat.le_of_not_lt fun hba => h (hlt.mpr hba))]

-- ---------------------------------------------------------------------------
-- The pen
-- ---------------------------------------------------------------------------

section
variable {advance : UInt8 → Int32} {weight : UInt8 → Nat}
  (hadvance : ∀ glyph, advance glyph = Int32.ofNat (weight glyph))
include hadvance

/-- The words of the pen are those of the exact place. -/
theorem layoutText_eq (x y lineHeight : Int32) (line offset : Nat) (text : List UInt8) :
    layoutText x lineHeight advance (x + Int32.ofNat offset) (y + Int32.ofNat line * lineHeight)
        text =
      (placed newline weight line offset text).map fun place =>
        (x + Int32.ofNat place.offset, y + Int32.ofNat place.line * lineHeight, place.item) := by
  induction text generalizing line offset with
  | nil => rfl
  | cons glyph rest ih =>
    rw [layoutText, placed]
    split
    · have hnext := ih (line + 1) 0
      rw [Int32.ofNat_add, Int32.add_mul] at hnext
      simpa [Int32.add_assoc] using hnext
    · have hnext := ih line (offset + weight glyph)
      rw [Int32.ofNat_add, ← Int32.add_assoc, ← hadvance] at hnext
      rw [hnext, List.map_cons]

/-- While the widest line fits into a word, the running width and the running
maximum are exact. -/
theorem measureLines_eq (lineWidth maxWidth : Nat) (text : List UInt8)
    (h : max maxWidth (widestFrom newline weight lineWidth text) < 2 ^ 31) :
    measureLines advance (Int32.ofNat lineWidth) (Int32.ofNat maxWidth) text =
      Int32.ofNat (max maxWidth (widestFrom newline weight lineWidth text)) := by
  induction text generalizing lineWidth maxWidth with
  | nil =>
    obtain ⟨hmax, hline⟩ := max_lt_iff.mp h
    rw [widestFrom_nil] at hline ⊢
    exact ite_gt_ofNat hline hmax
  | cons glyph rest ih =>
    rw [measureLines]
    split
    next hglyph =>
      subst hglyph
      rw [widestFrom_separator, ← max_assoc] at h ⊢
      obtain ⟨hmax, hline⟩ := max_lt_iff.mp (max_lt_iff.mp h).1
      rw [ite_gt_ofNat hline hmax]
      exact ih _ _ h
    next hglyph =>
      rw [widestFrom_item hglyph] at h ⊢
      rw [hadvance, ← Int32.ofNat_add]
      exact ih _ _ h

theorem toInt_measureLines (text : List UInt8) (h : widest newline weight text < 2 ^ 31) :
    (measureLines advance 0 0 text).toInt = widest newline weight text := by
  have hmax : max 0 (widestFrom newline weight 0 text) = widest newline weight text := by
    rw [widestFrom_zero, Nat.zero_max]
  have hexact := measureLines_eq hadvance 0 0 text (by rwa [hmax])
  rw [hmax] at hexact
  exact (congrArg Int32.toInt hexact).trans (Int32.toInt_ofNat_of_lt h)

end

-- ---------------------------------------------------------------------------
-- The gradient
-- ---------------------------------------------------------------------------

theorem toInt_channel (channel : UInt8) : channel.toUInt32.toInt32.toInt = channel.toNat := by
  have := channel.toNat_lt
  rw [toInt_toInt32, UInt8.toNat_toUInt32, if_pos (by omega)]

/-- What the gradient adds to the first channel: no operation on the way wraps. -/
theorem toInt_channelPart (start stop : UInt8) {progress : Nat} (h : progress ≤ 1024) :
    ((stop.toUInt32.toInt32 - start.toUInt32.toInt32) *
        (UInt32.ofNat progress).toInt32 / 1024).toInt =
      ((stop.toNat - start.toNat : Int) * progress).tdiv 1024 := by
  have hstart := start.toNat_lt
  have hstop := stop.toNat_lt
  have hprogress : (UInt32.ofNat progress).toInt32.toInt = progress := by
    rw [UInt32.toInt32_ofNat']
    exact Int32.toInt_ofNat_of_lt (by omega)
  have hdifference : (stop.toUInt32.toInt32 - start.toUInt32.toInt32).toInt =
      (stop.toNat : Int) - start.toNat := by
    rw [toInt_sub_of_fits] <;> rw [toInt_channel, toInt_channel]
    exact ⟨by omega, by omega⟩
  have hproduct : ((stop.toUInt32.toInt32 - start.toUInt32.toInt32) *
      (UInt32.ofNat progress).toInt32).toInt = (stop.toNat - start.toNat : Int) * progress := by
    rw [toInt_mul_of_fits] <;> rw [hdifference, hprogress]
    have hsize : ((stop.toNat - start.toNat : Int) * progress).natAbs ≤ 255 * 1024 := by
      rw [Int.natAbs_mul]
      exact Nat.mul_le_mul (by omega) (by omega)
    exact ⟨by omega, by omega⟩
  have hpart := tdiv_mem_uIcc (stop.toNat - start.toNat : Int) h (by decide)
  rw [Set.mem_uIcc, Nat.cast_ofNat] at hpart
  have hexact : (1024 : Int32).toInt = 1024 := by decide
  rw [toInt_div_of_fits] <;> rw [hproduct, hexact]
  exact ⟨by omega, by omega⟩

theorem gradientChannel_mem_uIcc (start stop : UInt8) {progress : Nat} (h : progress ≤ 1024) :
    (gradientChannel start stop (UInt32.ofNat progress)).toNat ∈
      Set.uIcc start.toNat stop.toNat := by
  have hstart := start.toNat_lt
  have hstop := stop.toNat_lt
  have hexact := toInt_channelPart start stop h
  have hpart := tdiv_mem_uIcc (stop.toNat - start.toNat : Int) h (by decide)
  rw [Set.mem_uIcc, Nat.cast_ofNat] at hpart
  rw [gradientChannel, UInt32.toNat_toUInt8, Set.mem_uIcc]
  generalize (stop.toUInt32.toInt32 - start.toUInt32.toInt32) * (UInt32.ofNat progress).toInt32 /
    1024 = part at hexact ⊢
  have hsum : (start.toUInt32.toInt32 + part).toInt = start.toNat + part.toInt := by
    rw [toInt_add_of_fits] <;> rw [toInt_channel]
    exact ⟨by omega, by omega⟩
  have hbyte := toNat_toUInt32 (start.toUInt32.toInt32 + part)
  rw [hsum, if_neg (by omega)] at hbyte
  omega

/-- `progress1024` of a glyph, cut off as the gradient functions do. -/
def progress1024 (totalWidth x cursorX glyphAdvance : Int32) : UInt32 :=
  let glyphCenter := cursorX - x + glyphAdvance / 2
  let progress := if totalWidth > 0 then (glyphCenter * 1024 / totalWidth).toUInt32 else 0
  if progress > 1024 then 1024 else progress

/-- The middle of a glyph on a scale of 1024 parts of the text's width. -/
def exactProgress (weight : UInt8 → Nat) (text : List UInt8) (place : Placed UInt8) : Nat :=
  (place.offset + weight place.item / 2) * 1024 / widest newline weight text

theorem exactProgress_le {weight : UInt8 → Nat} {text : List UInt8} {place : Placed UInt8}
    (h : place ∈ placed newline weight 0 0 text) : exactProgress weight text place ≤ 1024 := by
  have hend := placed_end_le h
  rw [widestFrom_zero] at hend
  refine Nat.div_le_of_le_mul (Nat.mul_le_mul_right 1024 ?_)
  omega

theorem toInt_glyphCenter {offset glyphWidth : Nat} (h : offset + glyphWidth < 2 ^ 21)
    (x : Int32) :
    ((x + Int32.ofNat offset - x + Int32.ofNat glyphWidth / 2) * 1024).toInt =
      ((offset + glyphWidth / 2) * 1024 : Nat) := by
  have hoffset : x + Int32.ofNat offset - x = Int32.ofNat offset := by
    rw [Int32.add_comm, Int32.add_sub_cancel]
  have hleft : (Int32.ofNat offset).toInt = offset := Int32.toInt_ofNat_of_lt (by omega)
  have hwidth : (Int32.ofNat glyphWidth).toInt = glyphWidth := Int32.toInt_ofNat_of_lt (by omega)
  have hhalf : (Int32.ofNat glyphWidth / 2).toInt = (glyphWidth / 2 : Nat) := by
    have htwo : (2 : Int32).toInt = (2 : Nat) := by decide
    rw [toInt_div_of_fits] <;> rw [hwidth, htwo, ← Int.ofNat_tdiv]
    exact ⟨by omega, by omega⟩
  have hcenter : (Int32.ofNat offset + Int32.ofNat glyphWidth / 2).toInt =
      (offset + glyphWidth / 2 : Nat) := by
    rw [toInt_add_of_fits] <;> rw [hleft, hhalf]
    · omega
    · exact ⟨by omega, by omega⟩
  have hscale : (1024 : Int32).toInt = 1024 := by decide
  rw [hoffset, toInt_mul_of_fits] <;> rw [hcenter, hscale]
  · omega
  · exact ⟨by omega, by omega⟩

theorem progress1024_eq {weight : UInt8 → Nat} {text : List UInt8} {place : Placed UInt8}
    (h : place ∈ placed newline weight 0 0 text) (hwidth : widest newline weight text < 2 ^ 21)
    {totalWidth : Int32} (htotal : totalWidth.toInt = widest newline weight text) (x : Int32) :
    progress1024 totalWidth x (x + Int32.ofNat place.offset)
        (Int32.ofNat (weight place.item)) =
      UInt32.ofNat (exactProgress weight text place) := by
  have hle := exactProgress_le h
  have hend := placed_end_le h
  rw [widestFrom_zero] at hend
  have hcenter := toInt_glyphCenter (hend.trans_lt hwidth) x
  have hraw : (if totalWidth > 0 then
      ((x + Int32.ofNat place.offset - x + Int32.ofNat (weight place.item) / 2) * 1024 /
        totalWidth).toUInt32 else 0) = UInt32.ofNat (exactProgress weight text place) := by
    have hpositive : totalWidth > 0 ↔ 0 < widest newline weight text := by
      rw [gt_iff_lt, Int32.lt_iff_toInt_lt, htotal, Int32.toInt_zero, Int.natCast_pos]
    split
    next hsome =>
      have hquotient := toInt_div_of_fits (a := (x + Int32.ofNat place.offset - x +
        Int32.ofNat (weight place.item) / 2) * 1024) (b := totalWidth)
      rw [hcenter, htotal, ← Int.ofNat_tdiv] at hquotient
      change Fits (exactProgress weight text place) → _ = (exactProgress weight text place : Int)
        at hquotient
      have hexact := hquotient ⟨by omega, by omega⟩
      have hword := toNat_toUInt32 ((x + Int32.ofNat place.offset - x +
        Int32.ofNat (weight place.item) / 2) * 1024 / totalWidth)
      rw [hexact, if_neg (by omega)] at hword
      rw [← UInt32.toNat_inj, UInt32.toNat_ofNat_of_lt' (by rw [UInt32.size]; omega)]
      exact_mod_cast hword
    next hnone =>
      rw [exactProgress, Nat.eq_zero_of_not_pos fun hpos => hnone (hpositive.mpr hpos),
        Nat.div_zero]
      rfl
  rw [progress1024]
  simp only [hraw]
  rw [if_neg]
  rw [gt_iff_lt, UInt32.lt_iff_toNat_lt, UInt32.toNat_ofNat_of_lt' (by rw [UInt32.size]; omega)]
  exact Nat.not_lt.mpr hle

-- ---------------------------------------------------------------------------
-- The six functions
-- ---------------------------------------------------------------------------

structure TextFunctions where
  drawGlyph : (x y : Int32) → (glyph : UInt8) → (color : Rgb) → Draw
  drawText : (x y : Int32) → (text : List UInt8) → (color : Rgb) → Draw
  measureText : (text : List UInt8) → Int32
  drawGradientText : (x y : Int32) → (text : List UInt8) → (start stop : Rgb) →
    (outlineThickness : UInt32) → Draw

/-- The functions of an atlas, with half the cell as the advance of a character
that the atlas does not have. -/
def atlasText (framebufferInfo : FramebufferInfo) (font : FontAtlas) : TextFunctions where
  drawGlyph x y glyph color :=
    drawGlyphAtlas framebufferInfo x y glyph color font.firstChar font.glyphCount font.glyphWidth
      font.glyphHeight font.alpha
  drawText x y text color := drawTextStringAtlas framebufferInfo x y text color font
  measureText text := measureTextStringAtlas text font (font.glyphWidth / 2)
  drawGradientText x y text start stop outlineThickness :=
    drawGradientOutlinedTextAtlas framebufferInfo x y text start stop outlineThickness font
      (font.glyphWidth / 2)

def scaledText (header : GeneratedBitmap) (framebufferInfo : FramebufferInfo) (scale : UInt32) :
    TextFunctions where
  drawGlyph x y glyph color := drawGlyphScaled header framebufferInfo x y glyph color scale
  drawText x y text color := drawTextStringScaled header framebufferInfo x y text color scale
  measureText text := measureTextStringScaled header text scale
  drawGradientText x y text start stop outlineThickness :=
    drawGradientOutlinedTextScaled header framebufferInfo x y text scale start stop
      outlineThickness

def penAt (start : Int32) (distance : Nat) : Int32 := start + Int32.ofNat distance

theorem toInt_penAt {start : Int32} {distance : Nat} (h : Fits (start.toInt + distance)) :
    (penAt start distance).toInt = start.toInt + distance := by
  have hword : penAt start distance = Int32.ofInt (start.toInt + distance) := by
    rw [penAt, Int32.ofInt_add, Int32.ofInt_toInt, Int32.ofInt_eq_ofNat]
  rw [hword]
  exact Int32.toInt_ofInt_of_le h.1 h.2

def gradientColor (start stop : Rgb) (progress : UInt32) : Rgb :=
  ⟨gradientChannel start.red stop.red progress, gradientChannel start.green stop.green progress,
    gradientChannel start.blue stop.blue progress⟩

def PensFit (x y : Int32) (height : Nat) (places : List (Placed UInt8)) : Prop :=
  ∀ place ∈ places,
    Fits (x.toInt + place.offset) ∧ Fits (y.toInt + (place.line * height : Nat))

namespace TextFunctions

/-- The outline: the text in black, at every other offset up to the thickness. -/
def outline (functions : TextFunctions) (x y : Int32) (text : List UInt8)
    (outlineThickness : UInt32) : Draw :=
  let thickness := outlineThickness.toInt32
  if outlineThickness ≠ 0 then
    (signedFromTo (-thickness) thickness).flatMap fun offsetY =>
      (signedFromTo (-thickness) thickness).flatMap fun offsetX =>
        if offsetX = 0 ∧ offsetY = 0 then []
        else functions.drawText (x + offsetX) (y + offsetY) text ⟨0, 0, 0⟩
  else []

/-- The functions walk through a text in the same way. -/
structure Walk (functions : TextFunctions) (advance : UInt8 → Int32) (lineHeight : Int32)
    (text : List UInt8) : Prop where
  drawText_eq : ∀ x y color, functions.drawText x y text color =
    (layoutText x lineHeight advance x y text).flatMap fun pen =>
      functions.drawGlyph pen.1 pen.2.1 pen.2.2 color
  measureText_eq : functions.measureText text = measureLines advance 0 0 text
  drawGradientText_eq : ∀ x y start stop outlineThickness,
    functions.drawGradientText x y text start stop outlineThickness =
      functions.outline x y text outlineThickness ++
        (layoutText x lineHeight advance x y text).flatMap fun pen =>
          functions.drawGlyph pen.1 pen.2.1 pen.2.2 (gradientColor start stop
            (progress1024 (functions.measureText text) x pen.1 (advance pen.2.2)))

/-- What the functions do with a text whose glyphs have the exact advances
`weight`: both drawing functions put each glyph at its exact place, the measured
width is the farthest that the pen comes on any line, and the gradient colours a
glyph by its place without leaving its ends. -/
structure Agree (functions : TextFunctions) (weight : UInt8 → Nat) (height : Nat) (x y : Int32)
    (text : List UInt8) : Prop where
  drawText_eq : ∀ color, functions.drawText x y text color =
    (placed newline weight 0 0 text).flatMap fun place =>
      functions.drawGlyph (penAt x place.offset) (penAt y (place.line * height)) place.item color
  drawGradientText_eq : ∀ start stop outlineThickness,
    functions.drawGradientText x y text start stop outlineThickness =
      functions.outline x y text outlineThickness ++
        (placed newline weight 0 0 text).flatMap fun place =>
          functions.drawGlyph (penAt x place.offset) (penAt y (place.line * height)) place.item
            (gradientColor start stop (UInt32.ofNat (exactProgress weight text place)))
  pens_exact : ∀ place ∈ placed newline weight 0 0 text,
    (penAt x place.offset).toInt = x.toInt + place.offset ∧
      (penAt y (place.line * height)).toInt = y.toInt + (place.line * height : Nat)
  measureText_greatest : ∃ width : Nat, (functions.measureText text).toInt = width ∧
    IsGreatest (reached newline weight 0 0 text) width
  progress_le : ∀ place ∈ placed newline weight 0 0 text, exactProgress weight text place ≤ 1024
  color_between : ∀ place ∈ placed newline weight 0 0 text, ∀ start stop : Rgb,
    start.Between stop (gradientColor start stop (UInt32.ofNat (exactProgress weight text place)))

theorem Walk.agree {functions : TextFunctions} {advance : UInt8 → Int32} {weight : UInt8 → Nat}
    {lineHeight : Int32} {height : Nat} {x y : Int32} {text : List UInt8}
    (hwalk : functions.Walk advance lineHeight text)
    (hadvance : ∀ glyph, advance glyph = Int32.ofNat (weight glyph))
    (hheight : lineHeight = Int32.ofNat height) (hwidth : widest newline weight text < 2 ^ 21)
    (hpens : PensFit x y height (placed newline weight 0 0 text)) :
    functions.Agree weight height x y text := by
  have hmeasure : (functions.measureText text).toInt = widest newline weight text := by
    rw [hwalk.measureText_eq]
    exact toInt_measureLines hadvance text (by omega)
  have hlayout : layoutText x lineHeight advance x y text =
      (placed newline weight 0 0 text).map fun place =>
        (penAt x place.offset, penAt y (place.line * height), place.item) := by
    have h := layoutText_eq hadvance x y (Int32.ofNat height) 0 0 text
    simpa [hheight, penAt, Int32.ofNat_mul] using h
  constructor
  case drawText_eq =>
    intro color
    rw [hwalk.drawText_eq, hlayout, List.flatMap_map]
  case drawGradientText_eq =>
    intro start stop outlineThickness
    rw [hwalk.drawGradientText_eq, hlayout, List.flatMap_map]
    refine congrArg _ (List.flatMap_congr fun place hplace => ?_)
    rw [← progress1024_eq hplace hwidth hmeasure x, ← hadvance]
    rfl
  case pens_exact =>
    intro place hplace
    obtain ⟨hx, hy⟩ := hpens place hplace
    exact ⟨toInt_penAt hx, toInt_penAt hy⟩
  case measureText_greatest => exact ⟨_, hmeasure, isGreatest_widest text⟩
  case progress_le => exact fun place => exactProgress_le
  case color_between =>
    intro place hplace start stop
    have hle := exactProgress_le hplace
    exact ⟨gradientChannel_mem_uIcc _ _ hle, gradientChannel_mem_uIcc _ _ hle,
      gradientChannel_mem_uIcc _ _ hle⟩

theorem walk_atlasText (framebufferInfo : FramebufferInfo) (font : FontAtlas) (text : List UInt8) :
    (atlasText framebufferInfo font).Walk (font.glyphAdvance (font.glyphWidth / 2).toInt32)
      font.glyphHeight.toInt32 text where
  drawText_eq _ _ _ := rfl
  measureText_eq := rfl
  drawGradientText_eq _ _ _ _ _ := rfl

theorem walk_scaledText (header : GeneratedBitmap) (framebufferInfo : FramebufferInfo)
    {scale : UInt32} (hscale : scale ≠ 0) (text : List UInt8) :
    (scaledText header framebufferInfo scale).Walk (scaledAdvance header scale)
      (header.font.glyphHeight * scale).toInt32 text where
  drawText_eq _ _ _ := if_neg hscale
  measureText_eq := if_neg hscale
  drawGradientText_eq _ _ _ _ _ := if_neg hscale

end TextFunctions

/-- The three functions of every atlas agree with the layout of a text, and those of
the enlarged font do at every scale. -/
theorem textFunctions_agree (framebufferInfo : FramebufferInfo) (x y : Int32)
    (text : List UInt8) :
    (∀ font : FontAtlas,
      widest newline (font.exactAdvance (font.glyphWidth / 2)) text < 2 ^ 21 →
      PensFit x y font.glyphHeight.toNat
        (placed newline (font.exactAdvance (font.glyphWidth / 2)) 0 0 text) →
      (atlasText framebufferInfo font).Agree (font.exactAdvance (font.glyphWidth / 2))
        font.glyphHeight.toNat x y text) ∧
    ∀ (header : GeneratedBitmap) (scale : UInt32), 0 < scale →
      widest newline (header.font.exactScaledAdvance scale) text < 2 ^ 21 →
      PensFit x y (header.font.glyphHeight.toNat * scale.toNat)
        (placed newline (header.font.exactScaledAdvance scale) 0 0 text) →
      (scaledText header framebufferInfo scale).Agree (header.font.exactScaledAdvance scale)
        (header.font.glyphHeight.toNat * scale.toNat) x y text := by
  constructor
  · intro font hwidth hpens
    exact (TextFunctions.walk_atlasText framebufferInfo font text).agree
      (glyphAdvance_eq font _) (toInt32_eq_ofNat _) hwidth hpens
  · intro header scale hscale hwidth hpens
    have hne : scale ≠ 0 := by
      rintro rfl
      exact absurd hscale (by decide)
    exact (TextFunctions.walk_scaledText header framebufferInfo hne text).agree
      (scaledAdvance_eq header scale) (toInt32_mul_eq_ofNat ..) hwidth hpens

def twoGlyphs : FontAtlas where
  firstChar := 65
  glyphCount := 2
  glyphWidth := 6
  glyphHeight := 4
  alpha := List.replicate 48 255
  advance := [3, 5]
  alpha_length := rfl
  advance_length := rfl

/-- Two lines, the second a character that the font does not have. -/
theorem textFunctions_agree_twoLines :
    (atlasText vgaScreen twoGlyphs).Agree (twoGlyphs.exactAdvance (twoGlyphs.glyphWidth / 2)) 4
        600 20 (text "AB
C") ∧
      (scaledText { plainBitmap with font := twoGlyphs } vgaScreen 2).Agree
        (twoGlyphs.exactScaledAdvance 2) 8 600 20 (text "AB
C") := by
  obtain ⟨hatlas, hscaled⟩ := textFunctions_agree vgaScreen 600 20 (text "AB
C")
  constructor
  · refine hatlas twoGlyphs (by decide) ?_
    have hplaces : placed newline (twoGlyphs.exactAdvance (twoGlyphs.glyphWidth / 2)) 0 0
        (text "AB
C") = [⟨0, 0, 65⟩, ⟨0, 3, 66⟩, ⟨1, 0, 67⟩] := by decide
    rw [hplaces]
    simp [PensFit, Fits, twoGlyphs]
  · refine hscaled { plainBitmap with font := twoGlyphs } 2 (by decide) (by decide) ?_
    have hplaces : placed newline (twoGlyphs.exactScaledAdvance 2) 0 0 (text "AB
C") =
        [⟨0, 0, 65⟩, ⟨0, 6, 66⟩, ⟨1, 0, 67⟩] := by decide
    show PensFit 600 20 8 (placed newline (twoGlyphs.exactScaledAdvance 2) 0 0 (text "AB
C"))
    rw [hplaces]
    simp [PensFit, Fits]

end DragonOS.Boot
