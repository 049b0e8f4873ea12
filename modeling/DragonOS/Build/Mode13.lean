import DragonOS.Build.FloppyBoot
import DragonOS.Build.Resize

/-!
# The picture of the floppy

`PackMode13Asset` makes of an image of 320 × 200 pixels what stage 2 expects: 256 colours of
the VGA and a byte for every pixel. A byte has three bits of red, three of green and two of
blue, and the colour with its number has these as its components.
-/

namespace DragonOS.Build

open Lib

namespace ImageTools

def scaleToVga (value maxValue : Int) : UInt8 := lowByte ((int32 (value * 63)).tdiv maxValue)

def storeVga332Color (palette : Bytes) (index : Nat) : Except Exception Bytes := do
  let red := (index >>> 5) &&& 0x07
  let green := (index >>> 2) &&& 0x07
  let blue := index &&& 0x03
  let palette ← store palette (int32 (int32 (index * 3) + 0)) (scaleToVga red 7)
  let palette ← store palette (int32 (int32 (index * 3) + 1)) (scaleToVga green 7)
  store palette (int32 (int32 (index * 3) + 2)) (scaleToVga blue 3)

def buildVga332Palette : Except Exception Bytes := do
  let palette ← newArray UInt8 (256 * 3)
  (List.range 256).foldlM storeVga332Color palette

def quantizeTo332 (pixel : Rgb24) : UInt8 :=
  let red := pixel.r.toNat >>> 5
  let green := pixel.g.toNat >>> 5
  let blue := pixel.b.toNat >>> 6
  lowByte ((red <<< 5 ||| green <<< 2 ||| blue : Nat) : Int)

def packPixel (image : BmpImage) (pixelBase : Int) (output : Bytes) (i : Nat) :
    Except Exception Bytes := do
  let pixel ← element image.pixels i
  store output (int32 (pixelBase + i)) (quantizeTo332 pixel)

def packMode13Asset (image : BmpImage) : Except Exception Bytes := do
  throwIf (image.width ≠ 320 ∨ image.height ≠ 200)
    (.invalidOperation "Expected a 320x200 image after resizing.")
  let palette ← buildVga332Palette
  let output ← newArray UInt8 (256 * 3 + 320 * 200)
  let output ← writeAt output 0 palette
  (List.range image.pixels.length).foldlM (packPixel image palette.length) output

-- ---------------------------------------------------------------------------
-- The colours
-- ---------------------------------------------------------------------------

def vga332Color (index : Nat) : Bytes :=
  [scaleToVga ((index >>> 5) &&& 0x07 : Nat) 7, scaleToVga ((index >>> 2) &&& 0x07 : Nat) 7,
    scaleToVga (index &&& 0x03 : Nat) 3]

def vga332Palette : Bytes := blocks 256 vga332Color

theorem newArray_fillTo (count : Nat) : newArray UInt8 count = .ok (fillTo 0 count []) :=
  newArray_ok.mpr ⟨Int.natCast_nonneg _, by
    rw [fillTo, List.nil_append, Int.toNat_natCast, List.take_of_length_le]
    exact List.length_replicate.le⟩

/-- `store_next`, at an index that is computed. -/
theorem store_behind {values : Bytes} {index : Int} (hindex : index = values.length) (value : UInt8)
    (h : values.length < count) :
    store (fillTo 0 count values) index value = .ok (fillTo 0 count (values ++ [value])) := by
  rw [hindex, store_next 0 values value h]

theorem storeVga332Color_eq {colors : Bytes} (hcolors : colors.length = 3 * index)
    (hindex : index < 256) :
    storeVga332Color (fillTo 0 768 colors) index =
      .ok (fillTo 0 768 (colors ++ vga332Color index)) := by
  have hbase : int32 ((index : Int) * 3) = (3 * index : Nat) := by
    rw [int32_eq (by omega) (by omega)]
    omega
  have hplace (component : Nat) (hcomponent : component < 3) :
      int32 ((3 * index : Nat) + (component : Int)) = (3 * index + component : Nat) := by
    rw [int32_eq (by omega) (by omega)]
    omega
  have hred := hplace 0 (by decide)
  have hgreen := hplace 1 (by decide)
  have hblue := hplace 2 (by decide)
  rw [storeVga332Color, hbase]
  simp only [Nat.cast_zero, Nat.cast_one, Nat.cast_ofNat] at hred hgreen hblue
  rw [store_behind (hred.trans (by rw [hcolors, Nat.add_zero])) _ (by omega), ok_bind,
    store_behind (hgreen.trans (by simp [hcolors])) _ (by simp [hcolors]; omega), ok_bind,
    store_behind (hblue.trans (by simp [hcolors])) _ (by simp [hcolors]; omega)]
  rw [List.append_assoc, List.append_assoc, vga332Color]
  rfl

theorem length_vga332Color (index : Nat) : (vga332Color index).length = 3 := rfl

theorem length_vga332Palette : vga332Palette.length = 768 :=
  length_blocks fun index _ => length_vga332Color index

theorem buildVga332Palette_eq : buildVga332Palette = .ok vga332Palette := by
  have hloop (count : Nat) (hcount : count ≤ 256) :
      (List.range count).foldlM storeVga332Color (fillTo 0 768 []) =
        .ok (fillTo 0 768 (blocks count vga332Color)) := by
    induction count with
    | zero => rfl
    | succ count ih =>
      have hlength : (blocks count vga332Color).length = count * 3 :=
        length_blocks fun index _ => length_vga332Color index
      rw [foldlM_range_succ, ih (by omega), ok_bind, storeVga332Color_eq (by omega) (by omega),
        blocks_succ]
  have hzeros : newArray UInt8 (256 * 3) = .ok (fillTo 0 768 []) := newArray_fillTo 768
  have hfull := fillTo_self 0 vga332Palette
  rw [length_vga332Palette] at hfull
  rw [buildVga332Palette, hzeros, ok_bind, hloop 256 (Nat.le_refl _), ← vga332Palette, hfull]

-- ---------------------------------------------------------------------------
-- The image
-- ---------------------------------------------------------------------------

theorem packMode13Asset_eq {image : BmpImage} (himage : image.Complete) (hwidth : image.width = 320)
    (hheight : image.height = 200) :
    packMode13Asset image = .ok (vga332Palette ++ image.pixels.map quantizeTo332) := by
  have hpixels : image.pixels.length = 64000 := himage.length_pixels hwidth hheight
  have hpalette := length_vga332Palette
  have hzeros : newArray UInt8 (256 * 3 + 320 * 200) = .ok (fillTo 0 64768 []) :=
    newArray_fillTo 64768
  have hfirst : writeAt (fillTo 0 64768 []) 0 vga332Palette = .ok (fillTo 0 64768 vga332Palette) := by
    refine writeAt_ok.mpr ⟨Int.le_refl 0, by rw [length_fillTo, hpalette]; decide, ?_⟩
    have hfill := fillTo_of_le (0 : UInt8) (show vga332Palette.length ≤ 64768 by omega)
    rw [Int.toNat_zero, overwrite, hfill, fillTo_of_le _ (Nat.zero_le _), List.take_zero, List.nil_append, List.nil_append,
      List.drop_replicate, List.length_nil, Nat.zero_add, Nat.sub_zero]
  have hread (i : Nat) (hi : i < 64000) : quantizeTo332 <$> element image.pixels i =
      .ok (quantizeTo332 (image.pixels.getD i 0)) := by
    rw [element_getD 0 (by omega)]
    rfl
  have hstep (values : Bytes) (hvalues : values.length < 64000) :
      packPixel image vga332Palette.length (fillTo 0 64768 (vga332Palette ++ values)) values.length =
        quantizeTo332 <$> element image.pixels values.length >>= fun value =>
          .ok (fillTo 0 64768 (vga332Palette ++ (values ++ [value]))) := by
    have hplace : int32 ((vga332Palette.length : Int) + values.length) =
        (vga332Palette ++ values).length := by
      rw [int32_eq (by omega) (by omega), List.length_append, Int.natCast_add]
    rw [packPixel, hplace, hread _ hvalues, element_getD 0 (by omega), ok_bind, ok_bind, store_next,
      List.append_assoc]
    rw [List.length_append]
    omega
  have hloop := @foldlM_range_fill _ _ _ _ (fun i => quantizeTo332 <$> element image.pixels i) 64000
    (fun values => fillTo 0 64768 (vga332Palette ++ values)) hstep
  rw [List.append_nil, mapM_range_eq hread, ok_bind] at hloop
  have hsize : throwIf (image.width ≠ 320 ∨ image.height ≠ 200)
      (.invalidOperation "Expected a 320x200 image after resizing.") = .ok () :=
    throwIf_ok.mpr (by omega)
  rw [packMode13Asset, hsize, ok_bind, buildVga332Palette_eq, ok_bind, hzeros, ok_bind, hfirst,
    ok_bind, hpixels, hloop]
  have hmap : (List.range 64000).map (fun i => quantizeTo332 (image.pixels.getD i 0)) =
      image.pixels.map quantizeTo332 := by
    nth_rewrite 2 [← @map_getD_range _ _ _ 0 id hpixels fun _ _ => rfl]
    rw [List.map_map]
    rfl
  rw [hmap]
  have hfull := fillTo_self 0 (vga332Palette ++ image.pixels.map quantizeTo332)
  rw [List.length_append, List.length_map, hpixels, hpalette] at hfull
  rw [hfull]

-- ---------------------------------------------------------------------------
-- What is seen
-- ---------------------------------------------------------------------------

def vgaColor (pixel : Rgb24) : Bytes :=
  [UInt8.ofNat (9 * (pixel.r.toNat / 32)), UInt8.ofNat (9 * (pixel.g.toNat / 32)),
    UInt8.ofNat (21 * (pixel.b.toNat / 64))]

theorem vga332Color_parts : ∀ red < 8, ∀ green < 8, ∀ blue < 4,
    vga332Color (lowByte ((red <<< 5 ||| green <<< 2 ||| blue : Nat) : Int)).toNat =
      [UInt8.ofNat (9 * red), UInt8.ofNat (9 * green), UInt8.ofNat (21 * blue)] := by
  decide +kernel

theorem vga332Color_quantizeTo332 (pixel : Rgb24) :
    vga332Color (quantizeTo332 pixel).toNat = vgaColor pixel := by
  have hred := pixel.r.toNat_lt
  have hgreen := pixel.g.toNat_lt
  have hblue := pixel.b.toNat_lt
  rw [quantizeTo332, vgaColor]
  simp only [Nat.shiftRight_eq_div_pow]
  exact vga332Color_parts _ (by omega) _ (by omega) _ (by omega)

theorem vga332Color_sixBits : ∀ index < 256, ∀ component < 3,
    (vga332Color index).getD component 0 &&& 0x3F = (vga332Color index).getD component 0 := by
  decide +kernel

theorem getD_vga332Palette (hindex : index < 256) (hcomponent : component < 3) :
    (vga332Palette ++ pixels).getD (3 * index + component) 0 =
      (vga332Color index).getD component 0 := by
  have hplace := getElem?_blocks (fun index _ => length_vga332Color index) hindex hcomponent
  have hpalette := length_vga332Palette
  rw [← vga332Palette, Nat.mul_comm] at hplace
  rw [List.getD_eq_getElem?_getD, List.getElem?_append_left (by omega), hplace,
    List.getD_eq_getElem?_getD]

end ImageTools

section
variable {splash : BmpImage}

open ImageTools

/-- The colour that mode 13h shows at a place of the screen. -/
def Machine.screenColor (machine : Machine) (place : Nat) : Bytes :=
  let index := (machine.memory (0xA0000 + place)).toNat
  [machine.vga.colours (3 * index), machine.vga.colours (3 * index + 1),
    machine.vga.colours (3 * index + 2)]

theorem Shown.paletteColor {pixels : Bytes} {events : List Event} {machine : Machine}
    (h : Shown (vga332Palette ++ pixels) events machine) (hindex : index < 256)
    (hcomponent : component < 3) :
    machine.vga.colours (3 * index + component) = (vga332Color index).getD component 0 := by
  rw [h.colours (3 * index + component) (by omega), getD_vga332Palette hindex hcomponent,
    vga332Color_sixBits index hindex component hcomponent]

theorem Shown.screenColor {image : BmpImage} {events : List Event} {machine : Machine}
    (h : Shown (vga332Palette ++ image.pixels.map quantizeTo332) events machine)
    (hpixels : image.pixels.length = 64000) (hplace : place < 64000) :
    machine.screenColor place = vgaColor (image.pixels.getD place 0) := by
  have hpalette := length_vga332Palette
  have hindex : machine.memory (0xA0000 + place) = quantizeTo332 (image.pixels.getD place 0) := by
    rw [h.pixels place hplace, List.getD_eq_getElem?_getD, List.getElem?_append_right (by omega),
      hpalette, Nat.add_sub_cancel_left, List.getElem?_map, List.getElem?_eq_getElem (by omega),
      List.getD_eq_getElem?_getD, List.getElem?_eq_getElem (by omega)]
    rfl
  have hcolor (component : Nat) (hcomponent : component < 3) :=
    h.paletteColor (quantizeTo332 (image.pixels.getD place 0)).toNat_lt hcomponent
  have hfirst := hcolor 0 (by decide)
  rw [Nat.add_zero] at hfirst
  rw [Machine.screenColor, hindex]
  simp only [hfirst, hcolor 1 (by decide), hcolor 2 (by decide), vga332Color_quantizeTo332]
  rfl

-- ---------------------------------------------------------------------------
-- From the splash to the screen
-- ---------------------------------------------------------------------------

/-- The part of `Main` that goes from the splash image to the floppy. -/
def buildLegacyFloppy (splashSource : BmpImage) : Except Failure Floppy := do
  let legacyResized ← resizeNearest splashSource 320 200
  let packedImage ← (packMode13Asset legacyResized : Except Exception Bytes)
  (buildFloppy packedImage : Except Exception Floppy)

/-- The copy and the loops rearrange the pixels alike. -/
theorem resizeNearest_eq {source : BmpImage} {width height targetWidth targetHeight : Nat}
    (hsource : source.Complete) (hwidth : source.width = width) (hheight : source.height = height)
    (htargetWidth : 0 < targetWidth) (htargetHeight : 0 < targetHeight)
    (hsize : height * width < 2 ^ 31) (hrows : targetHeight * height < 2 ^ 31)
    (hcolumns : targetWidth * width < 2 ^ 31) (htarget : targetHeight * targetWidth < 2 ^ 31) :
    resizeNearest source targetWidth targetHeight =
      .ok (source.rearranged targetWidth targetHeight
        (sourceIndex width height targetWidth targetHeight)) := by
  rw [resizeNearest]
  split
  next hequal =>
    obtain rfl : width = targetWidth := Int.natCast_inj.mp (hwidth.symm.trans hequal.1)
    obtain rfl : height = targetHeight := Int.natCast_inj.mp (hheight.symm.trans hequal.2)
    rw [BmpImage.rearranged_self hsource hwidth hheight]
    intro i hi
    rw [sourceIndex, sample_self htargetHeight, sample_self htargetWidth, Nat.mul_comm]
    exact Nat.div_add_mod i width
  next => exact resizeLoop_eq hsource hwidth hheight hsize hrows hcolumns htarget

theorem resizeNearest_screen (hsplash : splash.Complete)
    (hsize : splash.height * splash.width < 2 ^ 31) (hrows : 200 * splash.height < 2 ^ 31)
    (hcolumns : 320 * splash.width < 2 ^ 31) :
    ∃ resized, resizeNearest splash 320 200 = .ok resized ∧ resized.width = 320 ∧
      resized.height = 200 ∧ Samples splash resized := by
  obtain ⟨width, hwidth⟩ := Int.eq_ofNat_of_zero_le hsplash.width_pos.le
  obtain ⟨height, hheight⟩ := Int.eq_ofNat_of_zero_le hsplash.height_pos.le
  rw [hwidth] at hsize hcolumns
  rw [hheight] at hsize hrows
  norm_cast at hsize hrows hcolumns
  exact ⟨_, resizeNearest_eq hsplash hwidth hheight (by decide) (by decide) hsize hrows hcolumns
    (by decide), rfl, rfl, samples_rearranged hsplash hwidth hheight (by decide) (by decide)⟩

/-- A machine that boots from the floppy of a splash image shows what is left of that image at
320 × 200 pixels and 256 colours, and goes on showing it. When a read fails it says so. -/
theorem legacyFloppy_boots (hsplash : splash.Complete)
    (hsize : splash.height * splash.width < 2 ^ 31) (hrows : 200 * splash.height < 2 ^ 31)
    (hcolumns : 320 * splash.width < 2 ^ 31) :
    ∃ floppy, buildLegacyFloppy splash = .ok floppy ∧ ∀ drive machine,
      BootSectorEntry drive (slice floppy.disk 0 512) machine →
        Eventually (Step floppy.disk drive)
          (fun after => Forever (Step floppy.disk drive) (fun shown => shown.vga.mode = 0x13 ∧
              ∀ y < 200, ∀ x < 320, shown.screenColor (y * 320 + x) = vgaColor (splash.pixelAt
                (sample (rows splash) 200 y * columns splash + sample (columns splash) 320 x)).1) after ∨
            floppy.Fails drive machine.events after)
          machine := by
  obtain ⟨resized, hresized, hwidth, hheight, hsamples⟩ :=
    resizeNearest_screen hsplash hsize hrows hcolumns
  have hpixels : resized.pixels.length = 64000 := hsamples.complete.length_pixels hwidth hheight
  have hpacked := packMode13Asset_eq hsamples.complete hwidth hheight
  have hlength : (vga332Palette ++ resized.pixels.map quantizeTo332).length = 64768 := by
    rw [List.length_append, length_vga332Palette, List.length_map, hpixels]
  obtain ⟨floppy, hfloppy⟩ := buildFloppy_returns hlength
  obtain ⟨sectors, count, hsectors, hcount, hcountEq, hboot⟩ :=
    buildFloppy_bootable (by omega) hfloppy
  refine ⟨floppy, ?_, fun drive machine hentry => ?_⟩
  · rw [buildLegacyFloppy, hresized, ok_bind, liftM_eq hpacked, ok_bind, liftM_eq hfloppy]
  refine (hboot.boots hsectors hcount (by omega) hentry).mono fun after hafter =>
    hafter.imp_left fun hshown => hshown.mono fun shown h => ⟨h.mode, fun y hy x hx => ?_⟩
  have hcolumns : columns resized = 320 := by rw [columns, hwidth]; rfl
  have hrows : rows resized = 200 := by rw [rows, hheight]; rfl
  have hpixel := hsamples.pixel y (by omega) x (by omega)
  rw [sourceRow, sourceColumn, hcolumns, hrows] at hpixel
  rw [← hpixel]
  exact h.screenColor hpixels (by omega)

theorem legacyFloppy_boots_pair : ∃ floppy, buildLegacyFloppy pairImage = .ok floppy ∧
    Eventually (Step floppy.disk 0)
      (fun after => Forever (Step floppy.disk 0) (fun shown => shown.vga.mode = 0x13 ∧
          ∀ y < 200, ∀ x < 320, shown.screenColor (y * 320 + x) =
            vgaColor (pairImage.pixelAt (sample 1 200 y * 2 + sample 2 320 x)).1) after ∨
        floppy.Fails 0 [] after)
      (Machine.atBootSector 0 (slice floppy.disk 0 512)) := by
  obtain ⟨floppy, hfloppy, hboots⟩ :=
    legacyFloppy_boots pairImage_complete (by decide) (by decide) (by decide)
  exact ⟨floppy, hfloppy, hboots 0 _ (Machine.atBootSector_entry 0 _)⟩

end

end DragonOS.Build
