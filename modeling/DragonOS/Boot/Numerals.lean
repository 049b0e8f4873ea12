import DragonOS.Boot.StatusScreen
import DragonOS.Lib.Numerals

/-!
# Numbers in texts

`AppendInt` collects the digits in an array on the stack, from the last one to the first, and
copies them backwards. The array is large enough, and what is appended is the one canonical
numeral of the number (`appendNumbers_read`).
-/

namespace DragonOS.Boot

open Lib

-- ---------------------------------------------------------------------------
-- The array of digits
-- ---------------------------------------------------------------------------

/-- `digits[count++] = ...`, as long as the magnitude lasts. A write outside of the array has
no result. -/
def storeDigits (digits : Vector UInt8 16) (count magnitude : UInt32) :
    Option (Vector UInt8 16 × UInt32) :=
  if hmagnitude : magnitude > 0 then
    if hinside : count.toNat < 16 then
      storeDigits (digits.set count.toNat (48 + magnitude % 10).toUInt8) (count + 1) (magnitude / 10)
    else none
  else some (digits, count)
termination_by magnitude.toNat
decreasing_by
  rw [UInt32.toNat_div]
  exact Nat.div_lt_self (UInt32.lt_iff_toNat_lt.mp hmagnitude) (by decide)

/-- `digits[--count]`, down to the first. -/
def fetchDigits (digits : Vector UInt8 16) : (count : Nat) → Option (List UInt8)
  | 0 => some []
  | count + 1 => do
    let digit ← digits[count]?
    let rest ← fetchDigits digits count
    some (digit :: rest)

/-- `appendInt` with its array, which has any contents at first. -/
def appendIntChecked (digits : Vector UInt8 16) (value : Int32) : Option (List UInt8) :=
  if value = 0 then some (text "0")
  else do
    let (sign, magnitude) :=
      if value < 0 then (text "-", (-value).toUInt32) else ([], value.toUInt32)
    let (digits, count) ← storeDigits digits 0 magnitude
    let stored ← fetchDigits digits count.toNat
    some (sign ++ stored)

theorem decimalDigits_zero : decimalDigits 0 = [] := by
  rw [decimalDigits, if_pos rfl]

theorem decimalDigits_of_pos {magnitude : Nat} (h : 0 < magnitude) :
    decimalDigits magnitude =
      decimalDigits (magnitude / 10) ++ [UInt8.ofNat (48 + magnitude % 10)] := by
  rw [decimalDigits, if_neg (by omega)]

theorem decimalDigits_eq (magnitude : Nat) :
    decimalDigits magnitude =
      (Nat.digits 10 magnitude).reverse.map fun digit => UInt8.ofNat (48 + digit) := by
  induction magnitude using Nat.strong_induction_on with
  | _ magnitude ih =>
    rcases Nat.eq_zero_or_pos magnitude with rfl | hpos
    · rw [decimalDigits_zero, Nat.digits_zero]
      rfl
    · rw [decimalDigits_of_pos hpos, ih _ (Nat.div_lt_self hpos (by decide)),
        Nat.digits_def' (by decide) hpos, List.reverse_cons, List.map_append]
      rfl

theorem decimalDigits_head {magnitude : Nat} (hpos : 0 < magnitude) :
    ∃ letter rest, decimalDigits magnitude = letter :: rest ∧ 48 < letter.toNat := by
  induction magnitude using Nat.strong_induction_on with
  | _ magnitude ih =>
    rw [decimalDigits_of_pos hpos]
    rcases Nat.eq_zero_or_pos (magnitude / 10) with hzero | hmore
    · refine ⟨_, [], by rw [hzero, decimalDigits_zero, List.nil_append], ?_⟩
      rw [UInt8.toNat_ofNat_of_lt' (by rw [UInt8.size]; omega)]
      omega
    · obtain ⟨letter, rest, hdigits, hletter⟩ := ih _ (Nat.div_lt_self hpos (by decide)) hmore
      exact ⟨letter, _, by rw [hdigits, List.cons_append], hletter⟩

theorem length_decimalDigits_le {magnitude length : Nat} (h : magnitude < 10 ^ length) :
    (decimalDigits magnitude).length ≤ length := by
  rw [decimalDigits_eq, List.length_map, List.length_reverse]
  exact (Nat.digits_length_le_iff (by decide) magnitude).mpr h

theorem take_succ_set (digits : Vector UInt8 16) (digit : UInt8) (hinside : count < 16) :
    (digits.set count digit).toList.take (count + 1) = digits.toList.take count ++ [digit] := by
  rw [Vector.toList_set, List.take_add_one, List.take_set_of_le (Nat.le_refl _),
    List.getElem?_set_self (by rw [Vector.length_toList]; exact hinside)]
  rfl

/-- What the loop adds to the array are the digits, the last one first. -/
theorem storeDigits_spec (digits : Vector UInt8 16) (count magnitude : UInt32)
    (hroom : count.toNat + (decimalDigits magnitude.toNat).length ≤ 16) :
    ∃ after last, storeDigits digits count magnitude = some (after, last) ∧
      last.toNat = count.toNat + (decimalDigits magnitude.toNat).length ∧
      after.toList.take last.toNat =
        digits.toList.take count.toNat ++ (decimalDigits magnitude.toNat).reverse := by
  fun_induction storeDigits digits count magnitude with
  | case1 digits count magnitude hpos hinside ih =>
    have hdigit : (48 + magnitude % 10).toUInt8 = UInt8.ofNat (48 + magnitude.toNat % 10) := by
      rw [← UInt8.toNat_inj]
      simp
    have hnext : (count + 1).toNat = count.toNat + 1 :=
      toNat_add_of_lt (Nat.lt_of_lt_of_le (Nat.succ_lt_succ hinside) (by decide))
    have hdigits := decimalDigits_of_pos (UInt32.lt_iff_toNat_lt.mp hpos)
    have hquotient : (magnitude / 10).toNat = magnitude.toNat / 10 := UInt32.toNat_div _ _
    rw [hdigits, List.length_append, List.length_singleton] at hroom
    rw [hquotient, hnext] at ih
    obtain ⟨after, last, hstore, hlast, htake⟩ := ih (by omega)
    refine ⟨after, last, hstore, ?_, ?_⟩
    · rw [hlast, hdigits, List.length_append, List.length_singleton]
      omega
    · rw [htake, take_succ_set _ _ hinside, hdigits, List.reverse_append, hdigit,
        List.append_assoc]
      rfl
  | case2 digits count magnitude hpos houtside =>
    rw [decimalDigits_of_pos (UInt32.lt_iff_toNat_lt.mp hpos), List.length_append,
      List.length_singleton] at hroom
    omega
  | case3 digits count magnitude hzero =>
    have hnone : magnitude.toNat = 0 :=
      Nat.eq_zero_of_not_pos fun hpos => hzero (UInt32.lt_iff_toNat_lt.mpr hpos)
    refine ⟨digits, count, rfl, ?_, ?_⟩
    · rw [hnone, decimalDigits_zero]
      rfl
    · rw [hnone, decimalDigits_zero, List.reverse_nil, List.append_nil]

theorem fetchDigits_eq (digits : Vector UInt8 16) (count : Nat) (hcount : count ≤ 16) :
    fetchDigits digits count = some (digits.toList.take count).reverse := by
  induction count with
  | zero => rfl
  | succ count ih =>
    have hread : digits.toList[count]? = digits[count]? := Vector.getElem?_toList
    rw [fetchDigits, ih (by omega), List.take_add_one, hread, Vector.getElem?_eq_getElem (by omega),
      List.reverse_append]
    rfl

theorem storeDigits_fetchDigits (digits : Vector UInt8 16) (magnitude : UInt32) :
    ((storeDigits digits 0 magnitude).bind fun (digits, count) =>
      fetchDigits digits count.toNat) = some (decimalDigits magnitude.toNat) := by
  have hlength : (decimalDigits magnitude.toNat).length ≤ 10 :=
    length_decimalDigits_le (Nat.lt_trans magnitude.toNat_lt (by decide))
  obtain ⟨after, last, hstore, hlast, htake⟩ := storeDigits_spec digits 0 magnitude
    (by rw [UInt32.toNat_zero]; omega)
  rw [UInt32.toNat_zero, Nat.zero_add] at hlast
  have hfetch := fetchDigits_eq after last.toNat (by omega)
  rw [htake, UInt32.toNat_zero, List.take_zero, List.nil_append, List.reverse_reverse] at hfetch
  rw [hstore]
  exact hfetch

theorem appendIntChecked_eq (digits : Vector UInt8 16) (value : Int32) :
    appendIntChecked digits value = some (appendInt value) := by
  have happend (sign : List UInt8) (magnitude : UInt32) :
      (do
        let (digits, count) ← storeDigits digits 0 magnitude
        let stored ← fetchDigits digits count.toNat
        some (sign ++ stored)) = some (sign ++ decimalDigits magnitude.toNat) := by
    have hstored := storeDigits_fetchDigits digits magnitude
    cases hstore : storeDigits digits 0 magnitude with
    | none =>
      rw [hstore] at hstored
      cases hstored
    | some result =>
      rw [hstore, Option.bind_some] at hstored
      simp only [Option.bind_eq_bind, Option.bind_some, hstored]
  unfold appendIntChecked appendInt
  split
  next => rfl
  next =>
    by_cases hneg : value < 0
    · simp only [if_pos hneg]
      exact happend _ _
    · simp only [if_neg hneg]
      exact happend _ _

-- ---------------------------------------------------------------------------
-- Reading numerals
-- ---------------------------------------------------------------------------

def decimalDigit (letter : UInt8) : Option Nat :=
  if 48 ≤ letter ∧ letter ≤ 57 then some (letter.toNat - 48) else none

/-- The letters are capitals. -/
def hexDigit (letter : UInt8) : Option Nat :=
  if 65 ≤ letter ∧ letter ≤ 70 then some (letter.toNat - 55) else decimalDigit letter

/-- A numeral that does not start with a zero, unless it is the zero. -/
def readMagnitude (text : List UInt8) : Option Nat :=
  if text.head? = some 48 ∧ text.length ≠ 1 then none else readNumeral 10 decimalDigit text

/-- The number that a canonical numeral stands for: there is no `-0` and there is no `+`. -/
def readInt : List UInt8 → Option Int
  | 45 :: rest =>
    if rest.head? = some 48 then none
    else (readMagnitude rest).map fun magnitude : Nat => -(magnitude : Int)
  | text => (readMagnitude text).map Int.ofNat

theorem decimalDigit_write {digit : Nat} (h : digit < 10) :
    decimalDigit (UInt8.ofNat (48 + digit)) = some digit := by
  have hread : ∀ digit : Fin 10, decimalDigit (UInt8.ofNat (48 + digit)) = some digit.val := by
    decide
  exact hread ⟨digit, h⟩

theorem decimalDigit_eq_some {letter : UInt8} (h : decimalDigit letter = some digit) :
    digit < 10 ∧ letter = UInt8.ofNat (48 + digit) := by
  unfold decimalDigit at h
  split at h
  next hrange =>
    have hlow : 48 ≤ letter.toNat := UInt8.le_iff_toNat_le.mp hrange.1
    have hhigh : letter.toNat ≤ 57 := UInt8.le_iff_toNat_le.mp hrange.2
    obtain rfl := Option.some.inj h
    refine ⟨by omega, ?_⟩
    rw [Nat.add_sub_cancel' hlow, UInt8.ofNat_toNat]
  next => cases h

def magnitudeNumeral (magnitude : Nat) : List UInt8 :=
  if magnitude = 0 then [48] else decimalDigits magnitude

def intNumeral (value : Int) : List UInt8 :=
  if value < 0 then 45 :: magnitudeNumeral value.natAbs else magnitudeNumeral value.natAbs

theorem magnitudeNumeral_of_pos {magnitude : Nat} (hpos : 0 < magnitude) :
    magnitudeNumeral magnitude = decimalDigits magnitude := if_neg hpos.ne'

theorem magnitudeNumeral_head (magnitude : Nat) :
    ∃ letter rest, magnitudeNumeral magnitude = letter :: rest ∧ 48 ≤ letter.toNat := by
  rcases Nat.eq_zero_or_pos magnitude with rfl | hpos
  · exact ⟨48, [], rfl, Nat.le_refl _⟩
  · obtain ⟨letter, rest, hdigits, hletter⟩ := decimalDigits_head hpos
    exact ⟨letter, rest, (magnitudeNumeral_of_pos hpos).trans hdigits, hletter.le⟩

theorem decimalDigits_head_ne {magnitude : Nat} (hpos : 0 < magnitude) :
    (decimalDigits magnitude).head? ≠ some 48 := by
  obtain ⟨letter, rest, hdigits, hletter⟩ := decimalDigits_head hpos
  rw [hdigits, List.head?_cons]
  intro hzero
  rw [Option.some.inj hzero] at hletter
  exact absurd hletter (by decide)

theorem length_magnitudeNumeral_le {magnitude : Nat} (h : magnitude < 10 ^ 10) :
    (magnitudeNumeral magnitude).length ≤ 10 := by
  unfold magnitudeNumeral
  split
  next => decide
  next => exact length_decimalDigits_le h

theorem length_intNumeral_le {value : Int} (h : value.natAbs < 10 ^ 10) :
    (intNumeral value).length ≤ 11 := by
  have hlength := length_magnitudeNumeral_le h
  unfold intNumeral
  split
  next => exact Nat.succ_le_succ hlength
  next => exact hlength.trans (by decide)

theorem eq_of_readMagnitude (h : readMagnitude letters = some magnitude) :
    letters = magnitudeNumeral magnitude := by
  unfold readMagnitude at h
  split at h
  next => cases h
  next hcanonical =>
    unfold readNumeral at h
    split at h
    next => cases h
    next hne =>
      obtain ⟨digits, hdigits, rfl⟩ := Option.map_eq_some_iff.mp h
      obtain ⟨hsmall, rfl⟩ := eq_map_of_mapM (fun _ _ => decimalDigit_eq_some) hdigits
      cases digits with
      | nil => exact absurd rfl hne
      | cons digit rest =>
        by_cases hzero : digit = 0
        · have hsingle : rest = [] := by
            by_contra hmore
            refine hcanonical ⟨by rw [hzero]; rfl, fun hlength => hmore ?_⟩
            rw [List.length_map, List.length_cons] at hlength
            exact List.length_eq_zero_iff.mp (Nat.succ_inj.mp hlength)
          rw [hzero, hsingle]
          rfl
        · have hdigits : Nat.digits 10 (Nat.ofDigits 10 (digit :: rest).reverse) =
              (digit :: rest).reverse := by
            refine Nat.digits_ofDigits 10 (by decide) _
              (fun digit hdigit => hsmall digit (List.mem_reverse.mp hdigit)) fun hreversed => ?_
            rw [List.getLast_reverse, List.head_cons]
            exact hzero
          have hnonzero : Nat.ofDigits 10 (digit :: rest).reverse ≠ 0 := by
            intro hvanish
            rw [hvanish, Nat.digits_zero] at hdigits
            exact List.cons_ne_nil _ _ (List.reverse_eq_nil_iff.mp hdigits.symm)
          rw [magnitudeNumeral, if_neg hnonzero, decimalDigits_eq, hdigits, List.reverse_reverse]

theorem readMagnitude_magnitudeNumeral (magnitude : Nat) :
    readMagnitude (magnitudeNumeral magnitude) = some magnitude := by
  rcases Nat.eq_zero_or_pos magnitude with rfl | hpos
  · rfl
  · rw [magnitudeNumeral_of_pos hpos]
    have hne : (Nat.digits 10 magnitude).reverse ≠ [] :=
      fun hnil => Nat.digits_ne_nil_iff_ne_zero.mpr hpos.ne' (List.reverse_eq_nil_iff.mp hnil)
    have hread : readNumeral 10 _ _ = _ := readNumeral_map hne
      (fun digit hdigit => decimalDigit_write
        (Nat.digits_lt_base (by decide) (List.mem_reverse.mp hdigit)))
    rw [← decimalDigits_eq, List.reverse_reverse, Nat.ofDigits_digits] at hread
    rw [readMagnitude, if_neg fun hzero => decimalDigits_head_ne hpos hzero.1, hread]

theorem eq_of_readInt {value : Int} (h : readInt letters = some value) :
    letters = intNumeral value := by
  unfold readInt at h
  split at h
  next rest =>
    split at h
    next => cases h
    next hhead =>
      obtain ⟨magnitude, hmagnitude, rfl⟩ := Option.map_eq_some_iff.mp h
      have hrest := eq_of_readMagnitude hmagnitude
      have hpos : 0 < magnitude := Nat.pos_of_ne_zero fun hzero => by
        rw [hrest, hzero] at hhead
        exact hhead rfl
      rw [intNumeral, if_pos (by omega), Int.natAbs_neg, Int.natAbs_natCast, hrest]
  next =>
    obtain ⟨magnitude, hmagnitude, rfl⟩ := Option.map_eq_some_iff.mp h
    rw [Int.ofNat_eq_natCast, intNumeral, if_neg (Int.not_lt.mpr (Int.natCast_nonneg magnitude))]
    exact eq_of_readMagnitude hmagnitude

theorem readInt_intNumeral (value : Int) : readInt (intNumeral value) = some value := by
  unfold intNumeral
  split
  next hneg =>
    have hpos : 0 < value.natAbs := Int.natAbs_pos.mpr hneg.ne
    have hhead := decimalDigits_head_ne hpos
    rw [← magnitudeNumeral_of_pos hpos] at hhead
    rw [readInt, if_neg hhead, readMagnitude_magnitudeNumeral, Option.map_some,
      Int.ofNat_natAbs_of_nonpos hneg.le, Int.neg_neg]
  next hnonneg =>
    obtain ⟨letter, rest, hletters, hletter⟩ := magnitudeNumeral_head value.natAbs
    have hunsigned : readInt (magnitudeNumeral value.natAbs) =
        (readMagnitude (magnitudeNumeral value.natAbs)).map Int.ofNat := by
      rw [hletters, readInt]
      rintro rest' heq
      rw [(List.cons.inj heq).1] at hletter
      exact absurd hletter (by decide)
    rw [hunsigned, readMagnitude_magnitudeNumeral]
    exact congrArg some (Int.natAbs_of_nonneg (Int.not_lt.mp hnonneg))

/-- The negation wraps at the smallest number, and the conversion makes that good. -/
theorem toNat_neg_toUInt32 {value : Int32} (hneg : value.toInt < 0) :
    (-value).toUInt32.toNat = value.toInt.natAbs := by
  have hlow := value.le_toInt
  have hconvert := toNat_toUInt32 (-value)
  have hwrap : (-value).toInt = if value.toInt = -2 ^ 31 then -2 ^ 31 else -value.toInt := by
    rw [Int32.toInt_neg]
    split
    next hsmallest => rw [hsmallest]; rfl
    next hlarger => exact Int.bmod_eq_of_le (by omega) (by omega)
  rw [hwrap] at hconvert
  split at hconvert <;> split at hconvert <;> omega

theorem appendInt_eq (value : Int32) : appendInt value = intNumeral value.toInt := by
  unfold appendInt
  split
  next hzero =>
    rw [hzero]
    rfl
  next hne =>
    have hnonzero : value.toInt ≠ 0 := fun h => hne (Int32.toInt_inj.mp h)
    rw [intNumeral, magnitudeNumeral_of_pos (Int.natAbs_pos.mpr hnonzero)]
    split
    next hneg =>
      have hsign : value.toInt < 0 := Int32.lt_iff_toInt_lt.mp hneg
      rw [if_pos hsign, toNat_neg_toUInt32 hsign]
      rfl
    next hnonneg =>
      have hsign : ¬ value.toInt < 0 := fun h => hnonneg (Int32.lt_iff_toInt_lt.mpr h)
      have hmagnitude := toNat_toUInt32 value
      rw [if_neg hsign] at hmagnitude
      rw [if_neg hsign, ← hmagnitude, Int.natAbs_natCast]

-- ---------------------------------------------------------------------------
-- Hexadecimal numerals
-- ---------------------------------------------------------------------------

def hexLetter (digit : Nat) : UInt8 := UInt8.ofNat (if digit < 10 then 48 + digit else 55 + digit)

theorem hexDigit_hexLetter {digit : Nat} (h : digit < 16) :
    hexDigit (hexLetter digit) = some digit := by
  have hread : ∀ digit : Fin 16, hexDigit (hexLetter digit) = some digit.val := by decide
  exact hread ⟨digit, h⟩

theorem toNat_nibble (value : UInt32) {shift : UInt32} (hshift : shift.toNat = 4 * k)
    (hk : k < 8) : ((value >>> shift) &&& 0xF).toNat = value.toNat / 16 ^ k % 16 := by
  have hpow : 2 ^ (4 * k) = 16 ^ k := Nat.pow_mul 2 4 k
  rw [UInt32.toNat_and, UInt32.toNat_shiftRight, hshift, Nat.mod_eq_of_lt (by omega),
    Nat.shiftRight_eq_div_pow, hpow]
  exact Nat.and_two_pow_sub_one_eq_mod _ 4

theorem toUInt8_nibble {nibble : UInt32} (h : nibble.toNat < 16) :
    (if nibble < 10 then 48 + nibble else 65 + (nibble - 10)).toUInt8 = hexLetter nibble.toNat := by
  have hletter : ∀ digit : Fin 16, (if UInt32.ofNat digit < 10 then 48 + UInt32.ofNat digit
      else 65 + (UInt32.ofNat digit - 10)).toUInt8 = hexLetter digit.val := by decide
  have hnibble := hletter ⟨nibble.toNat, h⟩
  rwa [UInt32.ofNat_toNat] at hnibble

theorem appendUIntHexFixed_eq (value : UInt32) {digits : UInt32} (hdigits : digits ≤ 8) :
    appendUIntHexFixed value digits =
      (fixedDigits 16 digits.toNat value.toNat).map hexLetter := by
  have hfew : digits.toNat ≤ 8 := UInt32.le_iff_toNat_le.mp hdigits
  rw [appendUIntHexFixed, upTo, fixedDigits, List.map_map, List.map_map]
  refine List.map_congr_left fun i hi => ?_
  have hinside : i < digits.toNat := List.mem_range.mp hi
  have hindex : (UInt32.ofNat i).toNat = i := UInt32.toNat_ofNat_of_lt' (by rw [UInt32.size]; omega)
  have hone : (digits - 1).toNat = digits.toNat - 1 :=
    UInt32.toNat_sub_of_le _ _ (UInt32.le_iff_toNat_le.mpr (show 1 ≤ digits.toNat by omega))
  have hplace : (digits - 1 - UInt32.ofNat i).toNat = digits.toNat - 1 - i := by
    rw [UInt32.toNat_sub_of_le, hone, hindex]
    rw [UInt32.le_iff_toNat_le, hone, hindex]
    omega
  have hfour : (4 : UInt32).toNat = 4 := rfl
  have hshift : ((digits - 1 - UInt32.ofNat i) * 4).toNat = 4 * (digits.toNat - 1 - i) := by
    rw [toNat_mul_of_lt (by rw [hplace, hfour]; omega), hplace, hfour, Nat.mul_comm]
  have hnibble := toNat_nibble value hshift (by omega)
  rw [Function.comp_apply, Function.comp_apply, ← hnibble]
  exact toUInt8_nibble (by rw [hnibble]; exact Nat.mod_lt _ (by decide))

theorem appendUIntHexFixed_reads (value : UInt32) {digits : UInt32} (hsome : 1 ≤ digits)
    (hdigits : digits ≤ 8) :
    (appendUIntHexFixed value digits).length = digits.toNat ∧
      readNumeral 16 hexDigit (appendUIntHexFixed value digits) =
        some (value.toNat % 16 ^ digits.toNat) := by
  have hlength := length_fixedDigits 16 digits.toNat value.toNat
  have hpos : 1 ≤ digits.toNat := UInt32.le_iff_toNat_le.mp hsome
  rw [appendUIntHexFixed_eq value hdigits, List.length_map]
  refine ⟨hlength, ?_⟩
  rw [readNumeral_map, ofDigits_fixedDigits]
  · intro hnil
    rw [hnil, List.length_nil] at hlength
    omega
  · intro digit hdigit
    obtain ⟨i, -, rfl⟩ := List.mem_map.mp hdigit
    exact hexDigit_hexLetter (Nat.mod_lt _ (by decide))

/-- The array of digits is large enough, what is appended is the one canonical numeral of the
number, and a hexadecimal numeral is the number modulo a power of 16. -/
theorem appendNumbers_read :
    (∀ (digits : Vector UInt8 16) (value : Int32),
      ∃ letters, appendIntChecked digits value = some letters ∧ letters.length ≤ 11 ∧
        ∀ numeral, readInt numeral = some value.toInt ↔ numeral = letters) ∧
    ∀ value digits : UInt32, 1 ≤ digits → digits ≤ 8 →
      (appendUIntHexFixed value digits).length = digits.toNat ∧
        readNumeral 16 hexDigit (appendUIntHexFixed value digits) =
          some (value.toNat % 16 ^ digits.toNat) := by
  refine ⟨fun digits value => ?_, fun value digits => appendUIntHexFixed_reads value⟩
  have hlow := value.le_toInt
  have hhigh := value.toInt_lt
  refine ⟨_, appendIntChecked_eq digits value, ?_, fun numeral => ?_⟩
  · rw [appendInt_eq]
    exact length_intNumeral_le (by omega)
  · rw [appendInt_eq]
    constructor
    · exact eq_of_readInt
    · rintro rfl
      exact readInt_intNumeral value.toInt

theorem appendNumbers_read_vendor : (appendUIntHexFixed 0x10DE 4).length = 4 ∧
    readNumeral 16 hexDigit (appendUIntHexFixed 0x10DE 4) = some (4318 % 16 ^ 4) :=
  appendNumbers_read.2 0x10DE 4 (by decide) (by decide)

end DragonOS.Boot
