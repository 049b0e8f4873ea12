import Mathlib.Data.Nat.Digits.Lemmas

/-!
# Numerals

A numeral is read digit by digit, in any base and any alphabet of digits. What is written
with letters that the alphabet reads is read back (`readNumeral_map`), and a numeral of a
fixed length holds the number modulo a power of the base (`ofDigits_fixedDigits`).
-/

namespace DragonOS.Lib

/-- The number that a numeral stands for, in any base and any alphabet. The most significant
digit comes first, and there is a digit. -/
def readNumeral (base : Nat) (readDigit : letter → Option Nat) (text : List letter) : Option Nat :=
  if text.isEmpty then none
  else (text.mapM readDigit).map fun digits => Nat.ofDigits base digits.reverse

section
variable {readDigit : letter → Option Nat} {write : Nat → letter}

theorem mapM_map_of_reads (digits : List Nat)
    (hread : ∀ digit ∈ digits, readDigit (write digit) = some digit) :
    (digits.map write).mapM readDigit = some digits := by
  induction digits with
  | nil => rfl
  | cons digit digits ih =>
    rw [List.map_cons, List.mapM_cons, hread digit List.mem_cons_self,
      ih fun digit hdigit => hread digit (List.mem_cons_of_mem _ hdigit)]
    rfl

/-- In an alphabet with one letter for each digit, the digits give the text. -/
theorem eq_map_of_mapM (hone : ∀ letter digit, readDigit letter = some digit →
    digit < base ∧ letter = write digit) {text : List letter} {digits : List Nat}
    (hread : text.mapM readDigit = some digits) :
    (∀ digit ∈ digits, digit < base) ∧ text = digits.map write := by
  induction text generalizing digits with
  | nil =>
    obtain rfl : [] = digits := Option.some.inj hread
    exact ⟨fun _ hdigit => absurd hdigit List.not_mem_nil, rfl⟩
  | cons letter text ih =>
    rw [List.mapM_cons] at hread
    obtain ⟨digit, hdigit, hread⟩ := Option.bind_eq_some_iff.mp hread
    obtain ⟨rest, hrest, hread⟩ := Option.bind_eq_some_iff.mp hread
    obtain rfl : digit :: rest = digits := Option.some.inj hread
    obtain ⟨hsmall, rfl⟩ := ih hrest
    obtain ⟨hlt, rfl⟩ := hone letter digit hdigit
    exact ⟨List.forall_mem_cons.mpr ⟨hlt, hsmall⟩, rfl⟩

theorem readNumeral_map {digits : List Nat} (hne : digits ≠ [])
    (hread : ∀ digit ∈ digits, readDigit (write digit) = some digit) :
    readNumeral base readDigit (digits.map write) = some (Nat.ofDigits base digits.reverse) := by
  rw [readNumeral, mapM_map_of_reads digits hread]
  cases digits with
  | nil => exact absurd rfl hne
  | cons digit digits => rfl

end

def fixedDigits (base length value : Nat) : List Nat :=
  (List.range length).map fun i => value / base ^ (length - 1 - i) % base

theorem length_fixedDigits (base length value : Nat) :
    (fixedDigits base length value).length = length := by
  rw [fixedDigits, List.length_map, List.length_range]

theorem fixedDigits_succ (base length value : Nat) :
    fixedDigits base (length + 1) value =
      value / base ^ length % base :: fixedDigits base length value := by
  rw [fixedDigits, List.range_succ_eq_map, List.map_cons, List.map_map]
  refine congrArg (_ :: ·) (List.map_congr_left fun i _ => ?_)
  rw [Function.comp_apply, Nat.add_sub_cancel, Nat.sub_sub length 1 i, Nat.add_comm 1 i]

theorem ofDigits_fixedDigits (base length value : Nat) :
    Nat.ofDigits base (fixedDigits base length value).reverse = value % base ^ length := by
  induction length with
  | zero => rw [Nat.pow_zero, Nat.mod_one]; rfl
  | succ length ih =>
    rw [fixedDigits_succ, Nat.ofDigits_reverse_cons, ih, length_fixedDigits, Nat.mod_pow_succ]

end DragonOS.Lib
