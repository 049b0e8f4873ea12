import DragonOS.Build.ShortName

/-!
# Texts of the generated header

The builder puts four texts into the header as ASCII arrays with a zero at the
end. The text of the console icon comes from a file that anyone may edit, with its
line ends made uniform and the last of them dropped.
-/

namespace DragonOS.Build

/-- `Replace("\r\n", "\n")`. -/
def replaceCrLf : Text → Text
  | [] => []
  | [unit] => [unit]
  | unit :: next :: rest =>
    if unit = 13 ∧ next = 10 then 10 :: replaceCrLf rest else unit :: replaceCrLf (next :: rest)

/-- The file is the text of `console_icon.txt`, if there is one. -/
def loadConsoleIconText (file : Option Text) : Text :=
  match file with
  | none => text "Dragon OS"
  | some content =>
    ((replaceCrLf content).map fun unit => if unit = 13 then 10 else unit).rdropWhile (· = 10)

/-- `Encoding.ASCII.GetBytes`, with a question mark for what is not ASCII. -/
def asciiGetBytes (value : Text) : Bytes :=
  value.map fun unit => if unit < 128 then unit.toUInt8 else 63

def asciiString (value : Text) : Bytes := asciiGetBytes value ++ [0]

def cString (array : Bytes) : Bytes := array.takeWhile (· ≠ 0)

-- ---------------------------------------------------------------------------
-- Empty texts
-- ---------------------------------------------------------------------------

theorem cString_asciiString_eq_nil {value : Text} :
    cString (asciiString value) = [] ↔ value = [] ∨ value.head? = some 0 := by
  cases value with
  | nil => simp [cString, asciiString, asciiGetBytes]
  | cons unit rest =>
    have hbyte : (if unit < 128 then unit.toUInt8 else 63) = 0 ↔ unit = 0 := by
      split
      next h =>
        rw [← UInt8.toNat_inj, ← UInt16.toNat_inj, UInt16.toNat_toUInt8]
        rw [UInt16.lt_iff_toNat_lt] at h
        exact ⟨fun hzero => by simp at hzero h ⊢; omega, fun hzero => by simp at hzero ⊢; omega⟩
      next h => exact ⟨nofun, fun hzero => absurd (hzero ▸ h) (by decide)⟩
    simp [cString, asciiString, asciiGetBytes, List.takeWhile_cons, hbyte]

/-- Only the line ends of a text are changed, and never into anything else. -/
theorem replaceCrLf_lineEnds (content : Text) :
    (∀ unit ∈ replaceCrLf content, unit = 13 ∨ unit = 10) ↔
      ∀ unit ∈ content, unit = 13 ∨ unit = 10 := by
  fun_induction replaceCrLf content with
  | case1 => rfl
  | case2 => rfl
  | case3 unit next rest h ih => simp [ih, h.1, h.2]
  | case4 unit next rest h ih => simp only [List.forall_mem_cons] at ih ⊢; rw [ih]

theorem replaceCrLf_head (content : Text) :
    (replaceCrLf content).head? = some 0 ↔ content.head? = some 0 := by
  fun_induction replaceCrLf content with
  | case1 => rfl
  | case2 => rfl
  | case3 unit next rest h ih => simp [h.1]
  | case4 unit next rest h ih => rfl

theorem head?_rdropWhile {value : α} {keeps : α → Bool} (hvalue : keeps value = false)
    (list : List α) : (list.rdropWhile keeps).head? = some value ↔ list.head? = some value := by
  obtain ⟨dropped, hlist⟩ := List.rdropWhile_prefix (p := keeps) (l := list)
  cases hkept : list.rdropWhile keeps with
  | nil =>
    refine iff_of_false nofun fun hhead => ?_
    have hall := List.rdropWhile_eq_nil_iff.mp hkept value (List.mem_of_mem_head? hhead)
    rw [hvalue] at hall
    exact absurd hall (by decide)
  | cons first rest => rw [← hlist, hkept, List.cons_append, List.head?_cons, List.head?_cons]

def BlankIconFile (file : Option Text) : Prop :=
  ∃ content, file = some content ∧
    ((∀ unit ∈ content, unit = 13 ∨ unit = 10) ∨ content.head? = some 0)

theorem cString_consoleIconText_eq_nil {file : Option Text} :
    cString (asciiString (loadConsoleIconText file)) = [] ↔ BlankIconFile file := by
  cases file with
  | none => exact iff_of_false (by decide) nofun
  | some content =>
    have hends : (∀ unit ∈ (replaceCrLf content).map fun unit => if unit = 13 then 10 else unit,
        decide (unit = 10) = true) ↔ ∀ unit ∈ content, unit = 13 ∨ unit = 10 := by
      rw [List.forall_mem_map, ← replaceCrLf_lineEnds]
      refine forall₂_congr fun unit _ => ?_
      split <;> simp_all
    have hhead : ((replaceCrLf content).map fun unit =>
        if unit = 13 then 10 else unit).head? = some 0 ↔ content.head? = some 0 := by
      rw [List.head?_map, Option.map_eq_some_iff, ← replaceCrLf_head]
      constructor
      · rintro ⟨unit, hunit, hzero⟩
        split at hzero
        · exact absurd hzero (by decide)
        · exact hzero ▸ hunit
      · exact fun hzero => ⟨0, hzero, rfl⟩
    rw [cString_asciiString_eq_nil, loadConsoleIconText, List.rdropWhile_eq_nil_iff, hends,
      head?_rdropWhile (by decide), hhead]
    exact ⟨fun h => ⟨content, rfl, h⟩, fun ⟨_, hcontent, h⟩ => Option.some.inj hcontent ▸ h⟩

end DragonOS.Build
