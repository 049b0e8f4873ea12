import DragonOS.Build.Runtime
import Mathlib.Data.Finset.Card

/-!
# The paths of the runtime files

The registry keeps the paths of the collected files apart. The paths of `dragon_files` and
of the manifest start differently from them, so it does not matter that the registry has no
say there. The loop over the suffixes ends because a registry is finite and no two
suffixes give the same path.
-/

namespace DragonOS.Build

namespace PathCasing

variable (casing : PathCasing)

-- ---------------------------------------------------------------------------
-- Casing
-- ---------------------------------------------------------------------------

theorem toUpper_cons {unit : UInt16} (h : unit < 128) (rest : Text) :
    casing.toUpper (unit :: rest) = asciiUpper unit :: casing.toUpper rest := by
  have hsplit := casing.split [] unit rest h
  rwa [casing.nil] at hsplit

theorem toUpper_append {front : Text} (h : ∀ unit ∈ front, unit < 128) (rest : Text) :
    casing.toUpper (front ++ rest) = front.map asciiUpper ++ casing.toUpper rest := by
  induction front with
  | nil => rfl
  | cons unit front ih =>
    obtain ⟨hunit, hfront⟩ := List.forall_mem_cons.mp h
    rw [List.cons_append, casing.toUpper_cons hunit, ih hfront, List.map_cons, List.cons_append]

theorem toUpper_of_all {value : Text} (h : (value.all fun unit => unit < 128) = true) :
    casing.toUpper value = value.map asciiUpper :=
  casing.ascii value fun unit hunit => of_decide_eq_true (List.all_eq_true.mp h unit hunit)

theorem mem_toUpper {unit : UInt16} (hascii : unit < 128) (hcase : asciiUpper unit = unit)
    {value : Text} (h : unit ∈ value) : unit ∈ casing.toUpper value := by
  obtain ⟨before, after, rfl⟩ := List.mem_iff_append.mp h
  rw [casing.split before unit after hascii, hcase]
  exact List.mem_append_right _ List.mem_cons_self

/-- A backslash stays, and parts what is in front of it from what is behind. -/
theorem toUpper_backslash (before after : Text) :
    casing.toUpper (before ++ backslash :: after) =
      casing.toUpper before ++ backslash :: casing.toUpper after :=
  casing.split before _ after (by decide)

end PathCasing

namespace DragonRuntimeBuilder

variable {casing : PathCasing}

theorem toUpper_dragonPath (kind rest : Text) :
    casing.toUpper (dragonPath kind rest) =
      casing.toUpper (text "DRAGON") ++ backslash :: (casing.toUpper kind ++
        backslash :: casing.toUpper rest) := by
  rw [dragonPath, casing.toUpper_backslash, casing.toUpper_backslash]

theorem toUpper_kind (kind : RuntimeKind) :
    casing.toUpper kind.text = kind.text.map asciiUpper ∧
      casing.toUpper (kind.text.map asciiUpper) = kind.text.map asciiUpper := by
  cases kind <;>
    exact ⟨casing.toUpper_of_all rfl, (casing.toUpper_of_all rfl).trans rfl⟩

theorem dragonPath_kind {first second firstRest secondRest : Text}
    (hfirst : backslash ∉ casing.toUpper first) (hsecond : backslash ∉ casing.toUpper second)
    (h : casing.toUpper (dragonPath first firstRest) =
      casing.toUpper (dragonPath second secondRest)) :
    casing.toUpper first = casing.toUpper second := by
  rw [toUpper_dragonPath, toUpper_dragonPath] at h
  have hrest := (List.cons.inj (List.append_cancel_left h)).2
  have hsplit := congrArg (List.splitOn backslash) hrest
  rw [List.splitOn_append_cons_self_of_not_mem hfirst,
    List.splitOn_append_cons_self_of_not_mem hsecond] at hsplit
  exact (List.cons.inj hsplit).1

-- ---------------------------------------------------------------------------
-- Suffixes
-- ---------------------------------------------------------------------------

theorem map_digits (digits : List Nat) (h : ∀ digit ∈ digits, digit < 10) :
    (digits.map fun digit => UInt16.ofNat (48 + digit)).map (fun unit => unit.toNat - 48) =
      digits := by
  rw [List.map_map]
  refine (List.map_congr_left fun digit hdigit => ?_).trans (List.map_id digits)
  have := h digit hdigit
  show (UInt16.ofNat (48 + digit)).toNat - 48 = digit
  rw [UInt16.toNat_ofNat_of_lt' (by rw [UInt16.size]; omega)]
  omega

def digitsValue (digits : Text) : Nat :=
  Nat.ofDigits 10 (digits.map fun unit => unit.toNat - 48).reverse

theorem digitsValue_decimalDigits (value : Nat) : digitsValue (decimalDigits value) = value := by
  unfold digitsValue decimalDigits
  split
  next hzero => rw [hzero]; rfl
  next hne =>
    rw [map_digits _ fun digit hdigit => Nat.digits_lt_base (by decide) (List.mem_reverse.mp hdigit),
      List.reverse_reverse, Nat.ofDigits_digits]

theorem decimalDigits_units (value : Nat) :
    ∀ unit ∈ decimalDigits value, 48 ≤ unit.toNat ∧ unit.toNat ≤ 57 := by
  unfold decimalDigits
  split
  · exact List.forall_mem_singleton.mpr (by decide)
  · intro unit hunit
    obtain ⟨digit, hdigit, rfl⟩ := List.mem_map.mp hunit
    have hlt : digit < 10 := Nat.digits_lt_base (by decide) (List.mem_reverse.mp hdigit)
    rw [UInt16.toNat_ofNat_of_lt' (by rw [UInt16.size]; omega)]
    omega

theorem suffixText_units (suffix : Int32) :
    ∀ unit ∈ suffixText suffix, unit = 45 ∨ (48 ≤ unit.toNat ∧ unit.toNat ≤ 57) := by
  intro unit hunit
  rcases List.mem_append.mp hunit with hsign | hdigit
  · split at hsign
    · exact .inl (List.mem_singleton.mp hsign)
    · cases hsign
  · exact .inr (decimalDigits_units _ unit hdigit)

theorem suffixText_ascii (suffix : Int32) (unit : UInt16) (hunit : unit ∈ suffixText suffix) :
    unit < 128 ∧ asciiUpper unit = unit := by
  rcases suffixText_units suffix unit hunit with rfl | ⟨hlow, hhigh⟩
  · decide
  · refine ⟨UInt16.lt_iff_toNat_lt.mpr (show unit.toNat < 128 by omega), if_neg fun hletter => ?_⟩
    have hle := UInt16.le_iff_toNat_le.mp hletter.1
    have hfirst : (97 : UInt16).toNat = 97 := rfl
    omega

theorem suffixText_inj {first second : Int32} (h : suffixText first = suffixText second) :
    first = second := by
  have hsign (value : Nat) (rest : Text) : decimalDigits value ≠ 45 :: rest := fun heq => by
    have := decimalDigits_units value 45 (heq ▸ List.mem_cons_self)
    revert this
    decide
  have hvalue (left right : Nat) (hsame : decimalDigits left = decimalDigits right) :
      left = right := by
    rw [← digitsValue_decimalDigits left, hsame, digitsValue_decimalDigits]
  refine Int32.toInt_inj.mp ?_
  unfold suffixText at h
  split at h <;> split at h
  · have := hvalue _ _ (List.cons.inj h).2
    omega
  · exact absurd h.symm (hsign _ _)
  · exact absurd h (hsign _ _)
  · have := hvalue _ _ h
    omega

theorem suffixCandidate_inj {kind originalName : Text} {first second : Int32}
    (h : casing.toUpper (suffixCandidate kind originalName first) =
      casing.toUpper (suffixCandidate kind originalName second)) : first = second := by
  have hunits (suffix : Int32) (rest : Text) :
      casing.toUpper (suffixText suffix ++ rest) = suffixText suffix ++ casing.toUpper rest := by
    rw [casing.toUpper_append fun unit hunit => (suffixText_ascii suffix unit hunit).1,
      List.map_congr_left fun unit hunit => (suffixText_ascii suffix unit hunit).2, List.map_id']
  have hpath (suffix : Int32) :
      casing.toUpper (suffixCandidate kind originalName suffix) =
        casing.toUpper (text "DRAGON") ++ backslash :: (casing.toUpper kind ++
          backslash :: (casing.toUpper (getFileNameWithoutExtension originalName) ++
            95 :: (suffixText suffix ++ casing.toUpper (getExtension originalName)))) := by
    rw [suffixCandidate, toUpper_dragonPath, casing.split _ 95 _ (by decide), hunits]
    rfl
  rw [hpath, hpath] at h
  have hkind := (List.cons.inj (List.append_cancel_left h)).2
  have hname := (List.cons.inj (List.append_cancel_left hkind)).2
  have hsuffix := (List.cons.inj (List.append_cancel_left hname)).2
  exact suffixText_inj (List.append_cancel_right hsuffix)

-- ---------------------------------------------------------------------------
-- The registry
-- ---------------------------------------------------------------------------

/-- The paths of a registry, as they are compared. -/
def Registry.keys (casing : PathCasing) (registry : Registry) : List Text :=
  registry.map casing.toUpper

theorem Registry.add_eq (registry : Registry) (path : Text) :
    registry.add casing path =
      if casing.toUpper path ∈ registry.keys casing then none else some (registry ++ [path]) := by
  have hmem : (registry.any fun other => casing.equalsIgnoreCase other path) = true ↔
      casing.toUpper path ∈ registry.keys casing := by
    rw [List.any_eq_true, keys, List.mem_map]
    exact exists_congr fun other => and_congr_right fun _ => decide_eq_true_iff
  simp only [add, hmem]

theorem Registry.add_some {registry next : Registry} {path : Text} :
    registry.add casing path = some next ↔
      casing.toUpper path ∉ registry.keys casing ∧ next = registry ++ [path] := by
  rw [add_eq]
  split
  next hmem => simp [hmem]
  next hmem => simp [hmem, eq_comm]

theorem Registry.add_none {registry : Registry} {path : Text} :
    registry.add casing path = none ↔ casing.toUpper path ∈ registry.keys casing := by
  rw [add_eq]
  split
  next hmem => simp [hmem]
  next hmem => simp [hmem]

theorem Registry.keys_append (registry : Registry) (path : Text) :
    Registry.keys casing (registry ++ [path]) = registry.keys casing ++ [casing.toUpper path] :=
  List.map_append

theorem suffixLoop_ok {kind originalName path : Text} {registry next : Registry} {fuel : Nat}
    {suffix : Int32}
    (h : suffixLoop casing kind originalName registry fuel suffix = .ok (path, next)) :
    (∃ suffix, path = suffixCandidate kind originalName suffix) ∧
      registry.add casing path = some next := by
  induction fuel generalizing suffix with
  | zero => cases h
  | succ fuel ih =>
    cases hadd : registry.add casing (suffixCandidate kind originalName suffix) with
    | none =>
      simp only [suffixLoop, hadd] at h
      exact ih h
    | some registry =>
      simp only [suffixLoop, hadd] at h
      cases h
      exact ⟨⟨suffix, rfl⟩, hadd⟩

theorem suffixLoop_of_not_returns {kind originalName : Text} {registry : Registry} {fuel : Nat}
    {suffix : Int32} (h : ∀ result, suffixLoop casing kind originalName registry fuel suffix ≠ .ok result)
    (i : Nat) (hi : i < fuel) :
    casing.toUpper (suffixCandidate kind originalName (suffix + Int32.ofNat i)) ∈
      registry.keys casing := by
  induction fuel generalizing suffix i with
  | zero => omega
  | succ fuel ih =>
    simp only [suffixLoop, Registry.add_eq] at h
    by_cases hmem : casing.toUpper (suffixCandidate kind originalName suffix) ∈ registry.keys casing
    · simp only [hmem, if_true] at h
      cases i with
      | zero => simpa using hmem
      | succ i =>
        have hnext := ih h i (by omega)
        rwa [Int32.add_assoc, show (1 : Int32) = Int32.ofNat 1 from rfl, ← Int32.ofNat_add,
          Nat.add_comm 1] at hnext
    · simp only [hmem, if_false] at h
      exact absurd rfl (h _)

variable (casing) in
/-- The loop over the suffixes ends: it cannot find more paths taken than there are. -/
theorem suffixLoop_returns (kind originalName : Text) {registry : Registry} {fuel : Nat}
    (hfuel : fuel ≤ 2 ^ 32) (hcount : registry.length < fuel) (suffix : Int32) :
    ∃ result, suffixLoop casing kind originalName registry fuel suffix = .ok result := by
  by_contra h
  have htaken := suffixLoop_of_not_returns (not_exists.mp h)
  have hinj : Set.InjOn (fun i => casing.toUpper
      (suffixCandidate kind originalName (suffix + Int32.ofNat i))) (Finset.range fuel) := by
    intro i hi j hj heq
    have hsuffix : Int32.ofNat i = Int32.ofNat j :=
      (Int32.add_right_inj suffix).mp (suffixCandidate_inj heq)
    have hword : (UInt32.ofNat i).toNat = (UInt32.ofNat j).toNat :=
      congrArg (fun value => value.toUInt32.toNat) hsuffix
    have hi := Finset.mem_range.mp hi
    have hj := Finset.mem_range.mp hj
    rwa [UInt32.toNat_ofNat_of_lt' (by rw [UInt32.size]; omega),
      UInt32.toNat_ofNat_of_lt' (by rw [UInt32.size]; omega)] at hword
  have hle := Finset.card_le_card_of_injOn (t := (registry.keys casing).toFinset) _
    (fun i hi => List.mem_toFinset.mpr (htaken i (Finset.mem_range.mp hi))) hinj
  have hkeys := List.toFinset_card_le (registry.keys casing)
  have hlength : (registry.keys casing).length = registry.length := List.length_map _
  rw [Finset.card_range] at hle
  omega

end DragonRuntimeBuilder

end DragonOS.Build
