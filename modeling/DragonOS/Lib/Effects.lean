import Mathlib.Algebra.Order.Ring.Int
import Mathlib.Data.List.Forall2
import Mathlib.Tactic.Common

/-!
# Straight-line programs over a word memory

A program is a list of effects. `Effect.apply` is the change an effect makes,
`applyAll` runs a list; `runAll` also says when an effect does not return.

Three rules cover most programs. `applyAll_frame`: an address no effect writes
keeps its word (`Confined` is the form of it that composes). `applyAll_agree`: two memories that agree wherever the program
reads agree afterwards also wherever it wrote. `applyAll_yields`: when every
effect writes what a target memory holds, the written addresses hold the
target.
-/

namespace DragonOS.Lib

abbrev Memory (α : Type) := Nat → α

/-- A pair effect handles two neighbouring words at once, reading both before
it writes. A `modify` whose function gives `none` does not return. A `note`
touches nothing; it records a remark about the program. -/
inductive Effect (α ν : Type)
  | note (remark : ν)
  | store (dst : Nat) (value : α)
  | storePair (dst : Nat) (value : α)
  | copy (dst src : Nat)
  | copyPair (dst src : Nat)
  | modify (dst : Nat) (f : α → Option α)

namespace Effect

variable {α ν : Type}

def apply : Effect α ν → Memory α → Memory α
  | .note _, memory => memory
  | .store dst value, memory => Function.update memory dst value
  | .storePair dst value, memory =>
    Function.update (Function.update memory dst value) (dst + 1) value
  | .copy dst src, memory => Function.update memory dst (memory src)
  | .copyPair dst src, memory =>
    Function.update (Function.update memory dst (memory src)) (dst + 1) (memory (src + 1))
  | .modify dst f, memory => Function.update memory dst ((f (memory dst)).getD (memory dst))

def writes : Effect α ν → List Nat
  | .note _ => []
  | .store dst _ | .copy dst _ | .modify dst _ => [dst]
  | .storePair dst _ | .copyPair dst _ => [dst, dst + 1]

def reads : Effect α ν → List Nat
  | .note _ | .store .. | .storePair .. => []
  | .copy _ src => [src]
  | .copyPair _ src => [src, src + 1]
  | .modify dst _ => [dst]

def Returns : Effect α ν → Prop
  | .modify _ f => ∀ v, (f v).isSome
  | _ => True

def run (memory : Memory α) : Effect α ν → Option (Memory α)
  | .modify dst f => (f (memory dst)).map (Function.update memory dst)
  | effect => some (effect.apply memory)

theorem apply_frame {effect : Effect α ν} (h : a ∉ effect.writes) (memory : Memory α) :
    effect.apply memory a = memory a := by
  cases effect <;> simp_all [apply, writes]

theorem apply_agree {effect : Effect α ν} (hr : ∀ b ∈ effect.reads, m b = m' b)
    (h : a ∈ effect.writes ∨ m a = m' a) : effect.apply m a = effect.apply m' a := by
  cases effect <;> simp only [apply, writes, reads, Function.update_apply] at * <;> grind

/-- A pair copied at once is its words copied one after the other, unless the
second is read where the first was written. -/
theorem apply_copyPair (h : dst ≠ src + 1) (memory : Memory α) :
    (copyPair dst src : Effect α ν).apply memory =
      (copy (dst + 1) (src + 1) : Effect α ν).apply
        ((copy dst src : Effect α ν).apply memory) := by
  simp only [apply, Function.update_of_ne h.symm]

theorem run_eq_some {effect : Effect α ν} (h : effect.run m = some m') :
    m' = effect.apply m := by
  cases effect with
  | modify dst f =>
    simp only [run, Option.map_eq_some_iff] at h
    obtain ⟨v, hv, rfl⟩ := h
    simp [apply, hv]
  | _ => simpa [run, eq_comm] using h

theorem Returns.run {effect : Effect α ν} (h : effect.Returns) (m : Memory α) :
    effect.run m = some (effect.apply m) := by
  cases effect with
  | modify dst f =>
    obtain ⟨v, hv⟩ := Option.isSome_iff_exists.mp (h (m dst))
    simp [Effect.run, apply, hv]
  | _ => rfl

end Effect

-- ---------------------------------------------------------------------------
-- Programs
-- ---------------------------------------------------------------------------

section
variable {α ν : Type}

abbrev Program (α ν : Type) := List (Effect α ν)

def applyAll (program : Program α ν) (memory : Memory α) : Memory α :=
  program.foldl (fun memory effect => effect.apply memory) memory

def runAll (program : Program α ν) (memory : Memory α) : Option (Memory α) :=
  program.foldlM Effect.run memory

def written (program : Program α ν) : List Nat := program.flatMap Effect.writes

@[simp] theorem applyAll_nil (memory : Memory α) :
    applyAll ([] : Program α ν) memory = memory := rfl

@[simp] theorem applyAll_cons (effect : Effect α ν) (program : Program α ν) (memory : Memory α) :
    applyAll (effect :: program) memory = applyAll program (effect.apply memory) := rfl

@[simp] theorem applyAll_append (first second : Program α ν) (memory : Memory α) :
    applyAll (first ++ second) memory = applyAll second (applyAll first memory) :=
  List.foldl_append

@[simp] theorem written_nil : written ([] : Program α ν) = [] := rfl

@[simp] theorem written_cons (effect : Effect α ν) (program : Program α ν) :
    written (effect :: program) = effect.writes ++ written program := rfl

@[simp] theorem written_append (first second : Program α ν) :
    written (first ++ second) = written first ++ written second := List.flatMap_append

theorem mem_written {program : Program α ν} :
    a ∈ written program ↔ ∃ effect ∈ program, a ∈ effect.writes := List.mem_flatMap

theorem mem_written_flatMap {steps : List ι} {f : ι → Program α ν} :
    a ∈ written (steps.flatMap f) ↔ ∃ i ∈ steps, a ∈ written (f i) := by
  rw [written, List.flatMap_assoc, List.mem_flatMap]
  rfl

theorem runAll_eq_some {program : Program α ν} (h : runAll program m = some m') :
    m' = applyAll program m := by
  induction program generalizing m with
  | nil => simpa [runAll, eq_comm] using h
  | cons effect program ih =>
    simp only [runAll, List.foldlM_cons, Option.bind_eq_bind, Option.bind_eq_some_iff] at h
    obtain ⟨m₁, h₁, h⟩ := h
    rw [applyAll_cons, ← Effect.run_eq_some h₁]
    exact ih h

def Total (program : Program α ν) : Prop := ∀ effect ∈ program, effect.Returns

@[simp] theorem total_nil : Total ([] : Program α ν) := fun _ h => nomatch h

@[simp] theorem total_append {first second : Program α ν} :
    Total (first ++ second) ↔ Total first ∧ Total second := List.forall_mem_append

theorem total_flatMap {steps : List ι} {f : ι → Program α ν} (h : ∀ i ∈ steps, Total (f i)) :
    Total (steps.flatMap f) := by
  intro effect he
  obtain ⟨i, hi, he⟩ := List.mem_flatMap.mp he
  exact h i hi effect he

theorem Total.runAll_eq {program : Program α ν} (h : Total program) (m : Memory α) :
    runAll program m = some (applyAll program m) := by
  induction program generalizing m with
  | nil => rfl
  | cons effect program ih =>
    simp only [runAll, List.foldlM_cons, (h effect (by simp)).run m, Option.bind_eq_bind,
      Option.bind_some]
    exact ih (fun e he => h e (List.mem_cons_of_mem _ he)) _

theorem applyAll_frame {program : Program α ν} (h : a ∉ written program) (memory : Memory α) :
    applyAll program memory a = memory a := by
  induction program generalizing memory with
  | nil => rfl
  | cons effect program ih =>
    simp only [written_cons, List.mem_append, not_or] at h
    rw [applyAll_cons, ih h.2, Effect.apply_frame h.1]

theorem applyAll_eq_self {program : Program α ν}
    (h : ∀ effect ∈ program, ∀ memory, effect.apply memory = memory) (memory : Memory α) :
    applyAll program memory = memory := by
  induction program with
  | nil => rfl
  | cons effect program ih =>
    rw [applyAll_cons, h effect (by simp)]
    exact ih fun e he => h e (List.mem_cons_of_mem _ he)

/-- Agreement where the program reads gives agreement also where it wrote. -/
theorem applyAll_agree {program : Program α ν} {S : Nat → Prop}
    (hr : ∀ effect ∈ program, ∀ b ∈ effect.reads, S b) (hm : ∀ b, S b → m b = m' b)
    (ha : S a ∨ a ∈ written program) : applyAll program m a = applyAll program m' a := by
  induction program generalizing m m' S with
  | nil => exact hm a (by simpa using ha)
  | cons effect program ih =>
    rw [applyAll_cons, applyAll_cons]
    have hreads : ∀ b ∈ effect.reads, m b = m' b := fun b hb => hm b (hr effect (by simp) b hb)
    refine ih (S := fun b => S b ∨ b ∈ effect.writes) ?_ ?_ ?_
    · exact fun e he b hb => .inl (hr e (List.mem_cons_of_mem _ he) b hb)
    · rintro b (hb | hb)
      · exact Effect.apply_agree hreads (.inr (hm b hb))
      · exact Effect.apply_agree hreads (.inl hb)
    · simpa [or_assoc] using ha

/-- An address that only one of the steps writes. -/
theorem applyAll_flatMap_at {steps : List ι} {f : ι → Program α ν} {change : α → α}
    (hnodup : steps.Nodup) (hi : i ∈ steps) (hothers : ∀ j ∈ steps, j ≠ i → a ∉ written (f j))
    (hstep : ∀ memory, applyAll (f i) memory a = change (memory a)) (memory : Memory α) :
    applyAll (steps.flatMap f) memory a = change (memory a) := by
  obtain ⟨before, after, rfl⟩ := List.append_of_mem hi
  have hbefore : a ∉ written (before.flatMap f) := fun ha => by
    obtain ⟨j, hj, ha⟩ := mem_written_flatMap.mp ha
    refine hothers j (List.mem_append_left _ hj) (fun heq => ?_) ha
    exact (List.nodup_append.mp hnodup).2.2 j hj i List.mem_cons_self heq
  have hafter : a ∉ written (after.flatMap f) := fun ha => by
    obtain ⟨j, hj, ha⟩ := mem_written_flatMap.mp ha
    refine hothers j (List.mem_append_right _ (List.mem_cons_of_mem i hj)) (fun heq => ?_) ha
    exact (List.nodup_cons.mp (List.nodup_append.mp hnodup).2.1).1 (heq ▸ hj)
  rw [List.flatMap_append, List.flatMap_cons, applyAll_append, applyAll_append,
    applyAll_frame hafter, hstep, applyAll_frame hbefore]

-- ---------------------------------------------------------------------------
-- Remarks
-- ---------------------------------------------------------------------------

def Effect.acts : Effect α ν → Bool
  | .note _ => false
  | _ => true

def silent (program : Program α ν) : Program α ν := program.filter Effect.acts

@[simp] theorem silent_nil : silent ([] : Program α ν) = [] := rfl

@[simp] theorem silent_append (first second : Program α ν) :
    silent (first ++ second) = silent first ++ silent second := List.filter_append ..

@[simp] theorem silent_flatMap (steps : List ι) (f : ι → Program α ν) :
    silent (steps.flatMap f) = steps.flatMap fun i => silent (f i) := List.filter_flatMap

theorem runAll_silent (program : Program α ν) (m : Memory α) :
    runAll (silent program) m = runAll program m := by
  induction program generalizing m with
  | nil => rfl
  | cons effect program ih =>
    cases effect with
    | note remark => exact ih m
    | _ =>
      simp only [silent, List.filter_cons, Effect.acts, if_true]
      simp only [runAll, List.foldlM_cons]
      exact bind_congr fun m' => ih m'

theorem applyAll_silent (program : Program α ν) (m : Memory α) :
    applyAll (silent program) m = applyAll program m := by
  induction program generalizing m with
  | nil => rfl
  | cons effect program ih =>
    cases effect with
    | note remark => exact ih m
    | _ => exact ih _

-- ---------------------------------------------------------------------------
-- Footprints
-- ---------------------------------------------------------------------------

/-- Every effect writes and reads only where it may, and every remark is in
order. -/
def Confined (mayWrite mayRead : Nat → Prop) (inOrder : ν → Prop) (program : Program α ν) : Prop :=
  ∀ effect ∈ program, (∀ a ∈ effect.writes, mayWrite a) ∧ (∀ a ∈ effect.reads, mayRead a) ∧
    ∀ remark, effect = .note remark → inOrder remark

section
variable {mayWrite mayRead : Nat → Prop} {inOrder : ν → Prop} {program second : Program α ν}

@[simp] theorem confined_nil : Confined mayWrite mayRead inOrder ([] : Program α ν) :=
  fun _ h => nomatch h

@[simp] theorem confined_note :
    Confined mayWrite mayRead inOrder ([.note n] : Program α ν) ↔ inOrder n := by
  simp [Confined, Effect.writes, Effect.reads]

@[simp] theorem confined_store :
    Confined mayWrite mayRead inOrder ([.store dst value] : Program α ν) ↔ mayWrite dst := by
  simp [Confined, Effect.writes, Effect.reads]

@[simp] theorem confined_modify :
    Confined mayWrite mayRead inOrder ([.modify dst f] : Program α ν) ↔
      mayWrite dst ∧ mayRead dst := by
  simp [Confined, Effect.writes, Effect.reads]

@[simp] theorem confined_append :
    Confined mayWrite mayRead inOrder (program ++ second) ↔
      Confined mayWrite mayRead inOrder program ∧ Confined mayWrite mayRead inOrder second :=
  List.forall_mem_append

@[simp] theorem confined_flatMap {steps : List ι} {f : ι → Program α ν} :
    Confined mayWrite mayRead inOrder (steps.flatMap f) ↔
      ∀ i ∈ steps, Confined mayWrite mayRead inOrder (f i) := by
  simp only [Confined, List.mem_flatMap, forall_exists_index, and_imp]
  exact ⟨fun h i hi effect he => h effect i hi he, fun h effect i hi he => h i hi effect he⟩

theorem Confined.writes (h : Confined mayWrite mayRead inOrder program) :
    ∀ a ∈ written program, mayWrite a := by
  intro a ha
  obtain ⟨effect, he, ha⟩ := mem_written.mp ha
  exact (h effect he).1 a ha

theorem Confined.frame (h : Confined mayWrite mayRead inOrder program) (ha : ¬ mayWrite a)
    (memory : Memory α) : applyAll program memory a = memory a :=
  applyAll_frame (fun hw => ha (h.writes a hw)) memory

end

-- ---------------------------------------------------------------------------
-- Writing what a target holds
-- ---------------------------------------------------------------------------

/-- An effect writes the target's words in every memory that differs from the
initial one only at the addresses `W`. -/
def Effect.Yields (effect : Effect α ν) (memory : Memory α) (W : Nat → Prop) (target : Memory α) :
    Prop :=
  ∀ m, (∀ b, ¬ W b → m b = memory b) → ∀ a ∈ effect.writes, effect.apply m a = target a

theorem Effect.yields_store (h : target dst = value) :
    (Effect.store dst value : Effect α ν).Yields memory W target := by
  intro m _ a ha
  simp_all [Effect.writes, Effect.apply]

theorem Effect.yields_storePair (h : target dst = value) (h' : target (dst + 1) = value) :
    (Effect.storePair dst value : Effect α ν).Yields memory W target := by
  intro m _ a ha
  simp only [Effect.writes, List.mem_cons, List.not_mem_nil, or_false] at ha
  rcases ha with rfl | rfl <;> simp [Effect.apply, h, h']

theorem Effect.yields_copy (hs : ¬ W src) (h : target dst = memory src) :
    (Effect.copy dst src : Effect α ν).Yields memory W target := by
  intro m hm a ha
  simp_all [Effect.writes, Effect.apply]

theorem Effect.yields_copyPair (hs : ¬ W src) (hs' : ¬ W (src + 1))
    (h : target dst = memory src) (h' : target (dst + 1) = memory (src + 1)) :
    (Effect.copyPair dst src : Effect α ν).Yields memory W target := by
  intro m hm a ha
  simp only [Effect.writes, List.mem_cons, List.not_mem_nil, or_false] at ha
  rcases ha with rfl | rfl <;> simp [Effect.apply, h, h', hm _ hs, hm _ hs']

theorem Effect.yields_note : (Effect.note n : Effect α ν).Yields memory W target :=
  fun _ _ _ ha => nomatch ha

/-- The written addresses hold the target, the others what they held. -/
theorem applyAll_yields {program : Program α ν} (memory target : Memory α) (W : Nat → Prop)
    (hW : ∀ a ∈ written program, W a)
    (h : ∀ effect ∈ program, effect.Yields memory W target)
    (hm : ∀ b, ¬ W b → m b = memory b) :
    applyAll program m a = if a ∈ written program then target a else m a := by
  induction program generalizing m with
  | nil => simp
  | cons effect program ih =>
    simp only [written_cons, List.mem_append] at hW
    have hm' : ∀ b, ¬ W b → effect.apply m b = memory b := fun b hb => by
      rw [Effect.apply_frame (fun he => hb (hW b (.inl he))), hm b hb]
    rw [applyAll_cons, ih (fun b hb => hW b (.inr hb))
      (fun e he => h e (List.mem_cons_of_mem _ he)) hm', written_cons]
    by_cases hp : a ∈ written program
    · simp [hp]
    · by_cases he : a ∈ effect.writes
      · simp [hp, he, h effect (by simp) m hm a he]
      · simp [hp, he, Effect.apply_frame he]

theorem applyAll_stores {program : Program α ν} (target : Memory α)
    (h : ∀ effect ∈ program,
      (∃ remark, effect = .note remark) ∨ ∃ dst, effect = .store dst (target dst))
    (m : Memory α) :
    applyAll program m a = if a ∈ written program then target a else m a := by
  refine applyAll_yields m target (fun _ => True) (fun _ _ => trivial) ?_ (fun _ _ => rfl)
  intro effect he
  rcases h effect he with ⟨remark, rfl⟩ | ⟨dst, rfl⟩
  · exact Effect.yields_note
  · exact Effect.yields_store rfl

-- ---------------------------------------------------------------------------
-- Relocation
-- ---------------------------------------------------------------------------

def Agree (count base base' : Nat) (m m' : Memory α) : Prop :=
  ∀ i < count, m (base + i) = m' (base' + i)

/-- Two effects do the same at the same distance from two bases. What a `modify`
computes is of a known form. -/
inductive Effect.Same (form : (α → Option α) → Prop) (count base base' : Nat) :
    Effect α ν → Effect α ν → Prop
  | note : Same form count base base' (.note remark) (.note remark)
  | store (hi : i < count) :
    Same form count base base' (.store (base + i) value) (.store (base' + i) value)
  | modify (hi : i < count) (hform : form f) :
    Same form count base base' (.modify (base + i) f) (.modify (base' + i) f)

abbrev SameProgram (form : (α → Option α) → Prop) (count base base' : Nat) :
    Program α ν → Program α ν → Prop :=
  List.Forall₂ (Effect.Same form count base base')

section
variable {form : (α → Option α) → Prop} {program program' : Program α ν}

theorem SameProgram.append {second second' : Program α ν}
    (h : SameProgram form count base base' program program')
    (h' : SameProgram form count base base' second second') :
    SameProgram form count base base' (program ++ second) (program' ++ second') :=
  List.rel_append h h'

theorem SameProgram.flatMap {steps : List ι} {f g : ι → Program α ν}
    (h : ∀ i ∈ steps, SameProgram form count base base' (f i) (g i)) :
    SameProgram form count base base' (steps.flatMap f) (steps.flatMap g) :=
  List.rel_flatMap (R := fun i j => i = j ∧ i ∈ steps)
    (List.forall₂_same.mpr fun _ hi => ⟨rfl, hi⟩) fun i _ ⟨heq, hi⟩ => heq ▸ h i hi

theorem Effect.Same.agree {effect effect' : Effect α ν}
    (h : effect.Same form count base base' effect') (hm : Agree count base base' m m') :
    Agree count base base' (effect.apply m) (effect'.apply m') := by
  intro j hj
  cases h with
  | note => exact hm j hj
  | store hi => simp only [apply, Function.update_apply, Nat.add_left_cancel_iff, hm j hj]
  | modify hi hform =>
    simp only [apply, Function.update_apply, Nat.add_left_cancel_iff, hm j hj, hm _ hi]

theorem SameProgram.agree (h : SameProgram form count base base' program program')
    (hm : Agree count base base' m m') :
    Agree count base base' (applyAll program m) (applyAll program' m') := by
  induction h generalizing m m' with
  | nil => exact hm
  | cons he _ ih => exact ih (he.agree hm)

theorem Effect.Same.mem_writes {effect effect' : Effect α ν}
    (h : effect.Same form count base base' effect') :
    base + i ∈ effect.writes ↔ base' + i ∈ effect'.writes := by
  cases h <;> simp [Effect.writes]

theorem SameProgram.mem_written (h : SameProgram form count base base' program program') :
    base + i ∈ written program ↔ base' + i ∈ written program' := by
  induction h with
  | nil => simp
  | cons he _ ih =>
    rw [written_cons, written_cons, List.mem_append, List.mem_append, he.mem_writes, ih]

theorem SameProgram.total (h : SameProgram form count base base program program)
    (hform : ∀ f, form f → ∀ v, (f v).isSome) : Total program := by
  intro effect he
  cases List.forall₂_same.mp h effect he with
  | note => trivial
  | store hi => trivial
  | modify hi hf => exact hform _ hf

/-- A program that is the same as itself works in place: it reads only what it
writes, and only in the range. -/
theorem SameProgram.inPlace (h : SameProgram form count base base program program) :
    ∀ effect ∈ program, (∀ a ∈ effect.reads, a ∈ effect.writes) ∧
      ∀ a ∈ effect.writes, base ≤ a ∧ a < base + count := by
  intro effect he
  cases List.forall₂_same.mp h effect he with
  | note => simp [Effect.reads, Effect.writes]
  | store hi => simp [Effect.reads, Effect.writes, hi]
  | modify hi hform => simp [Effect.reads, Effect.writes, hi]

end

end

end DragonOS.Lib
