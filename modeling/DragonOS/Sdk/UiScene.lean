import DragonOS.Build.ShortName
import DragonOS.Lib.KeyedList

/-!
# Scenes of a module

A scene is a list of elements, which are looked up by their ids and removed by their values.
A call does what it promises as long as it does not look for an id that two elements have, and
only then (`everyCall_guaranteed_iff`).
-/

namespace DragonOS.Sdk

open Lib
open Build (Text text)

-- ---------------------------------------------------------------------------
-- Elements
-- ---------------------------------------------------------------------------

/-- A `float`, as its bits. -/
structure Single where
  bits : UInt32
  deriving DecidableEq, Repr

def Single.isNaN (value : Single) : Bool := value.bits &&& 0x7FFFFFFF > 0x7F800000

/-- `Equals` of two numbers: one is not a number only if both are not, and zero has two signs. -/
def Single.equals (left right : Single) : Bool :=
  if left.isNaN || right.isNaN then left.isNaN && right.isNaN
  else left.bits = right.bits || (left.bits ||| right.bits) &&& 0x7FFFFFFF = 0

structure Double where
  bits : UInt64
  deriving DecidableEq, Repr

def Double.isNaN (value : Double) : Bool :=
  value.bits &&& 0x7FFFFFFFFFFFFFFF > 0x7FF0000000000000

def Double.equals (left right : Double) : Bool :=
  if left.isNaN || right.isNaN then left.isNaN && right.isNaN
  else left.bits = right.bits || (left.bits ||| right.bits) &&& 0x7FFFFFFFFFFFFFFF = 0

inductive UiImageFitMode
  | natural | contain | coverCrop | stretch | tile | center | fillWidth | fillHeight
  deriving DecidableEq, Repr

structure UiColor where
  r : UInt8
  g : UInt8
  b : UInt8
  deriving DecidableEq, Repr

structure UiOutline where
  color : UiColor
  transparency : Single := ⟨0⟩
  thicknessPixels : Int32 := 1
  deriving DecidableEq

structure UiElementBase where
  id : Text
  x : Int32 := 0
  y : Int32 := 0
  width : Int32 := 0
  height : Int32 := 0
  cornerRadius : Int32 := 0
  backgroundTransparency : Single := ⟨0⟩
  outline : Option UiOutline := none
  deriving DecidableEq

structure UiPlayback where
  posterImagePath : Option Text := none
  fitMode : UiImageFitMode := .contain
  autoPlay : Bool := true
  loop : Bool := false
  muted : Bool := true
  startSeconds : Double := ⟨0⟩
  deriving DecidableEq

inductive UiElement
  | button (base : UiElementBase) (clickEvent : Option Text) (text : Text) (textTransparency : Single)
  | imageButton (base : UiElementBase) (clickEvent image : Option Text) (imagePath : Text)
      (fitMode : UiImageFitMode := .natural)
  | imageLabel (base : UiElementBase) (image : Option Text) (imagePath : Text)
      (fitMode : UiImageFitMode := .natural)
  | videoLabel (base : UiElementBase) (video : Option Text) (videoPath : Text)
      (playback : UiPlayback)
  | videoFrame (base : UiElementBase) (video : Text) (playback : UiPlayback)
  | label (base : UiElementBase) (text : Text) (textTransparency : Single)
  deriving DecidableEq

def UiElement.base : UiElement → UiElementBase
  | .button base .. | .imageButton base .. | .imageLabel base .. | .videoLabel base ..
  | .videoFrame base .. | .label base .. => base

def UiElement.id (element : UiElement) : Text := element.base.id

-- ---------------------------------------------------------------------------
-- Equality of records
-- ---------------------------------------------------------------------------

def UiOutline.equals (left right : UiOutline) : Bool :=
  left.color = right.color && left.transparency.equals right.transparency &&
    left.thicknessPixels = right.thicknessPixels

def equalsNullable (equals : α → α → Bool) : Option α → Option α → Bool
  | none, none => true
  | some left, some right => equals left right
  | _, _ => false

def UiElementBase.equals (left right : UiElementBase) : Bool :=
  left.id = right.id && left.x = right.x && left.y = right.y && left.width = right.width &&
    left.height = right.height && left.cornerRadius = right.cornerRadius &&
    left.backgroundTransparency.equals right.backgroundTransparency &&
    equalsNullable UiOutline.equals left.outline right.outline

def UiPlayback.equals (left right : UiPlayback) : Bool :=
  left.posterImagePath = right.posterImagePath && left.fitMode = right.fitMode &&
    left.autoPlay = right.autoPlay && left.loop = right.loop && left.muted = right.muted &&
    left.startSeconds.equals right.startSeconds

/-- Two elements are equal if they are of one kind and all their values are. -/
def UiElement.equals : UiElement → UiElement → Bool
  | .button base clickEvent text textTransparency,
    .button base' clickEvent' text' textTransparency' =>
    base.equals base' && clickEvent = clickEvent' && text = text' &&
      textTransparency.equals textTransparency'
  | .imageButton base clickEvent image imagePath fitMode,
    .imageButton base' clickEvent' image' imagePath' fitMode' =>
    base.equals base' && clickEvent = clickEvent' && image = image' && imagePath = imagePath' &&
      fitMode = fitMode'
  | .imageLabel base image imagePath fitMode, .imageLabel base' image' imagePath' fitMode' =>
    base.equals base' && image = image' && imagePath = imagePath' && fitMode = fitMode'
  | .videoLabel base video videoPath playback, .videoLabel base' video' videoPath' playback' =>
    base.equals base' && video = video' && videoPath = videoPath' && playback.equals playback'
  | .videoFrame base video playback, .videoFrame base' video' playback' =>
    base.equals base' && video = video' && playback.equals playback'
  | .label base text textTransparency, .label base' text' textTransparency' =>
    base.equals base' && text = text' && textTransparency.equals textTransparency'
  | _, _ => false

theorem Single.equals_self (value : Single) : value.equals value = true := by
  unfold Single.equals
  cases value.isNaN <;> simp

theorem Double.equals_self (value : Double) : value.equals value = true := by
  unfold Double.equals
  cases value.isNaN <;> simp

theorem UiOutline.equals_self (outline : UiOutline) : outline.equals outline = true := by
  simp [UiOutline.equals, Single.equals_self]

theorem UiElementBase.equals_self (base : UiElementBase) : base.equals base = true := by
  have houtline : equalsNullable UiOutline.equals base.outline base.outline = true := by
    cases base.outline with
    | none => rfl
    | some outline => exact outline.equals_self
  simp [UiElementBase.equals, Single.equals_self, houtline]

theorem UiPlayback.equals_self (playback : UiPlayback) : playback.equals playback = true := by
  simp [UiPlayback.equals, Double.equals_self]

theorem UiElementBase.id_of_equals {left right : UiElementBase} (h : left.equals right = true) :
    left.id = right.id := by
  simp only [UiElementBase.equals, Bool.and_eq_true, decide_eq_true_eq, and_assoc] at h
  exact h.1

theorem UiElement.equals_self (element : UiElement) : element.equals element = true := by
  cases element <;> simp [UiElement.equals, UiElementBase.equals_self, Single.equals_self,
    UiPlayback.equals_self]

theorem UiElement.id_of_equals {left right : UiElement} (h : left.equals right = true) :
    left.id = right.id := by
  have hbase : left.base.equals right.base = true := by
    cases left <;> cases right <;>
      simp_all [UiElement.equals, UiElement.base]
  exact UiElementBase.id_of_equals hbase

/-- What a scene needs of its elements. A module may derive records of its own. -/
structure ElementRecords (element : Type) where
  id : element → Text
  equals : element → element → Bool
  equals_self : ∀ value, equals value value = true
  id_of_equals : ∀ left right, equals left right = true → id left = id right

def uiElements : ElementRecords UiElement where
  id := UiElement.id
  equals := UiElement.equals
  equals_self := UiElement.equals_self
  id_of_equals _ _ := UiElement.id_of_equals

-- ---------------------------------------------------------------------------
-- Scenes
-- ---------------------------------------------------------------------------

structure UiScene (element : Type) where
  backgroundTransparency : Single := ⟨0⟩
  elements : List element := []

inductive SceneCall (element : Type)
  | addElement (added : element)
  | removeElement (id : Text)
  | updateElement (updated : element)

section
variable {element : Type} (records : ElementRecords element)

namespace UiScene

variable (scene : UiScene element)

def addElement (added : element) : UiScene element :=
  { scene with elements := scene.elements ++ [added] }

/-- The element that is found is removed by its value. -/
def removeElement (id : Text) : UiScene element × Bool :=
  match scene.elements.find? fun existing => records.id existing = id with
  | none => (scene, false)
  | some found => ({ scene with elements := scene.elements.eraseP (records.equals · found) }, true)

def updateFrom (updated : element) : List element → List element × Bool
  | [] => ([], false)
  | existing :: rest =>
    if records.id existing = records.id updated then (updated :: rest, true)
    else
      let (rest, found) := updateFrom updated rest
      (existing :: rest, found)

def updateElement (updated : element) : UiScene element × Bool :=
  let (elements, found) := updateFrom records updated scene.elements
  ({ scene with elements }, found)

end UiScene

namespace SceneCall

def id : SceneCall element → Text
  | .addElement added => records.id added
  | .removeElement id => id
  | .updateElement updated => records.id updated

def run (scene : UiScene element) : SceneCall element → UiScene element × Option Bool
  | .addElement added => (scene.addElement added, none)
  | .removeElement id =>
    let (scene, removed) := scene.removeElement records id
    (scene, some removed)
  | .updateElement updated =>
    let (scene, found) := scene.updateElement records updated
    (scene, some found)

structure Guaranteed (call : SceneCall element) (scene : UiScene element) : Prop where
  removed : ∀ id, call = .removeElement id → (call.run records scene).2 = some true →
    ∀ existing ∈ (call.run records scene).1.elements, records.id existing ≠ id
  updated : ∀ updated, call = .updateElement updated → (call.run records scene).2 = some true →
    withKey records.id (records.id updated) (call.run records scene).1.elements = [updated]
  refused : (call.run records scene).2 = some false → (call.run records scene).1 = scene
  others : withoutKey records.id (call.id records) (call.run records scene).1.elements =
    withoutKey records.id (call.id records) scene.elements

/-- No two elements have the id that the call looks for. -/
def Unambiguous (call : SceneCall element) (scene : UiScene element) : Prop :=
  match call with
  | .addElement _ => True
  | .removeElement id => (withKey records.id id scene.elements).length ≤ 1
  | .updateElement updated => (withKey records.id (records.id updated) scene.elements).length ≤ 1

instance (call : SceneCall element) (scene : UiScene element) :
    Decidable (call.Unambiguous records scene) :=
  match call with
  | .addElement _ => inferInstanceAs (Decidable True)
  | .removeElement _ | .updateElement _ => inferInstanceAs (Decidable (_ ≤ 1))

def Fresh (call : SceneCall element) (scene : UiScene element) : Prop :=
  match call with
  | .addElement added => withKey records.id (records.id added) scene.elements = []
  | .removeElement _ | .updateElement _ => True

end SceneCall

def EveryCall (holds : SceneCall element → UiScene element → Prop) :
    UiScene element → List (SceneCall element) → Prop
  | _, [] => True
  | scene, call :: calls => holds call scene ∧ EveryCall holds (call.run records scene).1 calls

end

-- ---------------------------------------------------------------------------
-- One call
-- ---------------------------------------------------------------------------

section
variable {element : Type} {records : ElementRecords element} {scene : UiScene element}

theorem removeElement_eq (scene : UiScene element) (id : Text) :
    scene.removeElement records id =
      if withKey records.id id scene.elements = [] then (scene, false)
      else ({ scene with elements := eraseFirst records.id id scene.elements }, true) := by
  unfold UiScene.removeElement
  split
  next hnone =>
    rw [if_pos (withKey_eq_nil.mpr fun existing hmem => by
      simpa using List.find?_eq_none.mp hnone existing hmem)]
  next found hfound =>
    have hsome : withKey records.id id scene.elements ≠ [] := fun hnone => by
      have hid : records.id found = id := by simpa using List.find?_some hfound
      exact withKey_eq_nil.mp hnone found (List.mem_of_find?_eq_some hfound) hid
    rw [if_neg hsome, eraseP_same records.equals_self records.id_of_equals hfound]

theorem updateFrom_eq (updated : element) (elements : List element) :
    UiScene.updateFrom records updated elements =
      match replaceFirst records.id updated elements with
      | none => (elements, false)
      | some after => (after, true) := by
  induction elements with
  | nil => rfl
  | cons existing rest ih =>
    rw [UiScene.updateFrom, replaceFirst]
    split
    · rfl
    · rw [ih]
      cases replaceFirst records.id updated rest <;> rfl

theorem run_removeElement_none {id : Text} (h : withKey records.id id scene.elements = []) :
    SceneCall.run records scene (.removeElement id) = (scene, some false) := by
  rw [SceneCall.run, removeElement_eq, if_pos h]

theorem run_removeElement_some {id : Text} (h : withKey records.id id scene.elements ≠ []) :
    SceneCall.run records scene (.removeElement id) =
      ({ scene with elements := eraseFirst records.id id scene.elements }, some true) := by
  rw [SceneCall.run, removeElement_eq, if_neg h]

theorem run_updateElement_none {updated : element}
    (h : replaceFirst records.id updated scene.elements = none) :
    SceneCall.run records scene (.updateElement updated) = (scene, some false) := by
  rw [SceneCall.run, UiScene.updateElement, updateFrom_eq, h]

theorem run_updateElement_some {updated : element} {after : List element}
    (h : replaceFirst records.id updated scene.elements = some after) :
    SceneCall.run records scene (.updateElement updated) =
      ({ scene with elements := after }, some true) := by
  rw [SceneCall.run, UiScene.updateElement, updateFrom_eq, h]

theorem guaranteed_of_refused {call : SceneCall element}
    (hrun : call.run records scene = (scene, some false)) : call.Guaranteed records scene where
  removed _ _ hresult := by simp [hrun] at hresult
  updated _ _ hresult := by simp [hrun] at hresult
  refused _ := by rw [hrun]
  others := by rw [hrun]

theorem guaranteed_addElement (added : element) :
    SceneCall.Guaranteed records (.addElement added) scene where
  removed _ hcall := by cases hcall
  updated _ hcall := by cases hcall
  refused hresult := by cases hresult
  others := by simp [SceneCall.run, SceneCall.id, UiScene.addElement, withoutKey]

/-- The first element with the id is gone, and so the id is if there was one at most. -/
theorem guaranteed_removeElement_iff (id : Text) :
    SceneCall.Guaranteed records (.removeElement id) scene ↔
      (withKey records.id id scene.elements).length ≤ 1 := by
  by_cases hnone : withKey records.id id scene.elements = []
  · rw [hnone]
    exact iff_of_true (guaranteed_of_refused (run_removeElement_none hnone)) (Nat.zero_le 1)
  · have hrun := run_removeElement_some hnone
    rw [← tail_withKey_eq_nil_iff, ← withKey_eraseFirst, withKey_eq_nil]
    constructor
    · intro h
      have hremoved := h.removed id rfl (by rw [hrun])
      rwa [hrun] at hremoved
    · intro hremoved
      constructor
      case removed =>
        intro id' hcall _
        cases hcall
        rwa [hrun]
      case updated => exact fun _ hcall => by cases hcall
      case refused => exact fun hresult => by simp [hrun] at hresult
      case others =>
        rw [hrun]
        exact withoutKey_eraseFirst

/-- The new element takes the place of the first one with its id. -/
theorem guaranteed_updateElement_iff (updated : element) :
    SceneCall.Guaranteed records (.updateElement updated) scene ↔
      (withKey records.id (records.id updated) scene.elements).length ≤ 1 := by
  cases hreplaced : replaceFirst records.id updated scene.elements with
  | none =>
    rw [replaceFirst_eq_none.mp hreplaced]
    exact iff_of_true (guaranteed_of_refused (run_updateElement_none hreplaced)) (Nat.zero_le 1)
  | some after =>
    have hrun := run_updateElement_some hreplaced
    have hafter := withKey_replaceFirst hreplaced
    rw [← tail_withKey_eq_nil_iff]
    constructor
    · intro h
      have hupdated := h.updated updated rfl (by rw [hrun])
      rw [hrun] at hupdated
      exact (List.cons.inj (hafter.symm.trans hupdated)).2
    · intro htail
      constructor
      case removed => exact fun _ hcall => by cases hcall
      case updated =>
        intro updated' hcall _
        cases hcall
        rw [hrun, hafter, htail]
      case refused => exact fun hresult => by simp [hrun] at hresult
      case others =>
        rw [hrun]
        exact withoutKey_replaceFirst hreplaced

theorem guaranteed_iff (call : SceneCall element) :
    call.Guaranteed records scene ↔ call.Unambiguous records scene := by
  cases call with
  | addElement added => exact ⟨fun _ => trivial, fun _ => guaranteed_addElement added⟩
  | removeElement id => exact guaranteed_removeElement_iff id
  | updateElement updated => exact guaranteed_updateElement_iff updated

-- ---------------------------------------------------------------------------
-- Runs
-- ---------------------------------------------------------------------------

def DistinctIds (records : ElementRecords element) (scene : UiScene element) : Prop :=
  (scene.elements.map records.id).Nodup

theorem DistinctIds.unambiguous (h : DistinctIds records scene) (call : SceneCall element) :
    call.Unambiguous records scene := by
  cases call with
  | addElement added => trivial
  | removeElement id => exact length_withKey_le_one h
  | updateElement updated => exact length_withKey_le_one h

theorem DistinctIds.run (h : DistinctIds records scene) {call : SceneCall element}
    (hfresh : call.Fresh records scene) : DistinctIds records (call.run records scene).1 := by
  cases call with
  | addElement added =>
    have hnew := withKey_eq_nil.mp hfresh
    simp only [DistinctIds, SceneCall.run, UiScene.addElement, List.map_append, List.map_singleton]
    refine List.Nodup.append h (List.nodup_singleton _) ?_
    rw [List.disjoint_singleton]
    intro hmem
    obtain ⟨existing, hexisting, hid⟩ := List.mem_map.mp hmem
    exact hnew existing hexisting hid
  | removeElement id =>
    by_cases hnone : withKey records.id id scene.elements = []
    · rwa [run_removeElement_none hnone]
    · rw [run_removeElement_some hnone]
      exact h.sublist (List.eraseP_sublist.map _)
  | updateElement updated =>
    cases hreplaced : replaceFirst records.id updated scene.elements with
    | none => rwa [run_updateElement_none hreplaced]
    | some after =>
      rw [run_updateElement_some hreplaced, DistinctIds, map_key_replaceFirst hreplaced]
      exact h

theorem everyCall_guaranteed_iff (scene : UiScene element) (calls : List (SceneCall element)) :
    EveryCall records (SceneCall.Guaranteed records) scene calls ↔
      EveryCall records (SceneCall.Unambiguous records) scene calls := by
  induction calls generalizing scene with
  | nil => exact Iff.rfl
  | cons call calls ih => exact and_congr (guaranteed_iff call) (ih _)

theorem everyCall_unambiguous (h : DistinctIds records scene) {calls : List (SceneCall element)}
    (hfresh : EveryCall records (SceneCall.Fresh records) scene calls) :
    EveryCall records (SceneCall.Unambiguous records) scene calls := by
  induction calls generalizing scene with
  | nil => trivial
  | cons call calls ih =>
    obtain ⟨hcall, hcalls⟩ := hfresh
    exact ⟨h.unambiguous call, ih (h.run hcall) hcalls⟩

end

/-- In a run every call does what it promises if and only if none looks for an id that two
elements have; and none does if the ids differ at first and every element that is added has a
new one. -/
theorem sceneCalls_guaranteed (element : Type) (records : ElementRecords element)
    (scene : UiScene element) (calls : List (SceneCall element)) :
    (EveryCall records (SceneCall.Guaranteed records) scene calls ↔
      EveryCall records (SceneCall.Unambiguous records) scene calls) ∧
    (DistinctIds records scene → EveryCall records (SceneCall.Fresh records) scene calls →
      EveryCall records (SceneCall.Guaranteed records) scene calls) :=
  ⟨everyCall_guaranteed_iff scene calls, fun hdistinct hfresh =>
    (everyCall_guaranteed_iff scene calls).mpr (everyCall_unambiguous hdistinct hfresh)⟩

def logo (caption : String) : UiElement :=
  .label { id := text "logo" } (text caption) ⟨0⟩

theorem sceneCalls_guaranteed_logo :
    EveryCall uiElements (SceneCall.Guaranteed uiElements) {}
      [.addElement (logo "A"), .updateElement (logo "B"), .removeElement (text "logo")] :=
  (sceneCalls_guaranteed UiElement uiElements {} _).2 List.nodup_nil
    ⟨rfl, trivial, trivial, trivial⟩

/-- One of two elements with the id is left. -/
theorem sceneCalls_twoLogos :
    ¬ EveryCall uiElements (SceneCall.Guaranteed uiElements) {}
      [.addElement (logo "A"), .addElement (logo "B"), .removeElement (text "logo")] := by
  rw [everyCall_guaranteed_iff]
  rintro ⟨-, -, hfew, -⟩
  exact absurd hfew (by decide)

end DragonOS.Sdk
