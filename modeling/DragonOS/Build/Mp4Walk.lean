import DragonOS.Build.Mp4Scan
import Mathlib.Logic.Relation

/-!
# When the metadata parser returns

The sizes in a file lead from box to box: behind a box, or into it, or out of a range that
is over. A spot on this way is bad news in four cases: a type does not fit into four
characters, or the type of a handler does not, the end of a box is out of the range of a
`long`, which is an overflow or a negative position, or a header is to be read and the
file is over. `tryParse` returns when no spot on the way is one of these:
`tryParse_returns_iff`.
-/

namespace DragonOS.Build.Mp4MetadataParser

open Lib
open BinaryReader (enough)

-- ---------------------------------------------------------------------------
-- The way through the file
-- ---------------------------------------------------------------------------

section
variable (content : Bytes)

structure Found where
  type : Text
  size : Nat
  reader : BinaryReader
  deriving DecidableEq, Repr

/-- The box at a position, in a range that ends at `stop`, if its type can be read. -/
def lookAt (stop : Nat) (reader : BinaryReader) : Option Found :=
  let sized := readUInt32BigEndian content reader
  match sized.2.readChars content 4 with
  | .error _ => none
  | .ok (type, typed) =>
    let large := readUInt64BigEndian content typed
    some (if sized.1 = 0 then ⟨type, stop - reader.position, typed⟩
      else if sized.1 = 1 then ⟨type, large.1, large.2⟩
      else ⟨type, sized.1, typed⟩)

/-- The reader behind the type of a handler, if that can be read. -/
def lookAtHandler (reader : BinaryReader) : Option BinaryReader :=
  match BinaryReader.readChars content 4 { reader with position := reader.position + 8 } with
  | .error _ => none
  | .ok (_, after) => some after

abbrev Found.Fits (found : Found) (start stop : Nat) : Prop :=
  8 ≤ found.size ∧ start + found.size ≤ stop

inductive Level
  | boxes | track | media
  deriving DecidableEq, Repr

def Level.inside (level : Level) (type : Text) : Option Level :=
  match level with
  | .boxes =>
    if type = text "moov" ∨ type = text "mdia" then some .boxes
    else if type = text "trak" then some .track
    else none
  | .track => if type = text "mdia" then some .media else none
  | .media => none

def Level.isHeader (level : Level) (type : Text) : Prop :=
  match level with
  | .boxes => type = text "mvhd"
  | .track => type = text "tkhd"
  | .media => False

def Level.isHandler (level : Level) (type : Text) : Prop := level = .media ∧ type = text "hdlr"

/-- The ranges that the reader is in, the innermost one first. -/
structure Spot where
  reader : BinaryReader
  ranges : List (Level × Nat)

structure Holds (reader : BinaryReader) (stop : Nat) (found : Found) : Prop where
  room : reader.position + 8 ≤ stop
  look : lookAt content stop reader = some found
  fits : found.Fits reader.position stop

inductive Goes : Spot → Spot → Prop
  | beyond : stop < reader.position + 8 →
      Goes ⟨reader, (level, stop) :: outer⟩ ⟨{ reader with position := stop }, outer⟩
  | broken : reader.position + 8 ≤ stop → lookAt content stop reader = some found →
      ¬ found.Fits reader.position stop →
      Goes ⟨reader, (level, stop) :: outer⟩ ⟨{ found.reader with position := stop }, outer⟩
  | inside : Holds content reader stop found → level.inside found.type = some below →
      Goes ⟨reader, (level, stop) :: outer⟩
        ⟨found.reader, (below, reader.position + found.size) :: (level, stop) :: outer⟩
  | handler : Holds content reader stop found → level.isHandler found.type →
      lookAtHandler content found.reader = some after →
      Goes ⟨reader, (level, stop) :: outer⟩
        ⟨{ after with position := reader.position + found.size }, (level, stop) :: outer⟩
  | past : Holds content reader stop found → level.inside found.type = none →
      ¬ level.isHandler found.type →
      Goes ⟨reader, (level, stop) :: outer⟩
        ⟨{ found.reader with position := reader.position + found.size }, (level, stop) :: outer⟩

/-- A spot where the parser throws. -/
inductive Harmful : Spot → Prop
  | type : reader.position + 8 ≤ stop → lookAt content stop reader = none →
      Harmful ⟨reader, (level, stop) :: outer⟩
  | size : reader.position + 8 ≤ stop → lookAt content stop reader = some found →
      2 ^ 63 ≤ reader.position + found.size → Harmful ⟨reader, (level, stop) :: outer⟩
  | header : Holds content reader stop found → level.isHeader found.type →
      content.length ≤ found.reader.position → Harmful ⟨reader, (level, stop) :: outer⟩
  | handler : Holds content reader stop found → level.isHandler found.type →
      lookAtHandler content found.reader = none → Harmful ⟨reader, (level, stop) :: outer⟩

def Spot.start : Spot := ⟨{ position := 0, pending := [] }, [(.boxes, content.length)]⟩

/-- Nothing on the way from a spot is harmful. -/
def Safe (spot : Spot) : Prop :=
  ∀ later, Relation.ReflTransGen (Goes content) spot later → ¬ Harmful content later

end

-- ---------------------------------------------------------------------------
-- Safe spots
-- ---------------------------------------------------------------------------

section
variable {content : Bytes} {reader : BinaryReader} {stop : Nat} {level : Level}
  {outer : List (Level × Nat)} {found : Found}

theorem safe_iff {spot : Spot} :
    Safe content spot ↔ ¬ Harmful content spot ∧ ∀ next, Goes content spot next → Safe content next := by
  constructor
  · exact fun h => ⟨h spot .refl, fun next hgo later hlater => h later (.head hgo hlater)⟩
  · rintro ⟨hhere, hnext⟩ later hlater
    rcases Relation.ReflTransGen.cases_head hlater with rfl | ⟨next, hgo, hlater⟩
    · exact hhere
    · exact hnext next hgo later hlater

theorem safe_nil : Safe content ⟨reader, []⟩ := safe_iff.mpr ⟨nofun, nofun⟩

theorem Level.inside_of_isHandler {type : Text} (h : level.isHandler type) :
    level.inside type = none := by
  obtain ⟨rfl, -⟩ := h
  rfl

theorem Level.not_isHandler_of_isHeader {type : Text} (h : level.isHeader type) :
    ¬ level.isHandler type := by
  rintro ⟨rfl, -⟩
  exact h

theorem Level.inside_of_isHeader {type : Text} (h : level.isHeader type) :
    level.inside type = none := by
  cases level with
  | boxes => rw [show type = text "mvhd" from h]; decide
  | track => rw [show type = text "tkhd" from h]; decide
  | media => exact absurd h id

theorem safe_over_iff (h : stop < reader.position + 8) :
    Safe content ⟨reader, (level, stop) :: outer⟩ ↔
      Safe content ⟨{ reader with position := stop }, outer⟩ := by
  rw [safe_iff]
  constructor
  · exact fun hsafe => hsafe.2 _ (.beyond h)
  · refine fun hsafe => ⟨fun hharmful => ?_, fun next hgo => ?_⟩
    · cases hharmful with
      | type hroom => omega
      | size hroom => omega
      | header hholds => exact absurd hholds.room (by omega)
      | handler hholds => exact absurd hholds.room (by omega)
    · cases hgo with
      | beyond => exact hsafe
      | broken hroom => omega
      | inside hholds => exact absurd hholds.room (by omega)
      | handler hholds => exact absurd hholds.room (by omega)
      | past hholds => exact absurd hholds.room (by omega)

theorem not_safe_of_unreadable (hroom : reader.position + 8 ≤ stop)
    (hlook : lookAt content stop reader = none) :
    ¬ Safe content ⟨reader, (level, stop) :: outer⟩ := fun h => h _ .refl (.type hroom hlook)

theorem not_safe_of_ge (hroom : reader.position + 8 ≤ stop)
    (hlook : lookAt content stop reader = some found)
    (hend : 2 ^ 63 ≤ reader.position + found.size) :
    ¬ Safe content ⟨reader, (level, stop) :: outer⟩ := fun h => h _ .refl (.size hroom hlook hend)

section
variable (hroom : reader.position + 8 ≤ stop) (hlook : lookAt content stop reader = some found)
  (hend : reader.position + found.size < 2 ^ 63)
include hroom hlook hend

theorem safe_broken_iff (hfits : ¬ found.Fits reader.position stop) :
    Safe content ⟨reader, (level, stop) :: outer⟩ ↔
      Safe content ⟨{ found.reader with position := stop }, outer⟩ := by
  have hnot {other : Found} (hholds : Holds content reader stop other) : False := by
    obtain rfl := Option.some.inj (hlook.symm.trans hholds.look)
    exact hfits hholds.fits
  rw [safe_iff]
  constructor
  · exact fun hsafe => hsafe.2 _ (.broken hroom hlook hfits)
  · refine fun hsafe => ⟨fun hharmful => ?_, fun next hgo => ?_⟩
    · cases hharmful with
      | type _ hnone => exact absurd (hlook.symm.trans hnone) nofun
      | size _ hother hge =>
        obtain rfl := Option.some.inj (hlook.symm.trans hother)
        omega
      | header hholds => exact (hnot hholds).elim
      | handler hholds => exact (hnot hholds).elim
    · cases hgo with
      | beyond hover => omega
      | broken _ hother =>
        obtain rfl := Option.some.inj (hlook.symm.trans hother)
        exact hsafe
      | inside hholds => exact (hnot hholds).elim
      | handler hholds => exact (hnot hholds).elim
      | past hholds => exact (hnot hholds).elim

end

section
variable (hholds : Holds content reader stop found)
  (hend : reader.position + found.size < 2 ^ 63)
include hholds hend

/-- At a box that fits: it is looked into, or its header or its handler is read. -/
theorem safe_holds_iff :
    Safe content ⟨reader, (level, stop) :: outer⟩ ↔
      (level.isHeader found.type → found.reader.position < content.length) ∧
      (level.isHandler found.type → lookAtHandler content found.reader ≠ none) ∧
      ∀ next, Goes content ⟨reader, (level, stop) :: outer⟩ next → Safe content next := by
  rw [safe_iff, ← and_assoc]
  refine and_congr_left' ?_
  constructor
  · refine fun h => ⟨fun hheader => Nat.lt_of_not_le fun hge => h (.header hholds hheader hge),
      fun hhandler hnone => h (.handler hholds hhandler hnone)⟩
  · rintro ⟨hheader, hhandler⟩ hharmful
    cases hharmful with
    | type _ hnone => exact absurd (hholds.look.symm.trans hnone) nofun
    | size _ hother hge =>
      obtain rfl := Option.some.inj (hholds.look.symm.trans hother)
      omega
    | header hother hheader' hge =>
      obtain rfl := Option.some.inj (hholds.look.symm.trans hother.look)
      exact absurd (hheader hheader') (Nat.not_lt_of_le hge)
    | handler hother hhandler' hnone =>
      obtain rfl := Option.some.inj (hholds.look.symm.trans hother.look)
      exact hhandler hhandler' hnone

omit hend in
theorem goes_holds {next : Spot} (hgo : Goes content ⟨reader, (level, stop) :: outer⟩ next) :
    (∃ below, level.inside found.type = some below ∧
      next = ⟨found.reader, (below, reader.position + found.size) :: (level, stop) :: outer⟩) ∨
    (level.isHandler found.type ∧ ∃ after, lookAtHandler content found.reader = some after ∧
      next = ⟨{ after with position := reader.position + found.size }, (level, stop) :: outer⟩) ∨
    (level.inside found.type = none ∧ ¬ level.isHandler found.type ∧
      next =
        ⟨{ found.reader with position := reader.position + found.size },
          (level, stop) :: outer⟩) := by
  have hroom := hholds.room
  cases hgo with
  | beyond hover => omega
  | broken _ hother hfits =>
    obtain rfl := Option.some.inj (hholds.look.symm.trans hother)
    exact absurd hholds.fits hfits
  | inside hother hinside =>
    obtain rfl := Option.some.inj (hholds.look.symm.trans hother.look)
    exact .inl ⟨_, hinside, rfl⟩
  | handler hother hhandler hafter =>
    obtain rfl := Option.some.inj (hholds.look.symm.trans hother.look)
    exact .inr (.inl ⟨hhandler, _, hafter, rfl⟩)
  | past hother hinside hhandler =>
    obtain rfl := Option.some.inj (hholds.look.symm.trans hother.look)
    exact .inr (.inr ⟨hinside, hhandler, rfl⟩)

theorem safe_inside_iff {below : Level} (hinside : level.inside found.type = some below) :
    Safe content ⟨reader, (level, stop) :: outer⟩ ↔
      Safe content
        ⟨found.reader, (below, reader.position + found.size) :: (level, stop) :: outer⟩ := by
  have hheader : ¬ level.isHeader found.type := fun h =>
    absurd (hinside.symm.trans (Level.inside_of_isHeader h)) nofun
  have hhandler : ¬ level.isHandler found.type := fun h =>
    absurd (hinside.symm.trans (Level.inside_of_isHandler h)) nofun
  rw [safe_holds_iff hholds hend]
  constructor
  · exact fun h => h.2.2 _ (.inside hholds hinside)
  · refine fun h => ⟨fun h => absurd h hheader, fun h => absurd h hhandler, fun next hgo => ?_⟩
    rcases goes_holds hholds hgo with ⟨other, hother, rfl⟩ | ⟨hother, -⟩ | ⟨hother, -⟩
    · obtain rfl := Option.some.inj (hinside.symm.trans hother)
      exact h
    · exact absurd hother hhandler
    · exact absurd (hinside.symm.trans hother) nofun

theorem safe_handler_iff (hhandler : level.isHandler found.type) :
    Safe content ⟨reader, (level, stop) :: outer⟩ ↔
      ∃ after, lookAtHandler content found.reader = some after ∧
        Safe content
          ⟨{ after with position := reader.position + found.size }, (level, stop) :: outer⟩ := by
  have hinside := Level.inside_of_isHandler hhandler
  rw [safe_holds_iff hholds hend]
  constructor
  · rintro ⟨-, hreadable, hnext⟩
    obtain ⟨after, hafter⟩ := Option.ne_none_iff_exists'.mp (hreadable hhandler)
    exact ⟨after, hafter, hnext _ (.handler hholds hhandler hafter)⟩
  · rintro ⟨after, hafter, hsafe⟩
    refine ⟨fun h => absurd hhandler (Level.not_isHandler_of_isHeader h),
      fun _ hnone => absurd (hafter.symm.trans hnone) nofun, fun next hgo => ?_⟩
    rcases goes_holds hholds hgo with ⟨_, hother, -⟩ | ⟨-, other, hother, rfl⟩ | ⟨-, hother, -⟩
    · exact absurd (hinside.symm.trans hother) nofun
    · obtain rfl := Option.some.inj (hafter.symm.trans hother)
      exact hsafe
    · exact absurd hhandler hother

theorem safe_past_iff (hinside : level.inside found.type = none)
    (hhandler : ¬ level.isHandler found.type) :
    Safe content ⟨reader, (level, stop) :: outer⟩ ↔
      (level.isHeader found.type → found.reader.position < content.length) ∧
        Safe content
          ⟨{ found.reader with position := reader.position + found.size },
            (level, stop) :: outer⟩ := by
  rw [safe_holds_iff hholds hend]
  refine and_congr_right fun _ => ?_
  constructor
  · exact fun h => h.2 _ (.past hholds hinside hhandler)
  · refine fun h => ⟨fun hother => absurd hother hhandler, fun next hgo => ?_⟩
    rcases goes_holds hholds hgo with ⟨_, hother, -⟩ | ⟨hother, -⟩ | ⟨-, -, rfl⟩
    · exact absurd (hinside.symm.trans hother) nofun
    · exact absurd hother hhandler
    · exact h

end

end
-- ---------------------------------------------------------------------------
-- Reading a box
-- ---------------------------------------------------------------------------

section
variable {content : Bytes} {reader : BinaryReader} {stop : Nat} {found : Found}

theorem readBox_of_unreadable (endPosition : Int) (hlook : lookAt content stop reader = none) :
    ∃ exception, readBox content endPosition reader = .error exception := by
  unfold lookAt at hlook
  dsimp only at hlook
  cases htype : (readUInt32BigEndian content reader).2.readChars content 4 with
  | error exception =>
    refine ⟨exception, ?_⟩
    rw [readBox]
    exact congrArg (· >>= _) htype
  | ok read =>
    rw [htype] at hlook
    cases hlook

theorem readPayloadSize_of_lookAt (hroom : reader.position + 8 ≤ stop)
    (hlook : lookAt content stop reader = some found) :
    ∃ typed, (readUInt32BigEndian content reader).2.readChars content 4 =
        .ok (found.type, typed) ∧
      readPayloadSize content (readUInt32BigEndian content reader).1 reader.position stop typed =
        if (readUInt32BigEndian content reader).1 = 1 ∧ 2 ^ 63 ≤ found.size then .error .overflow
        else .ok (found.size, found.reader) := by
  unfold lookAt at hlook
  dsimp only at hlook
  cases htype : (readUInt32BigEndian content reader).2.readChars content 4 with
  | error exception =>
    rw [htype] at hlook
    cases hlook
  | ok read =>
    obtain ⟨type, typed⟩ := read
    rw [htype] at hlook
    obtain rfl := Option.some.inj hlook
    refine ⟨typed, ?_, ?_⟩
    · split <;> [skip; split] <;> rfl
    unfold readPayloadSize
    split
    next hzero =>
      rw [if_pos hzero, if_neg (by omega), Nat.cast_sub (by omega)]
    next hone =>
      simp only [hone, if_true, if_false, true_and, one_ne_zero, checkedLong]
      split
      next hlt => rw [if_neg (by omega)]; rfl
      next hge => rw [if_pos (by omega)]; rfl
    next hzero hone =>
      rw [if_neg (fun h => hone h.1), if_neg hzero, if_neg hone]

theorem size_of_lookAt (hroom : reader.position + 8 ≤ stop) (hstop : stop ≤ content.length)
    (hlength : content.length + 8 < 2 ^ 63) (hlook : lookAt content stop reader = some found)
    (hsize : (readUInt32BigEndian content reader).1 ≠ 1) :
    found.size < 2 ^ 63 ∧ reader.position + found.size < 2 ^ 64 := by
  have hfield := readBigEndian_lt content 4 reader
  rw [← readUInt32BigEndian] at hfield
  unfold lookAt at hlook
  dsimp only at hlook
  split at hlook
  next => cases hlook
  next type typed _ =>
    obtain rfl := Option.some.inj hlook
    by_cases hzero : (readUInt32BigEndian content reader).1 = 0
    · rw [if_pos hzero]
      dsimp only
      omega
    · rw [if_neg hzero, if_neg hsize]
      dsimp only
      omega

theorem readBox_of_lookAt (hroom : reader.position + 8 ≤ stop) (hstop : stop ≤ content.length)
    (hlook : lookAt content stop reader = some found)
    (hend : reader.position + found.size < 2 ^ 63) :
    readBox content stop reader =
      .ok (if found.Fits reader.position stop then
          some ⟨found.type, (reader.position + found.size : Nat)⟩
        else none, found.reader) := by
  obtain ⟨typed, htype, hsize⟩ := readPayloadSize_of_lookAt hroom hlook
  rw [if_neg (by omega)] at hsize
  have hsum : int64 (reader.position + found.size : Int) =
      (reader.position + found.size : Nat) := int64_eq (by omega) (by omega)
  rw [readBox]
  dsimp only
  rw [htype, ok_bind]
  dsimp only
  rw [hsize, ok_bind]
  dsimp only
  rw [hsum]
  by_cases hsmall : found.size < 8
  · rw [if_pos (by omega), if_neg (by omega)]
  by_cases hlarge : stop < reader.position + found.size
  · rw [if_neg (by omega), if_pos (by omega), if_neg (by omega)]
  · rw [if_neg (by omega), if_neg (by omega), if_pos (by omega)]

/-- The end of a box is out of range: the size is, or the end becomes negative. -/
theorem readBox_of_ge (hroom : reader.position + 8 ≤ stop) (hstop : stop ≤ content.length)
    (hlength : content.length + 8 < 2 ^ 63) (hlook : lookAt content stop reader = some found)
    (hend : 2 ^ 63 ≤ reader.position + found.size) :
    readBox content stop reader = .error .overflow ∨
      ∃ box, readBox content stop reader = .ok (some box, found.reader) ∧ box.boxEnd < 0 := by
  obtain ⟨typed, htype, hsize⟩ := readPayloadSize_of_lookAt hroom hlook
  rw [readBox]
  dsimp only
  rw [htype, ok_bind]
  dsimp only
  rw [hsize]
  split
  next => exact .inl rfl
  next hpayload =>
    have hbelow : found.size < 2 ^ 63 := by
      by_contra hge
      refine hpayload ⟨?_, by omega⟩
      by_contra hone
      exact hge (size_of_lookAt hroom hstop hlength hlook hone).1
    have hsum : int64 (reader.position + found.size : Int) =
        reader.position + found.size - 2 ^ 64 := int64_wrap (by omega) (by omega)
    refine .inr ⟨⟨found.type, reader.position + found.size - 2 ^ 64⟩, ?_, ?_⟩
    · rw [ok_bind]
      dsimp only
      rw [hsum, if_neg (by omega), if_neg (by omega)]
    · show reader.position + (found.size : Int) - 2 ^ 64 < 0
      omega

theorem Holds.read (hholds : Holds content reader stop found) (hstop : stop ≤ content.length)
    (hlength : content.length + 8 < 2 ^ 63) :
    BoxRead content stop reader ⟨found.type, (reader.position + found.size : Nat)⟩ found.reader := by
  have hfits := hholds.fits
  refine readBox_some ?_ (by omega)
  rw [readBox_of_lookAt hholds.room hstop hholds.look (by omega), if_pos hfits]

-- ---------------------------------------------------------------------------
-- The loop
-- ---------------------------------------------------------------------------

variable {σ : Type} {body : Body σ} {state : σ} {outer : List (Level × Nat)} {level : Level}

theorem boxTurn_over (hlength : content.length + 8 < 2 ^ 63)
    (hstart : reader.position ≤ content.length) (hover : stop < reader.position + 8) :
    boxTurn content body stop (reader, state) = .ok (.leave (reader, state)) := by
  have hsum : int64 (reader.position + 8 : Int) = (reader.position + 8 : Nat) :=
    int64_eq (by omega) (by omega)
  rw [boxTurn, hsum, if_neg (by omega)]

theorem boxTurn_room (hroom : reader.position + 8 ≤ stop) (hstop : stop ≤ content.length)
    (hlength : content.length + 8 < 2 ^ 63) :
    boxTurn content body stop (reader, state) =
      (readBox content stop reader >>= fun read =>
        match read.1 with
        | none => .ok (.leave (read.2, state))
        | some box => do
          let (reader, state) ← body box (read.2, state)
          let reader ← reader.setPosition box.boxEnd
          .ok (.again (reader, state))) := by
  have hsum : int64 (reader.position + 8 : Int) = (reader.position + 8 : Nat) :=
    int64_eq (by omega) (by omega)
  rw [boxTurn, hsum]
  exact if_pos (by omega)

theorem boxTurn_holds (hholds : Holds content reader stop found) (hstop : stop ≤ content.length)
    (hlength : content.length + 8 < 2 ^ 63) :
    boxTurn content body stop (reader, state) =
      (body ⟨found.type, (reader.position + found.size : Nat)⟩ (found.reader, state) >>= fun after =>
        .ok (.again ({ after.1 with position := reader.position + found.size }, after.2))) := by
  have hfits := hholds.fits
  rw [boxTurn_room hholds.room hstop hlength,
    readBox_of_lookAt hholds.room hstop hholds.look (by omega), if_pos hfits, ok_bind]
  dsimp only
  refine bind_congr fun after => ?_
  rw [BinaryReader.setPosition_natCast, ok_bind]

theorem boxTurn_of_ge (hroom : reader.position + 8 ≤ stop) (hstop : stop ≤ content.length)
    (hlength : content.length + 8 < 2 ^ 63) (hlook : lookAt content stop reader = some found)
    (hend : 2 ^ 63 ≤ reader.position + found.size) (result : Turn (BinaryReader × σ)) :
    boxTurn content body stop (reader, state) ≠ .ok result := by
  intro h
  rw [boxTurn_room hroom hstop hlength] at h
  rcases readBox_of_ge hroom hstop hlength hlook hend with hread | ⟨box, hread, hbox⟩
  · rw [hread] at h
    cases h
  · rw [hread, ok_bind] at h
    obtain ⟨after, -, h⟩ := bind_ok.mp h
    dsimp only at h
    rw [BinaryReader.setPosition_of_neg hbox] at h
    cases h

theorem loop_holds_iff (hholds : Holds content reader stop found) (hstop : stop ≤ content.length)
    (hlength : content.length + 8 < 2 ^ 63) {goal : BinaryReader × σ → Prop} (fuel : Nat) :
    (∃ result, loop (boxTurn content body stop) .endless (fuel + 1) (reader, state) = .ok result ∧
        goal result) ↔
      ∃ after, body ⟨found.type, (reader.position + found.size : Nat)⟩ (found.reader, state) =
          .ok after ∧
        ∃ result, loop (boxTurn content body stop) .endless fuel
            ({ after.1 with position := reader.position + found.size }, after.2) = .ok result ∧
          goal result := by
  rw [loop, boxTurn_holds hholds hstop hlength]
  constructor
  · rintro ⟨result, h, hgoal⟩
    obtain ⟨turned, hturned, h⟩ := bind_ok.mp h
    obtain ⟨after, hafter, hturned⟩ := bind_ok.mp hturned
    obtain rfl := Except.ok.inj hturned
    exact ⟨after, hafter, result, h, hgoal⟩
  · rintro ⟨after, hafter, result, h, hgoal⟩
    refine ⟨result, ?_, hgoal⟩
    rw [hafter]
    exact h

/-- The loop returns to a safe spot when its own spot is safe. The induction is on the
turns that are left; a turn over a box that fits is what the body does. -/
theorem eachBox_safe_iff (hstop : stop ≤ content.length) (hlength : content.length + 8 < 2 ^ 63)
    (hbody : ∀ (now : BinaryReader) (found : Found) (state : σ), reader.position ≤ now.position →
      Holds content now stop found →
      ((∃ after, body ⟨found.type, (now.position + found.size : Nat)⟩ (found.reader, state) =
          .ok after ∧
          Safe content
            ⟨{ after.1 with position := now.position + found.size }, (level, stop) :: outer⟩) ↔
        Safe content ⟨now, (level, stop) :: outer⟩))
    (hstart : reader.position ≤ content.length) (state : σ) :
    (∃ after, eachBox content body stop (reader, state) = .ok after ∧
        Safe content ⟨{ after.1 with position := stop }, outer⟩) ↔
      Safe content ⟨reader, (level, stop) :: outer⟩ := by
  have hfuel : stop - reader.position < enough content :=
    Nat.lt_succ_of_le (Nat.le_trans (Nat.sub_le _ _) hstop)
  unfold eachBox
  generalize enough content = fuel at hfuel
  induction fuel generalizing reader state with
  | zero => omega
  | succ fuel ih =>
    by_cases hover : stop < reader.position + 8
    · rw [loop_leave (boxTurn_over hlength hstart hover), safe_over_iff hover]
      exact exists_ok_iff
    have hroom : reader.position + 8 ≤ stop := Nat.le_of_not_lt hover
    cases hlook : lookAt content stop reader with
    | none =>
      refine iff_of_false ?_ (not_safe_of_unreadable hroom hlook)
      rintro ⟨after, h, -⟩
      obtain ⟨exception, hread⟩ := readBox_of_unreadable stop hlook
      refine loop_ne_ok (fun result hturn => ?_) h
      rw [boxTurn_room hroom hstop hlength, hread] at hturn
      cases hturn
    | some found =>
      by_cases hend : 2 ^ 63 ≤ reader.position + found.size
      · refine iff_of_false ?_ (not_safe_of_ge hroom hlook hend)
        rintro ⟨after, h, -⟩
        exact loop_ne_ok (boxTurn_of_ge hroom hstop hlength hlook hend) h
      have hend : reader.position + found.size < 2 ^ 63 := Nat.lt_of_not_le hend
      by_cases hfits : found.Fits reader.position stop
      · have hholds : Holds content reader stop found := ⟨hroom, hlook, hfits⟩
        rw [← hbody reader found state (Nat.le_refl _) hholds, loop_holds_iff hholds hstop hlength]
        refine exists_congr fun after => and_congr_right fun _ => ?_
        refine @ih { after.1 with position := reader.position + found.size }
          (fun now found state hle => hbody now found state (Nat.le_trans (Nat.le_add_right _ _) hle))
          (hfits.2.trans hstop) after.2 ?_
        have hsize := hfits.1
        dsimp only
        omega
      · rw [safe_broken_iff hroom hlook hend hfits]
        have hleave : boxTurn content body stop (reader, state) =
            .ok (.leave (found.reader, state)) := by
          rw [boxTurn_room hroom hstop hlength, readBox_of_lookAt hroom hstop hlook hend,
            if_neg hfits]
          rfl
        rw [loop_leave hleave]
        exact exists_ok_iff

end

-- ---------------------------------------------------------------------------
-- Headers
-- ---------------------------------------------------------------------------

section
variable {content : Bytes} {reader : BinaryReader}

theorem readByte_pending {read : UInt8 × BinaryReader} (h : reader.readByte content = .ok read) :
    read.2.pending = reader.pending := by
  unfold BinaryReader.readByte at h
  split at h
  next => exact Except.ok.inj h ▸ rfl
  next => cases h

theorem parseMovieHeader_pending {read : ℚ × BinaryReader}
    (h : parseMovieHeader content reader = .ok read) : read.2.pending = reader.pending := by
  obtain ⟨byte, hbyte, h⟩ := bind_ok.mp h
  rw [← readByte_pending hbyte]
  dsimp only at h
  split at h <;> exact Except.ok.inj h ▸ rfl

theorem parseTrackHeader_pending {read : (Nat × Nat) × BinaryReader}
    (h : parseTrackHeader content reader = .ok read) : read.2.pending = reader.pending := by
  obtain ⟨byte, hbyte, h⟩ := bind_ok.mp h
  rw [← readByte_pending hbyte]
  exact Except.ok.inj h ▸ rfl

theorem parseMovieHeader_returns_iff :
    (∃ read, parseMovieHeader content reader = .ok read) ↔ reader.position < content.length := by
  rw [← BinaryReader.readByte_returns_iff]
  refine bind_returns_iff fun read => ?_
  dsimp only
  split <;> exact ⟨_, rfl⟩

theorem parseTrackHeader_returns_iff :
    (∃ read, parseTrackHeader content reader = .ok read) ↔ reader.position < content.length := by
  rw [← BinaryReader.readByte_returns_iff]
  exact bind_returns_iff fun read => ⟨_, rfl⟩

theorem header_safe_iff {α : Type} {header : Except StreamException (α × BinaryReader)}
    (hreturns : (∃ read, header = .ok read) ↔ reader.position < content.length)
    (hpending : ∀ read, header = .ok read → read.2.pending = reader.pending) {position : Nat}
    {ranges : List (Level × Nat)} :
    (∃ read, header = .ok read ∧ Safe content ⟨{ read.2 with position }, ranges⟩) ↔
      reader.position < content.length ∧ Safe content ⟨{ reader with position }, ranges⟩ := by
  have hsame (read : α × BinaryReader) (hread : header = .ok read) :
      ({ read.2 with position } : BinaryReader) = { reader with position } :=
    congrArg (BinaryReader.mk position) (hpending read hread)
  rw [← hreturns]
  constructor
  · rintro ⟨read, hread, hsafe⟩
    exact ⟨⟨read, hread⟩, hsame read hread ▸ hsafe⟩
  · rintro ⟨⟨read, hread⟩, hsafe⟩
    exact ⟨read, hread, hsame read hread ▸ hsafe⟩

end

-- ---------------------------------------------------------------------------
-- The three loops
-- ---------------------------------------------------------------------------

section
variable {content : Bytes} {reader : BinaryReader} {stop : Nat} {outer : List (Level × Nat)}
  (hlength : content.length + 8 < 2 ^ 63)
include hlength

theorem parseMedia_safe_iff (hstop : stop ≤ content.length)
    (hstart : reader.position ≤ content.length) (isVideo : Bool) :
    (∃ after, parseMedia content stop (reader, isVideo) = .ok after ∧
        Safe content ⟨{ after.1 with position := stop }, outer⟩) ↔
      Safe content ⟨reader, (.media, stop) :: outer⟩ := by
  refine eachBox_safe_iff hstop hlength (fun now found isVideo _ hholds => ?_) hstart isVideo
  have hfits := hholds.fits
  have hend : now.position + found.size < 2 ^ 63 := by omega
  unfold mediaBox
  dsimp only
  by_cases hhdlr : found.type = text "hdlr"
  · have hposition : found.reader.setPosition (found.reader.position + 8) =
        .ok { found.reader with position := found.reader.position + 8 } :=
      BinaryReader.setPosition_natCast (found.reader.position + 8) found.reader
    rw [if_pos hhdlr, hposition, ok_bind, safe_handler_iff hholds hend ⟨rfl, hhdlr⟩,
      exists_bind_ok_iff, lookAtHandler]
    cases BinaryReader.readChars content 4
      { found.reader with position := found.reader.position + 8 } with
    | error exception => exact iff_of_false (fun ⟨_, h, _⟩ => nomatch h) fun ⟨_, h, _⟩ => nomatch h
    | ok read =>
      exact exists_ok_iff.trans ⟨fun h => ⟨_, rfl, h⟩, fun ⟨_, h, hsafe⟩ => Option.some.inj h ▸ hsafe⟩
  · rw [if_neg hhdlr, safe_past_iff hholds hend rfl fun h => hhdlr h.2, exists_ok_iff]
    exact ⟨fun h => ⟨False.elim, h⟩, And.right⟩

theorem parseTrack_safe_iff (hstop : stop ≤ content.length)
    (hstart : reader.position ≤ content.length) (state : TrackState) :
    (∃ after, parseTrack content stop (reader, state) = .ok after ∧
        Safe content ⟨{ after.1 with position := stop }, outer⟩) ↔
      Safe content ⟨reader, (.track, stop) :: outer⟩ := by
  refine eachBox_safe_iff hstop hlength (fun now found state _ hholds => ?_) hstart state
  have hfits := hholds.fits
  have hend : now.position + found.size < 2 ^ 63 := by omega
  have hread := hholds.read hstop hlength
  have hfound := hread.position (by have := hholds.room; omega)
  have hhandler : ¬ Level.track.isHandler found.type := nofun
  unfold trackBox
  dsimp only
  by_cases hmdia : found.type = text "mdia"
  · have hinside : Level.track.inside found.type = some .media := if_pos hmdia
    rw [if_pos hmdia, exists_bind_ok_iff, safe_inside_iff hholds hend hinside]
    exact parseMedia_safe_iff hlength (hfits.2.trans hstop) hfound state.isVideo
  have hinside : Level.track.inside found.type = none := if_neg hmdia
  rw [if_neg hmdia, safe_past_iff hholds hend hinside hhandler]
  by_cases htkhd : found.type = text "tkhd"
  · have hheader : Level.track.isHeader found.type := htkhd
    rw [if_pos htkhd, exists_bind_ok_iff, header_safe_iff parseTrackHeader_returns_iff
      fun read hread => parseTrackHeader_pending hread]
    exact and_congr_left' ⟨fun h _ => h, fun h => h hheader⟩
  · rw [if_neg htkhd, exists_ok_iff]
    exact ⟨fun h => ⟨fun hheader => absurd hheader htkhd, h⟩, And.right⟩

theorem parseBoxRange_safe_iff {nesting : Nat} (hstop : stop ≤ content.length)
    (hstart : reader.position ≤ content.length)
    (hnesting : content.length - reader.position < nesting) (metadata : Mp4Metadata) :
    (∃ after, parseBoxRange content nesting stop (reader, metadata) = .ok after ∧
        Safe content ⟨{ after.1 with position := stop }, outer⟩) ↔
      Safe content ⟨reader, (.boxes, stop) :: outer⟩ := by
  induction nesting generalizing reader stop outer metadata with
  | zero => omega
  | succ nesting ih =>
    refine eachBox_safe_iff hstop hlength (fun now found metadata hle hholds => ?_) hstart metadata
    have hfits := hholds.fits
    have hroom := hholds.room
    have hend : now.position + found.size < 2 ^ 63 := by omega
    have hread := hholds.read hstop hlength
    have hfound := hread.position (by omega)
    have hhandler : ¬ Level.boxes.isHandler found.type := nofun
    unfold rangeBox
    dsimp only
    by_cases hboxes : found.type = text "moov" ∨ found.type = text "mdia"
    · have hinside : Level.boxes.inside found.type = some .boxes := if_pos hboxes
      have hname := ascii_of_boxes hboxes
      have hinner := hread.named (by omega) hname.1 hname.2
      rw [if_pos hboxes, safe_inside_iff hholds hend hinside]
      exact ih (hfits.2.trans hstop) hfound (by omega) metadata
    rw [if_neg hboxes]
    by_cases htrak : found.type = text "trak"
    · have hinside : Level.boxes.inside found.type = some .track :=
        (if_neg hboxes).trans (if_pos htrak)
      rw [if_pos htrak, exists_bind_ok_iff, safe_inside_iff hholds hend hinside]
      exact parseTrack_safe_iff hlength (hfits.2.trans hstop) hfound _
    have hinside : Level.boxes.inside found.type = none := (if_neg hboxes).trans (if_neg htrak)
    rw [if_neg htrak, safe_past_iff hholds hend hinside hhandler]
    by_cases hmvhd : found.type = text "mvhd"
    · have hheader : Level.boxes.isHeader found.type := hmvhd
      rw [if_pos hmvhd, exists_bind_ok_iff, header_safe_iff parseMovieHeader_returns_iff
        fun read hread => parseMovieHeader_pending hread]
      exact and_congr_left' ⟨fun h _ => h, fun h => h hheader⟩
    · rw [if_neg hmvhd, exists_ok_iff]
      exact ⟨fun h => ⟨fun hheader => absurd hheader hmvhd, h⟩, And.right⟩

end

/-- `TryParse` returns when no spot on the way through the file is harmful. -/
theorem tryParse_returns_iff (content : Bytes) (hlength : content.length + 8 < 2 ^ 63) :
    (∃ result, tryParse content = .ok result) ↔
      ∀ spot, Relation.ReflTransGen (Goes content) (Spot.start content) spot →
        ¬ Harmful content spot := by
  have hsafe : (∃ after, parseBoxRange content (enough content) content.length
        ({ position := 0, pending := [] }, { width := 0, height := 0, durationSeconds := 0 }) =
          .ok after ∧ Safe content ⟨{ after.1 with position := content.length }, []⟩) ↔
      Safe content (Spot.start content) :=
    parseBoxRange_safe_iff hlength (Nat.le_refl _) (Nat.zero_le _)
      (Nat.lt_succ_of_le (Nat.sub_le _ _)) _
  refine (bind_returns_iff fun after => ⟨_, rfl⟩).trans (Iff.trans ?_ hsafe)
  exact exists_congr fun after => ⟨fun h => ⟨h, safe_nil⟩, And.left⟩

/-- The file ends behind the header of a box that should hold the movie header. -/
def cutOff : Bytes := [0x00, 0x00, 0x00, 0x08] ++ asciiBytes "mvhd"

theorem tryParse_returns_iff_cutOff :
    (∃ result, tryParse cutOff = .ok result) ↔
      ∀ spot, Relation.ReflTransGen (Goes cutOff) (Spot.start cutOff) spot →
        ¬ Harmful cutOff spot :=
  tryParse_returns_iff cutOff (by decide)

/-- A size of 2^63, cut off after its first byte, is too large for a `long`. -/
def oversized : Bytes := [0x00, 0x00, 0x00, 0x01] ++ asciiBytes "free" ++ [0x80]

/-- A size of 2^63 - 1 is not, but the end of the second box is. -/
def wrapping : Bytes :=
  [0x00, 0x00, 0x00, 0x08] ++ asciiBytes "free" ++ [0x00, 0x00, 0x00, 0x01] ++ asciiBytes "free" ++
    [0x7F, 0xFF, 0xFF, 0xFF, 0xFF, 0xFF, 0xFF, 0xFF]

/-- The last byte of the handler's type begins a character, and the byte behind it does not
go on with it: that makes five characters. -/
def oddHandler : Bytes :=
  [0x00, 0x00, 0x00, 0x28] ++ asciiBytes "trak" ++ [0x00, 0x00, 0x00, 0x20] ++ asciiBytes "mdia" ++
    [0x00, 0x00, 0x00, 0x18] ++ asciiBytes "hdlr" ++ List.replicate 8 0x00 ++
    [0x73, 0x6F, 0x75, 0xC3] ++ List.replicate 4 0x00

/-- A file of ASCII may throw; all its types are one byte for one character. -/
theorem tryParse_throws :
    tryParse cutOff = .error .endOfStream ∧ tryParse oversized = .error .overflow ∧
      tryParse wrapping = .error .negativePosition ∧ tryParse oddHandler = .error .argument ∧
      ¬ ∀ content : Bytes, content.length + 8 < 2 ^ 63 → (∀ byte ∈ content, byte < 0x80) →
        ∃ result, tryParse content = .ok result := by
  have hcutOff : tryParse cutOff = .error .endOfStream := by decide +kernel
  refine ⟨hcutOff, by decide +kernel, by decide +kernel, by decide +kernel, fun h => ?_⟩
  have hall : cutOff.all (· < 0x80) = true := by decide
  obtain ⟨result, hresult⟩ := h cutOff (by decide) fun byte hbyte =>
    of_decide_eq_true (List.all_eq_true.mp hall byte hbyte)
  rw [hcutOff] at hresult
  cases hresult

end DragonOS.Build.Mp4MetadataParser
