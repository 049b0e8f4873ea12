import DragonOS.Lib.Outcome

/-!
# Code that is emitted in pieces

An assembler emits one piece of code after the other. A piece may end in a gap for a
reference that is filled in when all pieces are there; filling in the gaps of the whole
code completes each piece (`fillGaps_eq`). A decoder that reads a completed piece whatever
follows it reads the whole code (`decodeAll_complete`).
-/

namespace DragonOS.Lib

/-- `head` is what is known at once, `reference` what the gap behind it is for. -/
structure Piece (β ρ : Type) where
  head : List β
  reference : Option ρ

section
variable {β ρ ε α ι : Type} (width : ρ → Nat) (blank : β)

def gap (reference : Option ρ) : List β :=
  match reference with
  | none => []
  | some reference => List.replicate (width reference) blank

def drafts (pieces : List (Piece β ρ)) : List β :=
  pieces.flatMap fun piece => piece.head ++ gap width blank piece.reference

def gaps : (position : Nat) → List (Piece β ρ) → List (Nat × ρ)
  | _, [] => []
  | position, ⟨head, none⟩ :: pieces => gaps (position + head.length) pieces
  | position, ⟨head, some reference⟩ :: pieces =>
    (position + head.length, reference) ::
      gaps (position + head.length + width reference) pieces

variable (fill : Nat → ρ → Except ε (List β))

def Piece.complete (position : Nat) (piece : Piece β ρ) : Except ε (List β) :=
  match piece.reference with
  | none => .ok piece.head
  | some reference => do
    let values ← fill (position + piece.head.length) reference
    .ok (piece.head ++ values)

theorem Piece.complete_of_reference {fill : Nat → ρ → Except ε (List β)} {head : List β}
    {reference : ρ}
    (h : Piece.complete fill position ⟨head, some reference⟩ = .ok code) :
    ∃ values, fill (position + head.length) reference = .ok values ∧ code = head ++ values := by
  obtain ⟨values, hvalues, h⟩ := bind_ok.mp h
  exact ⟨values, hvalues, (Except.ok.inj h).symm⟩

def completeAll : (position : Nat) → List (Piece β ρ) → Except ε (List β)
  | _, [] => .ok []
  | position, piece :: pieces => do
    let code ← piece.complete fill position
    let rest ← completeAll (position + code.length) pieces
    .ok (code ++ rest)

-- ---------------------------------------------------------------------------
-- Filling in the gaps
-- ---------------------------------------------------------------------------

variable {width blank fill}

theorem drafts_append (first second : List (Piece β ρ)) :
    drafts width blank (first ++ second) =
      drafts width blank first ++ drafts width blank second := List.flatMap_append

theorem gaps_append (first second : List (Piece β ρ)) (position : Nat) :
    gaps width position (first ++ second) =
      gaps width position first ++
        gaps width (position + (drafts width blank first).length) second := by
  induction first generalizing position with
  | nil => rfl
  | cons piece first ih =>
    obtain ⟨head, _ | reference⟩ := piece
    · simp only [List.cons_append, gaps, ih, drafts, List.flatMap_cons, gap, List.append_nil,
        List.length_append, Nat.add_assoc]
    · simp only [List.cons_append, gaps, ih, drafts, List.flatMap_cons, gap, List.length_append,
        List.length_replicate, Nat.add_assoc]

theorem drafts_cons (piece : Piece β ρ) (pieces : List (Piece β ρ)) :
    drafts width blank (piece :: pieces) =
      piece.head ++ (gap width blank piece.reference ++ drafts width blank pieces) := by
  rw [drafts, List.flatMap_cons, List.append_assoc, drafts]

theorem completeAll_cons (piece : Piece β ρ) (pieces : List (Piece β ρ)) (position : Nat) :
    completeAll fill position (piece :: pieces) =
      piece.complete fill position >>= fun code =>
        (completeAll fill (position + code.length) pieces).map (code ++ ·) := rfl

theorem map_append_append (before head : List β) (rest : Except ε (List β)) :
    rest.map ((before ++ head) ++ ·) = (rest.map (head ++ ·)).map (before ++ ·) := by
  cases rest with
  | error exception => rfl
  | ok rest => exact congrArg Except.ok (List.append_assoc before head rest)

theorem length_completeAll (hfill : ∀ position reference values,
      fill position reference = .ok values → values.length = width reference)
    {pieces : List (Piece β ρ)} {position : Nat} {code : List β}
    (h : completeAll fill position pieces = .ok code) :
    code.length = (drafts width blank pieces).length := by
  induction pieces generalizing position code with
  | nil =>
    obtain rfl := Except.ok.inj h
    rfl
  | cons piece pieces ih =>
    rw [completeAll, bind_ok] at h
    obtain ⟨first, hfirst, h⟩ := h
    obtain ⟨rest, hrest, h⟩ := bind_ok.mp h
    obtain rfl := Except.ok.inj h
    rw [drafts_cons, List.length_append, List.length_append, List.length_append, ih hrest,
      ← Nat.add_assoc]
    congr 1
    obtain ⟨head, _ | reference⟩ := piece
    · obtain rfl := Except.ok.inj hfirst
      rfl
    · obtain ⟨values, hvalues, hfirst⟩ := bind_ok.mp hfirst
      obtain rfl := Except.ok.inj hfirst
      rw [List.length_append, hfill _ _ _ hvalues, gap, List.length_replicate]

/-- Filling in all gaps, in the order they were left, completes the pieces. -/
theorem fillGaps_eq (blank : β) (write : List β → Nat → List β → Except ε (List β))
    (hfill : ∀ position reference values, fill position reference = .ok values →
      values.length = width reference)
    (hwrite : ∀ before old after new, old.length = new.length →
      write (before ++ (old ++ after)) before.length new = .ok (before ++ new ++ after))
    (pieces : List (Piece β ρ)) (before : List β) :
    (gaps width before.length pieces).foldlM
        (fun code gap => do
          let values ← fill gap.1 gap.2
          write code gap.1 values)
        (before ++ drafts width blank pieces) =
      (completeAll fill before.length pieces).map (before ++ ·) := by
  induction pieces generalizing before with
  | nil => rfl
  | cons piece pieces ih =>
    rw [drafts_cons, completeAll_cons]
    obtain ⟨head, _ | reference⟩ := piece
    · have hrest := ih (before ++ head)
      rw [List.length_append, map_append_append, List.append_assoc] at hrest
      exact hrest
    · have hhead : before.length + head.length = (before ++ head).length :=
        List.length_append.symm
      rw [gaps, List.foldlM_cons, Piece.complete]
      simp only [hhead]
      cases hvalues : fill (before ++ head).length reference with
      | error exception => rfl
      | ok values =>
        have hlength := hfill _ _ _ hvalues
        have hwritten := hwrite (before ++ head)
          (List.replicate (width reference) blank) (drafts width blank pieces) values
          (by rw [List.length_replicate, hlength])
        have hend : (before ++ head).length + width reference =
            (before ++ (head ++ values)).length := by
          rw [List.length_append, List.length_append, List.length_append, hlength, Nat.add_assoc]
        have hrest := ih (before ++ (head ++ values))
        rw [map_append_append, ← hend] at hrest
        have hposition : before.length + (head ++ values).length =
            (before ++ head).length + width reference :=
          hend ▸ List.length_append.symm
        simp only [ok_bind, hposition]
        rw [← hrest, ← List.append_assoc before head (gap _ _ _ ++ _), gap, hwritten, ok_bind,
          List.append_assoc before head values]

-- ---------------------------------------------------------------------------
-- Decoding
-- ---------------------------------------------------------------------------

/-- Reads the instruction at a position; what is left of the code comes with it. -/
abbrev Decoder (β ι : Type) := Nat → List β → Option (ι × List β)

def decodeAll (decode : Decoder β ι) : (fuel : Nat) → (position : Nat) → List β →
    Option (List ι)
  | _, _, [] => some []
  | 0, _, _ :: _ => none
  | fuel + 1, position, byte :: code => do
    let (instruction, rest) ← decode position (byte :: code)
    let instructions ← decodeAll decode fuel
      (position + ((byte :: code).length - rest.length)) rest
    some (instruction :: instructions)

/-- The code of a piece reads as one instruction, whatever follows; a piece without one
has no code. -/
def Decoder.Reads (decode : Decoder β ι) (position : Nat) (code : List β) : Option ι → Prop
  | none => code = []
  | some instruction =>
    code ≠ [] ∧ ∀ rest, decode position (code ++ rest) = some (instruction, rest)

variable {decode : Decoder β ι}

theorem decodeAll_append {fuel position : Nat} {code rest : List β} {instruction : ι}
    (hcode : code ≠ []) (hdecode : decode position (code ++ rest) = some (instruction, rest)) :
    decodeAll decode (fuel + 1) position (code ++ rest) =
      (decodeAll decode fuel (position + code.length) rest).map (instruction :: ·) := by
  obtain ⟨byte, code, rfl⟩ := List.exists_cons_of_ne_nil hcode
  rw [List.cons_append] at hdecode ⊢
  have hlength : (byte :: (code ++ rest)).length - rest.length = (byte :: code).length := by
    simp only [List.length_cons, List.length_append]
    omega
  simp only [decodeAll, hdecode, hlength, Option.bind_eq_bind, Option.bind_some]
  cases decodeAll decode fuel (position + (byte :: code).length) rest <;> rfl

/-- Every call that emits an instruction emits a piece that decodes to its meaning
whatever follows, so all of the code decodes to all of the meanings. -/
theorem decodeAll_complete (piece : α → Piece β ρ) (meaning : α → Option ι) (calls : List α)
    {limit : Nat}
    (hdecode : ∀ call ∈ calls, ∀ position code, (piece call).complete fill position = .ok code →
      position + code.length ≤ limit → decode.Reads position code (meaning call))
    {fuel position : Nat} {code : List β}
    (hcode : completeAll fill position (calls.map piece) = .ok code)
    (hlimit : position + code.length ≤ limit) (hfuel : code.length ≤ fuel) :
    decodeAll decode fuel position code = some (calls.filterMap meaning) := by
  induction calls generalizing fuel position code with
  | nil =>
    obtain rfl := Except.ok.inj hcode
    cases fuel <;> rfl
  | cons call calls ih =>
    rw [List.map_cons, completeAll, bind_ok] at hcode
    obtain ⟨first, hfirst, hcode⟩ := hcode
    obtain ⟨rest, hrest, hcode⟩ := bind_ok.mp hcode
    obtain rfl := Except.ok.inj hcode
    rw [List.length_append] at hlimit hfuel
    have hcall := hdecode call List.mem_cons_self position first hfirst (by omega)
    have hothers : ∀ fuel, rest.length ≤ fuel →
        decodeAll decode fuel (position + first.length) rest = some (calls.filterMap meaning) :=
      fun fuel hfuel => ih (fun other hmem => hdecode other (List.mem_cons_of_mem call hmem)) hrest
        (by omega) hfuel
    cases hmeaning : meaning call with
    | none =>
      rw [hmeaning] at hcall
      obtain rfl : first = [] := hcall
      rw [List.filterMap_cons_none hmeaning]
      exact hothers fuel (by omega)
    | some instruction =>
      rw [hmeaning] at hcall
      obtain ⟨hnonempty, hreads⟩ := hcall
      have hpos := List.length_pos_iff.mpr hnonempty
      obtain ⟨fuel, rfl⟩ := Nat.exists_eq_succ_of_ne_zero (show fuel ≠ 0 by omega)
      rw [decodeAll_append hnonempty (hreads rest), hothers fuel (by omega),
        List.filterMap_cons_some hmeaning]
      rfl

end

theorem filterMap_eq_iff {first second : α → Option ι}
    (hsame : ∀ call, (first call).isSome = (second call).isSome) (calls : List α) :
    calls.filterMap first = calls.filterMap second ↔ ∀ call ∈ calls, first call = second call := by
  induction calls with
  | nil => simp
  | cons call calls ih =>
    have hcall := hsame call
    rw [List.forall_mem_cons, ← ih]
    cases hfirst : first call with
    | none =>
      rw [hfirst] at hcall
      cases hsecond : second call with
      | none => rw [List.filterMap_cons_none hfirst, List.filterMap_cons_none hsecond]; simp
      | some instruction => rw [hsecond] at hcall; cases hcall
    | some instruction =>
      rw [hfirst] at hcall
      cases hsecond : second call with
      | none => rw [hsecond] at hcall; cases hcall
      | some other =>
        rw [List.filterMap_cons_some hfirst, List.filterMap_cons_some hsecond, List.cons.injEq,
          Option.some.injEq]

end DragonOS.Lib
