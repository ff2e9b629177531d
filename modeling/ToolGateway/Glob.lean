/-!
# Tool name patterns

A pattern matches a whole name: `*` stands for any run of characters, the empty one included, `?`
for exactly one character, and every other character for itself. Matching walks both texts once
and keeps a single return point, the last `*` together with the part of the name already given
to it; a mismatch gives that `*` one character more.

`Cursor.step` is one round of the walk on plain positions, and `Cursor.moved_cases` is all that a
round can do that moves on. `Cursor.Valid` says that the positions stay inside the two texts, and
`Cursor.run` repeats `step` from any valid cursor; `Cursor.roundsLeft` bounds how often.
-/

namespace ToolGateway.Glob

/-- A place in the walk: positions in the pattern and in the name, and the return point, which is
the position of the last `*` with the first position of the name not yet given to it. -/
structure Cursor where
  pattern : Nat
  name : Nat
  star : Option (Nat × Nat)
  deriving DecidableEq, Repr

/-- What one round of the walk yields. -/
inductive Round where
  | finished (matched : Bool)
  | moved (cursor : Cursor)
  deriving DecidableEq, Repr

namespace Cursor

/-- The walk begins at the start of both texts, with no `*` seen. -/
def start : Cursor := ⟨0, 0, none⟩

/-- Both texts move on by one character. -/
def advance (c : Cursor) : Cursor := { c with pattern := c.pattern + 1, name := c.name + 1 }

/-- Gives the last `*` one more character of the name, or ends the walk when there is none. -/
def retreat (c : Cursor) : Round :=
  match c.star with
  | some (star, resume) => .moved ⟨star + 1, resume + 1, some (star, resume + 1)⟩
  | none => .finished false

/-- One round of the walk. -/
def step (pattern name : Array Char) (c : Cursor) : Round :=
  match name[c.name]? with
  | none => .finished ((pattern.toList.drop c.pattern).all (· == '*'))
  | some ch =>
    match pattern[c.pattern]? with
    | some '*' => .moved { c with pattern := c.pattern + 1, star := some (c.pattern, c.name) }
    | some '?' => .moved c.advance
    | some literal => if literal = ch then .moved c.advance else c.retreat
    | none => c.retreat

/-! ## Rounds that move on -/

/-- Where a retreat leads. -/
theorem of_retreat {c d : Cursor} (h : c.retreat = .moved d) :
    ∃ star resume, c.star = some (star, resume) ∧
      d = ⟨star + 1, resume + 1, some (star, resume + 1)⟩ := by
  unfold retreat at h
  split at h
  · rename_i star resume hstar
    cases h
    exact ⟨star, resume, hstar, rfl⟩
  · cases h

/-- A round that moves on has looked at a character of the name. It has passed a `*`, which is the
return point from then on, or one character in both texts, or it has gone back. -/
theorem moved_cases {pattern name : Array Char} {c d : Cursor}
    (h : c.step pattern name = .moved d) :
    c.name < name.size ∧
      (pattern[c.pattern]? = some '*' ∧
          d = { c with pattern := c.pattern + 1, star := some (c.pattern, c.name) } ∨
        c.pattern < pattern.size ∧ d = c.advance ∨
        ∃ star resume, c.star = some (star, resume) ∧
          d = ⟨star + 1, resume + 1, some (star, resume + 1)⟩) := by
  unfold step at h
  split at h
  · cases h
  · rename_i hname
    refine ⟨(Array.getElem?_eq_some_iff.1 hname).1, ?_⟩
    split at h
    · rename_i hstar
      cases h
      exact .inl ⟨hstar, rfl⟩
    · rename_i hany
      cases h
      exact .inr (.inl ⟨(Array.getElem?_eq_some_iff.1 hany).1, rfl⟩)
    · rename_i hliteral
      split at h
      · cases h
        exact .inr (.inl ⟨(Array.getElem?_eq_some_iff.1 hliteral).1, rfl⟩)
      · exact .inr (.inr (of_retreat h))
    · exact .inr (.inr (of_retreat h))

/-! ## Places -/

/-- The positions lie inside the texts, and the return point is a `*` already passed. -/
structure Valid (pattern name : Array Char) (c : Cursor) : Prop where
  pattern_le : c.pattern ≤ pattern.size
  name_le : c.name ≤ name.size
  star_spec : ∀ star resume, c.star = some (star, resume) →
    star < c.pattern ∧ pattern[star]? = some '*' ∧ resume ≤ c.name

/-- The start is valid. -/
theorem valid_start (pattern name : Array Char) : start.Valid pattern name :=
  ⟨Nat.zero_le _, Nat.zero_le _, by simp [start]⟩

/-- A round that moves on keeps the positions inside the texts. -/
theorem valid_step {pattern name : Array Char} {c d : Cursor} (h : c.Valid pattern name)
    (hd : c.step pattern name = .moved d) : d.Valid pattern name := by
  obtain ⟨hname, ⟨hstar, rfl⟩ | ⟨hpattern, rfl⟩ | ⟨star, resume, hpoint, rfl⟩⟩ := moved_cases hd
  · refine ⟨(Array.getElem?_eq_some_iff.1 hstar).1, h.name_le, ?_⟩
    rintro _ _ ⟨⟩
    exact ⟨Nat.lt_succ_self _, hstar, Nat.le_refl _⟩
  · refine ⟨hpattern, hname, fun star resume hpoint => ?_⟩
    obtain ⟨hbehind, hstar, hreached⟩ := h.star_spec star resume hpoint
    exact ⟨Nat.lt_succ_of_lt hbehind, hstar, Nat.le_succ_of_le hreached⟩
  · obtain ⟨hbehind, hstar, hreached⟩ := h.star_spec star resume hpoint
    refine ⟨Nat.le_trans hbehind h.pattern_le, Nat.lt_of_le_of_lt hreached hname, ?_⟩
    rintro _ _ ⟨⟩
    exact ⟨Nat.lt_succ_self _, hstar, Nat.le_refl _⟩

/-! ## The end of a walk -/

/-- The first place of the name that was never given to the last `*`. -/
def resumed (c : Cursor) : Nat := c.star.elim 0 Prod.snd

/-- How many rounds a walk may still move on: what is left of the pattern, and the whole of it after
each return that is still possible. -/
def roundsLeft (pattern name : Array Char) (c : Cursor) : Nat :=
  (name.size - c.resumed) * (pattern.size + 1) + (pattern.size - c.pattern)

/-- No more of the name was given to the last `*` than the walk has passed. -/
theorem Valid.resumed_le {pattern name : Array Char} {c : Cursor} (h : c.Valid pattern name) :
    c.resumed ≤ c.name := by
  unfold resumed
  cases hpoint : c.star with
  | none => exact Nat.zero_le _
  | some point => exact (h.star_spec point.1 point.2 hpoint).2.2

/-- Every round that moves on leaves fewer. -/
theorem roundsLeft_lt {pattern name : Array Char} {c d : Cursor} (h : c.Valid pattern name)
    (hd : c.step pattern name = .moved d) :
    d.roundsLeft pattern name < c.roundsLeft pattern name := by
  obtain ⟨hname, ⟨hstar, rfl⟩ | ⟨hpattern, rfl⟩ | ⟨star, resume, hpoint, rfl⟩⟩ := moved_cases hd
  · -- The return point moves up to the place that was reached.
    have hreturns : (name.size - c.name) * (pattern.size + 1) ≤
        (name.size - c.resumed) * (pattern.size + 1) :=
      Nat.mul_le_mul_right _ (Nat.sub_le_sub_left h.resumed_le _)
    have hplace : c.pattern < pattern.size := (Array.getElem?_eq_some_iff.1 hstar).1
    simp only [roundsLeft, resumed, Option.elim_some] at hreturns ⊢
    omega
  · have hreturns : c.advance.resumed = c.resumed := rfl
    have hplace : c.advance.pattern = c.pattern + 1 := rfl
    rw [roundsLeft, roundsLeft, hreturns, hplace]
    omega
  · -- One return is used up, and it pays for the whole pattern.
    have hresumed : c.resumed = resume := by rw [resumed, hpoint, Option.elim_some]
    have hle := h.resumed_le
    have hreturns : (name.size - c.resumed) * (pattern.size + 1) =
        (name.size - (resume + 1)) * (pattern.size + 1) + (pattern.size + 1) := by
      rw [← Nat.succ_mul]
      congr 1
      omega
    simp only [roundsLeft, hreturns]
    simp only [resumed, Option.elim_some]
    omega

/-- Repeats rounds until the walk ends. -/
def run (pattern name : Array Char) (c : Cursor) (h : c.Valid pattern name) : Bool :=
  match hd : c.step pattern name with
  | .finished matched => matched
  | .moved d => run pattern name d (valid_step h hd)
termination_by c.roundsLeft pattern name
decreasing_by exact roundsLeft_lt h hd

end Cursor

/-- Whether a pattern matches the whole of a name. -/
def accepts (pattern name : String) : Bool :=
  Cursor.run pattern.toList.toArray name.toList.toArray Cursor.start (Cursor.valid_start _ _)

end ToolGateway.Glob
