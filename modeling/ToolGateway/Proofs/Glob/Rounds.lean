import ToolGateway.Glob

/-!
# How far a walk goes

In every round of a walk the two places lie inside of their texts, and the return point is a `*` of
the pattern together with a place of the name that the walk has reached. So a character of the name
is looked at only where there is one, and what is left of the pattern at the end begins inside of
it.

A walk ends although both places may go back: until the next return every round moves on in the
pattern, and every return gives the last `*` more of the name than any return before. With `m`
characters in the pattern and `n` in the name there are at most `(n + 1) * (m + 1)` rounds.
-/

namespace ToolGateway.Glob

namespace Cursor

variable {pattern name : Array Char} {c d : Cursor}

/-- Where a walk is after so many rounds, if it has not ended before. -/
def after? (pattern name : Array Char) (c : Cursor) : Nat → Option Cursor
  | 0 => some c
  | rounds + 1 =>
    match c.step pattern name with
    | .finished _ => none
    | .moved d => after? pattern name d rounds

/-- At the end of the name a walk ends. -/
theorem step_of_name_eq (h : c.name = name.size) :
    c.step pattern name = .finished ((pattern.toList.drop c.pattern).all (· == '*')) := by
  unfold step
  rw [h, Array.getElem?_size]

/-! ## All rounds -/

/-- A walk stays inside of its texts, and what it has gone and what it may still go do not exceed
what it might go at first. -/
theorem of_after? {rounds : Nat} (h : c.Valid pattern name)
    (hd : c.after? pattern name rounds = some d) :
    d.Valid pattern name ∧ rounds + d.roundsLeft pattern name ≤ c.roundsLeft pattern name := by
  induction rounds generalizing c with
  | zero =>
    cases hd
    exact ⟨h, Nat.le_of_eq (Nat.zero_add _)⟩
  | succ rounds ih =>
    unfold after? at hd
    split at hd
    · cases hd
    · next e he =>
      obtain ⟨hvalid, hle⟩ := ih (valid_step h he) hd
      have hlt := roundsLeft_lt h he
      exact ⟨hvalid, by omega⟩

/-- A walk has a last round, which tells its result. -/
theorem exists_finished (h : c.Valid pattern name) :
    ∃ rounds last, c.after? pattern name rounds = some last ∧
      last.step pattern name = .finished (run pattern name c h) := by
  fun_induction run pattern name c h with
  | case1 c h matched hd => exact ⟨0, c, rfl, hd⟩
  | case2 c h d hd ih =>
    obtain ⟨rounds, last, hlast, hresult⟩ := ih
    refine ⟨rounds + 1, last, ?_, hresult⟩
    rw [after?, hd]
    exact hlast

end Cursor

/-- A walk ends with its result, after at most as many rounds as there are pairs of a place in the
name and a place in the pattern, both ends included. In each of its rounds the places lie inside of
the texts, and the return point is a `*` with a place of the name that was reached; the round finds
a character of the name at its place, or it is the last one and what is left of the pattern
decides. -/
theorem walk_ends_inside (pattern name : String) :
    let p := pattern.toList.toArray
    let n := name.toList.toArray
    (∃ rounds last, Cursor.start.after? p n rounds = some last ∧
      last.step p n = .finished (accepts pattern name)) ∧
    ∀ rounds c, Cursor.start.after? p n rounds = some c →
      rounds < (n.size + 1) * (p.size + 1) ∧
      c.pattern ≤ p.size ∧ c.name ≤ n.size ∧
      (∀ star resume, c.star = some (star, resume) →
        star < p.size ∧ p[star]? = some '*' ∧ resume ≤ c.name) ∧
      (c.name < n.size ∨
        c.step p n = .finished ((p.toList.drop c.pattern).all (· == '*'))) := by
  intro p n
  have hstart : Cursor.start.Valid p n := Cursor.valid_start p n
  refine ⟨Cursor.exists_finished hstart, fun rounds c hc => ?_⟩
  obtain ⟨hvalid, hrounds⟩ := Cursor.of_after? hstart hc
  refine ⟨?_, hvalid.pattern_le, hvalid.name_le, fun star resume hstar => ?_, ?_⟩
  · have hall : Cursor.start.roundsLeft p n = n.size * (p.size + 1) + p.size := rfl
    rw [Nat.succ_mul]
    omega
  · obtain ⟨hbehind, hat, hreached⟩ := hvalid.star_spec star resume hstar
    exact ⟨Nat.lt_of_lt_of_le hbehind hvalid.pattern_le, hat, hreached⟩
  · rcases Nat.lt_or_eq_of_le hvalid.name_le with hinside | hend
    · exact Or.inl hinside
    · exact Or.inr (Cursor.step_of_name_eq hend)

/-- The pattern `*ab` meets `a` in `aab`, goes on to the second `a`, and has to go back for it. -/
theorem walk_ends_inside_of_return :
    let p := "*ab".toList.toArray
    let n := "aab".toList.toArray
    let back : Cursor := ⟨1, 1, some (0, 1)⟩
    Cursor.start.after? p n 3 = some back ∧ 3 < 16 ∧ p[0]? = some '*' ∧ 1 ≤ back.name := by
  intro p n back
  have hback : Cursor.start.after? p n 3 = some back := by decide
  obtain ⟨hrounds, -, -, hpoint, -⟩ := (walk_ends_inside "*ab" "aab").2 3 back hback
  obtain ⟨-, hstar, hreached⟩ := hpoint 0 1 rfl
  exact ⟨hback, hrounds, hstar, hreached⟩

end ToolGateway.Glob
