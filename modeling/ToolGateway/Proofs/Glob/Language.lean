import ToolGateway.Glob

/-!
# The names that a pattern stands for

A pattern gives its names character after character, and each `*` may stand for any part of a name.
The walk decides whether a name is among them, although it returns to the last `*` only: what stands
between two `*` is found at the first place where it occurs, and a later place would leave to the
rest of the pattern only an end of what it has anyway.
-/

namespace ToolGateway.Glob

/-- A pattern stands for a name. -/
inductive Matches : List Char → List Char → Prop
  | nil : Matches [] []
  | star {pattern name rest : List Char} : rest <:+ name → Matches pattern rest →
      Matches ('*' :: pattern) name
  | any {pattern name : List Char} {c : Char} : Matches pattern name →
      Matches ('?' :: pattern) (c :: name)
  | same {pattern name : List Char} {c : Char} : c ≠ '*' → c ≠ '?' → Matches pattern name →
      Matches (c :: pattern) (c :: name)

namespace Matches

variable {pattern passed name rest : List Char} {c d : Char}

/-- The empty pattern stands for the empty name. -/
theorem nil_iff : Matches [] name ↔ name = [] := by
  constructor
  · intro h
    cases h
    rfl
  · intro h
    subst h
    exact Matches.nil

/-- A `*` stands for what is in front of some end of the name. -/
theorem star_iff : Matches ('*' :: pattern) name ↔ ∃ rest, rest <:+ name ∧ Matches pattern rest := by
  constructor
  · intro h
    cases h with
    | star hrest h => exact ⟨_, hrest, h⟩
    | same hstar => exact absurd rfl hstar
  · intro h
    obtain ⟨rest, hrest, h⟩ := h
    exact Matches.star hrest h

/-- Any other character of a pattern stands for one character. -/
theorem cons_iff (hstar : c ≠ '*') :
    Matches (c :: pattern) name ↔
      ∃ d rest, name = d :: rest ∧ (c = '?' ∨ c = d) ∧ Matches pattern rest := by
  constructor
  · intro h
    cases h with
    | star => exact absurd rfl hstar
    | any h => exact ⟨_, _, rfl, Or.inl rfl, h⟩
    | same _ _ h => exact ⟨_, _, rfl, Or.inr rfl, h⟩
  · intro h
    obtain ⟨d, rest, rfl, hd, h⟩ := h
    by_cases hany : c = '?'
    · subst hany
      exact Matches.any h
    · obtain rfl : c = d := hd.resolve_left hany
      exact Matches.same hstar hany h

/-- For the empty name stand the patterns of `*` alone. -/
theorem nil_right_iff : Matches pattern [] ↔ pattern.all (· == '*') = true := by
  induction pattern with
  | nil => simp [nil_iff]
  | cons c pattern ih =>
    by_cases hstar : c = '*'
    · subst hstar
      simp [star_iff, ih]
    · simp [cons_iff hstar, hstar]

/-- The ends of a name begin at its later places. -/
theorem star_drop_iff {i : Nat} : Matches ('*' :: pattern) (name.drop i) ↔
    ∃ j, i ≤ j ∧ Matches pattern (name.drop j) := by
  rw [star_iff]
  constructor
  · intro h
    obtain ⟨rest, hrest, h⟩ := h
    rw [List.suffix_iff_eq_drop.mp hrest, List.drop_drop] at h
    exact ⟨_, Nat.le_add_right _ _, h⟩
  · intro h
    obtain ⟨j, hij, h⟩ := h
    refine ⟨name.drop j, ?_, h⟩
    rw [← Nat.add_sub_of_le hij, ← List.drop_drop]
    exact List.drop_suffix _ _

/-- Without a `*` each character of a pattern takes away one of the name. -/
theorem of_append (hpassed : '*' ∉ passed) (h : Matches (passed ++ pattern) name) :
    Matches pattern (name.drop passed.length) := by
  induction passed generalizing name with
  | nil => exact h
  | cons c passed ih =>
    rw [List.mem_cons, not_or] at hpassed
    obtain ⟨hc, hpassed⟩ := hpassed
    obtain ⟨d, rest, rfl, -, h⟩ := (cons_iff (Ne.symm hc)).mp h
    exact ih hpassed h

end Matches

/-! ## One round -/

namespace Cursor

variable {pattern name : List Char} {c d : Cursor}

/-- What a round does, by what is in front of it in both texts. -/
inductive Takes (pattern name : List Char) (c : Cursor) : Round → Prop
  /-- The name is used up. -/
  | finish : name.drop c.name = [] →
      Takes pattern name c (.finished ((pattern.drop c.pattern).all (· == '*')))
  /-- A `*` becomes the return point. -/
  | star : pattern.drop c.pattern = '*' :: pattern.drop (c.pattern + 1) →
      Takes pattern name c
        (.moved { c with pattern := c.pattern + 1, star := some (c.pattern, c.name) })
  /-- One character stands for another. -/
  | same {x y : Char} : pattern.drop c.pattern = x :: pattern.drop (c.pattern + 1) →
      name.drop c.name = y :: name.drop (c.name + 1) → x ≠ '*' → x = '?' ∨ x = y →
      Takes pattern name c (.moved c.advance)
  /-- There is no way on, and the last `*` is given one more character. -/
  | back {star resume : Nat} : ¬ Matches (pattern.drop c.pattern) (name.drop c.name) →
      c.star = some (star, resume) →
      Takes pattern name c (.moved ⟨star + 1, resume + 1, some (star, resume + 1)⟩)
  /-- There is no way on and no `*` to return to. -/
  | stuck : ¬ Matches (pattern.drop c.pattern) (name.drop c.name) → c.star = none →
      Takes pattern name c (.finished false)

/-- Where there is no way on, a round retreats. -/
theorem takes_retreat (h : ¬ Matches (pattern.drop c.pattern) (name.drop c.name)) :
    Takes pattern name c c.retreat := by
  unfold retreat
  split
  · next star resume hstar => exact Takes.back h hstar
  · next hstar => exact Takes.stuck h hstar

/-- The character at a place is in front there. -/
theorem drop_of_getElem?_eq_some {text : Array Char} {i : Nat} {x : Char} (h : text[i]? = some x) :
    text.toList.drop i = x :: text.toList.drop (i + 1) := by
  obtain ⟨hi, rfl⟩ := Array.getElem?_eq_some_iff.mp h
  exact List.drop_eq_getElem_cons (by simpa using hi)

/-- Behind the last place there is nothing. -/
theorem drop_of_getElem?_eq_none {text : Array Char} {i : Nat} (h : text[i]? = none) :
    text.toList.drop i = [] :=
  List.drop_of_length_le (by simpa using Array.getElem?_eq_none_iff.mp h)

/-- A round does what is in front of it. -/
theorem takes_step (pattern name : Array Char) (c : Cursor) :
    Takes pattern.toList name.toList c (c.step pattern name) := by
  unfold step
  split
  · next hname => exact Takes.finish (drop_of_getElem?_eq_none hname)
  · next y hname =>
    have hy := drop_of_getElem?_eq_some hname
    split
    · next hpattern => exact Takes.star (drop_of_getElem?_eq_some hpattern)
    · next hpattern =>
      exact Takes.same (drop_of_getElem?_eq_some hpattern) hy (by decide) (Or.inl rfl)
    · next x hstar hany hpattern =>
      have hx := drop_of_getElem?_eq_some hpattern
      split
      · next hsame => exact Takes.same hx hy hstar (Or.inr hsame)
      · next hdiffer =>
        apply takes_retreat
        rw [hx, hy, Matches.cons_iff hstar]
        rintro ⟨d, rest, hd, hx | rfl, -⟩
        · exact hany hx
        · exact hdiffer (List.cons.inj hd).1.symm
    · next hpattern =>
      apply takes_retreat
      rw [drop_of_getElem?_eq_none hpattern, hy, Matches.nil_iff]
      exact List.cons_ne_nil _ _

/-! ## What is still open -/

/-- A walk may still succeed: the name goes on as the pattern does, or the last `*` stands for more
than it was given. -/
def Open (pattern name : List Char) (c : Cursor) : Prop :=
  Matches (pattern.drop c.pattern) (name.drop c.name) ∨
    ∃ star resume, c.star = some (star, resume) ∧
      ∃ i, resume < i ∧ Matches (pattern.drop (star + 1)) (name.drop i)

/-- What is open once a `*` was seen. -/
theorem open_iff_of_star {star resume : Nat} (hstar : c.star = some (star, resume)) :
    c.Open pattern name ↔ Matches (pattern.drop c.pattern) (name.drop c.name) ∨
      ∃ i, resume < i ∧ Matches (pattern.drop (star + 1)) (name.drop i) := by
  rw [Open, hstar]
  constructor
  · rintro (hopen | ⟨star, resume, hsame, hopen⟩)
    · exact Or.inl hopen
    · obtain ⟨rfl, rfl⟩ := Prod.mk.inj (Option.some.inj hsame)
      exact Or.inr hopen
  · rintro (hopen | hopen)
    · exact Or.inl hopen
    · exact Or.inr ⟨star, resume, rfl, hopen⟩

/-- Right behind a `*` the rest of the pattern may begin at every later place of the name. -/
theorem open_behind_star (star resume : Nat) :
    Open pattern name ⟨star + 1, resume, some (star, resume)⟩ ↔
      ∃ i, resume ≤ i ∧ Matches (pattern.drop (star + 1)) (name.drop i) := by
  rw [open_iff_of_star rfl]
  constructor
  · rintro (hopen | ⟨i, hi, hopen⟩)
    · exact ⟨resume, Nat.le_refl _, hopen⟩
    · exact ⟨i, Nat.le_of_lt hi, hopen⟩
  · intro h
    obtain ⟨i, hi, hopen⟩ := h
    rcases Nat.eq_or_lt_of_le hi with rfl | hi
    · exact Or.inl hopen
    · exact Or.inr ⟨i, hi, hopen⟩

/-- Behind the last `*` the walk has taken as many characters of the pattern as of the name. -/
def InStep (pattern : List Char) (c : Cursor) : Prop :=
  ∀ star resume, c.star = some (star, resume) → ∃ passed,
    pattern.drop (star + 1) = passed ++ pattern.drop c.pattern ∧ '*' ∉ passed ∧
      resume + passed.length = c.name

/-- A round keeps the two texts in step. -/
theorem InStep.takes (h : c.InStep pattern) (hd : Takes pattern name c (.moved d)) :
    d.InStep pattern := by
  intro star resume hstar
  cases hd with
  | star hpattern =>
    obtain ⟨rfl, rfl⟩ := Prod.mk.inj (Option.some.inj hstar)
    exact ⟨[], rfl, List.not_mem_nil, rfl⟩
  | @same x y hpattern hname hx _ =>
    obtain ⟨passed, hpassed, hno, hlength⟩ := h star resume hstar
    refine ⟨passed ++ [x], ?_, ?_, ?_⟩
    · rw [hpassed, hpattern, List.append_assoc]
      rfl
    · simp [hno, Ne.symm hx]
    · rw [List.length_append, ← Nat.add_assoc, hlength]
      rfl
  | back =>
    obtain ⟨rfl, rfl⟩ := Prod.mk.inj (Option.some.inj hstar)
    exact ⟨[], rfl, List.not_mem_nil, rfl⟩

/-- What the pattern could reach by giving more to the last `*`, it could also reach from a later
place than where the walk is. -/
theorem InStep.exists_later (h : c.InStep pattern) {star resume i : Nat}
    (hstar : c.star = some (star, resume)) (hi : resume < i)
    (hmatches : Matches (pattern.drop (star + 1)) (name.drop i)) :
    ∃ j, c.name < j ∧ Matches (pattern.drop c.pattern) (name.drop j) := by
  obtain ⟨passed, hpassed, hno, hlength⟩ := h star resume hstar
  rw [hpassed] at hmatches
  refine ⟨i + passed.length, by omega, ?_⟩
  rw [← List.drop_drop]
  exact Matches.of_append hno hmatches

/-- The walk ends with whether it may still succeed. -/
theorem InStep.open_iff_of_finished (h : c.InStep pattern) {matched : Bool}
    (hd : Takes pattern name c (.finished matched)) : c.Open pattern name ↔ matched = true := by
  cases hd with
  | finish hname =>
    rw [← Matches.nil_right_iff, Open, hname]
    constructor
    · intro hopen
      rcases hopen with hopen | ⟨star, resume, hstar, i, hi, hmatches⟩
      · exact hopen
      · obtain ⟨j, hj, hmatches⟩ := h.exists_later hstar hi hmatches
        have hbehind : name.drop j = [] :=
          List.drop_eq_nil_of_le (Nat.le_trans (List.drop_eq_nil_iff.mp hname) (Nat.le_of_lt hj))
        rwa [hbehind] at hmatches
    · exact Or.inl
  | stuck hmiss hstar => simp [Open, hmiss, hstar]

/-- No round changes whether the walk may still succeed. -/
theorem InStep.open_iff_of_moved (h : c.InStep pattern) (hd : Takes pattern name c (.moved d)) :
    c.Open pattern name ↔ d.Open pattern name := by
  cases hd with
  | star hpattern =>
    have hnew : Open pattern name
        { c with pattern := c.pattern + 1, star := some (c.pattern, c.name) } ↔
          Matches (pattern.drop c.pattern) (name.drop c.name) := by
      rw [hpattern, Matches.star_drop_iff]
      exact open_behind_star c.pattern c.name
    rw [hnew, Open]
    constructor
    · intro hopen
      rcases hopen with hopen | ⟨star, resume, hstar, i, hi, hmatches⟩
      · exact hopen
      · -- The earlier `*` need not be given more: the one that was just reached can stand for it.
        obtain ⟨j, hj, hmatches⟩ := h.exists_later hstar hi hmatches
        rw [hpattern, Matches.star_drop_iff] at hmatches ⊢
        obtain ⟨k, hk, hmatches⟩ := hmatches
        exact ⟨k, by omega, hmatches⟩
    · exact Or.inl
  | @same x y hpattern hname hx hsame =>
    have hhere : Matches (pattern.drop c.pattern) (name.drop c.name) ↔
        Matches (pattern.drop (c.pattern + 1)) (name.drop (c.name + 1)) := by
      rw [hpattern, hname, Matches.cons_iff hx]
      constructor
      · rintro ⟨d, rest, hd, -, hmatches⟩
        rwa [(List.cons.inj hd).2]
      · intro hmatches
        exact ⟨y, _, rfl, hsame, hmatches⟩
    rw [Open, hhere]
    rfl
  | @back star resume hmiss hstar =>
    rw [open_behind_star, open_iff_of_star hstar, or_iff_right hmiss]
    rfl

/-! ## The walk -/

/-- A walk that is in step finds out whether it may succeed. -/
theorem run_eq_true_iff {pattern name : Array Char} (hvalid : c.Valid pattern name)
    (h : c.InStep pattern.toList) :
    run pattern name c hvalid = true ↔ c.Open pattern.toList name.toList := by
  fun_induction run pattern name c hvalid with
  | case1 c hvalid matched hd =>
    have htakes := takes_step pattern name c
    rw [hd] at htakes
    exact (h.open_iff_of_finished htakes).symm
  | case2 c hvalid d hd ih =>
    have htakes := takes_step pattern name c
    rw [hd] at htakes
    rw [ih (h.takes htakes), h.open_iff_of_moved htakes]

end Cursor

/-- A pattern is accepted by the walk for exactly the names that it stands for. -/
theorem accepts_iff_matches (pattern name : String) :
    accepts pattern name = true ↔ Matches pattern.toList name.toList := by
  have hstart : Cursor.start.InStep pattern.toList.toArray.toList := nofun
  rw [accepts, Cursor.run_eq_true_iff _ hstart]
  simp [Cursor.Open, Cursor.start]

end ToolGateway.Glob
