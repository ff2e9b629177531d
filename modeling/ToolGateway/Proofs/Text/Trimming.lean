import Mathlib.Data.List.TakeWhile
import ToolGateway.Proofs.Text.Written

/-!
# Trimming

Blanks that are put around a text are trimmed away again, whatever the text is. A text is what is
left of it with blanks around, so trimming twice is trimming once. And what is left is all there is
between blanks that has none at its own ends.
-/

namespace ToolGateway.Text

/-- All characters are blank. -/
def AllBlank (cs : List Char) : Prop := ∀ c ∈ cs, isBlank c = true

instance (cs : List Char) : Decidable (AllBlank cs) :=
  decidable_of_iff (cs.all isBlank = true) List.all_eq_true

/-- Characters are trimmed to some of them: these have blanks around, and none at their ends. -/
structure TrimsTo (cs core : List Char) : Prop where
  around : ∃ left right, AllBlank left ∧ AllBlank right ∧ cs = left ++ core ++ right
  head : ∀ c ∈ core.head?, isBlank c = false
  last : ∀ c ∈ core.getLast?, isBlank c = false

variable {left right cs core : List Char}

/-- Blanks in front are dropped first. -/
theorem dropWhile_append_of_allBlank (h : AllBlank left) (cs : List Char) :
    (left ++ cs).dropWhile isBlank = cs.dropWhile isBlank := by
  rw [List.dropWhile_append, List.dropWhile_eq_nil_iff.mpr h, List.isEmpty_nil, if_pos rfl]

/-- Blanks at the end are dropped first. -/
theorem dropEnd_append_of_allBlank (h : AllBlank right) (cs : List Char) :
    dropEnd isBlank (cs ++ right) = dropEnd isBlank cs := by
  have hreverse : AllBlank right.reverse := fun c hc => h c (List.mem_reverse.mp hc)
  rw [dropEnd, List.reverse_append, dropWhile_append_of_allBlank hreverse, dropEnd]

/-- Blanks around characters do not matter. -/
theorem trimChars_append_of_allBlank (hleft : AllBlank left) (hright : AllBlank right)
    (cs : List Char) : trimChars (left ++ cs ++ right) = trimChars cs := by
  rw [trimChars, List.append_assoc, dropWhile_append_of_allBlank hleft, List.dropWhile_append,
    trimChars]
  cases hrest : cs.dropWhile isBlank with
  | nil => rw [List.isEmpty_nil, if_pos rfl, List.dropWhile_eq_nil_iff.mpr hright]
  | cons c rest =>
    rw [List.isEmpty_cons, if_neg Bool.false_ne_true]
    exact dropEnd_append_of_allBlank hright _

/-- Without their first blanks, characters begin with what trimming leaves of them. -/
theorem exists_dropWhile_eq_append (cs : List Char) :
    ∃ right, AllBlank right ∧ cs.dropWhile isBlank = trimChars cs ++ right := by
  let rest := cs.dropWhile isBlank
  refine ⟨(rest.reverse.takeWhile isBlank).reverse,
    fun c hc => List.mem_takeWhile_imp (List.mem_reverse.mp hc), ?_⟩
  rw [trimChars, dropEnd, ← List.reverse_append, List.takeWhile_append_dropWhile,
    List.reverse_reverse]

/-- Characters are what trimming leaves of them, with blanks around. -/
theorem exists_append_trimChars (cs : List Char) :
    ∃ left right, AllBlank left ∧ AllBlank right ∧ cs = left ++ trimChars cs ++ right := by
  obtain ⟨right, hright, hrest⟩ := exists_dropWhile_eq_append cs
  refine ⟨cs.takeWhile isBlank, right, fun c hc => List.mem_takeWhile_imp hc, hright, ?_⟩
  rw [List.append_assoc, ← hrest, List.takeWhile_append_dropWhile]

/-- What is left has no blanks at its ends. -/
theorem trimsTo_trimChars (cs : List Char) : TrimsTo cs (trimChars cs) := by
  have hdropped (ds : List Char) : ∀ c ∈ (ds.dropWhile isBlank).head?, isBlank c = false := by
    intro c hc
    have hhead := List.head?_dropWhile_not isBlank ds
    rwa [hc] at hhead
  constructor
  · exact exists_append_trimChars cs
  · intro c hc
    obtain ⟨right, -, hrest⟩ := exists_dropWhile_eq_append cs
    apply hdropped cs
    rw [hrest, List.head?_append, hc]
    rfl
  · intro c hc
    rw [trimChars, dropEnd, List.getLast?_reverse] at hc
    exact hdropped _ c hc

/-- Trimming leaves just that. -/
theorem trimChars_eq_iff : trimChars cs = core ↔ TrimsTo cs core := by
  constructor
  · rintro rfl
    exact trimsTo_trimChars cs
  · intro h
    obtain ⟨left, right, hleft, hright, rfl⟩ := h.around
    rw [trimChars_append_of_allBlank hleft hright, trimChars_eq_self h.head h.last]

/-- Trimming again changes nothing. -/
theorem trim_trim (s : String) : trim (trim s) = trim s := by
  have h := trimsTo_trimChars s.toList
  rw [trim, trim, String.toList_ofList, trimChars_eq_self h.head h.last]

/-- Trimming leaves just the texts as they are that have no blank at their ends. -/
theorem trim_eq_self_iff {s : String} :
    trim s = s ↔ (∀ c ∈ s.toList.head?, isBlank c = false) ∧
      ∀ c ∈ s.toList.getLast?, isBlank c = false := by
  rw [trim, ← String.toList_inj, String.toList_ofList]
  constructor
  · intro h
    have hleft := trimsTo_trimChars s.toList
    rw [h] at hleft
    exact ⟨hleft.head, hleft.last⟩
  · rintro ⟨hhead, hlast⟩
    exact trimChars_eq_self hhead hlast

/-- Blanks around a text do not matter. -/
theorem trim_append_of_allBlank {left right : String} (hleft : AllBlank left.toList)
    (hright : AllBlank right.toList) (s : String) : trim (left ++ s ++ right) = trim s := by
  rw [trim, String.toList_append, String.toList_append,
    trimChars_append_of_allBlank hleft hright, trim]

end ToolGateway.Text
