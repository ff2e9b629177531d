import ToolGateway.Table

/-!
# Tables of distinct keys

Bindings of distinct keys make a table that lists them and nothing else, and its order does not
depend on theirs: a table in order is determined by what is in it. Of two bindings of one key only
the later one is left.
-/

namespace ToolGateway.Table

variable {α : Type} {table : Table α}

/-- A key that is bound again leaves nothing of its earlier binding. -/
theorem insert_insert (table : Table α) (key : String) (earlier later : α) :
    (table.insert key earlier).insert key later = table.insert key later := by
  induction table with
  | nil => simp [insert]
  | cons first rest ih =>
    obtain ⟨other, value⟩ := first
    by_cases hsame : other = key
    · simp [insert, hsame]
    · by_cases hbefore : key < other
      · simp [insert, hsame, hbefore]
      · simp [insert, hsame, hbefore, ih]

/-- A new key comes in addition to the others. -/
theorem perm_insert {key : String} (h : ∀ bound ∈ table, bound.1 ≠ key) (value : α) :
    (table.insert key value).Perm ((key, value) :: table) := by
  induction table with
  | nil => exact List.Perm.refl _
  | cons first rest ih =>
    obtain ⟨hfirst, hrest⟩ := List.forall_mem_cons.mp h
    unfold insert
    rw [if_neg hfirst]
    split
    · exact List.Perm.refl _
    · exact ((ih hrest).cons first).trans (List.Perm.swap _ _ _)

/-- Binds keys one after the other. -/
def insertAll (table : Table α) (bindings : List (String × α)) : Table α :=
  bindings.foldl (fun table b => table.insert b.1 b.2) table

/-- New keys that are distinct come in addition to the others. -/
theorem perm_insertAll {bindings : List (String × α)}
    (hdistinct : bindings.Pairwise fun a b => a.1 ≠ b.1)
    (hnew : ∀ binding ∈ bindings, ∀ bound ∈ table, bound.1 ≠ binding.1) :
    (table.insertAll bindings).Perm (bindings ++ table) := by
  induction bindings generalizing table with
  | nil => exact List.Perm.refl _
  | cons first bindings ih =>
    obtain ⟨hfirst, hrest⟩ := List.pairwise_cons.mp hdistinct
    have hinserted : (table.insert first.1 first.2).Perm (first :: table) :=
      perm_insert (hnew first List.mem_cons_self) first.2
    have hlater : ∀ binding ∈ bindings, ∀ bound ∈ table.insert first.1 first.2,
        bound.1 ≠ binding.1 := by
      intro binding hbinding bound hbound
      rcases List.mem_cons.mp (hinserted.mem_iff.mp hbound) with rfl | hbound
      · exact hfirst binding hbinding
      · exact hnew binding (List.mem_cons_of_mem _ hbinding) bound hbound
    calc (table.insert first.1 first.2).insertAll bindings
      List.Perm _ (bindings ++ table.insert first.1 first.2) := ih hrest hlater
      List.Perm _ (bindings ++ first :: table) := hinserted.append_left _
      List.Perm _ (first :: bindings ++ table) := List.perm_middle

/-- Binding keys keeps a table in order. -/
theorem sorted_insertAll (h : table.Sorted) (bindings : List (String × α)) :
    (table.insertAll bindings).Sorted := by
  induction bindings generalizing table with
  | nil => exact h
  | cons first bindings ih => exact ih (sorted_insert h first.1 first.2)

/-- A table is in order if its keys are. -/
theorem sorted_of_keys (h : table.keys.Pairwise (· < ·)) : table.Sorted := List.pairwise_map.mp h

/-- A table in order is determined by what is in it. -/
theorem Sorted.eq_of_perm {other : Table α} (h : table.Sorted) (hother : Sorted other)
    (hperm : table.Perm other) : table = other :=
  hperm.eq_of_pairwise (fun a _ _ _ hab hba => absurd (String.lt_trans hab hba)
    (String.lt_irrefl a.1)) h hother

/-- Bindings of distinct keys make the table in order that lists them. -/
theorem insertAll_eq_of_perm {bindings : List (String × α)}
    (hdistinct : bindings.Pairwise fun a b => a.1 ≠ b.1) (h : table.Sorted)
    (hperm : table.Perm bindings) : insertAll [] bindings = table := by
  have hbound : (insertAll [] bindings).Perm (bindings ++ []) :=
    perm_insertAll hdistinct (by simp)
  rw [List.append_nil] at hbound
  exact (sorted_insertAll List.Pairwise.nil bindings).eq_of_perm h (hbound.trans hperm.symm)

end ToolGateway.Table
