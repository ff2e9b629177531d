/-!
# Tables keyed by text

A `Table α` lists pairs of a key and a value. `insert` lets a later value replace an earlier one and
keeps the keys of a table in strictly increasing order (`sorted_insert`), so each key occurs once.
Keys are compared by code point, which is also the order of their UTF-8 bytes.

The look-up laws hold of every list of pairs; only the statements about order need `Sorted`.
-/

namespace ToolGateway

/-- Bindings from text to values, listed by increasing key. -/
abbrev Table (α : Type) := List (String × α)

namespace Table

variable {α : Type}

/-- The value bound to a key. -/
def get? : Table α → String → Option α
  | [], _ => none
  | (k, v) :: rest, key => if k = key then some v else get? rest key

/-- Binds a key, replacing the value it had. -/
def insert : Table α → String → α → Table α
  | [], key, value => [(key, value)]
  | (k, v) :: rest, key, value =>
    if k = key then (key, value) :: rest
    else if key < k then (key, value) :: (k, v) :: rest
    else (k, v) :: insert rest key value

/-- Changes the value of a key, starting from `fresh` when the key is new. -/
def update (table : Table α) (key : String) (fresh : α) (change : α → α) : Table α :=
  table.insert key (change ((table.get? key).getD fresh))

/-- Takes a key out. -/
def erase (table : Table α) (key : String) : Table α := table.filter fun b => b.1 ≠ key

/-- The keys, in order. -/
def keys (table : Table α) : List String := table.map Prod.fst

/-- The values, in the order of their keys. -/
def values (table : Table α) : List α := table.map Prod.snd

/-- The keys increase strictly. -/
def Sorted (table : Table α) : Prop := table.Pairwise fun a b => a.1 < b.1

/-- A key that was just bound is found with its value. -/
@[simp] theorem get?_insert_self (table : Table α) (key : String) (value : α) :
    (table.insert key value).get? key = some value := by
  induction table with
  | nil => simp [insert, get?]
  | cons b rest ih =>
    unfold insert
    split
    · simp [get?]
    · split
      · simp [get?]
      · rename_i h _
        simp [get?, h, ih]

/-- Binding one key leaves every other key alone. -/
theorem get?_insert_of_ne (table : Table α) {key other : String} (value : α) (h : key ≠ other) :
    (table.insert key value).get? other = table.get? other := by
  induction table with
  | nil => simp [insert, get?, h]
  | cons b rest ih =>
    unfold insert
    split
    · rename_i hk
      simp [get?, h, hk]
    · split
      · simp [get?, h]
      · simp only [get?]
        split
        · rfl
        · exact ih

/-- What a key holds after one binding. -/
theorem get?_insert (table : Table α) (key other : String) (value : α) :
    (table.insert key value).get? other = if key = other then some value else table.get? other := by
  by_cases h : key = other
  · subst h; simp
  · simp [h, get?_insert_of_ne table value h]

/-- What a key holds after an update. -/
theorem get?_update (table : Table α) (key other : String) (fresh : α) (change : α → α) :
    (table.update key fresh change).get? other =
      if key = other then some (change ((table.get? key).getD fresh)) else table.get? other :=
  get?_insert table key other _

/-- What a key holds once another was taken out. -/
theorem get?_erase (table : Table α) (key other : String) :
    (table.erase key).get? other = if key = other then none else table.get? other := by
  induction table with
  | nil => simp [erase, get?]
  | cons b rest ih =>
    unfold erase at ih ⊢
    by_cases hb : b.1 = key
    · rw [List.filter_cons_of_neg (by simp [hb]), ih, get?, hb]
      by_cases hkey : key = other <;> simp [hkey]
    · rw [List.filter_cons_of_pos (by simp [hb]), get?, get?, ih]
      by_cases hother : b.1 = other
      · have hkey : key ≠ other := fun h => hb (hother.trans h.symm)
        simp [hother, hkey]
      · simp [hother]

/-! ## Order -/

/-- What is in a table after one binding. -/
theorem mem_insert {table : Table α} {key : String} {value : α} {b : String × α}
    (h : b ∈ table.insert key value) : b = (key, value) ∨ b ∈ table := by
  induction table with
  | nil => exact .inl (by simpa [insert] using h)
  | cons c rest ih =>
    unfold insert at h
    split at h
    · grind
    · split at h
      · grind
      · rcases List.mem_cons.1 h with h | h
        · exact .inr (by simp [h])
        · rcases ih h with h | h
          · exact .inl h
          · exact .inr (by simp [h])

/-- Binding a key keeps the keys in order. -/
theorem sorted_insert {table : Table α} (h : table.Sorted) (key : String) (value : α) :
    (table.insert key value).Sorted := by
  induction table with
  | nil => simp [insert, Sorted]
  | cons b rest ih =>
    obtain ⟨hb, hrest⟩ := List.pairwise_cons.1 h
    unfold insert
    split
    · rename_i hk
      exact List.pairwise_cons.2 ⟨fun c hc => hk ▸ hb c hc, hrest⟩
    · rename_i hne
      split
      · rename_i hlt
        refine List.pairwise_cons.2 ⟨fun c hc => ?_, h⟩
        rcases List.mem_cons.1 hc with rfl | hc
        · exact hlt
        · exact String.lt_trans hlt (hb c hc)
      · rename_i hnlt
        refine List.pairwise_cons.2 ⟨fun c hc => ?_, ih hrest⟩
        rcases mem_insert hc with rfl | hc
        · exact Std.lt_of_le_of_ne (String.not_lt.1 hnlt) hne
        · exact hb c hc

end Table

end ToolGateway
