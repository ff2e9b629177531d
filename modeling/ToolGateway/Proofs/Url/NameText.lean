import ToolGateway.Proofs.Text.Punycode
import ToolGateway.Url.Host

/-!
# Names are read back

A domain name is split into its labels at the points, and every label that is not ASCII is written
in Punycode. The result is ASCII, has no forbidden characters but those of the name, and is a name
again: its labels stand for the same codes, unless one takes more characters than a reader of
Punycode admits.
-/

namespace ToolGateway.Url

/-! ## Labels -/

/-- The labels of a name are what stands between its points. -/
theorem labels_eq_modifyHead (begun name : List Char) :
    labels begun name = (name.splitOn '.').modifyHead (begun.reverse ++ ·) := by
  induction name generalizing begun with
  | nil => simp [labels, List.splitOn_nil]
  | cons c name ih =>
    rw [labels, List.splitOn_cons_eq_if_modifyHead]
    by_cases hc : c = '.'
    · obtain ⟨first, rest, hparts⟩ := List.exists_cons_of_ne_nil (List.splitOn_ne_nil '.' name)
      simp [hc, ih, hparts]
    · simp [hc, ih, List.modifyHead_modifyHead, Function.comp_def]

theorem labels_eq_splitOn (name : List Char) : labels [] name = name.splitOn '.' := by
  obtain ⟨first, rest, hparts⟩ := List.exists_cons_of_ne_nil (List.splitOn_ne_nil '.' name)
  simp [labels_eq_modifyHead, hparts]

/-- A label holds characters of its name, and no point. -/
theorem of_mem_labels {name label : List Char} {c : Char} (h : label ∈ labels [] name)
    (hc : c ∈ label) : c ∈ name ∧ c ≠ '.' := by
  rw [labels_eq_splitOn] at h
  induction name generalizing label with
  | nil =>
    obtain rfl := List.mem_singleton.mp h
    cases hc
  | cons d name ih =>
    rw [List.splitOn_cons_eq_if_modifyHead] at h
    split at h
    · rcases List.mem_cons.mp h with rfl | h
      · cases hc
      · exact (ih h hc).imp (List.mem_cons_of_mem _) id
    · next hd =>
      obtain ⟨first, rest, hparts⟩ := List.exists_cons_of_ne_nil (List.splitOn_ne_nil '.' name)
      rw [hparts] at ih h
      rcases List.mem_cons.mp h with rfl | h
      · rcases List.mem_cons.mp hc with rfl | hc
        · exact ⟨List.mem_cons_self, by simpa using hd⟩
        · exact (ih List.mem_cons_self hc).imp (List.mem_cons_of_mem _) id
      · exact (ih (List.mem_cons_of_mem _ h) hc).imp (List.mem_cons_of_mem _) id

/-- A name consists of points and of its labels. -/
theorem of_mem_intercalate {parts : List (List Char)} {c : Char} (h : c ∈ ['.'].intercalate parts) :
    c = '.' ∨ ∃ part ∈ parts, c ∈ part := by
  induction parts with
  | nil => cases h
  | cons part parts ih =>
    cases parts with
    | nil => exact Or.inr ⟨part, List.mem_cons_self, by simpa using h⟩
    | cons next parts =>
      rw [List.intercalate_cons_cons] at h
      rcases List.mem_append.mp h with h | h
      · rcases List.mem_append.mp h with h | h
        · exact Or.inr ⟨part, List.mem_cons_self, h⟩
        · exact Or.inl (List.mem_singleton.mp h)
      · exact (ih h).imp id fun ⟨p, hp, hc⟩ => ⟨p, List.mem_cons_of_mem _ hp, hc⟩

/-! ## Labels in ASCII -/

/-- The digits of Punycode may stand in a domain name, and so may what stands before them. -/
theorem of_digitChar {d : Nat} (h : d < 36) :
    isForbiddenInDomain (Text.Punycode.digitChar d) = false ∧
      (Text.Punycode.digitChar d).toNat < 0x80 ∧ Text.Punycode.digitChar d ≠ '.' ∧
        Text.Punycode.digitChar d ≠ '-' :=
  (by decide : ∀ d < 36, isForbiddenInDomain (Text.Punycode.digitChar d) = false ∧
    (Text.Punycode.digitChar d).toNat < 0x80 ∧ Text.Punycode.digitChar d ≠ '.' ∧
      Text.Punycode.digitChar d ≠ '-') d h

theorem lt_of_isAscii {cs : List Char} (h : isAscii cs = true) {c : Char} (hc : c ∈ cs) :
    c.toNat < 0x80 := by
  simpa using List.all_eq_true.mp h c hc

/-- A label that is not ASCII has a character beyond it. -/
theorem exists_of_not_isAscii {cs : List Char} (h : ¬ isAscii cs = true) :
    ∃ n ∈ cs.map Char.toNat, 0x80 ≤ n := by
  simpa [isAscii] using h

/-- Punycode is ASCII, and beside the ASCII characters of its label nothing in it ends a label or
is forbidden. -/
theorem of_mem_punycode {label : List Char} {c : Char}
    (h : c ∈ Text.Punycode.encode (label.map Char.toNat)) :
    c.toNat < 0x80 ∧ (c ∈ label ∨ isForbiddenInDomain c = false ∧ c ≠ '.') := by
  rcases Text.Punycode.of_mem_encode h with ⟨n, hn, hsmall, rfl⟩ | rfl | ⟨d, hd, rfl⟩
  · obtain ⟨c, hc, rfl⟩ := List.mem_map.mp hn
    rw [Char.ofNat_toNat]
    exact ⟨hsmall, Or.inl hc⟩
  · exact ⟨by decide, Or.inr (by decide)⟩
  · obtain ⟨hplain, hascii, hpoint, -⟩ := of_digitChar hd
    exact ⟨hascii, Or.inr ⟨hplain, hpoint⟩⟩

/-- The same holds of a label in ASCII. -/
theorem of_mem_asciiLabel {label : List Char} {c : Char} (h : c ∈ asciiLabel label) :
    c.toNat < 0x80 ∧ (c ∈ label ∨ isForbiddenInDomain c = false ∧ c ≠ '.') := by
  unfold asciiLabel at h
  split at h
  · next hascii => exact ⟨lt_of_isAscii hascii h, Or.inl h⟩
  · simp only [List.mem_cons] at h
    rcases h with rfl | rfl | rfl | rfl | h
    case inr.inr.inr.inr => exact of_mem_punycode h
    -- The mark in front is plain, too.
    all_goals exact ⟨by decide, Or.inr (by decide)⟩

theorem asciiLabel_ne_nil {label : List Char} (h : label ≠ []) : asciiLabel label ≠ [] := by
  unfold asciiLabel
  split
  · exact h
  · simp

/-- A label in ASCII stands for the same codes, if it is short enough to be read. -/
theorem labelCodes?_asciiLabel {label : List Char} {codes : List Nat}
    (h : labelCodes? label = some codes)
    (hshort : (asciiLabel label).length ≤ maxEncodedLabel + 4) :
    labelCodes? (asciiLabel label) = some codes := by
  unfold asciiLabel at hshort ⊢
  split
  · exact h
  · next hbeyond =>
    rw [if_neg hbeyond] at hshort
    have hproper : codes = label.map Char.toNat ∧ isProperLabel codes = true := by
      unfold labelCodes? at h
      split at h
      · next text =>
        have htext : isAscii text = false := by
          simpa [isAscii] using hbeyond
        simp [htext] at h
      · rw [if_neg hbeyond, Option.filter_some] at h
        split at h
        · next hproper =>
          obtain rfl := Option.some.inj h
          exact ⟨rfl, hproper⟩
        · cases h
    obtain ⟨rfl, hproper⟩ := hproper
    have hlength : (label.map Char.toNat).length ≤ maxLabel := by
      simp only [isProperLabel, Bool.and_eq_true, decide_eq_true_eq] at hproper
      exact hproper.2
    have hread : Text.Punycode.decode? (Text.Punycode.encode (label.map Char.toNat)) =
        some (label.map Char.toNat) := by
      refine Text.Punycode.decode?_encode (fun n hn => ?_)
        (Nat.lt_of_le_of_lt (Nat.mul_le_mul_right _ hlength) (by decide))
      obtain ⟨c, -, rfl⟩ := List.mem_map.mp hn
      have hvalid : c.toNat.isValidChar := c.valid
      simpa [Text.Punycode.isCharacter] using hvalid
    obtain ⟨d, hd, hlast⟩ := Text.Punycode.getLast?_encode (exists_of_not_isAscii hbeyond)
    generalize hencoded : Text.Punycode.encode (label.map Char.toNat) = encoded at *
    have hne : encoded ≠ [] := by
      rintro rfl
      cases hlast
    have hascii : isAscii encoded = true :=
      List.all_eq_true.mpr fun c hc => decide_eq_true (of_mem_punycode (hencoded ▸ hc)).1
    have hlimit : encoded.length ≤ maxEncodedLabel := by
      simpa using hshort
    change (if encoded = [] ∨ encoded.getLast? = some '-' ∨ maxEncodedLabel < encoded.length ∨
      (!isAscii encoded) = true then none
      else (Text.Punycode.decode? encoded).filter isProperLabel) = some (label.map Char.toNat)
    rw [if_neg, hread, Option.filter_some, if_pos hproper]
    rw [hlast, hascii]
    simp [hne, (of_digitChar hd).2.2.2, hlimit]

/-! ## Names in ASCII -/

/-- The labels of a name in ASCII are its labels in ASCII. -/
theorem labels_asciiName (name : List Char) :
    labels [] (asciiName name) = (labels [] name).map asciiLabel := by
  rw [labels_eq_splitOn (asciiName name), asciiName]
  refine List.splitOn_intercalate '.' (fun part hpart hpoint => ?_) ?_
  · obtain ⟨label, hlabel, rfl⟩ := List.mem_map.mp hpart
    rcases (of_mem_asciiLabel hpoint).2 with hmem | hplain
    · exact (of_mem_labels hlabel hmem).2 rfl
    · exact hplain.2 rfl
  · simp [labels_eq_splitOn, List.splitOn_ne_nil]

/-- A name that is ASCII is the same in ASCII. -/
theorem asciiName_of_isAscii {name : List Char} (h : isAscii name = true) :
    asciiName name = name := by
  have hsame : (labels [] name).map asciiLabel = labels [] name := by
    refine (List.map_congr_left fun label hlabel => ?_).trans (List.map_id _)
    have hascii : isAscii label = true := List.all_eq_true.mpr fun c hc =>
      decide_eq_true (lt_of_isAscii h (of_mem_labels hlabel hc).1)
    rw [asciiLabel, if_pos hascii, id]
  rw [asciiName, hsame, labels_eq_splitOn, List.intercalate_splitOn]

/-- A name in ASCII has no forbidden characters but those of the name. -/
theorem of_mem_asciiName {name : List Char} {c : Char} (h : c ∈ asciiName name) :
    c.toNat < 0x80 ∧ (c ∈ name ∨ isForbiddenInDomain c = false) := by
  rcases of_mem_intercalate h with rfl | ⟨part, hpart, hc⟩
  · exact ⟨by decide, Or.inr (by decide)⟩
  · obtain ⟨label, hlabel, rfl⟩ := List.mem_map.mp hpart
    exact (of_mem_asciiLabel hc).imp id
      (Or.imp (fun hmem => (of_mem_labels hlabel hmem).1) And.left)

theorem asciiName_ne_nil {name : List Char} (h : name ≠ []) : asciiName name ≠ [] := by
  intro hnil
  have hlabels : (labels [] name).map asciiLabel = [[]] := by
    rw [← labels_asciiName, hnil]
    rfl
  obtain ⟨label, hlabel, hempty⟩ := List.map_eq_singleton_iff.mp hlabels
  have hnone : label = [] := by
    by_contra hne
    exact asciiLabel_ne_nil hne hempty
  rw [labels_eq_splitOn, hnone] at hlabel
  have hname : ['.'].intercalate (name.splitOn '.') = name := List.intercalate_splitOn '.'
  rw [hlabel] at hname
  exact h hname.symm

/-- No label of a name takes more characters than are read behind `xn--`. -/
def HasShortLabels (name : List Char) : Prop :=
  ∀ label ∈ labels [] name, label.length ≤ maxEncodedLabel + 4

/-- A name in ASCII is a name, if its labels are short enough to be read. -/
theorem isName_asciiName {name : List Char} (h : isName name = true)
    (hshort : HasShortLabels (asciiName name)) : isName (asciiName name) = true := by
  have hsame {parts : List (List Char)} {all : List (List Nat)}
      (hparts : ∀ part ∈ parts, (asciiLabel part).length ≤ maxEncodedLabel + 4)
      (hall : parts.mapM labelCodes? = some all) :
      (parts.map asciiLabel).mapM labelCodes? = some all := by
    induction parts generalizing all with
    | nil => exact hall
    | cons part parts ih =>
      obtain ⟨hpart, hmore⟩ := List.forall_mem_cons.mp hparts
      simp only [List.mapM_cons, List.map_cons, Option.bind_eq_bind, Option.bind_eq_some_iff]
        at hall ⊢
      obtain ⟨codes, hcodes, rest, hrest, heq⟩ := hall
      exact ⟨codes, labelCodes?_asciiLabel hcodes hpart, rest, ih hmore hrest, heq⟩
  have hparts : ∀ part ∈ labels [] name, (asciiLabel part).length ≤ maxEncodedLabel + 4 := by
    intro part hpart
    refine hshort _ ?_
    rw [labels_asciiName]
    exact List.mem_map_of_mem hpart
  unfold isName at h ⊢
  split at h
  · cases h
  · next all hall => rwa [labels_asciiName, hsame hparts hall]

end ToolGateway.Url
