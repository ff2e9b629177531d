import ToolGateway.Proofs.Credential.Carried
import ToolGateway.Proofs.Text.Percent

/-!
# Secrets with and without a line end

A secret that ends neither in a carriage return nor in a line feed is read back whether it is typed
alone, with a line feed or with a carriage return and a line feed behind it: just the line end is
taken away. But the bound is put to what is typed and not to the secret. So a secret that is within
the bound, and would not be with a line end, is read alone and too long with the line end behind it.
-/

namespace ToolGateway.Command

/-- What may stand behind a secret. -/
def lineEnds : List (List Char) := [[], ['\n'], ['\r', '\n']]

/-- There are three line ends. -/
theorem lineEnds_cases {lineEnd : List Char} (h : lineEnd ∈ lineEnds) :
    lineEnd = [] ∨ lineEnd = ['\n'] ∨ lineEnd = ['\r', '\n'] := by
  simpa [lineEnds] using h

/-- The bytes of a secret with a line end behind it. -/
def typed (secret : String) (lineEnd : List Char) : Bytes :=
  Text.Utf8.encode (secret ++ String.ofList lineEnd)

/-- The secret in the input, of which no more is read than shows that it is too long. -/
def readSecret (input : Bytes) : Except SecretError Secret :=
  secretOfInput (input.take (maxSecretLength + 1))

/-- What is not read does not matter. -/
theorem readSecret_eq (input : Bytes) : readSecret input = secretOfInput input := by
  by_cases hlong : maxSecretLength < input.length
  · have hread : maxSecretLength < (input.take (maxSecretLength + 1)).length := by
      rw [List.length_take]
      omega
    rw [readSecret, secretOfInput, secretOfInput, if_pos hread, if_pos hlong]
  · rw [readSecret, List.take_of_length_le (by omega)]

/-- Just the line end is taken away. -/
theorem withoutLineEnd_append {cs lineEnd : List Char} (hne : cs ≠ [])
    (hend : ∀ c ∈ cs.getLast?, c ≠ '\r' ∧ c ≠ '\n') (hlineEnd : lineEnd ∈ lineEnds) :
    withoutLineEnd (cs ++ lineEnd) = cs := by
  induction cs with
  | nil => exact absurd rfl hne
  | cons c cs ih =>
    cases cs with
    | nil =>
      obtain ⟨hreturn, hfeed⟩ := hend c rfl
      obtain rfl | rfl | rfl := lineEnds_cases hlineEnd
      · simp [withoutLineEnd, hfeed]
      · simp [withoutLineEnd, hreturn]
      · simp [withoutLineEnd]
    | cons d cs =>
      have hrest : withoutLineEnd (d :: cs ++ lineEnd) = d :: cs :=
        ih (List.cons_ne_nil _ _) hend
      rw [List.cons_append, withoutLineEnd, hrest]
      · rintro - ⟨⟩
      · -- A line feed alone behind `c` would be the end of the secret.
        intro _ halone
        obtain ⟨rfl, hnone⟩ := List.cons.inj halone
        obtain ⟨rfl, -⟩ := List.append_eq_nil_iff.mp hnone
        exact (hend '\n' rfl).2 rfl

/-- A line end has one byte for each of its characters. -/
theorem length_typed (secret : String) {lineEnd : List Char} (hlineEnd : lineEnd ∈ lineEnds) :
    (typed secret lineEnd).length = (Text.Utf8.encode secret).length + lineEnd.length := by
  have hlength : (Text.Utf8.encodeChars lineEnd).length = lineEnd.length := by
    obtain rfl | rfl | rfl := lineEnds_cases hlineEnd <;> rfl
  rw [typed, Text.Utf8.encode, String.toList_append, String.toList_ofList, Text.Utf8.encodeChars,
    List.flatMap_append, List.length_append]
  exact congrArg _ hlength

/-- What is left of a text without its line end is the secret. -/
theorem secretOfInput_encode {text secret : String} (hne : secret ≠ "")
    (hwithin : (Text.Utf8.encode text).length ≤ maxSecretLength)
    (hleft : withoutLineEnd text.toList = secret.toList) :
    secretOfInput (Text.Utf8.encode text) = .ok ⟨secret⟩ := by
  rw [secretOfInput, if_neg (Nat.not_lt.mpr hwithin), Text.Utf8.decode?_encode]
  dsimp only
  rw [hleft]
  split
  · next hnone => exact absurd (String.toList_eq_nil_iff.mp hnone) hne
  · rw [String.ofList_toList]

/-- A secret is read unless it is too long together with the line end behind it. -/
theorem readSecret_typed {secret : String} (hne : secret ≠ "")
    (hend : ∀ c ∈ secret.toList.getLast?, c ≠ '\r' ∧ c ≠ '\n') {lineEnd : List Char}
    (hlineEnd : lineEnd ∈ lineEnds) :
    readSecret (typed secret lineEnd) =
      if (Text.Utf8.encode secret).length + lineEnd.length ≤ maxSecretLength then .ok ⟨secret⟩
      else .error .tooLong := by
  rw [readSecret_eq, ← length_typed secret hlineEnd]
  by_cases hwithin : (typed secret lineEnd).length ≤ maxSecretLength
  · have hleft : withoutLineEnd (secret ++ String.ofList lineEnd).toList = secret.toList := by
      rw [String.toList_append, String.toList_ofList,
        withoutLineEnd_append (mt String.toList_eq_nil_iff.mp hne) hend hlineEnd]
    rw [if_pos hwithin]
    exact secretOfInput_encode hne hwithin hleft
  · rw [if_neg hwithin, secretOfInput, if_pos (Nat.lt_of_not_le hwithin)]

/-- A secret that ends neither in a carriage return nor in a line feed is read with any line end or
none, unless the two are too long together. So it does not matter whether there is a line end, and
which, exactly for the secrets that are within the bound by two bytes and those that are too long
themselves. -/
theorem reads_alike_iff {secret : String} (hne : secret ≠ "")
    (hend : ∀ c ∈ secret.toList.getLast?, c ≠ '\r' ∧ c ≠ '\n') :
    (∀ lineEnd ∈ lineEnds, readSecret (typed secret lineEnd) =
      if (Text.Utf8.encode secret).length + lineEnd.length ≤ maxSecretLength then .ok ⟨secret⟩
      else .error .tooLong) ∧
    ((∀ lineEnd ∈ lineEnds, readSecret (typed secret lineEnd) = readSecret (typed secret [])) ↔
      (Text.Utf8.encode secret).length + 2 ≤ maxSecretLength ∨
        maxSecretLength < (Text.Utf8.encode secret).length) := by
  let length := (Text.Utf8.encode secret).length
  have hread : ∀ lineEnd ∈ lineEnds, readSecret (typed secret lineEnd) =
      if length + lineEnd.length ≤ maxSecretLength then .ok ⟨secret⟩ else .error .tooLong :=
    fun _ => readSecret_typed hne hend
  have halone := hread [] (by decide)
  rw [List.length_nil, Nat.add_zero] at halone
  refine ⟨hread, fun halike => ?_, fun hfar lineEnd hlineEnd => ?_⟩
  · have hboth := hread ['\r', '\n'] (by decide)
    rw [halike _ (by decide), halone] at hboth
    -- A secret that is read alone is read with the longest line end as well.
    by_cases hlong : maxSecretLength < length
    · exact Or.inr hlong
    · refine Or.inl (Nat.le_of_not_lt fun hshort => ?_)
      have hover : ¬length + ['\r', '\n'].length ≤ maxSecretLength := Nat.not_le.mpr hshort
      rw [if_pos (Nat.le_of_not_lt hlong), if_neg hover] at hboth
      cases hboth
  · have hlength : lineEnd.length ≤ 2 := by
      obtain rfl | rfl | rfl := lineEnds_cases hlineEnd <;> decide
    rw [hread lineEnd hlineEnd, halone]
    rcases hfar with hfar | hfar
    · rw [if_pos (by omega), if_pos (by omega)]
    · rw [if_neg (by omega), if_neg (by omega)]

/-- A secret of the greatest length is read alone, and is too long with a line feed behind it. -/
theorem reads_alike_iff_of_longest :
    let secret := String.ofList (List.replicate 8192 'x')
    readSecret (typed secret []) = .ok ⟨secret⟩ ∧
      readSecret (typed secret ['\n']) = .error .tooLong ∧
      readSecret (typed secret ['\r', '\n']) = .error .tooLong := by
  intro secret
  have hchars : secret.toList = List.replicate 8192 'x' := String.toList_ofList
  have hne : secret ≠ "" := by
    rw [ne_eq, ← String.toList_eq_nil_iff, hchars]
    exact List.cons_ne_nil _ _
  have hall : ∀ c ∈ secret.toList, c = 'x' := fun c hc => List.eq_of_mem_replicate (hchars ▸ hc)
  have hend : ∀ c ∈ secret.toList.getLast?, c ≠ '\r' ∧ c ≠ '\n' := by
    intro c hc
    obtain rfl := hall c (List.mem_of_mem_getLast? hc)
    decide
  have hascii : ∀ c ∈ secret.toList, c.toNat < 0x80 := by
    intro c hc
    obtain rfl := hall c hc
    decide
  have hlength : (Text.Utf8.encode secret).length = 8192 := by
    rw [Text.Utf8.encode, Text.Utf8.encodeChars_of_ascii hascii, List.length_map, hchars,
      List.length_replicate]
  obtain ⟨hread, -⟩ := reads_alike_iff hne hend
  refine ⟨?_, ?_, ?_⟩
  · rw [hread _ (by decide), hlength, if_pos (by decide)]
  · rw [hread _ (by decide), hlength, if_neg (by decide)]
  · rw [hread _ (by decide), hlength, if_neg (by decide)]

end ToolGateway.Command
