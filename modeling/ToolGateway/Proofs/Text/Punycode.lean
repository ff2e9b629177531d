import Mathlib.Data.List.InsertIdx
import Mathlib.Data.List.TakeWhile
import ToolGateway.Proofs.Text.Digits
import ToolGateway.Proofs.Text.WellFormed
import ToolGateway.Text.Punycode

/-!
# Punycode is read back

A text is read back from its Punycode: each number is, in spite of the limits on numbers, and behind
each number the reader and the writer are at the same place of the same text. So nothing has to be
known of the bias, which both of them compute from there.
-/

namespace ToolGateway.Text.Punycode

/-! ## Digits -/

theorem threshold_le (bias place : Nat) : threshold bias place ≤ 26 := by
  unfold threshold
  split
  · decide
  · split <;> omega

/-- A digit is read back. -/
theorem digit?_digitChar {d : Nat} (h : d < 36) : digit? (digitChar d) = some d :=
  (by decide : ∀ d < 36, digit? (digitChar d) = some d) d h

/-- Numbers consist of digits. -/
theorem exists_of_mem_writeNumber {bias place n : Nat} {c : Char}
    (h : c ∈ writeNumber bias place n) : ∃ d < 36, c = digitChar d := by
  have hleast := threshold_le bias place
  induction n using Nat.strongRecOn generalizing place with
  | ind n ih =>
    have hpos := threshold_pos bias place
    unfold writeNumber at h
    dsimp only at h
    split at h
    · exact ⟨n, by omega, List.mem_singleton.mp h⟩
    · rcases List.mem_cons.mp h with rfl | hmore
      · have := Nat.mod_lt (n - threshold bias place) (by omega : 0 < 36 - threshold bias place)
        exact ⟨_, by omega, rfl⟩
      · refine ih _ ?_ hmore (threshold_le bias _)
        exact Nat.lt_of_le_of_lt (Nat.div_le_self _ _) (by omega)

theorem writeNumber_ne_nil (bias place n : Nat) : writeNumber bias place n ≠ [] := by
  unfold writeNumber
  dsimp only
  split <;> simp

/-! ## Numbers -/

/-- As long as the thresholds have not reached their greatest value, all those before were 1. -/
def Reading.HasLowWeight (r : Reading) : Prop :=
  r.place < r.bias + 26 → ∃ k, r.weight = 35 ^ k

/-- The next digit of a number has a weight of 32 bits, if the rest of the number is not small. -/
theorem weight_lt {r : Reading} (hlow : r.HasLowWeight) {n : Nat}
    (hn : threshold r.bias r.place ≤ n) (hbound : n * r.weight < 35 ^ 6) :
    r.weight * (36 - threshold r.bias r.place) < UInt32.size := by
  have hleast : threshold r.bias r.place * r.weight < 35 ^ 6 :=
    Nat.lt_of_le_of_lt (Nat.mul_le_mul_right _ hn) hbound
  by_cases hplace : r.place < r.bias + 26
  · obtain ⟨k, hk⟩ := hlow hplace
    have hpower : 35 ^ k < 35 ^ 6 := by
      rw [← hk]
      exact Nat.lt_of_le_of_lt (Nat.le_mul_of_pos_left _ (threshold_pos _ _)) hleast
    have hk6 : k ≤ 5 := Nat.le_of_lt_succ ((Nat.pow_lt_pow_iff_right (by decide)).mp hpower)
    calc r.weight * (36 - threshold r.bias r.place)
        ≤ 35 ^ 5 * 35 := by
          rw [hk]
          have := threshold_pos r.bias r.place
          exact Nat.mul_le_mul (Nat.pow_le_pow_right (by decide) hk6) (by omega)
      _ < UInt32.size := by decide
  · have hgreatest : threshold r.bias r.place = 26 := by
      rw [threshold, if_neg (by omega), if_pos (by omega)]
    rw [hgreatest] at hleast ⊢
    have : UInt32.size = 4294967296 := rfl
    omega

/-- A digit that is not the last one of its number makes the reading go on. -/
theorem step?_of_threshold_le {r : Reading} {d : Nat} (hd : threshold r.bias r.place ≤ d)
    (h36 : d < 36) (hposition : r.position + d * r.weight < UInt32.size)
    (hweight : r.weight * (36 - threshold r.bias r.place) < UInt32.size) :
    r.step? (digitChar d) =
      some { r with
        position := r.position + d * r.weight
        weight := r.weight * (36 - threshold r.bias r.place)
        place := r.place + 36 } := by
  simp only [Reading.step?, digit?_digitChar h36, Option.bind_eq_bind, Option.bind_some]
  rw [if_neg (Nat.not_le.mpr hposition), if_neg (Nat.not_lt.mpr hd),
    if_neg (Nat.not_le.mpr hweight)]

/-- A number is read, and moves the reading on by itself. -/
theorem foldlM_writeNumber {r : Reading} (hlow : r.HasLowWeight) {n : Nat}
    (hbound : r.position + n * r.weight < 35 ^ 6) :
    (writeNumber r.bias r.place n).foldlM Reading.step? r =
      ({ r with position := r.position + n * r.weight } : Reading).insert? := by
  have hsize : 35 ^ 6 < UInt32.size := by decide
  induction n using Nat.strongRecOn generalizing r with
  | ind n ih =>
    have hpos := threshold_pos r.bias r.place
    have hle := threshold_le r.bias r.place
    unfold writeNumber
    dsimp only
    split
    · next hlast =>
      have h36 : n < 36 := by omega
      simp only [List.foldlM_cons, List.foldlM_nil, Reading.step?, digit?_digitChar h36,
        Option.bind_eq_bind, Option.bind_some]
      rw [if_neg (by omega), if_pos hlast]
      exact Option.bind_fun_some _
    · next hmore =>
      have hleast : threshold r.bias r.place ≤ n := Nat.not_lt.mp hmore
      generalize hbase : 36 - threshold r.bias r.place = base
      generalize hquotient : (n - threshold r.bias r.place) / base = quotient
      generalize hdigit : threshold r.bias r.place + (n - threshold r.bias r.place) % base = d
      have hd : d < 36 := by
        have := Nat.mod_lt (n - threshold r.bias r.place) (by omega : 0 < base)
        omega
      have hsplit : d + base * quotient = n := by
        have := Nat.mod_add_div (n - threshold r.bias r.place) base
        rw [← hdigit, ← hquotient]
        omega
      -- What the digit does not count is left to the digits behind it.
      have hvalue : r.position + d * r.weight + quotient * (r.weight * base) =
          r.position + n * r.weight := by
        rw [← hsplit, Nat.add_mul, Nat.add_assoc]
        ac_rfl
      have hstep := step?_of_threshold_le (r := r) (d := d) (by omega) hd (by omega)
        (weight_lt hlow hleast (by omega))
      rw [hbase] at hstep
      rw [List.foldlM_cons, hstep, Option.bind_eq_bind, Option.bind_some]
      have hnext := ih quotient (by
          rw [← hquotient]
          exact Nat.lt_of_le_of_lt (Nat.div_le_self _ _) (by omega))
        (r := { r with
          position := r.position + d * r.weight
          weight := r.weight * base
          place := r.place + 36 }) ?_ (by simpa only [hvalue] using hbound)
      · rw [hnext, Reading.insert?, Reading.insert?]
        simp only [hvalue]
      · intro hplace
        dsimp only at hplace ⊢
        obtain ⟨k, hk⟩ := hlow (by omega)
        refine ⟨k + 1, ?_⟩
        rw [← hbase, threshold, if_pos (by omega), hk, Nat.pow_succ]

/-! ## Characters -/

/-- Without a greatest code beyond ASCII there is none. -/
theorem lt_of_lastGreatest?_eq_none {codes : List Nat} (h : lastGreatest? codes = none) :
    ∀ n ∈ codes, n < 0x80 := by
  induction codes with
  | nil => simp
  | cons first rest ih =>
    rw [lastGreatest?] at h
    split at h
    · split at h <;> cases h
    · next hrest =>
      split at h
      · cases h
      · next hfirst => exact List.forall_mem_cons.mpr ⟨Nat.not_le.mp hfirst, ih hrest⟩

/-- A code at the front is the only greatest one, if all others are smaller. -/
theorem le_of_front {first : Nat} {rest : List Nat} (h : ∀ m ∈ rest, m < first) {i n : Nat}
    (hn : (first :: rest)[i]? = some n) : n ≤ first ∧ (n = first → i ≤ 0) := by
  cases i with
  | zero => exact ⟨Nat.le_of_eq (Option.some.inj hn).symm, fun _ => Nat.le_refl 0⟩
  | succ i =>
    have hless := h n (List.mem_of_getElem? hn)
    exact ⟨Nat.le_of_lt hless, fun heq => absurd heq (Nat.ne_of_lt hless)⟩

/-- The greatest code is beyond ASCII, no code is greater, and none behind it is the same. -/
theorem of_lastGreatest? {codes : List Nat} {code spot : Nat}
    (h : lastGreatest? codes = some (code, spot)) :
    codes[spot]? = some code ∧ 0x80 ≤ code ∧
      ∀ i n, codes[i]? = some n → n ≤ code ∧ (n = code → i ≤ spot) := by
  induction codes generalizing code spot with
  | nil => cases h
  | cons first rest ih =>
    rw [lastGreatest?] at h
    split at h
    · next code' spot' hrest =>
      obtain ⟨hat, hbeyond, hmost⟩ := ih hrest
      split at h
      · next hle =>
        obtain ⟨rfl, rfl⟩ := Prod.mk.inj (Option.some.inj h)
        refine ⟨hat, hbeyond, fun i n hn => ?_⟩
        cases i with
        | zero => exact ⟨Option.some.inj hn ▸ hle, fun _ => Nat.zero_le _⟩
        | succ i => exact ⟨(hmost i n hn).1, fun heq => Nat.succ_le_succ ((hmost i n hn).2 heq)⟩
      · next hlt =>
        obtain ⟨rfl, rfl⟩ := Prod.mk.inj (Option.some.inj h)
        refine ⟨rfl, by omega, fun i n hn => le_of_front (fun m hm => ?_) hn⟩
        obtain ⟨j, hj⟩ := List.getElem?_of_mem hm
        exact Nat.lt_of_le_of_lt (hmost j m hj).1 (Nat.not_le.mp hlt)
    · next hnone =>
      have hascii := lt_of_lastGreatest?_eq_none hnone
      split at h
      · next hbeyond =>
        obtain ⟨rfl, rfl⟩ := Prod.mk.inj (Option.some.inj h)
        refine ⟨rfl, hbeyond, fun i n hn => le_of_front (fun m hm => ?_) hn⟩
        exact Nat.lt_of_lt_of_le (hascii m hm) hbeyond
      · cases h

/-- Without the last character that is put in, the greatest code is smaller or stands further at the
front. -/
theorem lastGreatest?_eraseIdx {codes : List Nat} {code spot code' spot' : Nat}
    (h : lastGreatest? codes = some (code, spot))
    (h' : lastGreatest? (codes.eraseIdx spot) = some (code', spot')) :
    code' < code ∨ code' = code ∧ spot' < spot := by
  obtain ⟨-, -, hmost⟩ := of_lastGreatest? h
  have hat := (of_lastGreatest? h').1
  rw [List.getElem?_eraseIdx] at hat
  split at hat
  · next hfront =>
    exact (Nat.lt_or_eq_of_le (hmost _ _ hat).1).imp id fun heq => ⟨heq, hfront⟩
  · next hbehind =>
    refine (Nat.lt_or_eq_of_le (hmost _ _ hat).1).imp id fun heq => ?_
    have := (hmost _ _ hat).2 heq
    omega

/-- Without it, the ASCII characters are the same. -/
theorem filter_eraseIdx {codes : List Nat} {code spot : Nat}
    (h : lastGreatest? codes = some (code, spot)) :
    (codes.eraseIdx spot).filter (· < 0x80) = codes.filter (· < 0x80) := by
  obtain ⟨hat, hbeyond, -⟩ := of_lastGreatest? h
  obtain ⟨hspot, hcode⟩ := List.getElem?_eq_some_iff.mp hat
  conv_rhs => rw [← List.take_append_drop spot codes, List.drop_eq_getElem_cons hspot, hcode]
  rw [List.eraseIdx_eq_take_drop_succ, List.filter_append, List.filter_append,
    List.filter_cons_of_neg (by simpa using hbeyond)]

/-- And the last character can be put in again. -/
theorem insertIdx_eraseIdx {codes : List Nat} {code spot : Nat}
    (h : lastGreatest? codes = some (code, spot)) :
    (codes.eraseIdx spot).insertIdx spot code = codes := by
  obtain ⟨hspot, rfl⟩ := List.getElem?_eq_some_iff.mp (of_lastGreatest? h).1
  exact List.insertIdx_eraseIdx_getElem hspot

/-! ## Texts -/

theorem write_of_none {codes : List Nat} (h : lastGreatest? codes = none) :
    write codes = ([], .begin codes) := by
  rw [write]
  split
  · rfl
  · next hsome => cases h.symm.trans hsome

theorem write_of_some {codes : List Nat} {code spot : Nat}
    (h : lastGreatest? codes = some (code, spot)) :
    write codes =
      let done := write (codes.eraseIdx spot)
      (done.1 ++ writeNumber done.2.bias 36 (done.2.distance code spot), done.2.put code spot) := by
  rw [write]
  split
  · next hnone => cases h.symm.trans hnone
  · next hsome =>
    obtain ⟨rfl, rfl⟩ := Prod.mk.inj (Option.some.inj (h.symm.trans hsome))
    rfl

/-- A reading of a whole text, which stands behind the last character that was put in. -/
structure Reading.IsBehind (r : Reading) (text : List Nat) : Prop where
  codes : r.codes = text
  position : r.position = r.start
  weight : r.weight = 1
  place : r.place = 36
  begun : lastGreatest? text = none → r.code = 0x80 ∧ r.start = 0
  last : ∀ code spot, lastGreatest? text = some (code, spot) → r.code = code ∧ r.start = spot + 1

/-- The writer computes with such readings. -/
theorem isBehind_write (codes : List Nat) : (write codes).2.IsBehind codes := by
  induction codes using write.induct with
  | case1 codes hnone =>
    rw [write_of_none hnone]
    refine ⟨rfl, rfl, rfl, rfl, fun _ => ⟨rfl, rfl⟩, fun code spot h => ?_⟩
    cases hnone.symm.trans h
  | case2 codes code spot hsome ih =>
    rw [write_of_some hsome]
    refine ⟨?_, rfl, rfl, rfl, fun h => ?_, fun code' spot' h => ?_⟩
    · dsimp only [Reading.put]
      rw [ih.codes, insertIdx_eraseIdx hsome]
    · cases hsome.symm.trans h
    · obtain ⟨rfl, rfl⟩ := Prod.mk.inj (Option.some.inj (hsome.symm.trans h))
      exact ⟨rfl, rfl⟩

/-- Behind the text without its last character, the reading has not gone past that character. -/
theorem Reading.IsBehind.start_le {r : Reading} {codes : List Nat} {code spot : Nat}
    (hsome : lastGreatest? codes = some (code, spot)) (h : r.IsBehind (codes.eraseIdx spot)) :
    r.code ≤ code ∧ r.start ≤ (code - r.code) * codes.length + spot := by
  have hbeyond := (of_lastGreatest? hsome).2.1
  cases hlast : lastGreatest? (codes.eraseIdx spot) with
  | none =>
    obtain ⟨hcode, hstart⟩ := h.begun hlast
    omega
  | some found =>
    obtain ⟨code', spot'⟩ := found
    obtain ⟨rfl, hstart⟩ := h.last _ _ hlast
    rcases lastGreatest?_eraseIdx hsome hlast with hlt | ⟨heq, hfront⟩
    · have hroom := lt_length_of_lastGreatest? hlast
      have hshorter := (codes.eraseIdx_sublist spot).length_le
      have := Nat.le_mul_of_pos_left codes.length (by omega : 0 < code - r.code)
      omega
    · omega

/-- The distance leads to the place of a character, and it is put in there. -/
theorem insert?_distance {r : Reading} {code spot : Nat} (hcode : r.code ≤ code)
    (hstart : r.start ≤ (code - r.code) * (r.codes.length + 1) + spot)
    (hspot : spot ≤ r.codes.length) (hchar : isCharacter code = true) :
    ({ r with position := r.start + r.distance code spot } : Reading).insert? =
      some (r.put code spot) := by
  have hposition : r.start + r.distance code spot =
      (r.codes.length + 1) * (code - r.code) + spot := by
    rw [Reading.distance, Nat.add_sub_of_le hstart, Nat.mul_comm]
  have hlt : spot < r.codes.length + 1 := Nat.lt_succ_of_le hspot
  have hquotient : (r.start + r.distance code spot) / (r.codes.length + 1) = code - r.code := by
    rw [hposition, Nat.mul_add_div (Nat.succ_pos _), Nat.div_eq_of_lt hlt, Nat.add_zero]
  have hremainder : (r.start + r.distance code spot) % (r.codes.length + 1) = spot := by
    rw [hposition, Nat.mul_add_mod_self_left, Nat.mod_eq_of_lt hlt]
  simp only [Reading.insert?, hquotient, hremainder, Nat.add_sub_of_le hcode, hchar,
    Nat.add_sub_cancel_left, if_true]
  rfl

/-- The numbers of a text are read, from its ASCII characters on. -/
theorem foldlM_write {codes : List Nat} (hchars : ∀ n ∈ codes, isCharacter n = true)
    (hlength : codes.length * 0x110000 < 35 ^ 6) :
    (write codes).1.foldlM Reading.step? (.begin (codes.filter (· < 0x80))) =
      some (write codes).2 := by
  induction codes using write.induct with
  | case1 codes hnone =>
    have hall : codes.filter (· < 0x80) = codes :=
      List.filter_eq_self.mpr fun n hn => decide_eq_true (lt_of_lastGreatest?_eq_none hnone n hn)
    rw [write_of_none hnone, hall]
    rfl
  | case2 codes code spot hsome ih =>
    obtain ⟨hat, -, -⟩ := of_lastGreatest? hsome
    have hspot := lt_length_of_lastGreatest? hsome
    have hshorter : (codes.eraseIdx spot).length + 1 = codes.length := by
      rw [List.length_eraseIdx_of_lt hspot]
      omega
    have hread := ih (fun n hn => hchars n ((codes.eraseIdx_sublist spot).subset hn))
      (Nat.lt_of_le_of_lt (Nat.mul_le_mul_right _ (by omega)) hlength)
    have hbehind := isBehind_write (codes.eraseIdx spot)
    rw [filter_eraseIdx hsome] at hread
    rw [write_of_some hsome]
    dsimp only
    rw [List.foldlM_append, hread, Option.bind_eq_bind, Option.bind_some]
    generalize (write (codes.eraseIdx spot)).2 = r at hbehind ⊢
    obtain ⟨hcode, hstart⟩ := hbehind.start_le hsome
    have hroom : r.codes.length + 1 = codes.length := by rw [hbehind.codes, hshorter]
    have hchar := hchars code (List.mem_of_getElem? hat)
    -- The greatest character is put in at most a text's length for every code.
    have hbound : r.start + r.distance code spot < 35 ^ 6 := by
      rw [Reading.distance, hroom, Nat.add_sub_of_le hstart]
      have hless : code - r.code < 0x110000 := by
        have : code < 0x110000 := by
          simp only [isCharacter, Bool.or_eq_true, Bool.and_eq_true, decide_eq_true_eq] at hchar
          omega
        omega
      have := mul_add_lt hless hspot
      omega
    have hnumber := foldlM_writeNumber (r := r) (n := r.distance code spot)
      (fun _ => ⟨0, hbehind.weight⟩)
      (by rwa [hbehind.position, hbehind.weight, Nat.mul_one])
    rw [hbehind.place, hbehind.position, hbehind.weight, Nat.mul_one] at hnumber
    rw [hnumber]
    exact insert?_distance hcode (by rwa [hroom]) (by omega) hchar

/-- The numbers of a text consist of digits. -/
theorem exists_of_mem_write {codes : List Nat} {c : Char} (h : c ∈ (write codes).1) :
    ∃ d < 36, c = digitChar d := by
  induction codes using write.induct with
  | case1 codes hnone =>
    rw [write_of_none hnone] at h
    cases h
  | case2 codes code spot hsome ih =>
    rw [write_of_some hsome] at h
    rcases List.mem_append.mp h with h | h
    · exact ih h
    · exact exists_of_mem_writeNumber h

theorem hyphen_notMem_write (codes : List Nat) : '-' ∉ (write codes).1 := by
  intro h
  obtain ⟨d, hd, heq⟩ := exists_of_mem_write h
  exact (by decide : ∀ d < 36, '-' ≠ digitChar d) d hd heq

/-! ## Whole texts -/

/-- A text is cut at its last hyphen. -/
theorem cut_append {ascii numbers : List Char} (h : '-' ∉ numbers) :
    cut ((if ascii = [] then [] else ascii ++ ['-']) ++ numbers) = (ascii, numbers) := by
  have hplain : ∀ c ∈ numbers.reverse, decide (c ≠ '-') = true := fun c hc =>
    decide_eq_true fun heq => h (heq ▸ List.mem_reverse.mp hc)
  by_cases hnil : ascii = []
  · have hnumbers : (numbers.reverse.takeWhile (· ≠ '-')).reverse = numbers := by
      rw [List.takeWhile_eq_self_iff.mpr hplain, List.reverse_reverse]
    simp only [hnil, if_true, List.nil_append, cut, hnumbers, Nat.sub_self, List.take_zero]
  · have hnumbers :
        ((ascii ++ ['-'] ++ numbers).reverse.takeWhile (· ≠ '-')).reverse = numbers := by
      rw [List.reverse_append, List.takeWhile_append_of_pos hplain]
      simp
    have hfront : (ascii ++ ['-'] ++ numbers).take
        ((ascii ++ ['-'] ++ numbers).length - numbers.length) = ascii ++ ['-'] := by
      have hlength : (ascii ++ ['-'] ++ numbers).length - numbers.length =
          (ascii ++ ['-']).length := by
        simp only [List.length_append]
        omega
      rw [hlength, List.take_left]
    obtain ⟨first, rest, rfl⟩ := List.exists_cons_of_ne_nil hnil
    simp only [hnil, if_false, cut, hnumbers, hfront]
    split
    · next heq => simp at heq
    · next heq => simp at heq
    · rw [List.dropLast_concat]

/-- A text is read back. -/
theorem decode?_encode {codes : List Nat} (hchars : ∀ n ∈ codes, isCharacter n = true)
    (hlength : codes.length * 0x110000 < 35 ^ 6) : decode? (encode codes) = some codes := by
  have hascii : ((codes.filter (· < 0x80)).map Char.ofNat).map Char.toNat =
      codes.filter (· < 0x80) := by
    rw [List.map_map, List.map_congr_left (g := id), List.map_id]
    intro n hn
    have hsmall : n < 0x80 := by simpa using (List.mem_filter.mp hn).2
    exact Utf8.toNat_ofNat_of_isValidChar (Or.inl (Nat.lt_trans hsmall (by decide)))
  have hbehind := isBehind_write codes
  simp only [decode?, encode, cut_append (hyphen_notMem_write codes), hascii,
    foldlM_write hchars hlength, Option.bind_eq_bind, Option.bind_some, hbehind.place, if_true,
    hbehind.codes]

example : encode ("bücher".toList.map Char.toNat) = "bcher-kva".toList := by decide +kernel

/-- Beside the ASCII characters of a text, its Punycode consists of digits and hyphens. -/
theorem of_mem_encode {codes : List Nat} {c : Char} (h : c ∈ encode codes) :
    (∃ n ∈ codes, n < 0x80 ∧ c = Char.ofNat n) ∨ c = '-' ∨ ∃ d < 36, c = digitChar d := by
  rcases List.mem_append.mp h with h | h
  · split at h
    · cases h
    · rcases List.mem_append.mp h with h | h
      · obtain ⟨n, hn, rfl⟩ := List.mem_map.mp h
        obtain ⟨hmem, hsmall⟩ := List.mem_filter.mp hn
        exact Or.inl ⟨n, hmem, by simpa using hsmall, rfl⟩
      · exact Or.inr (Or.inl (List.mem_singleton.mp h))
  · exact Or.inr (Or.inr (exists_of_mem_write h))

/-- The Punycode of a text that is not ASCII ends in a digit. -/
theorem getLast?_encode {codes : List Nat} (h : ∃ n ∈ codes, 0x80 ≤ n) :
    ∃ d < 36, (encode codes).getLast? = some (digitChar d) := by
  cases hlast : lastGreatest? codes with
  | none =>
    obtain ⟨n, hn, hbeyond⟩ := h
    exact absurd (lt_of_lastGreatest?_eq_none hlast n hn) (Nat.not_lt.mpr hbeyond)
  | some found =>
    have hne : (write codes).1 ≠ [] := by
      rw [write_of_some hlast]
      exact List.append_ne_nil_of_right_ne_nil _ (writeNumber_ne_nil _ _ _)
    obtain ⟨d, hd, heq⟩ := exists_of_mem_write (List.getLast_mem hne)
    refine ⟨d, hd, ?_⟩
    rw [encode, List.getLast?_append, List.getLast?_eq_some_getLast hne, Option.some_or, heq]

end ToolGateway.Text.Punycode
