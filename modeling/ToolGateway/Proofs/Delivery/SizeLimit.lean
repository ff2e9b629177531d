import ToolGateway.Delivery.Intake

/-!
# The limit of a body

What becomes of a body depends on its bytes alone and not on where it was cut: one that is within
the limit is read, and one that is not is too large, whether or not the connection failed behind the
bytes that are too many. At no time is more kept than the limit, and the count never runs over.
-/

namespace ToolGateway

variable {limit : Nat}

/-- A sum within a limit that is a word is counted. -/
theorem addLengths?_eq_some {m n : Nat} (hlimit : limit < UInt64.size) (h : m + n ≤ limit) :
    addLengths? m n = some (m + n) :=
  if_pos (Nat.lt_of_le_of_lt h hlimit)

namespace Intake

variable {intake next : Intake limit} {chunk : Bytes} {chunks : List Bytes}

/-- A chunk that is kept is added. -/
theorem kept_of_add? (h : intake.add? chunk = some next) : next.kept = intake.kept ++ chunk := by
  unfold add? at h
  split at h
  · cases h
  · split at h
    · rw [← Option.some.inj h]
    · cases h

/-- A chunk is kept if the limit allows it. -/
theorem exists_add?_iff (hlimit : limit < UInt64.size) (intake : Intake limit) (chunk : Bytes) :
    (∃ next, intake.add? chunk = some next) ↔ intake.kept.length + chunk.length ≤ limit := by
  constructor
  · rintro ⟨next, h⟩
    rw [← List.length_append, ← kept_of_add? h, ← next.counts]
    exact next.fits
  · intro h
    rw [← intake.counts] at h
    have hsum := addLengths?_eq_some hlimit h
    unfold add?
    split
    · next hnone =>
      rw [hsum] at hnone
      cases hnone
    · next total htotal =>
      obtain rfl := Option.some.inj (hsum.symm.trans htotal)
      exact ⟨_, dif_pos h⟩

/-- What is kept of chunks are their bytes. -/
theorem kept_of_takeAll? (h : intake.takeAll? chunks = some next) :
    next.kept = intake.kept ++ chunks.flatten := by
  induction chunks generalizing intake with
  | nil =>
    obtain rfl := Option.some.inj h
    simp
  | cons chunk chunks ih =>
    unfold takeAll? at h
    split at h
    · cases h
    · next after hadd => rw [ih h, kept_of_add? hadd, List.flatten_cons, List.append_assoc]

/-- Chunks are kept if the limit allows all their bytes. -/
theorem exists_takeAll?_iff (hlimit : limit < UInt64.size) (intake : Intake limit)
    (chunks : List Bytes) :
    (∃ next, intake.takeAll? chunks = some next) ↔
      intake.kept.length + chunks.flatten.length ≤ limit := by
  induction chunks generalizing intake with
  | nil => simpa [takeAll?] using intake.counts ▸ intake.fits
  | cons chunk chunks ih =>
    unfold takeAll?
    have hadd := exists_add?_iff hlimit intake chunk
    rw [List.flatten_cons, List.length_append]
    cases hfirst : intake.add? chunk with
    | none =>
      have hover : ¬ intake.kept.length + chunk.length ≤ limit := by
        rw [← hadd, hfirst]
        simp
      constructor
      · rintro ⟨next, h⟩
        cases h
      · intro h
        omega
    | some after =>
      dsimp only
      rw [ih, kept_of_add? hfirst, List.length_append, Nat.add_assoc]

/-- A body that is within the limit is read if nothing cut it short, and any other is too large. -/
theorem read_eq (hlimit : limit < UInt64.size) (chunks : List Bytes)
    (cutShort : Option DeliveryFailure) :
    read limit chunks cutShort =
      if chunks.flatten.length ≤ limit then cutShort.elim (.ok chunks.flatten) .error
      else .error (.tooLarge limit) := by
  have htake := exists_takeAll?_iff hlimit (empty limit) chunks
  have hempty : (empty limit).kept = [] := rfl
  rw [hempty, List.length_nil, Nat.zero_add] at htake
  unfold read
  cases hfound : (empty limit).takeAll? chunks with
  | none =>
    have hover : ¬ chunks.flatten.length ≤ limit := by
      rw [← htake, hfound]
      simp
    rw [if_neg hover]
  | some found =>
    rw [if_pos (htake.mp ⟨found, hfound⟩)]
    cases cutShort with
    | none => exact congrArg Except.ok ((kept_of_takeAll? hfound).trans (List.nil_append _))
    | some failure => rfl

/-- A total that cannot be counted is over the limit. -/
theorem over_of_addLengths?_eq_none (hlimit : limit < UInt64.size) {m n : Nat}
    (h : addLengths? m n = none) : limit < m + n := by
  refine Nat.lt_of_not_le fun hwithin => ?_
  rw [addLengths?_eq_some hlimit hwithin] at h
  cases h

/-- What is read of a body under a limit depends on its bytes alone. A body that is complete is read
if it is within the limit and too large if not, and one that is cut short by a failure ends with the
failure if what came of it is within the limit and is too large if not; so it does not matter where
the bytes were cut into chunks. Whichever chunks have been taken, what is kept are their bytes and no
more than the limit, and their count is a word; the next chunk cannot be counted only if it is too
large. -/
theorem read_eq_and_total_lt (limit : Nat) (hlimit : limit < UInt64.size) :
    (∀ chunks, read limit chunks none =
      if chunks.flatten.length ≤ limit then .ok chunks.flatten else .error (.tooLarge limit)) ∧
    (∀ chunks failure, read limit chunks (some failure) =
      .error (if limit < chunks.flatten.length then .tooLarge limit else failure)) ∧
    (∀ chunks chunks' cutShort status, chunks.flatten = chunks'.flatten →
      read limit chunks cutShort = read limit chunks' cutShort ∧
      Arrival.body limit ⟨status, chunks, cutShort⟩ =
        Arrival.body limit ⟨status, chunks', cutShort⟩) ∧
    ∀ taken (intake : Intake limit), (empty limit).takeAll? taken = some intake →
      intake.kept = taken.flatten ∧ intake.kept.length ≤ limit ∧
        intake.total = intake.kept.length ∧ intake.total < UInt64.size ∧
        ∀ chunk more cutShort, addLengths? intake.total chunk.length = none →
          read limit (taken ++ chunk :: more) cutShort = .error (.tooLarge limit) := by
  refine ⟨fun chunks => read_eq hlimit chunks none, fun chunks failure => ?_,
    fun chunks chunks' cutShort status hbytes => ?_, fun taken intake htaken => ?_⟩
  · rw [read_eq hlimit]
    by_cases hwithin : chunks.flatten.length ≤ limit
    · rw [if_pos hwithin, if_neg (Nat.not_lt.mpr hwithin)]
      rfl
    · rw [if_neg hwithin, if_pos (Nat.not_le.mp hwithin)]
  · have hread : read limit chunks cutShort = read limit chunks' cutShort := by
      rw [read_eq hlimit, read_eq hlimit, hbytes]
    exact ⟨hread, by rw [Arrival.body, Arrival.body, hread]⟩
  · have hkept : intake.kept = taken.flatten := (kept_of_takeAll? htaken).trans (List.nil_append _)
    refine ⟨hkept, intake.counts ▸ intake.fits, intake.counts,
      Nat.lt_of_le_of_lt intake.fits hlimit, fun chunk more cutShort hnone => ?_⟩
    have hover : ¬ (taken ++ chunk :: more).flatten.length ≤ limit := by
      have hsum := over_of_addLengths?_eq_none hlimit hnone
      rw [intake.counts, hkept] at hsum
      rw [List.flatten_append, List.flatten_cons, List.length_append, List.length_append]
      omega
    rw [read_eq hlimit, if_neg hover]

/-- Four bytes are read under a limit of four, however they are cut, and five are too many. -/
theorem read_eq_and_total_lt_of_four :
    read 4 [[1], [], [2, 3, 4]] none = .ok [1, 2, 3, 4] ∧
      read 4 [[1, 2], [3, 4]] none = .ok [1, 2, 3, 4] ∧
      read 4 [[1, 2, 3, 4], [5]] (some .timeout) = .error (.tooLarge 4) ∧
      read 4 [[1, 2, 3, 4]] (some .timeout) = .error .timeout := by
  obtain ⟨hread, hfailed, hsame, -⟩ := read_eq_and_total_lt 4 (by decide)
  have hwhole := hread [[1], [], [2, 3, 4]]
  have hother := (hsame [[1, 2], [3, 4]] [[1], [], [2, 3, 4]] none 200 rfl).1
  exact ⟨hwhole, hother.trans hwhole, hfailed _ _, hfailed _ _⟩

end Intake

end ToolGateway
