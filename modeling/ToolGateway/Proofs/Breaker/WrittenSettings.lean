import Mathlib.Algebra.Group.Nat.Defs
import ToolGateway.Breaker.Settings
import ToolGateway.Proofs.Json.Members
import ToolGateway.Proofs.Json.Names

/-!
# Written breaker settings

Which texts give breaker settings, and which settings they give, said of the grammar of JSON: a
field is missing, null or the digits of a word, and a field that gives no positive number leaves
the standard one.

Of the texts that are objects, those give settings whose names have no half of a pair of surrogates
and whose two fields are well written (`parse?_object_iff_and_positive`). Settings are meant to be
absent, blank, null or an object, but arrays of at most two fields are read too, and nothing else
is (`parse?_irregular_iff`).
-/

namespace ToolGateway.Breaker.Settings

open Json (Document Piece natOfDigits)
open Json.Document (NamesDecode valuesOf)

/-! ## Fields -/

/-- What a field gives that may hold a word of so many bits: nothing where it is missing or null,
and else its number, which is written in digits alone. -/
inductive Gives (bits : Nat) : List Document → Option Nat → Prop
  | missing : Gives bits [] none
  | null : Gives bits [.null] none
  | number {digits : List Nat} (h : natOfDigits digits < 2 ^ bits) :
    Gives bits [.number ⟨false, digits, [], none⟩] (some (natOfDigits digits))

/-- The number that is used: the one that is given if it is positive, else the standard one. -/
def effective : Option Nat → Nat → Nat
  | some (n + 1), _ => n + 1
  | _, standard => standard

/-- The settings that the values of the two fields give. -/
def FieldsGive (threshold seconds : List Document) (s : Settings) : Prop :=
  ∃ failures duration, Gives 32 threshold failures ∧ Gives 64 seconds duration ∧
    s = ⟨effective failures 5, effective duration 30 * Time.second⟩

/-- A field is written once. -/
theorem Gives.length_le {bits : Nat} {values : List Document} {given : Option Nat}
    (h : Gives bits values given) : values.length ≤ 1 := by
  cases h <;> simp

/-- Only digits alone are a whole number that is not negative. -/
theorem exists_of_whole? {literal : Json.Literal} {i : Int} (h : literal.whole? = some i)
    (hi : 0 ≤ i) : ∃ digits, literal = ⟨false, digits, [], none⟩ ∧ i = natOfDigits digits := by
  obtain ⟨negative, whole, fraction, exponent⟩ := literal
  unfold Json.Literal.whole? at h
  split at h
  · cases h
  · next hplain =>
    obtain ⟨rfl, rfl⟩ := by simpa using hplain
    dsimp only at h
    split at h
    · split at h
      · cases h
      · obtain rfl := Option.some.inj h
        omega
    · next hpositive =>
      obtain rfl := Option.some.inj h
      obtain rfl : negative = false := by simpa using hpositive
      exact ⟨whole, rfl, rfl⟩

/-- A word is a literal of digits alone. -/
theorem word?_eq_some_iff {bits n : Nat} {d : Document} :
    d.word? bits = some n ↔
      ∃ digits, d = .number ⟨false, digits, [], none⟩ ∧ natOfDigits digits < 2 ^ bits ∧
        n = natOfDigits digits := by
  have hpow : 0 < 2 ^ bits := Nat.two_pow_pos bits
  have hbound : Nat.pow 2 bits = 2 ^ bits := rfl
  constructor
  · intro h
    cases d with
    | number literal =>
      obtain ⟨i, hi, rfl⟩ := Option.map_eq_some_iff.mp h
      obtain ⟨hwhole, hrange⟩ := Option.filter_eq_some_iff.mp hi
      rw [decide_eq_true_eq, hbound] at hrange
      obtain ⟨digits, rfl, rfl⟩ := exists_of_whole? hwhole hrange.1
      exact ⟨digits, rfl, by omega, rfl⟩
    | _ => simp [Document.word?, Document.integer?] at h
  · rintro ⟨digits, rfl, hlt, rfl⟩
    have hrange : (0 : Int) ≤ natOfDigits digits ∧
        (natOfDigits digits : Int) ≤ (Nat.pow 2 bits - 1 : Nat) := by
      rw [hbound]
      omega
    have hwhole : (Json.Literal.mk false digits [] none).whole? = some (natOfDigits digits : Int) :=
      rfl
    rw [Document.word?, Document.integer?, hwhole, Option.filter_some,
      if_pos (decide_eq_true hrange)]
    rfl

/-- A field that is read gives what its value gives. -/
theorem withDefault_eq_some_iff {bits : Nat} {r : Record Document} {key : String}
    {given : Option Nat} :
    r.withDefault key none (Document.orNull (·.word? bits)) = some given ↔
      Gives bits (r.find? key).toList given := by
  refine Json.Document.withDefault_eq_some_iff (fun given => ?_) fun d given => ?_
  · constructor
    · rintro ⟨⟩
      rfl
    · rintro rfl
      exact .missing
  · rw [Json.Document.orNull_eq_some_iff rfl]
    constructor
    · rintro (⟨rfl, rfl⟩ | ⟨n, hn, rfl⟩)
      · exact .null
      · obtain ⟨digits, rfl, hlt, rfl⟩ := word?_eq_some_iff.mp hn
        exact .number hlt
    · rintro (_ | _ | hlt)
      · exact Or.inl ⟨rfl, rfl⟩
      · exact Or.inr ⟨_, word?_eq_some_iff.mpr ⟨_, rfl, hlt, rfl⟩, rfl⟩

/-- The settings of two numbers that may be missing. -/
theorem ofFields_eq (failures duration : Option Nat) :
    ofFields failures duration = ⟨effective failures 5, effective duration 30 * Time.second⟩ := by
  have hthreshold : positiveOr standard.threshold failures = effective failures 5 := by
    rcases failures with _ | _ | n <;> rfl
  have hblackout : ((duration.filter (0 < ·)).map (· * Time.second)).getD standard.blackout =
      effective duration 30 * Time.second := by
    rcases duration with _ | _ | n <;> rfl
  rw [ofFields, hthreshold, hblackout]

/-! ## Documents -/

/-- The settings of a document that is not null are those of its two fields. -/
theorem ofDocument?_eq_some_iff {d : Document} (hnull : d ≠ .null) {s : Settings} :
    ofDocument? d = some s ↔ ∃ r, d.record? Json.maxDepth fieldNames = some r ∧
      FieldsGive (r.find? "fail_threshold").toList (r.find? "open_duration_s").toList s := by
  have hread : ofDocument? d = (d.record? Json.maxDepth fieldNames).bind fun r =>
      (r.withDefault "fail_threshold" none (Document.orNull (·.word? 32))).bind fun threshold =>
        (r.withDefault "open_duration_s" none (Document.orNull (·.word? 64))).bind fun seconds =>
          some (ofFields threshold seconds) := by
    cases d with
    | null => exact absurd rfl hnull
    | _ => rfl
  simp only [hread, Option.bind_eq_some_iff, withDefault_eq_some_iff, ofFields_eq, FieldsGive,
    Option.some.injEq]
  constructor
  · rintro ⟨r, hr, failures, hfailures, duration, hduration, rfl⟩
    exact ⟨r, hr, failures, duration, hfailures, hduration, rfl⟩
  · rintro ⟨r, hr, failures, duration, hfailures, hduration, rfl⟩
    exact ⟨r, hr, failures, hfailures, duration, hduration, rfl⟩

/-- The settings of an object are those of the members that its field names stand for. -/
theorem ofDocument?_object_iff {members : List (List Piece × Document)} {s : Settings} :
    ofDocument? (.object members) = some s ↔ NamesDecode members ∧
      FieldsGive (valuesOf "fail_threshold" members) (valuesOf "open_duration_s" members) s := by
  rw [ofDocument?_eq_some_iff (by simp)]
  constructor
  · rintro ⟨r, hr, hgive⟩
    obtain ⟨hdecode, hfields⟩ := Json.Document.record?_object_eq_some hr
    rw [hfields _ (by decide), hfields _ (by decide)] at hgive
    exact ⟨hdecode, hgive⟩
  · rintro ⟨hdecode, hgive⟩
    have ⟨_, _, hfailures, hduration, _⟩ := hgive
    have hone : ∀ key ∈ fieldNames, (valuesOf key members).length ≤ 1 := by
      intro key hkey
      simp only [fieldNames, List.mem_cons, List.not_mem_nil, or_false] at hkey
      rcases hkey with rfl | rfl
      · exact hfailures.length_le
      · exact hduration.length_le
    have hdepth : Json.maxDepth ≠ 0 := by decide
    obtain ⟨r, hr⟩ := Json.Document.exists_record?_object hdepth hdecode hone
    obtain ⟨-, hfields⟩ := Json.Document.record?_object_eq_some hr
    refine ⟨r, hr, ?_⟩
    rwa [hfields _ (by decide), hfields _ (by decide)]

/-- Those of an array are those of its items, of which there are at most two. -/
theorem ofDocument?_array_iff {items : List Document} {s : Settings} :
    ofDocument? (.array items) = some s ↔ FieldsGive (items.take 1) (items.drop 1) s := by
  rw [ofDocument?_eq_some_iff (by simp)]
  match items with
  | [] | [_] | [_, _] =>
    simp [Document.record?, fieldNames, Json.maxDepth, Record.ofItems, Record.find?]
  | _ :: _ :: _ :: _ =>
    constructor
    · rintro ⟨r, hr, -⟩
      simp [Document.record?, fieldNames] at hr
    · rintro ⟨_, _, -, hduration, -⟩
      have := hduration.length_le
      simp at this

/-- Other documents have no settings. -/
theorem of_ofDocument? {d : Document} {s : Settings} (h : ofDocument? d = some s) :
    d = .null ∨ (∃ members, d = .object members) ∨ ∃ items, d = .array items := by
  cases d with
  | null => exact Or.inl rfl
  | object members => exact Or.inr (Or.inl ⟨members, rfl⟩)
  | array items => exact Or.inr (Or.inr ⟨items, rfl⟩)
  | _ =>
    obtain ⟨r, hr, -⟩ := (ofDocument?_eq_some_iff (by simp)).mp h
    cases hr

/-! ## Texts -/

/-- A text that is spelled by a document gives the settings of the document. -/
theorem parse?_of_spelledBy {text : String} {d : Document}
    (h : d.SpelledBy (Text.Utf8.encode (Text.trim text))) :
    parse? (some text) = ofDocument? d := by
  have hne : Text.trim text ≠ "" := by
    intro hempty
    rw [hempty] at h
    exact h.ne_nil rfl
  have hkept : ((some text).map Text.trim).filter (· ≠ "") = some (Text.trim text) := by
    rw [Option.map_some, Option.filter_some, if_pos (decide_eq_true hne)]
  rw [parse?, hkept]
  dsimp only
  rw [Json.Document.parse?_eq_some_iff.mpr h, Option.bind_some]

/-- A text that gives settings is absent, blank, or spelled by a document that has them. -/
theorem of_parse? {text : Option String} {s : Settings} (h : parse? text = some s) :
    (∀ written ∈ text, Text.trim written = "") ∧ s = standard ∨
      ∃ written d, text = some written ∧ d.SpelledBy (Text.Utf8.encode (Text.trim written)) ∧
        ofDocument? d = some s := by
  unfold parse? at h
  split at h
  · next hnone =>
    refine Or.inl ⟨fun written hwritten => ?_, (Option.some.inj h).symm⟩
    obtain rfl := hwritten
    simpa using hnone
  · next trimmed hsome =>
    obtain ⟨d, hd, hs⟩ := Option.bind_eq_some_iff.mp h
    obtain ⟨hmap, -⟩ := Option.filter_eq_some_iff.mp hsome
    obtain ⟨written, rfl, rfl⟩ := Option.map_eq_some_iff.mp hmap
    exact Or.inr ⟨written, d, rfl, Json.Document.parse?_eq_some_iff.mp hd, hs⟩

/-- The forms in which settings are meant to come: no text, a blank one, null, or an object. -/
inductive IsRegular : Option String → Prop
  | absent : IsRegular none
  | blank {text : String} (h : Text.trim text = "") : IsRegular (some text)
  | null {text : String} (h : Document.null.SpelledBy (Text.Utf8.encode (Text.trim text))) :
    IsRegular (some text)
  | object {text : String} {members : List (List Piece × Document)}
    (h : (Document.object members).SpelledBy (Text.Utf8.encode (Text.trim text))) :
    IsRegular (some text)

/-- A text in one of these forms is no array. -/
theorem IsRegular.not_array {text : String} {items : List Document} (h : IsRegular (some text)) :
    ¬ (Document.array items).SpelledBy (Text.Utf8.encode (Text.trim text)) := by
  intro harray
  have hparse := Json.Document.parse?_eq_some_iff.mpr harray
  cases h with
  | blank hblank =>
    rw [hblank] at harray
    exact harray.ne_nil rfl
  | null hnull =>
    rw [Json.Document.parse?_eq_some_iff.mpr hnull] at hparse
    cases hparse
  | object hobject =>
    rw [Json.Document.parse?_eq_some_iff.mpr hobject] at hparse
    cases hparse

/-- Of the texts in no such form those give settings that are arrays of at most two fields: the
first is the threshold, the second the blackout. -/
theorem parse?_irregular_iff (text : Option String) (s : Settings) :
    parse? text = some s ∧ ¬ IsRegular text ↔
      ∃ written items, text = some written ∧
        (Document.array items).SpelledBy (Text.Utf8.encode (Text.trim written)) ∧
        FieldsGive (items.take 1) (items.drop 1) s := by
  constructor
  · rintro ⟨hparse, hirregular⟩
    rcases of_parse? hparse with ⟨hblank, -⟩ | ⟨written, d, rfl, hspelled, hs⟩
    · cases text with
      | none => exact absurd .absent hirregular
      | some written => exact absurd (.blank (hblank written rfl)) hirregular
    · rcases of_ofDocument? hs with rfl | ⟨members, rfl⟩ | ⟨items, rfl⟩
      · exact absurd (.null hspelled) hirregular
      · exact absurd (.object hspelled) hirregular
      · exact ⟨written, items, rfl, hspelled, ofDocument?_array_iff.mp hs⟩
  · rintro ⟨written, items, rfl, hspelled, hgive⟩
    refine ⟨?_, fun hregular => hregular.not_array hspelled⟩
    rw [parse?_of_spelledBy hspelled]
    exact ofDocument?_array_iff.mpr hgive

example : parse? (some "[3,10]") = some ⟨3, 10 * Time.second⟩ := by decide +kernel

/-- Numbers that are used are positive if the standard one is. -/
theorem effective_pos (given : Option Nat) {standard : Nat} (h : 0 < standard) :
    0 < effective given standard := by
  rcases given with _ | _ | n
  · exact h
  · exact h
  · exact Nat.succ_pos n

/-- Settings of two fields have a threshold, and a blackout of a second or more. -/
theorem FieldsGive.positive {threshold seconds : List Document} {s : Settings}
    (h : FieldsGive threshold seconds s) : 1 ≤ s.threshold ∧ Time.second ≤ s.blackout := by
  obtain ⟨failures, duration, -, -, rfl⟩ := h
  exact ⟨effective_pos failures (by decide),
    Nat.le_mul_of_pos_left _ (effective_pos duration (by decide))⟩

/-- All settings that are read have. -/
theorem positive_of_parse? {text : Option String} {s : Settings} (h : parse? text = some s) :
    1 ≤ s.threshold ∧ Time.second ≤ s.blackout := by
  have hstandard : 1 ≤ standard.threshold ∧ Time.second ≤ standard.blackout := by decide
  rcases of_parse? h with ⟨-, rfl⟩ | ⟨written, d, rfl, -, hs⟩
  · exact hstandard
  · rcases of_ofDocument? hs with rfl | ⟨members, rfl⟩ | ⟨items, rfl⟩
    · exact Option.some.inj hs ▸ hstandard
    · exact (ofDocument?_object_iff.mp hs).2.positive
    · exact (ofDocument?_array_iff.mp hs).positive

/-- A text that is a JSON object gives settings if no name in it has half of a pair of surrogates
and each of the two fields is missing, null or a word, and then it gives those of its fields.
Settings are never empty: whatever text they are read from, they have a threshold and a blackout. -/
theorem parse?_object_iff_and_positive :
    (∀ (text : String) (members : List (List Piece × Document)),
      (Document.object members).SpelledBy (Text.Utf8.encode text) →
      ∀ s, parse? (some text) = some s ↔ (∀ member ∈ members, Piece.PairUp member.1) ∧
        FieldsGive (valuesOf "fail_threshold" members) (valuesOf "open_duration_s" members) s) ∧
    ∀ (text : Option String) (s : Settings), parse? text = some s →
      1 ≤ s.threshold ∧ Time.second ≤ s.blackout := by
  constructor
  · intro text members hspelled s
    have hnames : NamesDecode members ↔ ∀ member ∈ members, Piece.PairUp member.1 :=
      forall₂_congr fun _ hmember => Json.isSome_text?_name_iff hspelled hmember
    rw [parse?_of_spelledBy hspelled.trim, ofDocument?_object_iff, hnames]
  · intro text s hparse
    exact positive_of_parse? hparse

/-- Names may be written with escapes. -/
theorem parse?_object_iff_and_positive_of_escaped_name :
    parse? (some "\x7b\"fail\\u005fthreshold\":2,\"x\":[]\x7d") = some ⟨2, 30 * Time.second⟩ := by
  let name : List Piece := [.byte 0x66, .byte 0x61, .byte 0x69, .byte 0x6C, .unit 0x5F, .byte 0x74,
    .byte 0x68, .byte 0x72, .byte 0x65, .byte 0x73, .byte 0x68, .byte 0x6F, .byte 0x6C, .byte 0x64]
  let members : List (List Piece × Document) :=
    [(name, .number ⟨false, [2], [], none⟩), ([.byte 0x78], .array [])]
  have hspelled : (Document.object members).SpelledBy
      (Text.Utf8.encode "\x7b\"fail\\u005fthreshold\":2,\"x\":[]\x7d") :=
    .of_tokens? (by decide +kernel)
  have hname : Json.text? name = some "fail_threshold" := by decide +kernel
  have hother : Json.text? [.byte 0x78] = some "x" := by decide +kernel
  have hthreshold : valuesOf "fail_threshold" members = [.number ⟨false, [2], [], none⟩] := by
    simp [members, valuesOf, hname, hother]
  have hseconds : valuesOf "open_duration_s" members = [] := by
    simp [members, valuesOf, hname, hother]
  apply (parse?_object_iff_and_positive.1 _ members hspelled _).mpr
  have hdecode : NamesDecode members := by unfold NamesDecode; decide +kernel
  rw [hthreshold, hseconds]
  exact ⟨fun member hmember =>
      (Json.isSome_text?_name_iff hspelled hmember).mp (hdecode member hmember),
    some 2, none, .number (by decide), .missing, rfl⟩

/-- An object may have a name with half of a pair of surrogates. It gives no settings, although
neither field is written. -/
theorem parse?_of_lone_surrogate :
    (Document.object [([.unit 0xD800], .number ⟨false, [1], [], none⟩)]).SpelledBy
        (Text.Utf8.encode "\x7b\"\\ud800\":1\x7d") ∧
      valuesOf "fail_threshold" [([.unit 0xD800], .number ⟨false, [1], [], none⟩)] = [] ∧
      valuesOf "open_duration_s" [([.unit 0xD800], .number ⟨false, [1], [], none⟩)] = [] ∧
      parse? (some "\x7b\"\\ud800\":1\x7d") = none := by
  have hname : Json.text? [.unit 0xD800] = none := by decide +kernel
  refine ⟨.of_tokens? (by decide +kernel), ?_, ?_, by decide +kernel⟩
  · simp [valuesOf, hname]
  · simp [valuesOf, hname]

end ToolGateway.Breaker.Settings
