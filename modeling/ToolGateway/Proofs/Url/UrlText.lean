import ToolGateway.Proofs.Url.HostText
import ToolGateway.Proofs.Url.Segment
import ToolGateway.Url.Parse

/-!
# URLs of the web are read back

A URL of the web that has no name, no password, no query and no fragment is canonical if its host
is proper, its `portNumber` is not the one that the scheme implies, and its segments are escaped
and move nowhere. Reading a canonical URL from its text gives the same URL (`parse?_render`), so
nobody who reads the text can take a part of the path for a part of the authority.
-/

namespace ToolGateway.Url

open Text

/-! ## Segments -/

/-- A character that a path may hold within a segment. -/
def IsPathChar (c : Char) : Prop :=
  c.toNat < 0x80 ∧ escapedInPath (UInt8.ofNat c.toNat) = false ∧ c ≠ '/' ∧ c ≠ '\\'

/-- A segment as it is kept: escaped, without slashes, and neither a dot nor two. -/
structure IsKept (segment : String) : Prop where
  chars : ∀ c ∈ segment.toList, IsPathChar c
  here : isDot segment = false
  up : isDotDot segment = false

/-- The characters of a path are visible and end neither a segment nor the path. -/
theorem IsPathChar.visible {c : Char} (h : IsPathChar c) :
    0x20 < c.toNat ∧ isSlash .special c = false ∧ endsPath c = false := by
  obtain ⟨hascii, hplain, hslash, hbackslash⟩ := h
  have hall : ∀ n < 0x80, escapedInPath (UInt8.ofNat n) = false →
      0x20 < n ∧ Char.ofNat n ≠ '?' ∧ Char.ofNat n ≠ '#' := by decide
  obtain ⟨hvisible, hquery, hfragment⟩ := hall _ hascii hplain
  rw [Char.ofNat_toNat] at hquery hfragment
  refine ⟨hvisible, ?_, ?_⟩
  · simp [isSlash, hslash, hbackslash]
  · simp [endsPath, hquery, hfragment]

/-- Visible characters are not ignored. -/
theorem isIgnored_of_lt {c : Char} (h : 0x20 < c.toNat) : isIgnored c = false := by
  have hne (d : Char) (hd : d.toNat ≤ 0x20) : c ≠ d := by
    rintro rfl
    omega
  simp [isIgnored, hne '\t' (by decide), hne '\n' (by decide), hne '\r' (by decide)]

/-- Visible characters are kept. -/
theorem withoutIgnored_of_visible {cs : List Char} (h : ∀ c ∈ cs, 0x20 < c.toNat) :
    withoutIgnored cs = cs := by
  apply List.filter_eq_self.mpr
  intro c hc
  simp [isIgnored_of_lt (h c hc)]

/-- Bytes of which none is escaped stay as they are. -/
theorem encode_of_plain {escaped : UInt8 → Bool} {bytes : Bytes}
    (h : ∀ b ∈ bytes, escaped b = false) : Percent.encode escaped bytes = bytes := by
  induction bytes with
  | nil => rfl
  | cons b bytes ih =>
    obtain ⟨hb, hmore⟩ := List.forall_mem_cons.mp h
    rw [Percent.encode, List.flatMap_cons, hb, ← Percent.encode, ih hmore]
    rfl

/-- A kept segment is not escaped again. -/
theorem escapeText_of_isKept {segment : String} (h : IsKept segment) :
    escapeText escapedInPath segment.toList = segment := by
  have hascii : ∀ c ∈ segment.toList, c.toNat < 0x80 := fun c hc => (h.chars c hc).1
  have hplain : ∀ b ∈ Utf8.encodeChars segment.toList, escapedInPath b = false := by
    intro b hb
    rw [Utf8.encodeChars_of_ascii hascii] at hb
    obtain ⟨c, hc, rfl⟩ := List.mem_map.mp hb
    exact (h.chars c hc).2.1
  rw [escapeText, withoutIgnored_of_visible fun c hc => (h.chars c hc).visible.1,
    encode_of_plain hplain, Utf8.map_ofNat_encodeChars hascii, String.ofList_toList]

/-- An ASCII byte of an escaped text that is no part of an escape stands for itself. -/
theorem of_mem_encode_of_ne {escaped : UInt8 → Bool} {cs : List Char} {b : UInt8}
    (h : b ∈ Percent.encode escaped (Utf8.encodeChars cs)) (hascii : b < 0x80)
    (hsign : b ≠ Percent.sign) (hdigit : ∀ n < 16, b ≠ Percent.digitCode n) :
    escaped b = false ∧ Char.ofNat b.toNat ∈ cs := by
  obtain ⟨c, hc, hb⟩ := List.mem_flatMap.mp h
  have hlt : c.toNat < 256 := UInt8.toNat_lt c
  split at hb
  · simp only [Percent.escape, List.mem_cons, List.not_mem_nil, or_false] at hb
    rcases hb with rfl | rfl | rfl
    · exact absurd rfl hsign
    · exact absurd rfl (hdigit _ (by omega))
    · exact absurd rfl (hdigit _ (by omega))
  · next hkept =>
    obtain rfl := List.mem_singleton.mp hb
    exact ⟨by simpa using hkept, Utf8.mem_of_mem_encodeChars hc hascii⟩

/-- What is escaped for a path, or more is, holds characters of a path only, if slashes are escaped
or not there. -/
theorem isPathChar_of_mem_escapeText {escaped : UInt8 → Bool} {cs : List Char}
    (hmore : ∀ b, escaped b = false → escapedInPath b = false)
    (hslash : escaped 0x2F = true ∨ '/' ∉ cs) (hbackslash : escaped 0x5C = true ∨ '\\' ∉ cs)
    {c : Char} (h : c ∈ (escapeText escaped cs).toList) : IsPathChar c := by
  rw [escapeText, String.toList_ofList, List.mem_map] at h
  obtain ⟨b, hb, rfl⟩ := h
  have hplain : escapedInPath b = false := by
    rcases Percent.mem_encode hb with hkept | rfl | ⟨n, hn, rfl⟩
    · exact hmore b hkept
    · decide
    · exact (by decide : ∀ n < 16, escapedInPath (Percent.digitCode n) = false) n hn
  have hascii : b.toNat < 0x80 := by
    simp only [escapedInPath, escapedInFragment, escapedInHost, Bool.or_eq_false_iff,
      decide_eq_false_iff_not] at hplain
    exact Nat.lt_trans (UInt8.not_le.mp hplain.1.1.2) (by decide : 0x7F < 0x80)
  have hne (d : UInt8) (hsign : d ≠ Percent.sign) (hdigit : ∀ n < 16, d ≠ Percent.digitCode n)
      (habsent : escaped d = true ∨ Char.ofNat d.toNat ∉ cs) :
      Char.ofNat b.toNat ≠ Char.ofNat d.toNat := by
    intro hchar
    obtain rfl : b = d := by
      rw [← UInt8.toNat_inj, ← Utf8.toNat_ofNat b, hchar, Utf8.toNat_ofNat]
    obtain ⟨hkept, hmem⟩ := of_mem_encode_of_ne hb hascii hsign hdigit
    rcases habsent with hescaped | habsent
    · rw [hkept] at hescaped
      cases hescaped
    · exact habsent (List.mem_filter.mp hmem).1
  refine ⟨by rwa [Utf8.toNat_ofNat], ?_, hne 0x2F (by decide) (by decide) hslash,
    hne 0x5C (by decide) (by decide) hbackslash⟩
  rw [Utf8.toNat_ofNat, UInt8.ofNat_toNat]
  exact hplain

/-! ## Paths that are read -/

/-- The parts into which a path is cut hold nothing at which it is cut. -/
theorem of_cutSegments {begun cs : List Char} {parts : List (List Char)} {rest : List Char}
    (hbegun : '/' ∉ begun ∧ '\\' ∉ begun) (h : cutSegments .special begun cs = (parts, rest)) :
    ∀ part ∈ parts, '/' ∉ part ∧ '\\' ∉ part := by
  have hone {begun : List Char} (h : '/' ∉ begun ∧ '\\' ∉ begun) :
      ∀ part ∈ [begun.reverse], '/' ∉ part ∧ '\\' ∉ part := by simpa using h
  fun_induction cutSegments .special begun cs generalizing parts rest with
  | case1 begun =>
    obtain ⟨rfl, -⟩ := Prod.mk.inj h
    exact hone hbegun
  | case2 begun c cs hslash more after hmore ih =>
    obtain ⟨rfl, -⟩ := Prod.mk.inj h
    exact List.forall_mem_cons.mpr ⟨hone hbegun _ List.mem_cons_self, ih (by simp) hmore⟩
  | case3 begun c cs hslash hends =>
    obtain ⟨rfl, -⟩ := Prod.mk.inj h
    exact hone hbegun
  | case4 begun c cs hslash hends ih =>
    have hc : c ≠ '/' ∧ c ≠ '\\' := by simpa [isSlash, Kind.isSpecial] using hslash
    have hlonger : '/' ∉ c :: begun ∧ '\\' ∉ c :: begun := by
      simp [hbegun, hc.1.symm, hc.2.symm]
    exact ih hlonger h

/-- The empty segment is kept. -/
theorem isKept_empty : IsKept "" := ⟨by simp, by decide +kernel, by decide +kernel⟩

/-- A segment that is added to kept ones leaves kept ones, if it holds characters of a path. -/
theorem isKept_addSegment {done : List String} {segment : String} (hdone : ∀ s ∈ done, IsKept s)
    (hchars : ∀ c ∈ segment.toList, IsPathChar c) (isLast : Bool) :
    ∀ s ∈ addSegment done segment isLast, IsKept s := by
  have hdrop : ∀ s ∈ dropLastSegment done, IsKept s := by
    intro s hs
    unfold dropLastSegment at hs
    split at hs
    · cases hs
    · split at hs
      · exact hdone s hs
      · exact hdone s (List.mem_cons_of_mem _ hs)
  unfold addSegment
  split
  · split
    · exact List.forall_mem_cons.mpr ⟨isKept_empty, hdrop⟩
    · exact hdrop
  · next hup =>
    split
    · split
      · exact List.forall_mem_cons.mpr ⟨isKept_empty, hdone⟩
      · exact hdone
    · next hhere =>
      exact List.forall_mem_cons.mpr ⟨⟨hchars, by simpa using hhere, by simpa using hup⟩, hdone⟩

/-- So do all parts of a path. -/
theorem isKept_addSegments {done : List String} {parts : List (List Char)}
    (hdone : ∀ s ∈ done, IsKept s) (hparts : ∀ part ∈ parts, '/' ∉ part ∧ '\\' ∉ part) :
    ∀ s ∈ addSegments done parts, IsKept s := by
  induction parts generalizing done with
  | nil => exact hdone
  | cons part parts ih =>
    obtain ⟨⟨hslash, hbackslash⟩, hmore⟩ := List.forall_mem_cons.mp hparts
    have hchars : ∀ c ∈ (escapeText escapedInPath part).toList, IsPathChar c := fun c hc =>
      isPathChar_of_mem_escapeText (fun _ h => h) (Or.inr hslash) (Or.inr hbackslash) hc
    exact ih (isKept_addSegment hdone hchars _) hmore

/-- Under a scheme of the web every path has segments. -/
theorem exists_readSegments {cs : List Char} {found : List String × List Char}
    (h : readPath .special cs = found) : ∃ cs', readSegments .special cs' = found := by
  unfold readPath at h
  split at h
  · rw [if_pos (by decide)] at h
    exact ⟨_, h⟩
  · split at h
    · exact ⟨_, h⟩
    · rw [if_neg (by simp [Kind.isSpecial])] at h
      exact ⟨_, h⟩

/-- The segments of a path that is read are kept ones. -/
theorem isKept_of_readPath {cs rest : List Char} {segments : List String}
    (h : readPath .special cs = (segments, rest)) : ∀ s ∈ segments, IsKept s := by
  obtain ⟨cs, h⟩ := exists_readSegments h
  obtain ⟨rfl, -⟩ := Prod.mk.inj h
  intro s hs
  exact isKept_addSegments (by simp) (of_cutSegments (by simp) rfl) s (List.mem_reverse.mp hs)

/-- The end of a path leaves a segment. -/
theorem addSegment_last_ne_nil (done : List String) (segment : String) :
    addSegment done segment true ≠ [] := by
  unfold addSegment
  split
  · simp
  · split <;> simp

/-- So there are segments wherever there are parts. -/
theorem addSegments_ne_nil {parts : List (List Char)} (hne : parts ≠ []) (done : List String) :
    addSegments done parts ≠ [] := by
  induction parts generalizing done with
  | nil => exact absurd rfl hne
  | cons part parts ih =>
    cases parts with
    | nil => exact addSegment_last_ne_nil _ _
    | cons next parts => exact ih (by simp) _

/-- Every path has a part. -/
theorem cutSegments_ne_nil (kind : Kind) (begun cs : List Char) :
    (cutSegments kind begun cs).1 ≠ [] := by
  fun_induction cutSegments kind begun cs with
  | case1 => simp
  | case2 => simp
  | case3 => simp
  | case4 _ _ _ _ _ ih => exact ih

/-- A path that is read has a segment. -/
theorem ne_nil_of_readPath {cs rest : List Char} {segments : List String}
    (h : readPath .special cs = (segments, rest)) : segments ≠ [] := by
  obtain ⟨cs, h⟩ := exists_readSegments h
  obtain ⟨rfl, -⟩ := Prod.mk.inj h
  simpa using addSegments_ne_nil (cutSegments_ne_nil .special [] cs) []

/-! ## Paths that are read back -/

/-- The characters of segments. -/
def segmentChars (segments : List String) : List Char :=
  segments.flatMap fun segment => '/' :: segment.toList

/-- They are those of the written path. -/
theorem toList_renderSegments (segments : List String) :
    (renderSegments segments).toList = segmentChars segments := by
  simp [renderSegments, segmentChars, String.toList_join, List.flatMap_map]

/-- A path is cut at a slash. -/
theorem cutSegments_append_cons {part : List Char}
    (hpart : ∀ c ∈ part, isSlash .special c = false ∧ endsPath c = false) (begun more : List Char) :
    cutSegments .special begun (part ++ '/' :: more) =
      ((begun.reverse ++ part) :: (cutSegments .special [] more).1,
        (cutSegments .special [] more).2) := by
  induction part generalizing begun with
  | nil => simp [cutSegments, isSlash]
  | cons c part ih =>
    obtain ⟨⟨hslash, hends⟩, hmore⟩ := List.forall_mem_cons.mp hpart
    rw [List.cons_append, cutSegments, if_neg (by simp [hslash]), if_neg (by simp [hends]),
      ih hmore]
    simp

/-- And nowhere else. -/
theorem cutSegments_of_plain {part : List Char}
    (hpart : ∀ c ∈ part, isSlash .special c = false ∧ endsPath c = false) (begun : List Char) :
    cutSegments .special begun part = ([begun.reverse ++ part], []) := by
  induction part generalizing begun with
  | nil => simp [cutSegments]
  | cons c part ih =>
    obtain ⟨⟨hslash, hends⟩, hmore⟩ := List.forall_mem_cons.mp hpart
    rw [cutSegments, if_neg (by simp [hslash]), if_neg (by simp [hends]), ih hmore]
    simp

/-- Kept segments are cut out of their path. -/
theorem cutSegments_segmentChars {segment : String} {segments : List String}
    (h : ∀ s ∈ segment :: segments, IsKept s) :
    cutSegments .special [] (segment.toList ++ segmentChars segments) =
      ((segment :: segments).map String.toList, []) := by
  induction segments generalizing segment with
  | nil =>
    have hplain := (List.forall_mem_cons.mp h).1
    rw [segmentChars, List.flatMap_nil, List.append_nil,
      cutSegments_of_plain fun c hc => (hplain.chars c hc).visible.2]
    rfl
  | cons next segments ih =>
    obtain ⟨hplain, hmore⟩ := List.forall_mem_cons.mp h
    rw [segmentChars, List.flatMap_cons, List.cons_append, ← segmentChars,
      cutSegments_append_cons fun c hc => (hplain.chars c hc).visible.2, ih hmore]
    rfl

/-- Kept segments are added as they are. -/
theorem addSegments_of_isKept {segments : List String} (h : ∀ s ∈ segments, IsKept s)
    (done : List String) :
    addSegments done (segments.map String.toList) = segments.reverse ++ done := by
  induction segments generalizing done with
  | nil => rfl
  | cons segment segments ih =>
    obtain ⟨hkept, hmore⟩ := List.forall_mem_cons.mp h
    rw [List.map_cons, addSegments, escapeText_of_isKept hkept, addSegment,
      if_neg (by simp [hkept.up]), if_neg (by simp [hkept.here]), ih hmore]
    simp

/-- A path of kept segments is read back. -/
theorem readPath_segmentChars {segments : List String} (hne : segments ≠ [])
    (h : ∀ s ∈ segments, IsKept s) :
    readPath .special (segmentChars segments) = (segments, []) := by
  obtain ⟨segment, more, rfl⟩ := List.exists_cons_of_ne_nil hne
  rw [segmentChars, List.flatMap_cons, List.cons_append, ← segmentChars, readPath,
    if_pos (by decide), readSegments, cutSegments_segmentChars h]
  dsimp only
  rw [addSegments_of_isKept h, List.append_nil, List.reverse_reverse]

/-! ## Authorities that are read back -/

/-- A character that an authority without a name may hold. -/
def IsAuthorityChar (c : Char) : Prop :=
  0x20 < c.toNat ∧ endsAuthority .special c = false ∧ c ≠ '@'

/-- What may stand in a domain name may stand in an authority, and it is no bracket or colon. -/
theorem isAuthorityChar_of_isForbiddenInDomain {c : Char} (h : isForbiddenInDomain c = false) :
    IsAuthorityChar c ∧ c ≠ ':' ∧ c ≠ '[' ∧ c ≠ ']' := by
  obtain ⟨hvisible, -, hplain⟩ := of_isForbiddenInDomain h
  have hne : c ≠ '#' ∧ c ≠ '/' ∧ c ≠ ':' ∧ c ≠ '?' ∧ c ≠ '@' ∧ c ≠ '[' ∧ c ≠ '\\' ∧ c ≠ ']' := by
    refine ⟨?_, ?_, ?_, ?_, ?_, ?_, ?_, ?_⟩ <;> rintro rfl <;> simp at hplain
  refine ⟨⟨hvisible, ?_, hne.2.2.2.2.1⟩, hne.2.2.1, hne.2.2.2.2.2.1, hne.2.2.2.2.2.2.2⟩
  simp [endsAuthority, isSlash, endsPath, hne]

/-- The text of groups holds hexadecimal digits and colons. -/
theorem of_mem_joinGroups {groups : List Nat} {c : Char} (h : c ∈ Address.joinGroups groups) :
    c = ':' ∨ ∃ d < 16, c = Nat.digitChar d := by
  have hdigit {g : Nat} (h : c ∈ Address.hexDigits g) : ∃ d < 16, c = Nat.digitChar d := by
    obtain ⟨digits, hdigits, hall, -⟩ := Text.exists_digits 16 (by decide) g
    rw [Address.hexDigits, hdigits] at h
    obtain ⟨d, hd, rfl⟩ := List.mem_map.mp h
    exact ⟨d, hall d hd, rfl⟩
  induction groups with
  | nil => simp [Address.joinGroups] at h
  | cons g groups ih =>
    cases groups with
    | nil =>
      rw [joinGroups_singleton] at h
      exact Or.inr (hdigit h)
    | cons next groups =>
      rw [joinGroups_cons_cons, List.mem_append, List.mem_cons] at h
      rcases h with h | h | h
      · exact Or.inr (hdigit h)
      · exact Or.inl h
      · exact ih h

/-- So does that of an address of version 6. -/
theorem of_mem_compressGroups {groups : List Nat} {c : Char}
    (h : c ∈ Address.compressGroups groups) : IsAuthorityChar c ∧ c ≠ '[' ∧ c ≠ ']' := by
  have hforms : c = ':' ∨ ∃ d < 16, c = Nat.digitChar d := by
    unfold Address.compressGroups at h
    dsimp only at h
    split at h
    · simp only [List.mem_append, List.mem_cons, List.not_mem_nil, or_false] at h
      rcases h with (h | h | h) | h
      · exact of_mem_joinGroups h
      · exact Or.inl h
      · exact Or.inl h
      · exact of_mem_joinGroups h
    · exact of_mem_joinGroups h
  unfold IsAuthorityChar
  rcases hforms with rfl | ⟨d, hd, rfl⟩
  · decide
  · exact (by decide : ∀ d < 16, (0x20 < (Nat.digitChar d).toNat ∧
      endsAuthority .special (Nat.digitChar d) = false ∧ Nat.digitChar d ≠ '@') ∧
        Nat.digitChar d ≠ '[' ∧ Nat.digitChar d ≠ ']') d hd

/-- What may follow a host within an authority: nothing, or a colon. -/
def FollowsHost (rest : List Char) : Prop := ∀ c ∈ rest.head?, c = ':'

/-- A host without brackets and colons is cut off. -/
theorem cutHost_of_plain {cs rest : List Char} (h : ∀ c ∈ cs, c ≠ ':' ∧ c ≠ '[' ∧ c ≠ ']')
    (hrest : FollowsHost rest) (begun : List Char) :
    cutHost false begun (cs ++ rest) = (begun.reverse ++ cs, rest) := by
  induction cs generalizing begun with
  | nil =>
    cases rest with
    | nil => simp [cutHost]
    | cons c rest =>
      obtain rfl := hrest c rfl
      simp [cutHost]
  | cons c cs ih =>
    obtain ⟨⟨hcolon, hopen, hclose⟩, hmore⟩ := List.forall_mem_cons.mp h
    rw [List.cons_append, cutHost, if_neg (by simp [hcolon]), if_neg hopen, if_neg hclose, ih hmore]
    simp

/-- Within brackets nothing is cut off. -/
theorem cutHost_of_brackets {cs : List Char} (h : ∀ c ∈ cs, c ≠ '[' ∧ c ≠ ']')
    (begun rest : List Char) :
    cutHost true begun (cs ++ ']' :: rest) = cutHost false (']' :: (cs.reverse ++ begun)) rest := by
  induction cs generalizing begun with
  | nil => simp [cutHost]
  | cons c cs ih =>
    obtain ⟨⟨hopen, hclose⟩, hmore⟩ := List.forall_mem_cons.mp h
    rw [List.cons_append, cutHost, if_neg (by simp), if_neg hopen, if_neg hclose, ih hmore]
    simp

/-- A proper host is cut off from what follows it. -/
theorem cutHost_render {host : Host} (h : host.IsProper) {rest : List Char}
    (hrest : FollowsHost rest) :
    cutHost false [] (host.render.toList ++ rest) = (host.render.toList, rest) := by
  have hplain {name : List Char} (h : IsPlainName name) :
      cutHost false [] (name ++ rest) = (name, rest) := by
    have hchars : ∀ c ∈ name, c ≠ ':' ∧ c ≠ '[' ∧ c ≠ ']' := fun c hc =>
      (isAuthorityChar_of_isForbiddenInDomain (h.plain c hc)).2
    exact cutHost_of_plain hchars hrest []
  cases h with
  | domain hname =>
    rw [Host.render, String.toList_ofList]
    exact hplain hname
  | v4 =>
    rw [Host.render, String.toList_ofList]
    exact hplain (isPlainName_ipv4 _)
  | v6 =>
    next groups _ =>
    have hnone : ∀ c ∈ ([] : List Char), c ≠ ':' ∧ c ≠ '[' ∧ c ≠ ']' := by simp
    have hgroups : ∀ c ∈ Address.compressGroups groups, c ≠ '[' ∧ c ≠ ']' := fun c hc =>
      (of_mem_compressGroups hc).2
    have hinside := cutHost_of_brackets hgroups ['['] rest
    have hbehind := cutHost_of_plain hnone hrest
      (']' :: ((Address.compressGroups groups).reverse ++ ['[']))
    rw [List.nil_append] at hbehind
    rw [hbehind] at hinside
    simpa [Host.render, cutHost] using hinside

/-- The characters of a proper host are those of an authority. -/
theorem isAuthorityChar_of_mem_render {host : Host} (h : host.IsProper) {c : Char}
    (hc : c ∈ host.render.toList) : IsAuthorityChar c := by
  have hplain {name : List Char} (h : IsPlainName name) (hc : c ∈ name) : IsAuthorityChar c :=
    (isAuthorityChar_of_isForbiddenInDomain (h.plain c hc)).1
  cases h with
  | domain hname =>
    rw [Host.render, String.toList_ofList] at hc
    exact hplain hname hc
  | v4 =>
    rw [Host.render, String.toList_ofList] at hc
    exact hplain (isPlainName_ipv4 _) hc
  | v6 =>
    simp only [Host.render, String.toList_append, String.toList_ofList, List.mem_append] at hc
    rcases hc with (hc | hc) | hc
    · obtain rfl : c = '[' := by simpa using hc
      unfold IsAuthorityChar
      decide
    · exact (of_mem_compressGroups hc).1
    · obtain rfl : c = ']' := by simpa using hc
      unfold IsAuthorityChar
      decide

/-- The text of a proper host is not empty. -/
theorem render_ne_nil {host : Host} (h : host.IsProper) : host.render.toList ≠ [] := by
  cases h with
  | domain hplain =>
    rw [Host.render, String.toList_ofList]
    exact hplain.ne
  | v4 =>
    rw [Host.render, String.toList_ofList]
    exact (isPlainName_ipv4 _).ne
  | v6 => simp [Host.render]

/-! ## Ports -/

/-- A `portNumber` is kept if it is one and not that of the scheme. -/
def IsKeptPort (scheme : String) (portNumber : Option Nat) : Prop :=
  ∀ n ∈ portNumber, n < 65536 ∧ defaultPort? scheme ≠ some n

/-- The characters of a `portNumber` behind its host. -/
def portChars : Option Nat → List Char
  | none => []
  | some n => ':' :: Nat.toDigits 10 n

/-- The value of digits is counted up to a bound. -/
theorem foldl_min (digits : List Nat) (value : Nat) :
    (digits.map Nat.digitChar).foldl (fun n c => min 65536 (n * 10 + (c.toNat - 0x30)))
        (min 65536 value) =
      min 65536
        ((digits.map Nat.digitChar).foldl (fun n c => n * 10 + (c.toNat - 0x30)) value) := by
  induction digits generalizing value with
  | nil => rfl
  | cons d digits ih =>
    rw [List.map_cons, List.foldl_cons, List.foldl_cons, ← ih]
    congr 1
    omega

/-- Digits are worth their values. -/
theorem foldl_digitChar {digits : List Nat} (h : ∀ d ∈ digits, d < 10) (value : Nat) :
    (digits.map Nat.digitChar).foldl (fun n c => n * 10 + (c.toNat - 0x30)) value =
      digits.foldl (fun value d => value * 10 + d) value := by
  induction digits generalizing value with
  | nil => rfl
  | cons d digits ih =>
    obtain ⟨hd, hmore⟩ := List.forall_mem_cons.mp h
    have hdigit : (Nat.digitChar d).toNat - 0x30 = d :=
      (by decide : ∀ d < 10, (Nat.digitChar d).toNat - 0x30 = d) d hd
    rw [List.map_cons, List.foldl_cons, List.foldl_cons, hdigit, ih hmore]

/-- A kept `portNumber` is read back. -/
theorem readPort?_toDigits {scheme : String} {n : Nat} (hn : n < 65536)
    (hother : defaultPort? scheme ≠ some n) :
    readPort? scheme (Nat.toDigits 10 n) = some (some n) := by
  obtain ⟨digits, hdigits, hall, -, hvalue⟩ := Text.exists_digits 10 (by decide) n
  have hdecimal : (Nat.toDigits 10 n).all Char.isDigit = true :=
    List.all_eq_true.mpr fun c hc => Nat.isDigit_of_mem_toDigits (by decide) (by decide) hc
  have hcount : (Nat.toDigits 10 n).foldl (fun n c => min 65536 (n * 10 + (c.toNat - 0x30))) 0 =
      n := by
    have hmin := foldl_min digits 0
    rw [foldl_digitChar hall, hvalue, ← hdigits] at hmin
    rw [Nat.min_eq_right (Nat.zero_le _), Nat.min_eq_right (Nat.le_of_lt hn)] at hmin
    exact hmin
  rw [readPort?, if_pos hdecimal]
  dsimp only
  rw [hcount, if_neg (Nat.ne_of_lt hn), if_neg]
  simp [Nat.toDigits_ne_nil, hother]

/-- A `portNumber` that is read is kept. -/
theorem isKeptPort_of_readPort? {scheme : String} {cs : List Char} {portNumber : Option Nat}
    (h : readPort? scheme cs = some portNumber) : IsKeptPort scheme portNumber := by
  have hbound (cs : List Char) (value : Nat) (hvalue : value ≤ 65536) :
      cs.foldl (fun n c => min 65536 (n * 10 + (c.toNat - 0x30))) value ≤ 65536 := by
    induction cs generalizing value with
    | nil => exact hvalue
    | cons c cs ih => exact ih _ (Nat.min_le_left _ _)
  unfold readPort? at h
  split at h
  · dsimp only at h
    split at h
    · cases h
    · next hin =>
      split at h
      · obtain rfl := Option.some.inj h
        simp [IsKeptPort]
      · next hother =>
        obtain rfl := Option.some.inj h
        intro n hn
        obtain rfl := Option.some.inj hn
        exact ⟨Nat.lt_of_le_of_ne (hbound cs 0 (by decide)) hin, (not_or.mp hother).2⟩
  · cases h

/-- A `portNumber` follows its host. -/
theorem followsHost_portChars (portNumber : Option Nat) : FollowsHost (portChars portNumber) := by
  cases portNumber <;> simp [FollowsHost, portChars]

/-- The characters of a `portNumber` are those of an authority, and no backslashes. -/
theorem of_mem_portChars {portNumber : Option Nat} {c : Char} (h : c ∈ portChars portNumber) :
    IsAuthorityChar c ∧ c ≠ '\\' := by
  unfold IsAuthorityChar
  cases portNumber with
  | none => cases h
  | some n =>
    rcases List.mem_cons.mp h with rfl | h
    · decide
    · obtain ⟨d, hd, rfl⟩ :=
        exists_of_isDigit (Nat.isDigit_of_mem_toDigits (by decide) (by decide) h)
      exact (by decide : ∀ d < 10, (0x20 < (Char.ofNat (0x30 + d)).toNat ∧
        endsAuthority .special (Char.ofNat (0x30 + d)) = false ∧ Char.ofNat (0x30 + d) ≠ '@') ∧
          Char.ofNat (0x30 + d) ≠ '\\') d hd

/-! ## Whole authorities -/

/-- A proper host is not empty. -/
theorem isEmpty_of_isProper {host : Host} (h : host.IsProper) : host.isEmpty = false := by
  cases h with
  | domain hplain =>
    have hne : String.ofList _ ≠ "" := fun h => hplain.ne (String.ofList_injective h)
    simpa [Host.isEmpty] using hne
  | v4 => rfl
  | v6 => rfl

/-- A host and its `portNumber` are read back. -/
theorem readAuthority?_render {scheme : String} (hkind : kindOf scheme = .special) {host : Host}
    (hhost : host.IsProper) (hshort : host.HasShortLabels) {portNumber : Option Nat}
    (hport : IsKeptPort scheme portNumber) (isLast : Bool) :
    readAuthority? scheme (host.render.toList ++ portChars portNumber) isLast =
      some (⟨"", none, host, portNumber⟩, []) := by
  have hchars : ∀ c ∈ host.render.toList ++ portChars portNumber, c ≠ '@' := by
    intro c hc
    rcases List.mem_append.mp hc with hc | hc
    · exact (isAuthorityChar_of_mem_render hhost hc).2.2
    · exact (of_mem_portChars hc).1.2.2
  have huser : cutUserinfo (host.render.toList ++ portChars portNumber) =
      (none, host.render.toList ++ portChars portNumber) := by
    rw [cutUserinfo, if_neg]
    rw [List.contains_iff_mem]
    exact fun hat => hchars '@' hat rfl
  have hrest : (portChars portNumber).dropWhile (· ≠ '\\') = [] :=
    List.dropWhile_eq_nil_iff.mpr fun c hc => decide_eq_true (of_mem_portChars hc).2
  have hnobody : readUserinfo ((none : Option (List Char)).getD []) = ("", none) := by decide
  have hempty := isEmpty_of_isProper hhost
  simp only [readAuthority?, huser, cutHost_render hhost (followsHost_portChars _), hkind,
    readHost?_render hhost hshort, hnobody, hrest, Option.bind_eq_bind, Option.bind_some]
  cases portNumber with
  | none => simp [portChars, hempty]
  | some n =>
    obtain ⟨hn, hother⟩ := hport n rfl
    have hdigits : (Nat.toDigits 10 n).takeWhile (· ≠ '\\') = Nat.toDigits 10 n := by
      rw [List.takeWhile_eq_self_iff]
      intro c hc
      have hmem : c ∈ portChars (some n) := List.mem_cons_of_mem _ hc
      exact decide_eq_true (of_mem_portChars hmem).2
    simp only [portChars, hdigits, readPort?_toDigits hn hother, Option.bind_some, hempty]
    simp

/-- An authority under a scheme of the web has a proper host and a kept `portNumber`. -/
theorem of_readAuthority? {scheme : String} (hkind : kindOf scheme = .special) {cs rest : List Char}
    {isLast : Bool} {a : Authority} (h : readAuthority? scheme cs isLast = some (a, rest)) :
    a.host.IsProper ∧ IsKeptPort scheme a.portNumber := by
  have hdone {username : String} {password : Option String} {host : Host}
      {portNumber : Option Nat} {more : List Char} {p q : Prop} [Decidable p] [Decidable q]
      (hhost : host.IsProper) (hport : IsKeptPort scheme portNumber)
      (h : (if p then none else if q then none
        else some (Authority.mk username password host portNumber, more)) = some (a, rest)) :
      a.host.IsProper ∧ IsKeptPort scheme a.portNumber := by
    split at h
    · cases h
    · split at h
      · cases h
      · obtain ⟨rfl, -⟩ := Prod.mk.inj (Option.some.inj h)
        exact ⟨hhost, hport⟩
  simp only [readAuthority?, hkind, Option.bind_eq_bind] at h
  obtain ⟨host, hhost, h⟩ := Option.bind_eq_some_iff.mp h
  have hproper := isProper_of_readHost? hhost
  split at h
  · obtain ⟨portNumber, hport, h⟩ := Option.bind_eq_some_iff.mp h
    exact hdone hproper (isKeptPort_of_readPort? hport) h
  · exact hdone hproper (by simp [IsKeptPort]) h

/-! ## URLs -/

/-- A URL of the web as it is kept, without a name, a password, a query and a fragment: its host is
proper, its `portNumber` needed, and its path a list of escaped segments. -/
structure IsCanonical (u : Url) : Prop where
  web : u.isWeb = true
  authority : ∃ host portNumber, u.authority = some ⟨"", none, host, portNumber⟩ ∧
    host.IsProper ∧ IsKeptPort u.scheme portNumber
  path : ∃ segments, u.path = .segments false segments ∧ segments ≠ [] ∧ ∀ s ∈ segments, IsKept s
  query : u.query = none
  fragment : u.fragment = none

/-- The characters of such a URL. -/
theorem toList_render {u : Url} {host : Host} {portNumber : Option Nat} {segments : List String}
    (hauthority : u.authority = some ⟨"", none, host, portNumber⟩)
    (hpath : u.path = .segments false segments) (hquery : u.query = none)
    (hfragment : u.fragment = none) :
    u.render.toList = u.scheme.toList ++ ':' :: '/' :: '/' ::
      ((host.render.toList ++ portChars portNumber) ++ segmentChars segments) := by
  cases portNumber <;>
    simp [render, hauthority, hpath, hquery, hfragment, Path.render, toList_renderSegments,
      Authority.render, portChars, Nat.repr]

/-- The schemes of the web are `http` and `https`. -/
theorem scheme_of_isWeb {u : Url} (h : u.isWeb = true) :
    u.scheme = "http" ∨ u.scheme = "https" := by
  simpa [isWeb] using h

/-- A scheme of the web is read back. -/
theorem readScheme?_of_web {scheme : String} (h : scheme = "http" ∨ scheme = "https")
    (rest : List Char) : readScheme? (scheme.toList ++ ':' :: rest) = some (scheme, rest) := by
  rcases h with rfl | rfl <;> rfl

/-- It has the rules of the web. -/
theorem kindOf_of_web {scheme : String} (h : scheme = "http" ∨ scheme = "https") :
    kindOf scheme = .special := by
  rcases h with rfl | rfl <;> rfl

/-- Visible characters are no edges. -/
theorem trimEdges_of_visible {cs : List Char} (h : ∀ c ∈ cs, 0x20 < c.toNat) :
    trimEdges cs = cs := by
  have hkeep (cs : List Char) (h : ∀ c ∈ cs, 0x20 < c.toNat) : cs.dropWhile isEdge = cs := by
    cases cs with
    | nil => rfl
    | cons c cs =>
      have hc := h c List.mem_cons_self
      exact List.dropWhile_cons_of_neg (by simpa [isEdge] using hc)
  rw [trimEdges, hkeep cs h, hkeep cs.reverse fun c hc => h c (List.mem_reverse.mp hc),
    List.reverse_reverse]

/-- And all of them count. -/
theorem breaksBehindColons_of_visible {cs : List Char} (h : ∀ c ∈ cs, 0x20 < c.toNat)
    (isBehindColon : Bool) : breaksBehindColons isBehindColon cs = cs := by
  induction cs generalizing isBehindColon with
  | nil => rfl
  | cons c cs ih =>
    obtain ⟨hc, hmore⟩ := List.forall_mem_cons.mp h
    rw [breaksBehindColons, if_pos (by simp [isIgnored_of_lt hc]), ih hmore]

/-- The characters of segments are visible, and the first one is a slash. -/
theorem lt_of_mem_segmentChars {segments : List String} (h : ∀ s ∈ segments, IsKept s) {c : Char}
    (hc : c ∈ segmentChars segments) : 0x20 < c.toNat := by
  obtain ⟨segment, hsegment, hc⟩ := List.mem_flatMap.mp hc
  rcases List.mem_cons.mp hc with rfl | hc
  · decide
  · exact ((h segment hsegment).chars c hc).visible.1

/-- An authority and the path behind it are read back. -/
theorem readBehindSlashes?_render {scheme : String} (hscheme : scheme = "http" ∨ scheme = "https")
    {host : Host} (hhost : host.IsProper) (hshort : host.HasShortLabels) {portNumber : Option Nat}
    (hport : IsKeptPort scheme portNumber) {segments : List String} (hne : segments ≠ [])
    (hsegments : ∀ s ∈ segments, IsKept s) :
    readBehindSlashes? scheme
        ((host.render.toList ++ portChars portNumber) ++ segmentChars segments) =
      some ⟨scheme, some ⟨"", none, host, portNumber⟩, .segments false segments, none, none⟩ := by
  have hkind := kindOf_of_web hscheme
  have hauthority : ∀ c ∈ host.render.toList ++ portChars portNumber,
      endsAuthority .special c = false := by
    intro c hc
    rcases List.mem_append.mp hc with hc | hc
    · exact (isAuthorityChar_of_mem_render hhost hc).2.1
    · exact (of_mem_portChars hc).1.2.1
  have hpart : authorityPart .special
      ((host.render.toList ++ portChars portNumber) ++ segmentChars segments) =
        (host.render.toList ++ portChars portNumber, segmentChars segments) := by
    obtain ⟨segment, more, rfl⟩ := List.exists_cons_of_ne_nil hne
    have htake : (host.render.toList ++ portChars portNumber ++
        segmentChars (segment :: more)).takeWhile (fun c => !endsAuthority .special c) =
          host.render.toList ++ portChars portNumber := by
      rw [List.takeWhile_append_of_pos fun c hc => by simp [hauthority c hc]]
      simp [segmentChars, endsAuthority, isSlash]
    rw [authorityPart, htake, List.drop_left]
  simp only [readBehindSlashes?, hkind, hpart, Option.bind_eq_bind,
    readAuthority?_render hkind hhost hshort hport, Option.bind_some, List.nil_append,
    readPath_segmentChars hne hsegments]
  rfl

/-- A host is not empty and begins with no slash, so the slashes before it are two. -/
theorem dropWhile_slashes_render {host : Host} (h : host.IsProper) (rest : List Char) :
    ('/' :: '/' :: (host.render.toList ++ rest)).dropWhile (isSlash .special) =
      host.render.toList ++ rest := by
  obtain ⟨c, more, hcons⟩ := List.exists_cons_of_ne_nil (render_ne_nil h)
  have hc : endsAuthority .special c = false :=
    (isAuthorityChar_of_mem_render h (hcons ▸ List.mem_cons_self)).2.1
  have hfirst : isSlash .special c = false := (Bool.or_eq_false_iff.mp hc).1
  have hslash : isSlash .special '/' = true := by decide
  rw [List.dropWhile_cons_of_pos hslash, List.dropWhile_cons_of_pos hslash]
  simp [hcons, hfirst]

/-- A canonical URL is read back from its text, if the labels of its host are. -/
theorem parse?_render {u : Url} (h : u.IsCanonical)
    (hshort : ∀ a ∈ u.authority, a.host.HasShortLabels) : parse? u.render = some u := by
  obtain ⟨hweb, ⟨host, portNumber, hauthority, hhost, hport⟩, ⟨segments, hpath, hne, hsegments⟩,
    hquery, hfragment⟩ := h
  have hscheme := scheme_of_isWeb hweb
  have hrender := toList_render hauthority hpath hquery hfragment
  let rest := (host.render.toList ++ portChars portNumber) ++ segmentChars segments
  have hrest : ∀ c ∈ rest, 0x20 < c.toNat := by
    intro c hc
    rcases List.mem_append.mp hc with hc | hc
    · rcases List.mem_append.mp hc with hc | hc
      · exact (isAuthorityChar_of_mem_render hhost hc).1
      · exact (of_mem_portChars hc).1.1
    · exact lt_of_mem_segmentChars hsegments hc
  have hbehind : ∀ c ∈ '/' :: '/' :: rest, 0x20 < c.toNat :=
    List.forall_mem_cons.mpr ⟨by decide, List.forall_mem_cons.mpr ⟨by decide, hrest⟩⟩
  have hvisible : ∀ c ∈ u.render.toList, 0x20 < c.toNat := by
    rw [hrender]
    intro c hc
    rcases List.mem_append.mp hc with hc | hc
    · rcases hscheme with hscheme | hscheme
      · exact (by simp [hscheme] : ∀ c ∈ u.scheme.toList, 0x20 < c.toNat) c hc
      · exact (by simp [hscheme] : ∀ c ∈ u.scheme.toList, 0x20 < c.toNat) c hc
    · rcases List.mem_cons.mp hc with rfl | hc
      · decide
      · exact hbehind c hc
  have hslashes : ('/' :: '/' :: rest).dropWhile (isSlash .special) = rest := by
    simp only [rest, List.append_assoc]
    exact dropWhile_slashes_render hhost _
  rw [parse?, trimEdges_of_visible hvisible, breaksBehindColons_of_visible hvisible, hrender,
    readScheme?_of_web hscheme, Option.bind_eq_bind, Option.bind_some]
  dsimp only
  rw [kindOf_of_web hscheme]
  dsimp only
  rw [withoutIgnored_of_visible hbehind, hslashes,
    readBehindSlashes?_render hscheme hhost (hshort _ hauthority) hport hne hsegments]
  obtain ⟨scheme, authority, path, query, fragment⟩ := u
  dsimp only at hauthority hpath hquery hfragment
  rw [hauthority, hpath, hquery, hfragment]

end ToolGateway.Url
