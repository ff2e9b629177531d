import Mathlib.Algebra.Group.Nat.Defs
import ToolGateway.Proofs.Text.Ascii
import ToolGateway.Proofs.Text.Digits
import ToolGateway.Proofs.Text.Written
import ToolGateway.Proofs.Url.NameText

/-!
# Hosts are read back

A host that was read from a URL of the web is proper: a domain name in ASCII, without capitals and
delimiters, that ends in no number, or an address of four bytes or of eight groups. Every proper
host is read back from its text: addresses of version 6 are, though the longest run of zeros is left
out of theirs, and names are, though their labels are written in Punycode, unless one takes more
characters than a reader of Punycode admits.
-/

namespace ToolGateway.Url

/-! ## Digits -/

/-- A digit is read back. -/
theorem hexValue?_digitChar {d : Nat} (h : d < 16) : Text.hexValue? (Nat.digitChar d) = some d :=
  (by decide : ∀ d < 16, Text.hexValue? (Nat.digitChar d) = some d) d h

/-- Digits have values below sixteen. -/
theorem hexValue?_lt {c : Char} {d : Nat} (h : Text.hexValue? c = some d) : d < 16 := by
  unfold Text.hexValue? Text.hexCodeValue? at h
  split at h
  · obtain rfl := Option.some.inj h
    omega
  · split at h
    · obtain rfl := Option.some.inj h
      omega
    · split at h
      · obtain rfl := Option.some.inj h
        omega
      · cases h

/-! ## Addresses of version 4 -/

/-- An address of version 4 consists of bytes. -/
def IsBytes (address : Ipv4) : Prop :=
  address.a < 256 ∧ address.b < 256 ∧ address.c < 256 ∧ address.d < 256

/-- Decimal digits hold no point. -/
theorem point_notMem_toDigits (n : Nat) : '.' ∉ Nat.toDigits 10 n := fun h =>
  absurd (Nat.isDigit_of_mem_toDigits (by decide) (by decide) h) (by decide)

/-- The text of an address is its numbers with points between. -/
theorem ipv4_chars (address : Ipv4) :
    Address.Ipv4.chars address = Nat.toDigits 10 address.a ++ '.' ::
      (Nat.toDigits 10 address.b ++ '.' :: (Nat.toDigits 10 address.c ++ '.' ::
        Nat.toDigits 10 address.d)) := by
  simp [Address.Ipv4.chars, List.intercalate, Nat.repr]

/-- The labels of an address are its numbers. -/
theorem labels_ipv4 (address : Ipv4) :
    labels [] (Address.Ipv4.chars address) =
      [address.a, address.b, address.c, address.d].map (Nat.toDigits 10) := by
  rw [ipv4_chars, labels_eq_splitOn,
    List.splitOn_append_cons_self_of_not_mem (point_notMem_toDigits _),
    List.splitOn_append_cons_self_of_not_mem (point_notMem_toDigits _),
    List.splitOn_append_cons_self_of_not_mem (point_notMem_toDigits _),
    List.splitOn_eq_singleton (point_notMem_toDigits _)]
  rfl

/-- A byte is read back from its decimal digits. -/
theorem labelNumber?_toDigits {n : Nat} (h : n < 256) :
    labelNumber? (Nat.toDigits 10 n) = some n :=
  (by decide +kernel : ∀ n < 256, labelNumber? (Nat.toDigits 10 n) = some n) n h

/-- None of the labels of an address is left out. -/
theorem properLabels_ipv4 (address : Ipv4) :
    properLabels (Address.Ipv4.chars address) =
      [address.a, address.b, address.c, address.d].map (Nat.toDigits 10) := by
  rw [properLabels, labels_ipv4]
  simp [Nat.toDigits_ne_nil]

/-- An address of bytes is put together from them. -/
theorem addressOfNumbers?_bytes {address : Ipv4} (h : IsBytes address) :
    addressOfNumbers? [address.a, address.b, address.c, address.d] = some address := by
  obtain ⟨a, b, c, d⟩ := address
  obtain ⟨ha, hb, hc, hd⟩ := h
  dsimp only at ha hb hc hd
  have hplaces : Nat.pow 256 (4 - [c, b, a].length) = 256 := rfl
  simp only [addressOfNumbers?, List.reverse_cons, List.reverse_nil, List.nil_append,
    List.cons_append, hplaces]
  rw [if_neg (by simp; omega)]
  simp only [List.foldl_cons, List.foldl_nil, Option.some.injEq, Ipv4.mk.injEq]
  omega

/-- An address of bytes is read back. -/
theorem readV4?_chars {address : Ipv4} (h : IsBytes address) :
    readV4? (Address.Ipv4.chars address) = some address := by
  rw [readV4?, properLabels_ipv4]
  simp only [List.map_cons, List.map_nil, List.mapM_cons, List.mapM_nil, labelNumber?_toDigits h.1,
    labelNumber?_toDigits h.2.1, labelNumber?_toDigits h.2.2.1, labelNumber?_toDigits h.2.2.2]
  exact addressOfNumbers?_bytes h

/-- An address ends in a number. -/
theorem endsInNumber_ipv4 (address : Ipv4) : endsInNumber (Address.Ipv4.chars address) = true := by
  have hdigits : (Nat.toDigits 10 address.d).all Char.isDigit = true :=
    List.all_eq_true.mpr fun c hc => Nat.isDigit_of_mem_toDigits (by decide) (by decide) hc
  rw [endsInNumber, properLabels_ipv4]
  simp [hdigits, Nat.toDigits_ne_nil]

/-- What is read as an address of version 4 consists of bytes. -/
theorem isBytes_of_addressOfNumbers? {numbers : List Nat} {address : Ipv4}
    (h : addressOfNumbers? numbers = some address) : IsBytes address := by
  unfold addressOfNumbers? at h
  split at h
  · cases h
  · next last front hreverse =>
    dsimp only at h
    split at h
    · cases h
    · next hrange =>
      obtain rfl := Option.some.inj h
      simp only [not_or, Nat.not_le, List.any_eq_true, decide_eq_true_eq, not_exists, not_and,
        Nat.not_lt] at hrange
      obtain ⟨hfew, hsmall, hlast⟩ := hrange
      have hfront : front.reverse.foldl (fun n part => n * 256 + part) 0 < 256 ^ front.length := by
        rw [← List.length_reverse]
        exact Text.foldl_lt_pow fun n hn => Nat.lt_succ_of_le (hsmall n (List.mem_reverse.mp hn))
      -- Only the first byte could be too great.
      have hfirst : front.reverse.foldl (fun n part => n * 256 + part) 0 *
          Nat.pow 256 (4 - front.length) + last < (256 * 256 * 256) * 256 :=
        calc _ < 256 ^ front.length * 256 ^ (4 - front.length) := Text.mul_add_lt hfront hlast
          _ = 256 ^ 4 := by rw [← Nat.pow_add, Nat.add_sub_cancel' (Nat.le_of_lt hfew)]
          _ = (256 * 256 * 256) * 256 := rfl
      exact ⟨Nat.div_lt_of_lt_mul hfirst, Nat.mod_lt _ (by decide),
        Nat.mod_lt _ (by decide), Nat.mod_lt _ (by decide)⟩

/-! ## Domain names -/

/-- A name is ASCII, without capitals and delimiters. -/
structure IsPlainName (name : List Char) : Prop where
  ne : name ≠ []
  plain : ∀ c ∈ name, isForbiddenInDomain c = false
  ascii : isAscii name = true

/-- What may stand in a domain name is visible and no capital or delimiter. -/
theorem of_isForbiddenInDomain {c : Char} (h : isForbiddenInDomain c = false) :
    0x20 < c.toNat ∧ c.isUpper = false ∧ "#/:<>?@[\\]^|%".toList.contains c = false := by
  simp only [isForbiddenInDomain, Bool.or_eq_false_iff] at h
  exact ⟨by simpa using h.1.1.1, h.1.2, h.2⟩

/-- A byte string without percent signs has no escapes. -/
theorem decode_of_not_mem {bytes : Bytes} (h : Text.Percent.sign ∉ bytes) :
    Text.Percent.decode bytes = bytes := by
  have honto (done : Bytes) :
      Text.Percent.decodeOnto done bytes = done.reverse ++ bytes := by
    induction bytes generalizing done with
    | nil => simp [Text.Percent.decodeOnto]
    | cons b bytes ih =>
      obtain ⟨hb, hmore⟩ := not_or.mp (mt List.mem_cons.mpr h)
      rw [Text.Percent.decodeOnto_cons_of_ne (Ne.symm hb), ih hmore]
      simp
  exact honto []

/-- Characters are read back from their bytes. -/
theorem decodeChars?_encodeChars (cs : List Char) :
    Text.Utf8.decodeChars? (Text.Utf8.encodeChars cs) = some cs := by
  have hread := Text.Utf8.decode?_encode (String.ofList cs)
  rw [Text.Utf8.decode?, Text.Utf8.encode, String.toList_ofList] at hread
  obtain ⟨found, hfound, hsame⟩ := Option.map_eq_some_iff.mp hread
  rw [hfound, String.ofList_injective hsame]

theorem toLower_of_isUpper_eq_false {c : Char} (h : c.isUpper = false) : c.toLower = c :=
  dif_neg (of_decide_eq_false h)

/-- A plain name folds to itself. -/
theorem foldName_of_isPlainName {name : List Char} (h : IsPlainName name) :
    foldName name = name := by
  have hsmall : name.map Char.toLower = name := by
    refine (List.map_congr_left fun c hc => ?_).trans (List.map_id _)
    exact toLower_of_isUpper_eq_false (of_isForbiddenInDomain (h.plain c hc)).2.1
  simp only [foldName, hsmall, h.ascii, if_true]

/-- A plain name is read as it is. -/
theorem readDomain?_of_isPlainName {name : List Char} (h : IsPlainName name)
    (hname : isName name = true) :
    readDomain? name =
      if endsInNumber name then (readV4? name).map .v4
      else some (.domain (String.ofList name)) := by
  have hsign : Text.Percent.sign ∉ Text.Utf8.encodeChars name := by
    intro hmem
    have hpercent := Text.Utf8.mem_of_mem_encodeChars hmem (by decide)
    exact absurd (of_isForbiddenInDomain (h.plain _ hpercent)).2.2 (by decide)
  have hplain : name.any isForbiddenInDomain = false :=
    List.any_eq_false.mpr fun c hc => by simp [h.plain c hc]
  simp only [readDomain?, decode_of_not_mem hsign, decodeChars?_encodeChars, Option.bind_eq_bind,
    Option.bind_some, foldName_of_isPlainName h, asciiName_of_isAscii h.ascii, hplain, hname, h.ne]
  simp

/-- What is read as a domain or an address of version 4 is one. -/
theorem of_readDomain? {cs : List Char} {host : Host} (h : readDomain? cs = some host) :
    (∃ address, host = .v4 address ∧ IsBytes address) ∨
      ∃ name, host = .domain (String.ofList name) ∧ IsPlainName name ∧
        (HasShortLabels name → isName name = true) ∧ endsInNumber name = false := by
  obtain ⟨decoded, -, h⟩ := Option.bind_eq_some_iff.mp h
  dsimp only at h
  split at h
  · cases h
  · next hgood =>
    simp only [not_or, Bool.not_eq_true, Bool.not_eq_false', List.any_eq_false] at hgood
    obtain ⟨hne, hplain, hname⟩ := hgood
    split at h
    · obtain ⟨address, haddress, rfl⟩ := Option.map_eq_some_iff.mp h
      obtain ⟨numbers, -, hnumbers⟩ := Option.bind_eq_some_iff.mp haddress
      exact Or.inl ⟨address, rfl, isBytes_of_addressOfNumbers? hnumbers⟩
    · next hnumber =>
      obtain rfl := Option.some.inj h
      refine Or.inr ⟨_, rfl, ⟨asciiName_ne_nil hne, fun c hc => ?_, ?_⟩, isName_asciiName hname,
        by simpa using hnumber⟩
      · rcases (of_mem_asciiName hc).2 with hmem | hallowed
        · simpa using hplain c hmem
        · exact hallowed
      · exact List.all_eq_true.mpr fun c hc => decide_eq_true (of_mem_asciiName hc).1

example : readDomain? "%C3%9C.de".toList = some (.domain "xn--tda.de") := by decide +kernel

/-- A character of an address of version 4 is a digit or a point. -/
theorem of_mem_ipv4 {address : Ipv4} {c : Char} (h : c ∈ Address.Ipv4.chars address) :
    c = '.' ∨ c.isDigit = true := by
  have hdigit (n : Nat) (hc : c ∈ Nat.toDigits 10 n) : c.isDigit = true :=
    Nat.isDigit_of_mem_toDigits (by decide) (by decide) hc
  simp only [ipv4_chars, List.mem_append, List.mem_cons] at h
  rcases h with h | h | h | h | h | h | h
  · exact Or.inr (hdigit _ h)
  · exact Or.inl h
  · exact Or.inr (hdigit _ h)
  · exact Or.inl h
  · exact Or.inr (hdigit _ h)
  · exact Or.inl h
  · exact Or.inr (hdigit _ h)

/-- A digit is the digit of a number below ten. -/
theorem exists_of_isDigit {c : Char} (h : c.isDigit = true) :
    ∃ n < 10, c = Char.ofNat (0x30 + n) := by
  have hrange : 0x30 ≤ c.val ∧ c.val ≤ 0x39 := by simpa [Char.isDigit] using h
  have hlow : 0x30 ≤ c.toNat := hrange.1
  have hhigh : c.toNat ≤ 0x39 := hrange.2
  refine ⟨c.toNat - 0x30, by omega, ?_⟩
  rw [Nat.add_sub_cancel' hlow, Char.ofNat_toNat]

/-- An address of version 4 is a plain name. -/
theorem isPlainName_ipv4 (address : Ipv4) : IsPlainName (Address.Ipv4.chars address) := by
  have hplain : ∀ c ∈ Address.Ipv4.chars address,
      isForbiddenInDomain c = false ∧ c.toNat < 0x80 := by
    intro c hc
    rcases of_mem_ipv4 hc with rfl | hdigit
    · decide
    · obtain ⟨n, hn, rfl⟩ := exists_of_isDigit hdigit
      exact (by decide : ∀ n < 10, isForbiddenInDomain (Char.ofNat (0x30 + n)) = false ∧
        (Char.ofNat (0x30 + n)).toNat < 0x80) n hn
  refine ⟨?_, fun c hc => (hplain c hc).1,
    List.all_eq_true.mpr fun c hc => decide_eq_true (hplain c hc).2⟩
  rw [ipv4_chars]
  simp

/-- The label of a number stands for its digits. -/
theorem labelCodes?_toDigits (n : Nat) :
    labelCodes? (Nat.toDigits 10 n) = some ((Nat.toDigits 10 n).map Char.toNat) := by
  have hdigit (c : Char) (hc : c ∈ Nat.toDigits 10 n) : c.isDigit = true :=
    Nat.isDigit_of_mem_toDigits (by decide) (by decide) hc
  have hascii : isAscii (Nat.toDigits 10 n) = true := by
    refine List.all_eq_true.mpr fun c hc => decide_eq_true ?_
    obtain ⟨d, hd, rfl⟩ := exists_of_isDigit (hdigit c hc)
    exact (by decide : ∀ d < 10, (Char.ofNat (0x30 + d)).toNat < 0x80) d hd
  unfold labelCodes?
  split
  · next text heq =>
    have hx : 'x' ∈ Nat.toDigits 10 n := heq ▸ List.mem_cons_self
    exact absurd (hdigit _ hx) (by decide)
  · exact if_pos hascii

/-- No digit turns a name. -/
theorem turnsName_of_mem_toDigits {n code : Nat} (h : code ∈ (Nat.toDigits 10 n).map Char.toNat) :
    turnsName (Unicode.Direction.of code) = false := by
  obtain ⟨c, hc, rfl⟩ := List.mem_map.mp h
  obtain ⟨d, hd, rfl⟩ :=
    exists_of_isDigit (Nat.isDigit_of_mem_toDigits (by decide) (by decide) hc)
  exact (by decide +kernel : ∀ d < 10,
    turnsName (Unicode.Direction.of (Char.ofNat (0x30 + d)).toNat) = false) d hd

/-- An address of version 4 is a name. -/
theorem isName_ipv4 (address : Ipv4) : isName (Address.Ipv4.chars address) = true := by
  let numbers := [address.a, address.b, address.c, address.d]
  have hcodes : (labels [] (Address.Ipv4.chars address)).mapM labelCodes? =
      some (numbers.map fun n => (Nat.toDigits 10 n).map Char.toNat) := by
    simp [labels_ipv4, labelCodes?_toDigits, numbers]
  rw [isName, hcodes]
  dsimp only
  rw [Bool.or_eq_true, Bool.not_eq_true', List.any_eq_false]
  refine Or.inl fun direction hdirection => ?_
  obtain ⟨directions, hdirections, hmem⟩ := List.mem_flatten.mp hdirection
  rw [List.map_map] at hdirections
  obtain ⟨n, -, rfl⟩ := List.mem_map.mp hdirections
  obtain ⟨code, hcode, rfl⟩ := List.mem_map.mp hmem
  rw [turnsName_of_mem_toDigits hcode]
  exact Bool.false_ne_true

/-- An address of bytes is read back as a host. -/
theorem readDomain?_ipv4 {address : Ipv4} (h : IsBytes address) :
    readDomain? (Address.Ipv4.chars address) = some (.v4 address) := by
  rw [readDomain?_of_isPlainName (isPlainName_ipv4 address) (isName_ipv4 address),
    endsInNumber_ipv4, if_pos rfl, readV4?_chars h]
  rfl

/-! ## Addresses of version 6 -/

/-- An address of version 6 consists of eight groups of sixteen bits. -/
structure IsGroups (groups : List Nat) : Prop where
  length : groups.length = 8
  small : ∀ g ∈ groups, g < 65536

/-- The digits of a group are at most four. -/
theorem length_hexDigits_le {g : Nat} (h : g < 65536) : (Address.hexDigits g).length ≤ 4 :=
  (Nat.length_toDigits_le_iff (by decide) (by decide)).mpr h

/-- No hexadecimal digit stands at the front. -/
def NoHex (rest : List Char) : Prop := ∀ c ∈ rest.head?, Text.hexValue? c = none

/-- Digits are taken as long as there is room. -/
theorem takeHex_append {digits : List Nat} (hdigits : ∀ d ∈ digits, d < 16) {rest : List Char}
    (hrest : NoHex rest) (value : Nat) {room : Nat} (hroom : digits.length ≤ room) :
    takeHex value (digits.map Nat.digitChar ++ rest) room =
      (digits.foldl (fun value d => value * 16 + d) value, rest) := by
  induction digits generalizing value room with
  | nil =>
    cases room with
    | zero => rfl
    | succ room =>
      cases rest with
      | nil => rfl
      | cons c rest => simp [takeHex, hrest c rfl]
  | cons d digits ih =>
    obtain ⟨hd, hmore⟩ := List.forall_mem_cons.mp hdigits
    obtain ⟨room, rfl⟩ := Nat.exists_eq_succ_of_ne_zero (Nat.ne_of_gt (Nat.lt_of_lt_of_le
      (Nat.succ_pos digits.length) hroom))
    rw [List.map_cons, List.cons_append, takeHex]
    simp only [hexValue?_digitChar hd]
    rw [ih hmore _ (Nat.le_of_succ_le_succ hroom), List.foldl_cons]

/-- A group is read back from its digits. -/
theorem takeHex_hexDigits {g : Nat} (hg : g < 65536) {rest : List Char} (hrest : NoHex rest) :
    takeHex 0 (Address.hexDigits g ++ rest) 4 = (g, rest) := by
  obtain ⟨digits, hdigits, hall, -, hvalue⟩ := Text.exists_digits 16 (by decide) g
  have hlength := length_hexDigits_le hg
  rw [Address.hexDigits, hdigits] at hlength ⊢
  rw [takeHex_append hall hrest 0 (by simpa using hlength), hvalue]

/-- The digits of a group begin with no colon. -/
theorem exists_hexDigits_eq_cons (g : Nat) :
    ∃ c more, Address.hexDigits g = c :: more ∧ c ≠ ':' := by
  obtain ⟨digits, hdigits, hall, -⟩ := Text.exists_digits 16 (by decide) g
  cases digits with
  | nil => exact absurd hdigits Nat.toDigits_ne_nil
  | cons d digits =>
    refine ⟨_, _, hdigits, ?_⟩
    exact (by decide : ∀ d < 16, Nat.digitChar d ≠ ':') d (hall d List.mem_cons_self)

/-- Behind the last group nothing is read. -/
theorem readGroups_nil (found : Groups) (room : Nat) : readGroups found [] room = some found := by
  cases room <;> rfl

/-- A group at the end is read. -/
theorem readGroups_last {g : Nat} (hg : g < 65536) (found : Groups) (room : Nat) :
    readGroups found (Address.hexDigits g) (room + 1) =
      some { found with groups := found.groups ++ [g] } := by
  obtain ⟨c, more, hcons, hcolon⟩ := exists_hexDigits_eq_cons g
  have hnone : NoHex [] := by simp [NoHex]
  have htake := takeHex_hexDigits hg hnone
  rw [List.append_nil, hcons] at htake
  rw [hcons, readGroups.eq_def]
  dsimp only
  split
  · next heq => cases heq
  · next heq => exact absurd (List.cons.inj heq).1 hcolon
  · simp only [htake, readGroups_nil]

/-- A group before a colon is read. -/
theorem readGroups_colon {g : Nat} (hg : g < 65536) (found : Groups) (room : Nat)
    {rest : List Char} (hrest : rest ≠ []) :
    readGroups found (Address.hexDigits g ++ ':' :: rest) (room + 1) =
      readGroups { found with groups := found.groups ++ [g] } rest room := by
  obtain ⟨c, more, hcons, hcolon⟩ := exists_hexDigits_eq_cons g
  have hvalue : Text.hexValue? ':' = none := by decide
  have hnone : NoHex (':' :: rest) := by simpa [NoHex] using hvalue
  have htake := takeHex_hexDigits hg hnone
  rw [hcons, List.cons_append] at htake ⊢
  rw [readGroups.eq_def]
  dsimp only
  split
  · next heq => cases heq
  · next heq => exact absurd (List.cons.inj heq).1 hcolon
  · simp only [htake, if_neg hrest]

/-- A colon in a group's place is the gap. -/
theorem readGroups_gap (groups : List Nat) (rest : List Char) (room : Nat) :
    readGroups ⟨groups, none⟩ (':' :: rest) (room + 1) =
      readGroups ⟨groups ++ [0], some (groups.length + 1)⟩ rest room := rfl

/-- One group is its digits. -/
theorem joinGroups_singleton (g : Nat) : Address.joinGroups [g] = Address.hexDigits g :=
  List.intercalate_singleton

/-- Further groups follow a colon. -/
theorem joinGroups_cons_cons (g next : Nat) (groups : List Nat) :
    Address.joinGroups (g :: next :: groups) =
      Address.hexDigits g ++ ':' :: Address.joinGroups (next :: groups) := by
  simp [Address.joinGroups, List.intercalate_cons_cons]

/-- The text of groups is not empty and begins with no colon. -/
theorem exists_joinGroups_eq_cons (g : Nat) (groups : List Nat) :
    ∃ c more, Address.joinGroups (g :: groups) = c :: more ∧ c ≠ ':' := by
  obtain ⟨c, more, hcons, hcolon⟩ := exists_hexDigits_eq_cons g
  cases groups with
  | nil => exact ⟨c, more, by rw [joinGroups_singleton, hcons], hcolon⟩
  | cons next groups =>
    exact ⟨c, _, by rw [joinGroups_cons_cons, hcons, List.cons_append], hcolon⟩

/-- Groups at the end are read. -/
theorem readGroups_join {groups : List Nat} (hsmall : ∀ g ∈ groups, g < 65536) (found : Groups)
    {room : Nat} (hroom : groups.length ≤ room) :
    readGroups found (Address.joinGroups groups) room =
      some { found with groups := found.groups ++ groups } := by
  induction groups generalizing found room with
  | nil =>
    rw [Address.joinGroups, List.map_nil, List.intercalate_nil, readGroups_nil, List.append_nil]
  | cons g groups ih =>
    obtain ⟨hg, hmore⟩ := List.forall_mem_cons.mp hsmall
    obtain ⟨room, rfl⟩ := Nat.exists_eq_add_of_le' (Nat.lt_of_lt_of_le (Nat.succ_pos _) hroom)
    cases groups with
    | nil => rw [joinGroups_singleton, readGroups_last hg]
    | cons next groups =>
      obtain ⟨c, more, hcons, -⟩ := exists_joinGroups_eq_cons next groups
      rw [joinGroups_cons_cons, readGroups_colon hg _ _ (by simp [hcons]),
        ih hmore _ (Nat.le_of_succ_le_succ hroom)]
      simp

/-- Groups before the gap are read. -/
theorem readGroups_join_gap {g : Nat} {groups : List Nat} (hsmall : ∀ x ∈ g :: groups, x < 65536)
    (found : List Nat) (rest : List Char) (room : Nat) :
    readGroups ⟨found, none⟩ (Address.joinGroups (g :: groups) ++ ':' :: ':' :: rest)
        (room + groups.length + 2) =
      readGroups ⟨found ++ g :: groups ++ [0], some (found.length + groups.length + 2)⟩ rest
        room := by
  induction groups generalizing g found with
  | nil =>
    rw [joinGroups_singleton, readGroups_colon (hsmall g List.mem_cons_self) _ _ (by simp)]
    change readGroups ⟨found ++ [g], none⟩ (':' :: rest) (room + 1) = _
    rw [readGroups_gap]
    simp
  | cons next groups ih =>
    obtain ⟨hg, hmore⟩ := List.forall_mem_cons.mp hsmall
    rw [joinGroups_cons_cons, List.append_assoc, List.cons_append, List.length_cons,
      readGroups_colon hg _ _ (by simp)]
    change readGroups ⟨found ++ [g], none⟩ _ (room + groups.length + 2) = _
    rw [ih hmore, List.length_append, List.length_singleton]
    simp [Nat.add_right_comm _ _ groups.length, Nat.add_assoc]

/-- A run of zeros within groups. -/
def IsZeroRun (groups : List Nat) (run : Nat × Nat) : Prop :=
  ∃ front back, groups = front ++ (List.replicate run.2 0 ++ back) ∧ front.length = run.1

/-- The zeros in front of groups are a run. -/
theorem isZeroRun_zeroRun (front groups : List Nat) :
    IsZeroRun (front ++ groups) (front.length, Address.zeroRun groups) := by
  refine ⟨front, groups.dropWhile (· == 0), ?_, rfl⟩
  have hzeros : groups.takeWhile (· == 0) = List.replicate (Address.zeroRun groups) 0 :=
    List.eq_replicate_of_mem fun n hn => by simpa using List.mem_takeWhile_imp hn
  rw [← hzeros, List.takeWhile_append_dropWhile]

/-- The longest run of zeros is one. -/
theorem isZeroRun_longest (groups : List Nat) :
    IsZeroRun groups (Address.longestZeroRun groups) := by
  unfold Address.longestZeroRun
  refine List.foldlRecOn _ _ (motive := IsZeroRun groups) ⟨[], groups, rfl, rfl⟩ ?_
  intro best hbest place hplace
  dsimp only
  split
  · have hrun := isZeroRun_zeroRun (groups.take place) (groups.drop place)
    rw [List.take_append_drop, List.length_take] at hrun
    rwa [Nat.min_eq_left (Nat.le_of_lt (List.mem_range.mp hplace))] at hrun
  · exact hbest

/-- Groups with a run of zeros left out are filled up again. -/
theorem fill?_gap (front back : List Nat) {run : Nat}
    (hlength : (front ++ (List.replicate run 0 ++ back)).length = 8) (hrun : 2 ≤ run) :
    Groups.fill? ⟨front ++ [0] ++ back, some (front.length + 1)⟩ =
      some (front ++ (List.replicate run 0 ++ back)) := by
  simp only [List.length_append, List.length_replicate] at hlength
  have hmissing : 8 - (front ++ [0] ++ back).length = run - 1 := by
    simp only [List.length_append, List.length_singleton]
    omega
  have htake : (front ++ [0] ++ back).take (front.length + 1) = front ++ [0] :=
    List.take_left' (by simp)
  have hdrop : (front ++ [0] ++ back).drop (front.length + 1) = back :=
    List.drop_left' (by simp)
  have hzeros : [0] ++ List.replicate (run - 1) 0 = List.replicate run 0 := by
    rw [← List.replicate_one, List.replicate_append_replicate, Nat.add_sub_cancel' (by omega)]
  rw [Groups.fill?]
  dsimp only
  rw [hmissing, htake, hdrop, List.append_assoc front, hzeros, List.append_assoc]

/-- An address that does not begin with its gap is read from its first group on. -/
theorem readV6?_cons {c : Char} {more : List Char} (hcolon : c ≠ ':') (hmore : more ≠ []) :
    readV6? (c :: more) = (readGroups ⟨[], none⟩ (c :: more) 8).bind Groups.fill? := by
  unfold readV6?
  split
  · next heq => cases heq
  · next heq => exact absurd (List.cons.inj heq).2 hmore
  · next heq => exact absurd (List.cons.inj heq).1 hcolon
  · next heq => exact absurd (List.cons.inj heq).1 hcolon
  · rfl

/-- Groups without a gap are read back. -/
theorem readV6?_joinGroups {groups : List Nat} (h : IsGroups groups) :
    readV6? (Address.joinGroups groups) = some groups := by
  obtain ⟨hlength, hsmall⟩ := h
  have hread := readGroups_join hsmall ⟨[], none⟩ (Nat.le_of_eq hlength)
  match groups, hlength with
  | g :: next :: groups, hlength =>
    obtain ⟨c, more, hcons, hcolon⟩ := exists_hexDigits_eq_cons g
    have hjoin : Address.joinGroups (g :: next :: groups) =
        c :: (more ++ ':' :: Address.joinGroups (next :: groups)) := by
      rw [joinGroups_cons_cons, hcons, List.cons_append]
    rw [hjoin] at hread ⊢
    rw [readV6?_cons hcolon (by simp), hread, Option.bind_some, Groups.fill?]
    exact if_pos hlength

/-- Groups with a gap in the place of some zeros are read back. -/
theorem readV6?_gap {front back : List Nat} {run : Nat} (hrun : 2 ≤ run)
    (h : IsGroups (front ++ (List.replicate run 0 ++ back))) :
    readV6? (Address.joinGroups front ++ [':', ':'] ++ Address.joinGroups back) =
      some (front ++ (List.replicate run 0 ++ back)) := by
  obtain ⟨hlength, hsmall⟩ := h
  have hfill := fill?_gap front back hlength hrun
  have hback : ∀ g ∈ back, g < 65536 := fun g hg => hsmall g (by simp [hg])
  have hfront : ∀ g ∈ front, g < 65536 := fun g hg => hsmall g (List.mem_append_left _ hg)
  simp only [List.length_append, List.length_replicate] at hlength
  cases front with
  | nil =>
    have hroom : back.length ≤ 7 := by
      rw [List.length_nil] at hlength
      omega
    change ((readGroups ⟨[0], some 1⟩ (Address.joinGroups back) 7).bind Groups.fill?) = _
    rw [readGroups_join hback _ hroom]
    exact hfill
  | cons g front =>
    rw [List.length_cons] at hlength
    obtain ⟨c, more, hcons, hcolon⟩ := exists_joinGroups_eq_cons g front
    have hread := readGroups_join_gap hfront [] (Address.joinGroups back) (6 - front.length)
    have hroom : 6 - front.length + front.length + 2 = 8 := by omega
    rw [hroom, List.nil_append, List.length_nil, Nat.zero_add] at hread
    rw [hcons] at hread ⊢
    simp only [List.cons_append, List.append_assoc, List.nil_append] at hread ⊢
    rw [readV6?_cons hcolon (by simp), hread, readGroups_join hback _ (by omega)]
    exact hfill

/-- An address of version 6 is read back from its text. -/
theorem readV6?_compressGroups {groups : List Nat} (h : IsGroups groups) :
    readV6? (Address.compressGroups groups) = some groups := by
  obtain ⟨front, back, hgroups, hplace⟩ := isZeroRun_longest groups
  unfold Address.compressGroups
  generalize Address.longestZeroRun groups = best at hgroups hplace
  obtain ⟨place, run⟩ := best
  dsimp only at hgroups hplace ⊢
  subst hgroups hplace
  split
  · next hrun =>
    have hdrop : (front ++ (List.replicate run 0 ++ back)).drop (front.length + run) = back := by
      rw [← List.append_assoc]
      exact List.drop_left' (by simp)
    rw [List.take_left, hdrop]
    exact readV6?_gap hrun h
  · exact readV6?_joinGroups h

/-- Digits that are taken into the room for them stand for no more than fits there. -/
theorem takeHex_lt {value length : Nat} (hvalue : value < 16 ^ length) (cs : List Char)
    (room : Nat) : (takeHex value cs room).1 < 16 ^ (length + room) := by
  induction room generalizing value length cs with
  | zero => exact hvalue
  | succ room ih =>
    have hwide : value < 16 ^ (length + (room + 1)) :=
      Nat.lt_of_lt_of_le hvalue (Nat.pow_le_pow_right (by decide) (Nat.le_add_right _ _))
    cases cs with
    | nil => exact hwide
    | cons c cs =>
      rw [takeHex]
      cases hd : Text.hexValue? c with
      | none => exact hwide
      | some d =>
        have hnext : value * 16 + d < 16 ^ (length + 1) := by
          rw [Nat.pow_succ]
          exact Text.mul_add_lt hvalue (hexValue?_lt hd)
        rw [Nat.add_comm room, ← Nat.add_assoc]
        exact ih hnext cs

/-- The numbers of an address that is read are bytes. -/
theorem isBytes_of_takeV4 {cs rest : List Char} {address : Ipv4}
    (h : Address.takeV4 cs = some (address, rest)) : IsBytes address := by
  have hnumber {cs rest : List Char} {n : Nat}
      (h : Address.takeNumber 10 3 256 cs = some (n, rest)) : n < 256 := by
    unfold Address.takeNumber at h
    dsimp only at h
    split at h
    · next hrange =>
      obtain ⟨rfl, -⟩ := Prod.mk.inj (Option.some.inj h)
      exact hrange.2.2
    · cases h
  have hoctet {cs rest : List Char} {n : Nat} (h : Address.takeOctet cs = some (n, rest)) :
      n < 256 := by
    unfold Address.takeOctet at h
    split at h
    · split at h
      · cases h
      · exact hnumber h
    · exact hnumber h
  simp only [Address.takeV4, Option.bind_eq_bind, Option.bind_eq_some_iff] at h
  obtain ⟨⟨a, _⟩, ha, _, -, ⟨b, _⟩, hb, _, -, ⟨c, _⟩, hc, _, -, ⟨d, _⟩, hd, hdone⟩ := h
  obtain ⟨rfl, -⟩ := Prod.mk.inj (Option.some.inj hdone)
  exact ⟨hoctet ha, hoctet hb, hoctet hc, hoctet hd⟩

/-- So they make two groups of sixteen bits. -/
theorem of_endingV4? {cs : List Char} {last : List Nat} (h : endingV4? cs = some last) :
    last.length = 2 ∧ ∀ g ∈ last, g < 65536 := by
  unfold endingV4? at h
  split at h
  · next address htake =>
    obtain rfl := Option.some.inj h
    obtain ⟨ha, hb, hc, hd⟩ := isBytes_of_takeV4 htake
    refine ⟨rfl, ?_⟩
    simp only [Address.Ipv4.groups, List.mem_cons, List.not_mem_nil, or_false]
    rintro g (rfl | rfl) <;> omega
  · cases h

/-- Groups that are read so far are small, and their gap stands among them. -/
structure Groups.AreSmall (found : Groups) : Prop where
  small : ∀ g ∈ found.groups, g < 65536
  gap : ∀ gap ∈ found.gap, gap ≤ found.groups.length

/-- Small groups behind others leave them small. -/
theorem Groups.AreSmall.append {found : Groups} (h : found.AreSmall) {groups : List Nat}
    (hgroups : ∀ g ∈ groups, g < 65536) :
    AreSmall { found with groups := found.groups ++ groups } := by
  constructor
  · intro g hg
    rcases List.mem_append.mp hg with hg | hg
    · exact h.small g hg
    · exact hgroups g hg
  · intro gap hgap
    rw [List.length_append]
    exact Nat.le_add_right_of_le (h.gap gap hgap)

/-- No more groups are read than there is room for, and all of them are small. -/
theorem of_readGroups {found result : Groups} {cs : List Char} {room : Nat}
    (hsmall : found.AreSmall) (hroom : found.groups.length + room = 8)
    (h : readGroups found cs room = some result) : result.AreSmall ∧ result.groups.length ≤ 8 := by
  have hstart : 0 < 16 ^ 0 := by decide
  have hgroup {cs rest : List Char} {value : Nat} (htake : takeHex 0 cs 4 = (value, rest)) :
      ∀ g ∈ [value], g < 65536 := by
    have hlt := takeHex_lt hstart cs 4
    rw [htake] at hlt
    simpa using hlt
  fun_induction readGroups found cs room with
  | case1 found | case3 found =>
    obtain rfl := Option.some.inj h
    exact ⟨hsmall, by omega⟩
  | case5 found room rest hgap ih =>
    have hzero : Groups.AreSmall { found with groups := found.groups ++ [0] } :=
      hsmall.append (by simp)
    exact ih ⟨hzero.small, by simp⟩ (by simp; omega) h
  | case6 found room cs hne hcolon value htake ih =>
    exact ih (hsmall.append (hgroup htake)) (by simp; omega) h
  | case8 found room cs hne hcolon value rest hrest htake ih =>
    exact ih (hsmall.append (hgroup htake)) (by simp; omega) h
  | case9 found room cs hne hcolon value tail hfew htake =>
    obtain ⟨last, hlast, rfl⟩ := Option.map_eq_some_iff.mp h
    obtain ⟨htwo, hlastSmall⟩ := of_endingV4? hlast
    exact ⟨hsmall.append hlastSmall, by simp only [List.length_append]; omega⟩
  | case2 | case4 | case7 | case10 | case11 => cases h

/-- Groups that are filled up are an address. -/
theorem isGroups_of_fill? {found : Groups} {groups : List Nat} (hsmall : found.AreSmall)
    (hlength : found.groups.length ≤ 8) (h : found.fill? = some groups) : IsGroups groups := by
  unfold Groups.fill? at h
  split at h
  · next gap hgap =>
    obtain rfl := Option.some.inj h
    have hplace := hsmall.gap gap hgap
    constructor
    · simp only [List.length_append, List.length_take, List.length_replicate, List.length_drop]
      omega
    · intro g hg
      simp only [List.mem_append] at hg
      rcases hg with (hg | hg) | hg
      · exact hsmall.small g (List.mem_of_mem_take hg)
      · rw [List.eq_of_mem_replicate hg]
        decide
      · exact hsmall.small g (List.mem_of_mem_drop hg)
  · split at h
    · next height =>
      obtain rfl := Option.some.inj h
      exact ⟨height, hsmall.small⟩
    · cases h

/-- What is read as an address of version 6 is one. -/
theorem isGroups_of_readV6? {cs : List Char} {groups : List Nat} (h : readV6? cs = some groups) :
    IsGroups groups := by
  have hread {found : Groups} {cs : List Char} {room : Nat} (hsmall : found.AreSmall)
      (hroom : found.groups.length + room = 8)
      (h : (readGroups found cs room).bind Groups.fill? = some groups) : IsGroups groups := by
    obtain ⟨result, hresult, hfill⟩ := Option.bind_eq_some_iff.mp h
    obtain ⟨hresultSmall, hlength⟩ := of_readGroups hsmall hroom hresult
    exact isGroups_of_fill? hresultSmall hlength hfill
  unfold readV6? at h
  split at h
  · cases h
  · cases h
  · exact hread ⟨by simp, by simp⟩ rfl h
  · cases h
  · exact hread ⟨by simp, by simp⟩ rfl h

/-! ## Hosts -/

/-- A host of the web as it is kept: a plain name that ends in no number, or an address. -/
inductive Host.IsProper : Host → Prop
  | domain {name : List Char} (hplain : IsPlainName name)
    (hname : HasShortLabels name → isName name = true) (hnumber : endsInNumber name = false) :
    IsProper (.domain (String.ofList name))
  | v4 {address : Ipv4} (h : IsBytes address) : IsProper (.v4 address)
  | v6 {groups : List Nat} (h : IsGroups groups) : IsProper (.v6 groups)

/-- A host is no name with a label that is too long to be read. -/
def Host.HasShortLabels (host : Host) : Prop :=
  ∀ name, host = .domain name → Url.HasShortLabels name.toList

/-- A host that is read is proper. -/
theorem isProper_of_readHost? {cs : List Char} {host : Host}
    (h : readHost? .special cs = some host) : host.IsProper := by
  unfold readHost? at h
  split at h
  · split at h
    · obtain ⟨groups, hgroups, rfl⟩ := Option.map_eq_some_iff.mp h
      exact .v6 (isGroups_of_readV6? hgroups)
    · cases h
  · rcases of_readDomain? h with ⟨address, rfl, haddress⟩ | ⟨name, rfl, hplain, hname, hnumber⟩
    · exact .v4 haddress
    · exact .domain hplain hname hnumber

/-- A plain name is read as a domain, not as an address in brackets. -/
theorem readHost?_of_isPlainName {name : List Char} (h : IsPlainName name) :
    readHost? .special name = readDomain? name := by
  unfold readHost?
  split
  · next rest =>
    exact absurd (h.plain '[' List.mem_cons_self) (by decide)
  · rfl

/-- A proper host is read back from its text. -/
theorem readHost?_render {host : Host} (h : host.IsProper) (hshort : host.HasShortLabels) :
    readHost? .special host.render.toList = some host := by
  cases h with
  | domain hplain hname hnumber =>
    have hlabels := hshort _ rfl
    rw [String.toList_ofList] at hlabels
    rw [Host.render, String.toList_ofList, readHost?_of_isPlainName hplain,
      readDomain?_of_isPlainName hplain (hname hlabels), hnumber]
    rfl
  | v4 haddress =>
    rw [Host.render, String.toList_ofList, readHost?_of_isPlainName (isPlainName_ipv4 _),
      readDomain?_ipv4 haddress]
  | v6 hgroups =>
    have hread := readV6?_compressGroups hgroups
    simp [Host.render, readHost?, hread]

end ToolGateway.Url
