import Mathlib.Logic.ExistsUnique
import ToolGateway.Proofs.Credential.Sealing
import ToolGateway.Proofs.Crypto.Galois
import ToolGateway.Proofs.Text.Canonical

/-!
# What opens was sealed

Decrypting accepts just the byte strings that encrypting can make: a nonce, a text masked byte by
byte, and the one tag that belongs to both. So a stored credential opens if it is the Base64 text of
such a byte string and the secret in it is UTF-8, and the first of these three that does not hold is
the error. Nothing here depends on the block cipher.
-/

namespace ToolGateway

namespace Gcm

variable {cipher : Block → Block} {nonce plain masked authentic data : Bytes}

/-- A text is sealed under a nonce: it is masked with the key stream from the second counter on, and
the tag is the polynomial of the masked blocks and of their length, itself masked with the first
counter. -/
structure IsSealing (cipher : Block → Block) (plain nonce masked authentic : Bytes) : Prop where
  length_nonce : nonce.length = 12
  length_masked : masked.length = plain.length
  masked_byte : ∀ place : Nat,
    masked[place]? = plain[place]?.map (· ^^^ streamByte cipher nonce 2 place)
  length_authentic : authentic.length = 16
  authentic_eq : authentic =
    (polynomial (cipher 0) (blocksOf masked ++ [BitVec.ofNat 128 (masked.length * 8)]) ^^^
      cipher (counterBlock nonce 1)).toBytes

/-- The tag is that of the polynomial. -/
theorem tag_eq_polynomial (masked : Bytes) :
    tag cipher nonce masked =
      (polynomial (cipher 0) (blocksOf masked ++ [BitVec.ofNat 128 (masked.length * 8)]) ^^^
        cipher (counterBlock nonce 1)).toBytes := by
  rw [tag, hash_eq_polynomial]

/-- Masking and adding the tag seals, and nothing else does. -/
theorem isSealing_iff : IsSealing cipher plain nonce masked authentic ↔
    nonce.length = nonceLength ∧ masked = mask cipher nonce 2 plain ∧
      authentic = tag cipher nonce masked := by
  constructor
  · intro h
    refine ⟨h.length_nonce, ?_, ?_⟩
    · apply List.ext_getElem?
      intro place
      rw [h.masked_byte, getElem?_mask]
    · rw [h.authentic_eq, tag_eq_polynomial]
  · rintro ⟨hnonce, rfl, rfl⟩
    exact ⟨hnonce, length_mask 2 plain, getElem?_mask 2 plain, length_tag _, tag_eq_polynomial _⟩

/-- What is decrypted was encrypted. -/
theorem decrypt?_eq_some_iff : decrypt? cipher nonce data = some plain ↔
    data = encrypt cipher nonce plain := by
  constructor
  · intro h
    unfold decrypt? at h
    split at h
    · cases h
    · dsimp only at h
      split at h
      · next htag =>
        obtain rfl := Option.some.inj h
        rw [encrypt, mask_mask, ← htag, List.take_append_drop]
      · cases h
  · intro h
    rw [h, decrypt?_encrypt]

end Gcm

namespace CredentialKey

variable {key : CredentialKey} {plain data nonce masked : Bytes} {stored : String}

/-- A byte string is a text sealed under a key. -/
def Seals (key : CredentialKey) (plain data : Bytes) : Prop :=
  ∃ nonce masked authentic, data = nonce ++ masked ++ authentic ∧
    Gcm.IsSealing key.cipher plain nonce masked authentic

/-- What opening a stored credential comes to. -/
inductive Opens (key : CredentialKey) (stored : String) : Except CredentialError Secret → Prop
  /-- The text is not that of any byte string. -/
  | notBase64 (unwritten : ∀ data, Text.trim stored ≠ Text.Base64.encode data) :
      Opens key stored (.error .notBase64)
  /-- The bytes are not those of any sealed text. -/
  | notAuthentic {data : Bytes} (written : Text.trim stored = Text.Base64.encode data)
      (unsealed : ∀ plain, ¬ key.Seals plain data) : Opens key stored (.error .notAuthentic)
  /-- The bytes that were sealed are not those of any secret. -/
  | notText {data plain : Bytes} (written : Text.trim stored = Text.Base64.encode data)
      (isSealed : key.Seals plain data) (unwritten : ∀ text, plain ≠ Text.Utf8.encode text) :
      Opens key stored (.error .notText)
  /-- The bytes of a secret were sealed. -/
  | opened {data : Bytes} {secret : Secret} (written : Text.trim stored = Text.Base64.encode data)
      (isSealed : key.Seals (Text.Utf8.encode secret.text) data) : Opens key stored (.ok secret)

/-! ## Byte strings -/

/-- Encrypting seals. -/
theorem seals_encrypt (hnonce : nonce.length = Gcm.nonceLength) (plain : Bytes) :
    key.Seals plain (key.encrypt nonce plain) := by
  refine ⟨nonce, Gcm.mask key.cipher nonce 2 plain, _, ?_,
    Gcm.isSealing_iff.mpr ⟨hnonce, rfl, rfl⟩⟩
  rw [encrypt, Gcm.encrypt, List.append_assoc]

/-- A sealed text is one that was encrypted under the nonce in front. -/
theorem seals_iff : key.Seals plain data ↔
    28 ≤ data.length ∧ data = key.encrypt (data.take 12) plain := by
  constructor
  · rintro ⟨nonce, masked, authentic, rfl, h⟩
    obtain ⟨hnonce, rfl, rfl⟩ := Gcm.isSealing_iff.mp h
    have hnonce' : nonce.length = 12 := hnonce
    have htag := h.length_authentic
    rw [List.append_assoc, List.take_left' hnonce']
    refine ⟨?_, rfl⟩
    simp only [List.length_append]
    omega
  · rintro ⟨hlong, hdata⟩
    rw [hdata]
    apply seals_encrypt
    rw [List.length_take, Nat.min_eq_left (by omega)]
    rfl

/-- Sealing adds a nonce and a tag. -/
theorem Seals.length_eq (h : key.Seals plain data) : data.length = plain.length + 28 := by
  obtain ⟨nonce, masked, authentic, rfl, h⟩ := h
  rw [List.length_append, List.length_append, h.length_nonce, h.length_masked, h.length_authentic]
  omega

/-- Just the sealed byte strings are decrypted, to what was sealed. -/
theorem decrypt_eq_ok_iff : key.decrypt data = .ok plain ↔ key.Seals plain data := by
  have hlengths : Gcm.nonceLength + Gcm.tagLength = 28 := rfl
  rw [seals_iff, decrypt, hlengths]
  by_cases hshort : data.length < 28
  · rw [if_pos hshort]
    constructor
    · intro h
      cases h
    · intro h
      omega
  · have hparts : Gcm.decrypt? key.cipher (data.take 12) (data.drop 12) = some plain ↔
        data = key.encrypt (data.take 12) plain := by
      rw [Gcm.decrypt?_eq_some_iff, encrypt]
      constructor
      · intro h
        rw [← h, List.take_append_drop]
      · intro h
        exact List.append_cancel_left ((List.take_append_drop 12 data).trans h)
    rw [if_neg hshort, and_iff_right (Nat.not_lt.mp hshort), ← hparts, Gcm.nonceLength]
    cases Gcm.decrypt? key.cipher (data.take 12) (data.drop 12) <;> simp

/-- All others are refused for one reason. -/
theorem decrypt_of_forall_not_seals (h : ∀ plain, ¬ key.Seals plain data) :
    key.decrypt data = .error .notAuthentic := by
  cases hdecrypt : key.decrypt data with
  | ok plain => exact absurd (decrypt_eq_ok_iff.mp hdecrypt) (h plain)
  | error cause => rw [of_decrypt_eq_error hdecrypt]

/-- A byte string is cut into its parts by their lengths. -/
theorem seals_append_iff {authentic : Bytes} (hnonce : nonce.length = 12)
    (hauthentic : authentic.length = 16) :
    key.Seals plain (nonce ++ masked ++ authentic) ↔
      Gcm.IsSealing key.cipher plain nonce masked authentic := by
  constructor
  · rintro ⟨nonce', masked', authentic', hparts, h⟩
    obtain ⟨hfront, rfl⟩ :=
      List.append_inj' hparts (hauthentic.trans h.length_authentic.symm)
    obtain ⟨rfl, rfl⟩ := List.append_inj hfront (hnonce.trans h.length_nonce.symm)
    exact h
  · intro h
    exact ⟨nonce, masked, authentic, rfl, h⟩

/-- Behind a nonce and a masked text just one tag is accepted. -/
theorem existsUnique_tag (hnonce : nonce.length = 12) (masked : Bytes) :
    ∃! authentic : Bytes, authentic.length = 16 ∧
      ∃ plain, key.decrypt (nonce ++ masked ++ authentic) = .ok plain := by
  have htag : (Gcm.tag key.cipher nonce masked).length = 16 := Gcm.length_tag masked
  refine ⟨Gcm.tag key.cipher nonce masked,
    ⟨htag, Gcm.mask key.cipher nonce 2 masked, ?_⟩, ?_⟩
  · rw [decrypt_eq_ok_iff, seals_append_iff hnonce htag, Gcm.isSealing_iff, Gcm.mask_mask]
    exact ⟨hnonce, rfl, rfl⟩
  · rintro authentic ⟨hlength, plain, hplain⟩
    rw [decrypt_eq_ok_iff, seals_append_iff hnonce hlength, Gcm.isSealing_iff] at hplain
    exact hplain.2.2

/-! ## Stored texts -/

/-- Bytes are stored as their Base64 text. -/
theorem decodeStored_eq_ok_iff :
    decodeStored stored = .ok data ↔ Text.trim stored = Text.Base64.encode data := by
  rw [decodeStored, ← Text.Base64.decode?_eq_some_iff]
  cases Text.Base64.decode? (Text.trim stored) <;> simp

/-- All other texts are refused for one reason. -/
theorem decodeStored_of_forall_ne (h : ∀ data, Text.trim stored ≠ Text.Base64.encode data) :
    decodeStored stored = .error .notBase64 := by
  rw [decodeStored]
  cases hdecode : Text.Base64.decode? (Text.trim stored) with
  | none => rfl
  | some data => exact absurd (Text.Base64.decode?_eq_some_iff.mp hdecode) (h data)

/-- The bytes of a text are opened by decrypting them and reading what was sealed. -/
theorem openStored_of_written (written : Text.trim stored = Text.Base64.encode data) :
    key.openStored stored = (key.decrypt data).bind fun plain =>
      match Text.Utf8.decode? plain with
      | some text => .ok ⟨text⟩
      | none => .error .notText := by
  rw [openStored, decodeStored_eq_ok_iff.mpr written]
  rfl

/-- What opening comes to is what it gives. -/
theorem Opens.openStored_eq {result : Except CredentialError Secret} (h : key.Opens stored result) :
    key.openStored stored = result := by
  cases h with
  | notBase64 unwritten =>
    rw [openStored, decodeStored_of_forall_ne unwritten]
    rfl
  | notAuthentic written unsealed =>
    rw [openStored_of_written written, decrypt_of_forall_not_seals unsealed]
    rfl
  | @notText data plain written isSealed unwritten =>
    have hnone : Text.Utf8.decode? plain = none := by
      rw [Option.eq_none_iff_forall_ne_some]
      intro text htext
      exact unwritten text (Text.Utf8.decode?_eq_some_iff.mp htext)
    rw [openStored_of_written written, decrypt_eq_ok_iff.mpr isSealed, Except.bind, hnone]
  | @opened data secret written isSealed =>
    rw [openStored_of_written written, decrypt_eq_ok_iff.mpr isSealed, Except.bind,
      Text.Utf8.decode?_encode]

/-- Opening comes to something. -/
theorem exists_opens (key : CredentialKey) (stored : String) :
    ∃ result, key.Opens stored result := by
  by_cases hwritten : ∃ data, Text.trim stored = Text.Base64.encode data
  · obtain ⟨data, hdata⟩ := hwritten
    by_cases hsealed : ∃ plain, key.Seals plain data
    · obtain ⟨plain, hplain⟩ := hsealed
      by_cases htext : ∃ text, plain = Text.Utf8.encode text
      · obtain ⟨text, rfl⟩ := htext
        exact ⟨.ok ⟨text⟩, Opens.opened hdata hplain⟩
      · exact ⟨_, Opens.notText hdata hplain (not_exists.mp htext)⟩
    · exact ⟨_, Opens.notAuthentic hdata (not_exists.mp hsealed)⟩
  · exact ⟨_, Opens.notBase64 (not_exists.mp hwritten)⟩

/-- Under a key just the byte strings are decrypted that encrypting can make: those of at least
twenty-eight bytes that are their first twelve followed by the text encrypted under these as nonce,
so that each byte of the text is masked at its place and the tag behind is that of the masked text.
They are twenty-eight bytes longer than the text, and no other tag is accepted behind a nonce and a
masked text. A stored credential opens if blanks aside it is the Base64 text of such a byte string
with the UTF-8 bytes of the secret in it; otherwise the error tells which of Base64, tag and UTF-8
is the first to fail. -/
theorem decrypts_just_what_encrypts (key : CredentialKey) :
    (∀ data plain, key.decrypt data = .ok plain ↔
      28 ≤ data.length ∧ data = key.encrypt (data.take 12) plain) ∧
    (∀ data plain, key.decrypt data = .ok plain ↔ key.Seals plain data) ∧
    (∀ data plain, key.decrypt data = .ok plain → data.length = plain.length + 28) ∧
    (∀ nonce masked : Bytes, nonce.length = 12 → ∃! authentic : Bytes, authentic.length = 16 ∧
      ∃ plain, key.decrypt (nonce ++ masked ++ authentic) = .ok plain) ∧
    ∀ stored result, key.openStored stored = result ↔ key.Opens stored result := by
  refine ⟨fun data plain => ?_, fun data plain => decrypt_eq_ok_iff, fun data plain hplain => ?_,
    fun nonce masked hnonce => existsUnique_tag hnonce masked, fun stored result => ⟨?_, ?_⟩⟩
  · rw [decrypt_eq_ok_iff, seals_iff]
  · exact (decrypt_eq_ok_iff.mp hplain).length_eq
  · rintro rfl
    obtain ⟨result, hresult⟩ := exists_opens key stored
    rwa [hresult.openStored_eq]
  · exact Opens.openStored_eq

/-- Under the key of zeros an encrypted greeting is as long as it should be, one tag is accepted
behind a nonce and no text at all, and a Base64 text with stray bits in its last digit is not read
although another one stands for the same byte. -/
theorem decrypts_just_what_encrypts_of_zeros :
    let key : CredentialKey := ⟨List.replicate 32 0, List.length_replicate⟩
    let nonce : Bytes := List.replicate 12 0
    (key.encrypt nonce [0x68, 0x69]).length = 30 ∧
      (∃! authentic : Bytes, authentic.length = 16 ∧
        ∃ plain, key.decrypt (nonce ++ [] ++ authentic) = .ok plain) ∧
      key.openStored "AB==" = .error .notBase64 ∧ key.openStored "AA==" ≠ .error .notBase64 := by
  intro key nonce
  have hnonce : nonce.length = 12 := List.length_replicate
  obtain ⟨-, -, hlength, htag, hopens⟩ := decrypts_just_what_encrypts key
  refine ⟨?_, htag nonce [] hnonce, ?_, ?_⟩
  · exact hlength _ [0x68, 0x69] (decrypt_encrypt key hnonce _)
  · apply (hopens _ _).mpr
    apply Opens.notBase64
    intro data hdata
    have hnone : Text.Base64.decode? (Text.trim "AB==") = none := by decide +kernel
    cases hnone.symm.trans (Text.Base64.decode?_eq_some_iff.mpr hdata)
  · intro hread
    cases (hopens _ _).mp hread with
    | notBase64 unwritten => exact unwritten [0] (by decide +kernel)

end CredentialKey

end ToolGateway
