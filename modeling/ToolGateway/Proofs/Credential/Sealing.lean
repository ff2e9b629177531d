import ToolGateway.Credential
import ToolGateway.Proofs.Text.Written

/-!
# Sealed secrets open

Masking twice gives back a byte string, whatever the cipher is, so what was encrypted is decrypted
under the same key and nonce. A secret that was sealed opens under its key.
-/

namespace ToolGateway

namespace Gcm

variable {cipher : Block → Block} {nonce : Bytes}

/-- A byte string is masked in pieces of one block each. -/
theorem mask_of_ne_nil {bytes : Bytes} (h : bytes ≠ []) (counter : Nat) :
    mask cipher nonce counter bytes =
      List.zipWith (· ^^^ ·) (bytes.take 16) (cipher (counterBlock nonce counter)).toBytes ++
        mask cipher nonce (counter + 1) (bytes.drop 16) := by
  cases bytes with
  | nil => exact absurd rfl h
  | cons b rest =>
    rw [mask]
    rfl

/-- A pad that is added twice goes away. -/
theorem zipWith_xor_zipWith_xor {bytes pad : Bytes} (h : bytes.length ≤ pad.length) :
    List.zipWith (· ^^^ ·) (List.zipWith (· ^^^ ·) bytes pad) pad = bytes := by
  induction bytes generalizing pad with
  | nil => rfl
  | cons b bytes ih =>
    cases pad with
    | nil => simp at h
    | cons p pad =>
      rw [List.zipWith_cons_cons, List.zipWith_cons_cons, ih (Nat.le_of_succ_le_succ h),
        UInt8.xor_assoc, UInt8.xor_self, UInt8.xor_zero]

/-- Masking a piece of at most one block and what follows it masks the rest on its own: the rest is
empty where the piece is shorter than a block. -/
theorem mask_append {piece rest : Bytes} (hpiece : piece ≠ []) (hshort : piece.length ≤ 16)
    (hrest : piece.length < 16 → rest = []) (counter : Nat) :
    mask cipher nonce counter (piece ++ rest) =
      List.zipWith (· ^^^ ·) piece (cipher (counterBlock nonce counter)).toBytes ++
        mask cipher nonce (counter + 1) rest := by
  rw [mask_of_ne_nil (List.append_ne_nil_of_left_ne_nil hpiece rest)]
  rcases Nat.lt_or_eq_of_le hshort with hlt | heq
  · rw [hrest hlt, List.append_nil, List.take_of_length_le hshort, List.drop_of_length_le hshort]
  · rw [List.take_left' heq, List.drop_left' heq]

/-- Masking twice gives back the byte string. -/
theorem mask_mask (counter : Nat) (bytes : Bytes) :
    mask cipher nonce counter (mask cipher nonce counter bytes) = bytes := by
  fun_induction mask cipher nonce counter bytes with
  | case1 => rw [mask]
  | case2 counter b rest ih =>
    have hpad : (cipher (counterBlock nonce counter)).toBytes.length = 16 :=
      Block.length_toBytes _
    generalize hpads : (cipher (counterBlock nonce counter)).toBytes = pad at hpad
    have htake : (b :: rest.take 15).length ≤ pad.length := by
      rw [hpad, List.length_cons, List.length_take]
      omega
    have hlength : (List.zipWith (· ^^^ ·) (b :: rest.take 15) pad).length =
        (b :: rest.take 15).length := by
      rw [List.length_zipWith, Nat.min_eq_left htake]
    rw [mask_append _ (hlength ▸ hpad ▸ htake) _, hpads,
      zipWith_xor_zipWith_xor htake, ih, List.cons_append, List.take_append_drop]
    · exact List.ne_nil_of_length_pos (hlength ▸ Nat.succ_pos _)
    · intro hlt
      rw [hlength, List.length_cons, List.length_take] at hlt
      rw [List.drop_of_length_le (by omega), mask]

/-- A tag has sixteen bytes. -/
theorem length_tag (masked : Bytes) : (tag cipher nonce masked).length = tagLength := by
  simp [tag, tagLength]

/-- What was encrypted is decrypted. -/
theorem decrypt?_encrypt (cipher : Block → Block) (nonce plain : Bytes) :
    decrypt? cipher nonce (encrypt cipher nonce plain) = some plain := by
  have hlength (masked : Bytes) :
      (masked ++ tag cipher nonce masked).length = masked.length + tagLength := by
    rw [List.length_append, length_tag]
  unfold decrypt? encrypt
  dsimp only
  rw [hlength, if_neg (by omega), Nat.add_sub_cancel, List.take_left, List.drop_left, if_pos rfl,
    mask_mask]

end Gcm

namespace CredentialKey

variable {nonce : Bytes}

/-- What was encrypted under a key is decrypted under it. -/
theorem decrypt_encrypt (key : CredentialKey) (h : nonce.length = Gcm.nonceLength) (plain : Bytes) :
    key.decrypt (key.encrypt nonce plain) = .ok plain := by
  have hlong : ¬ (nonce ++ Gcm.encrypt key.cipher nonce plain).length <
      Gcm.nonceLength + Gcm.tagLength := by
    rw [List.length_append, h, Gcm.encrypt, List.length_append, Gcm.length_tag]
    omega
  rw [decrypt, encrypt, if_neg hlong, List.take_left' h, List.drop_left' h, Gcm.decrypt?_encrypt]

/-- Decrypting fails for one reason. -/
theorem of_decrypt_eq_error {key : CredentialKey} {data : Bytes} {cause : CredentialError}
    (h : key.decrypt data = .error cause) : cause = .notAuthentic := by
  unfold decrypt at h
  split at h
  · exact (Except.error.inj h).symm
  · split at h
    · cases h
    · exact (Except.error.inj h).symm

/-- A sealed secret opens under its key. -/
theorem openStored_sealSecret (key : CredentialKey) (h : nonce.length = Gcm.nonceLength)
    (secret : Secret) : key.openStored (key.sealSecret nonce secret) = .ok secret := by
  have hbytes : decodeStored (key.sealSecret nonce secret) =
      .ok (key.encrypt nonce (Text.Utf8.encode secret.text)) := by
    rw [decodeStored, sealSecret, Text.Base64.decode?_trim_encode]
  have hplain := decrypt_encrypt key h (Text.Utf8.encode secret.text)
  have htext := Text.Utf8.decode?_encode secret.text
  simp [openStored, hbytes, hplain, htext, bind, Except.bind, pure, Except.pure]

end CredentialKey

end ToolGateway
