import ToolGateway.Proofs.Config.Entries
import ToolGateway.Proofs.Text.Trimming

/-!
# The owner of a token

An authorization text carries a token behind the word `bearer` and a space. The tokens of a valid
configuration are neither empty nor equal to one another, so a text carries the token of one caller
at most, and it is this caller who is let in. Neither the order of the callers nor the peer matters.
-/

namespace ToolGateway

namespace Callers

/-! ## Headers that present a token -/

/-- A text carries a token: it is not too long, and it is trimmed to the word `bearer` in any case,
a space, and what in turn is trimmed to the token. -/
structure Carries (text token : String) : Prop where
  fits : text.utf8ByteSize ≤ 8192
  parts : ∃ scheme rest : List Char, Text.TrimsTo text.toList (scheme ++ ' ' :: rest) ∧
    ' ' ∉ scheme ∧ scheme.map Char.toLower = "bearer".toList ∧ Text.TrimsTo rest token.toList

/-- A header presents a token: there is one, and it carries the token. -/
def Presents (header : Option String) (token : String) : Prop :=
  ∃ text, header = some text ∧ Carries text token

variable {header : Option String} {text token : String} {scheme rest cs : List Char}

/-- A letter is folded to the small one as ASCII has it. -/
theorem foldCase_eq_toLower (c : Char) : foldCase c = c.toLower := by
  unfold foldCase Char.toLower
  split
  · next h =>
    have hfirst : 0x41 ≤ c.toNat := h.1
    have hlast : c.toNat ≤ 0x5A := h.2
    have hvalid : (c.toNat + 0x20).isValidChar := Or.inl (by omega)
    rw [dif_pos ⟨h.1, h.2⟩, Char.ofNat, dif_pos hvalid]
    apply Char.ext
    apply UInt32.toNat_inj.mp
    -- The number of a letter is far from the greatest that its code may hold.
    calc c.toNat + 0x20
        = (c.toNat + 0x20) % 2 ^ 32 := by omega
      _ = (c.val + 0x20).toNat := UInt32.toNat_add c.val 0x20
  · next h => rw [dif_neg fun hcapital => h ⟨hcapital.1, hcapital.2⟩]

/-- A text is cut into what stands before its first space and what stands behind it. -/
theorem cutAtSpace_append (h : ' ' ∉ scheme) (rest : List Char) :
    cutAtSpace (scheme ++ ' ' :: rest) = (scheme, rest) := by
  have hbefore : ∀ c ∈ scheme, decide (c ≠ ' ') = true := by
    intro c hc
    exact decide_eq_true fun hspace => h (hspace ▸ hc)
  rw [cutAtSpace, List.takeWhile_append_of_pos hbefore, List.dropWhile_append_of_pos hbefore]
  simp

/-- If something stands behind a space, the text is made of its two parts. -/
theorem eq_append_of_cutAtSpace (h : cutAtSpace cs = (scheme, rest)) (hrest : rest ≠ []) :
    cs = scheme ++ ' ' :: rest ∧ ' ' ∉ scheme := by
  obtain ⟨rfl, rfl⟩ := Prod.mk.inj h
  have hspace := List.head?_dropWhile_not (· ≠ ' ') cs
  constructor
  · cases hdrop : cs.dropWhile (· ≠ ' ') with
    | nil =>
      rw [hdrop] at hrest
      exact absurd rfl hrest
    | cons c behind =>
      rw [hdrop] at hspace
      obtain rfl : c = ' ' := by simpa using hspace
      rw [List.drop_one, List.tail_cons, ← hdrop, List.takeWhile_append_dropWhile]
  · intro hmem
    have hne := List.mem_takeWhile_imp hmem
    simp at hne

/-- A header presents one token at most. -/
theorem Presents.eq {token' : String} (h : Presents header token) (h' : Presents header token') :
    token = token' := by
  obtain ⟨text, rfl, -, scheme, rest, hwhole, hspace, -, htoken⟩ := h
  obtain ⟨text', htext, -, scheme', rest', hwhole', hspace', -, htoken'⟩ := h'
  obtain rfl := Option.some.inj htext
  have hparts : scheme ++ ' ' :: rest = scheme' ++ ' ' :: rest' := by
    rw [← Text.trimChars_eq_iff.mpr hwhole, Text.trimChars_eq_iff.mpr hwhole']
  have hcut : (scheme, rest) = (scheme', rest') := by
    rw [← cutAtSpace_append hspace, hparts, cutAtSpace_append hspace']
  obtain ⟨-, rfl⟩ := Prod.mk.inj hcut
  apply String.toList_inj.mp
  rw [← Text.trimChars_eq_iff.mpr htoken, Text.trimChars_eq_iff.mpr htoken']

/-- A text that is too long is refused. -/
theorem bearerToken_of_long (hlong : maxHeaderLength < text.utf8ByteSize) :
    bearerToken (some text) = .error .tooLarge := by
  unfold bearerToken
  dsimp only
  rw [if_pos hlong]

/-- A text that is not too long gives the parts of which it is made. -/
theorem bearerToken_some (hfits : text.utf8ByteSize ≤ 8192)
    (hcut : cutAtSpace (Text.trimChars text.toList) = (scheme, rest)) :
    bearerToken (some text) =
      if scheme.map Char.toLower = "bearer".toList ∧ Text.trimChars rest ≠ []
      then .ok (String.ofList (Text.trimChars rest)) else .error .malformed := by
  have hfold : foldCase = Char.toLower := funext foldCase_eq_toLower
  have hlong : ¬ maxHeaderLength < text.utf8ByteSize := Nat.not_lt.mpr hfits
  unfold bearerToken
  dsimp only
  rw [if_neg hlong, hcut, hfold]
  dsimp only
  rw [← ite_not]
  simp only [not_or, Decidable.not_not, ne_eq]

/-- The token of a header is the one that it presents, unless this is empty. -/
theorem bearerToken_eq_ok_iff :
    bearerToken header = .ok token ↔ Presents header token ∧ token ≠ "" := by
  constructor
  · intro h
    cases header with
    | none => cases h
    | some text =>
      by_cases hlong : maxHeaderLength < text.utf8ByteSize
      · rw [bearerToken_of_long hlong] at h
        cases h
      · have hfits : text.utf8ByteSize ≤ 8192 := Nat.le_of_not_lt hlong
        cases hcut : cutAtSpace (Text.trimChars text.toList) with
        | mk scheme rest =>
          rw [bearerToken_some hfits hcut] at h
          split at h
          · next hgood =>
            obtain ⟨hscheme, htoken⟩ := hgood
            obtain rfl := Except.ok.inj h
            have hrest : rest ≠ [] := by
              rintro rfl
              exact htoken rfl
            obtain ⟨hwhole, hspace⟩ := eq_append_of_cutAtSpace hcut hrest
            refine ⟨⟨text, rfl, hfits, scheme, rest, ?_, hspace, hscheme, ?_⟩, ?_⟩
            · exact Text.trimChars_eq_iff.mp hwhole
            · rw [String.toList_ofList]
              exact Text.trimsTo_trimChars rest
            · rwa [ne_eq, ← String.toList_eq_nil_iff, String.toList_ofList]
          · cases h
  · rintro ⟨⟨text, rfl, hfits, scheme, rest, hwhole, hspace, hscheme, htoken⟩, hne⟩
    have hcut : cutAtSpace (Text.trimChars text.toList) = (scheme, rest) := by
      rw [Text.trimChars_eq_iff.mpr hwhole, cutAtSpace_append hspace]
    have hnonempty : token.toList ≠ [] := fun hnil => hne (String.toList_eq_nil_iff.mp hnil)
    rw [bearerToken_some hfits hcut, Text.trimChars_eq_iff.mpr htoken,
      if_pos ⟨hscheme, hnonempty⟩, String.ofList_toList]

/-! ## Callers with tokens -/

variable {callers : Callers} {who : Identity}

/-- Of callers with tokens of their own the one is let in whose token is presented. -/
theorem authenticate_eq_ok_iff (hmode : callers.mode = .bearerToken)
    (htokens : callers.callers.Pairwise fun caller caller' => caller.token ≠ caller'.token)
    (peer : Option IpAddress) :
    callers.authenticate peer header = .ok who ↔
      ∃ caller ∈ callers.callers, caller.token ≠ "" ∧ Presents header caller.token ∧
        who = ⟨caller.id, some (fingerprint caller.token)⟩ := by
  rw [authenticate, hmode]
  dsimp only
  constructor
  · intro h
    split at h
    · cases h
    · next token htoken =>
      split at h
      · next caller hfound =>
        obtain ⟨hcaller, rfl⟩ := (Config.find?_key_eq_some_iff htokens).mp hfound
        obtain ⟨hpresents, hne⟩ := bearerToken_eq_ok_iff.mp htoken
        exact ⟨caller, hcaller, hne, hpresents, (Except.ok.inj h).symm⟩
      · cases h
  · rintro ⟨caller, hcaller, hne, hpresents, rfl⟩
    rw [bearerToken_eq_ok_iff.mpr ⟨hpresents, hne⟩]
    dsimp only
    rw [(Config.find?_key_eq_some_iff htokens).mpr ⟨hcaller, rfl⟩]

/-- Where callers have tokens nobody is asked to be local. -/
theorem authenticate_ne_notLoopback (hmode : callers.mode = .bearerToken)
    (peer : Option IpAddress) (header : Option String) :
    callers.authenticate peer header ≠ .error .notLoopback := by
  have htoken : bearerToken header ≠ .error .notLoopback := by
    unfold bearerToken
    cases header with
    | none => simp
    | some text =>
      dsimp only
      split
      · simp
      · split <;> simp
  rw [authenticate, hmode]
  dsimp only
  split
  · next failure hfailure =>
    intro hlocal
    obtain rfl := Except.error.inj hlocal
    exact htoken hfailure
  · split <;> simp

/-- In whatever order such callers are configured and whoever the peer is, the same comes out. -/
theorem authenticate_of_perm (hmode : callers.mode = .bearerToken)
    (htokens : callers.callers.Pairwise fun caller caller' => caller.token ≠ caller'.token)
    {others : List Caller} (hperm : others.Perm callers.callers) (peer peer' : Option IpAddress)
    (header : Option String) :
    { callers with callers := others }.authenticate peer' header =
      callers.authenticate peer header := by
  have hothers : others.Pairwise fun caller caller' => caller.token ≠ caller'.token :=
    (hperm.pairwise_iff Ne.symm).mpr htokens
  have hfind (token : String) :
      others.find? (·.token == token) = callers.callers.find? (·.token == token) := by
    apply Option.ext
    intro caller
    rw [Config.find?_key_eq_some_iff hothers, Config.find?_key_eq_some_iff htokens, hperm.mem_iff]
  rw [authenticate, authenticate, hmode]
  simp only [hfind]

end Callers

namespace Config

open Callers

variable {c : Config} {header : Option String} {who : Identity} {caller caller' : Caller}

/-- With a valid configuration the caller whose token is presented is let in. -/
theorem IsValid.authenticate_eq_ok_iff (h : c.IsValid)
    (hmode : c.listener.callers.mode = .bearerToken) (peer : Option IpAddress) :
    c.listener.callers.authenticate peer header = .ok who ↔
      ∃ caller ∈ c.listener.callers.callers, Presents header caller.token ∧
        who = ⟨caller.id, some (fingerprint caller.token)⟩ := by
  rw [Callers.authenticate_eq_ok_iff hmode h.pairwise_tokens]
  constructor
  · rintro ⟨caller, hcaller, -, hpresents, hwho⟩
    exact ⟨caller, hcaller, hpresents, hwho⟩
  · rintro ⟨caller, hcaller, hpresents, hwho⟩
    obtain ⟨hne, -, -⟩ := token_of_callerFaults (h.callerFaults_eq_nil hcaller)
    exact ⟨caller, hcaller, hne, hpresents, hwho⟩

/-- An id is that of one caller. -/
theorem IsValid.eq_of_id_eq (h : c.IsValid) (hcaller : caller ∈ c.listener.callers.callers)
    (hcaller' : caller' ∈ c.listener.callers.callers) (hid : caller.id = caller'.id) :
    caller = caller' := by
  have hfound := (find?_key_eq_some_iff h.pairwise_ids).mpr ⟨hcaller, hid⟩
  have hfound' := (find?_key_eq_some_iff h.pairwise_ids).mpr ⟨hcaller', rfl⟩
  exact Option.some.inj (hfound.symm.trans hfound')

/-- So just that caller's token gets its id. -/
theorem IsValid.map_id_authenticate_eq_ok_iff (h : c.IsValid)
    (hmode : c.listener.callers.mode = .bearerToken)
    (hcaller : caller ∈ c.listener.callers.callers) (peer : Option IpAddress) :
    (c.listener.callers.authenticate peer header).map Identity.id = .ok caller.id ↔
      Presents header caller.token := by
  constructor
  · intro hid
    cases hwho : c.listener.callers.authenticate peer header with
    | error failure =>
      rw [hwho] at hid
      cases hid
    | ok who =>
      rw [hwho] at hid
      obtain ⟨owner, howner, hpresents, rfl⟩ := (h.authenticate_eq_ok_iff hmode peer).mp hwho
      obtain rfl := h.eq_of_id_eq howner hcaller (Except.ok.inj hid)
      exact hpresents
  · intro hpresents
    rw [(h.authenticate_eq_ok_iff hmode peer).mpr ⟨caller, hcaller, hpresents, rfl⟩]
    rfl

/-- Strangers are those who present no token of a caller. -/
theorem IsValid.exists_authenticate_eq_error_iff (h : c.IsValid)
    (hmode : c.listener.callers.mode = .bearerToken) (peer : Option IpAddress) :
    (∃ failure ≠ .notLoopback, c.listener.callers.authenticate peer header = .error failure) ↔
      ∀ caller ∈ c.listener.callers.callers, ¬ Presents header caller.token := by
  constructor
  · rintro ⟨failure, -, hfailure⟩ caller hcaller hpresents
    rw [(h.authenticate_eq_ok_iff hmode peer).mpr ⟨caller, hcaller, hpresents, rfl⟩] at hfailure
    cases hfailure
  · intro hnone
    cases hwho : c.listener.callers.authenticate peer header with
    | error failure =>
      refine ⟨failure, ?_, rfl⟩
      rintro rfl
      exact authenticate_ne_notLoopback hmode peer header hwho
    | ok who =>
      obtain ⟨caller, hcaller, hpresents, -⟩ := (h.authenticate_eq_ok_iff hmode peer).mp hwho
      exact absurd hpresents (hnone caller hcaller)

/-- A valid configuration with tokens lets in just the callers whose tokens are presented. A header
does so if its text has at most 8192 bytes and is trimmed to the word `bearer` in any case, a space,
and what in turn is trimmed to the token; without such a header everybody is a stranger. No header
presents the tokens of two callers, and neither the order in which the callers are configured nor
the peer makes a difference to what comes out. -/
theorem IsValid.authenticates_owner_of_token (h : c.IsValid)
    (hmode : c.listener.callers.mode = .bearerToken) (header : Option String) :
    let callers := c.listener.callers
    (∀ peer, ∀ caller ∈ callers.callers,
      (callers.authenticate peer header).map Identity.id = .ok caller.id ↔
        Presents header caller.token) ∧
    (∀ peer, (∃ failure ≠ .notLoopback, callers.authenticate peer header = .error failure) ↔
      ∀ caller ∈ callers.callers, ¬ Presents header caller.token) ∧
    (callers.callers.Pairwise fun caller caller' =>
      ¬ (Presents header caller.token ∧ Presents header caller'.token)) ∧
    ∀ others : List Caller, others.Perm callers.callers → ∀ peer peer',
      { callers with callers := others }.authenticate peer' header =
        callers.authenticate peer header := by
  refine ⟨fun peer caller hcaller => ?_, fun peer => ?_, ?_, fun others hperm peer peer' => ?_⟩
  · exact h.map_id_authenticate_eq_ok_iff hmode hcaller peer
  · exact h.exists_authenticate_eq_error_iff hmode peer
  · apply h.pairwise_tokens.imp
    rintro caller caller' hne ⟨hpresents, hpresents'⟩
    exact hne (hpresents.eq hpresents')
  · exact authenticate_of_perm hmode h.pairwise_tokens hperm peer peer' header

/-- A token among blanks of several kinds, behind the word in mixed case, tells whose it is, and
does so as well if the callers are listed backwards. -/
theorem IsValid.authenticates_owner_of_token_among_blanks :
    let callers : List Caller := [⟨"reader", "secret-a"⟩, ⟨"writer", "secret-b"⟩]
    let c : Config :=
      { Config.standard with listener := { Config.Listener.standard with
          callers := ⟨.bearerToken, callers⟩ } }
    let header := some "\u00a0bEaReR \t secret-b\u2003"
    c.IsValid ∧
      (∀ peer, (c.listener.callers.authenticate peer header).map Identity.id = .ok "writer") ∧
      ∀ peer, (Callers.authenticate ⟨.bearerToken, callers.reverse⟩ peer header).map
        Identity.id = .ok "writer" := by
  intro callers c header
  have hvalid : c.IsValid := by decide +kernel +revert
  have hpresents : Presents header "secret-b" := by
    refine ⟨_, rfl, by decide +kernel, "bEaReR".toList, "\t secret-b".toList, ?_, ?_, ?_, ?_⟩
    · exact Text.trimChars_eq_iff.mp (by decide +kernel)
    · decide +kernel
    · decide +kernel
    · exact Text.trimChars_eq_iff.mp (by decide +kernel)
  obtain ⟨hknown, -, -, hperm⟩ := hvalid.authenticates_owner_of_token rfl header
  have hwriter (peer : Option IpAddress) :
      (c.listener.callers.authenticate peer header).map Identity.id = .ok "writer" :=
    (hknown peer ⟨"writer", "secret-b"⟩ (by simp [c, callers])).mpr hpresents
  refine ⟨hvalid, hwriter, fun peer => ?_⟩
  have hsame := hperm callers.reverse (List.reverse_perm callers) peer peer
  exact (congrArg (Except.map Identity.id) hsame).trans (hwriter peer)

end Config

end ToolGateway
