/-
  AccessControl/Proofs/Session/Own.lean
  =====================================
  **Session ids and their cookies.**

  A session id is made of the digits of a number, a colon and a digest.  So two numbers never
  give the same id, and an id has none of the characters that mean something in a cookie.  A
  cookie with an ordinary name is therefore read back as it was set: of the header that sets
  it, a client sends back what stands before the first semicolon, and the id is found in it,
  alone or among other cookies.

  ## Main statements

  * `SessionId.mint_injective`: different numbers give different ids;
  * `SessionId.fits_mint`: a cookie can carry every id;
  * `SessionCookie.first_piece`: what a client sends back;
  * `SessionCookie.extract_own`: the id is found in it;
  * `cookie_returns_id`: what comes back of an id that was set.
-/
import AccessControl.Proofs.Session.Carried
import AccessControl.Session.Mint

namespace AccessControl

open Digest

/-! ## 1. The characters of a session id -/

namespace SessionId

variable {salt : Salt} {nonce : UInt64}

theorem colon_notMem_digits (n : Nat) : ':' ∉ Text.digits n := fun h => by
  have := Text.isDigit_of_mem_digits h
  revert this
  decide

/-- Different numbers give different ids. -/
theorem mint_injective {m n : UInt64} (h : mint salt m = mint salt n) : m = n := by
  have same := congrArg (Text.pieces ':' ·.value.toList) h
  simp only [mint, sealed, String.toList_ofList,
    Text.pieces_append_cons (colon_notMem_digits _)] at same
  exact UInt64.toNat_inj.1 (Text.digits_injective (List.cons.inj same).1)

theorem mem_mint {c : Char} (h : c ∈ (mint salt nonce).value.toList) :
    Text.isDigit c = true ∨ c = ':' ∨ IsHexDigit c := by
  simp only [mint, sealed, String.toList_ofList, List.mem_append, List.mem_cons] at h
  rcases h with h | h | h
  · exact Or.inl (Text.isDigit_of_mem_digits h)
  · exact Or.inr (Or.inl h)
  · exact Or.inr (Or.inr (Salt.isHexDigit_of_mem_digestText h))

theorem plain_of_mem_mint {c : Char} (h : c ∈ (mint salt nonce).value.toList) :
    Text.isWhite c = false ∧ c ≠ ';' ∧ c ≠ '"' := by
  have low : c.toNat = 58 ∨ 48 ≤ c.toNat ∧ c.toNat ≤ 57 ∨ 97 ≤ c.toNat ∧ c.toNat ≤ 102 := by
    rcases mem_mint h with digit | rfl | hex
    · simp only [Text.isDigit, Bool.and_eq_true, decide_eq_true_eq] at digit
      omega
    · exact Or.inl (by decide)
    · rcases hex with ⟨least, most⟩ | ⟨least, most⟩
      · exact Or.inr (Or.inl ⟨least, most⟩)
      · exact Or.inr (Or.inr ⟨least, most⟩)
  refine ⟨?_, ?_, ?_⟩
  · simp only [Text.isWhite, Bool.or_eq_false_iff, Bool.and_eq_false_iff, decide_eq_false_iff_not,
      beq_eq_false_iff_ne]
    omega
  · rintro rfl
    revert low
    decide
  · rintro rfl
    revert low
    decide

theorem mint_ne_nil : (mint salt nonce).value.toList ≠ [] := by
  simp [mint, sealed]

/-- A cookie can carry every id. -/
theorem fits_mint (salt : Salt) (nonce : UInt64) : (mint salt nonce).Fits where
  nonempty := mint_ne_nil
  single h := (plain_of_mem_mint h).2.1 rfl
  first x hx := by
    obtain ⟨white, -, quote⟩ := plain_of_mem_mint (List.mem_of_mem_head? hx)
    exact ⟨white, quote⟩
  last x hx := by
    obtain ⟨white, -, quote⟩ := plain_of_mem_mint (List.mem_of_getLast? hx)
    exact ⟨white, quote⟩

end SessionId

/-! ## 2. Cookies -/

namespace SessionCookie

variable {c : SessionCookie} {salt : Salt} {nonce : UInt64}

/-- What a client sends back is the name and the value. -/
theorem first_piece (plain : c.Plain) :
    (Text.pieces ';' (c.render (.mint salt nonce)).toList).head? =
      some (c.name.toList ++ '=' :: (SessionId.mint salt nonce).value.toList) := by
  rw [pieces_render plain (SessionId.fits_mint salt nonce)]
  rfl

/-- The id is found in what the client sends back. -/
theorem extract_own (plain : c.Plain) :
    c.extract (some (String.ofList
      (c.name.toList ++ '=' :: (SessionId.mint salt nonce).value.toList))) =
        some (.mint salt nonce) :=
  extract_carrying plain (SessionId.fits_mint salt nonce)

end SessionCookie

/-- For every cookie name that the settings may have, and every id that a cookie can carry: the
    id comes back from the header that sets the cookie, from the first piece of it, and from
    every header in which this piece stands, with any white space around it, behind pieces that
    are no cookies of this name and before any others.  The header that sets the cookie has
    nothing but this piece and the attributes, whatever the id is.  All ids that are minted can
    be carried. -/
theorem cookie_returns_id {s : Settings} {read : DurationReader} (valid : s.validate read = .ok ())
    {c : SessionCookie} (named : c.name = s.session.cookieName) {id : SessionId} (fits : id.Fits) :
    c.extract (some (c.render id)) = some id ∧
    c.extract (some (String.ofList (c.carrying id))) = some id ∧
    (∀ front lead trail back,
      (∀ piece ∈ front, ';' ∉ piece ∧ c.Foreign piece) →
      (∀ x ∈ lead, Text.isWhite x = true) → (∀ x ∈ trail, Text.isWhite x = true) →
      c.extract (some (String.ofList
        (Text.joined ';' (front ++ (lead ++ c.carrying id ++ trail) :: back)))) = some id) ∧
    (Text.pieces ';' (c.render id).toList =
      c.carrying id :: (" Max-Age=".toList ++ Text.digits c.maxAgeSeconds.toNat) ::
        " HttpOnly".toList :: if c.secure then [" Secure".toList] else []) ∧
    ∀ salt nonce, (SessionId.mint salt nonce).Fits := by
  obtain ⟨-, name, -⟩ := Settings.validate_eq_ok.1 valid
  have plain : c.Plain := by
    apply SessionCookie.plain_of_isCookieName
    rw [named]
    exact name
  refine ⟨?_, SessionCookie.extract_carrying plain fits, ?_,
    SessionCookie.pieces_render plain fits, SessionId.fits_mint⟩
  · -- the header that sets the cookie is made of its pieces
    have pieces := Text.joined_pieces ';' (c.render id).toList
    rw [SessionCookie.pieces_render plain fits] at pieces
    rw [← String.ofList_toList (s := c.render id), ← pieces]
    exact SessionCookie.extract_first plain fits _
  · intro front lead trail back foreign hl ht
    exact SessionCookie.extract_joined plain fits foreign hl ht

/-- An id with an equals sign comes back from behind another cookie. -/
theorem cookie_returns_id_sample :
    let s : Settings := { Settings.default with secretSalt := "pepper" }
    let c : SessionCookie := ⟨"SessionId", 60, true⟩
    let id : SessionId := ⟨"a=b c"⟩
    s.validate = .ok () ∧ c.name = s.session.cookieName ∧ id.Fits ∧
      c.extract (some "theme = dark;\t SessionId=a=b c ; SessionId=x") = some id := by
  intro s c id
  have valid : s.validate = .ok () := by decide
  have fits : id.Fits :=
    ⟨by decide, by decide, by simp [id, Text.isWhite], by simp [id, Text.isWhite]⟩
  have other : c.Foreign "theme = dark".toList :=
    Or.inr ⟨"theme ".toList, " dark".toList, rfl, by decide, by decide⟩
  obtain ⟨-, -, among, -⟩ := cookie_returns_id valid (c := c) rfl fits
  have found := among ["theme = dark".toList] "\t ".toList " ".toList [" SessionId=x".toList]
    (List.forall_mem_singleton.2 ⟨by decide, other⟩) (by simp [Text.isWhite])
    (by simp [Text.isWhite])
  have header : String.ofList (Text.joined ';' (["theme = dark".toList] ++
      ("\t ".toList ++ c.carrying id ++ " ".toList) :: [" SessionId=x".toList])) =
        "theme = dark;\t SessionId=a=b c ; SessionId=x" := by decide
  rw [header] at found
  exact ⟨valid, rfl, fits, found⟩

end AccessControl
