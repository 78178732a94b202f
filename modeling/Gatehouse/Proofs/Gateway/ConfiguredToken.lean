import Gatehouse.Proofs.Gateway.Caller
import Gatehouse.Proofs.Text.ByteOrder

/-!
# Callers with the token

A caller that presents the configured token, written as it is configured, need not get through: what is
presented is read as text only if it is visible ASCII, and what is configured may be any text.

* `isLegal_iff_bytes`: a text may be sent in a header exactly if all its bytes may;
* `isVisible_iff`: of the characters that may be sent, those of ASCII are read;
* `configured_passes_iff`: the configured token opens the gate exactly if it is ASCII.
-/

namespace Gatehouse

open Gatehouse.Text

/-! ## 1. What may be sent and what is read -/

namespace Text

/-- The text is ASCII. -/
def IsAscii (s : String) : Prop := ∀ c ∈ s.toList, c.toNat < 0x80

instance (s : String) : Decidable (IsAscii s) := List.decidableBAll _ s.toList

theorem Utf8.ofNat_mem_utf8EncodeChar {c : Char} (h : c.toNat < 0x80) :
    UInt8.ofNat c.toNat ∈ String.utf8EncodeChar c := by
  have hlead : leadByte c.toNat = c.toNat := by
    have hform := leadByte_cases c.toNat
    omega
  rw [utf8EncodeChar_eq, hlead]
  exact List.mem_cons_self

end Text

namespace Http.Header

/-- The byte may stand in the value of a header: it is no control character other than the tab. -/
def LegalByte (b : UInt8) : Prop := 0x20 ≤ b.toNat ∧ b.toNat ≠ 0x7F ∨ b.toNat = 0x09

instance (b : UInt8) : Decidable (LegalByte b) :=
  inferInstanceAs (Decidable (0x20 ≤ b.toNat ∧ b.toNat ≠ 0x7F ∨ b.toNat = 0x09))

/-- The character may stand in the value of a header. -/
def LegalChar (c : Char) : Prop := 0x20 ≤ c.toNat ∧ c.toNat ≠ 0x7F ∨ c = '\t'

theorem isLegal_iff (s : String) : isLegal s = true ↔ ∀ c ∈ s.toList, LegalChar c := by
  simp only [isLegal, List.all_eq_true, LegalChar, Bool.or_eq_true, Bool.and_eq_true,
    decide_eq_true_eq, bne_iff_ne, beq_iff_eq, ne_eq]

theorem legalChar_iff (c : Char) : LegalChar c ↔ ∀ b ∈ String.utf8EncodeChar c, LegalByte b := by
  have htab : c = '\t' ↔ c.toNat = 0x09 := Char.toNat_inj.symm
  rw [LegalChar, htab]
  constructor
  · intro hc b hb
    have hbyte := Utf8.forall_mem_utf8EncodeChar c b hb
    unfold LegalByte
    omega
  · intro h
    by_cases hc : c.toNat < 0x80
    · have hbyte : LegalByte (UInt8.ofNat c.toNat) := h _ (Utf8.ofNat_mem_utf8EncodeChar hc)
      rwa [LegalByte, Utf8.toNat_ofNat_of_lt (by omega)] at hbyte
    · omega

/-- **A text may be sent exactly if all its bytes may.** -/
theorem isLegal_iff_bytes (s : String) : isLegal s = true ↔ ∀ b ∈ Utf8.encode s, LegalByte b := by
  rw [isLegal_iff, Utf8.encode]
  simp only [legalChar_iff, List.forall_mem_flatMap]

/-- Of the characters that may be sent, those of ASCII are read. -/
theorem isVisible_iff {c : Char} (h : LegalChar c) : isVisible c = true ↔ c.toNat < 0x80 := by
  rw [isVisible, Bool.or_eq_true, Bool.and_eq_true, decide_eq_true_eq, decide_eq_true_eq, beq_iff_eq]
  rcases h with h | rfl
  · constructor
    · rintro (hvisible | rfl)
      · omega
      · decide
    · exact fun hc => .inl (by omega)
  · decide

theorem visible?_eq_some_iff {value : String} (h : isLegal value = true) :
    visible? value = some value ↔ IsAscii value := by
  rw [isLegal_iff] at h
  rw [visible?, Option.ite_none_right_eq_some, List.all_eq_true]
  simp only [and_true]
  exact forall₂_congr fun c hc => isVisible_iff (h c hc)

end Http.Header

/-! ## 2. The configured token -/

namespace Gateway

/-- The exchange at a service with another check of callers. -/
def Exchange.withToken (x : Exchange) (token : ServiceToken) : Exchange :=
  { x with after := { x.after with token := token } }

theorem ServiceToken.accepts_configured (token : String) :
    (ofConfigured token).accepts (trim token) = true := by
  rw [accepts, ofConfigured]
  split
  · rfl
  · rename_i d hd
    simp only at hd
    split at hd
    · cases hd
    · rw [← Option.some.inj hd, beq_self_eq_true]

namespace Service

open Gatehouse.Gateway.Refusal (errorBody)

variable {token : String}

theorem legal_bearer (h : ∀ b ∈ Utf8.encode token, Http.Header.LegalByte b) :
    Http.Header.isLegal ("Bearer " ++ token) = true := by
  rw [Http.Header.isLegal_iff_bytes, Utf8.encode_append]
  refine List.forall_mem_append.2 ⟨?_, h⟩
  rw [← Http.Header.isLegal_iff_bytes]
  decide

theorem isAscii_bearer : IsAscii ("Bearer " ++ token) ↔ IsAscii token := by
  have hopening : IsAscii "Bearer " := by decide
  rw [IsAscii, String.toList_append, List.forall_mem_append]
  exact and_iff_right hopening

/-- A token is presented as it is configured exactly if it is ASCII, and else not at all. -/
theorem presented_bearer (h : ∀ b ∈ Utf8.encode token, Http.Header.LegalByte b) :
    (IsAscii token → presented (some ("Bearer " ++ token)) = some (trim token)) ∧
      (¬ IsAscii token → Http.Header.visible? ("Bearer " ++ token) = none) := by
  have hvisible := (Http.Header.visible?_eq_some_iff (legal_bearer h)).trans isAscii_bearer
  constructor
  · intro hascii
    have hprefix : "Bearer ".toList.isPrefixOf? ("Bearer " ++ token).toList = some token.toList :=
      List.isPrefixOf?_eq_some_iff_append_eq.2 String.toList_append.symm
    rw [presented_of_visible (by simp [hvisible.2 hascii]), hprefix, Option.map_some,
      String.ofList_toList]
  · intro hascii
    rw [← hvisible] at hascii
    unfold Http.Header.visible? at hascii ⊢
    split at hascii
    · exact absurd rfl hascii
    · rename_i hall
      rw [if_neg hall]

theorem conclude_withToken {α : Type} (g : Gateway) (token other : ServiceToken) (o : Outcome α)
    (response : α → Http.Response) : conclude ⟨g, token⟩ o response =
      (conclude ⟨g, other⟩ o response).withToken token := by
  unfold conclude
  cases o.result <;> rfl

/-- What is served does not depend on the check of callers. -/
theorem serve_withToken (g : Gateway) (token other : ServiceToken) (out : Outside)
    {route : Route} (hroute : route.isGuarded = true) (r : Http.Request) :
    serve ⟨g, token⟩ out route r = (serve ⟨g, other⟩ out route r).withToken token := by
  cases route with
  | generate =>
    unfold serve generate
    cases submission out.remark r with
    | error e => rfl
    | ok q => exact conclude_withToken g token other _ _
  | generateStream =>
    unfold serve generateStream
    cases submission out.remark r with
    | error e => rfl
    | ok q => exact conclude_withToken g token other _ _
  | health => cases hroute
  | providers => cases hroute

/-- What is answered to a caller without a token. -/
def missingToken : Http.Response :=
  .json 401 (errorBody "Missing service token" "UNAUTHORIZED" none)

section

variable (hblank : isBlankText token = false)
  (hlegal : ∀ b ∈ Utf8.encode token, Http.Header.LegalByte b) (g : Gateway) {r : Http.Request}
  (hheader : r.header? "authorization" = some ("Bearer " ++ token))

include hblank hlegal hheader

theorem mayCall_of_isAscii (h : IsAscii token) : MayCall ⟨g, .ofConfigured token⟩ r := by
  rw [mayCall_iff hblank, unaccepted_iff, hheader, (presented_bearer hlegal).1 h]
  exact fun hdiffer => hdiffer _ rfl rfl

theorem unauthorized?_of_not_isAscii (h : ¬ IsAscii token) :
    unauthorized? ⟨g, .ofConfigured token⟩ r = some (.unauthorized "Missing service token") := by
  have hinvisible : Http.Header.visible? ("Bearer " ++ token) = none := (presented_bearer hlegal).2 h
  rw [unauthorized?_of_unaccepted hblank g r (hheader ▸ .invisible hinvisible), hheader, rebuff,
    presented, Option.bind_some, hinvisible]
  rfl

end

/-- **The configured token opens the gate exactly if it is ASCII**, to a caller that presents it as it
    is configured. Then the request is answered as if there were no check. Otherwise all such callers
    are told that they presented no token, although the check itself accepts every configured one. -/
theorem configured_passes_iff (token : String) (hblank : isBlankText token = false)
    (hlegal : ∀ b ∈ Utf8.encode token, Http.Header.LegalByte b) (g : Gateway)
    (out : Outside) (r : Http.Request) (route : Route) (hroute : route.isGuarded = true)
    (hmethod : r.method = "POST") (hpath : r.path = route.path)
    (hheader : r.header? "authorization" = some ("Bearer " ++ token)) :
    (unauthorized? ⟨g, .ofConfigured token⟩ r = none ↔ IsAscii token) ∧
    (IsAscii token → answer ⟨g, .ofConfigured token⟩ out r =
      (answer ⟨g, ⟨none⟩⟩ out r).withToken (.ofConfigured token)) ∧
    (¬ IsAscii token → answer ⟨g, .ofConfigured token⟩ out r =
      ⟨missingToken.withHeader "access-control-allow-origin" "*", [], ⟨g, .ofConfigured token⟩⟩) ∧
    (ServiceToken.ofConfigured token).accepts (trim token) = true := by
  have hserved (h : IsAscii token) : guarded ⟨g, .ofConfigured token⟩ out route r =
      (guarded ⟨g, ⟨none⟩⟩ out route r).withToken (.ofConfigured token) := by
    rw [guarded_of_mayCall (mayCall_of_isAscii hblank hlegal g hheader h),
      guarded_of_mayCall (.inl rfl)]
    exact serve_withToken g _ _ out hroute r
  refine ⟨⟨fun hpasses => ?_, fun h => ?_⟩, fun h => ?_, fun h => ?_,
    ServiceToken.accepts_configured token⟩
  · refine Decidable.byContradiction fun h => ?_
    rw [unauthorized?_of_not_isAscii hblank hlegal g hheader h] at hpasses
    cases hpasses
  · exact unauthorized?_of_mayCall (mayCall_of_isAscii hblank hlegal g hheader h)
  · rw [answer_of_post hroute hmethod hpath, answer_of_post hroute hmethod hpath, hserved h]
    rfl
  · rw [answer_of_post hroute hmethod hpath, guarded,
      unauthorized?_of_not_isAscii hblank hlegal g hheader h]
    rfl

/-- A request that presents a token as it is configured, and asks for nothing. -/
def presenting (token : String) : Http.Request :=
  ⟨"POST", "/v1/generate_stream", [("Authorization", "Bearer " ++ token)], []⟩

/-- A token with blanks at its ends, and with a tab. -/
def spacedToken : String := " open\tsesame "

/-- A token with an accent. -/
def accentedToken : String := "s\u00e9same"

theorem configured_passes_iff_spaced :
    unauthorized? ⟨welcoming.gateway, .ofConfigured spacedToken⟩ (presenting spacedToken) = none ∧
      (answer ⟨welcoming.gateway, .ofConfigured accentedToken⟩ quiet
        (presenting accentedToken)).response.status = 401 := by
  obtain ⟨hpasses, -⟩ := configured_passes_iff spacedToken (by decide)
    (by decide +kernel) welcoming.gateway quiet (presenting spacedToken) .generateStream rfl
    rfl (by decide) (by decide +kernel)
  obtain ⟨-, -, hrefused, -⟩ := configured_passes_iff accentedToken (by decide)
    (by decide +kernel) welcoming.gateway quiet (presenting accentedToken) .generateStream rfl
    rfl (by decide) (by decide +kernel)
  refine ⟨hpasses.2 (by decide), ?_⟩
  rw [hrefused (by decide)]
  rfl

/-- **A token with an accent shuts everybody out**: it may be configured and sent, and is refused. -/
theorem accented_token_refused :
    isBlankText accentedToken = false ∧
      (∀ b ∈ Utf8.encode accentedToken, Http.Header.LegalByte b) ∧
      (presenting accentedToken).header? "authorization" = some ("Bearer " ++ accentedToken) ∧
      unauthorized? ⟨welcoming.gateway, .ofConfigured accentedToken⟩ (presenting accentedToken) =
        some (.unauthorized "Missing service token") :=
  ⟨by decide, by decide +kernel, by decide +kernel, by decide +kernel⟩

end Service

end Gateway

end Gatehouse
