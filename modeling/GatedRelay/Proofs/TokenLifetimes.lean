import GatedRelay.Proofs.TokenCache
import Mathlib.Algebra.Group.Nat.Defs

/-!
# How long tokens live

The time up to which a token is used has to be one that the clock can show. A call with an answer
that grants a token for longer is aborted, and the cache stays as it was.
-/

namespace GatedRelay.Token

/-- The clock can show the time up to which a token that is granted now is used. -/
def FitsClock (now lifetime : Nat) : Prop :=
  now / nanosPerSecond + (lifetime - expiryMargin) < 2 ^ 63

lemma endOfUse_div (now lifetime : Nat) :
    endOfUse now lifetime / nanosPerSecond = now / nanosPerSecond + (lifetime - expiryMargin) :=
  Nat.add_mul_div_right _ _ (by decide)

lemma lifetime_lt_of_ofAnswer? {body : Bytes} {token : String} {lifetime : Nat}
    (h : ofAnswer? body = some (token, lifetime)) : lifetime < 2 ^ 64 := by
  unfold ofAnswer? at h
  split at h
  · split at h
    · next token i _ _ =>
      split_ifs at h
      cases h
      have hupper := i.upper
      omega
    · cases h
  · cases h

lemma Grants.lifetime_lt {r : Reply} {token : String} {lifetime : Nat}
    (h : Grants r token lifetime) : lifetime < 2 ^ 64 := by
  obtain ⟨_, _, -, -, -, hbody⟩ := h
  exact lifetime_lt_of_ofAnswer? hbody

section Granted

variable {r : Reply} {token : String} {lifetime now : Nat} (h : Grants r token lifetime)
include h

lemma granted_of_fitsClock (hfits : FitsClock now lifetime) :
    granted now r = .ok ⟨token, endOfUse now lifetime⟩ := by
  rw [granted_of_grants h, endOfUse_div]
  exact if_pos hfits

lemma granted_of_not_fitsClock (hfits : ¬FitsClock now lifetime) :
    granted now r = .error .aborted := by
  rw [granted_of_grants h, endOfUse_div]
  exact if_neg hfits

end Granted

/-- A call that has to ask for a token gives the one that is granted to it if and only if the clock
can show its end, and is aborted else. -/
theorem token_of_answer_iff (url : String) {cache : Option CachedToken} {start : Nat}
    (hstale : ∀ t, cache = some t → t.refreshAt ≤ start) :
    ∃ next, ((Credentials.metadata url).token cache).settle start = .call (request url) next ∧
      ∀ r token lifetime now, Grants r token lifetime → lifetime < 2 ^ 64 ∧
        ((∃ left, (next r).settle now = .done (.ok (some token), left)) ↔
          FitsClock now lifetime) ∧
        (¬FitsClock now lifetime → (next r).settle now = .done (.error .aborted, cache)) := by
  obtain ⟨next, hasking, hsettle⟩ := settle_asking url cache
  refine ⟨next, (Credentials.settle_token_of_le url hstale).trans hasking, ?_⟩
  intro r token lifetime now hgrants
  have haborted (hfits : ¬FitsClock now lifetime) :
      (next r).settle now = .done (.error .aborted, cache) := by
    rw [hsettle, granted_of_not_fitsClock hgrants hfits]
    rfl
  refine ⟨hgrants.lifetime_lt, ⟨?_, fun hfits => ?_⟩, haborted⟩
  · rintro ⟨left, hleft⟩
    by_contra hfits
    rw [haborted hfits] at hleft
    cases hleft
  · exact ⟨_, by rw [hsettle, granted_of_fitsClock hgrants hfits]; rfl⟩

theorem token_of_answer_iff_refreshed :
    let old : CachedToken := ⟨"old", 10⟩
    let url := "http://localhost/token"
    let r : Reply := .answer 200
      (Utf8.ofString "\x7b\"access_token\":\"new\",\"expires_in\":3599\x7d")
    (∀ t, some old = some t → t.refreshAt ≤ 20) ∧ Grants r "new" 3599 ∧
      ∃ next, ((Credentials.metadata url).token (some old)).settle 20 = .call (request url) next ∧
        ∃ left, (next r).settle 30 = .done (.ok (some "new"), left) := by
  intro old url r
  have hstale : ∀ t, some old = some t → t.refreshAt ≤ 20 := by
    rintro _ ⟨⟩
    decide
  have hgrants : Grants r "new" 3599 := ⟨200, _, rfl, by decide, by decide, by decide +kernel⟩
  have hfits : FitsClock 30 3599 := by
    unfold FitsClock
    decide
  obtain ⟨next, hcall, hnext⟩ := token_of_answer_iff url hstale
  exact ⟨hstale, hgrants, next, hcall, (hnext r "new" 3599 30 hgrants).2.1.mpr hfits⟩

/-- No clock can show the end of the longest lifetime, so the call that is granted it is aborted
whenever the answer comes. -/
theorem longest_lifetime_aborts :
    let url := "http://localhost/token"
    let r : Reply := .answer 200
      (Utf8.ofString "\x7b\"access_token\":\"t\",\"expires_in\":18446744073709551615\x7d")
    Grants r "t" 18446744073709551615 ∧
      ∃ next, ((Credentials.metadata url).token none).settle 0 = .call (request url) next ∧
        ∀ now, (next r).settle now = .done (.error .aborted, none) := by
  intro url r
  have hgrants : Grants r "t" 18446744073709551615 :=
    ⟨200, _, rfl, by decide, by decide, by decide +kernel⟩
  have hstale : ∀ t, (none : Option CachedToken) = some t → t.refreshAt ≤ 0 := fun t ht => nomatch ht
  obtain ⟨next, hasking, hsettle⟩ := settle_asking url none
  refine ⟨hgrants, next, (Credentials.settle_token_of_le url hstale).trans hasking, fun now => ?_⟩
  have hfits : ¬FitsClock now 18446744073709551615 := by
    unfold FitsClock expiryMargin nanosPerSecond
    omega
  rw [hsettle, granted_of_not_fitsClock hgrants hfits]
  rfl

end GatedRelay.Token
