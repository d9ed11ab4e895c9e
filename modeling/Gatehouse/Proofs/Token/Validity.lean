import Gatehouse.Proofs.Token.Expiry
import Gatehouse.Proofs.Token.RoundTrip

/-!
# How long a token is good

* `clampedMinutes`, `lifetime_eq` — the lifetime that settings ask for, brought between a minute and a year;
* `issue_valid_until_expiry` — at any time in service every account gets a token, which stands for the account for
  exactly that lifetime.
-/

namespace Gatehouse

namespace TokenSettings

/-- The minutes that tokens are good for: those of the settings, at least one and at most those of a year. -/
def clampedMinutes (t : TokenSettings) : Int := max 1 (min t.minutes 525600)

lemma lifetime_eq (t : TokenSettings) : (t.lifetime : Int) = 60 * t.clampedMinutes := by
  unfold lifetime clampedMinutes maxMinutes
  omega

end TokenSettings

namespace Token

/-- **A token is good for exactly the configured lifetime.** Under any secret and any settings, a token is issued to
every account at every time in service, and its expiry is the clamped number of minutes later, without overflow.
The payload of the token are claims that name the id, the email address and the role of the account. Whoever verifies
the token with the same secret gets exactly these claims up to the expiry, and nothing but a refusal later. -/
theorem issue_valid_until_expiry (secret : Bytes) (settings : TokenSettings) {account : Account} {now : Moment}
    (hid : Text.IsWord account.id) (hnow : now.InService) :
    let authority : Authority := ⟨secret, settings.lifetime⟩
    ∃ token claims, authority.issue now account = .ok token ∧
      Authority.payload? secret token = some (utf8 (String.ofList claims.write)) ∧
      claims.accountId = .ok account.id ∧ claims.email = account.profile.email ∧ claims.role = account.role ∧
      (claims.expiry : Int) = now.seconds + 60 * settings.clampedMinutes ∧
      ∀ later, authority.verify later token =
        if later.seconds ≤ now.seconds + 60 * settings.clampedMinutes then .ok claims else .error .invalidToken := by
  intro authority
  have hexpiry := expiry?_eq hnow settings.lifetime_bounds.2
  have hlast : ((now.seconds + settings.lifetime).toNat : Int) = now.seconds + 60 * settings.clampedMinutes := by
    have := hnow.1
    rw [← settings.lifetime_eq]
    omega
  refine ⟨_, Authority.claimsFor account (now.seconds + settings.lifetime).toNat, issue_of_expiry? hexpiry,
    payload?_sign secret _, accountId_claimsFor hid, rfl, rfl, hlast, fun later => ?_⟩
  rw [verify_sign (expiry?_lt hexpiry) authority later]
  show (if ((now.seconds + settings.lifetime).toNat : Int) < later.seconds then _ else _) = _
  rw [hlast]
  by_cases hlate : later.seconds ≤ now.seconds + 60 * settings.clampedMinutes
  · rw [if_pos hlate, if_neg (by omega)]
  · rw [if_neg hlate, if_pos (by omega)]

/-- The greatest lifetime at the last second of service, for the account of the least id and with an email address
that has to be escaped. -/
theorem issue_valid_until_end_of_calendar :
    let settings : TokenSettings := ⟨"secret", Text.maxWord⟩
    let authority : Authority := ⟨utf8 settings.secret, settings.lifetime⟩
    let account : Account := ⟨Text.minWord, ⟨"\"\\\n\t@é.x", "", "", ""⟩, "", Moment.utc 0, .admin, []⟩
    let now := Moment.utc 253370764799
    Text.IsWord account.id ∧ now.InService ∧ settings.clampedMinutes = 525600 ∧
    ∃ token claims, authority.issue now account = .ok token ∧
      Authority.payload? authority.secret token = some (utf8 (String.ofList claims.write)) ∧
      claims.accountId = .ok Text.minWord ∧ claims.email = account.profile.email ∧ claims.role = .admin ∧
      (claims.expiry : Int) = now.seconds + 60 * settings.clampedMinutes ∧
      ∀ later, authority.verify later token =
        if later.seconds ≤ now.seconds + 60 * settings.clampedMinutes then .ok claims else .error .invalidToken := by
  intro settings authority account now
  have hid : Text.IsWord account.id := by decide
  have hnow : now.InService := by
    unfold Moment.InService
    decide +kernel
  exact ⟨hid, hnow, by decide, issue_valid_until_expiry (utf8 settings.secret) settings hid hnow⟩

end Token

end Gatehouse
