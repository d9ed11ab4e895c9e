import Gatehouse.Settings
import Gatehouse.Proofs.Text.Integer
import Gatehouse.Proofs.Token.Expiry

/-!
# Which settings an environment gives

* `Settings.ofEnvironment_eq_ok_iff` — there are settings exactly if the secret of the tokens is set and not blank;
* `Settings.IsNumberOr` — a number is what its variable says, or a default where the variable says none;
* `Settings.Reflects` — what each setting is, by the variables of the environment;
* `Settings.Item` — the settings one by one, each with the variables that it is read from, on which alone it depends
  (`Settings.sameIn_of_lookup_eq`);
* `Settings.ofEnvironment_exact` — all of this for every environment.
-/

namespace Gatehouse.Settings

variable {env env' : Environment} {s t : Settings} {name secret : String}

/-! ## Success -/

/-- The settings of an environment for a given secret. -/
def withSecret (env : Environment) (secret : String) : Settings where
  databaseUrl := filled? env "DATABASE_URL"
  token := ⟨secret, numberOr Text.word? env "JWT_TTL_MINUTES" 60⟩
  pepper := (env.lookup "HASH_SALT").getD ""
  familyUrl := (env.lookup "FAMILY_SERVICE_URL").getD "http://127.0.0.1:8081"
  familyTimeout := numberOr Text.natWord? env "FAMILY_TIMEOUT_SECS" 5
  requestTimeout := numberOr Text.natWord? env "REQUEST_TIMEOUT_SECS" 10
  admin := adminOf env

lemma ofEnvironment_of_none (h : env.lookup "JWT_SECRET" = none) :
    ofEnvironment env = .error "JWT_SECRET is not set" := by
  unfold ofEnvironment
  rw [h]
  rfl

/-- With a secret, the settings of the tokens are the only ones that may be refused. -/
lemma ofEnvironment_of_some (h : env.lookup "JWT_SECRET" = some secret) :
    ofEnvironment env = (TokenSettings.make secret (numberOr Text.word? env "JWT_TTL_MINUTES" 60) >>= fun token =>
      pure { withSecret env secret with token }) := by
  unfold ofEnvironment
  rw [h]
  rfl

lemma ofEnvironment_of_blank (h : env.lookup "JWT_SECRET" = some secret) (hblank : Text.isBlankText secret = true) :
    ofEnvironment env = .error "JWT_SECRET must not be empty" := by
  rw [ofEnvironment_of_some h, TokenSettings.make, if_pos hblank]
  rfl

lemma ofEnvironment_of_secret (h : env.lookup "JWT_SECRET" = some secret) (hblank : Text.isBlankText secret = false) :
    ofEnvironment env = .ok (withSecret env secret) := by
  rw [ofEnvironment_of_some h, TokenSettings.make, if_neg (by simp [hblank])]
  rfl

/-- **There are settings** exactly if the secret is set and not blank. No other variable stands in their way. -/
theorem ofEnvironment_eq_ok_iff : ofEnvironment env = .ok s ↔
    ∃ secret, env.lookup "JWT_SECRET" = some secret ∧ Text.isBlankText secret = false ∧ s = withSecret env secret := by
  constructor
  · intro hs
    cases h : env.lookup "JWT_SECRET" with
    | none =>
      rw [ofEnvironment_of_none h] at hs
      cases hs
    | some secret =>
      cases hblank : Text.isBlankText secret with
      | true =>
        rw [ofEnvironment_of_blank h hblank] at hs
        cases hs
      | false =>
        rw [ofEnvironment_of_secret h hblank] at hs
        exact ⟨secret, rfl, hblank, (Except.ok.inj hs).symm⟩
  · rintro ⟨secret, h, hblank, rfl⟩
    exact ofEnvironment_of_secret h hblank

lemma isBlankText_eq_false_iff : Text.isBlankText secret = false ↔ ∃ c ∈ secret.toList, Text.isBlank c = false := by
  simp [Text.isBlankText]

lemma exists_ofEnvironment_iff : (∃ s, ofEnvironment env = .ok s) ↔
    ∃ secret, env.lookup "JWT_SECRET" = some secret ∧ ∃ c ∈ secret.toList, Text.isBlank c = false := by
  constructor
  · rintro ⟨s, hs⟩
    obtain ⟨secret, hsecret, hblank, -⟩ := ofEnvironment_eq_ok_iff.1 hs
    exact ⟨secret, hsecret, isBlankText_eq_false_iff.1 hblank⟩
  · rintro ⟨secret, hsecret, hblank⟩
    exact ⟨_, ofEnvironment_of_secret hsecret (isBlankText_eq_false_iff.2 hblank)⟩

/-! ## What the settings are -/

/-- A number is the one that a variable says, or a default, where the variable is not set or says none. -/
def IsNumberOr {α : Type} (Says : String → α → Prop) (env : Environment) (name : String) (default value : α) : Prop :=
  (∃ text, env.lookup name = some text ∧ Says text value) ∨
    (value = default ∧ ∀ text, env.lookup name = some text → ∀ n, ¬ Says text n)

lemma isNumberOr_numberOr {α : Type} {read : String → Option α} {Says : String → α → Prop}
    (h : ∀ text n, read text = some n ↔ Says text n) (env : Environment) (name : String) (default : α) :
    IsNumberOr Says env name default (numberOr read env name default) := by
  unfold numberOr
  cases hlookup : env.lookup name with
  | none => exact .inr ⟨rfl, fun text htext => by rw [hlookup] at htext; cases htext⟩
  | some text =>
    cases hread : read text with
    | none =>
      refine .inr ⟨by simp [hread], ?_⟩
      intro text' htext n hn
      obtain rfl : text = text' := Option.some.inj (hlookup.symm.trans htext)
      rw [(h text n).2 hn] at hread
      cases hread
    | some n => exact .inl ⟨text, hlookup, by simpa [hread] using (h text n).1 hread⟩

lemma filled?_eq_some_iff {text : String} : filled? env name = some text ↔ env.lookup name = some text ∧ text ≠ "" := by
  simp [filled?, Option.filter_eq_some_iff]

lemma adminOf_eq_some_iff {admin : AdminSettings} : adminOf env = some admin ↔
    filled? env "ADMIN_EMAIL" = some admin.email ∧ filled? env "ADMIN_PASSWORD" = some admin.password := by
  unfold adminOf
  constructor
  · intro h
    obtain ⟨email, hemail, h⟩ := Option.bind_eq_some_iff.1 h
    obtain ⟨password, hpassword, h⟩ := Option.bind_eq_some_iff.1 h
    cases h
    exact ⟨hemail, hpassword⟩
  · rintro ⟨hemail, hpassword⟩
    rw [hemail, hpassword]
    rfl

/-- The settings are what the variables of an environment say: numbers that fit their words, or defaults, and texts. -/
structure Reflects (env : Environment) (s : Settings) : Prop where
  secret : env.lookup "JWT_SECRET" = some s.token.secret
  minutes : IsNumberOr (fun text n => Text.IsSigned text n ∧ Text.IsWord n) env "JWT_TTL_MINUTES" 60 s.token.minutes
  lifetime : 60 ≤ s.token.lifetime ∧ s.token.lifetime ≤ 365 * 24 * 3600
  familyTimeout : IsNumberOr (fun text n => Text.IsUnsigned text n ∧ n < 0x10000000000000000) env
    "FAMILY_TIMEOUT_SECS" 5 s.familyTimeout
  requestTimeout : IsNumberOr (fun text n => Text.IsUnsigned text n ∧ n < 0x10000000000000000) env
    "REQUEST_TIMEOUT_SECS" 10 s.requestTimeout
  databaseUrl : ∀ url, s.databaseUrl = some url ↔ env.lookup "DATABASE_URL" = some url ∧ url ≠ ""
  admin : ∀ admin, s.admin = some admin ↔
    (env.lookup "ADMIN_EMAIL" = some admin.email ∧ admin.email ≠ "") ∧
      env.lookup "ADMIN_PASSWORD" = some admin.password ∧ admin.password ≠ ""
  pepper : s.pepper = (env.lookup "HASH_SALT").getD ""
  familyUrl : s.familyUrl = (env.lookup "FAMILY_SERVICE_URL").getD "http://127.0.0.1:8081"

/-- **Settings are what the variables say.** -/
theorem reflects_of_ofEnvironment (h : ofEnvironment env = .ok s) : Reflects env s := by
  obtain ⟨secret, hsecret, -, rfl⟩ := ofEnvironment_eq_ok_iff.1 h
  refine ⟨hsecret, ?_, TokenSettings.lifetime_bounds _, ?_, ?_, ?_, ?_, rfl, rfl⟩
  · exact isNumberOr_numberOr (fun _ _ => Text.word?_eq_some_iff) env "JWT_TTL_MINUTES" 60
  · exact isNumberOr_numberOr (fun _ _ => Text.natWord?_eq_some_iff) env "FAMILY_TIMEOUT_SECS" 5
  · exact isNumberOr_numberOr (fun _ _ => Text.natWord?_eq_some_iff) env "REQUEST_TIMEOUT_SECS" 10
  · intro url
    exact filled?_eq_some_iff
  · intro admin
    rw [← filled?_eq_some_iff, ← filled?_eq_some_iff]
    exact adminOf_eq_some_iff

/-! ## What the settings depend on -/

/-- The settings one by one. -/
inductive Item
  | databaseUrl
  | secret
  | minutes
  | pepper
  | familyUrl
  | familyTimeout
  | requestTimeout
  | admin

def Item.variables : Item → List String
  | .databaseUrl => ["DATABASE_URL"]
  | .secret => ["JWT_SECRET"]
  | .minutes => ["JWT_TTL_MINUTES"]
  | .pepper => ["HASH_SALT"]
  | .familyUrl => ["FAMILY_SERVICE_URL"]
  | .familyTimeout => ["FAMILY_TIMEOUT_SECS"]
  | .requestTimeout => ["REQUEST_TIMEOUT_SECS"]
  | .admin => ["ADMIN_EMAIL", "ADMIN_PASSWORD"]

/-- Two readings agree on a setting. -/
def Item.SameIn (s t : Settings) : Item → Prop
  | .databaseUrl => s.databaseUrl = t.databaseUrl
  | .secret => s.token.secret = t.token.secret
  | .minutes => s.token.minutes = t.token.minutes
  | .pepper => s.pepper = t.pepper
  | .familyUrl => s.familyUrl = t.familyUrl
  | .familyTimeout => s.familyTimeout = t.familyTimeout
  | .requestTimeout => s.requestTimeout = t.requestTimeout
  | .admin => s.admin = t.admin

lemma eq_of_sameIn (h : ∀ item : Item, item.SameIn s t) : s = t := by
  obtain ⟨databaseUrl, ⟨secret, minutes⟩, pepper, familyUrl, familyTimeout, requestTimeout, admin⟩ := s
  obtain rfl := h .databaseUrl
  obtain rfl := h .secret
  obtain rfl := h .minutes
  obtain rfl := h .pepper
  obtain rfl := h .familyUrl
  obtain rfl := h .familyTimeout
  obtain rfl := h .requestTimeout
  obtain rfl := h .admin
  rfl

/-- **A setting depends on its own variables alone.** -/
theorem sameIn_of_lookup_eq (hs : ofEnvironment env = .ok s) (ht : ofEnvironment env' = .ok t) {item : Item}
    (h : ∀ name ∈ item.variables, env'.lookup name = env.lookup name) : item.SameIn s t := by
  obtain ⟨secret, hsecret, -, rfl⟩ := ofEnvironment_eq_ok_iff.1 hs
  obtain ⟨secret', hsecret', -, rfl⟩ := ofEnvironment_eq_ok_iff.1 ht
  cases item with
  | secret =>
    have hsame := h "JWT_SECRET" List.mem_cons_self
    rw [hsecret, hsecret'] at hsame
    exact (Option.some.inj hsame).symm
  | admin =>
    have hemail := h "ADMIN_EMAIL" List.mem_cons_self
    have hpassword := h "ADMIN_PASSWORD" (by simp [Item.variables])
    simp [Item.SameIn, withSecret, adminOf, filled?, hemail, hpassword]
  | databaseUrl | minutes | pepper | familyUrl | familyTimeout | requestTimeout =>
    have hsame := h _ List.mem_cons_self
    simp [Item.SameIn, withSecret, filled?, numberOr, hsame]

/-- **The settings of every environment.** There are some exactly if the secret of the tokens is set and has a character
that is not blank, whatever the other variables say. Then each number is the one that its variable says, if the whole
text of the variable is one and fits, and a default otherwise; tokens last for a minute at least and 365 days at most;
there is a database exactly if its variable is not empty, and an administrator exactly if both of its variables are not
empty. If one variable changes, then only the settings change that are read from it, none if none is, and unless it is
the secret there are settings in both environments or in neither. -/
theorem ofEnvironment_exact (env : Environment) :
    ((∃ s, ofEnvironment env = .ok s) ↔
      ∃ secret, env.lookup "JWT_SECRET" = some secret ∧ ∃ c ∈ secret.toList, Text.isBlank c = false) ∧
    (∀ s, ofEnvironment env = .ok s → Reflects env s) ∧
    ∀ name env', (∀ other ≠ name, env'.lookup other = env.lookup other) →
      (name ≠ "JWT_SECRET" → ((∃ t, ofEnvironment env' = .ok t) ↔ ∃ s, ofEnvironment env = .ok s)) ∧
      ∀ s t, ofEnvironment env = .ok s → ofEnvironment env' = .ok t →
        (∀ item : Item, name ∉ item.variables → item.SameIn s t) ∧
          ((∀ item : Item, name ∉ item.variables) → s = t) := by
  refine ⟨exists_ofEnvironment_iff, fun s => reflects_of_ofEnvironment, fun name env' h => ⟨?_, ?_⟩⟩
  · intro hname
    rw [exists_ofEnvironment_iff, exists_ofEnvironment_iff, h _ (Ne.symm hname)]
  · intro s t hs ht
    have hsame : ∀ item : Item, name ∉ item.variables → item.SameIn s t := by
      intro item hitem
      apply sameIn_of_lookup_eq hs ht
      intro other hother
      apply h
      rintro rfl
      exact hitem hother
    exact ⟨hsame, fun hunread => eq_of_sameIn fun item => hsame item (hunread item)⟩

/-- Three numbers, of which the first has a blank in front and the last a minus sign, and half an administrator. -/
theorem ofEnvironment_exact_defaults :
    let env : Environment := [("JWT_SECRET", " s"), ("JWT_TTL_MINUTES", " 5"), ("FAMILY_TIMEOUT_SECS", "+7"),
      ("REQUEST_TIMEOUT_SECS", "-1"), ("ADMIN_EMAIL", "root")]
    ∃ s, ofEnvironment env = .ok s ∧ s.token.minutes = 60 ∧ s.familyTimeout = 7 ∧ s.requestTimeout = 10 ∧
      s.admin = none := by
  intro env
  obtain ⟨hsuccess, hreflects, -⟩ := ofEnvironment_exact env
  obtain ⟨s, hs⟩ := hsuccess.2 ⟨" s", rfl, 's', by decide, by decide⟩
  have h := hreflects s hs
  refine ⟨s, hs, ?_, ?_, ?_, ?_⟩
  · rcases h.minutes with ⟨text, htext, hsays⟩ | hdefault
    · obtain rfl : " 5" = text := Option.some.inj htext
      exact absurd (Text.word?_eq_some_iff.2 hsays) (by rw [show Text.word? " 5" = none by decide]; simp)
    · exact hdefault.1
  · rcases h.familyTimeout with ⟨text, htext, hsays⟩ | ⟨-, hnone⟩
    · obtain rfl : "+7" = text := Option.some.inj htext
      exact Option.some.inj ((Text.natWord?_eq_some_iff.2 hsays).symm.trans (by decide))
    · exact absurd (Text.natWord?_eq_some_iff.1 (by decide : Text.natWord? "+7" = some 7)) (hnone "+7" rfl 7)
  · rcases h.requestTimeout with ⟨text, htext, hsays⟩ | hdefault
    · obtain rfl : "-1" = text := Option.some.inj htext
      exact absurd (Text.natWord?_eq_some_iff.2 hsays) (by rw [show Text.natWord? "-1" = none by decide]; simp)
    · exact hdefault.1
  · cases hadmin : s.admin with
    | none => rfl
    | some admin =>
      obtain ⟨-, hpassword, -⟩ := (h.admin admin).1 hadmin
      cases hpassword

end Gatehouse.Settings
