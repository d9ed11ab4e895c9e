import Gatehouse.Proofs.Service.Credentials
import Gatehouse.Proofs.Service.Interruption

/-!
# Who becomes an administrator

* `ensureAdmin_readable` — where all hashes can be read, an administrator is new, is the holder of the email address who
  has the password, or is refused because the holder has another password;
* `ensureAdmin_repeated` — for an administrator who has the password nothing is left to do;
* `ensureAdmin_exact` — so that exactly who has the password becomes an administrator, and doing it again changes
  nothing.
-/

namespace Gatehouse

open Password (Scheme)
open Program (inMemory)

/-! ## Holders and records -/

namespace Store

variable {s : Store} {id : Int} {a : Account}

lemma WellFormed.holder?_eq_none_iff (h : s.WellFormed) {email : String} :
    s.holder? email = none ↔ ∀ id a, s.account? id = some a → a.profile.email ≠ email := by
  rw [Store.holder?_eq_none_iff]
  exact ⟨fun hn id a ha => hn _ (mem_of_account? ha), fun hn entry he => hn _ _ (h.account?_eq_some_iff.2 he)⟩

lemma WellFormed.put_self (h : s.WellFormed) (ha : s.account? id = some a) : s.put id a = s := by
  have hentries : ∀ entry ∈ s.accounts, (if entry.1 == id then (id, a) else entry) = entry := by
    intro entry he
    by_cases hid : entry.1 = id
    · subst hid
      rw [beq_self_eq_true, if_pos rfl]
      exact List.inj_on_of_nodup_map h.nodup_ids (mem_of_account? ha) he rfl
    · rw [if_neg (by simpa using hid)]
  rw [Store.put, List.map_congr_left hentries, List.map_id']

end Store

/-! ## What becomes of a call -/

namespace Service

variable {ρ : Type} {client : Relations.Client ρ} {scheme : Scheme} {occasion : Occasion} {email password : String}
  {s : Store} {tag : Bytes}

lemma exists_output_of_hash {salt : Password.Salt} (h : ∃ text, scheme.hash salt password = .ok text) :
    ∃ tag, scheme.output? salt password = some tag := by
  cases ho : scheme.output? salt password with
  | some tag => exact ⟨tag, rfl⟩
  | none =>
    obtain ⟨text, ht⟩ := h
    rw [Scheme.hash_of_none ho] at ht
    cases ht

/-- Where the hashes can be read and the password can be hashed, an administrator is new, is the holder of the email
address who has the password, or is refused because the holder has another password. -/
theorem ensureAdmin_readable (client : Relations.Client ρ) (hs : s.WellFormed) (hread : s.Readable)
    (ho : scheme.output? occasion.salt password = some tag) (r : ρ) :
    (s.holder? email = none ∧
      (ensureAdmin scheme occasion email password).runWith (inMemory client) (s, r) =
        (.ok (s.lastId + 1), ((s.add (newAdmin occasion email tag)).2.put (s.lastId + 1)
          ((newAdmin occasion email tag).withId (s.lastId + 1)).promoted, r))) ∨
    (∃ a, s.holder? email = some a ∧ scheme.verify a.passwordHash password = .ok true ∧
      (ensureAdmin scheme occasion email password).runWith (inMemory client) (s, r) =
        (.ok a.id, (s.put a.id a.promoted, r))) ∨
    (∃ a, s.holder? email = some a ∧ scheme.verify a.passwordHash password = .ok false ∧
      (ensureAdmin scheme occasion email password).runWith (inMemory client) (s, r) =
        (.error .wrongPassword, (s, r))) := by
  cases ha : s.holder? email with
  | none => exact .inl ⟨rfl, ensureAdmin_new r hs ho ha⟩
  | some a =>
    obtain ⟨known, hv⟩ := hread.exists_verify (hs.holder?_eq_some_iff.1 ha).1 scheme password
    cases known with
    | true => exact .inr (.inl ⟨a, rfl, hv, ensureAdmin_known r hs ho ha hv⟩)
    | false => exact .inr (.inr ⟨a, rfl, hv, ensureAdmin_refused r ho ha (by rw [hv]; rfl)⟩)

/-- In the store `u` the account of `id` holds an email address as an administrator who has the password. It is the
account that held the address in the store `s` and nothing but its role is set, or it is new; and all other accounts are
those of `s`. -/
structure Appoints (scheme : Scheme) (email password : String) (s u : Store) (id : Int) : Prop where
  admin : ∃ b, u.account? id = some b ∧ b.role = .admin ∧ b.profile.email = email ∧
    scheme.verify b.passwordHash password = .ok true
  holder : ∀ j a, s.account? j = some a → a.profile.email = email →
    j = id ∧ u.account? j = some { a with role := .admin } ∧ u.lastId = s.lastId
  new : (∀ j a, s.account? j = some a → a.profile.email ≠ email) → id = s.lastId + 1 ∧ u.lastId = s.lastId + 1
  others : ∀ j, j ≠ id → u.account? j = s.account? j

lemma appoints_new (hs : s.WellFormed) (ho : scheme.output? occasion.salt password = some tag)
    (hn : s.holder? email = none) :
    Appoints scheme email password s ((s.add (newAdmin occasion email tag)).2.put (s.lastId + 1)
      ((newAdmin occasion email tag).withId (s.lastId + 1)).promoted) (s.lastId + 1) where
  admin := ⟨_, Store.account?_put_self (hs.account?_add_self _), rfl, rfl, verify_newAdmin email ho⟩
  holder j a ha he := absurd he (hs.holder?_eq_none_iff.1 hn j a ha)
  new _ := ⟨rfl, rfl⟩
  others j hj := by rw [Store.account?_put_of_ne hj, Store.account?_add, if_neg hj, Option.or_none]

lemma appoints_holder {a : Account} (hs : s.WellFormed) (ha : s.holder? email = some a)
    (hv : scheme.verify a.passwordHash password = .ok true) :
    Appoints scheme email password s (s.put a.id a.promoted) a.id := by
  obtain ⟨hheld, hemail⟩ := hs.holder?_eq_some_iff.1 ha
  have hput : (s.put a.id a.promoted).account? a.id = some a.promoted := Store.account?_put_self hheld
  refine ⟨⟨_, hput, rfl, hemail, hv⟩, fun j b hb he => ?_, fun hnobody => absurd hemail (hnobody _ _ hheld),
    fun j hj => Store.account?_put_of_ne hj⟩
  have hid : b.id = j := hs.account_id_eq hb
  subst hid
  cases ha.symm.trans (hs.holder?_eq_some_iff.2 ⟨hb, he⟩)
  exact ⟨rfl, hput, rfl⟩

lemma ensureAdmin_repeated {b : Account} {id : Int} (hs : s.WellFormed)
    (ho : scheme.output? occasion.salt password = some tag) (hb : s.account? id = some b) (hrole : b.role = .admin)
    (hemail : b.profile.email = email) (hv : scheme.verify b.passwordHash password = .ok true) (r : ρ) :
    (ensureAdmin scheme occasion email password).runWith (inMemory client) (s, r) = (.ok id, (s, r)) := by
  have hid : b.id = id := hs.account_id_eq hb
  subst hid
  have hsame : b.promoted = b := by rw [Account.promoted, ← hrole]
  rw [ensureAdmin_known r hs ho (hs.holder?_eq_some_iff.2 ⟨hb, hemail⟩) hv, hsame, hs.put_self hb]

lemma Appoints.repeated {u : Store} {id : Int} (h : Appoints scheme email password s u id) (hu : u.WellFormed)
    (ho : ∃ text, scheme.hash occasion.salt password = .ok text) (r : ρ) :
    (ensureAdmin scheme occasion email password).runWith (inMemory client) (u, r) = (.ok id, (u, r)) := by
  obtain ⟨tag, ho⟩ := exists_output_of_hash ho
  obtain ⟨b, hb, hrole, hemail, hv⟩ := h.admin
  exact ensureAdmin_repeated hu ho hb hrole hemail hv r

/-- **Who becomes an administrator,** on any store that a sequence of calls leaves and in which the hashes can be read,
for any email address and any password that can be hashed. The call gives an id exactly if nobody holds the email
address or its holder has the password. Then the account of the id is an administrator who has the password; if the
account was there before, nothing but its role is set, and every other account is as it was. To repeat the call, with
another salt and at another time, gives the same id and changes nothing. Otherwise the call fails, since the password is
wrong, and everything is as it was. -/
theorem ensureAdmin_exact (scheme : Scheme) (client : Relations.Client ρ) (calls : List Store.Call) (r : ρ)
    (occasion : Occasion) (email password : String) (hread : (Store.empty.serveAll calls).Readable)
    (hhash : ∃ text, scheme.hash occasion.salt password = .ok text) :
    let s := Store.empty.serveAll calls
    let run (occasion : Occasion) (s : Store) :=
      (ensureAdmin scheme occasion email password).runWith (inMemory client) (s, r)
    ((∃ id, (run occasion s).1 = .ok id) ↔
      (∀ id a, s.account? id = some a → a.profile.email ≠ email) ∨
      ∃ id a, s.account? id = some a ∧ a.profile.email = email ∧
        scheme.verify a.passwordHash password = .ok true) ∧
    (∀ id, (run occasion s).1 = .ok id →
      ∃ u, run occasion s = (.ok id, (u, r)) ∧ Appoints scheme email password s u id ∧
        ∀ again, (∃ text, scheme.hash again.salt password = .ok text) → run again u = (.ok id, (u, r))) ∧
    ((∀ id, (run occasion s).1 ≠ .ok id) → run occasion s = (.error .wrongPassword, (s, r))) := by
  intro s run
  have hs : s.WellFormed := Store.wellFormed_empty.serveAll calls
  have hleft : (run occasion s).2.1.WellFormed := Program.run_wellFormed _ client hs r
  obtain ⟨tag, ho⟩ := exists_output_of_hash hhash
  -- a call that gives an id appoints its account, and behind that it may be repeated
  have hsuccess : ∀ id u, run occasion s = (.ok id, (u, r)) → Appoints scheme email password s u id →
      ∀ i, (run occasion s).1 = .ok i → ∃ u, run occasion s = (.ok i, (u, r)) ∧
        Appoints scheme email password s u i ∧
        ∀ again, (∃ text, scheme.hash again.salt password = .ok text) → run again u = (.ok i, (u, r)) := by
    intro id u hrun happoints i hi
    rw [hrun] at hi hleft
    cases hi
    exact ⟨u, hrun, happoints, fun again hagain => happoints.repeated hleft hagain r⟩
  rcases ensureAdmin_readable client hs hread ho r with ⟨hn, hrun⟩ | ⟨a, ha, hv, hrun⟩ | ⟨a, ha, hv, hrun⟩
  · have hnobody := hs.holder?_eq_none_iff.1 hn
    refine ⟨⟨fun _ => .inl hnobody, fun _ => ⟨_, congrArg Prod.fst hrun⟩⟩, hsuccess _ _ hrun (appoints_new hs ho hn),
      fun hnone => absurd (congrArg Prod.fst hrun) (hnone _)⟩
  · obtain ⟨hheld, hemail⟩ := hs.holder?_eq_some_iff.1 ha
    refine ⟨⟨fun _ => .inr ⟨_, a, hheld, hemail, hv⟩, fun _ => ⟨_, congrArg Prod.fst hrun⟩⟩,
      hsuccess _ _ hrun (appoints_holder hs ha hv), fun hnone => absurd (congrArg Prod.fst hrun) (hnone _)⟩
  · have hrefused : ∀ id, (run occasion s).1 ≠ .ok id := by
      intro id hid
      cases (congrArg Prod.fst hrun).symm.trans hid
    refine ⟨⟨fun ⟨id, hid⟩ => absurd hid (hrefused id), ?_⟩, fun id hid => absurd hid (hrefused id), fun _ => hrun⟩
    rintro (hnobody | ⟨id, b, hb, hemail, hknown⟩)
    · exact absurd (hs.holder?_eq_none_iff.2 hnobody) (by rw [ha]; exact Option.some_ne_none a)
    · have hid : b.id = id := hs.account_id_eq hb
      subst hid
      cases ha.symm.trans (hs.holder?_eq_some_iff.2 ⟨hb, hemail⟩)
      cases hv.symm.trans hknown

/-- Whoever took the email address of an administrator with a hash that is nobody's password keeps it, and stays what
they are. -/
theorem ensureAdmin_exact_squatted :
    let scheme : Scheme := ⟨"pepper", Password.argon2⟩
    let squatter : NewAccount := ⟨⟨"admin@b.example", "", "", ""⟩, "$nothing", Moment.utc 0⟩
    let s := Store.empty.serveAll [.create squatter]
    let occasion : Occasion := ⟨Moment.utc 1, Vector.replicate _ 7⟩
    let client : Relations.Client Unit := fun _ r => (.ok (), r)
    s.Readable ∧ (∃ text, scheme.hash occasion.salt "secret" = .ok text) ∧
      (ensureAdmin scheme occasion "admin@b.example" "secret").runWith (inMemory client) (s, ()) =
        (.error .wrongPassword, (s, ())) := by
  intro scheme squatter s occasion client
  have hread : s.Readable := by
    intro id a ha
    have hentries : ∀ entry ∈ s.accounts, (Phc.parse? entry.2.passwordHash).isSome = true := by decide +kernel
    exact Option.isSome_iff_exists.1 (hentries _ (Store.mem_of_account? ha))
  have hhash : ∃ text, scheme.hash occasion.salt "secret" = .ok text := by
    have hlength : (scheme.secret "secret").length < 0x100000000 := by decide +kernel
    have hsome := (Digest.Argon2.isSome_tag? Password.freshParams occasion.salt.toList (scheme.secret "secret")).trans
      (decide_eq_true hlength)
    obtain ⟨tag, htag⟩ := Option.isSome_iff_exists.1 hsome
    exact ⟨_, Scheme.hash_of_some htag⟩
  have hexact := ensureAdmin_exact scheme client [.create squatter] () occasion "admin@b.example" "secret" hread hhash
  refine ⟨hread, hhash, hexact.2.2 fun id hid => ?_⟩
  have hverify : scheme.verify squatter.passwordHash "secret" = .ok false := by
    have hempty : (Phc.parse? squatter.passwordHash).map (·.salt) = some none := by decide +kernel
    obtain ⟨hash, hparse, hsalt⟩ := Option.map_eq_some_iff.1 hempty
    rw [Scheme.verify, hparse]
    simp only [Scheme.isTagOf, hsalt]
  rcases hexact.1.1 ⟨id, hid⟩ with hnobody | ⟨j, a, ha, hemail, hv⟩
  · exact hnobody 1 _ rfl rfl
  · cases List.mem_singleton.1 (Store.mem_of_account? ha)
    cases hverify.symm.trans hv

end Service

end Gatehouse
