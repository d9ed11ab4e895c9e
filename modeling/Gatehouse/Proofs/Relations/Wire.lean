import Gatehouse.Proofs.Json.Written
import Gatehouse.Proofs.Service.Deletion
import Gatehouse.Relations.Wire

/-!
# A deletion over the wire

* `scripted` — a peer that keeps the requests that it gets and answers by a script;
* `Answer.IsTrouble`, `Answer.IsSuccess` — the classes of answers, and what a deletion makes of each of them;
* `isObjectOf_bodyOf`, `sent_says` — what the bodies of requests say, and which request stands where;
* `Course` — how far a deletion gets by a script, which only the classes of the answers decide (`Course.unique`);
* `run_client` — a deletion over the wire takes this course;
* `deleteEverywhere_wire` — so that the script decides what is sent and whether the record goes.
-/

namespace Gatehouse.Relations.Wire

open Deletion (Survives Ends Pursued requests)
open Json (IsObjectOf)
open Program (inMemory)

/-! ## Answers -/

/-- A peer that keeps the requests that it has got, and gives one answer after another. -/
def scripted (answers : Nat → Answer) : Peer (List Request) :=
  fun request sent => (answers sent.length, sent ++ [request])

namespace Answer

/-- The other side is in trouble: it was not reached, or answers with a server's fault, a timeout or a plea to come
back later. -/
def IsTrouble : Answer → Prop
  | failed _ => True
  | answered status _ => 500 ≤ status ∧ status < 600 ∨ status = 408 ∨ status = 429

def IsSuccess : Answer → Prop
  | failed _ => False
  | answered status _ => 200 ≤ status ∧ status < 300

/-- Two answers are the same but for what they say: the detail of a failure, or a body that can be read or not. -/
def Alike : Answer → Answer → Prop
  | failed _, failed _ => True
  | answered status _, answered status' _ => status = status'
  | _, _ => False

variable {answer other : Answer}

lemma Alike.isTrouble_iff (h : answer.Alike other) : answer.IsTrouble ↔ other.IsTrouble := by
  cases answer <;> cases other <;> simp only [Alike] at h <;> simp [IsTrouble, h]

lemma Alike.isSuccess_iff (h : answer.Alike other) : answer.IsSuccess ↔ other.IsSuccess := by
  cases answer <;> cases other <;> simp only [Alike] at h <;> simp [IsSuccess, h]

end Answer

lemma replyOf_cases (status : Nat) (body : Option String) :
    (200 ≤ status ∧ status < 300 ∧ replyOf (.answered status body) = .ok ()) ∨
    ((Answer.answered status body).IsTrouble ∧ ∃ detail,
      replyOf (.answered status body) = .error (.unavailable detail)) ∨
    (¬(200 ≤ status ∧ status < 300) ∧ ¬(Answer.answered status body).IsTrouble ∧ ∃ message,
      replyOf (.answered status body) = .error (.rejected status message)) := by
  have hsuccess : Http.Status.isSuccess status = true ↔ 200 ≤ status ∧ status < 300 := by
    simp [Http.Status.isSuccess]
  have htrouble : (Http.Status.isServerError status || status == 408 || status == 429) = true ↔
      (Answer.answered status body).IsTrouble := by
    simp [Http.Status.isServerError, Answer.IsTrouble, or_assoc]
  unfold replyOf
  by_cases hs : 200 ≤ status ∧ status < 300
  · exact .inl ⟨hs.1, hs.2, if_pos (hsuccess.2 hs)⟩
  · dsimp only
    rw [if_neg fun h => hs (hsuccess.1 h), classify]
    by_cases ht : (Answer.answered status body).IsTrouble
    · exact .inr (.inl ⟨ht, _, by rw [if_pos (htrouble.2 ht)]⟩)
    · exact .inr (.inr ⟨hs, ht, _, by rw [if_neg fun h => ht (htrouble.1 h)]⟩)

lemma Answer.IsTrouble.not_isSuccess {answer : Answer} (h : answer.IsTrouble) : ¬answer.IsSuccess := by
  cases answer with
  | failed detail => exact not_false
  | answered status body =>
    rintro ⟨hlow, hhigh⟩
    rcases h with ⟨h, -⟩ | h | h <;> omega

/-- A deletion goes on behind a family's answer unless the other side is in trouble. -/
lemma survives_removeMember (userId familyId : Int) (answer : Answer) :
    Survives (.removeMember userId familyId) (replyOf answer) ↔ ¬answer.IsTrouble := by
  cases answer with
  | failed detail => simp [Survives, replyOf, Answer.IsTrouble]
  | answered status body =>
    rcases replyOf_cases status body with ⟨hlow, hhigh, hr⟩ | ⟨ht, detail, hr⟩ | ⟨-, ht, message, hr⟩ <;> rw [hr]
    · exact iff_of_true (.inl rfl) fun ht => ht.not_isSuccess ⟨hlow, hhigh⟩
    · exact iff_of_false (by simp [Survives]) (not_not.2 ht)
    · exact iff_of_true (.inr ⟨_, _, rfl⟩) ht

lemma survives_deleteInvites (userId : Int) (answer : Answer) :
    Survives (.deleteInvites userId) (replyOf answer) ↔ answer.IsSuccess := by
  cases answer with
  | failed detail => simp [Survives, replyOf, Answer.IsSuccess]
  | answered status body =>
    rcases replyOf_cases status body with ⟨hlow, hhigh, hr⟩ | ⟨ht, detail, hr⟩ | ⟨hs, -, message, hr⟩ <;> rw [hr]
    · exact iff_of_true rfl ⟨hlow, hhigh⟩
    · exact iff_of_false (by simp [Survives]) ht.not_isSuccess
    · exact iff_of_false (by simp [Survives]) hs

/-! ## Requests -/

def entriesOf : Call → List (String × Int)
  | .removeMember userId familyId => [("family_id", familyId), ("user_id", userId)]
  | .deleteInvites userId => [("user_id", userId)]

theorem isObjectOf_bodyOf (c : Call) : IsObjectOf (bodyOf c) (entriesOf c) := by
  have hbody : bodyOf c = String.ofList (Json.writeObject ((entriesOf c).map Json.writtenEntry)) := by
    cases c <;> rfl
  have hkeys : ((entriesOf c).map Prod.fst).Nodup := by
    cases c with
    | removeMember userId familyId => exact (by decide : ["family_id", "user_id"].Nodup)
    | deleteInvites userId => exact List.nodup_singleton _
  rw [hbody]
  exact Json.isObjectOf_writeObject hkeys

/-- A request below a base, where the two paths lead to `leave` and `invites`. -/
def requestTo (leave invites : Url) (c : Call) : Request where
  url := match c with
    | .removeMember .. => leave
    | .deleteInvites _ => invites
  body := bodyOf c

section Requests

variable {familyIds : List Int} {i : Nat}

lemma getElem?_requests (id : Int) {f : Int} (h : familyIds[i]? = some f) :
    (requests id familyIds)[i]? = some (.removeMember id f) := by
  have hi : i < (familyIds.map (Call.removeMember id)).length := by
    rw [List.length_map]
    exact (List.getElem?_eq_some_iff.1 h).1
  rw [requests, List.getElem?_append_left hi, List.getElem?_map, h]
  rfl

lemma getElem?_requests_length (id : Int) : (requests id familyIds)[familyIds.length]? = some (.deleteInvites id) := by
  rw [requests, List.getElem?_append_right (by simp)]
  simp

variable {leave invites : Url} {id : Int} {sent : Nat}

lemma length_sent (h : sent ≤ familyIds.length + 1) :
    (((requests id familyIds).take sent).map (requestTo leave invites)).length = sent := by
  rw [List.length_map, List.length_take, requests, List.length_append, List.length_map, List.length_singleton]
  exact Nat.min_eq_left h

/-- Each of the first requests goes where its place in the plan says, and says just the ids that it is about. -/
theorem sent_says {request : Request}
    (h : (((requests id familyIds).take sent).map (requestTo leave invites))[i]? = some request) :
    (∀ f, familyIds[i]? = some f →
      request.url = leave ∧ IsObjectOf request.body [("user_id", id), ("family_id", f)]) ∧
    (i = familyIds.length → request.url = invites ∧ IsObjectOf request.body [("user_id", id)]) := by
  rw [List.getElem?_map] at h
  obtain ⟨c, hc, rfl⟩ := Option.map_eq_some_iff.1 h
  rw [List.getElem?_take] at hc
  have hc : (requests id familyIds)[i]? = some c := (Option.ite_none_right_eq_some.1 hc).2
  refine ⟨fun f hf => ?_, ?_⟩
  · cases (getElem?_requests id hf).symm.trans hc
    exact ⟨rfl, (isObjectOf_bodyOf (.removeMember id f)).perm (List.Perm.swap ..)⟩
  · rintro rfl
    cases (getElem?_requests_length id).symm.trans hc
    exact ⟨rfl, isObjectOf_bodyOf (.deleteInvites id)⟩

end Requests

/-! ## The course of a deletion -/

/-- How far a deletion with `count` families gets by a script: it sends `sent` requests, up to the first trouble with a
family or to the one for the invitations, and gets through if these are withdrawn. -/
structure Course (answers : Nat → Answer) (count sent : Nat) (through : Bool) : Prop where
  pos : 0 < sent
  le : sent ≤ count + 1
  calm : ∀ i, i + 1 < sent → ¬(answers i).IsTrouble
  trouble : sent ≤ count → (answers (sent - 1)).IsTrouble
  through_iff : through = true ↔ sent = count + 1 ∧ (answers count).IsSuccess

namespace Course

variable {answers others : Nat → Answer} {count sent sent' : Nat} {through through' : Bool}

lemma sent_eq_of_trouble (h : Course answers count sent through) {i : Nat} (hi : i < count)
    (htrouble : (answers i).IsTrouble) (hfirst : ∀ j < i, ¬(answers j).IsTrouble) : sent = i + 1 := by
  have hpos := h.pos
  rcases Nat.lt_trichotomy sent (i + 1) with hlt | heq | hgt
  · exact absurd (h.trouble (by omega)) (hfirst _ (by omega))
  · exact heq
  · exact absurd htrouble (h.calm i hgt)

lemma sent_eq_of_calm (h : Course answers count sent through) (hcalm : ∀ i < count, ¬(answers i).IsTrouble) :
    sent = count + 1 := by
  have hpos := h.pos
  have hle := h.le
  by_contra hne
  exact hcalm _ (by omega) (h.trouble (by omega))

/-- **The classes of the answers decide the course.** -/
theorem unique (h : Course answers count sent through) (h' : Course others count sent' through')
    (halike : ∀ i, (answers i).Alike (others i)) : sent = sent' ∧ through = through' := by
  have hpos := h.pos
  have hpos' := h'.pos
  have hle := h.le
  have hle' := h'.le
  have hsent : sent = sent' := by
    rcases Nat.lt_trichotomy sent sent' with hlt | heq | hgt
    · exact absurd ((halike _).isTrouble_iff.1 (h.trouble (by omega))) (h'.calm _ (by omega))
    · exact heq
    · exact absurd ((halike _).isTrouble_iff.2 (h'.trouble (by omega))) (h.calm _ (by omega))
  subst hsent
  refine ⟨rfl, Bool.eq_iff_iff.2 ?_⟩
  rw [h.through_iff, h'.through_iff, (halike count).isSuccess_iff]

lemma cons (h : Course (fun i => answers (i + 1)) count sent through) (hfirst : ¬(answers 0).IsTrouble) :
    Course answers (count + 1) (sent + 1) through where
  pos := Nat.succ_pos _
  le := Nat.succ_le_succ h.le
  calm i hi := by
    cases i with
    | zero => exact hfirst
    | succ i => exact h.calm i (Nat.lt_of_succ_lt_succ hi)
  trouble hle := by
    have hpos := h.pos
    have htrouble := h.trouble (Nat.le_of_succ_le_succ hle)
    rwa [Nat.sub_add_cancel hpos] at htrouble
  through_iff := by rw [h.through_iff, Nat.add_right_cancel_iff]

end Course

/-- The reply to the last of some calls, by a script. -/
def replies (answers : Nat → Answer) (calls : List Call) : Reply := replyOf (answers (calls.length - 1))

lemma replies_append (answers : Nat → Answer) (past : List Call) (c : Call) :
    replies answers (past ++ [c]) = replyOf (answers past.length) := by
  rw [replies, List.length_append, List.length_singleton, Nat.add_sub_cancel]

/-- A deletion that pursues its requests by a script takes a course. -/
theorem Course.of_pursued {answers : Nat → Answer} {id : Int} {familyIds : List Int} {past made : List Call}
    {through : Bool} (h : Pursued (replies answers) past (requests id familyIds) made through) :
    Course (fun i => answers (past.length + i)) familyIds.length made.length through := by
  induction familyIds generalizing past made with
  | nil =>
    change Pursued (replies answers) past [.deleteInvites id] made through at h
    cases h with
    | ends he =>
      rw [replies_append] at he
      have hfailed : ¬(answers past.length).IsSuccess := fun hs =>
        (Deletion.not_ends_iff_survives _ _).2 ((survives_deleteInvites id _).2 hs) he
      exact ⟨Nat.one_pos, Nat.le_refl _, fun i hi => absurd hi (by simp), fun hle => absurd hle (by simp),
        iff_of_false (by simp) fun hs => hfailed hs.2⟩
    | cons hs ht =>
      rw [replies_append, survives_deleteInvites] at hs
      cases ht
      exact ⟨Nat.one_pos, Nat.le_refl _, fun i hi => absurd hi (by simp), fun hle => absurd hle (by simp),
        iff_of_true rfl ⟨rfl, hs⟩⟩
  | cons f familyIds ih =>
    change Pursued (replies answers) past (.removeMember id f :: requests id familyIds) made through at h
    cases h with
    | ends he =>
      rw [replies_append] at he
      have htrouble : (answers past.length).IsTrouble := not_not.1 fun hcalm =>
        (Deletion.not_ends_iff_survives _ _).2 ((survives_removeMember id f _).2 hcalm) he
      exact ⟨Nat.one_pos, by simp, fun i hi => absurd hi (by simp), fun _ => htrouble,
        iff_of_false (by simp) fun hs => absurd hs.1 (by simp)⟩
    | cons hs ht =>
      rw [replies_append, survives_removeMember] at hs
      have hrest := ih ht
      rw [List.length_append, List.length_singleton] at hrest
      refine Course.cons ?_ hs
      simpa only [Nat.add_assoc, Nat.add_comm 1] using hrest

/-! ## Runs -/

section Run

variable {base leave invites : Url} {id : Int}

variable (hleave : endpoint? base "FamilyLeader/RemoveUser" = some leave)
  (hinvites : endpoint? base "Invite/DeleteUserInvites" = some invites)
include hleave hinvites

/-- What is sent over the wire is a view of the calls that are made. -/
lemma client_scripted (answers : Nat → Answer) (c : Call) (calls : List Call) :
    client base (scripted answers) c (calls.map (requestTo leave invites)) =
      let left := recording (replies answers) c calls
      (left.1, left.2.map (requestTo leave invites)) := by
  have hurl : endpoint? base (pathOf c) = some (requestTo leave invites c).url := by
    cases c with
    | removeMember userId familyId => exact hleave
    | deleteInvites userId => exact hinvites
  rw [client, hurl, recording, replies_append]
  simp only [scripted, List.length_map, List.map_append, List.map_singleton]
  rfl

/-- **A deletion over the wire takes its course:** it sends the first requests of the plan, and it removes the record
and succeeds if it gets through. -/
theorem run_client {s : Store} {a : Account} (ha : s.account? id = some a) (answers : Nat → Answer) :
    ∃ sent through result, Course answers a.familyIds.length sent through ∧
      (Service.deleteEverywhere id).runWith (inMemory (client base (scripted answers))) (s, []) =
        (result, (if through then s.erase id else s,
          ((requests id a.familyIds).take sent).map (requestTo leave invites))) ∧
      (through = true → result = .ok ()) ∧ (through = false → ∃ detail, result = .error (.internal detail)) := by
  obtain ⟨made, through, hp, result, hplan, hok, herr⟩ := Deletion.runAll_plan (replies answers) [] ha a.familyIds
  have hrecorded : (Service.deleteEverywhere id).runWith (inMemory (recording (replies answers))) (s, []) =
      (result, (if through then s.erase id else s, made)) := (Deletion.deleteEverywhere_of_some ha []).trans hplan
  have hview : (Service.deleteEverywhere id).runWith (inMemory (client base (scripted answers))) (s, []) =
      let left := (Service.deleteEverywhere id).runWith (inMemory (recording (replies answers))) (s, [])
      (left.1, (left.2.1, left.2.2.map (requestTo leave invites))) :=
    Program.run_view (client_scripted hleave hinvites answers) (Service.deleteEverywhere id).run s []
  have hcourse := Course.of_pursued hp
  simp only [List.length_nil, Nat.zero_add] at hcourse
  refine ⟨made.length, through, result, hcourse, ?_, hok, herr⟩
  rw [hview, hrecorded, ← List.prefix_iff_eq_take.1 hp.isPrefix]

end Run

end Gatehouse.Relations.Wire
