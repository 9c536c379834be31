import FleetGate.AccessReview
import FleetGate.Proofs.Rereading
import FleetGate.Proofs.Running

/-!
# Reviews of requests

A review asks the server whether its caller may do what a request wants.  It refuses the request
only if the server says no, and each answer that is missing, broken or silent lets the request
pass.

* `Api.Answers` says that a server answers a request with what is wanted, and `Api.recorded` keeps
  a record of what is sent.
* `AccessReview.posted` is what is sent for a review, and `AccessReview.Asks` says what a server
  reads in it.
* `AccessReview.Denied` is the one way to be refused (`AccessReview.check_eq_error_iff`).
* `AccessReview.Verdict` puts this together for the subject of a request.
-/

namespace FleetGate

open Runs (run bind_of)
open Json (Draft)

/-! ## Answers -/

namespace Json.Draft

variable {α β : Type} {form : Api.Wanted α} {text : String}

/-- A text is read if its form is found in it and nothing is left over. -/
theorem readText_eq_ok_iff {a : α} :
    readText form text = .ok a ↔ form (ofText text).1 = .ok a ∧ (ofText text).2 = false := by
  simp only [readText]
  cases form (ofText text).1 with
  | error flaw => simp
  | ok a' => cases (ofText text).2 <;> simp

theorem readText_map_eq_ok_iff {f : α → β} {b : β} :
    readText (fun draft => (form draft).map f) text = .ok b ↔
      ∃ a, readText form text = .ok a ∧ f a = b := by
  simp only [readText_eq_ok_iff]
  cases form (ofText text).1 with
  | error flaw => simp [Except.map]
  | ok a => simp [Except.map, and_comm]

end Json.Draft

namespace Api

variable {m : Type → Type} [Monad m] {W : Type} [Runs m W] {α : Type}

/-- A server answers a request with what is wanted, and reports no failure. -/
def Answers (call : Call m) (form : Wanted α) (r : HttpRequest) (w : W) (a : α) : Prop :=
  ∃ reply text, (run (call r) w).1 = .ok reply ∧ (reply.status < 400 ∨ 600 ≤ reply.status) ∧
    reply.text? = some text ∧ Draft.readText form text = .ok a

/-- A reply gives its text, if it has one, unless its status is that of a failure. -/
theorem textOf_eq_ok_iff {reply : HttpReply} {text : String} :
    textOf reply = .ok text ↔
      (reply.status < 400 ∨ 600 ≤ reply.status) ∧ reply.text? = some text := by
  have hfailure : isFailure reply.status = true ↔
      ¬ (reply.status < 400 ∨ 600 ≤ reply.status) := by
    simp only [isFailure, Bool.and_eq_true, decide_eq_true_eq]
    omega
  unfold textOf
  cases reply.text? with
  | none => simp
  | some found =>
    by_cases hstatus : reply.status < 400 ∨ 600 ≤ reply.status
    · simp [hstatus, mt hfailure.mp (not_not.mpr hstatus)]
    · simp [hstatus, hfailure.mpr hstatus]

theorem decode_eq_ok_iff {form : Wanted α} {text : String} {a : α} :
    decode form text = .ok a ↔ Draft.readText form text = .ok a := by
  unfold decode
  cases Draft.readText form text <;> simp

/-- A call comes to what is wanted exactly if the server answers with it. -/
theorem value_eq_ok_iff {call : Call m} {form : Wanted α} {r : HttpRequest} {w : W} {a : α} :
    (run (value call form r) w).1 = .ok a ↔ Answers call form r w a := by
  have htext : ∀ found, (run (text call r) w).1 = .ok found ↔
      ∃ reply, (run (call r) w).1 = .ok reply ∧ textOf reply = .ok found := by
    intro found
    rw [text, Runs.run_bind]
    cases (run (call r) w).1 <;> simp
  rw [value, Runs.run_bind]
  constructor
  · intro h
    cases hfound : (run (text call r) w).1 with
    | error e => rw [hfound, Runs.run_pure] at h; cases h
    | ok found =>
      rw [hfound, Runs.run_pure] at h
      obtain ⟨reply, hreply, hof⟩ := (htext found).mp hfound
      obtain ⟨hstatus, htext⟩ := textOf_eq_ok_iff.mp hof
      exact ⟨reply, found, hreply, hstatus, htext, decode_eq_ok_iff.mp h⟩
  · rintro ⟨reply, found, hreply, hstatus, hfound, ha⟩
    rw [(htext found).mpr ⟨reply, hreply, textOf_eq_ok_iff.mpr ⟨hstatus, hfound⟩⟩]
    rw [Runs.run_pure, decode_eq_ok_iff.mpr ha]

/-- What is made of an answer is an answer if that was one. -/
theorem answers_map_iff {β : Type} {call : Call m} {form : Wanted α} {f : α → β} {r : HttpRequest}
    {w : W} {b : β} :
    Answers call (fun draft => (form draft).map f) r w b ↔
      ∃ a, Answers call form r w a ∧ f a = b := by
  simp only [Answers, Draft.readText_map_eq_ok_iff]
  constructor
  · rintro ⟨reply, text, hreply, hstatus, htext, a, ha, hf⟩
    exact ⟨a, ⟨reply, text, hreply, hstatus, htext, ha⟩, hf⟩
  · rintro ⟨a, ⟨reply, text, hreply, hstatus, htext, ha⟩, hf⟩
    exact ⟨reply, text, hreply, hstatus, htext, a, ha, hf⟩

/-- Calls beside a record of the requests that they send. -/
def recorded (call : Call m) : Call (StateT (List HttpRequest) m) := Runs.noted call

/-- To ask for what is wanted takes one request. -/
theorem sent_of_value (call : Call m) (form : Wanted α) (r : HttpRequest)
    (sent : List HttpRequest) (w : W) :
    (run (value (recorded call) form r) (sent, w)).2.1 = sent ++ [r] := by
  rw [value, text, Runs.run_bind, Runs.run_bind, recorded, Runs.run_noted]
  cases (run (call r) w).1 with
  | error e => simp
  | ok reply =>
    rw [Runs.run_pure]
    cases textOf reply <;> simp

end Api

/-! ## Reviews -/

/-- What a review of a request says under a key. -/
def ResourcePath.attribute? (path : ResourcePath) (verb : String) : String → Option String
  | "namespace" => path.ns?
  | "verb" => some verb
  | "group" => some path.gvr.group
  | "version" => some path.gvr.version
  | "resource" => some path.gvr.resource
  | "subresource" => path.subresource?
  | "name" => path.name?
  | _ => none

/-- What a refusal calls what a path addresses: the resource, its group after a dot and the name
after a slash, as far as there are any. -/
def ResourcePath.described (path : ResourcePath) : String :=
  path.gvr.resource ++ (if path.gvr.group = "" then "" else "." ++ path.gvr.group) ++
    match path.name? with
    | some name => "/" ++ name
    | none => ""

namespace AccessReview

/-- What is posted for a review. -/
def posted (s : Subject) : HttpRequest where
  method := .post
  target := ⟨none, none, path, none⟩
  headers := [("content-type", "application/json")]
  body := .bytes (Text.Utf8.encode (ofSubject s).toJson.render)

/-- A request asks whether something may be done to what a path addresses.  The server reads all
that is known of that in it, and nothing else. -/
structure Asks (path : ResourcePath) (verb : String) (r : HttpRequest) : Prop where
  method_eq : r.method = .post
  target_eq : r.target = ⟨none, none, AccessReview.path, none⟩
  carries : ∃ body attributes, r.body = .bytes body ∧
    Json.ofBytes? body = some (.obj [("apiVersion", .str apiVersion), ("kind", .str kind),
      ("metadata", .obj []), ("spec", .obj [("resourceAttributes", attributes)])]) ∧
    ∀ key, attributes.field? key = (path.attribute? verb key).map .str

/-- What is asked, as texts. -/
def texts (r : AccessReview) : Fields (Option String) :=
  [("group", some r.gvr.group), ("name", r.name?), ("namespace", r.ns?),
    ("resource", some r.gvr.resource), ("subresource", r.subresource?), ("verb", some r.verb),
    ("version", some r.gvr.version)]

theorem attributes_eq (r : AccessReview) : r.attributes = Json.objectOfTexts r.texts := rfl

theorem toJson_eq (r : AccessReview) :
    r.toJson = .obj [("apiVersion", .str apiVersion), ("kind", .str kind), ("metadata", .obj []),
      ("spec", .obj [("resourceAttributes", r.attributes)])] := rfl

/-- A review consists of texts, so that a server reads what is written. -/
theorem textual_toJson (r : AccessReview) (room : Nat) : Json.Textual (room + 3) r.toJson := by
  refine .object fun kv hkv => ?_
  simp only [List.mem_cons, List.not_mem_nil, or_false] at hkv
  rcases hkv with rfl | rfl | rfl | rfl
  · exact .str _
  · exact .str _
  · exact .obj List.Pairwise.nil fun kv hkv => absurd hkv List.not_mem_nil
  · refine .obj (List.pairwise_singleton _ _) fun kv hkv => ?_
    cases List.mem_singleton.mp hkv
    rw [attributes_eq]
    exact .objectOfTexts _

/-- The attributes of a review are those of the path, and nothing else is in them. -/
theorem field?_attributes (path : ResourcePath) (gvk : Gvk) (verb : String)
    (body? : Option (List UInt8)) (key : String) :
    (ofSubject (path.subject gvk verb body?)).attributes.field? key =
      (path.attribute? verb key).map .str := by
  have hsorted : ∀ r : AccessReview, Fields.Sorted r.texts := fun r => by
    have hkeys : ["group", "name", "namespace", "resource", "subresource", "verb",
        "version"].Pairwise (· < ·) := by decide +kernel
    exact hkeys
  rw [attributes_eq, Json.field?_objectOfTexts (hsorted _)]
  congr 1
  unfold ResourcePath.attribute?
  split
  · rfl
  · rfl
  · rfl
  · rfl
  · rfl
  · rfl
  · rfl
  · next hns hverb hgroup hversion hresource hsub hname =>
    simp [texts, Fields.get?, Ne.symm hns, Ne.symm hverb, Ne.symm hgroup, Ne.symm hversion,
      Ne.symm hresource, Ne.symm hsub, Ne.symm hname]

/-- The review of a request asks whether its caller may do just what the path and the verb say. -/
theorem asks_posted (path : ResourcePath) (gvk : Gvk) (verb : String)
    (body? : Option (List UInt8)) : Asks path verb (posted (path.subject gvk verb body?)) := by
  refine ⟨rfl, rfl, _, _, rfl, ?_, field?_attributes path gvk verb body?⟩
  rw [Json.ofBytes?_render (textual_toJson _ 124), toJson_eq]

/-- A refusal calls an object as it is described on its path. -/
theorem objectName_subject (path : ResourcePath) (gvk : Gvk) (verb : String)
    (body? : Option (List UInt8)) :
    objectName (path.subject gvk verb body?) = path.described := by
  have hqualified : path.gvr.qualified =
      path.gvr.resource ++ if path.gvr.group = "" then "" else "." ++ path.gvr.group := by
    simp only [Gvr.qualified, String.isEmpty_iff]
    split <;> simp [String.append_assoc]
  rw [ResourcePath.described, ← hqualified, objectName, ResourcePath.subject]
  cases path.name? with
  | some name => exact String.append_assoc
  | none => exact String.append_empty.symm

variable {m : Type → Type} [Monad m]

/-- To ask for a review is to post it. -/
theorem ask_ofSubject (call : Api.Call m) (s : Subject) :
    ask call (ofSubject s) = Api.value call answer (posted s) := by
  have htarget : Uri.parse? path = some ⟨none, none, path, none⟩ := by decide +kernel
  rw [ask, Api.post, HttpRequest.ofText?, htarget]
  rfl

variable {W : Type} [Runs m W]

/-- A request is denied: the server was asked, and its review has a status that does not allow
the request. -/
structure Denied (call? : Option (Api.Call m)) (s : Subject) (w : W) : Prop where
  verb_ne : s.verb ≠ ""
  resource_ne : s.gvr.resource ≠ ""
  denial : ∃ call review status, call? = some call ∧
    Api.Answers call shape.wanted (posted s) w review ∧
    review.present? "status" = some status ∧ status.field? "allowed" ≠ some (.bool true)

/-- Only a clear no refuses. -/
theorem decide_eq_error_iff {s : Subject} {found : Except CallError (Option Bool)}
    {e : AccessError} :
    decide s found = .error e ↔
      found = .ok (some false) ∧ e = .permissionDenied s.verb (objectName s) s.ns? := by
  unfold decide
  split
  · simp [eq_comm]
  · next h => exact ⟨fun he => (nomatch he), fun he => absurd he.1 h⟩

/-- What a review says. -/
def says? (review : Json) : Option Bool :=
  (review.present? "status").map fun status =>
    ((status.field? "allowed").bind Json.bool?).getD false

theorem answer_eq : answer = fun draft => (shape.wanted draft).map says? := rfl

/-- A review says no if it has a status that does not say yes. -/
theorem says?_eq_no_iff {review : Json} :
    says? review = some false ↔ ∃ status, review.present? "status" = some status ∧
      status.field? "allowed" ≠ some (.bool true) := by
  rw [says?, Option.map_eq_some_iff]
  refine exists_congr fun status => and_congr_right fun _ => ?_
  rcases status.field? "allowed" with - | (- | allowed | - | - | - | - | -) <;> simp [Json.bool?]

theorem denied_some_iff {call : Api.Call m} {s : Subject} {w : W} :
    Denied (some call) s w ↔ s.verb ≠ "" ∧ s.gvr.resource ≠ "" ∧
      Api.Answers call answer (posted s) w (some false) := by
  rw [answer_eq, Api.answers_map_iff]
  constructor
  · rintro ⟨hverb, hresource, call, review, status, hcall, hreview, hpresent, hno⟩
    cases hcall
    exact ⟨hverb, hresource, review, hreview, says?_eq_no_iff.mpr ⟨status, hpresent, hno⟩⟩
  · rintro ⟨hverb, hresource, review, hreview, hsays⟩
    obtain ⟨status, hpresent, hno⟩ := says?_eq_no_iff.mp hsays
    exact ⟨hverb, hresource, call, review, status, rfl, hreview, hpresent, hno⟩

/-- A request is refused exactly if the server denies it, with the verb, the object and the
namespace. -/
theorem check_eq_error_iff {call? : Option (Api.Call m)} {s : Subject} {w : W} {e : AccessError} :
    (run (check call? s) w).1 = .error e ↔
      Denied call? s w ∧ e = .permissionDenied s.verb (objectName s) s.ns? := by
  unfold check
  by_cases hne : s.verb = "" ∨ s.gvr.resource = ""
  · rw [if_pos (by simpa using hne), Runs.run_pure]
    exact ⟨fun h => (nomatch h), fun h => (hne.elim h.1.verb_ne h.1.resource_ne).elim⟩
  · obtain ⟨hverb, hresource⟩ := not_or.mp hne
    rw [if_neg (by simpa using hne)]
    cases call? with
    | none =>
      rw [Runs.run_pure]
      refine ⟨fun h => (nomatch h), fun h => ?_⟩
      obtain ⟨call, -, -, hcall, -⟩ := h.1.denial
      cases hcall
    | some call =>
      rw [Runs.run_bind, Runs.run_pure, ask_ofSubject, decide_eq_error_iff, Api.value_eq_ok_iff,
        denied_some_iff, and_iff_right hverb, and_iff_right hresource]

/-- It passes in every other case, also if there is no answer. -/
theorem check_eq_ok_iff {call? : Option (Api.Call m)} {s : Subject} {w : W} :
    (run (check call? s) w).1 = .ok () ↔ ¬ Denied call? s w := by
  rw [eq_ok_iff_of_eq_error_iff fun e => check_eq_error_iff]
  simp

/-- A check sends one request, or none if there is nothing to ask about. -/
theorem sent_of_check (call : Api.Call m) (s : Subject) (w : W) :
    (run (check (some (Api.recorded call)) s) ([], w)).2.1 =
      if s.verb = "" ∨ s.gvr.resource = "" then [] else [posted s] := by
  unfold check
  by_cases hne : s.verb = "" ∨ s.gvr.resource = ""
  · rw [if_pos (by simpa using hne), if_pos hne, Runs.run_pure]
  · rw [if_neg (by simpa using hne), if_neg hne, Runs.run_bind, Runs.run_pure, ask_ofSubject,
      Api.sent_of_value, List.nil_append]

/-- How a request is reviewed, whoever is asked and whatever the world is like. -/
structure Verdict (path : ResourcePath) (verb : String) (s : Subject)
    (call? : Option (Api.Call m)) (w : W) : Prop where
  /-- It is refused if it is denied, and the failure says what may not be done. -/
  refused_iff (e : AccessError) : (run (check call? s) w).1 = .error e ↔
    Denied call? s w ∧ e = .permissionDenied verb path.described path.ns?
  /-- Otherwise it is allowed. -/
  allowed_iff : (run (check call? s) w).1 = .ok () ↔ ¬ Denied call? s w
  /-- At most one request is sent for that. -/
  sent (call : Api.Call m) : (run (check (some (Api.recorded call)) s) ([], w)).2.1 =
    if s.verb = "" ∨ s.gvr.resource = "" then [] else [posted s]
  /-- It asks about the request, and about nothing else. -/
  asks : Asks path verb (posted s)

/-- A review of a request on a path decides as the server does. -/
theorem verdict (path : ResourcePath) (gvk : Gvk) (verb : String) (body? : Option (List UInt8))
    (call? : Option (Api.Call m)) (w : W) :
    Verdict path verb (path.subject gvk verb body?) call? w where
  refused_iff e := by rw [check_eq_error_iff, objectName_subject]; rfl
  allowed_iff := check_eq_ok_iff
  sent call := sent_of_check call _ w
  asks := asks_posted path gvk verb body?

end AccessReview

end FleetGate
