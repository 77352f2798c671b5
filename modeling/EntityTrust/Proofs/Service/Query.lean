import EntityTrust.Proofs.Service.Dispatch
import EntityTrust.Proofs.Text.Numeral
import EntityTrust.Proofs.Url.Form

/-!
# Queries for trust chains

How the pairs of a query make up a request, and how the request is answered.

**Pairs.**  `valuesOf` lists the values that a query has for a name.  `Answers` says what a query
comes to in terms of these lists: the first depth that is no number, or else the lack of a subject,
or else the last subject, all anchors and the last depth.

**Results.**
* `parse_encode`: what is read from the encoded form of pairs is what they come to.
* `chained_answer`: how each request for a trust chain is answered, whatever the federation does.
-/

namespace EntityTrust
namespace Service
namespace Query

open Numeral (Denotes maxWord64)

/-- The values of a name, in the order in which they are given. -/
def valuesOf (name : String) (pairs : List (String × String)) : List String :=
  (pairs.filter fun p => p.1 == name).map Prod.snd

/-- A text is a depth: a numeral for a number that a word can hold. -/
def IsDepth (text : String) (n : Nat) : Prop :=
  Denotes text n ∧ n ≤ maxWord64

/-- Every depth that is given is a number. -/
def Numeric (pairs : List (String × String)) : Prop :=
  ∀ text ∈ valuesOf "max_depth" pairs, ∃ n, IsDepth text n

/-- What pairs come to. -/
inductive Answers (pairs : List (String × String)) : Except Fault Query → Prop
  | badDepth {before after : List (String × String)} {text : String}
      (split : pairs = before ++ ("max_depth", text) :: after) (numeric : Numeric before)
      (bad : ¬ ∃ n, IsDepth text n) : Answers pairs (.error (badDepth text))
  | missingSubject (numeric : Numeric pairs)
      (missing : ∀ s, (valuesOf "sub" pairs).getLast? = some s → s = "") :
      Answers pairs (.error missingSubject)
  | read {subject : String} {depth : Option Nat} (numeric : Numeric pairs)
      (last : (valuesOf "sub" pairs).getLast? = some subject) (nonempty : subject ≠ "")
      (deep : ∀ n, depth = some n ↔
        ∃ text, (valuesOf "max_depth" pairs).getLast? = some text ∧ IsDepth text n) :
      Answers pairs (.ok ⟨subject, valuesOf "trust_anchor" pairs, depth⟩)

section Folds

variable {pairs : List (String × String)}

theorem valuesOf_concat (name : String) (pairs : List (String × String)) (p : String × String) :
    valuesOf name (pairs ++ [p]) = valuesOf name pairs ++ if p.1 = name then [p.2] else [] := by
  by_cases h : p.1 = name <;> simp [valuesOf, List.filter_append, h]

theorem numeric_concat {p : String × String} : Numeric (pairs ++ [p]) ↔
    Numeric pairs ∧ (p.1 = "max_depth" → ∃ n, IsDepth p.2 n) := by
  unfold Numeric
  rw [valuesOf_concat]
  by_cases h : p.1 = "max_depth"
  · simp [h, or_imp, forall_and]
  · simp [h]

/-- The depth that a text denotes. -/
def depth? (text : String) : Option Nat :=
  (Numeral.parse maxWord64 text).toOption

theorem depth?_eq_some {text : String} {n : Nat} : depth? text = some n ↔ IsDepth text n := by
  rw [depth?, Outcome.toOption_eq_some, Numeral.parse_eq_ok, IsDepth]

/-- What has been read of pairs whose depths are numbers. -/
def draft (pairs : List (String × String)) : Draft :=
  ⟨(valuesOf "sub" pairs).getLast?, valuesOf "trust_anchor" pairs,
    (valuesOf "max_depth" pairs).getLast?.bind depth?⟩

/-- A pair that is taken in changes the values of its name only. -/
theorem add_draft {p : String × String} (h : p.1 = "max_depth" → ∃ n, IsDepth p.2 n) :
    add (draft pairs) p = .ok (draft (pairs ++ [p])) := by
  obtain ⟨name, value⟩ := p
  unfold draft
  rw [valuesOf_concat, valuesOf_concat, valuesOf_concat]
  unfold add
  split
  · rename_i value heq
    cases heq
    simp
  · rename_i value heq
    cases heq
    simp
  · rename_i value heq
    cases heq
    obtain ⟨n, hn⟩ := h rfl
    have hparse : Numeral.parse maxWord64 value = .ok n := Numeral.parse_eq_ok.mpr hn
    simp [hparse, depth?_eq_some.mpr hn]
  · rename_i hsub hanchor hdepth
    have hother (k : String) (hk : ∀ v, ¬ (name, value) = (k, v)) : ¬ name = k := by
      rintro rfl
      exact hk value rfl
    simp [hother _ hsub, hother _ hanchor, hother _ hdepth]

/-- Pairs whose depths are numbers are taken in one after another. -/
theorem foldlM_add_of_numeric (h : Numeric pairs) : pairs.foldlM add {} = .ok (draft pairs) := by
  induction pairs using List.reverseRecOn with
  | nil => rfl
  | append_singleton pairs p ih =>
      obtain ⟨hnumeric, hp⟩ := numeric_concat.mp h
      rw [List.foldlM_append, ih hnumeric, Outcome.ok_bind, List.foldlM_cons, add_draft hp,
        Outcome.ok_bind]
      rfl

/-- A depth that is no number ends the reading. -/
theorem foldlM_add_of_bad {before after : List (String × String)} {text : String}
    (numeric : Numeric before) (bad : ¬ ∃ n, IsDepth text n) :
    (before ++ ("max_depth", text) :: after).foldlM add {} = .error (badDepth text) := by
  have hadd (d : Draft) : add d ("max_depth", text) = .error (badDepth text) := by
    rw [add]
    split
    · rename_i n hparse
      exact absurd ⟨n, Numeral.parse_eq_ok.mp hparse⟩ bad
    · rfl
  rw [List.foldlM_append, foldlM_add_of_numeric numeric, Outcome.ok_bind, List.foldlM_cons, hadd]
  rfl

/-- The depths are numbers, or one of them is the first that is none. -/
theorem numeric_or_bad (pairs : List (String × String)) :
    Numeric pairs ∨ ∃ before after text, pairs = before ++ ("max_depth", text) :: after ∧
      Numeric before ∧ ¬ ∃ n, IsDepth text n := by
  induction pairs using List.reverseRecOn with
  | nil => exact .inl nofun
  | append_singleton pairs p ih =>
      obtain hnumeric | ⟨before, after, text, rfl, hbad⟩ := ih
      · by_cases hp : p.1 = "max_depth" → ∃ n, IsDepth p.2 n
        · exact .inl (numeric_concat.mpr ⟨hnumeric, hp⟩)
        · obtain ⟨hname, hvalue⟩ := Classical.not_imp.mp hp
          exact .inr ⟨pairs, [], p.2, by rw [← hname], hnumeric, hvalue⟩
      · exact .inr ⟨before, after ++ [p], text, by simp, hbad⟩

/-- The depth that is read is the one that the last value denotes. -/
theorem draft_maxDepth_eq_some {n : Nat} : (draft pairs).maxDepth = some n ↔
    ∃ text, (valuesOf "max_depth" pairs).getLast? = some text ∧ IsDepth text n := by
  simp only [draft, Option.bind_eq_some_iff, depth?_eq_some]

theorem exists_answers (pairs : List (String × String)) : ∃ r, Answers pairs r := by
  obtain hnumeric | ⟨before, after, text, hsplit, hbefore, hbad⟩ := numeric_or_bad pairs
  · by_cases hmissing : ∀ s, (valuesOf "sub" pairs).getLast? = some s → s = ""
    · exact ⟨_, .missingSubject hnumeric hmissing⟩
    · obtain ⟨subject, hsubject⟩ := not_forall.mp hmissing
      obtain ⟨hlast, hnonempty⟩ := Classical.not_imp.mp hsubject
      exact ⟨_, .read hnumeric hlast hnonempty fun n => draft_maxDepth_eq_some⟩
  · exact ⟨_, .badDepth hsplit hbefore hbad⟩

/-- Whatever pairs come to is read from them. -/
theorem ofPairs_of_answers {r : Except Fault Query} (h : Answers pairs r) : ofPairs pairs = r := by
  cases h with
  | badDepth split numeric bad =>
      rw [split, ofPairs, foldlM_add_of_bad numeric bad]
      rfl
  | missingSubject numeric missing =>
      rw [ofPairs, foldlM_add_of_numeric numeric, Outcome.ok_bind]
      cases hlast : (draft pairs).subject with
      | none => rfl
      | some subject =>
          obtain rfl := missing subject hlast
          rfl
  | @read subject depth numeric last nonempty deep =>
      have hdepth : (draft pairs).maxDepth = depth :=
        Option.ext fun n => draft_maxDepth_eq_some.trans (deep n).symm
      have hempty : subject.isEmpty = false := by simpa using nonempty
      have hsubject : (draft pairs).subject = some subject := last
      rw [ofPairs, foldlM_add_of_numeric numeric, Outcome.ok_bind]
      simp only [hsubject, hempty, hdepth]
      rfl

theorem ofPairs_eq_iff {r : Except Fault Query} : ofPairs pairs = r ↔ Answers pairs r := by
  constructor
  · intro h
    obtain ⟨r', hr'⟩ := exists_answers pairs
    rw [← h, ofPairs_of_answers hr']
    exact hr'
  · exact ofPairs_of_answers

/-- What is read from the encoded form of pairs is what they come to. -/
theorem parse_encode {r : Except Fault Query} :
    parse (some (String.ofList (Form.encode pairs))) = r ↔ Answers pairs r := by
  rw [parse, Option.getD_some, String.toList_ofList, Form.decode_encode, ofPairs_eq_iff]

end Folds
end Query

section Endpoint

open Query (valuesOf Answers)

/-- A request asks for a trust chain with pairs as its query. -/
structure AsksChain (r : Request) (pairs : List (String × String)) : Prop where
  method : r.method = "GET"
  path : r.path = Endpoint.path .resolve
  query : r.query = some (String.ofList (Form.encode pairs))

variable {σ : Type} {s : Service (StateM σ)} {r : Request} {pairs : List (String × String)}
  {state state' : σ}

/-- How a request for a trust chain is answered by a service with a state. -/
structure Chained (s : Service (StateM σ)) (pairs : List (String × String)) (state : σ)
    (reply : Reply) (state' : σ) : Prop where
  /-- The request is blamed exactly when its query cannot be read, or when there is no anchor. -/
  badRequest : reply.status = 400 ↔ (∃ f, Answers pairs (.error f)) ∨
    valuesOf "trust_anchor" pairs = [] ∧ s.settings.trustAnchors = []
  /-- The federation takes no part in that. -/
  unasked : reply.status = 400 → state' = state
  /-- Every other reply is what the search comes to. -/
  resolved : reply.status ≠ 400 → ∃ q resolution, Answers pairs (.ok q) ∧
    (Discovery.resolve s.federation s.settings.resolver q.subject
      (if q.trustAnchors = [] then s.settings.trustAnchors else q.trustAnchors)
        q.maxDepth).run state = (resolution, state') ∧
      reply = { Reply.ofJson 200 resolution.toJson with allowOrigin := some "*" }

theorem AsksChain.at (asks : AsksChain r pairs) : r.At .resolve where
  path := asks.path
  method := by
    rw [asks.method]
    decide
  body := by
    rw [asks.method]
    decide

theorem anchorsFor_eq (q : Query) :
    s.anchorsFor q =
      if q.trustAnchors = [] ∧ s.settings.trustAnchors = [] then
        .error (.badRequest "no trust_anchor given and none configured")
      else .ok (if q.trustAnchors = [] then s.settings.trustAnchors else q.trustAnchors) := by
  unfold anchorsFor
  cases q.trustAnchors with
  | nil => cases s.settings.trustAnchors <;> simp
  | cons a as => simp

/-- A query that cannot be read is blamed on the request. -/
theorem status_of_answers {f : Fault} (h : Answers pairs (.error f)) : f.reply.status = 400 := by
  cases h <;> rfl

theorem trustAnchors_of_answers {q : Query} (h : Answers pairs (.ok q)) :
    q.trustAnchors = valuesOf "trust_anchor" pairs := by
  cases h
  rfl

theorem Answers.unique {r r' : Except Fault Query} (h : Answers pairs r) (h' : Answers pairs r') :
    r = r' := by
  rw [← Query.ofPairs_of_answers h, Query.ofPairs_of_answers h']

/-- A request for a trust chain is blamed for its query or its lack of anchors, or else it is
answered with what the search comes to. -/
theorem chained_of_asks (asks : AsksChain r pairs) :
    Chained s pairs state ((s.answer r).run state).1 ((s.answer r).run state).2 := by
  cases hparse : Query.parse r.query with
  | error f =>
      have hanswers : Answers pairs (.error f) := Query.parse_encode.mp (asks.query ▸ hparse)
      have hreply : (s.replyAt r .resolve).run state = (f.reply, state) := by
        simp only [replyAt, replyResolve, hparse]
        rfl
      rw [run_answer asks.at hreply]
      exact ⟨⟨fun _ => .inl ⟨f, hanswers⟩, fun _ => status_of_answers hanswers⟩, fun _ => rfl,
        fun h => absurd (status_of_answers hanswers) h⟩
  | ok q =>
      have hanswers : Answers pairs (.ok q) := Query.parse_encode.mp (asks.query ▸ hparse)
      have hanchors := trustAnchors_of_answers hanswers
      have hreadable : ¬ ∃ f, Answers pairs (.error f) := by
        rintro ⟨f, hf⟩
        cases Answers.unique hanswers hf
      by_cases hnone : q.trustAnchors = [] ∧ s.settings.trustAnchors = []
      · have hreply : (s.replyAt r .resolve).run state =
            ((Fault.badRequest "no trust_anchor given and none configured").reply, state) := by
          simp only [replyAt, replyResolve, hparse, anchorsFor_eq, if_pos hnone]
          rfl
        rw [run_answer asks.at hreply]
        exact ⟨⟨fun _ => .inr (hanchors ▸ hnone), fun _ => rfl⟩, fun _ => rfl,
          fun h => absurd rfl h⟩
      · rcases hresolved : (Discovery.resolve s.federation s.settings.resolver q.subject
          (if q.trustAnchors = [] then s.settings.trustAnchors else q.trustAnchors)
            q.maxDepth).run state with ⟨resolution, state'⟩
        have hreply : (s.replyAt r .resolve).run state =
            (.ofJson 200 resolution.toJson, state') := by
          simp only [replyAt, replyResolve, hparse, anchorsFor_eq, if_neg hnone]
          rw [Outcome.run_bind_of_run hresolved]
          rfl
        rw [run_answer asks.at hreply]
        refine ⟨⟨nofun, ?_⟩, nofun, fun _ => ⟨q, resolution, hanswers, hresolved, rfl⟩⟩
        rintro (hf | h)
        · exact absurd hf hreadable
        · exact absurd (hanchors ▸ h) hnone

/-- What is read from the encoded form of pairs, and how a request with that query is answered. -/
theorem chained_answer (pairs : List (String × String)) :
    (∀ result, Query.parse (some (String.ofList (Form.encode pairs))) = result ↔
      Answers pairs result) ∧
    ∀ {σ : Type} (s : Service (StateM σ)) (state : σ) (r : Request), AsksChain r pairs →
      Chained s pairs state ((s.answer r).run state).1 ((s.answer r).run state).2 :=
  ⟨fun _ => Query.parse_encode, fun _ _ _ asks => chained_of_asks asks⟩

namespace Sample

/-- A query whose first depth is too large by one digit. -/
def query : List (String × String) :=
  [("max_depth", "+7"), ("sub", "é & ="), ("max_depth", "18446744073709551616"), ("max_depth", "x")]

def queryRequest : Request :=
  ⟨"GET", Endpoint.path .resolve, some (String.ofList (Form.encode query)), none, []⟩

/-- A service whose federation counts its requests. -/
def counting : Service (StateM Nat) :=
  ⟨⟨fun _ => modifyGet fun n => (.error .notCached, n + 1), fun _ _ => pure false⟩, {}, pure 0⟩

end Sample

/-- The depth that is too large is reported, and nothing is requested. -/
theorem chained_answer_sample :
    Answers Sample.query (.error (Query.badDepth "18446744073709551616")) ∧
      Chained Sample.counting Sample.query 5 ((Sample.counting.answer Sample.queryRequest).run 5).1
        ((Sample.counting.answer Sample.queryRequest).run 5).2 :=
  ⟨((chained_answer Sample.query).1 _).mp (by decide +kernel),
    (chained_answer Sample.query).2 Sample.counting 5 Sample.queryRequest ⟨rfl, rfl, rfl⟩⟩

end Endpoint
end Service
end EntityTrust
