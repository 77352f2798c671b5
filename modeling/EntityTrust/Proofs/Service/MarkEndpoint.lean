import EntityTrust.Proofs.Discovery.Attempt
import EntityTrust.Proofs.Discovery.Soundness
import EntityTrust.Proofs.Service.Dispatch

/-!
# The endpoint for trust marks

How a request to validate a trust mark is answered, in a world that may answer anything.

**Faults.**  Of all failures of statements only that of an identifier is blamed on the request.
Neither the decoding of a text nor its reading as a configuration fails in this way, so whatever a
world serves, the fault is upstream.

**Anchors.**  `Establishes` says of a text that it is the configuration of an anchor at an
instant, and `Sought` what the search for such a text comes to, with the requests that it makes.

**Results.**
* `status_of_readAnchor`: a text that is no configuration is a fault of its server.
* `sought_anchorConfiguration`: what the search for the configuration of an anchor comes to.
* `judged_answer`: how each request is answered.
-/

namespace EntityTrust

open Outcome

namespace Token

theorem toStatement_ne_invalidIdentifier (e : TokenError) (t : String) :
    e.toStatement ≠ .invalidIdentifier t := by
  cases e <;> simp [TokenError.toStatement]

theorem claimsOf_ne_invalidIdentifier (payload t : String) :
    claimsOf payload ≠ .error (.invalidIdentifier t) := by
  unfold claimsOf
  split
  · simp
  · split <;> simp

theorem headerOf_ne_invalidIdentifier (raw t : String) :
    headerOf raw ≠ .error (.invalidIdentifier t) := by
  unfold headerOf
  split
  · simp
  · simp [toStatement_ne_invalidIdentifier]

/-- A text that is no token is not blamed on an identifier. -/
theorem decode_ne_invalidIdentifier (text t : String) :
    decode text ≠ .error (.invalidIdentifier t) := by
  intro h
  dsimp only [decode] at h
  split at h
  · obtain hheader | ⟨header, -, h⟩ := bind_eq_error.mp h
    · exact headerOf_ne_invalidIdentifier _ t hheader
    · obtain hclaims | ⟨claims, -, h⟩ := bind_eq_error.mp h
      · exact claimsOf_ne_invalidIdentifier _ t hclaims
      · cases h
  · cases h

end Token

/-- Neither are claims that are no configuration. -/
theorem EntityConfiguration.ofToken_ne_invalidIdentifier (t : Token) (text : String) :
    EntityConfiguration.ofToken t ≠ .error (.invalidIdentifier text) := by
  intro h
  obtain hread | ⟨c, -, hself⟩ := bind_eq_error.mp h
  · unfold Token.read at hread
    split at hread <;> cases hread
  · split at hself <;> cases hself

/-- An identifier without a configuration URL is blamed on itself. -/
theorem Location.configuration_eq_error {id : String} {e : StatementError}
    (h : Location.configuration id = .error e) : ∃ t, e = .invalidIdentifier t := by
  dsimp only [Location.configuration, Location.parseFor] at h
  split at h
  · cases h
  · cases h
    exact ⟨_, rfl⟩

namespace Service

/-- Every failure but that of an identifier is blamed on the servers. -/
theorem Fault.status_ofStatement {e : StatementError} (h : ∀ t, e ≠ .invalidIdentifier t) :
    (Fault.ofStatement e).status = 502 := by
  cases e with
  | invalidIdentifier t => exact absurd rfl (h t)
  | _ => rfl

theorem readAnchor_eq_ok {raw : String} {t : Token} {c : EntityConfiguration} :
    readAnchor raw = .ok (t, c) ↔
      Token.decode raw = .ok t ∧ EntityConfiguration.ofToken t = .ok c := by
  unfold readAnchor
  cases hdecoded : Token.decode raw with
  | error e => simp
  | ok t' =>
      cases hread : EntityConfiguration.ofToken t' with
      | error e =>
          simp only [hread, reduceCtorEq, Except.ok.injEq, false_iff, not_and]
          rintro rfl
          simp [hread]
      | ok c' =>
          simp only [hread, Except.ok.injEq, Prod.mk.injEq]
          constructor
          · rintro ⟨rfl, rfl⟩
            exact ⟨rfl, hread⟩
          · rintro ⟨rfl, hc⟩
            exact ⟨rfl, Except.ok.inj (hread.symm.trans hc)⟩

/-- A text that is no configuration is a fault of its server. -/
theorem status_of_readAnchor {raw : String} {f : Fault} (h : readAnchor raw = .error f) :
    f.status = 502 := by
  unfold readAnchor at h
  split at h
  · rename_i e hdecoded
    cases h
    exact Fault.status_ofStatement fun t ht =>
      Token.decode_ne_invalidIdentifier raw t (ht ▸ hdecoded)
  · split at h
    · rename_i t _ _ e hread
      cases h
      exact Fault.status_ofStatement fun text ht =>
        EntityConfiguration.ofToken_ne_invalidIdentifier t text (ht ▸ hread)
    · cases h

open Discovery

variable {w : World} {id : String} {now : Int} {past past' : Past}

/-- A text is the configuration of an anchor, valid at an instant. -/
structure Establishes (w : World) (id : String) (now : Int) (text : String) (v : Verified) :
    Prop where
  verified : w.SelfVerified text v
  named : v.configuration.subject = id
  current : v.configuration.issuedAt ≤ now ∧ now < v.configuration.expiresAt

/-- What the search for the configuration of an anchor comes to. -/
inductive Sought (w : World) (id : String) (now : Int) (past : Past) :
    Except Fault EntityConfiguration × Past → Prop
  | unusable {e : StatementError} (located : Location.configuration id = .error e) :
      Sought w id now past (.error (.ofStatement e), past)
  | unproved {url : String} {answer : Except FetchError String} {f : Fault}
      (located : Location.configuration id = .ok url) (served : w.answer past url = answer)
      (failed : ∀ text v, answer = .ok text → ¬ Establishes w id now text v)
      (upstream : f.status = 502) :
      Sought w id now past (.error f, past ++ [⟨url, answer⟩])
  | proved {url text : String} {v : Verified} (located : Location.configuration id = .ok url)
      (served : w.answer past url = .ok text) (established : Establishes w id now text v) :
      Sought w id now past (.ok v.configuration, past ++ [⟨url, .ok text⟩])

/-- The service of a world, whose clock shows an instant. -/
def service (w : World) (settings : Settings) (clock : Int) : Service (StateM Past) :=
  ⟨w.federation, settings, pure clock⟩

variable {settings : Settings} {clock : Int}

/-- The checks of a text in the order in which they are made. -/
theorem establishes_iff {text : String} {v : Verified} :
    Establishes w id now text v ↔ readAnchor text = .ok (v.token, v.configuration) ∧
      v.configuration.subject = id ∧ w.verifies v.token v.configuration.keys = true ∧
        v.configuration.toStatementCore.validAt now = true := by
  rw [readAnchor_eq_ok, StatementCore.validAt, Bool.and_eq_true, decide_eq_true_iff,
    decide_eq_true_iff]
  constructor
  · rintro ⟨⟨hdecoded, hread, hsigned⟩, hnamed, hcurrent⟩
    exact ⟨⟨hdecoded, hread⟩, hnamed, hsigned, hcurrent⟩
  · rintro ⟨⟨hdecoded, hread⟩, hnamed, hsigned, hcurrent⟩
    exact ⟨⟨hdecoded, hread, hsigned⟩, hnamed, hcurrent⟩

theorem sought_anchorConfiguration :
    Sought w id now past (((service w settings clock).anchorConfiguration id now).run past) := by
  unfold anchorConfiguration
  cases hlocated : Location.configuration id with
  | error e => exact .unusable hlocated
  | ok url =>
      dsimp only [service]
      rw [run_bind_of_run (fetch_federation rfl)]
      cases hserved : w.answer past url with
      | error e =>
          exact .unproved hlocated hserved (fun _ _ h => nomatch h) rfl
      | ok text =>
          dsimp only
          cases hread : readAnchor text with
          | error f =>
              refine .unproved hlocated hserved (fun _ v h hv => ?_) (status_of_readAnchor hread)
              cases h
              cases hread.symm.trans (establishes_iff.mp hv).1
          | ok read =>
              obtain ⟨t, c⟩ := read
              -- No other configuration than `c` has been read, so it fails all checks or none.
              have hunproved {f : Fault} (hf : f.status = 502)
                  (hfailed : ¬ Establishes w id now text ⟨t, c⟩) :
                  Sought w id now past (.error f, past ++ [⟨url, .ok text⟩]) := by
                refine .unproved hlocated hserved (fun _ v h hv => hfailed ?_) hf
                cases h
                cases hread.symm.trans (establishes_iff.mp hv).1
                exact hv
              dsimp only
              by_cases hnamed : c.subject = id
              · rw [if_pos hnamed, run_bind_of_run (verifies_federation t c.keys _)]
                cases hsigned : w.verifies t c.keys with
                | false =>
                    refine hunproved rfl fun hv => ?_
                    cases hsigned.symm.trans (establishes_iff.mp hv).2.2.1
                | true =>
                    cases hvalid : c.toStatementCore.validAt now with
                    | false =>
                        refine hunproved rfl fun hv => ?_
                        cases hvalid.symm.trans (establishes_iff.mp hv).2.2.2
                    | true =>
                        have hv : Establishes w id now text ⟨t, c⟩ :=
                          establishes_iff.mpr ⟨hread, hnamed, hsigned, hvalid⟩
                        exact .proved hlocated hserved hv
              · rw [if_neg hnamed]
                exact hunproved rfl fun hv => hnamed hv.named

/-- A request asks for the validation of a mark. -/
structure AsksMark (r : Request) (p : MarkPayload) : Prop where
  method : r.method = "POST"
  path : r.path = Endpoint.path .validate
  read : Payload.read MarkPayload.reader r.contentType r.body = .ok p

/-- How a request to validate a mark for an anchor is answered, and which requests that makes. -/
structure Judged (w : World) (p : MarkPayload) (now : Int) (past : Past) (reply : Reply)
    (past' : Past) : Prop where
  /-- The request is blamed exactly when its anchor has no configuration URL. -/
  badRequest : reply.status = 400 ↔ ∃ e, Location.configuration p.trustAnchor = .error e
  unasked : reply.status = 400 → past' = past
  /-- The federation is blamed exactly when it does not serve the configuration of the anchor. -/
  badGateway : reply.status = 502 ↔ ∃ url, Location.configuration p.trustAnchor = .ok url ∧
    ¬ ∃ text v, w.answer past url = .ok text ∧ Establishes w p.trustAnchor now text v
  askedOnce : reply.status = 502 → ∃ url, Location.configuration p.trustAnchor = .ok url ∧
    past' = past ++ [⟨url, w.answer past url⟩]
  /-- Every other reply is the verdict on the mark. -/
  otherwise : reply.status ≠ 400 → reply.status ≠ 502 → ∃ url text v verdict,
    Location.configuration p.trustAnchor = .ok url ∧ w.answer past url = .ok text ∧
      Establishes w p.trustAnchor now text v ∧
        (TrustMark.validate w.federation v.configuration now p.trustMark).run
          (past ++ [⟨url, .ok text⟩]) = (verdict, past') ∧
            reply = { Reply.ofJson 200 verdict.toJson with allowOrigin := some "*" }

variable {r : Request} {p : MarkPayload}

theorem AsksMark.at (asks : AsksMark r p) : r.At .validate where
  path := asks.path
  method := by
    rw [asks.method]
    decide
  body := by
    rw [asks.method]
    decide

theorem AsksMark.replyAt_eq (asks : AsksMark r p) :
    (service w settings clock).replyAt r .validate =
      (service w settings clock).replyValidate p := by
  simp only [replyAt, asks.read]

/-- The instant of a request, or else that of the clock. -/
theorem instant_eq (given : Option Int) :
    (service w settings clock).instant given = pure (given.getD clock) := by
  cases given <;> rfl

/-- A fault of the anchor is the reply. -/
theorem AsksMark.run_replyAt_of_error (asks : AsksMark r p) {f : Fault}
    (h : ((service w settings clock).anchorConfiguration p.trustAnchor
      (p.currentTime.getD clock)).run past = (.error f, past')) :
    ((service w settings clock).replyAt r .validate).run past = (f.reply, past') := by
  rw [asks.replyAt_eq, replyValidate, instant_eq, pure_bind, run_bind_of_run h]
  rfl

/-- The mark is judged by the configuration of the anchor. -/
theorem AsksMark.run_replyAt_of_ok (asks : AsksMark r p) {anchor : EntityConfiguration}
    {verdict : Verdict} {past'' : Past}
    (h : ((service w settings clock).anchorConfiguration p.trustAnchor
      (p.currentTime.getD clock)).run past = (.ok anchor, past'))
    (hjudged : (TrustMark.validate w.federation anchor (p.currentTime.getD clock)
      p.trustMark).run past' = (verdict, past'')) :
    ((service w settings clock).replyAt r .validate).run past =
      (.ofJson 200 verdict.toJson, past'') := by
  rw [asks.replyAt_eq, replyValidate, instant_eq, pure_bind, run_bind_of_run h]
  dsimp only
  rw [service, run_bind_of_run hjudged]
  rfl

/-- A request to validate a mark is blamed for its anchor, or the federation is for what it serves,
or the verdict is replied. -/
theorem judged_answer (asks : AsksMark r p) :
    Judged w p (p.currentTime.getD clock) past
      (((service w settings clock).answer r).run past).1
      (((service w settings clock).answer r).run past).2 := by
  have hsought : Sought w p.trustAnchor (p.currentTime.getD clock) past
      (((service w settings clock).anchorConfiguration p.trustAnchor
        (p.currentTime.getD clock)).run past) := sought_anchorConfiguration
  generalize hanchor : ((service w settings clock).anchorConfiguration p.trustAnchor
    (p.currentTime.getD clock)).run past = sought at hsought
  cases hsought with
  | @unusable e located =>
      obtain ⟨t, rfl⟩ := Location.configuration_eq_error located
      rw [run_answer asks.at (asks.run_replyAt_of_error hanchor)]
      refine ⟨⟨fun _ => ⟨_, located⟩, fun _ => rfl⟩, fun _ => rfl, ⟨nofun, ?_⟩, nofun,
        fun h => absurd rfl h⟩
      rintro ⟨url, hurl, -⟩
      cases located.symm.trans hurl
  | @unproved url answer f located served failed upstream =>
      rw [run_answer asks.at (asks.run_replyAt_of_error hanchor)]
      have hnone : ¬ ∃ text v, w.answer past url = .ok text ∧
          Establishes w p.trustAnchor (p.currentTime.getD clock) text v := by
        rintro ⟨text, v, htext, hv⟩
        exact failed text v (served.symm.trans htext) hv
      have hstatus : f.reply.status = 502 := upstream
      refine ⟨⟨fun h => ?_, ?_⟩, fun h => ?_, ⟨fun _ => ⟨url, located, hnone⟩, fun _ => hstatus⟩,
        fun _ => ⟨url, located, by rw [served]⟩, fun _ h => absurd hstatus h⟩
      · cases hstatus.symm.trans h
      · rintro ⟨e, he⟩
        cases located.symm.trans he
      · cases hstatus.symm.trans h
  | @proved url text v located served established =>
      rcases hjudged : (TrustMark.validate w.federation v.configuration (p.currentTime.getD clock)
        p.trustMark).run (past ++ [⟨url, .ok text⟩]) with ⟨verdict, past'⟩
      rw [run_answer asks.at (asks.run_replyAt_of_ok hanchor hjudged)]
      refine ⟨⟨nofun, ?_⟩, nofun, ⟨nofun, ?_⟩, nofun, fun _ _ =>
        ⟨url, text, v, verdict, located, served, established, hjudged, rfl⟩⟩
      · rintro ⟨e, he⟩
        cases located.symm.trans he
      · rintro ⟨url', hurl, hnone⟩
        cases located.symm.trans hurl
        exact absurd ⟨text, v, served, established⟩ hnone

namespace Sample

/-- A request to validate the mark `m` for the anchor `t:` at the instant 5. -/
def markRequest : Request :=
  ⟨"POST", Endpoint.path .validate, none, some "application/json", Utf8.encode
    "\x7b\"trust_mark\":\"m\",\"trust_anchor\":\"t:\",\"current_time\":5\x7d"⟩

theorem asksMark : AsksMark markRequest ⟨"m", "t:", some 5⟩ :=
  ⟨rfl, rfl, by decide +kernel⟩

/-- The page of `t:` in the world of the sample search. -/
theorem established : Establishes Discovery.Sample.world "t:" 5
    (Discovery.Sample.token Discovery.Sample.anchorPayload) Discovery.Sample.anchor :=
  ⟨Discovery.Sample.anchor_verified, rfl, by decide⟩

/-- The reply to the request in that world. -/
def markReply : Reply × Past :=
  ((service Discovery.Sample.world {} 0).answer markRequest).run []

end Sample

/-- The anchor serves its configuration, so its verdict on the mark is replied. -/
theorem judged_answer_sample :
    Judged Discovery.Sample.world ⟨"m", "t:", some 5⟩ 5 [] Sample.markReply.1
        Sample.markReply.2 ∧ Sample.markReply.1.status = 200 := by
  have hjudged : Judged Discovery.Sample.world ⟨"m", "t:", some 5⟩ 5 [] Sample.markReply.1
      Sample.markReply.2 := judged_answer Sample.asksMark
  refine ⟨hjudged, ?_⟩
  have hlocated : Sample.markReply.1.status ≠ 400 := by
    rw [Ne, hjudged.badRequest]
    rintro ⟨e, he⟩
    cases he
  have hserved : Sample.markReply.1.status ≠ 502 := by
    rw [Ne, hjudged.badGateway]
    rintro ⟨url, hurl, hnone⟩
    cases hurl
    exact hnone ⟨_, _, rfl, Sample.established⟩
  obtain ⟨_, _, _, _, -, -, -, -, hreply⟩ := hjudged.otherwise hlocated hserved
  rw [hreply]
  rfl

end Service
end EntityTrust
