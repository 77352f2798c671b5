import EntityTrust.Proofs.Fetch.Soundness
import EntityTrust.Proofs.Fetch.Undisturbed
import EntityTrust.Proofs.Outcome

/-!
# Where fetched statements come from

**Results.**  `Provenance` lists what is promised in every state that a run reaches, and
`provenance` shows it.  Statements that are returned or stored come as a whole from one response to a
request for their URL, or from a caller.  What a response that reports no change gives, and what the
validators of a request are taken from, was stored under the URL before (`Held`).

**Runs.**  `Traced` is the invariant behind the second part; it needs the way to a state, and the
soundness of the states on it.
-/

namespace EntityTrust
namespace Fetch

section Validators

theorem validators_of_build {s : Settings} {url : String} {known : Option Fetched} {r : Request}
    (h : Request.build s url known = .ok r) :
    (r.ifNoneMatch, r.ifModifiedSince) = Request.validators s known := by
  unfold Request.build at h
  split at h
  · cases h
  · dsimp only at h
    split at h
    · split at h
      · split at h <;> split at h
        · cases h
          rfl
        · cases h
        · cases h
          rfl
        · cases h
      · cases h
    · cases h

theorem validators_cases (settings : Settings) (known : Option Fetched) :
    Request.validators settings known = (none, none) ∨
      ∃ f, known = some f ∧ Request.validators settings known = (f.etag, f.lastModified) := by
  unfold Request.validators
  split
  · cases known with
    | none => exact .inl rfl
    | some f => exact .inr ⟨f, rfl, rfl⟩
  · exact .inl rfl

end Validators

namespace Clients

variable {s t : Clients}

/-- A statement was stored under a URL in a state on the way to another one. -/
def Held (origin s : Clients) (url : String) (f : Fetched) : Prop :=
  ∃ a, Leads origin a ∧ Leads a s ∧ ∃ e ∈ a.store.entries, e.key = url ∧ e.value = f

/-- What fetches found, and what the validators of requests are taken from, was stored. -/
structure Traced (origin s : Clients) : Prop where
  known : ∀ party c f, s.course party = some c → f ∈ c.known → Held origin s c.url f
  sent : ∀ url r, .sent url r ∈ s.log → ∃ settings known,
    Request.build settings url known = .ok r ∧ ∀ f ∈ known, Held origin s url f

section Traced

variable {origin : Clients} {url : String} {f : Fetched}

theorem Held.step (h : Held origin s url f) (hstep : Step s t) : Held origin t url f := by
  obtain ⟨a, hrun, hlater, hentry⟩ := h
  exact ⟨a, hrun, .tail hlater hstep, hentry⟩

theorem Held.genuine (h : Held origin s url f) (sound : origin.Sound) : Genuine s.log url f := by
  obtain ⟨a, hrun, hlater, e, he, rfl, rfl⟩ := h
  exact ((sound_of_leads sound hrun).stored e he).mono hlater.log_subset

theorem Traced.known_step (h : Traced origin s) (sound : s.Sound) (hrun : Leads origin s)
    (hstep : Step s t) :
    ∀ party c f, t.course party = some c → f ∈ c.known → Held origin t c.url f := by
  intro party c f hcourse hf
  rcases hstep.fetch hcourse with hold | ⟨settings, url, strategy, rfl⟩ |
    ⟨d, a, next, x, makes, rfl, -⟩
  · exact (h.known party c f hold hf).step hstep
  · cases hf
  · have old : f ∈ d.known → Held origin t d.url f :=
      fun hf => (h.known _ d f makes.course hf).step hstep
    cases a with
    | find u now =>
        have hmeets := (sound.courses _ _ makes.course).meets
        rw [makes.rest] at hmeets
        obtain rfl : u = d.url := hmeets.1
        have hfound : (s.store.find d.url now).1 = some f := makes.answers.symm.trans hf
        exact ⟨s, hrun, .single hstep, Store.mem_of_find hfound⟩
    | _ => exact old hf

theorem Traced.sent_step (h : Traced origin s) (sound : s.Sound) (hstep : Step s t) :
    ∀ url r, .sent url r ∈ t.log → ∃ settings known,
      Request.build settings url known = .ok r ∧ ∀ f ∈ known, Held origin t url f := by
  intro url r hr
  rcases hstep.record hr with hold | ⟨_, _, ⟨⟩⟩ | ⟨party, c, a, next, x, makes, hrecord⟩
  · obtain ⟨settings, known, hbuild, hknown⟩ := h.sent url r hold
    exact ⟨settings, known, hbuild, fun f hf => (hknown f hf).step hstep⟩
  · obtain ⟨rfl, rfl⟩ := Access.sent_mem_records.mp hrecord
    have hmeets := (sound.courses _ c makes.course).meets
    rw [makes.rest] at hmeets
    obtain ⟨settings, hbuild⟩ := hmeets.1
    exact ⟨settings, c.known, hbuild, fun f hf => (h.known _ c f makes.course hf).step hstep⟩

theorem traced_ofStore (settings : Store.Settings) :
    Traced (ofStore (.empty settings)) (ofStore (.empty settings)) where
  known _ _ _ h := nomatch h
  sent _ _ h := nomatch h

theorem traced_of_leads {settings : Store.Settings} (hrun : Leads (ofStore (.empty settings)) s) :
    Traced (ofStore (.empty settings)) s := by
  induction hrun with
  | refl => exact traced_ofStore settings
  | tail hbefore hlast ih =>
      have sound := sound_of_leads (sound_ofStore settings) hbefore
      exact ⟨ih.known_step sound hbefore hlast, ih.sent_step sound hlast⟩

/-- A call returns the text of a genuine statement. -/
theorem Sound.returned (h : s.Sound) {body : String} (returns : s.Returns url body) :
    ∃ f, Genuine s.log url f ∧ f.body = body := by
  cases returns with
  | served served => exact ⟨_, h.served _ _ _ served, rfl⟩
  | received received =>
      have hanswered := h.coherent.received _ _ _ _ received
      exact ⟨_, h.result (by rw [hanswered]; rfl) (by rw [hanswered]; rfl), rfl⟩
  | fetched course done => exact ⟨_, (h.courses _ _ course).genuine (.done done), rfl⟩

/-- What a fetch gives when nothing has changed was stored. -/
theorem Traced.unchanged (h : Traced origin s) (sound : s.Sound) {party : Party} {c : Course}
    {response : Response} (course : s.course party = some c)
    (last : c.last = some (.ok response)) (status : response.status = 304) (gives : c.Gives f) :
    Held origin s c.url f := by
  have hcomes := (sound.courses party c course).comes gives
  rw [last] at hcomes
  rcases interpret_ok hcomes with ⟨-, hknown⟩ | ⟨hother, -⟩
  · exact h.known party c f course hknown
  · exact absurd status hother

/-- The validators of a request are those of one statement that was stored under its URL. -/
theorem Traced.validators (h : Traced origin s) (sound : origin.Sound) {r : Request}
    (sent : .sent url r ∈ s.log) :
    (∃ settings known, Request.build settings url known = .ok r) ∧
      (r.ifNoneMatch = none ∧ r.ifModifiedSince = none ∨
        ∃ f, Held origin s url f ∧ Genuine s.log url f ∧
          r.ifNoneMatch = f.etag ∧ r.ifModifiedSince = f.lastModified) := by
  obtain ⟨settings, known, hbuild, hknown⟩ := h.sent url r sent
  refine ⟨⟨settings, known, hbuild⟩, ?_⟩
  have hvalidators := validators_of_build hbuild
  rcases validators_cases settings known with hnone | ⟨f, rfl, hsome⟩
  · rw [hnone] at hvalidators
    exact .inl (Prod.mk.inj hvalidators)
  · rw [hsome] at hvalidators
    have hheld := hknown f rfl
    exact .inr ⟨f, hheld, hheld.genuine sound, Prod.mk.inj hvalidators⟩

end Traced

/-- What is promised of the statements that fetches have returned, stored and sent validators of. -/
structure Provenance (origin s : Clients) : Prop where
  /-- A stored statement is what one successful response to a request for its URL carries, or what a
  caller has put there. -/
  stored : ∀ e ∈ s.store.entries, Genuine s.log e.key e.value
  /-- So is the statement of which a call returns the text. -/
  returned : ∀ url body, s.Returns url body → ∃ f, Genuine s.log url f ∧ f.body = body
  /-- When nothing has changed, a fetch gives what was stored under its URL. -/
  unchanged : ∀ party c response f, s.course party = some c → c.last = some (.ok response) →
    response.status = 304 → c.Gives f → Held origin s c.url f
  /-- A request for a URL carries no validators, or those of what was stored under the URL. -/
  validators : ∀ url r, .sent url r ∈ s.log →
    (∃ settings known, Request.build settings url known = .ok r) ∧
      (r.ifNoneMatch = none ∧ r.ifModifiedSince = none ∨
        ∃ f, Held origin s url f ∧ Genuine s.log url f ∧
          r.ifNoneMatch = f.etag ∧ r.ifModifiedSince = f.lastModified)
  /-- Every answer is one to a request that was sent. -/
  answered : ∀ url r answer, .answered url r answer ∈ s.log → .sent url r ∈ s.log
  /-- A call that only consults the store requests nothing. -/
  silent : ∀ party c, s.course party = some c → c.strategy = .cacheOnly → c.asked = none

/-- Statements that are returned, stored or sent validators of come as a whole from one response to
a request for their URL, or from a caller; a call that only consults the store sends no request. -/
theorem provenance (settings : Store.Settings) (hrun : Leads (ofStore (.empty settings)) s) :
    Provenance (ofStore (.empty settings)) s ∧
      ∀ client url pages, ((scripted client).get url .cacheOnly pages).Silent := by
  have origin := sound_ofStore settings
  have sound := sound_of_leads origin hrun
  have traced := traced_of_leads hrun
  refine ⟨⟨sound.stored, ?_, ?_, ?_, sound.answered, ?_⟩, silent_get⟩
  · intro url body returns
    exact sound.returned returns
  · intro party c response f course last status gives
    exact traced.unchanged sound course last status gives
  · intro url r sent
    exact traced.validators origin sent
  · intro party c course strategy
    exact ((sound.courses party c course).silent strategy).2

/-- A statement is fetched and stored, requested again with its validator, and has not changed. -/
theorem provenance_sample :
    let url := "http://[::1]/"
    let fresh : Response := ⟨200, [("etag", [34, 118, 34])], some [97, 10]⟩
    let unchanged : Response := ⟨304, [], none⟩
    ∃ s r r', Leads (ofStore (.empty {})) s ∧ Provenance (ofStore (.empty {})) s ∧
      s.log = [.sent url r, .answered url r (.ok fresh), .sent url r',
        .answered url r' (.ok unchanged)] ∧
      r'.ifNoneMatch = some "\"v\"" ∧ s.Returns url "a" := by
  intro url fresh unchanged
  have hfresh : Client.interpret url none fresh = .ok ⟨"a", some "\"v\"", none⟩ :=
    Outcome.toOption_eq_some.mp (by decide +kernel)
  have hsent : (Request.build {} url none).toOption.isSome := by decide +kernel
  obtain ⟨r, hr⟩ := Option.isSome_iff_exists.mp hsent
  have hagain : (Request.build {} url (some ⟨"a", some "\"v\"", none⟩)).toOption.map
      Request.ifNoneMatch = some (some "\"v\"") := by decide +kernel
  obtain ⟨r', hr', hv⟩ := Option.map_eq_some_iff.mp hagain
  rw [Outcome.toOption_eq_some] at hr hr'
  have arrives : (ofStore (.empty {})).traffic.flights.arrive 0 url 1 =
      (.started 0, ⟨.empty {}, [(url, 0)], 1, [(0, 0)], []⟩) := rfl
  have first : Answers (ofStore (.empty {})) 1 url (.ok "a") _ _ :=
    answers_of_shared (Traffic.coherent_ofStore _) rfl rfl rfl
      (plays_cacheFirst arrives hr hfresh 2)
  obtain ⟨t, hrun, hflights, hlog, hothers, -⟩ := first
  have hfound : (t.traffic.flights.store.find url 3).1 = some ⟨"a", some "\"v\"", none⟩ := by
    rw [hflights]
    decide +kernel
  have hbuild : Request.build {} url (t.traffic.flights.store.find url 3).1 = .ok r' := by
    rw [hfound, hr']
  have hsame : Client.interpret url (t.traffic.flights.store.find url 3).1 unchanged =
      .ok ⟨"a", some "\"v\"", none⟩ := by
    rw [hfound]
    rfl
  have direct : Strategy.forceRemote ≠ .cacheFirst := by decide
  have unused : t.course (.alone 0) = none := hothers 0 (by decide)
  have second : t.Answers 0 url (.ok "a") _ _ :=
    answers_of_direct direct unused (plays_forceRemote rfl hbuild hsame 4)
  obtain ⟨s, hlater, -, hlog', -, hreturns⟩ := second
  have hleads := hrun.trans hlater
  refine ⟨s, r, r', hleads, (provenance {} hleads).1, ?_, hv, hreturns "a" rfl⟩
  rw [hlog', hlog]
  rfl

end Clients
end Fetch
end EntityTrust
