import EntityTrust.Proofs.Fetch.Clients

/-!
# What fetches give

Every statement that is stored or given by a fetch is genuine.

**Genuine statements.**  A statement is `Genuine` under a URL when it is what one successful
response to a request for the URL carries, or what a caller has put there.  What is recorded stays
recorded, so a statement stays genuine.

**Fetches.**  `Course.Sound` says of a fetch on its way that what it found and was answered is on
record, and that the rest of its script is right after that (`Script.Meets`).  So what it gives is
genuine (`Course.Sound.genuine`): a successful response carries it, or it was found.

**Runs.**  `Clients.Sound` is the invariant: entries are genuine, fetches are sound, and a
computation comes to what its fetch comes to.  Each part is kept by a step (`sound_step`), so that it
holds after every run (`sound_of_leads`).
-/

namespace EntityTrust
namespace Fetch

/-- A statement is what one successful response to a request for a URL carries, or a caller has put
it under the URL. -/
inductive Genuine (log : List Record) (url : String) (f : Fetched) : Prop
  | fetched {request : Request} {response : Response} {octets : List UInt8}
      (answered : .answered url request (.ok response) ∈ log)
      (success : 200 ≤ response.status ∧ response.status < 300)
      (body : response.body = some octets)
      (whole : f = ⟨Text.trimBlank (Utf8.decodeLossy octets), response.header? "etag",
        response.header? "last-modified"⟩)
  | put (mem : .put url f ∈ log)

theorem genuine_of_statement {log : List Record} {url : String} {f : Fetched} {request : Request}
    {response : Response} (answered : .answered url request (.ok response) ∈ log)
    (success : response.isSuccess = true) (statement : response.statement = .ok f) :
    Genuine log url f := by
  have hstatus : 200 ≤ response.status ∧ response.status < 300 := by
    simpa [Response.isSuccess] using success
  unfold Response.statement at statement
  split at statement
  · cases statement
  · next octets hbody => exact .fetched answered hstatus hbody (Except.ok.inj statement).symm

theorem interpret_ok {url : String} {known : Option Fetched} {response : Response} {f : Fetched}
    (h : Client.interpret url known response = .ok f) :
    response.status = 304 ∧ known = some f ∨
      response.status ≠ 304 ∧ response.isSuccess = true ∧ response.statement = .ok f := by
  unfold Client.interpret at h
  split at h
  · next hstatus =>
      cases known with
      | some stored => exact .inl ⟨hstatus, by simpa using h⟩
      | none => cases h
  · next hstatus =>
      split at h
      · next hsuccess =>
          cases hstatement : response.statement with
          | ok f' =>
              rw [hstatement] at h
              cases h
              exact .inr ⟨hstatus, hsuccess, rfl⟩
          | error e =>
              rw [hstatement] at h
              cases h
      · cases h

section Records

variable {log more : List Record} {url : String} {f : Fetched}

theorem Genuine.mono (h : Genuine log url f) (hsub : log ⊆ more) : Genuine more url f := by
  cases h with
  | fetched answered success body whole => exact .fetched (hsub answered) success body whole
  | put mem => exact .put (hsub mem)

end Records

namespace Course

/-- A fetch has come to a statement, or writes it next. -/
inductive Gives (c : Course) (f : Fetched) : Prop
  | done (rest : c.rest = .done (.ok f))
  | writes {url : String} {now : Nat} {next : Unit → Script (Except FetchError Fetched)}
      (rest : c.rest = .access (.insert url f now) next)

/-- What holds of a fetch on its way. -/
structure Sound (log : List Record) (c : Course) : Prop where
  /-- All that it may still do is right. -/
  meets : c.rest.Meets c.url (Justified c.url) c.known c.last
  known : ∀ f ∈ c.known, Genuine log c.url f
  asked : ∀ r ∈ c.asked, .sent c.url r ∈ log
  last : ∀ response, c.last = some (.ok response) →
    ∃ r, .answered c.url r (.ok response) ∈ log
  silent : c.strategy = .cacheOnly → c.rest.Silent ∧ c.asked = none

variable {log more : List Record} {c : Course} {f : Fetched}

theorem sound_start (log : List Record) (s : Settings) (url : String) (strategy : Strategy) :
    (start s url strategy).Sound log where
  meets := meets_plan s url strategy
  known _ h := absurd h (Option.not_mem_none _)
  asked _ h := absurd h (Option.not_mem_none _)
  last _ h := absurd h.symm (Option.some_ne_none _)
  silent h := by
    obtain rfl : strategy = .cacheOnly := h
    exact ⟨silent_cacheOnly s url, rfl⟩

theorem Sound.mono (h : c.Sound log) (hsub : log ⊆ more) : c.Sound more where
  meets := h.meets
  known f hf := (h.known f hf).mono hsub
  asked r hr := hsub (h.asked r hr)
  last response hlast := by
    obtain ⟨r, hr⟩ := h.last response hlast
    exact ⟨r, hsub hr⟩
  silent := h.silent

theorem Sound.comes (h : c.Sound log) (gives : c.Gives f) : Comes c.url c.known c.last f := by
  have hmeets := h.meets
  cases gives with
  | done hrest =>
      rw [hrest] at hmeets
      exact hmeets f rfl
  | writes hrest =>
      rw [hrest] at hmeets
      exact hmeets.1.2

/-- What a fetch gives is genuine. -/
theorem Sound.genuine (h : c.Sound log) (gives : c.Gives f) : Genuine log c.url f := by
  have hf := h.comes gives
  rcases hlast : c.last with _ | (_ | response) <;> rw [hlast] at hf
  · exact h.known f hf
  · exact hf.elim
  · rcases interpret_ok hf with ⟨-, hknown⟩ | ⟨-, hsuccess, hstatement⟩
    · exact h.known f hknown
    · obtain ⟨r, hr⟩ := h.last response hlast
      exact genuine_of_statement hr hsuccess hstatement

theorem Sound.after (h : c.Sound log) {store : Store String Fetched}
    (stored : ∀ e ∈ store.entries, Genuine log e.key e.value) {a : Access}
    {next : a.Result → Script (Except FetchError Fetched)} (rest : c.rest = .access a next)
    {x : a.Result} (answers : a.Answers store c.asked x) :
    (c.after a next x).Sound (log ++ a.records c.url c.asked x) := by
  have hmeets := h.meets
  rw [rest] at hmeets
  have hmore := h.mono (List.subset_append_left log (a.records c.url c.asked x))
  refine ⟨hmeets.2 x, ?_, ?_, ?_, ?_⟩
  · cases a with
    | find u now =>
        rintro f hf
        obtain rfl : x = (store.find u now).1 := answers
        obtain ⟨e, he, hkey, rfl⟩ := Store.mem_of_find hf
        have hurl : e.key = c.url := hkey.trans hmeets.1
        rw [Course.url_after, ← hurl]
        exact (stored e he).mono (List.subset_append_left _ _)
    | _ => exact hmore.known
  · cases a with
    | send r =>
        rintro r' ⟨⟩
        exact List.mem_append_right _ List.mem_cons_self
    | _ => exact hmore.asked
  · cases a with
    | receive =>
        rintro response ⟨⟩
        obtain ⟨r, hr⟩ := Option.isSome_iff_exists.mp answers
        exact ⟨r, List.mem_append_right _ (by simp [Access.records, hr])⟩
    | _ => exact hmore.last
  · intro hstrategy
    obtain ⟨hsilent, hasked⟩ := h.silent hstrategy
    rw [rest] at hsilent
    refine ⟨hsilent.2 x, ?_⟩
    cases a with
    | send r => exact absurd rfl (hsilent.1 r)
    | _ => exact hasked

end Course

namespace Clients

variable {s t : Clients}

/-- Callers and computations that go on beside the fetches leave keys and results. -/
theorem stage_of_aside {s t : Traffic String Fetched FetchError}
    {e : Event String Fetched FetchError} (event : Aside e) (step : Traffic.Step s e t) (n : Nat) :
    (t.stage n).key? = (s.stage n).key? ∧ (t.stage n).result? = (s.stage n).result? := by
  cases step with
  | @released m key result free settled =>
      by_cases hn : n = m
      · subst hn
        simp [settled, Stage.key?, Stage.result?]
      · simp [hn]
  | @answered m key result released =>
      by_cases hn : n = m
      · subst hn
        simp [released, Stage.key?, Stage.result?]
      · simp [hn]
  | joined | started | resumed | settled | operated => exact event.elim
  | _ => exact ⟨rfl, rfl⟩

section Stages

variable {s t : Traffic String Fetched FetchError} {caller number : Nat} {url : String}

theorem stage_of_joined (looked : s.caller caller = .looked url)
    (admitted : (s.flights.enter caller url).1 = .joined number)
    (step : Traffic.Step s (.enter caller) t) : t.stage = s.stage := by
  cases step with
  | joined => rfl
  | started looked' admitted' =>
      cases looked.symm.trans looked'
      cases admitted.symm.trans admitted'

theorem stage_of_started (looked : s.caller caller = .looked url)
    (admitted : (s.flights.enter caller url).1 = .started number)
    (step : Traffic.Step s (.enter caller) t) :
    t.stage = Function.update s.stage number (.computing url) := by
  cases step with
  | joined looked' admitted' =>
      cases looked.symm.trans looked'
      cases admitted.symm.trans admitted'
  | started looked' admitted' =>
      cases looked.symm.trans looked'
      cases admitted.symm.trans admitted'
      rfl

theorem stage_of_settled {result : Except FetchError Fetched} {now : Nat}
    (waiting : s.caller caller = .waiting url number)
    (step : Traffic.Step s (.settle caller result now) t) :
    t.stage = Function.update s.stage number (.settled url result) := by
  cases step with
  | settled result now waiting' computing =>
      cases waiting.symm.trans waiting'
      rfl

end Stages

/-- What holds in every state. -/
structure Sound (s : Clients) : Prop where
  coherent : s.traffic.Coherent
  stored : ∀ e ∈ s.store.entries, Genuine s.log e.key e.value
  served : ∀ caller url f, s.traffic.caller caller = .served url f → Genuine s.log url f
  courses : ∀ party c, s.course party = some c → c.Sound s.log
  /-- A computation has a fetch, and comes to what that comes to. -/
  shared : ∀ n url, (s.traffic.stage n).key? = some url → ∃ c, s.course (.shared n) = some c ∧
    c.url = url ∧ ∀ result, (s.traffic.stage n).result? = some result → c.rest = .done result
  answered : ∀ url r answer, .answered url r answer ∈ s.log → .sent url r ∈ s.log

/-- A computation that is done comes to a genuine statement. -/
theorem Sound.result (h : s.Sound) {n : Nat} {url : String} {f : Fetched}
    (key : (s.traffic.stage n).key? = some url)
    (result : (s.traffic.stage n).result? = some (.ok f)) : Genuine s.log url f := by
  obtain ⟨c, hcourse, rfl, hdone⟩ := h.shared n url key
  exact (h.courses _ c hcourse).genuine (.done (hdone _ result))

theorem sound_ofStore (settings : Store.Settings) : (ofStore (.empty settings)).Sound where
  coherent := Traffic.coherent_ofStore _
  stored _ he := nomatch he
  served _ _ _ h := nomatch h
  courses _ _ h := nomatch h
  shared _ _ h := nomatch h
  answered _ _ _ h := nomatch h

/-- The fetch that a caller waits for is one of its URL. -/
theorem Sound.url_of_waiting (h : s.Sound) {caller n : Nat} {url : String} {c : Course}
    (waiting : s.traffic.caller caller = .waiting url n) (course : s.course (.shared n) = some c) :
    c.url = url := by
  obtain ⟨c', hcourse, hurl, -⟩ := h.shared n url (h.coherent.joined caller url n waiting)
  rw [course] at hcourse
  cases hcourse
  exact hurl

section Step

theorem Sound.stored_step (h : s.Sound) (hstep : Step s t) :
    ∀ e ∈ t.store.entries, Genuine t.log e.key e.value := by
  intro e he
  have hmore := hstep.log_subset
  have old : (∃ d ∈ s.store.entries, d.key = e.key ∧ d.value = e.value) →
      Genuine t.log e.key e.value := by
    rintro ⟨d, hd, hkey, hvalue⟩
    rw [← hkey, ← hvalue]
    exact (h.stored d hd).mono hmore
  cases hstep with
  | aside event step =>
      rcases step.entry he with hold | ⟨now, htouches⟩
      · exact old hold
      · cases htouches with
        | _ => exact event.elim
  | joined looked admitted step | started settings looked admitted step =>
      rcases step.entry he with hold | ⟨now, ⟨⟩⟩
      exact old hold
  | settled waiting course done step =>
      rcases step.entry he with hold | ⟨now, htouches⟩
      · exact old hold
      · cases htouches with
        | stored waiting' value now =>
            cases waiting.symm.trans waiting'
            rw [← h.url_of_waiting waiting course]
            exact (h.courses _ _ course).genuine (.done done)
  | called => exact old ⟨e, he, rfl, rfl⟩
  | @moved party c a next x resumed makes =>
      rcases a.entry_of_apply he with hold | ⟨now, rfl⟩
      · exact old hold
      · have hcourse := h.courses _ _ makes.course
        have hmeets := hcourse.meets
        rw [makes.rest] at hmeets
        rw [show e.key = c.url from hmeets.1.1]
        exact (hcourse.genuine (.writes makes.rest)).mono hmore
  | operated op =>
      rcases op.entry_of_apply he with hold | ⟨now, rfl⟩
      · exact old hold
      · exact .put (List.mem_append_right _ List.mem_cons_self)

theorem Sound.served_step (h : s.Sound) (hstep : Step s t) :
    ∀ caller url f, t.traffic.caller caller = .served url f → Genuine t.log url f := by
  intro caller url f hserved
  have hmore := hstep.log_subset
  have one : ∀ {e u}, Traffic.Step s.traffic e u → u.caller caller = .served url f →
      Genuine s.log url f := by
    intro e u step hserved
    rcases step.served hserved with hold | ⟨now, hfind⟩
    · exact h.served caller url f hold
    · obtain ⟨d, hd, rfl, rfl⟩ := Store.mem_of_find hfind
      exact h.stored d hd
  cases hstep with
  | aside event step => exact one step hserved
  | joined looked admitted step => exact one step hserved
  | started settings looked admitted step => exact one step hserved
  | settled waiting course done step => exact one step hserved
  | called | moved | operated => exact (h.served caller url f hserved).mono hmore

theorem Sound.courses_step (h : s.Sound) (hstep : Step s t) :
    ∀ party c, t.course party = some c → c.Sound t.log := by
  intro party c hcourse
  rcases hstep.fetch hcourse with hold | ⟨settings, url, strategy, rfl⟩ |
    ⟨d, a, next, x, makes, rfl, hlog⟩
  · exact (h.courses party c hold).mono hstep.log_subset
  · exact Course.sound_start _ settings url strategy
  · rw [hlog]
    exact (h.courses _ d makes.course).after h.stored makes.rest makes.answers

theorem Sound.shared_step (h : s.Sound) (hstep : Step s t) :
    ∀ n url, (t.traffic.stage n).key? = some url →
      ∃ c, t.course (.shared n) = some c ∧ c.url = url ∧
        ∀ result, (t.traffic.stage n).result? = some result → c.rest = .done result := by
  intro n url hkey
  cases hstep with
  | aside event step =>
      obtain ⟨hkey', hresult⟩ := stage_of_aside event step n
      rw [hkey'] at hkey
      rw [hresult]
      exact h.shared n url hkey
  | joined looked admitted step =>
      have hstage := stage_of_joined looked admitted step
      rw [hstage] at hkey ⊢
      exact h.shared n url hkey
  | @started caller number url' t settings looked admitted step =>
      have hstage := stage_of_started looked admitted step
      rw [hstage] at hkey ⊢
      by_cases hn : n = number
      · subst hn
        obtain rfl : url' = url := by simpa [Stage.key?] using hkey
        exact ⟨_, Function.update_self .., rfl, by simp [Stage.result?]⟩
      · simpa [hn] using h.shared n url (by simpa [hn] using hkey)
  | @settled caller number now url' c result t waiting course done step =>
      have hstage := stage_of_settled waiting step
      rw [hstage] at hkey ⊢
      by_cases hn : n = number
      · subst hn
        obtain rfl : url' = url := by simpa [Stage.key?] using hkey
        refine ⟨c, course, h.url_of_waiting waiting course, ?_⟩
        intro r hr
        obtain rfl : result = r := by simpa [Stage.result?] using hr
        exact done
      · simpa [hn] using h.shared n url (by simpa [hn] using hkey)
  | called => simpa using h.shared n url hkey
  | @moved party c a next x resumed makes =>
      by_cases hparty : party = .shared n
      · -- A computation that is resumed has not come to its result.
        subst hparty
        obtain ⟨caller, url', waiting, computing⟩ := resumed
        have hkey : (s.traffic.stage n).key? = some url := hkey
        obtain rfl : url' = url := by simpa [computing, Stage.key?] using hkey
        have hurl := h.url_of_waiting waiting makes.course
        refine ⟨_, Function.update_self .., hurl, ?_⟩
        intro r hr
        have hr : (s.traffic.stage n).result? = some r := hr
        simp [computing, Stage.result?] at hr
      · have hne : Party.shared n ≠ party := Ne.symm hparty
        simp only [Function.update_of_ne hne]
        exact h.shared n url hkey
  | operated op => exact h.shared n url hkey

theorem Sound.answered_step (h : s.Sound) (hstep : Step s t) :
    ∀ url r answer, .answered url r answer ∈ t.log → .sent url r ∈ t.log := by
  intro url r answer hr
  refine hstep.log_subset ?_
  rcases hstep.record hr with hold | ⟨_, _, ⟨⟩⟩ | ⟨party, c, a, next, x, makes, hrecord⟩
  · exact h.answered url r answer hold
  · obtain ⟨hasked, rfl⟩ := Access.asked_of_answered hrecord
    exact (h.courses _ c makes.course).asked r hasked

/-- A step keeps all this. -/
theorem sound_step (h : s.Sound) (hstep : Step s t) : t.Sound where
  coherent := Traffic.coherent_of_leads h.coherent hstep.traffic
  stored := h.stored_step hstep
  served := h.served_step hstep
  courses := h.courses_step hstep
  shared := h.shared_step hstep
  answered := h.answered_step hstep

end Step

theorem sound_of_leads (h : s.Sound) (hrun : Leads s t) : t.Sound := by
  induction hrun with
  | refl => exact h
  | tail _ hlast ih => exact sound_step ih hlast

end Clients
end Fetch
end EntityTrust
