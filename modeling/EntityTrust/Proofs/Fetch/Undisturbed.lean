import EntityTrust.Proofs.Fetch.Clients

/-!
# Calls that nothing disturbs

A call that runs alone takes the steps of the shared store one after the other.

**Plays.**  A script that leaves the store alone is played with answers of the network, which gives
records and a result.  `plays_cacheFirst` and `plays_forceRemote` are calls whose one request is
answered with a statement.

**Results.**  `finishes_fetching` plays what a party does with the store as steps of that party, and
`answers_get` plays a whole call, whatever its strategy: the state that it leads to has the pages
that the call leaves behind, the records of its requests, and its answer.
-/

namespace EntityTrust
namespace Fetch

/-- A script is played with answers of the network from a last request to another one. -/
inductive Plays {β : Type} (url : String) (b : β) :
    Option Request → Script β → List Record → Option Request → Prop
  | done (asked : Option Request) : Plays url b asked (.done b) [] asked
  | access {asked asked' : Option Request} {a : Access} {next : a.Result → Script β}
      {records : List Record} (x : a.Result) (answers : ∀ store, a.Answers store asked x)
      (rest : Plays url b (a.asked asked) (next x) records asked') :
      Plays url b asked (.access a next) (a.records url asked x ++ records) asked'

section Plays

variable {β γ : Type} {url : String} {b : β} {g : γ} {asked asked' : Option Request}
  {records : List Record} {x : Script β} {f : β → Script γ}

theorem Plays.bind {more : List Record} {last : Option Request}
    (h : Plays url b asked x records asked') (rest : Plays url g asked' (f b) more last) :
    Plays url g asked (x >>= f) (records ++ more) last := by
  induction h with
  | done => exact rest
  | access x answers _ ih =>
      rw [List.append_assoc]
      exact .access x answers (ih rest)

theorem plays_of_bind (h : Plays url g asked (x >>= f) records asked') :
    ∃ b before more last, Plays url b asked x before last ∧ Plays url g last (f b) more asked' ∧
      records = before ++ more := by
  induction x generalizing asked records with
  | done b => exact ⟨b, [], records, asked, .done asked, h, rfl⟩
  | access a next ih =>
      cases h with
      | access x answers rest =>
          obtain ⟨b, before, more, last, hx, hf, rfl⟩ := ih x rest
          exact ⟨b, _, more, last, .access x answers hx, hf, (List.append_assoc ..).symm⟩

end Plays

namespace Clients

variable {s : Clients} {party : Party} {c : Course} {pages : Pages}
  {result : Except FetchError Fetched}

/-- A run takes the fetch of a party to its result, and leaves pages behind. -/
def Finishes (s : Clients) (party : Party) (c : Course) (result : Except FetchError Fetched)
    (pages : Pages) (records : List Record) : Prop :=
  ∃ c', c'.rest = .done result ∧ c'.url = c.url ∧
    Leads s ⟨{ s.traffic with flights := pages }, Function.update s.course party (some c'),
      s.log ++ records⟩

theorem finishes_of_done (course : s.course party = some c) (rest : c.rest = .done result) :
    s.Finishes party c result s.traffic.flights [] := by
  refine ⟨c, rest, rfl, ?_⟩
  rw [← course, Function.update_eq_self, List.append_nil]
  exact .refl

/-- A fetch makes an access and then finishes. -/
theorem finishes_of_move {a : Access} {next : a.Result → Script (Except FetchError Fetched)}
    {x : a.Result} {records : List Record} (resumed : s.Resumed party)
    (makes : s.Makes party c a next x)
    (later : Finishes ⟨s.onStore a.apply, Function.update s.course party (some (c.after a next x)),
      s.log ++ a.records c.url c.asked x⟩ party (c.after a next x) result pages records) :
    s.Finishes party c result pages (a.records c.url c.asked x ++ records) := by
  obtain ⟨c', hdone, hurl, hlater⟩ := later
  rw [Function.update_idem, List.append_assoc] at hlater
  exact ⟨c', hdone, hurl, .head (.moved resumed makes) hlater⟩

theorem Resumed.onStore (h : s.Resumed party) (change : Store String Fetched → Store String Fetched)
    (course : Party → Option Course) (log : List Record) :
    Resumed ⟨s.onStore change, course, log⟩ party := by
  cases party <;> exact h

/-- What a party does with the store when nothing else does. -/
theorem finishes_fetching {x : Script (Except FetchError Fetched)} {records : List Record}
    {asked : Option Request} (resumed : s.Resumed party) (course : s.course party = some c)
    (rest : c.rest = x)
    (plays : Plays c.url (result, pages) c.asked (x.fetching s.traffic.flights) records asked) :
    s.Finishes party c result pages records := by
  induction x generalizing s c records with
  | done b =>
      cases plays
      exact finishes_of_done course rest
  | access a next ih =>
      cases a with
      | find url now =>
          exact finishes_of_move resumed ⟨course, rest, rfl⟩
            (ih _ (resumed.onStore ..) (Function.update_self ..) rfl plays)
      | insert url f now =>
          exact finishes_of_move resumed ⟨course, rest, trivial⟩
            (ih _ (resumed.onStore ..) (Function.update_self ..) rfl plays)
      | _ =>
          cases plays with
          | access y answers later =>
              exact finishes_of_move resumed ⟨course, rest, answers s.store⟩
                (ih _ (resumed.onStore ..) (Function.update_self ..) rfl later)

section Calls

variable {settings : Settings} {url : String} {records : List Record} {asked : Option Request}
  {answer : Except FetchError String} {call : Nat}

/-- A run takes a call to its answer, leaves pages and records behind, and does not touch the other
calls that fetch by themselves. -/
def Answers (s : Clients) (call : Nat) (url : String) (answer : Except FetchError String)
    (pages : Pages) (records : List Record) : Prop :=
  ∃ t, Leads s t ∧ t.traffic.flights = pages ∧ t.log = s.log ++ records ∧
    (∀ other, other ≠ call → t.course (.alone other) = s.course (.alone other)) ∧
      ∀ body, answer = .ok body → t.Returns url body

/-- A call that fetches by itself. -/
theorem answers_of_direct {strategy : Strategy} (direct : strategy ≠ .cacheFirst)
    (absent : s.course (.alone call) = none)
    (plays : Plays url (answer, pages) none ((scripted settings).get url strategy s.traffic.flights)
      records asked) : s.Answers call url answer pages records := by
  rw [get_of_direct settings url direct] at plays
  obtain ⟨⟨result, pages'⟩, before, more, last, hplan, hdone, rfl⟩ := plays_of_bind plays
  cases hdone
  have finishes : Finishes
      { s with
        course := Function.update s.course (.alone call) (some (.start settings url strategy)) }
      (.alone call) (.start settings url strategy) result pages before :=
    finishes_fetching trivial (Function.update_self ..) rfl hplan
  obtain ⟨c', hdone, hurl, hlater⟩ := finishes
  refine ⟨_, .head (.called settings url absent direct) hlater, rfl, by simp, ?_, ?_⟩
  · intro other hother
    simp [hother]
  intro body hbody
  cases result with
  | error e => cases hbody
  | ok f =>
      cases hbody
      rw [← show c'.url = url from hurl]
      exact .fetched (Function.update_self (Party.alone call) ..) hdone

/-- A computation whose fetch is done ends, and a caller that waits for it takes its result. -/
theorem leads_receive (h : s.traffic.Coherent) {caller n : Nat} (now : Nat)
    (free : s.traffic.holder = none) (waiting : s.traffic.caller caller = .waiting url n)
    (computing : s.traffic.stage n = .computing url) (course : s.course (.shared n) = some c)
    (done : c.rest = .done result) :
    ∃ t, Leads s t ∧ t.course = s.course ∧ t.log = s.log ∧
      t.traffic.caller caller = .received url n result ∧
      t.traffic.flights = (s.traffic.flights.complete url n result now).leave caller := by
  have settled : Leads s _ :=
    .single (.settled waiting course done (.settled result now waiting computing))
  have released := settled.aside (e := .release n) trivial
    (.released free (Function.update_self n _ s.traffic.stage))
  have answered := released.aside (e := .answer n) trivial
    (.answered (Function.update_self n _ _))
  have hlookup := (h.waiting caller n).mpr ⟨url, waiting⟩
  have hanswer : (s.traffic.flights.complete url n result now).result? caller = some result := by
    simp [Flights.result?, Flights.complete, Flights.settle, Flights.release, Flights.answer,
      hlookup]
  have received := answered.aside (e := .receive caller) trivial (.received waiting hanswer)
  exact ⟨_, received, rfl, rfl, Function.update_self .., rfl⟩

/-- A caller that finds nothing stored starts a computation. -/
theorem leads_start {caller now : Nat} {flights : Pages} (free : s.traffic.holder = none)
    (absent : s.traffic.caller caller = .absent)
    (missed : s.traffic.flights.lookUp url now = (none, flights))
    (idle : flights.underWay.lookup url = none) (settings : Settings) :
    ∃ t, Leads s t ∧ t.log = s.log ∧ t.traffic.holder = none ∧
      t.traffic.flights = (flights.enter caller url).2 ∧
      t.traffic.caller caller = .waiting url flights.started ∧
      t.traffic.stage flights.started = .computing url ∧
      t.course = Function.update s.course (.shared flights.started)
        (some (.start settings url .cacheFirst)) := by
  obtain rfl : (s.traffic.flights.lookUp url now).2 = flights := by rw [missed]
  have looked : Leads s _ := .single (.aside (e := .look caller url now) trivial
    (.missed free absent (by rw [missed])))
  have hcaller := Function.update_self caller (.looked url) s.traffic.caller
  have admitted : ((s.traffic.flights.lookUp url now).2.enter caller url).1 = .started _ :=
    Flights.enter_eq_started.mpr ⟨idle, rfl⟩
  have started : Leads s _ :=
    .tail looked (.started settings hcaller admitted (.started hcaller admitted))
  exact ⟨_, started, rfl, rfl, rfl, Function.update_self .., Function.update_self .., rfl⟩

/-- A call that finds nothing stored starts a computation and waits for it. -/
theorem answers_of_started (h : s.traffic.Coherent) (free : s.traffic.holder = none)
    (absent : s.traffic.caller 0 = .absent) {now : Nat} {flights : Pages}
    (missed : s.traffic.flights.lookUp url now = (none, flights))
    (idle : flights.underWay.lookup url = none) (later : Nat)
    (plays : Plays url result none ((scripted settings).request url none) records asked) :
    s.Answers call url (result.map Fetched.body)
      (((flights.enter 0 url).2.complete url flights.started result later).leave 0) records := by
  obtain ⟨u, hstart, hlog, hfree, hflights, waiting, computing, course⟩ :=
    leads_start free absent missed idle settings
  have hplays : Plays url (result, u.traffic.flights) none
      (((scripted settings).request url none).fetching u.traffic.flights) (records ++ []) asked :=
    by
    rw [fetching_request]
    exact plays.bind (.done asked)
  have resumed : u.Resumed (.shared flights.started) := ⟨0, url, waiting, computing⟩
  have own := congrFun course (.shared flights.started)
  rw [Function.update_self] at own
  obtain ⟨c', hdone, -, hfetch⟩ := finishes_fetching resumed own rfl hplays
  have hcoherent := Traffic.coherent_of_leads h (hstart.trans hfetch).traffic
  obtain ⟨t, hreceive, htcourse, htlog, received, htflights⟩ :=
    leads_receive hcoherent later hfree waiting computing (Function.update_self ..) hdone
  refine ⟨t, (hstart.trans hfetch).trans hreceive, ?_, ?_, ?_, ?_⟩
  · rw [htflights, ← hflights]
  · rw [htlog, hlog, List.append_nil]
  · intro other _
    simp [htcourse, course]
  · intro body hbody
    cases result with
    | error e => cases hbody
    | ok f =>
        cases hbody
        exact .received received

/-- A call that shares its computation. -/
theorem answers_of_shared (h : s.traffic.Coherent) (free : s.traffic.holder = none)
    (absent : s.traffic.caller 0 = .absent) (idle : s.traffic.flights.underWay.lookup url = none)
    (plays : Plays url (answer, pages) none
      ((scripted settings).get url .cacheFirst s.traffic.flights) records asked) :
    s.Answers call url answer pages records := by
  rw [get_cacheFirst] at plays
  cases plays with
  | access now _ rest =>
      dsimp only at rest
      rcases hlook : s.traffic.flights.lookUp url now with ⟨_ | f, flights⟩
      · have harrive : s.traffic.flights.arrive 0 url now = flights.enter 0 url := by
          simp [Flights.arrive, hlook]
        have hidle : flights.underWay.lookup url = none := by
          rw [show flights = (s.traffic.flights.lookUp url now).2 by rw [hlook]]
          exact idle
        have henter := Flights.enter_of_not_registered 0 hidle
        rw [harrive, henter] at rest
        obtain ⟨result, before, more, last, hrequest, hclock, rfl⟩ := plays_of_bind rest
        cases hclock with
        | access later _ hdone =>
            cases hdone
            have hanswers : s.Answers call url (result.map Fetched.body) _ _ :=
              answers_of_started h free absent hlook hidle later hrequest
            rw [henter] at hanswers
            simpa [Access.records] using hanswers
      · have harrive : s.traffic.flights.arrive 0 url now = (.found f, flights) := by
          simp [Flights.arrive, hlook]
        rw [harrive] at rest
        cases rest
        have found := Step.aside (s := s) (e := .look 0 url now) trivial
          (.found free absent (by rw [hlook]))
        refine ⟨_, .single found, by rw [hlook], by simp [Access.records], fun _ _ => rfl, ?_⟩
        rintro body ⟨⟩
        exact .served (Function.update_self ..)

/-- A call of any strategy that nothing disturbs is a run. -/
theorem answers_get {strategy : Strategy} (h : s.traffic.Coherent) (free : s.traffic.holder = none)
    (absent : s.traffic.caller 0 = .absent) (idle : s.traffic.flights.underWay.lookup url = none)
    (unused : s.course (.alone call) = none)
    (plays : Plays url (answer, pages) none ((scripted settings).get url strategy s.traffic.flights)
      records asked) : s.Answers call url answer pages records := by
  by_cases hstrategy : strategy = .cacheFirst
  · subst hstrategy
    exact answers_of_shared h free absent idle plays
  · exact answers_of_direct hstrategy unused plays

end Calls

end Clients

section Answered

variable {settings : Settings} {url : String} {known : Option Fetched} {asked : Option Request}
  {r : Request} {response : Response} {f : Fetched} {pages pages' : Pages} {now n : Nat}

/-- A request that is answered with a statement at once. -/
theorem plays_request (build : Request.build settings url known = .ok r)
    (fresh : Client.interpret url known response = .ok f) :
    Plays url (.ok f) asked ((scripted settings).request url known)
      [.sent url r, .answered url r (.ok response)] (some r) := by
  have attempt : Plays url (.ok f) asked ((scripted settings).attempt url known)
      [.sent url r, .answered url r (.ok response)] (some r) := by
    have hbuild : Request.build (scripted settings).settings url known = .ok r := build
    rw [Client.attempt, hbuild, ← fresh]
    exact .access () (fun _ => trivial) (.access (a := .receive) (.ok response) (fun _ => rfl)
      (.done (some r)))
  unfold Client.request
  cases (scripted settings).settings.attempts - 1 with
  | zero => exact attempt
  | succ left => exact attempt.bind (.done (some r))

theorem plays_cacheFirst (arrives : pages.arrive 0 url now = (.started n, pages'))
    (build : Request.build settings url none = .ok r)
    (fresh : Client.interpret url none response = .ok f) (later : Nat) :
    Plays url (.ok f.body, (pages'.complete url n (.ok f) later).leave 0) asked
      ((scripted settings).get url .cacheFirst pages)
      [.sent url r, .answered url r (.ok response)] (some r) := by
  rw [get_cacheFirst]
  refine .access now (fun _ => trivial) ?_
  rw [arrives]
  exact (plays_request build fresh).bind (.access later (fun _ => trivial) (.done (some r)))

theorem plays_requestAndWrite (build : Request.build settings url known = .ok r)
    (fresh : Client.interpret url known response = .ok f) (pages : Pages) (later : Nat) :
    Plays url (.ok f, pages.onStore fun s => s.insert url f later) asked
      ((requestAndWrite settings url known).fetching pages)
      [.sent url r, .answered url r (.ok response)] (some r) := by
  rw [fetching_requestAndWrite]
  have requested : Plays url (Except.ok f, pages) asked ((scripted settings).remote url known pages)
      [.sent url r, .answered url r (.ok response)] (some r) :=
    (plays_request build fresh).bind (.done (some r))
  exact requested.bind (.access later (fun _ => trivial) (.done (some r)))

theorem plays_forceRemote (validate : settings.validate = true)
    (build : Request.build settings url (pages.store.find url now).1 = .ok r)
    (fresh : Client.interpret url (pages.store.find url now).1 response = .ok f) (later : Nat) :
    Plays url (.ok f.body,
        (pages.onStore fun s => (s.find url now).2).onStore fun s => s.insert url f later) asked
      ((scripted settings).get url .forceRemote pages)
      [.sent url r, .answered url r (.ok response)] (some r) := by
  have direct : Strategy.forceRemote ≠ .cacheFirst := by decide
  rw [get_of_direct settings url direct, plan, if_pos validate]
  have fetched : Plays url
      (Except.ok f,
        (pages.onStore fun s => (s.find url now).2).onStore fun s => s.insert url f later) asked
      ((Script.lookUp url >>= requestAndWrite settings url).fetching pages)
      [.sent url r, .answered url r (.ok response)] (some r) := by
    refine .access now (fun _ => trivial) ?_
    exact plays_requestAndWrite build fresh (pages.onStore fun s => (s.find url now).2) later
  exact fetched.bind (f := fun p => pure (p.1.map Fetched.body, p.2)) (.done (some r))

end Answered

end Fetch
end EntityTrust
