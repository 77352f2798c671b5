import EntityTrust.Fetch.Client
import Mathlib.Order.Bounds.Basic

/-!
# Repeated requests

**Attempts.**  In a network that acts on a state the attempts of a request follow each other: each
one is made in the state that the delay after the last one left (`stateBefore`), and has an outcome
there, whether or not the request comes to make it.

**Records.**  The client `recorded` notes on a list when it waits, and an attempt may be made to note
its outcome there.  `deeds` is the list that a request of so many attempts leaves.

**Counters.**  `countedRetry` counts attempts with a word of 32 bits, and has no outcome when the
count overflows.

**Results.**
* `run_retry`: the last attempt is the first that settles the request or has no more attempts left,
  and the request comes to its outcome.
* `request_retries`: the record of a request, and its counter.
-/

namespace EntityTrust
namespace Fetch

variable {α σ : Type}

/-- An outcome after which a request is not repeated. -/
def Settles (o : Except FetchError α) : Prop :=
  ∀ e, o = .error e → e.isTransient = false

theorem settles_ok (a : α) : Settles (.ok a) :=
  fun _ h => nomatch h

theorem settles_error {e : FetchError} :
    Settles (.error e : Except FetchError α) ↔ e.isTransient = false := by
  constructor
  · intro h
    exact h e rfl
  · rintro h _ ⟨⟩
    exact h

namespace Client

section Attempts

variable (c : Client (StateM σ)) (once : StateM σ (Except FetchError α)) (s : σ)

/-- The state before an attempt, when all attempts before it were made and waited after; attempts
are counted from one. -/
def stateBefore : Nat → σ
  | 0 | 1 => s
  | i + 2 =>
      ((c.network.wait (c.settings.backoff (i + 1))).run (once.run (stateBefore (i + 1))).2).2

/-- What the attempt with a number comes to. -/
def outcome (i : Nat) : Except FetchError α :=
  (once.run (c.stateBefore once s i)).1

/-- The state that the attempt with a number leaves. -/
def stateAfter (i : Nat) : σ :=
  (once.run (c.stateBefore once s i)).2

variable {c once s} {made left : Nat}

/-- What an attempt decides after which others may follow. -/
theorem run_retry_succ :
    (c.retry once made (left + 1)).run s =
      match once.run s with
      | (.ok a, t) => (.ok a, t)
      | (.error e, t) =>
          if e.isTransient then
            (c.retry once (made + 1) left).run
              ((c.network.wait (c.settings.backoff made)).run t).2
          else (.error e, t) := by
  rw [retry, StateT.run_bind]
  rcases once.run s with ⟨e | a, t⟩
  · change (if e.isTransient then _ else _ : StateM σ (Except FetchError α)).run t = _
    by_cases he : e.isTransient
    · simp only [he, if_true]
      rfl
    · simp only [he]
      rfl
  · rfl

theorem run_retry_of_settles (h : Settles (once.run s).1) :
    (c.retry once made (left + 1)).run s = once.run s := by
  rw [run_retry_succ]
  rcases hrun : once.run s with ⟨e | a, t⟩
  · rw [hrun, settles_error] at h
    simp [h]
  · rfl

theorem run_retry_of_not_settles (h : ¬ Settles (once.run s).1) :
    (c.retry once made (left + 1)).run s =
      (c.retry once (made + 1) left).run
        ((c.network.wait (c.settings.backoff made)).run (once.run s).2).2 := by
  rw [run_retry_succ]
  rcases hrun : once.run s with ⟨e | a, t⟩
  · rw [hrun, settles_error, Bool.not_eq_false] at h
    simp [h]
  · exact absurd (settles_ok a) (by rwa [hrun] at h)

variable (c once s)

/-- From the attempt `made + 1` on, the last attempt is the first that settles the request or has
none left after it. -/
theorem run_retry (left made : Nat) :
    ∃ n, IsLeast {i | made + 1 ≤ i ∧ (Settles (c.outcome once s i) ∨ i = made + 1 + left)} n ∧
      (c.retry once (made + 1) left).run (c.stateBefore once s (made + 1)) =
        once.run (c.stateBefore once s n) := by
  induction left generalizing made with
  | zero => exact ⟨made + 1, ⟨⟨le_rfl, .inr rfl⟩, fun i hi => hi.1⟩, rfl⟩
  | succ left ih =>
      by_cases hsettles : Settles (c.outcome once s (made + 1))
      · exact ⟨made + 1, ⟨⟨le_rfl, .inl hsettles⟩, fun i hi => hi.1⟩,
          run_retry_of_settles hsettles⟩
      · -- The attempt is repeated, so that it is not the last one.
        obtain ⟨n, ⟨⟨hmade, hlast⟩, hleast⟩, hrest⟩ := ih (made + 1)
        refine ⟨n, ⟨⟨by omega, hlast.imp_right (by omega)⟩, fun i ⟨hi, hilast⟩ => ?_⟩, ?_⟩
        · obtain rfl | hlater := Nat.eq_or_lt_of_le hi
          · exact absurd hilast (by simp [hsettles])
          · exact hleast ⟨hlater, hilast.imp_right (by omega)⟩
        · rw [run_retry_of_not_settles hsettles, ← hrest, stateBefore]

end Attempts

section Records

/-- What a request does. -/
inductive Deed (α : Type)
  | attempted (outcome : Except FetchError α)
  | waited (delay : Duration)

/-- A computation that leaves a note of its result. -/
def noting {β : Type} (note : β → List (Deed α)) (x : StateM σ β) : StateM (σ × List (Deed α)) β :=
  fun p =>
    let r := x.run p.1
    (r.1, r.2, p.2 ++ note r.1)

/-- An attempt that leaves a note of its outcome. -/
def notingOutcome (once : StateM σ (Except FetchError α)) :
    StateM (σ × List (Deed α)) (Except FetchError α) :=
  noting (fun o => [.attempted o]) once

variable (c : Client (StateM σ)) (once : StateM σ (Except FetchError α)) (s : σ)

/-- The client that leaves a note whenever it waits. -/
def recorded (α : Type) : Client (StateM (σ × List (Deed α))) where
  settings := c.settings
  network :=
    { send r := noting (fun _ => []) (c.network.send r)
      wait d := noting (fun _ => [.waited d]) (c.network.wait d)
      now := noting (fun _ => []) c.network.now }

/-- What is done before an attempt, when all attempts before it are made and waited after. -/
def deedsBefore (i : Nat) : List (Deed α) :=
  (List.range' 1 (i - 1)).flatMap fun j =>
    [.attempted (c.outcome once s j), .waited (c.settings.backoff j)]

/-- What a request of so many attempts does: after each attempt but the last it waits. -/
def deeds (n : Nat) : List (Deed α) :=
  c.deedsBefore once s n ++ [.attempted (c.outcome once s n)]

theorem deedsBefore_succ (i : Nat) :
    c.deedsBefore once s (i + 2) =
      c.deeds once s (i + 1) ++ [.waited (c.settings.backoff (i + 1))] := by
  simp [deeds, deedsBefore, List.range'_concat, Nat.add_comm 1 i]

/-- The record does not disturb the attempts, and holds what was done before each. -/
theorem stateBefore_recorded (i : Nat) :
    (c.recorded α).stateBefore (notingOutcome once) (s, []) (i + 1) =
      (c.stateBefore once s (i + 1), c.deedsBefore once s (i + 1)) := by
  induction i with
  | zero => rfl
  | succ i ih =>
      rw [stateBefore, ih, stateBefore, deedsBefore_succ, deeds]
      rfl

/-- With the record an attempt has the same outcome, which it adds to the record. -/
theorem run_notingOutcome {i : Nat} (hi : 1 ≤ i) :
    (notingOutcome once).run ((c.recorded α).stateBefore (notingOutcome once) (s, []) i) =
      (c.outcome once s i, c.stateAfter once s i, c.deeds once s i) := by
  obtain ⟨j, rfl⟩ := Nat.exists_eq_add_of_le' hi
  rw [stateBefore_recorded]
  rfl

theorem outcome_recorded {i : Nat} (hi : 1 ≤ i) :
    (c.recorded α).outcome (notingOutcome once) (s, []) i = c.outcome once s i := by
  rw [outcome, run_notingOutcome c once s hi]

end Records

section Counters

/-- The word after a word, if there is one. -/
def next? (i : UInt32) : Option UInt32 :=
  if i.toNat < Numeral.maxWord32 then some (i + 1) else none

theorem toNat_of_next? {i j : UInt32} (h : next? i = some j) : j.toNat = i.toNat + 1 := by
  unfold next? at h
  split at h
  · rename_i hlt
    cases h
    rw [UInt32.toNat_add, UInt32.toNat_one, Nat.mod_eq_of_lt]
    simp only [Numeral.maxWord32] at hlt
    omega
  · cases h

/-- There is a next word below a bound. -/
theorem exists_next? {i bound : UInt32} (h : i < bound) : ∃ j, next? i = some j := by
  have hlt : i.toNat < Numeral.maxWord32 := by
    have := UInt32.lt_iff_toNat_lt.mp h
    have := bound.toNat_lt
    simp only [Numeral.maxWord32]
    omega
  exact ⟨_, if_pos hlt⟩

variable {m : Type → Type} [Monad m] (c : Client m) (once : m (Except FetchError α))

/-- Repeats an attempt while the count of attempts is below a bound; there is no outcome when the
count overflows. -/
def countedRetry (bound made : UInt32) : m (Option (Except FetchError α)) := do
  match ← once with
  | .ok a => pure (some (.ok a))
  | .error e =>
      if _hlow : made < bound ∧ e.isTransient then do
        c.network.wait (c.settings.backoff made.toNat)
        match _hnext : next? made with
        | some next => countedRetry bound next
        | none => pure none
      else pure (some (.error e))
termination_by bound.toNat - made.toNat
decreasing_by
  have := UInt32.lt_iff_toNat_lt.mp _hlow.1
  rw [toNat_of_next? _hnext]
  omega

/-- The count does not overflow, and the request is repeated as often as with any number. -/
theorem countedRetry_eq [LawfulMonad m] {bound made : UInt32} {left : Nat}
    (h : made.toNat + left = bound.toNat) :
    c.countedRetry once bound made = some <$> c.retry once made.toNat left := by
  induction left generalizing made with
  | zero =>
      have hbound : ¬ made < bound := by
        rw [UInt32.lt_iff_toNat_lt]
        omega
      rw [countedRetry, retry, map_eq_pure_bind]
      refine bind_congr fun o => ?_
      cases o with
      | ok a => rfl
      | error e => simp [hbound]
  | succ left ih =>
      have hbound : made < bound := by
        rw [UInt32.lt_iff_toNat_lt]
        omega
      obtain ⟨next, hnext⟩ := exists_next? hbound
      rw [countedRetry, retry, map_bind]
      refine bind_congr fun o => ?_
      cases o with
      | ok a => simp
      | error e =>
          cases he : e.isTransient with
          | false => simp [he]
          | true =>
              have hcount : next.toNat + left = bound.toNat := by
                rw [toNat_of_next? hnext]
                omega
              have hrest := ih hcount
              rw [toNat_of_next? hnext] at hrest
              simp only [hbound, he, and_self, dite_true, if_true, map_bind]
              refine bind_congr fun _ => ?_
              split
              · rename_i next' hnext'
                obtain rfl : next' = next := Option.some.inj (hnext'.symm.trans hnext)
                exact hrest
              · rename_i hnone
                cases hnone.symm.trans hnext

end Counters

section Requests

variable (c : Client (StateM σ)) (url : String) (previous : Option Fetched) (s : σ)

theorem attempts_eq (settings : Settings) :
    0 + 1 + (settings.attempts - 1) = max 1 settings.maxAttempts := by
  unfold Settings.attempts
  omega

/-- A request makes attempts up to the first that settles it or is the last it may take, waits
after each but the last one, and comes to the last outcome.  It comes to a transient failure only
if it has taken all attempts that it may take, and a word of 32 bits counts them without
overflow. -/
theorem request_retries :
    ∃ n,
      IsLeast {i | 1 ≤ i ∧ (Settles (c.outcome (c.attempt url previous) s i) ∨
        i = max 1 c.settings.maxAttempts)} n ∧
      (c.request url previous).run s =
        (c.outcome (c.attempt url previous) s n, c.stateAfter (c.attempt url previous) s n) ∧
      ((c.recorded Fetched).retry (notingOutcome (c.attempt url previous)) 1
          (c.settings.attempts - 1)).run (s, []) =
        (c.outcome (c.attempt url previous) s n, c.stateAfter (c.attempt url previous) s n,
          c.deeds (c.attempt url previous) s n) ∧
      (∀ e, c.outcome (c.attempt url previous) s n = .error e → e.isTransient = true →
        n = max 1 c.settings.maxAttempts) ∧
      (c.settings.maxAttempts ≤ Numeral.maxWord32 →
        c.countedRetry (c.attempt url previous) (.ofNat (max 1 c.settings.maxAttempts)) 1 =
          some <$> c.request url previous) := by
  obtain ⟨n, hn, hrun⟩ := c.run_retry (c.attempt url previous) s (c.settings.attempts - 1) 0
  obtain ⟨k, hk, hrecord⟩ := (c.recorded Fetched).run_retry
    (notingOutcome (c.attempt url previous)) (s, []) (c.settings.attempts - 1) 0
  rw [attempts_eq] at hn hk
  obtain rfl : k = n := by
    -- The attempts that may be the last are the same with and without the record.
    refine hk.unique ?_
    refine (congrArg (IsLeast · n) (Set.ext fun i => and_congr_right fun hi => ?_)).mpr hn
    rw [c.outcome_recorded (c.attempt url previous) s hi]
  refine ⟨k, hn, hrun, ?_, fun e he htransient => ?_, fun hword => ?_⟩
  · exact hrecord.trans (c.run_notingOutcome (c.attempt url previous) s hn.1.1)
  · refine hn.1.2.resolve_left fun hsettles => ?_
    rw [hsettles e he] at htransient
    cases htransient
  · have hbound : (UInt32.ofNat (max 1 c.settings.maxAttempts)).toNat =
        max 1 c.settings.maxAttempts := by
      refine UInt32.toNat_ofNat_of_lt' ?_
      simp only [Numeral.maxWord32, UInt32.size] at hword ⊢
      omega
    refine c.countedRetry_eq (c.attempt url previous) ?_
    rw [hbound, UInt32.toNat_one, ← attempts_eq, Nat.zero_add]

end Requests

namespace Sample

def url : String :=
  "http://[::1]/"

/-- A server that is out of service at the first request and then does not know the page; its state
is the number of requests it has received. -/
def client : Client (StateM Nat) where
  settings := {}
  network :=
    { send _ := fun k => (.ok ⟨if k = 0 then 503 else 404, [], some []⟩, k + 1)
      wait _ := pure ()
      now := pure 0 }

theorem outcomes :
    client.outcome (client.attempt url none) 0 1 = .error (.unexpectedStatus 503 url) ∧
      client.outcome (client.attempt url none) 0 2 = .error (.unexpectedStatus 404 url) := by
  decide +kernel

theorem delay : client.settings.backoff 1 = .ofSeconds 1 := by
  decide +kernel

theorem isLeast_two :
    IsLeast {i | 1 ≤ i ∧ (Settles (client.outcome (client.attempt url none) 0 i) ∨
      i = max 1 client.settings.maxAttempts)} 2 := by
  refine ⟨⟨by decide, .inl (by rw [outcomes.2, settles_error]; rfl)⟩, fun i ⟨hi, hlast⟩ => ?_⟩
  by_contra hlow
  obtain rfl : i = 1 := by omega
  rw [outcomes.1, settles_error] at hlast
  rcases hlast with htransient | hmost
  · cases htransient
  · cases hmost

end Sample

/-- Of three attempts that it may take a request takes two, with a delay of a second between
them. -/
theorem request_retries_sample :
    ((Sample.client.request Sample.url none).run 0).1 = .error (.unexpectedStatus 404 Sample.url) ∧
      (((Sample.client.recorded Fetched).retry
          (notingOutcome (Sample.client.attempt Sample.url none)) 1 2).run (0, [])).2.2 =
        [.attempted (.error (.unexpectedStatus 503 Sample.url)), .waited (.ofSeconds 1),
          .attempted (.error (.unexpectedStatus 404 Sample.url))] ∧
      Sample.client.countedRetry (Sample.client.attempt Sample.url none) 3 1 =
        some <$> Sample.client.request Sample.url none := by
  obtain ⟨n, hn, hrun, hrecord, -, hcount⟩ := request_retries Sample.client Sample.url none 0
  obtain rfl : n = 2 := hn.unique Sample.isLeast_two
  refine ⟨?_, ?_, hcount (by decide)⟩
  · rw [hrun, Sample.outcomes.2]
  · have hdeeds := congrArg (fun r => r.2.2) hrecord
    refine hdeeds.trans ?_
    simp [deeds, deedsBefore, Sample.outcomes, Sample.delay]

end Client
end Fetch
end EntityTrust
