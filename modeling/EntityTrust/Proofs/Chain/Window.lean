import EntityTrust.Proofs.Chain.Acceptance
import EntityTrust.Proofs.Discovery.Soundness
import Mathlib.Data.Finset.Max

/-!
# Validity windows of chains

How the verdict on one chain depends on the instant.

**Argument.**  All rules but the windows speak about the statements alone.  Of a chain that was
accepted once only the windows are left to be checked at any other instant, one after the other
(`checkFrom_of_accepted`), and the first one that does not hold the instant is reported
(`exists_of_checkWindows`).

**Results.**
* `verify_of_accepted`: the verdict on an accepted chain at any other instant.
* `verify_iff_window`: an accepted chain is valid from the latest issue until the earliest expiry
  of its statements, and otherwise the first statement outside its window is named.
-/

namespace EntityTrust
namespace TrustChain

open Outcome

/-- Examines windows alone, the first of them at a position. -/
def checkWindows (now : Int) (position : Nat) : List Entry → Except ChainRejection Unit
  | [] => .ok ()
  | e :: rest => do
      checkWindow now position e.statement.core
      checkWindows now (position + 1) rest

/-- The instants at which the statements of a chain were issued. -/
def issues (statements : List String) : Set Int :=
  {i | ∃ j t s, Holds statements j t s ∧ s.core.issuedAt = i}

/-- The instants at which the statements of a chain expire. -/
def expiries (statements : List String) : Set Int :=
  {i | ∃ j t s, Holds statements j t s ∧ s.core.expiresAt = i}

/-- The statement at a position is not in force. -/
def OutOfForce (statements : List String) (now : Int) (position : Nat) : Prop :=
  ∃ t s, Holds statements position t s ∧ (now < s.core.issuedAt ∨ s.core.expiresAt ≤ now)

section Windows

variable {now : Int} {es : List Entry}

theorem checkWindow_eq_error {position : Nat} {c : StatementCore} {r : ChainRejection}
    (h : checkWindow now position c = .error r) :
    (now < c.issuedAt ∨ c.expiresAt ≤ now) ∧
      r.message = "Statement at position " ++ toString position ++
        if now < c.issuedAt then " has invalid iat" else " has expired" := by
  unfold checkWindow at h
  split at h
  · rename_i hearly
    cases h
    rw [if_pos hearly]
    exact ⟨.inl hearly, rfl⟩
  · rename_i hearly
    split at h
    · rename_i hlate
      cases h
      rw [if_neg hearly]
      exact ⟨.inr hlate, rfl⟩
    · cases h

theorem checkWindows_eq_ok (position : Nat) :
    checkWindows now position es = .ok () ↔
      ∀ e ∈ es, e.statement.core.issuedAt ≤ now ∧ now < e.statement.core.expiresAt := by
  induction es generalizing position with
  | nil => simp [checkWindows]
  | cons e rest ih =>
      have hfirst : checkWindow now position e.statement.core = .ok () ↔ _ := checkWindow_eq_ok
      rw [checkWindows, bind_eq_ok, List.forall_mem_cons, ← ih (position + 1), ← hfirst]
      constructor
      · rintro ⟨⟨⟩, hfirst, hrest⟩
        exact ⟨hfirst, hrest⟩
      · rintro ⟨hfirst, hrest⟩
        exact ⟨(), hfirst, hrest⟩

/-- The window that is reported is the first one that does not hold the instant. -/
theorem exists_of_checkWindows {position : Nat} {r : ChainRejection}
    (h : checkWindows now position es = .error r) :
    ∃ before e after, es = before ++ e :: after ∧
      (∀ d ∈ before, d.statement.core.issuedAt ≤ now ∧ now < d.statement.core.expiresAt) ∧
      checkWindow now (position + before.length) e.statement.core = .error r := by
  induction es generalizing position with
  | nil => cases h
  | cons e rest ih =>
      rw [checkWindows] at h
      cases hfirst : checkWindow now position e.statement.core with
      | error r' =>
          rw [hfirst] at h
          cases h
          exact ⟨[], e, rest, rfl, by simp, hfirst⟩
      | ok _ =>
          rw [hfirst, ok_bind] at h
          obtain ⟨before, d, after, rfl, hbefore, hwindow⟩ := ih h
          have hpassed := checkWindow_eq_ok.mp hfirst
          have hplace : position + 1 + before.length = position + (e :: before).length := by
            rw [List.length_cons]
            omega
          refine ⟨e :: before, d, after, rfl, ?_, hplace ▸ hwindow⟩
          intro d' hd'
          rcases List.mem_cons.mp hd' with rfl | hd'
          · exact hpassed
          · exact hbefore d' hd'

end Windows

section Accepted

variable {accepts : String → Jwk → Bool} {anchor : Option String} {before now : Int}
  {statements : List String} {es : List Entry}

theorem of_checkFrom_cons {position : Nat} {raw : String} {rest : List String} {e : Entry}
    (hread : Reads raw e) :
    of (checkFrom (m := Id) accepts anchor now position (raw :: rest)) =
      checkWindow now position e.statement.core >>= fun _ =>
        (if position = 0 then of (checkSubject (m := Id) accepts e) else .ok ()) >>= fun _ =>
          match rest with
          | [] => of (checkAnchor (m := Id) accepts anchor e)
          | above :: more =>
              entryAt (position + 1) above >>= fun next =>
                of (checkLink (m := Id) accepts position e next) >>= fun _ =>
                  of (checkFrom (m := Id) accepts anchor now (position + 1) (above :: more)) := by
  have hentry : entryAt position raw = .ok e := entryAt_eq_ok.mpr hread
  rw [checkFrom]
  by_cases hp : position = 0
  · simp only [of_bind, of_liftExcept, hentry, ok_bind, if_pos hp]
    cases rest with
    | nil => rfl
    | cons above more => simp only [of_bind, of_liftExcept]
  · simp only [of_bind, of_liftExcept, hentry, ok_bind, if_neg hp]
    cases rest with
    | nil => rfl
    | cons above more => simp only [of_bind, of_liftExcept]

/-- Of statements that passed at one instant only the windows are left to be checked at another. -/
theorem checkFrom_of_accepted (hreads : List.Forall₂ Reads statements es) :
    ∀ position, of (checkFrom (m := Id) accepts anchor before position statements) = .ok () →
      of (checkFrom (m := Id) accepts anchor now position statements) =
        checkWindows now position es := by
  induction hreads with
  | nil =>
      intro position _
      rfl
  | @cons raw e rest es hread hrest ih =>
      intro position h
      rw [of_checkFrom_cons hread, checkWindows]
      rw [of_checkFrom_cons hread] at h
      obtain ⟨⟨⟩, -, h⟩ := bind_eq_ok.mp h
      obtain ⟨⟨⟩, hsubject, h⟩ := bind_eq_ok.mp h
      rw [hsubject, ok_bind]
      cases hrest with
      | nil =>
          have hanchor : of (checkAnchor (m := Id) accepts anchor e) = .ok () := h
          rw [checkWindows]
          simp only [hanchor]
      | @cons above next more es hnext hmore =>
          obtain ⟨next', hnext', h⟩ := bind_eq_ok.mp h
          obtain ⟨⟨⟩, hlink, h⟩ := bind_eq_ok.mp h
          simp only [hnext', ok_bind, hlink, ih (position + 1) h]

/-- The verdict on an accepted chain at any instant. -/
theorem verify_of_accepted
    (accepted : (verify (m := Id) accepts anchor before statements).isValid = true) :
    ∃ es, es ≠ [] ∧ List.Forall₂ Reads statements es ∧
      ∀ now, verify (m := Id) accepts anchor now statements =
        match checkWindows now 0 es with
        | .ok () => Verdict.valid
        | .error r => .invalid r.message := by
  obtain ⟨hlength, es, hreads, hpasses⟩ := verify_isValid_iff.mp accepted
  have hlong : ¬ statements.length < minLength := Nat.not_lt.mpr hlength
  have hchecked : of (checkFrom (m := Id) accepts anchor before 0 statements) = .ok () :=
    (checkFrom_eq_ok statements 0).mpr
      ⟨es, hreads, hpasses.windows, fun _ => hpasses.subject, hpasses.links, hpasses.anchored⟩
  refine ⟨es, ?_, hreads, ?_⟩
  · rintro rfl
    cases hreads
    exact hlong (by decide)
  · intro now
    have hall : of (checkAll (m := Id) accepts anchor now statements) = checkWindows now 0 es := by
      unfold checkAll
      rw [if_neg hlong]
      exact checkFrom_of_accepted hreads 0 hchecked
    unfold of at hall
    unfold verify
    rw [hall]
    cases checkWindows now 0 es <;> rfl

end Accepted

section Bounds

variable {statements : List String} {es : List Entry}

theorem holds_iff_getElem? (hreads : List.Forall₂ Reads statements es) {j : Nat} {t : Token}
    {s : Statement} : Holds statements j t s ↔ es[j]? = some ⟨t, s⟩ := by
  induction hreads generalizing j with
  | nil =>
      constructor
      · rintro ⟨⟨raw, hraw, -⟩, -, -⟩
        cases hraw
      · intro h
        cases h
  | @cons raw e rest es hread hrest ih =>
      cases j with
      | zero =>
          rw [← reads_iff_holds (List.getElem?_cons_zero)]
          constructor
          · intro h
            rw [List.getElem?_cons_zero, hread.unique h]
          · intro h
            rw [List.getElem?_cons_zero, Option.some.injEq] at h
            exact h ▸ hread
      | succ j =>
          rw [List.getElem?_cons_succ, ← ih]
          constructor
          · rintro ⟨hdecoded, hcomplete, hstated⟩
            exact ⟨by simpa using hdecoded, hcomplete, hstated⟩
          · rintro ⟨hdecoded, hcomplete, hstated⟩
            exact ⟨by simpa using hdecoded, hcomplete, hstated⟩

theorem exists_holds_iff (hreads : List.Forall₂ Reads statements es) {P : StatementCore → Prop} :
    (∃ j t s, Holds statements j t s ∧ P s.core) ↔ ∃ e ∈ es, P e.statement.core := by
  constructor
  · rintro ⟨j, t, s, hholds, hp⟩
    exact ⟨⟨t, s⟩, List.mem_of_getElem? ((holds_iff_getElem? hreads).mp hholds), hp⟩
  · rintro ⟨⟨t, s⟩, hmem, hp⟩
    obtain ⟨j, hj⟩ := List.mem_iff_getElem?.mp hmem
    exact ⟨j, t, s, (holds_iff_getElem? hreads).mpr hj, hp⟩

theorem issues_eq (hreads : List.Forall₂ Reads statements es) :
    issues statements = (es.map fun e => e.statement.core.issuedAt).toFinset := by
  ext i
  rw [issues, Set.mem_ofPred_eq, exists_holds_iff hreads (P := fun c => c.issuedAt = i)]
  simp

theorem expiries_eq (hreads : List.Forall₂ Reads statements es) :
    expiries statements = (es.map fun e => e.statement.core.expiresAt).toFinset := by
  ext i
  rw [expiries, Set.mem_ofPred_eq, exists_holds_iff hreads (P := fun c => c.expiresAt = i)]
  simp

/-- The windows of a chain have an instant in common exactly from the latest issue until the
earliest expiry. -/
theorem exists_window (hne : es ≠ []) (hreads : List.Forall₂ Reads statements es) :
    ∃ latest earliest,
      IsGreatest (issues statements) latest ∧ IsLeast (expiries statements) earliest ∧
        ∀ now : Int,
          (∀ e ∈ es, e.statement.core.issuedAt ≤ now ∧ now < e.statement.core.expiresAt) ↔
            latest ≤ now ∧ now < earliest := by
  have hissues : (es.map fun e => e.statement.core.issuedAt).toFinset.Nonempty := by
    simpa [List.toFinset_nonempty_iff] using hne
  have hexpiries : (es.map fun e => e.statement.core.expiresAt).toFinset.Nonempty := by
    simpa [List.toFinset_nonempty_iff] using hne
  have hlatest := Finset.isGreatest_max' _ hissues
  have hearliest := Finset.isLeast_min' _ hexpiries
  refine ⟨_, _, issues_eq hreads ▸ hlatest, expiries_eq hreads ▸ hearliest, ?_⟩
  intro now
  rw [isLUB_le_iff hlatest.isLUB, hearliest.lt_iff]
  simp only [upperBounds, List.coe_toFinset, List.mem_map, forall_exists_index,
    and_imp, forall_apply_eq_imp_iff₂, Set.mem_ofPred_eq]
  constructor
  · intro h
    exact ⟨fun e he => (h e he).1, fun e he => (h e he).2⟩
  · rintro ⟨hissued, hexpires⟩ e he
    exact ⟨hissued e he, hexpires e he⟩

/-- The first statement that is not in force. -/
theorem isLeast_outOfForce {now : Int} {before after : List Entry} {e : Entry}
    (hreads : List.Forall₂ Reads statements (before ++ e :: after))
    (hbefore : ∀ d ∈ before, d.statement.core.issuedAt ≤ now ∧ now < d.statement.core.expiresAt)
    (he : now < e.statement.core.issuedAt ∨ e.statement.core.expiresAt ≤ now) :
    Holds statements before.length e.token e.statement ∧
      IsLeast {k | OutOfForce statements now k} before.length := by
  have hholds : Holds statements before.length e.token e.statement :=
    (holds_iff_getElem? hreads).mpr (by simp)
  refine ⟨hholds, ⟨_, _, hholds, he⟩, ?_⟩
  rintro k ⟨t, s, hk, hout⟩
  by_contra hlt
  have hlt : k < before.length := Nat.lt_of_not_le hlt
  rw [holds_iff_getElem? hreads, List.getElem?_append_left hlt] at hk
  obtain ⟨hissued, hexpires⟩ := hbefore _ (List.mem_of_getElem? hk)
  have hissued : s.core.issuedAt ≤ now := hissued
  have hexpires : now < s.core.expiresAt := hexpires
  omega

end Bounds

/-- A chain that was accepted at some instant is valid from the latest issue of its statements until
their earliest expiry; at any other instant the first statement out of force is named, with the
bound that it violates. -/
theorem verify_iff_window {accepts : String → Jwk → Bool} {anchor : Option String} {before : Int}
    {statements : List String}
    (accepted : (verify (m := Id) accepts anchor before statements).isValid = true) :
    ∃ latest earliest,
      IsGreatest (issues statements) latest ∧ IsLeast (expiries statements) earliest ∧
        ∀ now,
          ((verify (m := Id) accepts anchor now statements).isValid = true ↔
              latest ≤ now ∧ now < earliest) ∧
            ((verify (m := Id) accepts anchor now statements).isValid = false →
              ∃ j t s, IsLeast {k | OutOfForce statements now k} j ∧ Holds statements j t s ∧
                (verify (m := Id) accepts anchor now statements).error =
                  some ("Statement at position " ++ toString j ++
                    if now < s.core.issuedAt then " has invalid iat" else " has expired")) := by
  obtain ⟨es, hne, hreads, hverdict⟩ := verify_of_accepted accepted
  obtain ⟨latest, earliest, hlatest, hearliest, hwindow⟩ := exists_window hne hreads
  refine ⟨latest, earliest, hlatest, hearliest, fun now => ?_⟩
  rw [← hwindow now, ← checkWindows_eq_ok 0, hverdict now]
  cases hcheck : checkWindows now 0 es with
  | ok _ =>
      refine ⟨iff_of_true rfl rfl, fun h => ?_⟩
      cases h
  | error r =>
      refine ⟨iff_of_false Bool.false_ne_true (by simp), fun _ => ?_⟩
      obtain ⟨passed, e, after, rfl, hpassed, hfails⟩ := exists_of_checkWindows hcheck
      obtain ⟨hout, hmessage⟩ := checkWindow_eq_error hfails
      obtain ⟨hholds, hleast⟩ := isLeast_outOfForce hreads hpassed hout
      refine ⟨passed.length, e.token, e.statement, hleast, hholds, ?_⟩
      rw [Nat.zero_add] at hmessage
      exact congrArg some hmessage

namespace Sample

open Discovery.Sample

/-- Claims with one key, which all entities share. -/
def timed (issuer subject : String) (issuedAt expiresAt : Int) : List Json.Member :=
  [("exp", .integer expiresAt), ("iat", .integer issuedAt), ("iss", .string issuer),
    ("jwks", .object [("keys", .array [.object
      [("k", .string ""), ("kid", .string "k"), ("kty", .string "oct")]])]),
    ("sub", .string subject)]

def core (issuer subject : String) (issuedAt expiresAt : Int) : StatementCore :=
  ⟨issuer, subject, issuedAt, expiresAt, keys ""⟩

/-- The configuration of an entity. -/
def own (payload id : String) (issuedAt expiresAt : Int) : Entry :=
  ⟨⟨token payload, header, timed id id issuedAt expiresAt⟩,
    .configuration ⟨core id id issuedAt expiresAt, [], .empty, [], [], [], []⟩⟩

/-- The statement of an entity about another. -/
def about (payload issuer subject : String) (issuedAt expiresAt : Int) : Entry :=
  ⟨⟨token payload, header, timed issuer subject issuedAt expiresAt⟩,
    .subordinate ⟨core issuer subject issuedAt expiresAt, none, none, none, none, []⟩⟩

def leaf : Entry :=
  own ("eyJleHAiOjksImlhdCI6MSwiaXNzIjoiczoiLCJqd2tzIjp7ImtleXMiOlt7ImsiOiIiLCJraWQiOiJrIiwia3R5Ij" ++
    "oib2N0In1dfSwic3ViIjoiczoifQ") "s:" 1 9

def vouching : Entry :=
  about ("eyJleHAiOjcsImlhdCI6MywiaXNzIjoidDoiLCJqd2tzIjp7ImtleXMiOlt7ImsiOiIiLCJraWQiOiJrIiwia3R5Ij" ++
    "oib2N0In1dfSwic3ViIjoiczoifQ") "t:" "s:" 3 7

def top : Entry :=
  own ("eyJleHAiOjgsImlhdCI6MiwiaXNzIjoidDoiLCJqd2tzIjp7ImtleXMiOlt7ImsiOiIiLCJraWQiOiJrIiwia3R5Ij" ++
    "oib2N0In1dfSwic3ViIjoidDoifQ") "t:" 2 8

theorem leaf_reads : Reads leaf.token.raw leaf :=
  ⟨decode_token (by decide +kernel) (by decide +kernel), rfl, rfl⟩

theorem vouching_reads : Reads vouching.token.raw vouching :=
  ⟨decode_token (by decide +kernel) (by decide +kernel), rfl, rfl⟩

theorem top_reads : Reads top.token.raw top :=
  ⟨decode_token (by decide +kernel) (by decide +kernel), rfl, rfl⟩

/-- Three windows that have the instants 3 to 6 in common. -/
def texts : List String :=
  [leaf.token.raw, vouching.token.raw, top.token.raw]

theorem texts_read : List.Forall₂ Reads texts [leaf, vouching, top] :=
  .cons leaf_reads (.cons vouching_reads (.cons top_reads .nil))

theorem accepted : (verify (m := Id) signs (some "t:") 5 texts).isValid = true := by
  refine verify_isValid_iff.mpr ⟨by decide, [leaf, vouching, top], texts_read, ?_⟩
  refine ⟨by decide, ?_, ?_, ?_⟩
  · intro e he
    cases he
    exact ⟨rfl, rfl⟩
  · exact .cons_cons ⟨rfl, rfl⟩ (.cons_cons ⟨rfl, rfl⟩ (.singleton _))
  · intro e he
    cases he
    exact ⟨by rintro _ ⟨⟩; rfl, rfl⟩

theorem isGreatest_issues : IsGreatest (issues texts) 3 := by
  rw [issues_eq texts_read]
  exact ⟨by decide, by simp [upperBounds, leaf, vouching, top, own, about, Statement.core, core]⟩

theorem isLeast_expiries : IsLeast (expiries texts) 7 := by
  rw [expiries_eq texts_read]
  exact ⟨by decide, by simp [lowerBounds, leaf, vouching, top, own, about, Statement.core, core]⟩

end Sample

/-- Statements with the windows 1 to 9, 3 to 7 and 2 to 8. -/
theorem verify_iff_window_sample :
    (verify (m := Id) Discovery.Sample.signs (some "t:") 5 Sample.texts).isValid = true ∧
      ∀ now, (verify (m := Id) Discovery.Sample.signs (some "t:") now Sample.texts).isValid = true ↔
        3 ≤ now ∧ now < 7 := by
  refine ⟨Sample.accepted, fun now => ?_⟩
  obtain ⟨latest, earliest, hlatest, hearliest, hverdict⟩ := verify_iff_window Sample.accepted
  obtain rfl := hlatest.unique Sample.isGreatest_issues
  obtain rfl := hearliest.unique Sample.isLeast_expiries
  exact (hverdict now).1

end TrustChain
end EntityTrust
