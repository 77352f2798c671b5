import EntityTrust.Chain.Verification
import EntityTrust.Proofs.Outcome
import Mathlib.Data.List.Chain
import Mathlib.Data.List.Forall2

/-!
# The rules of verification

The verifier against a description of what it accepts, for checks that are a fixed predicate.

**Rules.**  Every statement reads as an entry.  `TrustChain.Passes` says of the entries: each window
holds the instant, the first is self-issued and verifies under its own keys, each entry below the
last names the next one's subject and verifies under its keys, and the last one is the anchor's and
verifies under its own keys.

**Results.**
* `TrustChain.verify_isValid_iff`: the verdict is valid exactly when the rules hold.
* `TrustChain.verify_isValid_iff_forall`: the same rules, statement by statement.
-/

namespace EntityTrust
namespace TrustChain

open Outcome

/-- A statement of a chain and the entry it reads as. -/
structure Reads (raw : String) (e : Entry) : Prop where
  decoded : Token.decode raw = .ok e.token
  complete : e.token.missing StatementCore.requiredClaims = []
  shaped : Statement.ofToken e.token = .ok e.statement

theorem entryAt_eq_ok {position : Nat} {raw : String} {e : Entry} :
    entryAt position raw = .ok e ↔ Reads raw e := by
  constructor
  · intro h
    unfold entryAt at h
    split at h
    · cases h
    · rename_i t ht
      split at h
      · rename_i hmissing
        split at h
        · rename_i s hs
          cases h
          exact ⟨ht, hmissing, hs⟩
        · cases h
      · cases h
  · rintro ⟨hdecoded, hcomplete, hshaped⟩
    simp [entryAt, hdecoded, hcomplete, hshaped]

theorem Reads.unique {raw : String} {e e' : Entry} (h : Reads raw e) (h' : Reads raw e') :
    e = e' := by
  obtain ⟨t, st⟩ := e
  obtain ⟨t', st'⟩ := e'
  obtain rfl : t = t' := Except.ok.inj (h.decoded.symm.trans h'.decoded)
  obtain rfl : st = st' := Except.ok.inj (h.shaped.symm.trans h'.shaped)
  rfl

theorem checkWindow_eq_ok {now : Int} {position : Nat} {c : StatementCore} :
    checkWindow now position c = .ok () ↔ c.issuedAt ≤ now ∧ now < c.expiresAt := by
  unfold checkWindow
  split
  · simp only [false_iff, not_and, reduceCtorEq]
    intro _
    omega
  · split
    · simp only [false_iff, not_and, reduceCtorEq]
      intro _
      omega
    · simp only [true_iff]
      omega

section Rules

variable (accepts : String → Jwk → Bool)

/-- Whether a token verifies under the key of a set that its header names. -/
def verifies (t : Token) (keys : KeySet) : Bool :=
  Signature.verifyWith (m := Id) accepts t keys

/-- The first entry is self-issued and verifies under its own keys. -/
def SubjectRule (e : Entry) : Prop :=
  e.statement.core.issuer = e.statement.core.subject ∧
    verifies accepts e.token e.statement.core.keys = true

/-- An entry was issued by the subject of the next one, with one of the keys named there. -/
def LinkRule (e next : Entry) : Prop :=
  e.statement.core.issuer = next.statement.core.subject ∧
    verifies accepts e.token next.statement.core.keys = true

/-- The last entry is the anchor's and verifies under its own keys. -/
def AnchorRule (anchor : Option String) (e : Entry) : Prop :=
  (∀ a, anchor = some a → e.statement.core.issuer = a) ∧
    verifies accepts e.token e.statement.core.keys = true

/-- What verification asks of the entries of a chain. -/
structure Passes (anchor : Option String) (now : Int) (es : List Entry) : Prop where
  windows : ∀ e ∈ es, e.statement.core.issuedAt ≤ now ∧ now < e.statement.core.expiresAt
  subject : ∀ e, es.head? = some e → SubjectRule accepts e
  links : es.IsChain (LinkRule accepts)
  anchored : ∀ e, es.getLast? = some e → AnchorRule accepts anchor e

variable {accepts}

theorem verifies_eq_true {t : Token} {keys : KeySet} :
    verifies accepts t keys = true ↔
      ∃ id k, t.keyId = some id ∧ keys.find? id = some k ∧ accepts t.raw k = true := by
  unfold verifies Signature.verifyWith
  cases hid : t.keyId with
  | none => simp [pure]
  | some id =>
      cases hk : keys.find? id with
      | none => simp [hk, pure]
      | some k => simp [hk]

theorem demandSignature_eq_ok {t : Token} {keys : KeySet} {r : ChainRejection} :
    of (demandSignature (m := Id) accepts t keys r) = .ok () ↔
      verifies accepts t keys = true := by
  show (if verifies accepts t keys then Except.ok () else Except.error r) = .ok () ↔ _
  split <;> simp_all

theorem checkSubject_eq_ok {e : Entry} :
    of (checkSubject (m := Id) accepts e) = .ok () ↔ SubjectRule accepts e := by
  unfold checkSubject SubjectRule StatementCore.selfIssued
  by_cases h : e.statement.core.issuer = e.statement.core.subject
  · simp [h, demandSignature_eq_ok]
  · simp [h]

theorem checkLink_eq_ok {position : Nat} {e next : Entry} :
    of (checkLink (m := Id) accepts position e next) = .ok () ↔ LinkRule accepts e next := by
  unfold checkLink LinkRule
  by_cases h : e.statement.core.issuer = next.statement.core.subject
  · simp [h, demandSignature_eq_ok]
  · simp [h]

theorem checkAnchor_eq_ok {anchor : Option String} {e : Entry} :
    of (checkAnchor (m := Id) accepts anchor e) = .ok () ↔ AnchorRule accepts anchor e := by
  unfold checkAnchor AnchorRule
  cases anchor with
  | none => simp [demandSignature_eq_ok]
  | some a =>
      by_cases h : e.statement.core.issuer = a
      · simp [h, demandSignature_eq_ok]
      · simp [h]

theorem of_liftExcept {α : Type} (x : Except ChainRejection α) :
    of (checkFrom.liftExcept (m := Id) x) = x :=
  rfl

theorem liftExcept_eq_ok {α : Type} {x : Except ChainRejection α} {a : α} :
    of (checkFrom.liftExcept (m := Id) x) = .ok a ↔ x = .ok a :=
  Iff.rfl

theorem checkFrom_singleton_eq_ok {anchor : Option String} {now : Int} {position : Nat}
    {raw : String} :
    of (checkFrom (m := Id) accepts anchor now position [raw]) = .ok () ↔
      ∃ e, Reads raw e ∧
        (e.statement.core.issuedAt ≤ now ∧ now < e.statement.core.expiresAt) ∧
        (position = 0 → SubjectRule accepts e) ∧ AnchorRule accepts anchor e := by
  simp only [checkFrom, of_bind_eq_ok, liftExcept_eq_ok, entryAt_eq_ok]
  by_cases hp : position = 0
  · simp [hp, of_bind_eq_ok, Unique.exists_iff, checkWindow_eq_ok, checkSubject_eq_ok,
      checkAnchor_eq_ok]
  · simp [hp, Unique.exists_iff, checkWindow_eq_ok, checkAnchor_eq_ok]

theorem checkFrom_cons_cons_eq_ok {anchor : Option String} {now : Int} {position : Nat}
    {raw above : String} {more : List String} :
    of (checkFrom (m := Id) accepts anchor now position (raw :: above :: more)) = .ok () ↔
      ∃ e, Reads raw e ∧
        (e.statement.core.issuedAt ≤ now ∧ now < e.statement.core.expiresAt) ∧
        (position = 0 → SubjectRule accepts e) ∧
        ∃ next, Reads above next ∧ LinkRule accepts e next ∧
          of (checkFrom (m := Id) accepts anchor now (position + 1) (above :: more)) = .ok () := by
  rw [checkFrom]
  simp only [of_bind_eq_ok, liftExcept_eq_ok, entryAt_eq_ok]
  by_cases hp : position = 0
  · simp [hp, of_bind_eq_ok, liftExcept_eq_ok, entryAt_eq_ok, Unique.exists_iff,
      checkWindow_eq_ok, checkSubject_eq_ok, checkLink_eq_ok]
  · simp [hp, of_bind_eq_ok, liftExcept_eq_ok, entryAt_eq_ok, Unique.exists_iff,
      checkWindow_eq_ok, checkLink_eq_ok]

/-- The examination from a position on, by the entries that the statements read as. -/
theorem checkFrom_eq_ok {anchor : Option String} {now : Int} :
    ∀ (statements : List String) (position : Nat),
      of (checkFrom (m := Id) accepts anchor now position statements) = .ok () ↔
        ∃ es, List.Forall₂ Reads statements es ∧
          (∀ e ∈ es, e.statement.core.issuedAt ≤ now ∧ now < e.statement.core.expiresAt) ∧
          (position = 0 → ∀ e, es.head? = some e → SubjectRule accepts e) ∧
          es.IsChain (LinkRule accepts) ∧
          ∀ e, es.getLast? = some e → AnchorRule accepts anchor e
  | [], position => by
      constructor
      · intro _
        exact ⟨[], by simp⟩
      · intro _
        rfl
  | [raw], position => by
      rw [checkFrom_singleton_eq_ok]
      constructor
      · rintro ⟨e, hreads, hwindow, hsubject, hanchor⟩
        refine ⟨[e], by simpa using hreads, by simpa using hwindow, ?_, by simp, ?_⟩
        · intro hp e' he'
          cases he'
          exact hsubject hp
        · intro e' he'
          cases he'
          exact hanchor
      · rintro ⟨es, hreads, hwindow, hsubject, -, hanchor⟩
        obtain ⟨e, hread, rfl⟩ : ∃ e, Reads raw e ∧ es = [e] := by
          cases hreads with
          | cons hread hnil =>
              cases hnil
              exact ⟨_, hread, rfl⟩
        exact ⟨e, hread, hwindow e (by simp), fun hp => hsubject hp e rfl, hanchor e rfl⟩
  | raw :: above :: more, position => by
      rw [checkFrom_cons_cons_eq_ok]
      constructor
      · rintro ⟨e, hread, hwindow, hsubject, next, hnext, hlink, hrest⟩
        obtain ⟨es, hreads, hwindows, -, hlinks, hanchor⟩ :=
          (checkFrom_eq_ok (above :: more) (position + 1)).mp hrest
        cases hreads with
        | @cons _ next' _ es' hnext' hmore =>
            obtain rfl := hnext.unique hnext'
            refine ⟨e :: next :: es', .cons hread (.cons hnext hmore), ?_, ?_, ?_, ?_⟩
            · intro e' he'
              rcases List.mem_cons.mp he' with rfl | he'
              · exact hwindow
              · exact hwindows e' he'
            · intro hp e' he'
              cases he'
              exact hsubject hp
            · exact .cons_cons hlink hlinks
            · intro e' he'
              rw [List.getLast?_cons_cons] at he'
              exact hanchor e' he'
      · rintro ⟨es, hreads, hwindows, hsubject, hlinks, hanchor⟩
        cases hreads with
        | @cons _ e _ es' hread hmore =>
            cases hmore with
            | @cons _ next _ es'' hnext hmore' =>
                rw [List.isChain_cons_cons] at hlinks
                refine ⟨e, hread, hwindows e (by simp), fun hp => hsubject hp e rfl, next, hnext,
                  hlinks.1, ?_⟩
                rw [checkFrom_eq_ok (above :: more) (position + 1)]
                refine ⟨next :: es'', .cons hnext hmore', ?_, by omega, hlinks.2, ?_⟩
                · intro e' he'
                  exact hwindows e' (List.mem_cons_of_mem _ he')
                · intro e' he'
                  exact hanchor e' (by rw [List.getLast?_cons_cons]; exact he')

/-- The verdict on a chain is valid exactly when it is long enough and the rules hold. -/
theorem verify_isValid_iff {anchor : Option String} {now : Int} {statements : List String} :
    (verify (m := Id) accepts anchor now statements).isValid = true ↔
      minLength ≤ statements.length ∧
        ∃ es, List.Forall₂ Reads statements es ∧ Passes accepts anchor now es := by
  have hverdict : (verify (m := Id) accepts anchor now statements).isValid = true ↔
      of (checkAll (m := Id) accepts anchor now statements) = .ok () := by
    generalize hrun : of (checkAll (m := Id) accepts anchor now statements) = outcome
    unfold of at hrun
    unfold verify
    rw [hrun]
    cases outcome with
    | error r => exact iff_of_false Bool.false_ne_true (by simp)
    | ok u => exact iff_of_true rfl rfl
  rw [hverdict]
  unfold checkAll
  by_cases hlen : statements.length < minLength
  · simp only [hlen, if_true, of_throw, reduceCtorEq, false_iff, not_and]
    omega
  · rw [if_neg hlen, checkFrom_eq_ok]
    constructor
    · rintro ⟨es, hreads, hwindows, hsubject, hlinks, hanchor⟩
      exact ⟨by omega, es, hreads, hwindows, hsubject rfl, hlinks, hanchor⟩
    · rintro ⟨-, es, hreads, hpasses⟩
      exact ⟨es, hreads, hpasses.windows, fun _ => hpasses.subject, hpasses.links,
        hpasses.anchored⟩

theorem exists_reads : ∀ statements : List String,
    (∀ raw ∈ statements, ∃ e, Reads raw e) → ∃ es, List.Forall₂ Reads statements es
  | [], _ => ⟨[], .nil⟩
  | raw :: rest, h => by
      obtain ⟨e, he⟩ := h raw List.mem_cons_self
      obtain ⟨es, hes⟩ := exists_reads rest fun r hr => h r (List.mem_cons_of_mem _ hr)
      exact ⟨e :: es, .cons he hes⟩

theorem forall_mem_iff_of_reads {P : Entry → Prop} {statements : List String} {es : List Entry}
    (h : List.Forall₂ Reads statements es) :
    (∀ e ∈ es, P e) ↔ ∀ raw ∈ statements, ∃ e, Reads raw e ∧ P e := by
  induction h with
  | nil => simp
  | cons hread _ ih =>
      rw [List.forall_mem_cons, List.forall_mem_cons, ih]
      refine and_congr_left fun _ => ⟨fun hp => ⟨_, hread, hp⟩, ?_⟩
      rintro ⟨e', hread', hp⟩
      exact hread.unique hread' ▸ hp

theorem isChain_iff_of_reads {P : Entry → Entry → Prop} {statements : List String}
    {es : List Entry} (h : List.Forall₂ Reads statements es) :
    es.IsChain P ↔
      statements.IsChain fun raw above => ∀ e next, Reads raw e → Reads above next → P e next := by
  induction h with
  | nil => simp
  | @cons raw e rest es hread hrest ih =>
      cases hrest with
      | nil => simp
      | cons hnext hmore =>
          rw [List.isChain_cons_cons, List.isChain_cons_cons, ih]
          refine and_congr_left fun _ => ⟨?_, fun hp => hp _ _ hread hnext⟩
          intro hp e' next' hread' hnext'
          exact hread.unique hread' ▸ hnext.unique hnext' ▸ hp

theorem head_of_reads {statements : List String} {es : List Entry}
    (h : List.Forall₂ Reads statements es) {P : Entry → Prop} :
    (∀ e, es.head? = some e → P e) ↔
      ∀ raw e, statements.head? = some raw → Reads raw e → P e := by
  cases h with
  | nil => simp
  | @cons raw e _ _ hread _ =>
      simp only [List.head?_cons, Option.some.injEq, forall_eq']
      constructor
      · rintro hp raw' e' rfl hread'
        exact hread.unique hread' ▸ hp
      · intro hp
        exact hp raw e rfl hread

theorem getLast_of_reads {statements : List String} {es : List Entry}
    (h : List.Forall₂ Reads statements es) {P : Entry → Prop} :
    (∀ e, es.getLast? = some e → P e) ↔
      ∀ raw e, statements.getLast? = some raw → Reads raw e → P e := by
  have := head_of_reads (List.rel_reverse h) (P := P)
  simpa only [List.head?_reverse] using this

/-- The verdict on a chain whose statements read, statement by statement. -/
theorem verify_isValid_iff_forall {anchor : Option String} {now : Int} {statements : List String} :
    (verify (m := Id) accepts anchor now statements).isValid = true ↔
      minLength ≤ statements.length ∧
        (∀ raw ∈ statements, ∃ e, Reads raw e ∧
          e.statement.core.issuedAt ≤ now ∧ now < e.statement.core.expiresAt) ∧
        (∀ raw e, statements.head? = some raw → Reads raw e → SubjectRule accepts e) ∧
        (statements.IsChain fun raw above =>
          ∀ e next, Reads raw e → Reads above next → LinkRule accepts e next) ∧
        ∀ raw e, statements.getLast? = some raw → Reads raw e → AnchorRule accepts anchor e := by
  rw [verify_isValid_iff]
  refine and_congr_right fun _ => ?_
  constructor
  · rintro ⟨es, hreads, hpasses⟩
    exact ⟨(forall_mem_iff_of_reads hreads).mp hpasses.windows,
      (head_of_reads hreads).mp hpasses.subject, (isChain_iff_of_reads hreads).mp hpasses.links,
      (getLast_of_reads hreads).mp hpasses.anchored⟩
  · rintro ⟨hwindows, hsubject, hlinks, hanchored⟩
    obtain ⟨es, hreads⟩ := exists_reads statements fun raw hraw =>
      (hwindows raw hraw).imp fun _ h => h.1
    exact ⟨es, hreads, (forall_mem_iff_of_reads hreads).mpr hwindows,
      (head_of_reads hreads).mpr hsubject, (isChain_iff_of_reads hreads).mpr hlinks,
      (getLast_of_reads hreads).mpr hanchored⟩

end Rules
end TrustChain
end EntityTrust
