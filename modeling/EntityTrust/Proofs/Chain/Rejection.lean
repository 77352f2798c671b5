import EntityTrust.Proofs.Chain.Window

/-!
# Where a chain is rejected

The verifier takes the statements of a chain in order and looks one statement ahead.

**Examinations.**  `examine` is what it does with one statement: the rules for the statement alone,
and then those for it and the next one, or the anchor's where there is no next one.  A pass over a
chain is one examination after the other (`checkFrom_cons`).

**Rejections.**  `RejectedAt` says which examination is the first one that fails.  Below the last
position an examination knows nothing of the anchor and nothing of the statements after the next
one, so a rejection there depends on the beginning of the chain alone (`RejectedAt.of_append`).

**Results.**
* `verify_isValid_eq_false_iff`: the verdict on a chain of sufficient length is invalid exactly when
  some examination is the first one that fails, and its reason is the one that is given.
* `earlier_rejection_stands`: of two chains with a common beginning both are rejected for the same
  reason when one of them is rejected in it.
-/

namespace EntityTrust
namespace TrustChain

open Outcome

section Examination

variable {m : Type → Type} [Monad m] (check : Verifier m)

/-- Examines one statement of a chain with those above it. -/
def examine (anchor : Option String) (now : Int) (position : Nat) (raw : String)
    (above : List String) : ExceptT ChainRejection m Unit := do
  let e ← checkFrom.liftExcept (entryAt position raw)
  checkFrom.liftExcept (checkWindow now position e.statement.core)
  if position = 0 then checkSubject check e
  match above with
  | [] => checkAnchor check anchor e
  | upper :: _ => do
      let next ← checkFrom.liftExcept (entryAt (position + 1) upper)
      checkLink check position e next

variable {check} {anchor : Option String} {now : Int} {position : Nat}

/-- A pass over a chain is one examination after the other. -/
theorem checkFrom_cons [LawfulMonad m] (raw : String) (above : List String) :
    checkFrom check anchor now position (raw :: above) = (do
      examine check anchor now position raw above
      checkFrom check anchor now (position + 1) above) := by
  unfold examine
  rw [checkFrom]
  simp only [bind_assoc]
  refine bind_congr fun e => bind_congr fun _ => ?_
  cases above with
  | nil => by_cases hp : position = 0 <;> simp [hp, checkFrom]
  | cons upper more => by_cases hp : position = 0 <;> simp [hp]

/-- Below the last position neither the anchor nor anything after the next statement counts. -/
theorem examine_cons (anchor' : Option String) (raw upper : String) (more more' : List String) :
    examine check anchor now position raw (upper :: more) =
      examine check anchor' now position raw (upper :: more') :=
  rfl

end Examination

section Rejection

variable (accepts : String → Jwk → Bool) (anchor : Option String) (now : Int)

/-- Of statements the first of which is at a position, the one at position `j` is the first whose
examination fails. -/
inductive RejectedAt : (position : Nat) → List String → (j : Nat) → ChainRejection → Prop
  | here {position : Nat} {raw : String} {above : List String} {r : ChainRejection}
      (fails : of (examine (m := Id) accepts anchor now position raw above) = .error r) :
      RejectedAt position (raw :: above) position r
  | later {position j : Nat} {raw : String} {above : List String} {r : ChainRejection}
      (passes : of (examine (m := Id) accepts anchor now position raw above) = .ok ())
      (rejected : RejectedAt (position + 1) above j r) : RejectedAt position (raw :: above) j r

variable {accepts anchor now} {position j : Nat} {r : ChainRejection} {statements : List String}

/-- What passing an examination below the last position consists of. -/
theorem examine_cons_eq_ok {raw upper : String} {more : List String} :
    of (examine (m := Id) accepts anchor now position raw (upper :: more)) = .ok () ↔
      ∃ e, Reads raw e ∧
        (e.statement.core.issuedAt ≤ now ∧ now < e.statement.core.expiresAt) ∧
        (position = 0 → SubjectRule accepts e) ∧
        ∃ next, Reads upper next ∧ LinkRule accepts e next := by
  simp only [examine, of_bind_eq_ok, liftExcept_eq_ok, entryAt_eq_ok]
  by_cases hp : position = 0
  · simp [hp, of_bind_eq_ok, liftExcept_eq_ok, entryAt_eq_ok, Unique.exists_iff,
      checkWindow_eq_ok, checkSubject_eq_ok, checkLink_eq_ok]
  · simp [hp, of_bind_eq_ok, liftExcept_eq_ok, entryAt_eq_ok, Unique.exists_iff,
      checkWindow_eq_ok, checkLink_eq_ok]

theorem examine_of_checkWindow {raw : String} {above : List String} {e : Entry}
    (hread : Reads raw e) (hwindow : checkWindow now position e.statement.core = .error r) :
    of (examine (m := Id) accepts anchor now position raw above) = .error r := by
  rw [examine, of_bind, of_liftExcept, entryAt_eq_ok.mpr hread, ok_bind, of_bind, of_liftExcept,
    hwindow]
  rfl

theorem RejectedAt.le (h : RejectedAt accepts anchor now position statements j r) :
    position ≤ j := by
  induction h with
  | here => exact Nat.le_refl _
  | later _ _ ih => exact Nat.le_of_succ_le ih

/-- A pass is rejected for the reason of the first examination that fails. -/
theorem checkFrom_eq_error (position : Nat) :
    of (checkFrom (m := Id) accepts anchor now position statements) = .error r ↔
      ∃ j, RejectedAt accepts anchor now position statements j r := by
  induction statements generalizing position with
  | nil =>
      refine iff_of_false (by simp [checkFrom]) ?_
      rintro ⟨j, ⟨⟩⟩
  | cons raw above ih =>
      rw [checkFrom_cons, of_bind]
      cases hfirst : of (examine (m := Id) accepts anchor now position raw above) with
      | error r' =>
          constructor
          · intro h
            cases h
            exact ⟨position, .here hfirst⟩
          · rintro ⟨j, h⟩
            cases h with
            | here fails => exact hfirst.symm.trans fails
            | later passes => cases hfirst.symm.trans passes
      | ok u =>
          rw [ok_bind, ih]
          constructor
          · rintro ⟨j, h⟩
            exact ⟨j, .later hfirst h⟩
          · rintro ⟨j, h⟩
            cases h with
            | here fails => cases hfirst.symm.trans fails
            | later _ rejected => exact ⟨j, rejected⟩

/-- A rejection below the last statement of a beginning stands whatever comes after it, and whatever
anchor is asked for. -/
theorem RejectedAt.of_append (anchor' : Option String) {front rest : List String}
    (rest' : List String) (h : RejectedAt accepts anchor now position (front ++ rest) j r)
    (below : j + 1 < position + front.length) :
    RejectedAt accepts anchor' now position (front ++ rest') j r := by
  induction front generalizing position with
  | nil =>
      have hle := h.le
      simp only [List.length_nil] at below
      omega
  | cons raw front ih =>
      cases front with
      | nil =>
          have hle := h.le
          simp only [List.length_cons, List.length_nil] at below
          omega
      | cons upper front =>
          cases h with
          | here fails =>
              exact .here ((congrArg of (examine_cons anchor' raw upper _ _)).symm.trans fails)
          | later passes rejected =>
              refine .later ((congrArg of (examine_cons anchor' raw upper _ _)).symm.trans passes) ?_
              refine ih rejected ?_
              simp only [List.length_cons] at below ⊢
              omega

theorem verify_of_rejectedAt (long : minLength ≤ statements.length)
    (h : RejectedAt accepts anchor now 0 statements j r) :
    verify (m := Id) accepts anchor now statements = .invalid r.message := by
  have hall : of (checkAll (m := Id) accepts anchor now statements) = .error r := by
    rw [checkAll, if_neg (Nat.not_lt.mpr long)]
    exact (checkFrom_eq_error 0).mpr ⟨j, h⟩
  unfold of at hall
  unfold verify
  rw [hall]
  rfl

/-- The verdict on a chain of sufficient length is invalid exactly when some examination fails. -/
theorem verify_isValid_eq_false_iff (long : minLength ≤ statements.length) :
    (verify (m := Id) accepts anchor now statements).isValid = false ↔
      ∃ j r, RejectedAt accepts anchor now 0 statements j r := by
  constructor
  · intro h
    cases hpass : of (checkFrom (m := Id) accepts anchor now 0 statements) with
    | error r =>
        obtain ⟨j, hj⟩ := (checkFrom_eq_error 0).mp hpass
        exact ⟨j, r, hj⟩
    | ok u =>
        have hvalid : (verify (m := Id) accepts anchor now statements).isValid = true := by
          obtain ⟨es, hreads, hwindows, hsubject, hlinks, hanchor⟩ :=
            (checkFrom_eq_ok statements 0).mp hpass
          exact verify_isValid_iff.mpr
            ⟨long, es, hreads, hwindows, hsubject rfl, hlinks, hanchor⟩
        rw [h] at hvalid
        cases hvalid
  · rintro ⟨j, r, h⟩
    rw [verify_of_rejectedAt long h]
    rfl

/-- Two chains of sufficient length that agree up to position `n`, at one instant and with any
anchors: when the first examination that fails for one of them is below position `n`, it is the
first one that fails for the other as well, and both are rejected for the same reason. -/
theorem earlier_rejection_stands {n : Nat} {statements' : List String} {anchor' : Option String}
    (long : max minLength (n + 1) ≤ statements.length)
    (long' : max minLength (n + 1) ≤ statements'.length)
    (agree : ∀ i ≤ n, statements[i]? = statements'[i]?) :
    ((verify (m := Id) accepts anchor now statements).isValid = false ↔
        ∃ j r, RejectedAt accepts anchor now 0 statements j r) ∧
      ∀ j r, j < n → RejectedAt accepts anchor now 0 statements j r →
        verify (m := Id) accepts anchor now statements = .invalid r.message ∧
          RejectedAt accepts anchor' now 0 statements' j r ∧
          verify (m := Id) accepts anchor' now statements' = .invalid r.message := by
  have hlong := le_trans (le_max_left _ _) long
  have hlong' := le_trans (le_max_left _ _) long'
  refine ⟨verify_isValid_eq_false_iff hlong, fun j r hj h => ?_⟩
  have hfront : statements.take (n + 1) = statements'.take (n + 1) := by
    refine List.ext_getElem? fun i => ?_
    by_cases hi : i < n + 1
    · rw [List.getElem?_take_of_lt hi, List.getElem?_take_of_lt hi, agree i (Nat.le_of_lt_succ hi)]
    · rw [List.getElem?_take_eq_none (Nat.le_of_not_lt hi),
        List.getElem?_take_eq_none (Nat.le_of_not_lt hi)]
  have hlength : (statements.take (n + 1)).length = n + 1 :=
    List.length_take_of_le (le_trans (le_max_right _ _) long)
  have h' : RejectedAt accepts anchor' now 0 statements' j r := by
    rw [← List.take_append_drop (n + 1) statements] at h
    rw [← List.take_append_drop (n + 1) statements', ← hfront]
    exact h.of_append anchor' _ (by omega)
  exact ⟨verify_of_rejectedAt hlong h, h', verify_of_rejectedAt hlong' h'⟩

end Rejection

namespace Sample

open Discovery.Sample

/-- The statement of `t:` about `s:` expires at 7, while the one below it is still in force. -/
theorem rejectedAt_vouching : RejectedAt signs (some "t:") 7 0 texts 1 (.expired 1) := by
  have hleaf : of (examine (m := Id) signs (some "t:") 7 0 leaf.token.raw
      [vouching.token.raw, top.token.raw]) = .ok () :=
    examine_cons_eq_ok.mpr
      ⟨leaf, leaf_reads, by decide, fun _ => ⟨rfl, rfl⟩, vouching, vouching_reads, rfl, rfl⟩
  exact .later hleaf (.here (examine_of_checkWindow vouching_reads rfl))

end Sample

/-- A fourth statement and the loss of the anchor change nothing about the expiry at position 1. -/
theorem earlier_rejection_stands_sample :
    RejectedAt Discovery.Sample.signs (some "t:") 7 0 Sample.texts 1 (.expired 1) ∧
      verify (m := Id) Discovery.Sample.signs none 7 (Sample.texts ++ ["garbage"]) =
        .invalid "Statement at position 1 has expired" := by
  have hagree : ∀ i ≤ 2, Sample.texts[i]? = (Sample.texts ++ ["garbage"])[i]? :=
    fun i hi => (List.getElem?_append_left (Nat.lt_succ_of_le hi)).symm
  exact ⟨Sample.rejectedAt_vouching, ((earlier_rejection_stands (by decide) (by decide) hagree).2 1
    (.expired 1) (by decide) Sample.rejectedAt_vouching).2.2⟩

end TrustChain
end EntityTrust
