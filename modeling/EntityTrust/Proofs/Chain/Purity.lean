import EntityTrust.Chain.Verification
import EntityTrust.Proofs.Outcome

/-!
# Verification by a predicate

A verifier answers in a monad of the caller's choice.  When its answers are those of a predicate,
the verdict on a chain is the same one in every monad.

**Results.**
* `Agrees.bind`: steps in a row come to what the plain ones come to.
* `verify_ofPredicate`: verification has no effect, and its verdict is the plain one.
-/

namespace EntityTrust
namespace TrustChain

section Agrees

variable {m : Type → Type} [Monad m] {ε α β : Type}

/-- Steps in a monad that have no effect and come to what plain steps come to. -/
def Agrees (x : ExceptT ε m α) (x' : ExceptT ε Id α) : Prop :=
  x.run = pure (Outcome.of x')

theorem agrees_pure (a : α) : Agrees (pure a : ExceptT ε m α) (pure a) :=
  rfl

theorem agrees_throw (e : ε) : Agrees (throw e : ExceptT ε m α) (throw e) :=
  rfl

theorem Agrees.bind [LawfulMonad m] {x : ExceptT ε m α} {x' : ExceptT ε Id α}
    {next : α → ExceptT ε m β} {next' : α → ExceptT ε Id β} (h : Agrees x x')
    (hnext : ∀ a, Agrees (next a) (next' a)) : Agrees (x >>= next) (x' >>= next') := by
  unfold Agrees at h ⊢
  rw [ExceptT.run_bind, h, pure_bind, Outcome.of_bind]
  cases Outcome.of x' with
  | error e => rfl
  | ok a => exact hnext a

/-- A condition before steps. -/
theorem Agrees.guard [LawfulMonad m] {p : Prop} [Decidable p] {x : ExceptT ε m β}
    {x' : ExceptT ε Id β} {e : ε} {next : α → ExceptT ε m β} {next' : α → ExceptT ε Id β}
    (h : Agrees x x') :
    Agrees (if p then x else throw e >>= next) (if p then x' else throw e >>= next') := by
  by_cases hp : p
  · simp only [hp, if_true]
    exact h
  · simp only [hp, if_false]
    unfold Agrees
    rw [ExceptT.run_bind, agrees_throw, pure_bind]
    rfl

end Agrees

section Verification

variable {m : Type → Type} [Monad m] (accepts : String → Jwk → Bool)

/-- The verifier that a predicate gives in a monad. -/
def ofPredicate : Verifier m :=
  fun raw k => pure (accepts raw k)

variable {accepts} {e next : Entry} {anchor : Option String} {now : Int} {position : Nat}

theorem agrees_plain {α : Type} (x : Except ChainRejection α) :
    Agrees (checkFrom.liftExcept x : ExceptT ChainRejection m α) (checkFrom.liftExcept x) :=
  rfl

theorem verifyWith_ofPredicate (t : Token) (keys : KeySet) :
    Signature.verifyWith (ofPredicate accepts : Verifier m) t keys =
      pure (Signature.verifyWith (m := Id) accepts t keys) := by
  unfold Signature.verifyWith
  cases t.keyId with
  | none => rfl
  | some id => cases h : keys.find? id <;> simp only [h] <;> rfl

variable [LawfulMonad m]

theorem agrees_demandSignature (t : Token) (keys : KeySet) (r : ChainRejection) :
    Agrees (demandSignature (ofPredicate accepts : Verifier m) t keys r)
      (demandSignature (m := Id) accepts t keys r) := by
  unfold Agrees demandSignature
  rw [verifyWith_ofPredicate, ExceptT.run_mk, pure_bind]
  rfl

theorem agrees_checkSubject :
    Agrees (checkSubject (ofPredicate accepts : Verifier m) e)
      (checkSubject (m := Id) accepts e) :=
  (agrees_demandSignature _ _ _).guard

theorem agrees_checkLink :
    Agrees (checkLink (ofPredicate accepts : Verifier m) position e next)
      (checkLink (m := Id) accepts position e next) :=
  (agrees_demandSignature _ _ _).guard

theorem agrees_checkAnchor :
    Agrees (checkAnchor (ofPredicate accepts : Verifier m) anchor e)
      (checkAnchor (m := Id) accepts anchor e) := by
  cases anchor with
  | none => exact agrees_demandSignature _ _ _
  | some a => exact (agrees_demandSignature _ _ _).guard

theorem agrees_checkFrom (statements : List String) :
    Agrees (checkFrom (ofPredicate accepts : Verifier m) anchor now position statements)
      (checkFrom (m := Id) accepts anchor now position statements) := by
  induction statements generalizing position with
  | nil => exact agrees_pure _
  | cons raw rest ih =>
      unfold checkFrom
      refine (agrees_plain _).bind fun e => (agrees_plain _).bind fun _ => ?_
      cases rest with
      | nil =>
          by_cases h : position = 0
          · simp only [h, if_true]
            exact agrees_checkSubject.bind fun _ => agrees_checkAnchor
          · simp only [h, if_false]
            exact agrees_checkAnchor
      | cons above more =>
          by_cases h : position = 0
          · simp only [h, if_true]
            exact agrees_checkSubject.bind fun _ => (agrees_plain _).bind fun _ =>
              agrees_checkLink.bind fun _ => ih
          · simp only [h, if_false]
            exact (agrees_plain _).bind fun _ => agrees_checkLink.bind fun _ => ih

/-- The verdict on a chain has no effect and is the plain one. -/
theorem verify_ofPredicate (statements : List String) :
    verify (ofPredicate accepts : Verifier m) anchor now statements =
      pure (verify (m := Id) accepts anchor now statements) := by
  have hall : Agrees (checkAll (ofPredicate accepts : Verifier m) anchor now statements)
      (checkAll (m := Id) accepts anchor now statements) := by
    unfold checkAll
    by_cases h : statements.length < minLength
    · simp only [h, if_true]
      exact agrees_throw _
    · simp only [h, if_false]
      exact agrees_checkFrom statements
  unfold Agrees at hall
  generalize houtcome : Outcome.of (checkAll (m := Id) accepts anchor now statements) = x at hall
  have hplain : (checkAll (m := Id) accepts anchor now statements).run = pure x := houtcome
  simp only [verify, hall, hplain, pure_bind]
  cases x <;> rfl

end Verification
end TrustChain
end EntityTrust
