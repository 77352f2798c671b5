import EntityTrust.Discovery.Search

/-!
# Searches step by step

What is true of every single step of a search is true of the whole search.

A search is put together from few steps: a request, a question to the verifier, the mark of a
configuration URL, and answers that need no step.  `Pairing` says that a relation between the steps
in one federation and those in another one holds of these and goes from steps to the steps that
follow them.  Then it holds of the hops, the climbs and the searches of both federations
(`Pairing.search`, `Pairing.searchFrom`).  A property of the steps in one federation is the relation
that ignores the second one.
-/

namespace EntityTrust
namespace Discovery

variable {m m' : Type → Type} [Monad m] [Monad m'] {f : Federation m} {f' : Federation m'}
  {R : (α : Type) → Search m α → Search m' α → Prop}

/-- A relation holds of the single steps of searches in two federations and of steps in a row. -/
structure Pairing (f : Federation m) (f' : Federation m')
    (R : (α : Type) → Search m α → Search m' α → Prop) : Prop where
  pure : ∀ {α : Type} (a : α), R α (Pure.pure a) (Pure.pure a)
  bind : ∀ {α β : Type} {x : Search m α} {x' : Search m' α} {next : α → Search m β}
    {next' : α → Search m' β}, R α x x' → (∀ a, R β (next a) (next' a)) →
      R β (x >>= next) (x' >>= next')
  request : ∀ url, R String (request f url) (request f' url)
  ask : ∀ t keys, R Bool (ask f t keys) (ask f' t keys)
  visit : ∀ url, R Bool (visit url) (visit url)

namespace Pairing

theorem selfVerified (h : Pairing f f' R) (raw : String) :
    R _ (selfVerified f raw) (selfVerified f' raw) := by
  unfold Discovery.selfVerified
  split
  · exact h.pure _
  · refine h.bind (h.ask _ _) fun accepted => ?_
    cases accepted with
    | true => exact h.pure _
    | false => exact h.pure _

theorem verifiedSubordinate (h : Pairing f f' R) (raw : String) (a : EntityConfiguration)
    (subject keyId : String) :
    R _ (verifiedSubordinate f raw a subject keyId)
      (verifiedSubordinate f' raw a subject keyId) := by
  unfold Discovery.verifiedSubordinate
  split
  · exact h.pure _
  · refine h.bind (h.ask _ _) fun accepted => ?_
    cases accepted with
    | true => exact h.pure _
    | false => exact h.pure _

theorem authorityOf (h : Pairing f f' R) (hint : String) :
    R _ (authorityOf f hint) (authorityOf f' hint) := by
  unfold Discovery.authorityOf
  split
  · exact h.pure _
  · refine h.bind (h.visit _) fun fresh => ?_
    cases fresh with
    | false => exact h.pure _
    | true =>
        refine h.bind (h.request _) fun raw => h.bind (h.selfVerified raw) fun o => ?_
        cases o with
        | none => exact h.pure _
        | some v =>
            simp only
            split
            · exact h.pure _
            · exact h.pure _

theorem attestation (h : Pairing f f' R) (a : EntityConfiguration) (subject keyId : String) :
    R _ (attestation f a subject keyId) (attestation f' a subject keyId) := by
  unfold Discovery.attestation
  split
  · exact h.pure _
  · refine h.bind (h.request _) fun raw => h.bind (h.verifiedSubordinate raw _ _ _) fun o => ?_
    cases o with
    | none => exact h.pure _
    | some signer => exact h.pure _

section Climbing

variable {g : Goal} {climb : Climber → Search m (Option (List String))}
  {climb' : Climber → Search m' (Option (List String))} {c : Climber}

theorem follow (h : Pairing f f' R) (hclimb : ∀ c, R _ (climb c) (climb' c)) (hint : String) :
    R _ (follow f g climb c hint) (follow f' g climb' c hint) := by
  refine h.bind (h.authorityOf hint) fun arrival => ?_
  cases arrival with
  | none => exact h.pure _
  | some arrival =>
      refine h.bind (h.attestation _ _ _) fun statement => ?_
      cases statement with
      | none => exact h.pure _
      | some statement =>
          simp only
          split
          · exact h.pure _
          · exact hclimb _

theorem followAny (h : Pairing f f' R) (hclimb : ∀ c, R _ (climb c) (climb' c))
    (hints : List String) :
    R _ (followAny f g climb c hints) (followAny f' g climb' c hints) := by
  induction hints with
  | nil => exact h.pure _
  | cons hint hints ih =>
      refine h.bind (h.follow hclimb hint) fun o => ?_
      cases o with
      | none => exact ih
      | some found => exact h.pure _

end Climbing

/-- The relation holds of the climbs in both federations. -/
theorem search (h : Pairing f f' R) {g : Goal} (levels : Nat) (c : Climber) :
    R _ (search f g levels c) (search f' g levels c) := by
  induction levels generalizing c with
  | zero => exact h.pure _
  | succ levels ih => exact h.followAny ih _

/-- The relation holds of the searches in both federations. -/
theorem searchFrom (h : Pairing f f' R) {g : Goal} (levels : Nat) (raw : String) :
    R _ (searchFrom f g levels raw) (searchFrom f' g levels raw) := by
  refine h.bind (h.selfVerified raw) fun o => ?_
  cases o with
  | none => exact h.pure _
  | some v =>
      simp only
      split
      · exact h.pure _
      · exact h.search levels _

end Pairing
end Discovery
end EntityTrust
