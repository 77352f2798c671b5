import EntityTrust.Proofs.Json.Records
import EntityTrust.Proofs.Service.MarkEndpoint
import EntityTrust.Proofs.Service.Query

/-!
# Reports that are read from replies

A verdict and a resolution are written as objects of all their parts, an absent part as `null`.
Whoever reads the body of a reply has the report itself.

**Results.**
* `Verdict.returns`, `Resolution.returns`: a report is written in normal form and is read again.
* `Service.Judged.report` and `Service.Chained.report`: what is read from the body of a reply that
  blames nobody is the verdict on the mark, or what the search comes to.
-/

namespace EntityTrust

open Json Record

/-- A verdict is read again, whatever its type is called. -/
theorem Verdict.returns (type : String) (v : Verdict) : Returns (ofJson type) toJson v where
  normal := by
    refine normal_object.mpr ⟨?_, List.forall_mem_cons.mpr ⟨?_, by simp⟩⟩
    · change ["error", "isValid"].Pairwise (· < ·)
      decide
    · exact (Returns.optional returns_text nofun v.error).normal
  again := by
    obtain ⟨b, _ | e⟩ := v <;> rfl

theorem TrustChain.returns (c : TrustChain) : Returns ofJson toJson c where
  normal := (Returns.list returns_text c.statements).normal
  again := Outcome.map_eq_ok.mpr ⟨c.statements, (Returns.list returns_text c.statements).again, rfl⟩

namespace Resolution

/-- The fields of a resolution; none of them is left out. -/
def fields (r : Resolution) : Fields :=
  [("error", some (.bool r.failed)), ("errorMessage", some (r.message.elim .null .string)),
    ("trustChain", some (r.chain.elim .null TrustChain.toJson))]

theorem toJson_eq (r : Resolution) :
    r.toJson = .object (Json.ofMembers (fieldMembers r.fields ++ [])) := by
  have hsorted : Sorted (fieldMembers r.fields ++ []) := by
    refine sorted_iff_namesOf.mpr ?_
    change ["error", "errorMessage", "trustChain"].Pairwise (· < ·)
    decide
  rw [hsorted.ofMembers_eq]
  rfl

/-- A resolution is read again. -/
theorem returns (r : Resolution) : Returns ofJson toJson r := by
  obtain ⟨chain, failed, message⟩ := r
  have kchain : Kept (Json.optional TrustChain.ofJson) (some none) _ chain :=
    .of_returns (.optional TrustChain.returns nofun chain)
  have kfailed : Kept asBool none (some (.bool failed)) failed := .of_returns ⟨.bool _, rfl⟩
  have kmessage : Kept (Json.optional asText) (some none) _ message :=
    .of_returns (.optional returns_text nofun message)
  have hkeeps : Keeps (Resolution.mk <$> nullable "trustChain" TrustChain.ofJson <*>
      required "error" asBool <*> nullable "errorMessage" asText)
      (fields ⟨chain, failed, message⟩) [] ⟨chain, failed, message⟩ := by
    refine ⟨by simp [fields], nofun, ?_, .nil, nofun, nofun, fun t => ?_⟩
    · simp only [fields, List.forall_mem_cons]
      exact ⟨kfailed.normal, kmessage.normal, kchain.normal, nofun⟩
    · refine ofMembers_seq ?_ (kmessage.ofTable t (by simp [fields]))
      refine ofMembers_seq ?_ (kfailed.ofTable t (by simp [fields]))
      exact ofMembers_map (kchain.ofTable t (by simp [fields]))
  exact hkeeps.returns (toJson_eq _) fun _ => rfl

end Resolution

namespace Service

open Discovery

/-- The value that a reply carries. -/
def Reply.value? (r : Reply) : Option Json :=
  match r.body with
  | .json v => some v
  | _ => none

/-- What is read from a reply that blames nobody is the verdict on the mark. -/
theorem Judged.report {w : World} {p : MarkPayload} {now : Int} {past past' : Past} {reply : Reply}
    (h : Judged w p now past reply past') (type : String) (unblamed : reply.status ≠ 400)
    (served : reply.status ≠ 502) :
    ∃ url text v verdict, Establishes w p.trustAnchor now text v ∧
      (TrustMark.validate w.federation v.configuration now p.trustMark).run
        (past ++ [⟨url, .ok text⟩]) = (verdict, past') ∧
      reply.value?.map (Verdict.ofJson type) = some (.ok verdict) := by
  obtain ⟨url, text, v, verdict, -, -, established, hjudged, rfl⟩ := h.otherwise unblamed served
  exact ⟨url, text, v, verdict, established, hjudged, congrArg some (verdict.returns type).again⟩

/-- What is read from a reply that blames nobody is what the search comes to. -/
theorem Chained.report {σ : Type} {s : Service (StateM σ)} {pairs : List (String × String)}
    {state state' : σ} {reply : Reply} (h : Chained s pairs state reply state')
    (unblamed : reply.status ≠ 400) :
    ∃ q resolution, Query.Answers pairs (.ok q) ∧
      (resolve s.federation s.settings.resolver q.subject
        (if q.trustAnchors = [] then s.settings.trustAnchors else q.trustAnchors)
          q.maxDepth).run state = (resolution, state') ∧
      reply.value?.map Resolution.ofJson = some (.ok resolution) := by
  obtain ⟨q, resolution, answers, hresolved, rfl⟩ := h.resolved unblamed
  exact ⟨q, resolution, answers, hresolved, congrArg some resolution.returns.again⟩

end Service
end EntityTrust
