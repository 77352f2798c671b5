import EntityTrust.Proofs.Json.Records
import EntityTrust.Statement.Metadata

/-!
# Written metadata

Metadata is read again as it was written, and so is the block about the federation in it.

**Other members.**  Both hold what they do not know in one list beside their named members.  Writing
puts these members back among the named ones, and reading takes the same ones out again.  So each of
them has the value that it had in what was read.

**Results.**
* `FederationMetadata.lossless`, `Metadata.lossless`: nothing that is read is lost.
* `Metadata.survives_toJson`: the members that have no meaning of their own stay as they are.
-/

namespace EntityTrust

open Json Record

/-- Two objects agree on all names but some. -/
inductive Json.AgreeBeside (names : List String) : Json → Json → Prop
  | object {ms ms' : List Member} (agree : ∀ name ∉ names, lookup name ms' = lookup name ms) :
      AgreeBeside names (.object ms) (.object ms')

namespace FederationMetadata

instance : Regular record := by
  unfold record
  infer_instance

/-- The fields of the block. -/
def fields (m : FederationMetadata) : Fields :=
  [("federation_fetch_endpoint", m.fetchEndpoint.map .string),
    ("federation_list_endpoint", m.listEndpoint.map .string),
    ("federation_resolve_endpoint", m.resolveEndpoint.map .string),
    ("organization_name", m.organizationName.map .string)]

theorem toJson_eq (m : FederationMetadata) :
    m.toJson = .object (Json.ofMembers (fieldMembers m.fields ++ m.others)) := by
  simp [toJson, fields, fieldMembers]

variable {v : Json} {m : FederationMetadata}

theorem keeps_of_gives {place : Nat} (h : Gives record v place m) :
    Keeps record m.fields m.others m ∧ ∃ p, Gives (Record.others names) v p m.others := by
  obtain ⟨_, others, h₄, hothers, rfl⟩ := h.seq
  obtain ⟨_, organizationName, h₃, horganizationName, rfl⟩ := h₄.seq
  obtain ⟨_, resolveEndpoint, h₂, hresolveEndpoint, rfl⟩ := h₃.seq
  obtain ⟨_, listEndpoint, h₁, hlistEndpoint, rfl⟩ := h₂.seq
  obtain ⟨fetchEndpoint, hfetchEndpoint, rfl⟩ := h₁.map
  have kfetch := hfetchEndpoint.nullable lossless_text nofun
  have klist := hlistEndpoint.nullable lossless_text nofun
  have kresolve := hresolveEndpoint.nullable lossless_text nofun
  have kname := horganizationName.nullable lossless_text nofun
  obtain ⟨sorted, normal, fresh⟩ := hothers.others
  refine ⟨⟨by simp [fields], nofun, ?_, sorted, normal, fresh, fun t => ?_⟩, _, hothers⟩
  · simp only [fields, List.forall_mem_cons]
    exact ⟨kfetch.normal, klist.normal, kresolve.normal, kname.normal, nofun⟩
  · refine ofMembers_seq ?_ (hothers.ofTable t rfl)
    refine ofMembers_seq ?_ (kname.ofTable t (by simp [fields]))
    refine ofMembers_seq ?_ (kresolve.ofTable t (by simp [fields]))
    refine ofMembers_seq ?_ (klist.ofTable t (by simp [fields]))
    exact ofMembers_map (kfetch.ofTable t (by simp [fields]))

theorem lossless : Lossless ofJson toJson := by
  intro v m hv hm
  exact (keeps_of_gives (gives_of_readObject hv hm)).1.returns m.toJson_eq fun _ => rfl

theorem agreeBeside_toJson (hv : v.Normal) (h : ofJson v = .ok m) :
    AgreeBeside names v m.toJson := by
  obtain ⟨hkeeps, _, hothers⟩ := keeps_of_gives (gives_of_readObject hv h)
  cases v with
  | object ms =>
      rw [toJson_eq]
      exact .object fun name hname => hkeeps.lookup_eq rfl hothers hname
  | _ => cases h

end FederationMetadata

namespace Metadata

instance : Regular record := by
  unfold record
  infer_instance

/-- The fields of metadata. -/
def fields (m : Metadata) : Fields :=
  [("federation_entity", m.federation.map FederationMetadata.toJson)]

theorem toJson_eq (m : Metadata) :
    m.toJson = .object (Json.ofMembers (fieldMembers m.fields ++ m.others)) := by
  simp [toJson, fields, fieldMembers]

variable {v : Json} {m : Metadata}

theorem keeps_of_gives {place : Nat} (h : Gives record v place m) :
    Keeps record m.fields m.others m := by
  obtain ⟨_, others, h₁, hothers, rfl⟩ := h.seq
  obtain ⟨federation, hfederation, rfl⟩ := h₁.map
  have kfederation := hfederation.nullable FederationMetadata.lossless nofun
  obtain ⟨sorted, normal, fresh⟩ := hothers.others
  refine ⟨List.nodup_singleton _, nofun, List.forall_mem_singleton.mpr kfederation.normal, sorted,
    normal, fresh, fun t => ?_⟩
  refine ofMembers_seq ?_ (hothers.ofTable t rfl)
  exact ofMembers_map (kfederation.ofTable t List.mem_cons_self)

theorem lossless : Lossless ofJson toJson := by
  intro v m hv hm
  exact (keeps_of_gives (gives_of_readObject hv hm)).returns m.toJson_eq fun _ => rfl

/-- Empty metadata is written and read again. -/
theorem returns_empty : Returns ofJson toJson .empty where
  normal := .object .nil nofun
  again := rfl

/-- All members without a meaning of their own are the same in two objects of metadata, and in the
blocks about the federation in them. -/
structure Survives (v w : Json) : Prop where
  others : AgreeBeside ["federation_entity"] v w
  block : ∀ b, memberAt "federation_entity" 0 v = some b → b ≠ .null →
    ∃ b', memberAt "federation_entity" 0 w = some b' ∧ AgreeBeside FederationMetadata.names b b'

theorem survives_toJson (hv : v.Normal) (h : ofJson v = .ok m) : Survives v m.toJson := by
  have hgives := gives_of_readObject hv h
  have hkeeps := keeps_of_gives hgives
  have ht := table_ofMembers hkeeps.nodup hkeeps.sorted hkeeps.fresh
  obtain ⟨_, others, h₁, hothers, rfl⟩ := hgives.seq
  obtain ⟨federation, hfederation, rfl⟩ := h₁.map
  cases v with
  | object ms =>
      rw [toJson_eq]
      refine ⟨.object fun name hname => hkeeps.lookup_eq rfl hothers hname, fun b hb hnull => ?_⟩
      obtain ⟨hnormal, hread⟩ := hfederation.memberAt hb
      rw [optional_of_ne_null hnull] at hread
      obtain ⟨block, hblock, rfl⟩ := Outcome.map_eq_ok.mp hread
      exact ⟨block.toJson, ht.named _ List.mem_cons_self,
        FederationMetadata.agreeBeside_toJson hnormal hblock⟩
  | _ => cases h

end Metadata
end EntityTrust
