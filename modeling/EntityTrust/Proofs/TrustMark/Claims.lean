import EntityTrust.Proofs.Statement.Claims
import EntityTrust.TrustMark.Validation

/-!
# Claims behind a trust mark

The typed reading of a mark against the claims of its token.  The identifier of a mark stands under
one of two names.

**Results.**
* `Json.Record.lookup_of_find?_alias`: a member with two names is the value of one of them.
* `Json.Record.lookup_of_check_alias`: it does not come under both names.
* `TrustMark.claims_of_read`: where issuer and identifier of a mark stand.
* `TrustMark.embeddedId_of_read`: the bare claims give the identifier that the mark is read with.
* `TrustMark.readMark_eq_ok`: what is asked of a token before it is read as a mark is asked by the
  reading itself.
-/

namespace EntityTrust

namespace Json.Record

variable {α : Type} {ms : List Member}

theorem ofMembers_member_eq_ok {name : String} {aliases : List String} {read : As α}
    {short : Option α} {a : α} :
    (member name aliases read none short).ofMembers ms = .ok a ↔
      ∃ v, find? ⟨name, aliases, fun v => (read v).map fun _ => ()⟩ ms = some v ∧
        read v = .ok a := by
  simp only [member]
  cases find? ⟨name, aliases, fun v => (read v).map fun _ => ()⟩ ms with
  | none => simp
  | some v => simp

/-- A member with two names is the value of one of them. -/
theorem lookup_of_find?_alias {name other : String} {check : As Unit} {v : Json} :
    ∀ ms : List Member, find? ⟨name, [other], check⟩ ms = some v →
      lookup name ms = some v ∨ lookup other ms = some v
  | [], h => by cases h
  | (k, u) :: rest, h => by
      by_cases hname : k = name
      · left
        simpa [find?, lookup_cons, Rule.covers, hname] using h
      · by_cases hother : k = other
        · right
          simpa [find?, lookup_cons, Rule.covers, hother] using h
        · have hcovers : Rule.covers ⟨name, [other], check⟩ k = false := by
            simp [Rule.covers, Ne.symm hname, hother]
          simp only [find?, hcovers] at h
          simp only [lookup_cons, hname, hother, if_false]
          exact lookup_of_find?_alias rest h

theorem ofMembers_omittable_eq_ok {name : String} {read : As α} {a : Option α} :
    (omittable name read).ofMembers ms = .ok a ↔
      lookup name ms = none ∧ a = none ∨
        ∃ v, lookup name ms = some v ∧ optional read v = .ok a := by
  simp only [omittable, member, find?_eq_lookup]
  cases lookup name ms with
  | none => simp [eq_comm]
  | some v => simp

theorem check_of_read {type : String} {r : Record α} {a : α}
    (h : r.read type (.object ms) = .ok a) : check r.rules [] ms = .ok () := by
  simp only [read, readMembers] at h
  cases hc : check r.rules [] ms with
  | error e => simp [hc, bind, Except.bind] at h
  | ok u => rfl

section Checks

variable {rules : List Rule} {r : Rule} {seen : List String} {k : String} {v : Json}
  {rest : List Member}

/-- A member that a rule is about must not have been seen, and counts as seen from then on. -/
theorem check_cons_of_find? (hk : rules.find? (·.covers k) = some r)
    (h : check rules seen ((k, v) :: rest) = .ok ()) :
    r.name ∉ seen ∧ check rules (r.name :: seen) rest = .ok () := by
  simp only [check, hk] at h
  split at h
  · cases h
  · rename_i hseen
    split at h
    · cases h
    · exact ⟨by simpa using hseen, h⟩

/-- What was seen before a member was seen after it. -/
theorem check_tail (h : check rules seen ((k, v) :: rest) = .ok ()) :
    ∃ later, seen ⊆ later ∧ check rules later rest = .ok () := by
  cases hk : rules.find? (·.covers k) with
  | none =>
      rw [check, hk] at h
      exact ⟨seen, List.Subset.refl _, h⟩
  | some r => exact ⟨_, List.subset_cons_self _ _, (check_cons_of_find? hk h).2⟩

variable {name other : String}

/-- A member that was seen does not come again, whatever its name. -/
theorem lookup_of_check_seen (hname : rules.find? (·.covers name) = some r) :
    ∀ {ms : List Member} {seen : List String}, r.name ∈ seen → check rules seen ms = .ok () →
      lookup name ms = none
  | [], _, _, _ => rfl
  | (k, v) :: rest, seen, hseen, h => by
      by_cases hk : k = name
      · subst hk
        exact absurd hseen (check_cons_of_find? hname h).1
      · obtain ⟨later, hlater, hrest⟩ := check_tail h
        rw [lookup_cons, if_neg hk]
        exact lookup_of_check_seen hname (hlater hseen) hrest

/-- A member that is there under one of its names is not there under another. -/
theorem lookup_of_check_alias (hne : name ≠ other) (hname : rules.find? (·.covers name) = some r)
    (hother : rules.find? (·.covers other) = some r) {v : Json} :
    ∀ {ms : List Member} {seen : List String}, check rules seen ms = .ok () →
      lookup name ms = some v → lookup other ms = none
  | (k, u) :: rest, seen, h, hv => by
      by_cases hk : k = name
      · subst hk
        rw [lookup_cons, if_neg hne]
        exact lookup_of_check_seen hother List.mem_cons_self (check_cons_of_find? hname h).2
      · rw [lookup_cons, if_neg hk] at hv
        by_cases hk' : k = other
        · subst hk'
          rw [lookup_of_check_seen hname List.mem_cons_self (check_cons_of_find? hother h).2] at hv
          cases hv
        · obtain ⟨later, -, hrest⟩ := check_tail h
          rw [lookup_cons, if_neg hk']
          exact lookup_of_check_alias hne hname hother hrest hv

end Checks

end Json.Record

namespace TrustMark

open Json Record

/-- A text is a trust mark: a token whose claims read as those of a mark. -/
structure ReadsAs (raw : String) (t : Token) (c : TrustMarkClaims) : Prop where
  decoded : Token.decode raw = .ok t
  read : t.read TrustMarkClaims.ofJson = .ok c

/-- The two claims that every mark has. -/
theorem claims_of_read {t : Token} {c : TrustMarkClaims}
    (h : t.read TrustMarkClaims.ofJson = .ok c) :
    t.claim "iss" = some (.string c.issuer) ∧
      (t.claim "id" = some (.string c.id) ∨ t.claim "trust_mark_id" = some (.string c.id)) := by
  have hmembers := ofMembers_of_read (Token.read_eq_ok.mp h)
  simp only [TrustMarkClaims.record, ofMembers_seq_eq_ok, ofMembers_map_eq_ok,
    ofMembers_required_eq_ok, ofMembers_member_eq_ok, asText_eq_ok] at hmembers
  obtain ⟨_, _, ⟨_, _, ⟨_, _, ⟨_, _, ⟨_, id, ⟨iss, ⟨_, hiss, rfl⟩, rfl⟩, ⟨_, hid, rfl⟩, rfl⟩, -,
    rfl⟩, -, rfl⟩, -, rfl⟩, -, rfl⟩ := hmembers
  exact ⟨hiss, lookup_of_find?_alias _ hid⟩

/-- The identifier that the bare claims give, under the first of its names that has a text. -/
def embeddedId (t : Token) : Option String :=
  (t.claimText "id").or (t.claimText "trust_mark_id")

/-- The bare claims give the identifier with which a mark is read: a token that has claims of both
names is not read as a mark at all. -/
theorem embeddedId_of_read {t : Token} {c : TrustMarkClaims}
    (h : t.read TrustMarkClaims.ofJson = .ok c) : embeddedId t = some c.id := by
  have hcheck := check_of_read (Token.read_eq_ok.mp h)
  rcases (claims_of_read h).2 with hid | hid
  · simp [embeddedId, Token.claimText, hid, Json.string?]
  · have hfree : t.claim "id" = none :=
      lookup_of_check_alias (by decide) rfl rfl hcheck hid
    simp [embeddedId, Token.claimText, hid, hfree, Json.string?]

/-- The subject with which a mark is read is the one that the bare claims give. -/
theorem subject_of_read {t : Token} {c : TrustMarkClaims}
    (h : t.read TrustMarkClaims.ofJson = .ok c) : t.claimText "sub" = c.subject := by
  have hmembers := ofMembers_of_read (Token.read_eq_ok.mp h)
  simp only [TrustMarkClaims.record, ofMembers_seq_eq_ok, ofMembers_map_eq_ok,
    ofMembers_omittable_eq_ok] at hmembers
  obtain ⟨_, _, ⟨_, _, ⟨_, _, ⟨_, sub, ⟨_, id, ⟨iss, -, rfl⟩, -, rfl⟩, hsub, rfl⟩, -, rfl⟩, -,
    rfl⟩, -, rfl⟩ := hmembers
  rcases hsub with ⟨hnone, rfl⟩ | ⟨v, hv, hread⟩
  · simp [Token.claimText, Token.claim, hnone]
  · cases v with
    | null =>
        cases hread
        simp [Token.claimText, Token.claim, hv, Json.string?]
    | string s =>
        cases hread
        simp [Token.claimText, Token.claim, hv, Json.string?]
    | _ => cases hread

/-- A token that reads as a mark lacks no claim that is asked for before it is read. -/
theorem missingClaims_of_read {t : Token} {c : TrustMarkClaims}
    (h : t.read TrustMarkClaims.ofJson = .ok c) : missingClaims t = [] := by
  obtain ⟨hissuer, hid⟩ := claims_of_read h
  have hnone : t.missing ["iss"] = [] := by
    simp [Token.missing, Token.hasClaim_of_ne_null hissuer Json.noConfusion]
  rcases hid with hid | hid <;> simp [missingClaims, hnone, hid]

theorem readMark_eq_ok {t : Token} {now : Int} {c : TrustMarkClaims} :
    readMark t now = .ok c ↔
      t.read TrustMarkClaims.ofJson = .ok c ∧ ∀ exp, c.expiresAt = some exp → now < exp := by
  constructor
  · intro h
    unfold readMark at h
    split at h
    · split at h
      · cases h
      · rename_i c' hread
        split at h
        · rename_i exp hexp
          split at h
          · cases h
          · rename_i hlate
            cases h
            refine ⟨hread, fun exp' hexp' => ?_⟩
            rw [hexp, Option.some.injEq] at hexp'
            omega
        · rename_i hexp
          cases h
          exact ⟨hread, by simp [hexp]⟩
    · cases h
  · rintro ⟨hread, hexp⟩
    simp only [readMark, missingClaims_of_read hread, hread]
    cases hc : c.expiresAt with
    | none => rfl
    | some exp =>
        have hlate : ¬ exp ≤ now := Int.not_le.mpr (hexp exp hc)
        simp [hlate]

end TrustMark
end EntityTrust
