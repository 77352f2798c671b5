import EntityTrust.Proofs.Lookup
import EntityTrust.Proofs.Outcome
import EntityTrust.Statement.Basic
import Mathlib.Tactic.SplitIfs

/-!
# Claims behind a statement

The typed reading of a statement against the claims of its token.

**Results.**
* `Token.Carries`: the claims of a token are those of a statement's core.
* `EntityConfiguration.carries_of_ofToken` and `SubordinateStatement.carries_of_ofToken`: whatever
  is read from a token carries its core.
* `Token.Carries.ofToken_eq`: the shape in which a token that carries a core is read.
* `Token.expiry_of_record`: the expiry that is read is the one that the bare claims give.
* `Statement.carries_of_ofToken`: whatever shape it is, the core is that of the token.
-/

namespace EntityTrust

namespace Json

theorem asText_eq_ok {v : Json} {s : String} : asText v = .ok s ↔ v = .string s := by
  cases v <;> simp [asText, mismatch]

theorem asSigned64_eq_ok {v : Json} {n : Int} :
    asSigned64 v = .ok n ↔
      v = .integer n ∧ Numeral.minSigned64 ≤ n ∧ n ≤ Numeral.maxSigned64 := by
  cases v with
  | integer k =>
      simp only [asSigned64, asInteger, integer.injEq]
      split_ifs with hk
      · simp only [Except.ok.injEq]
        constructor
        · rintro rfl
          exact ⟨rfl, hk⟩
        · exact fun h => h.1
      · simp only [false_iff, not_and]
        rintro rfl
        exact not_and.mp hk
  | _ => simp [asSigned64, asInteger, mismatch]

namespace Record

variable {α β : Type} {ms : List Member}

theorem ofMembers_seq_eq_ok {f : Record (α → β)} {x : Record α} {b : β} :
    (f <*> x).ofMembers ms = .ok b ↔
      ∃ g a, f.ofMembers ms = .ok g ∧ x.ofMembers ms = .ok a ∧ g a = b := by
  show (do let g ← f.ofMembers ms; let a ← x.ofMembers ms; pure (g a)) = .ok b ↔ _
  cases hf : f.ofMembers ms with
  | error e => simp [bind, Except.bind]
  | ok g =>
      cases hx : x.ofMembers ms with
      | error e => simp [bind, Except.bind]
      | ok a => simp [bind, Except.bind, pure, Except.pure]

theorem ofMembers_map_eq_ok {f : α → β} {x : Record α} {b : β} :
    (f <$> x).ofMembers ms = .ok b ↔ ∃ a, x.ofMembers ms = .ok a ∧ f a = b := by
  show ((pure f : Record (α → β)) <*> x).ofMembers ms = .ok b ↔ _
  rw [ofMembers_seq_eq_ok]
  constructor
  · rintro ⟨g, a, hg, ha, rfl⟩
    cases hg
    exact ⟨a, ha, rfl⟩
  · rintro ⟨a, ha, rfl⟩
    exact ⟨f, a, rfl, ha, rfl⟩

/-- A rule whose other names do not come finds what its name has. -/
theorem find?_of_free {rule : Rule} (free : ∀ m ∈ ms, m.1 ∉ rule.aliases) :
    find? rule ms = lookup rule.name ms := by
  induction ms with
  | nil => rfl
  | cons m ms ih =>
      obtain ⟨hm, hms⟩ := List.forall_mem_cons.mp free
      have hcovers : rule.covers m.1 = (rule.name == m.1) := by
        simp [Rule.covers, hm]
      by_cases hname : rule.name = m.1
      · simp [find?, lookup_cons, hcovers, hname]
      · simp [find?, lookup_cons, hcovers, hname, Ne.symm hname, ih hms]

theorem find?_eq_lookup (name : String) (check : As Unit) (ms : List Member) :
    find? ⟨name, [], check⟩ ms = lookup name ms :=
  find?_of_free fun _ _ => List.not_mem_nil

theorem ofMembers_required_eq_ok {name : String} {read : As α} {a : α} :
    (required name read).ofMembers ms = .ok a ↔
      ∃ v, lookup name ms = some v ∧ read v = .ok a := by
  simp only [required, member, find?_eq_lookup]
  cases lookup name ms with
  | none => simp
  | some v => simp

theorem ofMembers_of_read {type : String} {r : Record α} {a : α}
    (h : r.read type (.object ms) = .ok a) : r.ofMembers ms = .ok a := by
  simp only [read, readMembers] at h
  cases hc : check r.rules [] ms with
  | error e => simp [hc, bind, Except.bind] at h
  | ok u => simpa [hc, bind, Except.bind] using h

end Record
end Json

namespace Token

open Json Record

/-- The claims of a token are those of a core. -/
structure Carries (t : Token) (c : StatementCore) : Prop where
  issuer : t.claim "iss" = some (.string c.issuer)
  subject : t.claim "sub" = some (.string c.subject)
  issuedAt : t.claim "iat" = some (.integer c.issuedAt)
  expiresAt : t.claim "exp" = some (.integer c.expiresAt)
  keys : ∃ v, t.claim "jwks" = some v ∧ KeySet.ofJson v = .ok c.keys

theorem read_eq_ok {α : Type} {t : Token} {shape : As α} {a : α} :
    t.read shape = .ok a ↔ shape (.object t.claims) = .ok a := by
  unfold Token.read
  cases shape (.object t.claims) <;> simp

theorem Carries.unique {t : Token} {c c' : StatementCore} (h : t.Carries c) (h' : t.Carries c') :
    c = c' := by
  obtain ⟨v, hv, hkeys⟩ := h.keys
  obtain ⟨v', hv', hkeys'⟩ := h'.keys
  obtain rfl : v = v' := Option.some.inj (hv.symm.trans hv')
  have hiss := Option.some.inj (h.issuer.symm.trans h'.issuer)
  have hsub := Option.some.inj (h.subject.symm.trans h'.subject)
  have hiat := Option.some.inj (h.issuedAt.symm.trans h'.issuedAt)
  have hexp := Option.some.inj (h.expiresAt.symm.trans h'.expiresAt)
  have hset := Except.ok.inj (hkeys.symm.trans hkeys')
  cases c
  cases c'
  simp_all

theorem hasClaim_of_ne_null {t : Token} {name : String} {v : Json} (h : t.claim name = some v)
    (hv : v ≠ .null) : t.hasClaim name = true := by
  unfold hasClaim
  rw [h]
  cases v <;> simp_all

/-- A token that carries a core lacks none of the claims of a core. -/
theorem Carries.missing {t : Token} {c : StatementCore} (h : t.Carries c) :
    t.missing StatementCore.requiredClaims = [] := by
  obtain ⟨v, hv, hkeys⟩ := h.keys
  have hnull : v ≠ .null := by
    rintro rfl
    cases hkeys
  simp [Token.missing, StatementCore.requiredClaims,
    hasClaim_of_ne_null h.subject Json.noConfusion, hasClaim_of_ne_null h.issuer Json.noConfusion,
    hasClaim_of_ne_null h.expiresAt Json.noConfusion,
    hasClaim_of_ne_null h.issuedAt Json.noConfusion, hasClaim_of_ne_null hv hnull]

/-- The shape in which a token that carries a core is read. -/
theorem Carries.ofToken_eq {t : Token} {c : StatementCore} (h : t.Carries c) :
    Statement.ofToken t =
      if c.issuer = c.subject then (EntityConfiguration.ofToken t).map .configuration
      else (SubordinateStatement.ofToken t).map .subordinate := by
  have hmissing : t.missing ["iss", "sub"] = [] := by
    simp [Token.missing, hasClaim_of_ne_null h.subject Json.noConfusion,
      hasClaim_of_ne_null h.issuer Json.noConfusion]
  simp only [Statement.ofToken, hmissing, claimText, h.issuer, h.subject, Option.bind_some,
    Json.string?, Option.some.injEq]

theorem carries_of_record {t : Token} {c : StatementCore}
    (h : StatementCore.record.ofMembers t.claims = .ok c) : t.Carries c := by
  simp only [StatementCore.record, ofMembers_seq_eq_ok, ofMembers_map_eq_ok,
    ofMembers_required_eq_ok, asText_eq_ok, asSigned64_eq_ok] at h
  obtain ⟨_, keys, ⟨_, exp, ⟨_, iat, ⟨_, sub, ⟨iss, ⟨_, hiss, rfl⟩, rfl⟩, ⟨_, hsub, rfl⟩, rfl⟩,
    ⟨_, hiat, rfl, -⟩, rfl⟩, ⟨_, hexp, rfl, -⟩, rfl⟩, hkeys, rfl⟩ := h
  exact ⟨hiss, hsub, hiat, hexp, hkeys⟩

/-- The expiry of a core that was read fits a signed word of 64 bits. -/
theorem expiry_of_record {t : Token} {c : StatementCore}
    (h : StatementCore.record.ofMembers t.claims = .ok c) :
    (t.claim "exp").bind Json.signed64? = some c.expiresAt := by
  simp only [StatementCore.record, ofMembers_seq_eq_ok, ofMembers_map_eq_ok,
    ofMembers_required_eq_ok, asText_eq_ok, asSigned64_eq_ok] at h
  obtain ⟨_, keys, ⟨_, exp, ⟨_, iat, ⟨_, sub, ⟨iss, -, rfl⟩, -, rfl⟩, -, rfl⟩,
    ⟨_, hexp, rfl, hrange⟩, rfl⟩, -, rfl⟩ := h
  simp [Token.claim, hexp, Json.signed64?, hrange]

end Token

section Reading

open Json Record

variable {t : Token}

theorem EntityConfiguration.ofToken_eq_ok {c : EntityConfiguration} :
    EntityConfiguration.ofToken t = .ok c ↔
      t.read EntityConfiguration.ofJson = .ok c ∧ c.issuer = c.subject := by
  unfold EntityConfiguration.ofToken
  cases hr : t.read EntityConfiguration.ofJson with
  | error e => simp [bind, Except.bind]
  | ok d =>
      by_cases hs : d.issuer = d.subject
      · simp only [StatementCore.selfIssued, hs, BEq.rfl, bind, Except.bind, if_true, pure,
          Except.pure, Except.ok.injEq]
        constructor
        · rintro rfl
          exact ⟨rfl, hs⟩
        · exact fun h => h.1
      · simp only [StatementCore.selfIssued, beq_iff_eq, hs, bind, Except.bind, if_false, throw,
          throwThe, MonadExceptOf.throw, Except.ok.injEq, reduceCtorEq, false_iff, not_and]
        rintro rfl
        exact hs

/-- What is read as a configuration is read as a core before. -/
theorem EntityConfiguration.core_of_read {c : EntityConfiguration}
    (h : t.read EntityConfiguration.ofJson = .ok c) :
    StatementCore.record.ofMembers t.claims = .ok c.toStatementCore := by
  have hmembers := ofMembers_of_read (Token.read_eq_ok.mp h)
  simp only [EntityConfiguration.record, ofMembers_seq_eq_ok, ofMembers_map_eq_ok] at hmembers
  obtain ⟨_, _, ⟨_, _, ⟨_, _, ⟨_, _, ⟨_, _, ⟨_, _, ⟨core, hcore, rfl⟩, -, rfl⟩, -, rfl⟩, -, rfl⟩,
    -, rfl⟩, -, rfl⟩, -, rfl⟩ := hmembers
  exact hcore

/-- The claims that are read as a configuration are those of its token. -/
theorem EntityConfiguration.carries_of_read {c : EntityConfiguration}
    (h : t.read EntityConfiguration.ofJson = .ok c) : t.Carries c.toStatementCore :=
  Token.carries_of_record (EntityConfiguration.core_of_read h)

/-- A configuration is read from the claims of its token, and its issuer is its subject. -/
theorem EntityConfiguration.carries_of_ofToken {c : EntityConfiguration}
    (h : EntityConfiguration.ofToken t = .ok c) :
    t.Carries c.toStatementCore ∧ c.issuer = c.subject := by
  obtain ⟨hread, hself⟩ := EntityConfiguration.ofToken_eq_ok.mp h
  exact ⟨EntityConfiguration.carries_of_read hread, hself⟩

theorem SubordinateStatement.core_of_ofToken {s : SubordinateStatement}
    (h : SubordinateStatement.ofToken t = .ok s) :
    StatementCore.record.ofMembers t.claims = .ok s.toStatementCore := by
  have hmembers := ofMembers_of_read (Token.read_eq_ok.mp h)
  simp only [SubordinateStatement.record, ofMembers_seq_eq_ok, ofMembers_map_eq_ok] at hmembers
  obtain ⟨_, _, ⟨_, _, ⟨_, _, ⟨_, _, ⟨_, _, ⟨core, hcore, rfl⟩, -, rfl⟩, -, rfl⟩, -, rfl⟩, -, rfl⟩,
    -, rfl⟩ := hmembers
  exact hcore

/-- A subordinate statement is read from the claims of its token. -/
theorem SubordinateStatement.carries_of_ofToken {s : SubordinateStatement}
    (h : SubordinateStatement.ofToken t = .ok s) : t.Carries s.toStatementCore :=
  Token.carries_of_record (SubordinateStatement.core_of_ofToken h)

/-- Whatever shape a statement has, its core is read from the claims of its token. -/
theorem Statement.core_of_ofToken {s : Statement} (h : Statement.ofToken t = .ok s) :
    StatementCore.record.ofMembers t.claims = .ok s.core := by
  unfold Statement.ofToken at h
  split at h
  · split at h
    · obtain ⟨c, hc, rfl⟩ := Outcome.map_eq_ok.mp h
      exact EntityConfiguration.core_of_read (EntityConfiguration.ofToken_eq_ok.mp hc).1
    · obtain ⟨c, hc, rfl⟩ := Outcome.map_eq_ok.mp h
      exact SubordinateStatement.core_of_ofToken hc
  · cases h

/-- A statement of either shape is read from the claims of its token. -/
theorem Statement.carries_of_ofToken {s : Statement} (h : Statement.ofToken t = .ok s) :
    t.Carries s.core :=
  Token.carries_of_record (Statement.core_of_ofToken h)

end Reading
end EntityTrust
