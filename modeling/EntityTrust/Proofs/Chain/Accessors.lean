import EntityTrust.Proofs.Chain.Window

/-!
# What a chain says about itself

The subject, the anchor and the expiry of a chain are read from the bare claims of its statements.
The verifier reads the same statements as typed ones, in one of two shapes.

**Results.**
* `subject_eq_ok`, `anchor_eq_ok`: a bare claim is the one of the core that the token carries.
* `anchor_eq_ok_iff`: of a chain that reads, the anchor is the issuer of its last entry.
* `exists_expiresAt`: of a chain that reads, the expiry is the least one of its statements.
* `passes_pinned_iff`: a pinned anchor asks for nothing but the issuer of the last entry.
* `accepted_of_lt`: once accepted, a chain is valid until the least expiry of its statements.
* `accessors_agree`: what the accessors say about an accepted chain is what the verifier goes by.
-/

namespace EntityTrust
namespace TrustChain

section Claims

variable {c : TrustChain} {raw : String} {t : Token} {core : StatementCore}

theorem claimOf_eq_ok {statement : Option String} {name value : String}
    (hraw : statement = some raw) (ht : Token.decode raw = .ok t)
    (hclaim : t.claim name = some (.string value)) : claimOf statement name = .ok value := by
  have htext : t.claimText name = some value := by
    rw [Token.claimText, hclaim]
    rfl
  simp only [hraw, claimOf, ht, Outcome.ok_bind, htext]
  rfl

/-- The subject of a chain is that of the claims of its first statement. -/
theorem subject_eq_ok (hhead : c.statements.head? = some raw) (ht : Token.decode raw = .ok t)
    (hcarries : t.Carries core) : c.subject = .ok core.subject :=
  claimOf_eq_ok hhead ht hcarries.subject

/-- The anchor of a chain is the issuer in the claims of its last statement. -/
theorem anchor_eq_ok (hlast : c.statements.getLast? = some raw) (ht : Token.decode raw = .ok t)
    (hcarries : t.Carries core) : c.anchor = .ok core.issuer :=
  claimOf_eq_ok hlast ht hcarries.issuer

/-- The bare expiry of a statement is the one that its typed reading gives. -/
theorem expiryOf_eq_ok {e : Entry} (hread : Reads raw e) :
    expiryOf raw = .ok e.statement.core.expiresAt := by
  have hexp := Token.expiry_of_record (Statement.core_of_ofToken hread.shaped)
  simp only [expiryOf, hread.decoded, Outcome.ok_bind, hexp]
  rfl

end Claims

section Entries

variable {statements : List String} {es : List Entry}

theorem ne_nil_of_reads (hlength : minLength ≤ statements.length)
    (hreads : List.Forall₂ Reads statements es) : es ≠ [] := by
  rintro rfl
  rw [hreads.length_eq] at hlength
  exact absurd hlength (by decide)

theorem exists_last_of_reads (hne : es ≠ []) (hreads : List.Forall₂ Reads statements es) :
    ∃ raw e, statements.getLast? = some raw ∧ es.getLast? = some e ∧ Reads raw e := by
  induction hreads with
  | nil => exact absurd rfl hne
  | @cons raw e statements es hread hrest ih =>
      cases hrest with
      | nil => exact ⟨raw, e, rfl, rfl, hread⟩
      | cons hnext hmore =>
          obtain ⟨raw', e', hraw, he, hread'⟩ := ih (List.cons_ne_nil _ _)
          exact ⟨raw', e', by rw [List.getLast?_cons_cons, hraw],
            by rw [List.getLast?_cons_cons, he], hread'⟩

/-- The anchor of a chain that reads is the issuer of its last entry. -/
theorem anchor_eq_ok_iff {a : String} (hne : es ≠ [])
    (hreads : List.Forall₂ Reads statements es) :
    (TrustChain.mk statements).anchor = .ok a ↔
      ∀ e, es.getLast? = some e → e.statement.core.issuer = a := by
  obtain ⟨raw, e, hraw, he, hread⟩ := exists_last_of_reads hne hreads
  have hanchor : (TrustChain.mk statements).anchor = .ok e.statement.core.issuer :=
    anchor_eq_ok hraw hread.decoded (Statement.carries_of_ofToken hread.shaped)
  rw [hanchor, he]
  simp

/-- The subject of a chain that reads is that of its first entry. -/
theorem exists_subject (hne : es ≠ []) (hreads : List.Forall₂ Reads statements es) :
    ∃ e, es.head? = some e ∧ (TrustChain.mk statements).subject = .ok e.statement.core.subject ∧
      Holds statements 0 e.token e.statement := by
  cases hreads with
  | nil => exact absurd rfl hne
  | @cons raw e _ _ hread _ =>
      exact ⟨e, rfl, subject_eq_ok rfl hread.decoded (Statement.carries_of_ofToken hread.shaped),
        (reads_iff_holds rfl).mp hread⟩

/-- The expiry that is kept while the statements are gone through is the least one so far. -/
theorem exists_earliestExpiry (hreads : List.Forall₂ Reads statements es) (earliest : Int) :
    ∃ least, earliestExpiry (some earliest) statements = .ok (some least) ∧
      IsLeast (insert earliest {i | ∃ e ∈ es, e.statement.core.expiresAt = i}) least := by
  induction hreads generalizing earliest with
  | nil => exact ⟨earliest, rfl, by simp [IsLeast, lowerBounds]⟩
  | @cons raw e statements es hread hrest ih =>
      obtain ⟨least, hleast, hmem, hlower⟩ := ih (min earliest e.statement.core.expiresAt)
      refine ⟨least, ?_, ?_, ?_⟩
      · rw [earliestExpiry, expiryOf_eq_ok hread, Outcome.ok_bind]
        exact hleast
      · rcases hmem with rfl | ⟨d, hd, hexpires⟩
        · rcases min_choice earliest e.statement.core.expiresAt with hmin | hmin
          · exact .inl hmin
          · exact .inr ⟨e, List.mem_cons_self, hmin.symm⟩
        · exact .inr ⟨d, List.mem_cons_of_mem _ hd, hexpires⟩
      · have hmin := hlower (Set.mem_insert _ _)
        rintro i (rfl | ⟨d, hd, rfl⟩)
        · exact hmin.trans (min_le_left _ _)
        · rcases List.mem_cons.mp hd with rfl | hd
          · exact hmin.trans (min_le_right _ _)
          · exact hlower (.inr ⟨d, hd, rfl⟩)

/-- The expiry of a chain that reads is the least one of its statements. -/
theorem exists_expiresAt (hne : es ≠ []) (hreads : List.Forall₂ Reads statements es) :
    ∃ least, (TrustChain.mk statements).expiresAt = .ok least ∧
      IsLeast (expiries statements) least := by
  rw [expiries_eq hreads]
  cases hreads with
  | nil => exact absurd rfl hne
  | @cons raw e statements es hread hrest =>
      obtain ⟨least, hleast, hbound⟩ := exists_earliestExpiry hrest e.statement.core.expiresAt
      refine ⟨least, ?_, ?_⟩
      · simp only [expiresAt, earliestExpiry, expiryOf_eq_ok hread, Outcome.ok_bind, hleast]
        rfl
      · convert hbound using 1
        ext i
        simp [eq_comm]

end Entries

section Pinned

variable {accepts : String → Jwk → Bool} {now : Int} {a : String}

/-- A pinned anchor asks for nothing but the issuer of the last entry. -/
theorem passes_pinned_iff {es : List Entry} :
    Passes accepts (some a) now es ↔
      Passes accepts none now es ∧ ∀ e, es.getLast? = some e → e.statement.core.issuer = a := by
  constructor
  · intro h
    exact ⟨⟨h.windows, h.subject, h.links, fun e he => ⟨by simp, (h.anchored e he).2⟩⟩,
      fun e he => (h.anchored e he).1 a rfl⟩
  · rintro ⟨h, hissuer⟩
    refine ⟨h.windows, h.subject, h.links, fun e he => ⟨?_, (h.anchored e he).2⟩⟩
    rintro _ ⟨⟩
    exact hissuer e he

theorem verify_pinned_iff {c : TrustChain} :
    (verify (m := Id) accepts (some a) now c.statements).isValid = true ↔
      (verify (m := Id) accepts none now c.statements).isValid = true ∧ c.anchor = .ok a := by
  rw [verify_isValid_iff, verify_isValid_iff, and_assoc]
  refine and_congr_right fun hlength => ?_
  constructor
  · rintro ⟨es, hreads, hpasses⟩
    obtain ⟨hpasses, hissuer⟩ := passes_pinned_iff.mp hpasses
    have hne := ne_nil_of_reads hlength hreads
    exact ⟨⟨es, hreads, hpasses⟩, (anchor_eq_ok_iff hne hreads).mpr hissuer⟩
  · rintro ⟨⟨es, hreads, hpasses⟩, hanchor⟩
    have hne := ne_nil_of_reads hlength hreads
    exact ⟨es, hreads, passes_pinned_iff.mpr ⟨hpasses, (anchor_eq_ok_iff hne hreads).mp hanchor⟩⟩

end Pinned

section Expiry

variable {accepts : String → Jwk → Bool} {anchor : Option String} {start now : Int}
  {statements : List String} {least : Int}

theorem lt_of_accepted (hleast : IsLeast (expiries statements) least)
    (accepted : (verify (m := Id) accepts anchor now statements).isValid = true) : now < least := by
  obtain ⟨hlength, es, hreads, hpasses⟩ := verify_isValid_iff.mp accepted
  obtain ⟨latest, earliest, -, hearliest, hwindow⟩ :=
    exists_window (ne_nil_of_reads hlength hreads) hreads
  rw [hleast.unique hearliest]
  exact ((hwindow now).mp hpasses.windows).2

/-- Once accepted, a chain stays valid until the least expiry of its statements. -/
theorem accepted_of_lt (hleast : IsLeast (expiries statements) least)
    (accepted : (verify (m := Id) accepts anchor start statements).isValid = true)
    (hlater : start ≤ now) (hbefore : now < least) :
    (verify (m := Id) accepts anchor now statements).isValid = true := by
  obtain ⟨hlength, es, hreads, hpasses⟩ := verify_isValid_iff.mp accepted
  obtain ⟨latest, earliest, -, hearliest, hwindow⟩ :=
    exists_window (ne_nil_of_reads hlength hreads) hreads
  have hissued := ((hwindow start).mp hpasses.windows).1
  have hopen := (hwindow now).mpr ⟨hissued.trans hlater, hleast.unique hearliest ▸ hbefore⟩
  exact verify_isValid_iff.mpr
    ⟨hlength, es, hreads, hopen, hpasses.subject, hpasses.links, hpasses.anchored⟩

end Expiry

/-- A chain is accepted for an anchor exactly when it is accepted without one and names that anchor.
Of a chain that is accepted at some instant, the subject is both the subject and the issuer of the
first statement, and from then on the chain is valid exactly until its expiry. -/
theorem accessors_agree (accepts : String → Jwk → Bool) (c : TrustChain) :
    (∀ a now, (verify (m := Id) accepts (some a) now c.statements).isValid = true ↔
        (verify (m := Id) accepts none now c.statements).isValid = true ∧ c.anchor = .ok a) ∧
      ∀ start, (verify (m := Id) accepts none start c.statements).isValid = true →
        ∃ t s expiry, Holds c.statements 0 t s ∧ c.subject = .ok s.core.subject ∧
          s.core.issuer = s.core.subject ∧ c.expiresAt = .ok expiry ∧
          ∀ now, start ≤ now →
            ((verify (m := Id) accepts none now c.statements).isValid = true ↔ now < expiry) := by
  refine ⟨fun a now => verify_pinned_iff, fun start accepted => ?_⟩
  obtain ⟨hlength, es, hreads, hpasses⟩ := verify_isValid_iff.mp accepted
  have hne := ne_nil_of_reads hlength hreads
  obtain ⟨e, he, hsubject, hholds⟩ := exists_subject hne hreads
  obtain ⟨expiry, hexpiry, hleast⟩ := exists_expiresAt hne hreads
  refine ⟨e.token, e.statement, expiry, hholds, hsubject, (hpasses.subject e he).1, hexpiry, ?_⟩
  intro now hlater
  exact ⟨lt_of_accepted hleast, accepted_of_lt hleast accepted hlater⟩

/-- A chain of `t:` whose statements expire at 9, 7 and 8. -/
theorem accessors_agree_sample :
    (verify (m := Id) Discovery.Sample.signs none 5 Sample.texts).isValid = true ∧
      (TrustChain.mk Sample.texts).anchor = .ok "t:" ∧
      (TrustChain.mk Sample.texts).expiresAt = .ok 7 ∧
      ∀ now, 5 ≤ now →
        ((verify (m := Id) Discovery.Sample.signs none now Sample.texts).isValid = true ↔
          now < 7) := by
  obtain ⟨hpinned, hexpires⟩ :=
    accessors_agree Discovery.Sample.signs (TrustChain.mk Sample.texts)
  obtain ⟨accepted, hanchor⟩ := (hpinned "t:" 5).mp Sample.accepted
  obtain ⟨t, s, expiry, -, -, -, hexpiry, hvalid⟩ := hexpires 5 accepted
  obtain ⟨least, hexpiry', hleast⟩ := exists_expiresAt (List.cons_ne_nil _ _) Sample.texts_read
  obtain rfl := hleast.unique Sample.isLeast_expiries
  obtain rfl : expiry = 7 := Except.ok.inj (hexpiry.symm.trans hexpiry')
  exact ⟨accepted, hanchor, hexpiry, hvalid⟩

end TrustChain
end EntityTrust
