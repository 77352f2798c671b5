import EntityTrust.Proofs.Discovery.Soundness

/-!
# The verdict on a chain that was found

The search takes a statement from an authority when it names the key identifier of the statement
below.  The verifier asks for more: the key of that name in the statement above has to verify the
statement below.

**Results.**
* `World.Vouches.link_iff`: below the anchor, neighbours pass the verifier's rule for neighbours
  exactly when the upper one binds the lower one.
* `World.Crowns.link`: the anchor's configuration and the statement below it always pass it.
* `verify_findChain_iff`: a chain that was found is valid at an instant in all windows exactly when
  each of its statements reads and each superior's statement binds the one below it.
-/

namespace EntityTrust

open TrustChain

/-- The instant lies in the window of a statement. -/
def TrustChain.InForce (now : Int) (raw : String) : Prop :=
  ∃ t core, Token.decode raw = .ok t ∧ t.Carries core ∧ core.issuedAt ≤ now ∧ now < core.expiresAt

namespace Discovery

/-- The key that a statement names for the one below it verifies the one below it. -/
def World.Binds (w : World) (lower upper : String) : Prop :=
  ∃ t t' core, Token.decode lower = .ok t ∧ Token.decode upper = .ok t' ∧ t'.Carries core ∧
    w.verifies t core.keys = true

variable {w : World} {id : String} {anchors : List String} {levels : Nat} {past : Past}
  {statements : List String}

theorem reads_core {raw : String} {e : Entry} {t : Token} {core : StatementCore}
    (hread : Reads raw e) (ht : Token.decode raw = .ok t) (hcarries : t.Carries core) :
    e.token = t ∧ e.statement.core = core := by
  obtain rfl : e.token = t := Except.ok.inj (hread.decoded.symm.trans ht)
  exact ⟨rfl, (Statement.carries_of_ofToken hread.shaped).unique hcarries⟩

theorem exists_reads_iff {raw : String} {t : Token} {core : StatementCore}
    (ht : Token.decode raw = .ok t) (hcarries : t.Carries core) :
    (∃ e, Reads raw e) ↔ ∃ s, Statement.decode raw = .ok s := by
  have hdecode : Statement.decode raw = Statement.ofToken t := by
    rw [Statement.decode, ht]
    rfl
  rw [hdecode]
  constructor
  · rintro ⟨e, hread⟩
    obtain rfl : e.token = t := Except.ok.inj (hread.decoded.symm.trans ht)
    exact ⟨e.statement, hread.shaped⟩
  · rintro ⟨s, hs⟩
    exact ⟨⟨t, s⟩, ht, hcarries.missing, hs⟩

/-- Neighbours below the anchor pass the rule for neighbours exactly when the upper binds the
lower. -/
theorem World.Vouches.link_iff {lower upper : String} (h : w.Vouches past lower upper) {e f : Entry}
    (he : Reads lower e) (hf : Reads upper f) :
    LinkRule w.accepts e f ↔ w.Binds lower upper := by
  obtain ⟨issuer, keyId, signer, raw, v, t', st, hlower, -, hattests⟩ := h
  obtain ⟨t, core, ht, hcarries, hissuer, -⟩ := hlower
  have hcarries' := SubordinateStatement.carries_of_ofToken hattests.read
  obtain ⟨rfl, hcore⟩ := reads_core he ht hcarries
  obtain ⟨rfl, hcore'⟩ := reads_core hf hattests.decoded hcarries'
  unfold LinkRule
  rw [hcore, hcore', hissuer, hattests.subject]
  constructor
  · rintro ⟨-, hverifies⟩
    exact ⟨_, _, _, ht, hattests.decoded, hcarries', hverifies⟩
  · rintro ⟨t₁, t₂, core₂, ht₁, ht₂, hcarries₂, hverifies⟩
    obtain rfl := Except.ok.inj (ht.symm.trans ht₁)
    obtain rfl := Except.ok.inj (hattests.decoded.symm.trans ht₂)
    rw [hcarries'.unique hcarries₂]
    exact ⟨rfl, hverifies⟩

/-- The anchor's configuration and the statement below it pass the rule for neighbours. -/
theorem World.Crowns.link {lower top : String} (h : w.Crowns past anchors lower top) {e f : Entry}
    (he : Reads lower e) (hf : Reads top f) : LinkRule w.accepts e f := by
  obtain ⟨subject, keyId, signer, v, t, st, hpublished, hattests, -⟩ := h
  obtain ⟨htoken, hcore⟩ := reads_core he hattests.decoded
    (SubordinateStatement.carries_of_ofToken hattests.read)
  obtain ⟨-, hcore'⟩ := reads_core hf hpublished.verified.decoded
    (EntityConfiguration.carries_of_ofToken hpublished.verified.read).1
  unfold LinkRule
  rw [htoken, hcore, hcore']
  exact ⟨hattests.issuer, hattests.signed⟩

/-- A self-verified configuration passes the rules for the first statement and for the last. -/
theorem World.SelfVerified.rules {raw : String} {v : Verified} (h : w.SelfVerified raw v)
    {e : Entry} (he : Reads raw e) :
    SubjectRule w.accepts e ∧ AnchorRule w.accepts none e := by
  obtain ⟨hcarries, hself⟩ := EntityConfiguration.carries_of_ofToken h.read
  obtain ⟨htoken, hcore⟩ := reads_core he h.decoded hcarries
  unfold SubjectRule AnchorRule
  rw [htoken, hcore]
  exact ⟨⟨hself, h.signed⟩, by simp, h.signed⟩

/-- The rule for neighbours all along a sound chain. -/
theorem World.Sound.links_iff (h : w.Sound id anchors levels past statements)
    (hread : ∀ raw ∈ statements, ∃ e, Reads raw e) :
    (statements.IsChain fun raw above =>
        ∀ e next, Reads raw e → Reads above next → LinkRule w.accepts e next) ↔
      statements.dropLast.IsChain w.Binds := by
  obtain ⟨lower, top, hlower, htop, hcrowns⟩ := h.anchor
  have hsplit : statements = statements.dropLast ++ [top] :=
    (List.dropLast_append_getLast? top htop).symm
  rw [hsplit, List.isChain_append, List.dropLast_concat]
  have hlast : ∀ raw ∈ statements.dropLast.getLast?, ∀ above ∈ [top].head?,
      ∀ e next, Reads raw e → Reads above next → LinkRule w.accepts e next := by
    intro raw hraw above habove e next he hnext
    obtain rfl : lower = raw := Option.some.inj (hlower.symm.trans hraw)
    obtain rfl : top = above := Option.some.inj habove
    exact hcrowns.link he hnext
  have hbelow : (statements.dropLast.IsChain fun raw above =>
      ∀ e next, Reads raw e → Reads above next → LinkRule w.accepts e next) ↔
        statements.dropLast.IsChain w.Binds := by
    have hlinks := h.links
    rw [List.isChain_iff_getElem] at hlinks ⊢
    rw [List.isChain_iff_getElem]
    refine forall_congr' fun i => forall_congr' fun hi => ?_
    obtain ⟨e, he⟩ := hread _ (List.dropLast_subset _ (List.getElem_mem (Nat.lt_of_succ_lt hi)))
    obtain ⟨f, hf⟩ := hread _ (List.dropLast_subset _ (List.getElem_mem hi))
    rw [← (hlinks i hi).link_iff he hf]
    constructor
    · intro hlink
      exact hlink e f he hf
    · intro hlink e' f' he' hf'
      exact he.unique he' ▸ hf.unique hf' ▸ hlink
  rw [hbelow]
  exact ⟨fun h => h.1, fun h => ⟨h, .singleton _, hlast⟩⟩

/-- A statement in force passes the rules for single statements exactly when it reads. -/
theorem exists_reads_window_iff {now : Int} {raw : String} (h : InForce now raw) :
    (∃ e, Reads raw e ∧ e.statement.core.issuedAt ≤ now ∧ now < e.statement.core.expiresAt) ↔
      ∃ s, Statement.decode raw = .ok s := by
  obtain ⟨t, core, ht, hcarries, hwindow⟩ := h
  rw [← exists_reads_iff ht hcarries]
  constructor
  · rintro ⟨e, hread, -⟩
    exact ⟨e, hread⟩
  · rintro ⟨e, hread⟩
    refine ⟨e, hread, ?_⟩
    rw [(reads_core hread ht hcarries).2]
    exact hwindow

/-- A sound chain in force is valid exactly when its statements read and bind one another. -/
theorem World.Sound.verify_iff {now : Int} (h : w.Sound id anchors levels past statements)
    (hnow : ∀ raw ∈ statements, InForce now raw) :
    (verify (m := Id) w.accepts none now statements).isValid = true ↔
      (∀ raw ∈ statements, ∃ s, Statement.decode raw = .ok s) ∧
        statements.dropLast.IsChain w.Binds := by
  rw [verify_isValid_iff_forall]
  have hall : (∀ raw ∈ statements, ∃ e, Reads raw e ∧
      e.statement.core.issuedAt ≤ now ∧ now < e.statement.core.expiresAt) ↔
        ∀ raw ∈ statements, ∃ s, Statement.decode raw = .ok s :=
    forall_congr' fun raw => forall_congr' fun hraw => exists_reads_window_iff (hnow raw hraw)
  have hsubject : ∀ raw e, statements.head? = some raw → Reads raw e →
      SubjectRule w.accepts e := by
    intro raw e hraw he
    obtain ⟨raw', v, hhead, hv, -⟩ := h.subject
    obtain rfl := Option.some.inj (hhead.symm.trans hraw)
    exact (hv.rules he).1
  have hanchor : ∀ raw e, statements.getLast? = some raw → Reads raw e →
      AnchorRule w.accepts none e := by
    intro raw e hraw he
    obtain ⟨-, top, -, htop, -, -, -, v, -, -, hpublished, -⟩ := h.anchor
    obtain rfl := Option.some.inj (htop.symm.trans hraw)
    exact (hpublished.verified.rules he).2
  rw [← hall]
  constructor
  · rintro ⟨-, hwindows, -, hlinks, -⟩
    have hread := fun raw hraw => (hwindows raw hraw).imp fun _ he => he.1
    exact ⟨hwindows, (h.links_iff hread).mp hlinks⟩
  · rintro ⟨hwindows, hbinds⟩
    have hread := fun raw hraw => (hwindows raw hraw).imp fun _ he => he.1
    exact ⟨h.length_ge, hwindows, hsubject, (h.links_iff hread).mpr hbinds, hanchor⟩

/-- A chain that was found is valid at an instant in all its windows exactly when each statement
reads and each superior's statement binds the one below it. -/
theorem verify_findChain_iff {chain : TrustChain} {now : Int}
    (h : w.findChain id anchors levels = (.ok (some chain), past))
    (hnow : ∀ raw ∈ chain.statements, InForce now raw) :
    (verify (m := Id) w.accepts none now chain.statements).isValid = true ↔
      (∀ raw ∈ chain.statements, ∃ s, Statement.decode raw = .ok s) ∧
        chain.statements.dropLast.IsChain w.Binds := by
  obtain ⟨c, hint, u, hop, hc, taken, hanchor, hlength, hstatements, rfl⟩ := taken_of_findChain h
  have hsound := sound_of_taken hc taken hanchor hlength
  rw [← hstatements] at hsound
  exact hsound.verify_iff hnow

namespace Sample

theorem inForce : ∀ raw ∈ chain.statements, InForce 5 raw := by
  intro raw hraw
  simp only [chain, List.mem_cons, List.not_mem_nil, or_false] at hraw
  rcases hraw with rfl | rfl | rfl
  · exact ⟨_, _, decoded.1, leaf_carries, by decide⟩
  · exact ⟨_, _, decoded.2.2, bound_carries, by decide⟩
  · have hcarries : anchor.token.Carries anchor.configuration.toStatementCore :=
      (EntityConfiguration.carries_of_ofToken rfl).1
    exact ⟨_, _, decoded.2.1, hcarries, by decide⟩

/-- The key that `t:` names for `s:` is not the one that `s:` signed with. -/
theorem not_binds : ¬ world.Binds (token leafPayload) (token boundPayload) := by
  rintro ⟨t, t', core, ht, ht', hcarries, hverifies⟩
  obtain rfl := Except.ok.inj (decoded.1.symm.trans ht)
  obtain rfl := Except.ok.inj (decoded.2.2.symm.trans ht')
  rw [hcarries.unique bound_carries] at hverifies
  revert hverifies
  decide

theorem not_valid : (verify (m := Id) world.accepts none 5 chain.statements).isValid = false := by
  have hclimbed : world.Climbed "s:" start (.foot leaf "k" (token leafPayload)) :=
    climbed_foot (setsOut rfl rfl)
  have hsound : world.Sound "s:" ["t:"] 1 (hop.after start).past chain.statements :=
    sound_of_taken hclimbed (taken (by decide)) rfl (Nat.le_refl 1)
  rw [← Bool.not_eq_true]
  intro hvalid
  have hbinds := ((hsound.verify_iff inForce).mp hvalid).2
  exact not_binds (List.isChain_cons_cons.mp hbinds).1

end Sample

/-- The exact condition on the chain of `s:`. -/
theorem verify_findChain_sample :
    (∀ raw ∈ Sample.chain.statements, InForce 5 raw) ∧
      ((verify (m := Id) Sample.world.accepts none 5 Sample.chain.statements).isValid = true ↔
        (∀ raw ∈ Sample.chain.statements, ∃ s, Statement.decode raw = .ok s) ∧
          Sample.chain.statements.dropLast.IsChain Sample.world.Binds) :=
  ⟨Sample.inForce, verify_findChain_iff Sample.findChain_leaf Sample.inForce⟩

/-- A chain that is found although the verifier refuses it at an instant in all its windows. -/
theorem found_not_valid :
    (Sample.world.findChain "s:" ["t:"] 1).1 = .ok (some Sample.chain) ∧
      (∀ raw ∈ Sample.chain.statements, InForce 5 raw) ∧
      (verify (m := Id) Sample.world.accepts none 5 Sample.chain.statements).isValid = false :=
  ⟨congrArg Prod.fst Sample.findChain_leaf, Sample.inForce, Sample.not_valid⟩

end Discovery
end EntityTrust
