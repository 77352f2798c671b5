import EntityTrust.Proofs.Discovery.Climb
import EntityTrust.Proofs.Statement.Claims
import EntityTrust.Proofs.Token.Compact
import EntityTrust.Proofs.Url.WellKnown

/-!
# Soundness of the search

What is known of a chain that a search answers, in a world that may answer anything.

**Invariant.**  `Climbed` says of an entity on the way up that the chain so far starts with a
self-verified configuration, that each statement in it vouches for the one below, and that the
requested entity and all issuers so far are different entities whose configurations count as
requested.  A hop preserves it, and so does every search by induction on the levels left.

**Results.**
* `World.Climbed.above`: a hop leads from an entity on the way up to the next.
* `search_some`: every search that finds a chain ends with a hop to an anchor.
* `findChain_sound`: a chain that was found is sound.
-/

namespace EntityTrust

namespace Discovery

/-- A text as a chain has it: who issued it and the key that signed it. -/
def SignedBy (raw issuer keyId : String) : Prop :=
  ∃ t core, Token.decode raw = .ok t ∧ t.Carries core ∧ core.issuer = issuer ∧
    t.keyId = some keyId

/-- A text is a statement of a superior that names the issuer. -/
def IssuedBy (raw issuer : String) : Prop :=
  ∃ t st, Token.decode raw = .ok t ∧ SubordinateStatement.ofToken t = .ok st ∧ st.issuer = issuer

namespace World

variable (w : World)

/-- A configuration that verifies under its own keys and was served at its entity's URL. -/
structure Published (past : Past) (raw : String) (v : Verified) : Prop where
  verified : w.SelfVerified raw v
  served : ∃ url, Location.configuration v.configuration.subject = .ok url ∧ ⟨url, .ok raw⟩ ∈ past

/-- A statement of an authority about the issuer of the statement below it, which names the key that
signed the one below and verifies under the keys that the authority published. -/
def Vouches (past : Past) (lower upper : String) : Prop :=
  ∃ issuer keyId signer raw v t st, SignedBy lower issuer keyId ∧ w.Published past raw v ∧
    w.Attests upper v.configuration issuer keyId signer t st

/-- The configuration of an anchor, published, under which the statement below it verifies. -/
def Crowns (past : Past) (anchors : List String) (lower top : String) : Prop :=
  ∃ subject keyId signer v t st, w.Published past top v ∧
    w.Attests lower v.configuration subject keyId signer t st ∧
    Location.canonical v.configuration.issuer ∈ anchors.map Location.canonical

/-- A sound chain of statements for an entity. -/
structure Sound (id : String) (anchors : List String) (levels : Nat) (past : Past)
    (statements : List String) : Prop where
  length_ge : 3 ≤ statements.length
  length_le : statements.length ≤ levels + 2
  subject : ∃ raw v, statements.head? = some raw ∧ w.SelfVerified raw v ∧
    v.configuration.issuer = v.configuration.subject
  links : statements.dropLast.IsChain (w.Vouches past)
  anchor : ∃ lower top, statements.dropLast.getLast? = some lower ∧
    statements.getLast? = some top ∧ w.Crowns past anchors lower top
  issuers : ∃ issuers, List.Forall₂ IssuedBy statements.dropLast.tail issuers ∧
    ((id :: issuers).map Location.canonical).Nodup

/-- An entity on the way up from the requested one. -/
structure Climbed (id : String) (s : Moment) (c : Climber) : Prop where
  subject : ∃ raw v, c.chain.head? = some raw ∧ w.SelfVerified raw v
  top : ∃ raw, c.chain.getLast? = some raw ∧ SignedBy raw c.entity.subject c.keyId
  links : c.chain.IsChain (w.Vouches s.past)
  issuers : ∃ issuers, List.Forall₂ IssuedBy c.chain.tail issuers ∧
    ((id :: issuers).map Location.canonical).Nodup ∧
    ∀ issuer ∈ id :: issuers, ∃ url, Location.configuration issuer = .ok url ∧ url ∈ s.visited

end World

variable {w : World} {id : String} {anchors : List String} {s t : Moment} {c : Climber}

theorem World.Published.mono {past past' : Past} {raw : String} {v : Verified}
    (h : w.Published past raw v) (hle : past <+: past') : w.Published past' raw v := by
  obtain ⟨url, hurl, hserved⟩ := h.served
  exact ⟨h.verified, url, hurl, hle.subset hserved⟩

theorem World.Vouches.mono {past past' : Past} {lower upper : String}
    (h : w.Vouches past lower upper) (hle : past <+: past') : w.Vouches past' lower upper := by
  obtain ⟨issuer, keyId, signer, raw, v, t, st, hlower, hpublished, hattests⟩ := h
  exact ⟨issuer, keyId, signer, raw, v, t, st, hlower, hpublished.mono hle, hattests⟩

theorem World.Climbed.mono (h : w.Climbed id s c) (hst : s.Before t) : w.Climbed id t c := by
  obtain ⟨issuers, hissued, hnodup, hvisited⟩ := h.issuers
  refine ⟨h.subject, h.top, h.links.imp fun _ _ hv => hv.mono hst.past, issuers, hissued, hnodup,
    ?_⟩
  intro issuer hmem
  obtain ⟨url, hurl, hseen⟩ := hvisited issuer hmem
  exact ⟨url, hurl, hst.visited hseen⟩

theorem signedBy_of_selfVerified {raw keyId : String} {v : Verified} (hv : w.SelfVerified raw v)
    (hkey : v.token.keyId = some keyId) : SignedBy raw v.configuration.subject keyId := by
  obtain ⟨hcarries, hself⟩ := EntityConfiguration.carries_of_ofToken hv.read
  exact ⟨v.token, v.configuration.toStatementCore, hv.decoded, hcarries, hself, hkey⟩

/-- The climber sets out well. -/
theorem climbed_foot {url raw keyId : String} {v : Verified}
    (h : SetsOut w id url raw v keyId) :
    w.Climbed id (.first url raw) (.foot v keyId raw) := by
  refine ⟨⟨raw, v, rfl, h.verified⟩, ⟨raw, rfl, signedBy_of_selfVerified h.verified h.keyId⟩,
    .singleton _, [], .nil, by simp, ?_⟩
  intro issuer hmem
  obtain rfl := List.mem_singleton.mp hmem
  exact ⟨url, h.located, List.mem_singleton_self url⟩

theorem Hop.Taken.located_authority {hint : String} {h : Hop} (taken : h.Taken w c hint s) :
    Location.configuration h.authority.configuration.subject = .ok h.configurationUrl :=
  Location.configuration_of_canonical_eq taken.named.symm taken.located

theorem Hop.Taken.published {hint : String} {h : Hop} (taken : h.Taken w c hint s) :
    w.Published (h.after s).past h.configurationText h.authority := by
  refine ⟨taken.verified, h.configurationUrl, taken.located_authority, ?_⟩
  simp [Hop.after, Moment.asked, Moment.marked]

/-- A hop leads from an entity on the way up to the next. -/
theorem World.Climbed.above {hint : String} {h : Hop} (hc : w.Climbed id s c)
    (taken : h.Taken w c hint s) : w.Climbed id (h.after s) (h.above c) := by
  obtain ⟨raw, v, hhead, hv⟩ := hc.subject
  obtain ⟨lower, hlast, hlower⟩ := hc.top
  obtain ⟨token, st, hattests⟩ := taken.attested
  obtain ⟨issuers, hissued, hnodup, hvisited⟩ := hc.issuers
  obtain ⟨first, more, hchain⟩ : ∃ first more, c.chain = first :: more := by
    cases hcc : c.chain with
    | nil => simp [hcc] at hhead
    | cons first more => exact ⟨first, more, rfl⟩
  refine ⟨⟨raw, v, ?_, hv⟩, ⟨h.statementText, by simp [Hop.above], ?_⟩, ?_,
    issuers ++ [h.authority.configuration.subject], ?_, ?_, ?_⟩
  · simp [Hop.above, hhead]
  · have hcarries := SubordinateStatement.carries_of_ofToken hattests.read
    exact ⟨token, st.toStatementCore, hattests.decoded, hcarries, hattests.issuer, hattests.signer⟩
  · rw [Hop.above, List.isChain_append]
    refine ⟨(hc.mono (h.before_after s)).links, .singleton _, ?_⟩
    intro below hbelow upper hupper
    obtain rfl : h.statementText = upper := by simpa using hupper
    obtain rfl : lower = below := Option.some.inj (hlast.symm.trans hbelow)
    exact ⟨_, _, h.signer, h.configurationText, h.authority, token, st, hlower, taken.published,
      hattests⟩
  · have htail : (h.above c).chain.tail = c.chain.tail ++ [h.statementText] := by
      simp [Hop.above, hchain]
    rw [htail]
    exact List.rel_append hissued
      (.cons ⟨token, st, hattests.decoded, hattests.read, hattests.issuer⟩ .nil)
  · rw [← List.cons_append, List.map_append, List.nodup_append]
    refine ⟨hnodup, by simp, ?_⟩
    intro a ha b hb heq
    obtain rfl := List.mem_singleton.mp hb
    obtain ⟨issuer, hissuer, rfl⟩ := List.mem_map.mp ha
    -- the configuration of the new authority was not requested before, those of all others were
    obtain ⟨url, hurl, hseen⟩ := hvisited issuer hissuer
    have : url = h.configurationUrl := Except.ok.inj
      (hurl.symm.trans (Location.configuration_of_canonical_eq heq.symm taken.located_authority))
    exact taken.fresh (this ▸ hseen)
  · intro issuer hmem
    rcases List.mem_append.mp (List.cons_append ▸ hmem) with hmem | hmem
    · obtain ⟨url, hurl, hseen⟩ := hvisited issuer hmem
      exact ⟨url, hurl, (h.before_after s).visited hseen⟩
    · obtain rfl := List.mem_singleton.mp hmem
      exact ⟨h.configurationUrl, taken.located_authority, h.mem_visited_after s⟩

/-- A search that finds a chain ends with a hop to an anchor, from an entity on the way up. -/
theorem search_some {g : Goal} {levels : Nat} {found : List String} (hc : w.Climbed id s c)
    (h : Yields (search w.federation g levels c) s (some found) t) :
    ∃ c' hint u, ∃ hop : Hop, w.Climbed id u c' ∧ hop.Taken w c' hint u ∧ g.isAnchor hint = true ∧
      c'.chain.length + 1 ≤ c.chain.length + levels ∧
      found = c'.chain ++ [hop.statementText, hop.configurationText] ∧ t = hop.after u := by
  induction levels generalizing s c with
  | zero =>
      obtain ⟨hnone, -⟩ := yields_pure.mp h
      cases hnone
  | succ levels ih =>
      obtain ⟨first, hint, later, u, -, hfirst, hfollow⟩ := yields_followAny_some.mp h
      have hcu : w.Climbed id u c := hc.mono (before_of_followAny before_of_search hfirst).1
      obtain ⟨hop, taken, ⟨hanchor, hfound, ht⟩ | ⟨-, hclimb⟩⟩ := yields_follow_some.mp hfollow
      · exact ⟨c, hint, u, hop, hcu, taken, hanchor, by omega, hfound, ht⟩
      · obtain ⟨c', hint', u', hop', hc', taken', hanchor', hlength, hfound, ht⟩ :=
          ih (hcu.above taken) hclimb
        have habove : (hop.above c).chain.length = c.chain.length + 1 := by
          simp [Hop.above]
        exact ⟨c', hint', u', hop', hc', taken', hanchor', by omega, hfound, ht⟩

/-- A hop to an anchor ends a sound chain. -/
theorem sound_of_taken {hint : String} {hop : Hop} {levels : Nat} (hc : w.Climbed id s c)
    (taken : hop.Taken w c hint s) (hanchor : (Goal.ofAnchors anchors).isAnchor hint = true)
    (hlength : c.chain.length ≤ levels) :
    w.Sound id anchors levels (hop.after s).past
      (c.chain ++ [hop.statementText, hop.configurationText]) := by
  have habove := hc.above taken
  have hdrop : (c.chain ++ [hop.statementText, hop.configurationText]).dropLast =
      (hop.above c).chain := by
    rw [List.append_cons, List.dropLast_concat]
    rfl
  obtain ⟨raw, v, hhead, hv⟩ := hc.subject
  have hpos : c.chain ≠ [] := by
    intro hnil
    simp [hnil] at hhead
  refine ⟨?_, ?_, ⟨raw, v, by simp [hhead], hv,
    (EntityConfiguration.carries_of_ofToken hv.read).2⟩, ?_, ?_, ?_⟩
  · have := List.length_pos_iff.mpr hpos
    simp
    omega
  · simpa using hlength
  · rw [hdrop]
    exact habove.links
  · obtain ⟨token, st, hattests⟩ := taken.attested
    refine ⟨hop.statementText, hop.configurationText, by simp [hdrop, Hop.above], by simp, ?_⟩
    refine ⟨_, _, hop.signer, hop.authority, token, st, taken.published, hattests, ?_⟩
    rw [(EntityConfiguration.carries_of_ofToken taken.verified.read).2, taken.named]
    simpa [Goal.isAnchor, Goal.ofAnchors] using hanchor
  · rw [hdrop]
    obtain ⟨issuers, hissued, hnodup, -⟩ := habove.issuers
    exact ⟨issuers, hissued, hnodup⟩

/-- A chain that was found ends with a hop to an anchor. -/
theorem taken_of_findChain {levels : Nat} {chain : TrustChain} {past : Past}
    (h : w.findChain id anchors levels = (.ok (some chain), past)) :
    ∃ c hint u, ∃ hop : Hop, w.Climbed id u c ∧ hop.Taken w c hint u ∧
      (Goal.ofAnchors anchors).isAnchor hint = true ∧ c.chain.length ≤ levels ∧
      chain.statements = c.chain ++ [hop.statementText, hop.configurationText] ∧
      past = (hop.after u).past := by
  obtain ⟨url, raw, v, keyId, t, sets, hsearch, rfl⟩ := findChain_eq_some.mp h
  obtain ⟨c, hint, u, hop, hc, taken, hanchor, hlength, hfound, rfl⟩ :=
    search_some (climbed_foot sets) hsearch
  have : (Climber.foot v keyId raw).chain.length = 1 := rfl
  exact ⟨c, hint, u, hop, hc, taken, hanchor, by omega, hfound, rfl⟩

/-- A chain that a search found is sound, whatever the world answers. -/
theorem findChain_sound {levels : Nat} {chain : TrustChain} {past : Past}
    (h : w.findChain id anchors levels = (.ok (some chain), past)) :
    w.Sound id anchors levels past chain.statements := by
  obtain ⟨c, hint, u, hop, hc, taken, hanchor, hlength, hstatements, rfl⟩ := taken_of_findChain h
  rw [hstatements]
  exact sound_of_taken hc taken hanchor hlength

namespace Sample

/-- A header that names the key `k`. -/
def header : Header :=
  ⟨none, .edDsa, none, none, none, some "k", none, none, none, none⟩

def token (payload : String) : String :=
  Token.compact "eyJhbGciOiJFZERTQSIsImtpZCI6ImsifQ" payload ""

def keys (secret : String) : KeySet :=
  ⟨[⟨none, none, none, some "k", none, none, none, none, .octets secret⟩]⟩

/-- Claims with one key, between optional hints and optional metadata. -/
def claims (issuer subject secret : String) (hints metadata : List Json.Member) :
    List Json.Member :=
  hints ++ [("exp", .integer 9), ("iat", .integer 1), ("iss", .string issuer),
    ("jwks", .object [("keys", .array [.object
      [("k", .string secret), ("kid", .string "k"), ("kty", .string "oct")]])])] ++
    metadata ++ [("sub", .string subject)]

def configuration (id : String) (hints : List String) (metadata : Metadata) :
    EntityConfiguration :=
  { issuer := id, subject := id, issuedAt := 1, expiresAt := 9, keys := keys "",
    authorityHints := hints, metadata := metadata, trustMarkIssuers := [], trustMarkOwners := [],
    trustMarks := [], critical := [] }

def statement (issuer subject secret : String) : SubordinateStatement :=
  { issuer := issuer, subject := subject, issuedAt := 1, expiresAt := 9, keys := keys secret,
    metadata := none, metadataPolicy := none, constraints := none, sourceEndpoint := none,
    critical := [] }

def fetching (endpoint : String) : Metadata :=
  ⟨some ⟨some endpoint, none, none, none, []⟩, []⟩

def fetchingClaim (endpoint : String) : List Json.Member :=
  [("metadata", .object [("federation_entity",
    .object [("federation_fetch_endpoint", .string endpoint)])])]

def leafPayload : String :=
  "eyJhdXRob3JpdHlfaGludHMiOlsiYToiLCJ0OiJdLCJleHAiOjksImlhdCI6MSwiaXNzIjoiczoiLCJqd2tzIjp7Imt" ++
    "leXMiOlt7ImsiOiIiLCJraWQiOiJrIiwia3R5Ijoib2N0In1dfSwic3ViIjoiczoifQ"

/-- The leaf `s:`, with the hints `a:` and `t:`. -/
def leaf : Verified :=
  ⟨⟨token leafPayload, header, claims "s:" "s:" "" [("authority_hints",
    .array [.string "a:", .string "t:"])] []⟩, configuration "s:" ["a:", "t:"] .empty⟩

def anchorPayload : String :=
  "eyJleHAiOjksImlhdCI6MSwiaXNzIjoidDoiLCJqd2tzIjp7ImtleXMiOlt7ImsiOiIiLCJraWQiOiJrIiwia3R5Ijo" ++
    "ib2N0In1dfSwibWV0YWRhdGEiOnsiZmVkZXJhdGlvbl9lbnRpdHkiOnsiZmVkZXJhdGlvbl9mZXRjaF9lbmRwb2ludC" ++
    "I6InQ6ZiJ9fSwic3ViIjoidDoifQ"

/-- The anchor `t:`. -/
def anchor : Verified :=
  ⟨⟨token anchorPayload, header, claims "t:" "t:" "" [] (fetchingClaim "t:f")⟩,
    configuration "t:" [] (fetching "t:f")⟩

def boundPayload : String :=
  "eyJleHAiOjksImlhdCI6MSwiaXNzIjoidDoiLCJqd2tzIjp7ImtleXMiOlt7ImsiOiJ4Iiwia2lkIjoiayIsImt0eSI" ++
    "6Im9jdCJ9XX0sInN1YiI6InM6In0"

/-- The statement of `t:` about `s:`, which names another key `k`. -/
def bound : Token :=
  ⟨token boundPayload, header, claims "t:" "s:" "x" [] []⟩

theorem decode_token {payload : String} {claims : List Json.Member}
    (hpayload : Token.IsSegment payload) (hclaims : Token.claimsOf payload = .ok claims) :
    Token.decode (token payload) = .ok ⟨token payload, header, claims⟩ :=
  Token.decode_compact (by decide +kernel) hpayload (by decide) (by decide +kernel) hclaims

theorem decoded : Token.decode (token leafPayload) = .ok leaf.token ∧
    Token.decode (token anchorPayload) = .ok anchor.token ∧
    Token.decode (token boundPayload) = .ok bound := by
  refine ⟨decode_token ?_ ?_, decode_token ?_ ?_, decode_token ?_ ?_⟩
  all_goals decide +kernel

/-- Pages of a federation in which `t:` speaks about `s:`, and `x:` shows the page of `s:`. -/
def pages (url : String) : String :=
  ([("s:/.well-known/openid-federation", token leafPayload),
    ("x:/.well-known/openid-federation", token leafPayload),
    ("t:/.well-known/openid-federation", token anchorPayload),
    ("t:f?sub=s%3A", token boundPayload)].lookup url).getD ""

/-- Only the key without a secret ever signed anything. -/
def signs (_ : String) (k : Jwk) : Bool :=
  k.material == .octets ""

def world : World :=
  .fixed pages signs

def hop : Hop :=
  ⟨"t:/.well-known/openid-federation", token anchorPayload, anchor, "t:f?sub=s%3A",
    token boundPayload, "k"⟩

def chain : TrustChain :=
  ⟨[token leafPayload, token boundPayload, token anchorPayload]⟩

theorem leaf_verified {pages : String → String} :
    (World.fixed pages signs).SelfVerified (token leafPayload) leaf :=
  ⟨decoded.1, rfl, rfl⟩

theorem anchor_verified {pages : String → String} :
    (World.fixed pages signs).SelfVerified (token anchorPayload) anchor :=
  ⟨decoded.2.1, rfl, rfl⟩

theorem setsOut {id url : String} (hlocated : Location.configuration id = .ok url)
    (hpage : pages url = token leafPayload) :
    SetsOut world id url (token leafPayload) leaf "k" :=
  ⟨hlocated, congrArg Except.ok hpage, leaf_verified, rfl⟩

theorem lists_key (issuer subject secret : String) :
    ∃ k ∈ (statement issuer subject secret).keys.keys, k.id = some "k" :=
  ⟨_, List.mem_singleton_self _, rfl⟩

theorem taken {s : Moment} (hfresh : hop.configurationUrl ∉ s.visited) :
    hop.Taken world (.foot leaf "k" (token leafPayload)) "t:" s := by
  refine ⟨rfl, hfresh, rfl, anchor_verified, rfl, by decide +kernel, rfl, bound,
    statement "t:" "s:" "x", ?_⟩
  exact ⟨decoded.2.2, rfl, rfl, rfl, rfl, lists_key _ _ _, rfl⟩

theorem findChain_world (id url : String) (levels : Nat)
    (hlocated : Location.configuration id = .ok url) (hpage : pages url = token leafPayload)
    (hfresh : hop.configurationUrl ≠ url) :
    world.findChain id ["t:"] (levels + 1) =
      (.ok (some chain), (hop.after (.first url (token leafPayload))).past) := by
  have htaken := taken (s := .first url (token leafPayload)) (by simpa [Moment.first] using hfresh)
  have hordered : (Goal.ofAnchors ["t:"]).ordered ["a:", "t:"] = [] ++ "t:" :: ["a:"] := rfl
  refine findChain_eq_some.mpr ⟨url, _, leaf, "k", _, setsOut hlocated hpage, ?_, rfl⟩
  refine yields_followAny_some.mpr ⟨[], "t:", ["a:"], _, hordered,
    yields_followAny_nil.mpr ⟨rfl, rfl⟩, ?_⟩
  exact yields_follow_some.mpr ⟨hop, htaken, .inl ⟨rfl, rfl, rfl⟩⟩

theorem leaf_carries : leaf.token.Carries leaf.configuration.toStatementCore :=
  (EntityConfiguration.carries_of_ofToken rfl).1

theorem bound_carries : bound.Carries (statement "t:" "s:" "x").toStatementCore :=
  SubordinateStatement.carries_of_ofToken rfl

def start : Moment :=
  .first "s:/.well-known/openid-federation" (token leafPayload)

theorem findChain_leaf :
    world.findChain "s:" ["t:"] 1 = (.ok (some chain), (hop.after start).past) :=
  findChain_world "s:" "s:/.well-known/openid-federation" 0 rfl rfl (by decide)

end Sample

/-- The chain that is found for `s:` is sound. -/
theorem findChain_sound_sample :
    Sample.world.findChain "s:" ["t:"] 1 =
        (.ok (some Sample.chain), (Sample.hop.after Sample.start).past) ∧
      Sample.world.Sound "s:" ["t:"] 1 (Sample.hop.after Sample.start).past
        Sample.chain.statements :=
  ⟨Sample.findChain_leaf, findChain_sound Sample.findChain_leaf⟩

end Discovery
end EntityTrust
