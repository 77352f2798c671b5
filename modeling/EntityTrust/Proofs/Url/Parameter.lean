import EntityTrust.Proofs.Url.Legible
import EntityTrust.Statement.Location

/-!
# The subject as one parameter

A subject is written into the query of a fetch endpoint, whatever its characters are.  The written
URL is cut into its parts by the marks between them, without regard to how a URL is read; the query
is then the one of the endpoint with one more pair, and all other parts are those of the endpoint.

**Results.**
* `ofText_render`: a legible URL that is written is cut into its own parts.
* `parse_appendPair`: a written URL with one more pair is read as the URL without it is, with the
  pair.
* `subordinate_exact`: the URL of a statement at an endpoint.
-/

namespace EntityTrust
namespace Url

/-- The parts of a written URL. -/
structure Parts where
  scheme : List Char
  authority : Option (List Char)
  path : List Char
  query : Option (List Char)
  fragment : Option (List Char)

namespace Parts

/-- The authority behind a double slash, up to the next slash, and the path. -/
def splitAuthority : List Char → Option (List Char) × List Char
  | '/' :: '/' :: rest => (some (rest.takeWhile (· != '/')), rest.dropWhile (· != '/'))
  | path => (none, path)

/-- Cuts a text at the marks between the parts of a URL. -/
def ofText (s : String) : Option Parts :=
  match splitAt ':' s.toList with
  | (_, none) => none
  | (scheme, some rest) =>
      let (rest, fragment) := splitAt '#' rest
      let (body, query) := splitAt '?' rest
      let (authority, path) := splitAuthority body
      some ⟨scheme, authority, path, query, fragment⟩

end Parts

/-- The parts of a URL as they are written. -/
def parts (u : Url) : Parts :=
  ⟨u.scheme, u.authority.map Authority.render, u.renderPath, u.query, u.fragment⟩

/-- What is written between the scheme and the query. -/
def body (u : Url) : List Char :=
  (match u.authority with
    | some a => '/' :: '/' :: a.render
    | none => []) ++ u.renderPath

open Percent

variable {u : Url}

theorem toList_render (u : Url) :
    u.render.toList =
      u.scheme ++ ':' :: (u.body ++ renderPart '?' u.query ++ renderPart '#' u.fragment) :=
  String.toList_ofList

theorem renderPath_cases (u : Url) :
    u.renderPath = u.path ∨ u.renderPath = '/' :: '.' :: u.path := by
  unfold renderPath
  split
  · exact .inr rfl
  · exact .inl rfl

namespace Legible

/-- The body of a legible URL holds no mark. -/
theorem body_free (h : Legible u) : ∀ c ∈ u.body, 0x20 ≤ c.toNat ∧ c ≠ '?' ∧ c ≠ '#' := by
  refine List.forall_mem_append.mpr ⟨?_, ?_⟩
  · split
    · rename_i a ha
      refine List.forall_mem_cons.mpr ⟨by decide, List.forall_mem_cons.mpr ⟨by decide, ?_⟩⟩
      intro c hc
      obtain ⟨hvisible, -, hquery, hfragment⟩ := h.authority a ha c hc
      exact ⟨Nat.le_of_lt hvisible, hquery, hfragment⟩
    · simp
  · rcases renderPath_cases u with hpath | hpath
    · rw [hpath]
      exact h.path
    · rw [hpath]
      exact List.forall_mem_cons.mpr ⟨by decide, List.forall_mem_cons.mpr ⟨by decide, h.path⟩⟩

theorem query_free (h : Legible u) :
    ∀ c ∈ renderPart '?' u.query, 0x20 < c.toNat ∧ c ≠ '#' := by
  have hset (k : SchemeKind) {c : Char} (hc : c.toNat < 0x80) (hkept : querySet k c = false) :
      0x20 < c.toNat ∧ c ≠ '#' := by
    revert hkept
    unfold querySet
    split
    · exact Char.forall_ascii (p := fun c => specialQuery c = false → 0x20 < c.toNat ∧ c ≠ '#')
        (by decide +kernel) hc
    · exact Char.forall_ascii (p := fun c => Percent.query c = false → 0x20 < c.toNat ∧ c ≠ '#')
        (by decide +kernel) hc
  cases hq : u.query with
  | none => simp [renderPart]
  | some q =>
      refine List.forall_mem_cons.mpr ⟨by decide, fun c hc => ?_⟩
      exact hset _ (h.query q hq c hc).1 (h.query q hq c hc).2

theorem fragment_visible (h : Legible u) :
    ∀ c ∈ renderPart '#' u.fragment, 0x20 < c.toNat := by
  cases hf : u.fragment with
  | none => simp [renderPart]
  | some f =>
      refine List.forall_mem_cons.mpr ⟨by decide, fun c hc => ?_⟩
      exact Char.forall_ascii (p := fun c => Percent.fragment c = false → 0x20 < c.toNat)
        (by decide +kernel) (h.fragment f hf c hc).1 (h.fragment f hf c hc).2

/-- The body of a legible URL starts with a double slash only before an authority. -/
theorem splitAuthority_body (h : Legible u) :
    Parts.splitAuthority u.body = (u.authority.map Authority.render, u.renderPath) := by
  have hslash (more : List Char) : ('/' :: more).takeWhile (· != '/') = [] := by simp
  cases ha : u.authority with
  | some a =>
      have hfree : ∀ c ∈ a.render, (c != '/') = true := fun c hc => by
        simpa using (h.authority a ha c hc).2.1
      have hpath : u.renderPath = u.path := by simp only [renderPath, ha]
      have hbody : u.body = '/' :: '/' :: (a.render ++ u.path) := by
        simp only [body, ha, hpath, List.cons_append]
      rw [hbody, hpath, Parts.splitAuthority, List.takeWhile_append_of_pos hfree,
        List.dropWhile_append_of_pos hfree]
      rcases h.rooted (by simp [ha]) with hroot | ⟨more, hroot⟩
      · simp [hroot]
      · simp [hroot]
  | none =>
      have hbody : u.body = u.renderPath := by simp only [body, ha, List.nil_append]
      have hopen : ∀ more, u.renderPath ≠ '/' :: '/' :: more := by
        unfold renderPath
        rw [ha]
        split
        · simp
        · rename_i hne
          exact fun more heq => hne more rfl heq
      rw [hbody]
      unfold Parts.splitAuthority
      split
      · rename_i more heq
        exact absurd heq (hopen more)
      · rfl

end Legible

/-- A legible URL that is written is cut into its own parts. -/
theorem ofText_render (h : Legible u) : Parts.ofText u.render = some u.parts := by
  have hscheme : splitAt ':' u.render.toList =
      (u.scheme, some (u.body ++ renderPart '?' u.query ++ renderPart '#' u.fragment)) := by
    refine splitAt_eq_iff.mpr ⟨toList_render u, fun c hc => ?_⟩
    have hchar := h.scheme.chars c hc
    rintro rfl
    revert hchar
    decide
  have hfragment : splitAt '#' (u.body ++ renderPart '?' u.query ++ renderPart '#' u.fragment) =
      (u.body ++ renderPart '?' u.query, u.fragment) :=
    splitAt_append <| List.forall_mem_append.mpr
      ⟨fun c hc => (h.body_free c hc).2.2, fun c hc => (h.query_free c hc).2⟩
  have hquery : splitAt '?' (u.body ++ renderPart '?' u.query) = (u.body, u.query) :=
    splitAt_append fun c hc => (h.body_free c hc).2.1
  unfold Parts.ofText
  simp only [hscheme, hfragment, hquery, h.splitAuthority_body]
  rfl

section Reading

variable {cs : List Char}

/-- All characters count when none is a control and the first and the last one are visible. -/
theorem significant_of_visible {s : String} {c : Char} (hs : s.toList = c :: cs)
    (hall : ∀ d ∈ s.toList, 0x20 ≤ d.toNat) (hfirst : 0x20 < c.toNat)
    (hlast : EndsVisibly s.toList) : significant s = s.toList := by
  rw [hs] at hall hlast
  have hstart : (c :: cs).dropWhile (fun c => decide (c.toNat ≤ 0x20)) = c :: cs :=
    List.dropWhile_cons_of_neg (by simpa using hfirst)
  have hend : Text.dropEnd (fun c => decide (c.toNat ≤ 0x20)) (c :: cs) = c :: cs := by
    obtain ⟨front, last, hconcat⟩ := List.eq_nil_or_concat' (c :: cs) |>.resolve_left (by simp)
    have hvisible : 0x20 < last.toNat := hlast last (by rw [hconcat]; simp)
    rw [Text.dropEnd, hconcat, List.reverse_append, List.reverse_singleton, List.singleton_append,
      List.dropWhile_cons_of_neg (by simpa using hvisible)]
    simp
  unfold significant
  dsimp only
  rw [hs, hstart, hend, List.filter_eq_self]
  intro d hd
  have hd := hall d hd
  simp only [Bool.and_eq_true, bne_iff_ne, ne_eq]
  refine ⟨⟨?_, ?_⟩, ?_⟩ <;> (rintro rfl; revert hd; decide)

namespace Legible

theorem scheme_visible (h : Legible u) : ∀ c ∈ u.scheme, 0x20 < c.toNat := fun c hc =>
  Char.forall_ascii (p := fun c => isSchemeChar c = true → 0x20 < c.toNat) (by decide +kernel)
    (ascii_of_isSchemeChar (h.scheme.chars c hc)) (h.scheme.chars c hc)

theorem endsVisibly_body (h : Legible u) (hquery : u.query = none) (hfragment : u.fragment = none) :
    EndsVisibly u.body := by
  have hpath : EndsVisibly u.renderPath := by
    rcases renderPath_cases u with hrender | hrender
    · rw [hrender]
      exact h.ends hquery hfragment
    · have hdot : u.renderPath = ['/', '.'] ++ u.path := hrender
      rw [hdot]
      exact (h.ends hquery hfragment).append fun _ =>
        .of_forall (List.all_iff_forall_prop.mp (by decide))
  refine hpath.append fun _ => .of_forall ?_
  split
  · rename_i a ha
    refine List.forall_mem_cons.mpr ⟨by decide, List.forall_mem_cons.mpr ⟨by decide, ?_⟩⟩
    exact fun c hc => (h.authority a ha c hc).1
  · simp

/-- All characters of a legible URL count. -/
theorem significant_render (h : Legible u) : significant u.render = u.render.toList := by
  have hends : EndsVisibly u.render.toList := by
    rw [toList_render, ← List.singleton_append, ← List.append_assoc]
    refine EndsVisibly.append ?_ fun _ => ?_
    · refine (EndsVisibly.of_forall h.fragment_visible).append fun hfragment => ?_
      refine (EndsVisibly.of_forall fun c hc => (h.query_free c hc).1).append fun hquery => ?_
      refine h.endsVisibly_body ?_ ?_
      · cases hq : u.query with
        | none => rfl
        | some q => simp [hq, renderPart] at hquery
      · cases hf : u.fragment with
        | none => rfl
        | some f => simp [hf, renderPart] at hfragment
    · exact EndsVisibly.append (.of_forall (List.forall_mem_singleton.mpr (by decide))) (by simp)
  have hall : ∀ c ∈ u.render.toList, 0x20 ≤ c.toNat := by
    rw [toList_render]
    refine List.forall_mem_append.mpr ⟨fun c hc => Nat.le_of_lt (h.scheme_visible c hc), ?_⟩
    refine List.forall_mem_cons.mpr ⟨by decide, List.forall_mem_append.mpr ⟨?_, ?_⟩⟩
    · exact List.forall_mem_append.mpr
        ⟨fun c hc => (h.body_free c hc).1, fun c hc => Nat.le_of_lt (h.query_free c hc).1⟩
    · exact fun c hc => Nat.le_of_lt (h.fragment_visible c hc)
  obtain ⟨c, rest, hscheme, -⟩ := h.scheme.starts
  have hstarts : u.render.toList =
      c :: (rest ++ ':' :: (u.body ++ renderPart '?' u.query ++ renderPart '#' u.fragment)) := by
    rw [toList_render, hscheme, List.cons_append]
  have hfirst : 0x20 < c.toNat := h.scheme_visible c (by simp [hscheme])
  exact significant_of_visible hstarts hall hfirst hends

/-- How a written body is read does not hang on what stands behind it. -/
theorem readBody_followed (h : Legible u) (followed followed' : Bool) :
    readBody (schemeKind u.scheme) followed u.body =
      readBody (schemeKind u.scheme) followed' u.body := by
  cases hk : schemeKind u.scheme with
  | special port =>
      simp only [readBody]
      rw [parseAuthority_special port followed']
  | file => rfl
  | other =>
      unfold readBody
      dsimp only
      split
      · rename_i more hbody
        have hsplit := h.splitAuthority_body
        rw [hbody, Parts.splitAuthority, Prod.mk.injEq] at hsplit
        obtain ⟨a, ha, hrender⟩ := Option.map_eq_some_iff.mp hsplit.1.symm
        have hslash : (fun c => !SchemeKind.other.isSlash c) = (· != '/') := by
          funext c
          simp [SchemeKind.isSlash, SchemeKind.isSpecial, bne]
        have hnamed : more.takeWhile (!SchemeKind.other.isSlash ·) ≠ ['@'] := by
          rw [hslash, ← hrender]
          exact h.named hk a ha
        rw [parseAuthority_followed hnamed followed']
      · rfl
      · rfl

/-- A legible URL that is written is read as its body is. -/
theorem parse_render (h : Legible u) (followed : Bool) :
    parse u.render = (readBody (schemeKind u.scheme) followed u.body).map fun r =>
      ⟨u.scheme, r.1, r.2, u.query, u.fragment⟩ := by
  have hcut : splitScheme (significant u.render) =
      some (u.scheme, u.body ++ renderPart '?' u.query ++ renderPart '#' u.fragment) := by
    rw [h.significant_render]
    exact splitScheme_eq_some.mpr ⟨u.scheme, h.scheme, toList_render u, h.lower.symm⟩
  have hquery_free : ∀ q, u.query = some q → ∀ c ∈ q, c ≠ '#' := fun q hq c hc =>
    (h.query_free c (by rw [hq]; exact List.mem_cons_of_mem _ hc)).2
  have hquery : u.query.map (encode (querySet (schemeKind u.scheme))) = u.query := by
    cases hq : u.query with
    | none => rfl
    | some q => rw [Option.map_some, encode_of_encoded (h.query q hq)]
  have hfragment : u.fragment.map (encode Percent.fragment) = u.fragment := by
    cases hf : u.fragment with
    | none => rfl
    | some f => rw [Option.map_some, encode_of_encoded (h.fragment f hf)]
  rw [parse_of_parts hcut (fun c hc => (h.body_free c hc).2) hquery_free, hquery, hfragment,
    h.readBody_followed _ followed]

/-- What an encoded name or value is written with is not encoded in a query. -/
theorem encoded_encodeText (k : SchemeKind) (s : String) :
    Encoded (querySet k) (Form.encodeText s) := by
  have hset {c : Char} (hc : specialQuery c = false) : querySet k c = false := by
    unfold querySet
    split
    · exact hc
    · exact (Bool.or_eq_false_iff.mp hc).1
  have hdigit : ∀ n < 16, (hexDigit n).toNat < 0x80 ∧ specialQuery (hexDigit n) = false := by
    decide
  have hplain {c : Char} (hc : Form.isPlain c = true) : specialQuery c = false :=
    Char.forall_ascii (p := fun c => Form.isPlain c = true → specialQuery c = false)
      (by decide +kernel) (ascii_of_isPlain hc) hc
  intro c hc
  obtain ⟨d, -, hc⟩ := List.mem_flatMap.mp hc
  split at hc
  · rename_i hd
    obtain rfl := List.mem_singleton.mp hc
    exact ⟨ascii_of_isPlain hd, hset (hplain hd)⟩
  · split at hc
    · obtain rfl := List.mem_singleton.mp hc
      exact ⟨by decide, hset (by decide)⟩
    · obtain ⟨b, -, hb⟩ := List.mem_flatMap.mp hc
      rcases Form.mem_encodeOctet hb with rfl | ⟨n, hn, rfl⟩
      · exact ⟨by decide, hset (by decide)⟩
      · exact (hdigit n hn).imp_right hset

/-- One more pair leaves an encoded query encoded. -/
theorem encoded_append {k : SchemeKind} {query : List Char} (h : Encoded (querySet k) query)
    (name value : String) : Encoded (querySet k) (Form.append query name value) := by
  have hampersand : ('&').toNat < 0x80 ∧ querySet k '&' = false := by
    unfold querySet
    split <;> decide
  have hequals : ('=').toNat < 0x80 ∧ querySet k '=' = false := by
    unfold querySet
    split <;> decide
  refine List.forall_mem_append.mpr ⟨?_, ?_⟩
  · split
    · simp
    · exact List.forall_mem_append.mpr ⟨h, by simpa using hampersand⟩
  · exact List.forall_mem_append.mpr
      ⟨encoded_encodeText k name, List.forall_mem_cons.mpr ⟨hequals, encoded_encodeText k value⟩⟩

/-- One more pair leaves a URL legible. -/
theorem appendPair (h : Legible u) (name value : String) : Legible (u.appendPair name value) := by
  refine { h with ends := nofun, query := ?_ }
  rintro q ⟨⟩
  refine encoded_append ?_ name value
  cases hq : u.query with
  | none => simp [Encoded]
  | some q => exact h.query q hq

/-- A written URL with one more pair is read as the URL without it is, with the pair. -/
theorem parse_appendPair (h : Legible u) (name value : String) :
    parse (u.appendPair name value).render = (parse u.render).map (·.appendPair name value) := by
  rw [(h.appendPair name value).parse_render true, h.parse_render true]
  have hbody : (u.appendPair name value).body = u.body := rfl
  have hscheme : (u.appendPair name value).scheme = u.scheme := rfl
  rw [hbody, hscheme]
  cases readBody (schemeKind u.scheme) true u.body <;> rfl

end Legible

end Reading

end Url

namespace Location

open Url

/-- The subject reaches the fetch endpoint as one more parameter behind those of the endpoint, and
nothing else of the endpoint changes, neither as it is written nor as it is read again.  So
different subjects are asked for at different URLs. -/
theorem subordinate_exact {endpoint : String} {e : Url} (h : Url.parse endpoint = .ok e)
    (subject : String) :
    ∃ url query, subordinate endpoint subject = .ok url ∧
      Parts.ofText url = some ⟨e.scheme, e.authority.map Authority.render, e.renderPath, some query,
        e.fragment⟩ ∧
      Form.decode query = e.queryPairs ++ [("sub", subject)] ∧
      Url.parse url = (Url.parse e.render).map (·.appendPair "sub" subject) ∧
      ∀ other, subordinate endpoint other = .ok url → other = subject := by
  have hlegible := legible_of_parse h
  have hurl (subject : String) :
      subordinate endpoint subject = .ok (e.appendPair "sub" subject).render := by
    simp only [subordinate, parseFor, h, Except.map]
  have hparts (subject : String) := ofText_render (hlegible.appendPair "sub" subject)
  have hpairs (subject : String) := Form.decode_append (e.query.getD []) "sub" subject
  refine ⟨_, _, hurl subject, hparts subject, hpairs subject,
    hlegible.parse_appendPair "sub" subject, fun other hother => ?_⟩
  have hrender : (e.appendPair "sub" other).render = (e.appendPair "sub" subject).render :=
    Except.ok.inj ((hurl other).symm.trans hother)
  have hquery : Form.append (e.query.getD []) "sub" other =
      Form.append (e.query.getD []) "sub" subject := by
    have hsame := (hparts other).symm.trans (hrender ▸ hparts subject)
    exact Option.some.inj (congrArg Parts.query (Option.some.inj hsame))
  have hlast := (hpairs other).symm.trans (hquery ▸ hpairs subject)
  simpa using List.append_cancel_left hlast

/-- A subject of marks and separators, at an endpoint with a query and a fragment. -/
theorem subordinate_exact_sample :
    ∃ e, Url.parse "web://host/a/../fetch?x=1&#top" = .ok e ∧
      ∃ url query, subordinate "web://host/a/../fetch?x=1&#top" "a&sub=b#c +%" = .ok url ∧
        Parts.ofText url = some ⟨"web".toList, some "host".toList, "/fetch".toList, some query,
          some "top".toList⟩ ∧
        Form.decode query = [("x", "1"), ("sub", "a&sub=b#c +%")] := by
  have hread : Url.parse "web://host/a/../fetch?x=1&#top" =
      .ok ⟨"web".toList, some ⟨[], [], .name "host".toList, none⟩, "/fetch".toList,
        some "x=1&".toList, some "top".toList⟩ := by decide +kernel
  obtain ⟨url, query, hurl, hparts, hpairs, -⟩ := subordinate_exact hread "a&sub=b#c +%"
  have hown : Form.decode "x=1&".toList = [("x", "1")] := by decide +kernel
  exact ⟨_, hread, url, query, hurl, hparts, hpairs.trans (congrArg (· ++ _) hown)⟩

end Location
end EntityTrust
