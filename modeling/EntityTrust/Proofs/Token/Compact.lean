import EntityTrust.Proofs.Outcome
import EntityTrust.Token.Basic
import Mathlib.Data.List.DropRight

/-!
# Tokens in compact form

Three segments written one after another with dots between them.

**Results.**
* `Token.fields_compact`: cutting the written form gives the segments back.
* `Token.decode_compact`: decoding the written form reads the header from the first segment and the
  claims from the second; nothing else of the text counts.
* `Token.exists_segments`: conversely every text that decodes is, without the white space around
  it, the written form of three segments that say what was decoded.
-/

namespace EntityTrust

namespace Text

section Cuts

variable {sep : Char}

theorem cut_of_free :
    ∀ l : List Char, (∀ c ∈ l, c ≠ sep) → cut sep l = [l]
  | [], _ => rfl
  | c :: l, hl => by
      have hc : c ≠ sep := hl c (by simp)
      have ih := cut_of_free l (fun d hd => hl d (List.mem_cons_of_mem _ hd))
      simp [cut, hc, ih]

theorem cut_append :
    ∀ l r : List Char, (∀ c ∈ l, c ≠ sep) → cut sep (l ++ sep :: r) = l :: cut sep r
  | [], r, _ => by simp [cut]
  | c :: l, r, hl => by
      have hc : c ≠ sep := hl c (by simp)
      have ih := cut_append l r (fun d hd => hl d (List.mem_cons_of_mem _ hd))
      simp [cut, hc, ih]

theorem cut_ne_nil (l : List Char) : cut sep l ≠ [] := by
  cases l with
  | nil => simp [cut]
  | cons c l =>
      unfold cut
      split
      · simp
      · split <;> simp

/-- The first of the pieces that a cut makes has no separator in it, and is either all or followed
by one. -/
theorem of_cut_eq_cons {piece : List Char} {pieces : List (List Char)} :
    ∀ {l : List Char}, cut sep l = piece :: pieces →
      (∀ c ∈ piece, c ≠ sep) ∧
        (pieces = [] ∧ l = piece ∨ ∃ r, cut sep r = pieces ∧ l = piece ++ sep :: r)
  | [], h => by
      cases h
      simp
  | c :: l, h => by
      by_cases hc : c = sep
      · subst hc
        simp only [cut, if_true, List.cons.injEq] at h
        obtain ⟨rfl, rfl⟩ := h
        exact ⟨by simp, .inr ⟨l, rfl, rfl⟩⟩
      · rw [cut, if_neg hc] at h
        split at h
        · rename_i hnil
          exact absurd hnil (cut_ne_nil l)
        · rename_i p ps hcut
          cases h
          obtain ⟨hfree, hrest⟩ := of_cut_eq_cons hcut
          refine ⟨?_, ?_⟩
          · intro d hd
            rcases List.mem_cons.mp hd with rfl | hd
            · exact hc
            · exact hfree d hd
          · rcases hrest with ⟨rfl, rfl⟩ | ⟨r, rfl, rfl⟩
            · exact .inl ⟨rfl, rfl⟩
            · exact .inr ⟨r, rfl, rfl⟩

theorem splitLast_append {l r : List Char} (hr : ∀ c ∈ r, c ≠ sep) :
    splitLast sep (String.ofList (l ++ sep :: r)) =
      some (String.ofList l, String.ofList r) := by
  have hrev : ∀ c ∈ r.reverse, (c != sep) = true := by
    intro c hc
    simpa using hr c (List.mem_reverse.mp hc)
  have hdrop : (r.reverse ++ sep :: l.reverse).dropWhile (· != sep) = sep :: l.reverse := by
    rw [List.dropWhile_append_of_pos hrev]
    simp
  have htake : (r.reverse ++ sep :: l.reverse).takeWhile (· != sep) = r.reverse := by
    rw [List.takeWhile_append_of_pos hrev]
    simp
  simp [splitLast, hdrop, htake]

end Cuts

theorem dropWhile_of_free {p : Char → Bool} :
    ∀ l : List Char, (∀ c ∈ l, p c = false) → l.dropWhile p = l
  | [], _ => rfl
  | c :: l, hl => by simp [hl c (by simp)]

theorem trimBlank_of_free {s : String} (hs : ∀ c ∈ s.toList, isBlank c = false) :
    trimBlank s = s := by
  have hback : s.toList.reverse.dropWhile isBlank = s.toList.reverse :=
    dropWhile_of_free _ (fun c hc => hs c (List.mem_reverse.mp hc))
  simp [trimBlank, trimBy, dropEnd, dropWhile_of_free _ hs, hback]

theorem trimBy_trimBy (p : Char → Bool) (s : String) : trimBy p (trimBy p s) = trimBy p s := by
  have hdrop : ∀ l : List Char, dropEnd p l = l.rdropWhile p := fun _ => rfl
  have hfront : ((s.toList.dropWhile p).rdropWhile p).dropWhile p =
      (s.toList.dropWhile p).rdropWhile p := by
    have hhead := List.head?_dropWhile_not p s.toList
    obtain ⟨rest, hrest⟩ := List.rdropWhile_prefix p (l := s.toList.dropWhile p)
    cases hl : (s.toList.dropWhile p).rdropWhile p with
    | nil => rfl
    | cons c l =>
        rw [← hrest, hl] at hhead
        exact List.dropWhile_cons_of_neg (by simpa using hhead)
  simp only [trimBy, String.toList_ofList, hdrop, hfront, List.rdropWhile_idempotent]

end Text

namespace Token

/-- Whether a text can stand between the dots: no dot in it, and no white space. -/
def IsSegment (s : String) : Prop :=
  ∀ c ∈ s.toList, c ≠ '.' ∧ Text.isBlank c = false

instance (s : String) : Decidable (IsSegment s) :=
  List.decidableBAll (fun c => c ≠ '.' ∧ Text.isBlank c = false) s.toList

/-- Three segments in compact form. -/
def compact (header payload signature : String) : String :=
  header ++ "." ++ payload ++ "." ++ signature

/-- The three segments of a text, cut at its dots, and what they say of a token. -/
structure Segments (text : String) (t : Token) (header payload signature : String) : Prop where
  fields : Text.fields '.' (Text.trimBlank text) = [header, payload, signature]
  raw : t.raw = Text.trimBlank text
  header : (Header.segment header).bind Header.ofOctets = .ok t.header
  claims : claimsOf payload = .ok t.claims

section Compact

variable {header payload signature : String}

theorem toList_compact :
    (compact header payload signature).toList =
      header.toList ++ '.' :: (payload.toList ++ '.' :: signature.toList) := by
  simp [compact]

section Dotless

variable (hs : ∀ c ∈ signature.toList, c ≠ '.')
include hs

theorem splitLast_compact :
    Text.splitLast '.' (compact header payload signature) =
      some (header ++ "." ++ payload, signature) := by
  have := Text.splitLast_append (l := (header ++ "." ++ payload).toList) hs
  rw [← String.ofList_toList (s := compact header payload signature), toList_compact]
  simpa [String.append_assoc] using this

theorem headerOf_compact (hp : ∀ c ∈ payload.toList, c ≠ '.') :
    Header.ofCompact (compact header payload signature) =
      (Header.segment header).bind Header.ofOctets := by
  have hinner : Text.splitLast '.' (header ++ "." ++ payload) = some (header, payload) := by
    have := Text.splitLast_append (l := header.toList) hp
    rw [← String.ofList_toList (s := header ++ "." ++ payload)]
    simpa using this
  simp only [Header.ofCompact, splitLast_compact hs, hinner]
  rfl

end Dotless

section Segments

variable (hh : IsSegment header) (hp : IsSegment payload) (hs : IsSegment signature)
include hh hp hs

theorem isBlank_compact :
    ∀ c ∈ (compact header payload signature).toList, Text.isBlank c = false := by
  intro c hc
  rw [toList_compact] at hc
  simp only [List.mem_append, List.mem_cons] at hc
  rcases hc with hc | rfl | hc | rfl | hc
  · exact (hh c hc).2
  · rfl
  · exact (hp c hc).2
  · rfl
  · exact (hs c hc).2

theorem trimBlank_compact :
    Text.trimBlank (compact header payload signature) = compact header payload signature :=
  Text.trimBlank_of_free (isBlank_compact hh hp hs)

theorem fields_compact :
    Text.fields '.' (compact header payload signature) = [header, payload, signature] := by
  rw [Text.fields, toList_compact,
    Text.cut_append _ _ (fun c hc => (hh c hc).1),
    Text.cut_append _ _ (fun c hc => (hp c hc).1),
    Text.cut_of_free _ (fun c hc => (hs c hc).1)]
  simp

/-- A token in compact form decodes to what its first two segments say. -/
theorem decode_compact {h : Header} {claims : List Json.Member}
    (hheader : (Header.segment header).bind Header.ofOctets = .ok h)
    (hclaims : claimsOf payload = .ok claims) :
    decode (compact header payload signature) =
      .ok ⟨compact header payload signature, h, claims⟩ := by
  have hread : headerOf (compact header payload signature) = .ok h := by
    simp only [headerOf, headerOf_compact (fun c hc => (hs c hc).1) (fun c hc => (hp c hc).1),
      hheader]
  simp only [decode, trimBlank_compact hh hp hs, fields_compact hh hp hs, hread, hclaims]
  rfl

end Segments

/-- Cutting a text into three fields is the inverse of writing them in compact form. -/
theorem eq_compact_of_fields {raw : String}
    (h : Text.fields '.' raw = [header, payload, signature]) :
    raw = compact header payload signature ∧ (∀ c ∈ payload.toList, c ≠ '.') ∧
      ∀ c ∈ signature.toList, c ≠ '.' := by
  have hcut : Text.cut '.' raw.toList = [header.toList, payload.toList, signature.toList] := by
    have := congrArg (List.map String.toList) h
    simpa [Text.fields, Function.comp_def] using this
  obtain ⟨-, ⟨hnil, -⟩ | ⟨rest, hrest, hraw⟩⟩ := Text.of_cut_eq_cons hcut
  · cases hnil
  obtain ⟨hpayload, ⟨hnil, -⟩ | ⟨last, hlast, rfl⟩⟩ := Text.of_cut_eq_cons hrest
  · cases hnil
  obtain ⟨hsignature, ⟨-, rfl⟩ | ⟨more, hmore, -⟩⟩ := Text.of_cut_eq_cons hlast
  · refine ⟨String.toList_inj.mp ?_, hpayload, hsignature⟩
    rw [hraw, toList_compact]
  · exact absurd hmore (Text.cut_ne_nil more)

theorem headerOf_eq_ok {raw : String} {h : Header} :
    headerOf raw = .ok h ↔ Header.ofCompact raw = .ok h := by
  unfold headerOf
  cases Header.ofCompact raw <;> simp

/-- A text that decodes has three segments, which say what was decoded. -/
theorem exists_segments {text : String} {t : Token} (h : decode text = .ok t) :
    ∃ header payload signature, Segments text t header payload signature := by
  simp only [decode] at h
  split at h
  · rename_i header payload signature hfields
    obtain ⟨hd, hheader, h⟩ := Outcome.bind_eq_ok.mp h
    obtain ⟨claims, hclaims, h⟩ := Outcome.bind_eq_ok.mp h
    cases h
    obtain ⟨hraw, hp, hs⟩ := eq_compact_of_fields hfields
    rw [headerOf_eq_ok, hraw, headerOf_compact hs hp] at hheader
    exact ⟨header, payload, signature, hfields, rfl, hheader, hclaims⟩
  · cases h

end Compact

end Token
end EntityTrust
