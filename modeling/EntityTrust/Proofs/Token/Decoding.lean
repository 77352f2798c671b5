import EntityTrust.Proofs.Text.Base64
import EntityTrust.Proofs.Token.Header

/-!
# Decoding what is written

Decoding inverts the compact form of a token, however its header and its claims are spelled.

**Input.**  Three segments with dots between them and white space around them.  The first one spells
a header; the second one, padded or not, spells a payload; nothing is asked of the third one.

**Results.**
* `Token.claimsOf_text`, `Token.claimsOf_text_of_other`: what a payload segment is read as.
* `Token.conveys_written`: every header, with any claims, is conveyed by the token that is written
  with them.
* `Token.decode_exact`: what a text that conveys a header and a payload decodes to, and that a text
  with any other number of segments does not decode.
-/

namespace EntityTrust

namespace Text

/-- A text with white space around another one. -/
def Around (raw text : String) : Prop :=
  ∃ before after : String, (∀ c ∈ before.toList, isBlank c = true) ∧
    (∀ c ∈ after.toList, isBlank c = true) ∧ text = before ++ raw ++ after

variable {sep : Char} {raw text : String}

/-- White space around a text that holds none is trimmed. -/
theorem trimBlank_of_around (h : Around raw text) (hraw : ∀ c ∈ raw.toList, isBlank c = false) :
    trimBlank text = raw := by
  obtain ⟨before, after, hbefore, hafter, rfl⟩ := h
  have hend : (raw.toList ++ after.toList).rdropWhile isBlank = raw.toList := by
    have hback : raw.toList.reverse.dropWhile isBlank = raw.toList.reverse :=
      dropWhile_of_free _ fun c hc => hraw c (List.mem_reverse.mp hc)
    rw [List.rdropWhile, List.reverse_append,
      List.dropWhile_append_of_pos fun c hc => hafter c (List.mem_reverse.mp hc), hback,
      List.reverse_reverse]
  have hfront : dropEnd isBlank ((raw.toList ++ after.toList).dropWhile isBlank) = raw.toList := by
    cases hcs : raw.toList with
    | nil =>
        rw [List.nil_append, List.dropWhile_eq_nil_iff.mpr hafter]
        rfl
    | cons c cs =>
        have hc : isBlank c = false := hraw c (by simp [hcs])
        rw [List.cons_append, List.dropWhile_cons_of_neg (by simp [hc]), ← List.cons_append, ← hcs]
        exact hend
  rw [trimBlank, trimBy, String.toList_append, String.toList_append, List.append_assoc,
    List.dropWhile_append_of_pos hbefore, hfront, String.ofList_toList]

/-- There is one field more than separators. -/
theorem length_fields (sep : Char) (s : String) :
    (fields sep s).length = s.toList.count sep + 1 := by
  have hcut (cs : List Char) : (cut sep cs).length = cs.count sep + 1 := by
    induction cs with
    | nil => rfl
    | cons c cs ih =>
        unfold cut
        split
        · rename_i hc
          rw [hc, List.count_cons_self, List.length_cons, ih]
        · rename_i hc
          rw [List.count_cons_of_ne hc, ← ih]
          split
          · rename_i hnil
            exact absurd hnil (cut_ne_nil cs)
          · rename_i hcons
            rw [hcons]
            rfl
  rw [fields, List.length_map, hcut]

end Text

namespace Token

open Json

variable {raw text signature : String} {h : Header} {ms claims : List Member}
  {header payload : List UInt8} {k : Nat} {v : Json}

/-- A text conveys the members of a header and the octets of a payload. -/
inductive Conveys : String → List Member → List UInt8 → Prop
  | intro {header payload : List UInt8} {ms : List Member} {k : Nat} {signature : String}
      (hheader : Document id header (.object ms)) (hk : k ≤ Base64.paddingOf payload)
      (hsignature : IsSegment signature) :
      Conveys (compact (Base64.text header 0) (Base64.text payload k) signature) ms payload

/-- The octets of a payload segment are read as a document. -/
theorem claimsOf_text (hk : k ≤ Base64.paddingOf payload)
    (h : ofDocument payload = .ok (.object claims)) :
    claimsOf (Base64.text payload k) = .ok claims := by
  rw [claimsOf, Base64.encode_text, Base64.decode_padded (.inl rfl) hk]
  dsimp only
  rw [h]

/-- A payload that is no object has no claims. -/
theorem claimsOf_text_of_other (hk : k ≤ Base64.paddingOf payload) (h : ofDocument payload = .ok v)
    (hv : ∀ claims, v ≠ .object claims) :
    claimsOf (Base64.text payload k) =
      .error (.malformedToken "payload is not a JSON object") := by
  rw [claimsOf, Base64.encode_text, Base64.decode_padded (.inl rfl) hk]
  dsimp only
  rw [h]
  cases v with
  | object claims => exact absurd rfl (hv claims)
  | _ => rfl

theorem ofOctets_segment (hheader : Document id header (.object ms)) (hmeans : h.Means ms) :
    (Header.segment (Base64.text header 0)).bind Header.ofOctets = .ok h := by
  have hsegment : Header.segment (Base64.text header 0) = .ok header := by
    rw [Header.segment, Base64.encode_text, Base64.decode_padded (.inr rfl) (Nat.zero_le _)]
  rw [hsegment]
  exact Header.ofOctets_of_document hheader hmeans

/-- What a text that conveys a header decodes to depends on the payload alone. -/
theorem Conveys.decode_eq (hraw : Conveys raw ms payload) (htext : Text.Around raw text)
    (hmeans : h.Means ms) : ∃ k ≤ Base64.paddingOf payload,
      decode text = (claimsOf (Base64.text payload k)).map fun claims => ⟨raw, h, claims⟩ := by
  obtain ⟨hheader, hk, hsignature⟩ := hraw
  rename_i header k signature
  have hh := Base64.isSegment_text header 0
  have hp := Base64.isSegment_text payload k
  have htrim := Text.trimBlank_of_around htext (isBlank_compact hh hp hsignature)
  have hread :
      headerOf (compact (Base64.text header 0) (Base64.text payload k) signature) = .ok h :=
    headerOf_eq_ok.mpr <| by
      rw [headerOf_compact (fun c hc => (hsignature c hc).1) fun c hc => (hp c hc).1]
      exact ofOctets_segment hheader hmeans
  refine ⟨k, hk, ?_⟩
  rw [decode, htrim, fields_compact hh hp hsignature]
  dsimp only
  rw [hread, Outcome.ok_bind]
  cases claimsOf (Base64.text payload k) <;> rfl

/-- A text is decoded as a token, and so is the text that the token keeps. -/
structure DecodesTo (text : String) (t : Token) : Prop where
  token : decode text = .ok t
  again : decode t.raw = .ok t

theorem around_self (raw : String) : Text.Around raw raw :=
  ⟨"", "", nofun, nofun, by simp⟩

theorem Conveys.decodesTo (hraw : Conveys raw ms payload) (htext : Text.Around raw text)
    (hmeans : h.Means ms) (hclaims : Document ofMembers payload (.object claims)) :
    DecodesTo text ⟨raw, h, claims⟩ := by
  have hdecode {text : String} (htext : Text.Around raw text) :
      decode text = .ok ⟨raw, h, claims⟩ := by
    obtain ⟨k, hk, heq⟩ := hraw.decode_eq htext hmeans
    rw [heq, claimsOf_text hk (ofDocument_of_document hclaims)]
    rfl
  exact ⟨hdecode htext, hdecode (around_self raw)⟩

theorem Conveys.decode_of_other (hraw : Conveys raw ms payload) (htext : Text.Around raw text)
    (hmeans : h.Means ms) (hpayload : ofDocument payload = .ok v)
    (hv : ∀ claims, v ≠ .object claims) :
    decode text = .error (.malformedToken "payload is not a JSON object") := by
  obtain ⟨k, hk, heq⟩ := hraw.decode_eq htext hmeans
  rw [heq, claimsOf_text_of_other hk hpayload hv]
  rfl

/-- The octets of written claims. -/
def writtenClaims (claims : List Member) : List UInt8 :=
  Utf8.encode (render (.object claims))

/-- A header and claims in compact form, with `k` octets of padding behind the claims. -/
def written (h : Header) (claims : List Member) (k : Nat) (signature : String) : String :=
  compact (Base64.text (Utf8.encode (render h.toJson)) 0) (Base64.text (writtenClaims claims) k)
    signature

/-- Every header, with any claims, is conveyed by the text that is written with it. -/
theorem conveys_written (h : Header) (hk : k ≤ Base64.paddingOf (writtenClaims claims))
    (hsignature : IsSegment signature) :
    Conveys (written h claims k signature) (Json.ofMembers (fieldMembers h.fields ++ []))
      (writtenClaims claims) :=
  .intro h.document_written hk hsignature

theorem decode_of_count (hcount : (Text.trimBlank text).toList.count '.' ≠ 2) :
    decode text = .error (.malformedToken "expected three dot-separated segments") := by
  rw [decode]
  split
  · rename_i hfields
    have hlength := Text.length_fields '.' (Text.trimBlank text)
    rw [hfields] at hlength
    simp only [List.length_cons, List.length_nil] at hlength
    omega
  · rfl

/-- Decoding inverts the compact form.

* Of every header and of claims whose numbers are integers within 64 bits, within the levels of
  nesting that are admitted, the written token decodes as these, whatever white space is around it,
  whatever padding is in its payload and whatever its signature is; so does the text that the token
  keeps, which is the one without the white space.
* So does every other token whose segments spell a header and claims, with any order of the members,
  any escapes and any white space, and the key identifier is the one that the header spells.
* A payload that is any other value is refused as malformed.
* So is a text that, without the white space around it, has not exactly two dots in it. -/
theorem decode_exact :
    (∀ {h : Header} {claims : List Member} {k : Nat} {signature text : String},
      Plain maxDepth (.object claims) → k ≤ Base64.paddingOf (writtenClaims claims) →
      IsSegment signature → Text.Around (written h claims k signature) text →
      DecodesTo text ⟨written h claims k signature, h, claims⟩) ∧
    (∀ {raw text : String} {ms : List Member} {payload : List UInt8} {h : Header},
      Text.Around raw text → Conveys raw ms payload → h.Means ms →
      h.keyId = (lookup "kid" ms).bind string? ∧
      (∀ {claims}, Document ofMembers payload (.object claims) → DecodesTo text ⟨raw, h, claims⟩) ∧
      ∀ {v}, (Document ofMembers payload v ∨ ofDocument payload = .ok v) →
        (∀ claims, v ≠ .object claims) →
        decode text = .error (.malformedToken "payload is not a JSON object")) ∧
    ∀ {text : String}, (Text.trimBlank text).toList.count '.' ≠ 2 →
      decode text = .error (.malformedToken "expected three dot-separated segments") := by
  refine ⟨fun hclaims hk hsignature htext => ?_, fun htext hraw hmeans => ?_, decode_of_count⟩
  · exact (conveys_written _ hk hsignature).decodesTo htext (Header.means_written _)
      (hclaims.document fun _ hsorted => hsorted.ofMembers_eq)
  · refine ⟨hmeans.keyId, fun hclaims => hraw.decodesTo htext hmeans hclaims, fun hpayload hv => ?_⟩
    exact hraw.decode_of_other htext hmeans (hpayload.elim ofDocument_of_document id) hv

section Sample

/-- A header with a key identifier. -/
def sampleHeader : Header :=
  ⟨none, .es256, none, none, none, some "k1", none, none, none, none⟩

/-- The segment of the header. -/
def sampleSegment : String :=
  Base64.text (Utf8.encode (render sampleHeader.toJson)) 0

/-- Claims with the bounds of integers and characters that are escaped. -/
def sampleClaims : List Member :=
  [("exp", .integer 18446744073709551615),
    ("min", .array [.integer (-9223372036854775808), .null]), ("name", .string "é\"😀")]

/-- The octets of an object with a name that comes twice: `{"b":1, "a":2,"b":3}`. -/
def samplePayload : List UInt8 :=
  [123, 34, 98, 34, 58, 49, 44, 32, 34, 97, 34, 58, 50, 44, 34, 98, 34, 58, 51, 125]

theorem plain_sampleClaims : Plain maxDepth (.object sampleClaims) := by
  refine .object (by unfold Sorted sampleClaims; decide) ?_
  simp only [sampleClaims, List.forall_mem_cons]
  refine ⟨.integer (by decide) (by decide), .array ?_, .string _, nofun⟩
  simp only [List.forall_mem_cons]
  exact ⟨.integer (by decide) (by decide), .null, nofun⟩

theorem document_samplePayload :
    Document ofMembers samplePayload (.object [("a", .integer 2), ("b", .integer 3)]) := by
  have ha : SpellsText [97] "a".toList := spellsText_written ['a']
  have hb : SpellsText [98] "b".toList := spellsText_written ['b']
  have hspace : Blank [32] := List.forall_mem_singleton.mpr rfl
  have hdigit {n : Int} (hn : 0 ≤ n ∧ n < 10) :
      Spells ofMembers 126 (numeral n) (.integer n) :=
    (Scalar.integer (by unfold Numeral.minSigned64; omega)
      (by unfold Numeral.maxWord64; omega)).spells
  have hmember {key : List UInt8} {name : String} {n : Int} (hkey : SpellsText key name.toList)
      (hn : 0 ≤ n ∧ n < 10) :
      MemberText (Spells ofMembers 126) (quotedText key ++ 58 :: numeral n) (name, .integer n) :=
    .intro hkey blank_nil blank_nil (hdigit hn)
  have hitems : Items (MemberText (Spells ofMembers 126))
      [34, 98, 34, 58, 49, 44, 32, 34, 97, 34, 58, 50, 44, 34, 98, 34, 58, 51]
      [("b", .integer 1), ("a", .integer 2), ("b", .integer 3)] :=
    .more blank_nil (hmember (n := 1) hb (by decide)) blank_nil
      (.more hspace (hmember (n := 2) ha (by decide)) blank_nil
        (.one blank_nil (hmember (n := 3) hb (by decide)) blank_nil) nofun) nofun
  exact ⟨[], _, [], blank_nil, .object hitems, blank_nil, rfl⟩

theorem decode_exact_sample :
    (Plain maxDepth (.object sampleClaims) ∧ 1 ≤ Base64.paddingOf (writtenClaims sampleClaims) ∧
      IsSegment "c2ln" ∧
      DecodesTo ("\n " ++ written sampleHeader sampleClaims 1 "c2ln" ++ "\t")
        ⟨written sampleHeader sampleClaims 1 "c2ln", sampleHeader, sampleClaims⟩) ∧
    (DecodesTo (compact sampleSegment (Base64.text samplePayload 1) "")
        ⟨compact sampleSegment (Base64.text samplePayload 1) "", sampleHeader,
          [("a", .integer 2), ("b", .integer 3)]⟩ ∧
      decode (compact sampleSegment (Base64.text [91, 93] 1) "") =
        .error (.malformedToken "payload is not a JSON object")) ∧
    decode "a.b" = .error (.malformedToken "expected three dot-separated segments") := by
  have hpadding : 1 ≤ Base64.paddingOf (writtenClaims sampleClaims) := by
    rw [writtenClaims, render, Utf8.encode_ofList]
    decide +kernel
  have hsignature : IsSegment "c2ln" := by decide
  have hblank : ∀ c ∈ "\n ".toList, Text.isBlank c = true := List.all_eq_true.mp (by decide)
  have haround : Text.Around (written sampleHeader sampleClaims 1 "c2ln")
      ("\n " ++ written sampleHeader sampleClaims 1 "c2ln" ++ "\t") :=
    ⟨"\n ", "\t", hblank, List.all_eq_true.mp (by decide), rfl⟩
  have hconveys {payload : List UInt8} (hk : 1 ≤ Base64.paddingOf payload) :
      Conveys (compact sampleSegment (Base64.text payload 1) "")
        (Json.ofMembers (fieldMembers sampleHeader.fields ++ [])) payload :=
    .intro sampleHeader.document_written hk (by decide)
  have hempty : Document ofMembers [91, 93] (.array []) :=
    ⟨[], _, [], blank_nil, .array (.none blank_nil), blank_nil, rfl⟩
  refine ⟨⟨plain_sampleClaims, hpadding, hsignature,
    decode_exact.1 plain_sampleClaims hpadding hsignature haround⟩, ⟨?_, ?_⟩,
    decode_exact.2.2 (by decide)⟩
  · exact (decode_exact.2.1 (around_self _) (hconveys (by decide))
      sampleHeader.means_written).2.1 document_samplePayload
  · exact (decode_exact.2.1 (around_self _) (hconveys (by decide))
      sampleHeader.means_written).2.2 (.inl hempty) (by simp)

end Sample

end Token
end EntityTrust
