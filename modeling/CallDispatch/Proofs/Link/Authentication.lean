import CallDispatch.Config.Basic
import CallDispatch.Proofs.Connection.Tags
import CallDispatch.Proofs.Frame.Parsing
import CallDispatch.Proofs.Link.Admission
import CallDispatch.Proofs.Link.Delivery
import CallDispatch.Url.Parser

/-!
# Who is let in

An application that knows the secret of a valid configuration can say so. The secret of such a
configuration is not empty and stays together in a frame (`Config.isField_secret`), and so does a
list of tags if each tag does (`TagSet.isField_intercalate`), since commas neither are bars nor make
line breaks. The frame that is sent is therefore the frame that is read, the secret in it is the one
of the server, and the tags in it are those that were listed (`Opening.establishFrom_authenticate`).

## Main definitions

* `Frame.authenticate`: the first frame of an application.
-/

namespace CallDispatch

open Text CallDispatch.Frame

/-! ## What the frame is made of -/

/-- The first frame of an application, with the secret and the tags that it advertises. -/
def Frame.authenticate (id secret : String) (tags : TagSet) : Frame :=
  ⟨id, "authenticate", [secret, ",".intercalate tags.toList], none⟩

/-- The secret of a valid configuration is not empty and stays together in a payload. -/
lemma Config.isField_secret {read : Url.Reader} {config : Config}
    (hvalid : config.validate read = .ok ()) : IsField config.secret := by
  unfold validate at hvalid
  split at hvalid
  · cases hvalid
  · split at hvalid
    · cases hvalid
    · next hplain =>
      have hfree : Plain config.secret.toList := by
        intro c hc
        simp only [List.any_eq_true, not_exists, not_and] at hplain
        have hnone := hplain c hc
        exact ⟨fun hbar => hnone (by rw [hbar]; rfl), fun hreturn => hnone (by rw [hreturn]; rfl)⟩
      exact isField_of_plain hfree

/-- Tags that each stay together in a payload do so with commas between them. -/
lemma TagSet.isField_intercalate {tags : TagSet} (h : ∀ tag ∈ tags.members, IsField tag) :
    IsField (",".intercalate tags.toList) where
  bar := by
    have hall : ∀ c ∈ (",".intercalate tags.toList).toList, c ≠ '|' := by
      rw [String.toList_intercalate]
      refine of_mem_intercalate (by simp) fun part hpart c hc => ?_
      obtain ⟨tag, htag, rfl⟩ := List.mem_map.1 hpart
      exact fun hbar => (h tag htag).bar (hbar ▸ hc)
    exact fun hbar => hall '|' hbar rfl
  unbroken := unbroken_intercalate rfl (by decide) fun tag htag => (h tag htag).unbroken

/-- The frame is read back from its payload. -/
lemma Frame.parse_authenticate {id secret : String} {tags : TagSet} (hid : id ≠ "")
    (hfield : IsField id) (hsecret : IsField secret) (htags : ∀ tag ∈ tags.members, IsField tag) :
    Frame.parse (authenticate id secret tags).payload = .ok (authenticate id secret tags) := by
  have hkind : IsField "authenticate" := isField_of_plain (by decide)
  have hne : (authenticate id secret tags).kind ≠ "" := by
    show "authenticate" ≠ ""
    decide
  refine parse_payload hid hne fun field hmem => ?_
  simp only [authenticate, List.mem_cons, List.not_mem_nil, or_false] at hmem
  rcases hmem with rfl | rfl | rfl | rfl
  · exact hfield
  · exact hkind
  · exact hsecret
  · exact TagSet.isField_intercalate htags

/-! ## What the answer is made of -/

/-- An `OK` response is carried by its bytes, with the reason as the fields and the body that it is
made of. -/
lemma Frame.carries_response {answerId id reason : String} {fields : List String}
    {body : Option String} (hanswer : IsUuid answerId) (hid : IsField id) (hne : fields ≠ [])
    (hfields : ∀ field ∈ fields, IsField field)
    (hreason : "|".intercalate fields ++ bodyText body = reason)
    (hfits : (response answerId id true (some reason)).payload.utf8ByteSize ≤ maxLength) :
    Carries (framed (response answerId id true (some reason)).payload)
      ⟨answerId, "response", id :: "OK" :: fields, body⟩ := by
  have hpayload : (response answerId id true (some reason)).payload =
      (⟨answerId, "response", id :: "OK" :: fields, body⟩ : Frame).payload := by
    obtain ⟨first, rest, rfl⟩ := List.exists_cons_of_ne_nil hne
    rw [← hreason]
    simp [payload, response, bodyText, String.intercalate_cons_cons, String.append_assoc]
  rw [hpayload] at hfits ⊢
  have hkind : IsField "response" := isField_of_plain (by decide)
  have hok : IsField "OK" := by decide
  refine carries_framed (fits_payload_iff.2 hfits) hanswer.ne_empty (by simp) fun field hmem => ?_
  simp only [List.mem_cons] at hmem
  rcases hmem with rfl | rfl | rfl | rfl | hmem
  · exact hanswer.isField
  · exact hkind
  · exact hid
  · exact hok
  · exact hfields field hmem

/-! ## The main result -/

/-- **Configuration and handshake.** An application that sends the `authenticate` frame with the
secret of a valid configuration, with an id that is not empty and stays together in a payload, and
with tags that do so and hold no commas, is let in however the bytes are cut, if that frame and the
`OK` response fit into frames, and has just these tags. It reads back this one response: to its id,
and with the identity of the server as the only other argument if that stays together in a payload,
and in full as what is behind `OK` in any case. -/
theorem Opening.establishFrom_authenticate {read : Url.Reader} {config : Config}
    (hvalid : config.validate read = .ok ()) {tags : TagSet}
    (htags : ∀ tag ∈ tags.members,
      ',' ∉ tag.toList ∧ '|' ∉ tag.toList ∧ ¬['\r', '\n'] <:+: tag.toList)
    {id : String} (hne : id ≠ "") (hid : '|' ∉ id.toList ∧ ¬['\r', '\n'] <:+: id.toList)
    {answerId identity : String} (hanswer : IsUuid answerId)
    (hfits : (Frame.authenticate id config.secret tags).payload.utf8ByteSize ≤ 99999)
    (hreply : (Frame.response answerId id true (some identity)).payload.utf8ByteSize ≤ 99999)
    (opening : Opening) (entryId : EntryId) :
    ∃ bytes, Frame.encode (Frame.authenticate id config.secret tags).payload = .ok bytes ∧
      ∀ (chunks : List Bytes) (closes : Bool), chunks.flatten = bytes →
        let outcome :=
          opening.establishFrom ⟨config.secret, identity⟩ answerId entryId chunks closes
        outcome.2 = .ok (opening.entry entryId tags) ∧
        ∃ fields body, Carries outcome.1.written
            ⟨answerId, "response", id :: "OK" :: fields, body⟩ ∧
          "|".intercalate fields ++ bodyText body = identity ∧
          (IsField identity → fields = [identity] ∧ body = none) := by
  have hidField : IsField id := ⟨hid.1, hid.2⟩
  have htagFields : ∀ tag ∈ tags.members, IsField tag :=
    fun tag htag => ⟨(htags tag htag).2.1, (htags tag htag).2.2⟩
  have hparse := parse_authenticate hne hidField (Config.isField_secret hvalid) htagFields
  refine ⟨framed (Frame.authenticate id config.secret tags).payload, ?_, ?_⟩
  · rw [encode_eq, if_neg (payload_ne_empty _)]
    exact if_neg (Nat.not_lt.2 hfits)
  · intro chunks closes hcut outcome
    have hstarts := starts_framed (payload_ne_empty (Frame.authenticate id config.secret tags))
      hfits []
    rw [List.append_nil, ← hcut] at hstarts
    have hfirst : First chunks.flatten (Frame.authenticate id config.secret tags) :=
      ⟨_, [], hstarts, hparse⟩
    have hadmits : Handshake.Admits ⟨config.secret, identity⟩ answerId
        (Frame.authenticate id config.secret tags) := ⟨⟨rfl, rfl⟩, hreply⟩
    have htagsOf : Handshake.tagsOf (Frame.authenticate id config.secret tags) = tags :=
      TagSet.parse_intercalate fun tag htag => (htags tag htag).1
    obtain ⟨hentry, hwritten⟩ := establish_of_admits opening entryId closes hfirst hadmits
    rw [← establishFrom_eq, htagsOf] at hentry
    rw [← establishFrom_eq] at hwritten
    obtain ⟨fields, body, hsome, hfields, hidentity, hplain⟩ := exists_fields identity
    refine ⟨hentry, fields, body, ?_, hidentity, hplain⟩
    have hbytes : outcome.1.written = framed (response answerId id true (some identity)).payload :=
      hwritten
    rw [hbytes]
    exact carries_response hanswer hidField hsome hfields hidentity hreply

/-- Halves of line breaks in the id and in tags, characters of several bytes, and a comma, a number
sign and blanks in the secret, cut inside the first length. -/
theorem Opening.establishFrom_authenticate_halves :
    let config : Config := { secret := " #1,\x0bß " }
    let tags := TagSet.ofList ["é\nx", "a\rb"]
    let opening : Opening := ⟨.inbound, .plain, .v4 ⟨10, 0, 0, 2⟩ 40000, none⟩
    config.validate Url.read = .ok () ∧ tags.toList = ["a\rb", "é\nx"] ∧ IsUuid (messageId 3) ∧
      ∃ bytes, Frame.encode "7\r|authenticate| #1,\x0bß |a\rb,é\nx" = .ok bytes ∧
        ∀ (chunks : List Bytes) (closes : Bool), chunks.flatten = bytes →
          let outcome :=
            opening.establishFrom ⟨config.secret, "srv-1"⟩ (messageId 3) 1 chunks closes
          outcome.2 = .ok (opening.entry 1 tags) ∧
            ∃ fields body, Carries outcome.1.written
                ⟨messageId 3, "response", "7\r" :: "OK" :: fields, body⟩ ∧
              "|".intercalate fields ++ bodyText body = "srv-1" ∧
              (IsField "srv-1" → fields = ["srv-1"] ∧ body = none) := by
  intro config tags opening
  have hvalid : config.validate Url.read = .ok () := by decide
  have hlisted : tags.toList = ["a\rb", "é\nx"] := by decide
  have htags : ∀ tag ∈ tags.members,
      ',' ∉ tag.toList ∧ '|' ∉ tag.toList ∧ ¬['\r', '\n'] <:+: tag.toList := by
    intro tag htag
    have hmem : tag ∈ ["a\rb", "é\nx"] := hlisted ▸ htag
    simp only [List.mem_cons, List.not_mem_nil, or_false] at hmem
    rcases hmem with rfl | rfl <;> decide
  have hpayload : (Frame.authenticate "7\r" config.secret tags).payload =
      "7\r|authenticate| #1,\x0bß |a\rb,é\nx" := by decide
  have hresult := establishFrom_authenticate hvalid htags (by decide) (by decide)
    (isUuid_messageId 3) (by rw [hpayload]; decide) (by decide : (Frame.response (messageId 3)
      "7\r" true (some "srv-1")).payload.utf8ByteSize ≤ 99999) opening 1
  rw [hpayload] at hresult
  exact ⟨hvalid, hlisted, isUuid_messageId 3, hresult⟩

end CallDispatch
