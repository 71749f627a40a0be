import CallDispatch.Proofs.Text.Reading
import CallDispatch.Sip.Request

/-!
# The grammar of request uris

A request uri is written as a scheme and a host, with a user in front of the host or without, with a
password behind the user, with brackets around the host, with a port, with parameters and with
headers behind it. Delimiters of one part may stand in another: semicolons, question marks and
brackets in the user, colons in the password, colons in a host with brackets, anything but at signs
in parameters and headers. The user is looked for in front of the first at sign and the host behind
the last one, and these are the same, since no part but the end of the user is marked by one. So
user and host are found as they were written (`Request.make_written`).

## Main definitions

* `Sip.Uri`: the parts of a request uri as they are written.
-/

namespace CallDispatch

open Text

namespace Sip

/-! ## What is written -/

/-- A user as it is written in front of an at sign, perhaps with a password behind a colon. -/
structure UserInfo where
  user : List Char
  password : Option (List Char)
  user_ne : user ≠ []
  user_free : ∀ c ∈ user, c ≠ ':' ∧ c ≠ '@'
  password_free : ∀ text ∈ password, '@' ∉ text

/-- The parts of a request uri as they are written. No part holds a delimiter that would end it, and
nothing behind the user holds an at sign. -/
structure Uri where
  scheme : List Char
  userInfo : Option UserInfo
  bracketed : Bool
  host : List Char
  port : Option (List Char)
  parameters : List (List Char)
  headers : Option (List Char)
  scheme_known : sameLetters (String.ofList scheme) "sip" = true ∨
    sameLetters (String.ofList scheme) "sips" = true
  host_ne : host ≠ []
  host_free : ∀ c ∈ host, c ≠ ']' ∧ c ≠ ';' ∧ c ≠ '?' ∧ c ≠ '@'
  /-- Only in brackets a host may hold opening brackets and colons. -/
  host_plain : bracketed = false → ∀ c ∈ host, c ≠ '[' ∧ c ≠ ':'
  port_free : ∀ text ∈ port, ∀ c ∈ text, c ≠ ';' ∧ c ≠ '?' ∧ c ≠ '@'
  parameters_free : ∀ text ∈ parameters, '@' ∉ text
  headers_free : ∀ text ∈ headers, '@' ∉ text

/-- A user with its password. -/
def UserInfo.text (info : UserInfo) : List Char :=
  info.user ++ info.password.elim [] (':' :: ·)

namespace Uri

variable (uri : Uri)

/-- The port behind its colon. -/
def portText : List Char :=
  uri.port.elim [] (':' :: ·)

/-- Host and port. -/
def place : List Char :=
  (if uri.bracketed then '[' :: uri.host ++ [']'] else uri.host) ++ uri.portText

/-- Parameters and headers. -/
def options : List Char :=
  uri.parameters.flatMap (';' :: ·) ++ uri.headers.elim [] ('?' :: ·)

/-- What stands behind the scheme. -/
def body : List Char :=
  (uri.userInfo.map UserInfo.text).elim [] (· ++ ['@']) ++ (uri.place ++ uri.options)

/-- The text of a uri. -/
def text : String :=
  String.ofList (uri.scheme ++ ':' :: uri.body)

end Uri

/-! ## Where the cuts are made -/

lemma UserInfo.at_notMem_text (info : UserInfo) : '@' ∉ info.text := by
  have huser : '@' ∉ info.user := fun hmem => (info.user_free _ hmem).2 rfl
  unfold text
  cases hpassword : info.password with
  | none => simpa using huser
  | some password => simpa [huser] using info.password_free password hpassword

/-- The user is what stands in front of the password. -/
lemma UserInfo.upTo_text (info : UserInfo) : upTo [':'] info.text = info.user := by
  refine upTo_append (fun c hc => ?_) ?_
  · simpa using (info.user_free c hc).1
  · cases info.password <;> simp

lemma nonEmpty_of_ne {cs : List Char} (h : cs ≠ []) : nonEmpty cs = some (String.ofList cs) := by
  rw [nonEmpty, if_neg (by simpa using h)]

namespace Uri

variable (uri : Uri)

/-- The scheme ends at the first colon, and is `sip` or `sips`. -/
lemma withoutScheme_text : withoutScheme uri.text.toList = uri.body := by
  have hcolon : ':' ∉ uri.scheme := by
    rcases uri.scheme_known with hsip | hsips
    · exact notMem_of_sameLetters hsip (by decide)
    · exact notMem_of_sameLetters hsips (by decide)
  have hknown : ["SIP", "SIPS"].contains (upper (String.ofList uri.scheme)) = true := by
    rcases uri.scheme_known with hsip | hsips
    · rw [sameLetters_iff.1 hsip]
      decide
    · rw [sameLetters_iff.1 hsips]
      decide
  rw [text, String.toList_ofList, withoutScheme, cutFirst_append hcolon]
  exact if_pos hknown

lemma at_notMem_options : '@' ∉ uri.options := by
  have hparameters : '@' ∉ uri.parameters.flatMap (';' :: ·) := by
    simpa using uri.parameters_free
  unfold options
  cases hheaders : uri.headers with
  | none => simpa using hparameters
  | some headers => simpa [hparameters] using uri.headers_free headers hheaders

/-- The place ends where parameters or headers begin, and holds no at sign. -/
lemma place_free : ∀ c ∈ uri.place, c ≠ ';' ∧ c ≠ '?' ∧ c ≠ '@' := by
  have hhost : ∀ c ∈ uri.host, c ≠ ';' ∧ c ≠ '?' ∧ c ≠ '@' := fun c hc => (uri.host_free c hc).2
  have hport : ∀ c ∈ uri.portText, c ≠ ';' ∧ c ≠ '?' ∧ c ≠ '@' := by
    unfold portText
    cases hwritten : uri.port with
    | none => simp
    | some port =>
      rw [Option.elim_some, List.forall_mem_cons]
      exact ⟨by decide, uri.port_free port hwritten⟩
  unfold place
  rw [List.forall_mem_append]
  refine ⟨?_, hport⟩
  cases uri.bracketed with
  | false => exact hhost
  | true =>
    rw [if_pos rfl, List.cons_append, List.forall_mem_cons, List.forall_mem_append]
    exact ⟨by decide, hhost, by simp⟩

lemma at_notMem_rest : '@' ∉ uri.place ++ uri.options := by
  have hplace : '@' ∉ uri.place := fun hmem => (uri.place_free _ hmem).2.2 rfl
  simp [hplace, uri.at_notMem_options]

/-- Parameters and headers are cut off at the first semicolon or question mark. -/
lemma upTo_rest : upTo [';', '?'] (uri.place ++ uri.options) = uri.place := by
  refine upTo_append (fun c hc => ?_) ?_
  · have hfree := uri.place_free c hc
    simp [hfree.1, hfree.2.1]
  · unfold options
    cases uri.parameters with
    | nil => cases uri.headers <;> simp
    | cons parameter rest => simp

/-- The port begins at a colon. -/
lemma head_portText : ∀ c ∈ uri.portText.head?, c = ':' := by
  unfold portText
  cases uri.port <;> simp

/-- The user stands in front of the first at sign. -/
lemma uriUser_text :
    uriUser uri.text = uri.userInfo.map fun info => String.ofList info.user := by
  unfold uriUser
  rw [uri.withoutScheme_text, body]
  cases uri.userInfo with
  | none =>
    rw [Option.map_none, Option.elim_none, List.nil_append, cutFirst_eq_none uri.at_notMem_rest]
    rfl
  | some info =>
    rw [Option.map_some, Option.elim_some, List.append_assoc, List.singleton_append,
      cutFirst_append info.at_notMem_text, Option.bind_some]
    simp only [info.upTo_text, nonEmpty_of_ne info.user_ne, Option.map_some]

/-- The host stands behind the last at sign, in brackets or in front of the port. -/
lemma uriHost_text : uriHost uri.text = some (String.ofList uri.host) := by
  have hrest : upTo [';', '?'] ((cutLast '@' uri.body).elim uri.body Prod.snd) = uri.place := by
    rw [body, elim_cutLast (uri.userInfo.map UserInfo.text) uri.at_notMem_rest, uri.upTo_rest]
  unfold uriHost
  rw [uri.withoutScheme_text]
  simp only [hrest]
  unfold place
  cases hbracketed : uri.bracketed with
  | true =>
    have hclosed : upTo [']'] (uri.host ++ ([']'] ++ uri.portText)) = uri.host := by
      refine upTo_append (fun c hc => ?_) (by simp)
      simpa using (uri.host_free c hc).1
    rw [if_pos rfl, List.cons_append, List.cons_append, List.append_assoc]
    simp only [hclosed]
    exact nonEmpty_of_ne uri.host_ne
  | false =>
    have hplain := uri.host_plain hbracketed
    have hport : upTo [':'] (uri.host ++ uri.portText) = uri.host := by
      refine upTo_append (fun c hc => ?_) fun c hc => ?_
      · simpa using (hplain c hc).2
      · simpa using uri.head_portText c hc
    rw [if_neg (by decide)]
    split
    · next hopens =>
      -- a host without brackets does not open one
      obtain ⟨c, rest, hhost⟩ := List.exists_cons_of_ne_nil uri.host_ne
      rw [hhost, List.cons_append] at hopens
      have hc : c = '[' := (List.cons.inj hopens).1
      exact absurd hc (hplain c (hhost ▸ List.mem_cons_self)).1
    · rw [hport]
      exact nonEmpty_of_ne uri.host_ne

end Uri

end Sip

/-- **Request uris.** A request for a uri that is written part by part has the host of the uri as
its domain, without brackets, and the user of the uri as its user, if there is one, whatever stands
in the other parts. -/
theorem Request.make_written (uri : Sip.Uri) (transactionId method : String) :
    (Request.make transactionId method uri.text).domain = some (String.ofList uri.host) ∧
      (Request.make transactionId method uri.text).uriUser =
        uri.userInfo.map fun info => String.ofList info.user :=
  ⟨uri.uriHost_text, uri.uriUser_text⟩

/-- A uri with delimiters of one part in another. -/
def Sip.Uri.delimited : Sip.Uri where
  scheme := "SipS".toList
  userInfo := some {
    user := "a;b?[c".toList
    password := some ":d;e]".toList
    user_ne := by decide
    user_free := by simp
    password_free := by decide }
  bracketed := true
  host := "fe80::[1".toList
  port := some "50:60".toList
  parameters := ["lr=[x]".toList, "y?z".toList]
  headers := some "a:b;c?d".toList
  scheme_known := Or.inr (by decide)
  host_ne := by decide
  host_free := by simp
  host_plain := nofun
  port_free := by simp
  parameters_free := by decide
  headers_free := by decide

theorem Request.make_written_delimited :
    let uri := "SipS:a;b?[c::d;e]@[fe80::[1]:50:60;lr=[x];y?z?a:b;c?d"
    uri = Sip.Uri.delimited.text ∧
      (Request.make "tx-1" "INVITE" uri).domain = some "fe80::[1" ∧
      (Request.make "tx-1" "INVITE" uri).uriUser = some "a;b?[c" := by
  intro uri
  have huri : uri = Sip.Uri.delimited.text := by decide
  obtain ⟨hdomain, huser⟩ := Request.make_written Sip.Uri.delimited "tx-1" "INVITE"
  rw [← huri] at hdomain huser
  exact ⟨huri, hdomain, huser⟩

end CallDispatch
