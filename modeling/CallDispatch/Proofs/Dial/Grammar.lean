import CallDispatch.Dial.Dialer
import CallDispatch.Proofs.Dial.Transports
import CallDispatch.Proofs.Text.Digits
import CallDispatch.Proofs.Text.Reading
import Mathlib.Data.List.Basic

/-!
# The grammar of dial targets

A target is written as host and port, with a scheme in front or without, with a user or without,
with brackets around the host or without, with zeros in front of the port, with any parameters
behind it and with blanks around it all. Delimiters of one part may stand in another: colons and
brackets in the user, colons in a host with brackets, anything but semicolons in a parameter. Still
each part is cut off where it ends, since every cut is made at the first or at the last occurrence
of its delimiter, on the side where no other part can hold it. So what is written is read, and a
fault in any part is noticed (`Target.parse_written`).

## Main definitions

* `Target.Written`: the parts of a target as they are written.
* `Target.Written.Shaped`: no part holds a delimiter that would end it early.
* `Target.Written.Faulty`: the ways in which parts in shape make no target.
-/

namespace CallDispatch

open Text

namespace Target

/-! ## What is written -/

/-- A parameter as it is written. -/
inductive Parameter
  /-- The name `transport`, in any letter case, and what it says behind an equals sign. -/
  | transport (name value : List Char)
  | other (text : List Char)

/-- The characters of a parameter. -/
def Parameter.text : Parameter → List Char
  | transport name value => name ++ '=' :: value
  | other text => text

/-- What a `transport` parameter says. -/
def Parameter.value? : Parameter → Option (List Char)
  | transport _ value => some value
  | other _ => none

/-- A parameter is what it is called, and holds no semicolon. -/
structure Parameter.Shaped (parameter : Parameter) : Prop where
  named : ∀ name value, parameter = .transport name value →
    sameLetters (String.ofList name) "transport" = true
  /-- A parameter with an equals sign is another one only by its name. -/
  unnamed : ∀ text, parameter = .other text → ∀ name value, text = name ++ '=' :: value →
    sameLetters (String.ofList name) "transport" = false
  unbroken : ';' ∉ parameter.text

/-- A port as it is written. -/
inductive Port
  | missing
  /-- A colon with nothing behind it. -/
  | blank
  /-- A number in decimal, behind any number of zeros. -/
  | number (zeros value : Nat)

/-- What stands behind the colon of a port, if there is a colon. -/
def Port.digits? : Port → Option (List Char)
  | missing => none
  | blank => some []
  | number zeros value => some (List.replicate zeros '0' ++ decimalDigits value)

/-- The characters of a port. -/
def Port.text (port : Port) : List Char :=
  port.digits?.elim [] (':' :: ·)

/-- The number of a port, if it can be one. -/
def Port.number? : Port → Option Nat
  | number _ value => if 1 ≤ value ∧ value ≤ 65535 then some value else none
  | _ => none

/-- The parts of a target as they are written. -/
structure Written where
  /-- The scheme with its colon. -/
  scheme : Option (List Char)
  user : Option (List Char)
  bracketed : Bool
  host : List Char
  port : Port
  parameters : List Parameter

namespace Written

/-- Host and port. -/
def place (written : Written) : List Char :=
  (if written.bracketed then '[' :: written.host ++ [']'] else written.host) ++ written.port.text

/-- Host and port behind the user. -/
def address (written : Written) : List Char :=
  written.user.elim [] (· ++ ['@']) ++ written.place

/-- What stands behind the scheme. -/
def body (written : Written) : List Char :=
  [';'].intercalate (written.address :: written.parameters.map Parameter.text)

/-- All characters of a target. -/
def text (written : Written) : List Char :=
  written.scheme.getD [] ++ written.body

/-- What the `transport` parameters say, in order. -/
def transports (written : Written) : List (List Char) :=
  written.parameters.filterMap Parameter.value?

/-- Every part keeps to itself: the scheme, if there is one, is `sip:`, what is written without a
scheme does not begin with one, and no part holds a delimiter that would end it. -/
structure Shaped (written : Written) : Prop where
  scheme : ∀ scheme ∈ written.scheme, sameLetters (String.ofList scheme) "sip:" = true
  no_scheme : written.scheme = none → ¬Begins "sip:" written.body ∧ ¬Begins "sips:" written.body
  user : ∀ user ∈ written.user, ';' ∉ user
  host : ∀ c ∈ written.host, c ≠ '@' ∧ c ≠ ';' ∧ c ≠ '[' ∧ c ≠ ']'
  colon : written.bracketed = false → ':' ∉ written.host
  parameters : ∀ parameter ∈ written.parameters, parameter.Shaped
  solid : ∀ c ∈ written.text, isBlank c = false

/-- Parts that make no target, though they are in shape. -/
inductive Faulty (written : Written) : Prop
  | host (h : written.host = [])
  | missing (h : written.port = .missing)
  | blank (h : written.port = .blank)
  | zero (zeros : Nat) (h : written.port = .number zeros 0)
  | large (zeros value : Nat) (h : written.port = .number zeros value) (hlarge : 65535 < value)
  | transport (value : List Char) (hvalue : value ∈ written.transports)
      (htcp : sameLetters (String.ofList value) "tcp" = false)
      (htls : sameLetters (String.ofList value) "tls" = false)

end Written

variable {written : Written} {parameter : Parameter} {port : Port}

/-! ## Parameters -/

/-- The name of a `transport` parameter ends at the first equals sign. -/
lemma notMem_of_sameLetters_transport {name : List Char}
    (h : sameLetters (String.ofList name) "transport" = true) : '=' ∉ name :=
  notMem_of_sameLetters h (by decide)

lemma Parameter.shaped_transport {name value : List Char}
    (hname : sameLetters (String.ofList name) "transport" = true)
    (hunbroken : ';' ∉ (transport name value).text) : (transport name value).Shaped where
  named := by
    rintro _ _ ⟨⟩
    exact hname
  unnamed := nofun
  unbroken := hunbroken

/-- What says nothing about the transport is another parameter. -/
lemma Parameter.shaped_other {text : List Char} (hnothing : transportValue? text = none)
    (hunbroken : ';' ∉ text) : (other text).Shaped where
  named := nofun
  unnamed := by
    rintro _ ⟨⟩ name value rfl
    rw [← Bool.not_eq_true]
    intro hname
    rw [transportValue?, cutFirst_append (notMem_of_sameLetters_transport hname)] at hnothing
    simp [hname] at hnothing
  unbroken := hunbroken

/-- A parameter says what it was written to say. -/
lemma Parameter.Shaped.transportValue?_text (h : parameter.Shaped) :
    transportValue? parameter.text = parameter.value? := by
  unfold transportValue?
  cases parameter with
  | transport name value =>
    have hname := h.named name value rfl
    rw [text, cutFirst_append (notMem_of_sameLetters_transport hname)]
    exact if_pos hname
  | other text =>
    rw [Parameter.text]
    cases hcut : cutFirst '=' text with
    | none => rfl
    | some pair =>
      have hname := h.unnamed text rfl pair.1 pair.2 (eq_of_cutFirst hcut)
      exact if_neg (by rw [hname]; decide)

/-- What is tcp or tls names a transport, and nothing else does. -/
lemma isSome_namedTransport_iff {value : List Char} : (namedTransport value).isSome = true ↔
    sameLetters (String.ofList value) "tcp" = true ∨
      sameLetters (String.ofList value) "tls" = true := by
  have hiff : ∀ transport, namedTransport value = some transport ↔
      sameLetters (String.ofList value) transport.text = true :=
    fun _ => namedTransport_eq_some_iff
  rw [Option.isSome_iff_exists]
  constructor
  · rintro ⟨_ | _, htransport⟩
    · exact Or.inl ((hiff .plain).1 htransport)
    · exact Or.inr ((hiff .tls).1 htransport)
  · rintro (htcp | htls)
    · exact ⟨.plain, (hiff .plain).2 htcp⟩
    · exact ⟨.tls, (hiff .tls).2 htls⟩

/-! ## Ports -/

lemma Port.mem_digits {digits : List Char} (h : port.digits? = some digits) :
    ∀ c ∈ digits, c.isDigit = true := by
  intro c hc
  cases port with
  | missing => cases h
  | blank =>
    cases h
    cases hc
  | number zeros value =>
    cases h
    exact isDigit_of_mem_padded hc

/-- A port is a colon with digits. -/
lemma Port.mem_text {c : Char} (h : c ∈ port.text) : c = ':' ∨ c.isDigit = true := by
  unfold text at h
  cases hdigits : port.digits? with
  | none =>
    rw [hdigits] at h
    cases h
  | some digits =>
    rw [hdigits] at h
    rcases List.mem_cons.1 h with rfl | hc
    · exact Or.inl rfl
    · exact Or.inr (mem_digits hdigits c hc)

lemma Port.number?_number (zeros value : Nat) :
    (number zeros value).number? = if 1 ≤ value ∧ value ≤ 65535 then some value else none := rfl

/-- A port is read from its digits. -/
lemma Port.readUnsigned_digits {digits : List Char} (h : port.digits? = some digits) :
    (readUnsigned max16 digits).filter (· ≠ 0) = port.number? := by
  cases port with
  | missing => cases h
  | blank =>
    cases h
    rfl
  | number zeros value =>
    cases h
    rw [readUnsigned_padded, number?_number]
    by_cases hlarge : value ≤ max16
    · by_cases hzero : value = 0
      · simp [hzero]
      · have hport : 1 ≤ value ∧ value ≤ 65535 := ⟨Nat.pos_of_ne_zero hzero, hlarge⟩
        simp [hlarge, hzero, hport]
    · have hport : ¬(1 ≤ value ∧ value ≤ 65535) := fun hport => hlarge hport.2
      simp [hlarge, hport]

/-! ## Addresses -/

/-- No port holds a character that is neither a colon nor a digit. -/
lemma Port.notMem_text {c : Char} (hcolon : c ≠ ':') (hdigit : c.isDigit = false) :
    c ∉ port.text := by
  intro hc
  rcases Port.mem_text hc with rfl | hc
  · exact hcolon rfl
  · rw [hdigit] at hc
    cases hc

namespace Written

lemma Shaped.at_notMem_place (h : written.Shaped) : '@' ∉ written.place := by
  have hhost : '@' ∉ written.host := fun hmem => (h.host _ hmem).1 rfl
  have hport : '@' ∉ written.port.text := Port.notMem_text (by decide) (by decide)
  unfold place
  split <;> simp [hhost, hport]

lemma Shaped.semicolon_notMem_address (h : written.Shaped) : ';' ∉ written.address := by
  have hhost : ';' ∉ written.host := fun hmem => (h.host _ hmem).2.1 rfl
  have hport : ';' ∉ written.port.text := Port.notMem_text (by decide) (by decide)
  have hplace : ';' ∉ written.place := by
    unfold place
    split <;> simp [hhost, hport]
  have huser := h.user
  unfold address
  cases hwritten : written.user with
  | none => simpa using hplace
  | some user => simpa [hplace] using huser user hwritten

/-- The user is cut off at the last at sign. -/
lemma Shaped.cutLast_address (h : written.Shaped) :
    (cutLast '@' written.address).elim written.address Prod.snd = written.place :=
  elim_cutLast written.user h.at_notMem_place

/-- Host and port are cut apart at the bracket, or else at the last colon. -/
lemma Shaped.hostAndPort_place (h : written.Shaped) :
    hostAndPort written.place = written.port.digits?.map (written.host, ·) := by
  unfold place
  cases hbracketed : written.bracketed with
  | true =>
    have hhost : ']' ∉ written.host := fun hmem => (h.host _ hmem).2.2.2 rfl
    have hcut : cutFirst ']' (written.host ++ ']' :: written.port.text) =
        some (written.host, written.port.text) := cutFirst_append hhost _
    simp only [if_true, List.cons_append, List.append_assoc, List.nil_append, hostAndPort, hcut]
    unfold Port.text
    cases written.port.digits? <;> rfl
  | false =>
    have hbracket : '[' ∉ written.host ++ written.port.text := by
      have hhost : '[' ∉ written.host := fun hmem => (h.host _ hmem).2.2.1 rfl
      simp [hhost, Port.notMem_text]
    rw [if_neg (by decide)]
    unfold hostAndPort
    split
    · next hplace => exact absurd (hplace ▸ List.mem_cons_self) hbracket
    · unfold Port.text
      cases hdigits : written.port.digits? with
      | none =>
        rw [Option.elim_none, List.append_nil, cutLast_eq_none (h.colon hbracketed)]
        rfl
      | some digits =>
        have hcolon : ':' ∉ digits := fun hmem =>
          absurd (Port.mem_digits hdigits ':' hmem) (by decide)
        rw [Option.elim_some, cutLast_append hcolon]
        rfl

/-- An address is read as the host and the number of the port. -/
lemma Shaped.readAddress_address (h : written.Shaped) (transport : Transport) :
    readAddress written.address transport =
      if written.host = [] then none
      else written.port.number?.map fun port => ⟨String.ofList written.host, port, transport⟩ := by
  unfold readAddress
  rw [h.cutLast_address, h.hostAndPort_place]
  cases hdigits : written.port.digits? with
  | none =>
    have hnone : written.port.number? = none := by
      cases hport : written.port with
      | missing => rfl
      | _ => rw [hport] at hdigits; cases hdigits
    rw [hnone]
    simp
  | some digits =>
    rw [Option.map_some, ← Port.readUnsigned_digits hdigits]
    show ((readUnsigned max16 digits).filter (· ≠ 0)).bind (fun port =>
      if written.host.isEmpty then none
      else some (⟨String.ofList written.host, port, transport⟩ : Target)) = _
    cases (readUnsigned max16 digits).filter (· ≠ 0) <;> simp

/-! ## Whole targets -/

/-- The scheme `sip` stands for no TLS, and so does none. -/
lemma Shaped.takeScheme_text (h : written.Shaped) :
    takeScheme written.text = (.plain, written.body) := by
  unfold text takeScheme
  cases hscheme : written.scheme with
  | none =>
    obtain ⟨hsip, hsips⟩ := h.no_scheme hscheme
    rw [Option.getD_none, List.nil_append, dropLead_eq_none hsips, dropLead_eq_none hsip]
  | some scheme =>
    have hsip := h.scheme scheme hscheme
    have hsips : dropLead "sips:" (scheme ++ written.body) = none := by
      -- what begins with one of the schemes does not begin with the other
      refine dropLead_eq_none fun hbegins => ?_
      have hprefix := List.prefix_of_prefix_length_le
        (Begins.map_toUpper ⟨scheme, written.body, rfl, hsip⟩) hbegins.map_toUpper (by decide)
      exact absurd hprefix (by decide)
    rw [Option.getD_some, hsips, dropLead_append hsip]

/-- The parameters are what stands behind semicolons. -/
lemma Shaped.pieces_body (h : written.Shaped) :
    pieces ';' written.body = written.address :: written.parameters.map Parameter.text := by
  rw [body]
  refine pieces_intercalate (by simp) fun piece hpiece => ?_
  rcases List.mem_cons.1 hpiece with rfl | hpiece
  · exact h.semicolon_notMem_address
  · obtain ⟨parameter, hparameter, rfl⟩ := List.mem_map.1 hpiece
    exact (h.parameters parameter hparameter).unbroken

/-- The parameters say what they were written to say. -/
lemma Shaped.filterMap_transportValue? (h : written.Shaped) :
    (written.parameters.map Parameter.text).filterMap transportValue? = written.transports := by
  rw [List.filterMap_map, transports]
  exact List.filterMap_congr fun parameter hparameter =>
    (h.parameters parameter hparameter).transportValue?_text

/-- What is written is read part by part. -/
lemma Shaped.parse_eq (h : written.Shaped) {before behind : List Char}
    (hbefore : ∀ c ∈ before, isBlank c = true) (hbehind : ∀ c ∈ behind, isBlank c = true) :
    parse (String.ofList (before ++ written.text ++ behind)) =
      if written.transports.all fun value => (namedTransport value).isSome then
        readAddress written.address
          ((written.transports.getLast?.bind namedTransport).getD .plain)
      else none := by
  rw [parse, String.toList_ofList, trimmed_append hbefore (tight_of_forall h.solid) hbehind,
    h.takeScheme_text]
  simp only [h.pieces_body, foldlM_applyParameter, h.filterMap_transportValue?]
  split <;> rfl

/-- Parts that make no target are not read as one. -/
lemma Shaped.parse_of_faulty (h : written.Shaped) (hfaulty : written.Faulty)
    {before behind : List Char} (hbefore : ∀ c ∈ before, isBlank c = true)
    (hbehind : ∀ c ∈ behind, isBlank c = true) :
    parse (String.ofList (before ++ written.text ++ behind)) = none := by
  have hnumber : written.port.number? = none →
      parse (String.ofList (before ++ written.text ++ behind)) = none := by
    intro hnone
    rw [h.parse_eq hbefore hbehind, h.readAddress_address, hnone]
    simp
  cases hfaulty with
  | host hhost =>
    rw [h.parse_eq hbefore hbehind, h.readAddress_address, if_pos hhost]
    simp
  | missing hport => exact hnumber (by rw [hport]; rfl)
  | blank hport => exact hnumber (by rw [hport]; rfl)
  | zero zeros hport => exact hnumber (by rw [hport]; rfl)
  | large zeros value hport hlarge =>
    have hnot : ¬(1 ≤ value ∧ value ≤ 65535) := fun hle => Nat.not_le_of_lt hlarge hle.2
    exact hnumber (by rw [hport, Port.number?_number, if_neg hnot])
  | transport value hvalue htcp htls =>
    have hunknown : ¬(written.transports.all fun value => (namedTransport value).isSome) = true := by
      intro hall
      rcases isSome_namedTransport_iff.1 (List.all_eq_true.1 hall value hvalue) with hnamed | hnamed
      · exact absurd (htcp.symm.trans hnamed) (by decide)
      · exact absurd (htls.symm.trans hnamed) (by decide)
    rw [h.parse_eq hbefore hbehind, if_neg hunknown]

/-- The last transport that is named decides whether TLS is used; if none is named, it is not. -/
lemma getLast_transports_iff (hknown : ∀ value ∈ written.transports,
    (namedTransport value).isSome = true) :
    (written.transports.getLast?.bind namedTransport).getD .plain = .tls ↔
      ∃ value, written.transports.getLast? = some value ∧
        sameLetters (String.ofList value) "tls" = true := by
  cases hlast : written.transports.getLast? with
  | none => simp
  | some last =>
    obtain ⟨named, hnamed⟩ :=
      Option.isSome_iff_exists.1 (hknown last (List.mem_of_getLast? hlast))
    rw [Option.bind_some, hnamed, Option.getD_some]
    have htls : named = .tls ↔ sameLetters (String.ofList last) "tls" = true := by
      rw [← Option.some_inj, ← hnamed]
      exact namedTransport_eq_some_iff
    simp [htls]

end Written

/-- **The grammar of targets.** A target that is written part by part in shape, with any blanks
around it, is read as just the host and the port that were written, whatever stands in its other
parts; it is dialed over TLS exactly if the last `transport` parameter is `tls`. If the host is
empty, if the port is missing, no number, zero or too large, or if some `transport` parameter is
neither `tcp` nor `tls`, it is no target, and dialing says so with the uri as it was given. -/
theorem parse_written {written : Written} (hwritten : written.Shaped) {before behind : List Char}
    (hbefore : ∀ c ∈ before, isBlank c = true) (hbehind : ∀ c ∈ behind, isBlank c = true)
    {uri : String} (huri : uri = String.ofList (before ++ written.text ++ behind)) :
    (∀ zeros port, written.host ≠ [] → written.port = .number zeros port → 1 ≤ port →
        port ≤ 65535 →
        (∀ value ∈ written.transports, sameLetters (String.ofList value) "tcp" = true ∨
          sameLetters (String.ofList value) "tls" = true) →
        ∃ target, parse uri = some target ∧ target.host = String.ofList written.host ∧
          target.port = port ∧
          (target.transport = .tls ↔ ∃ value, written.transports.getLast? = some value ∧
            sameLetters (String.ofList value) "tls" = true)) ∧
      (written.Faulty → parse uri = none ∧ ∀ board settings reach,
        Switchboard.dialAnew board settings reach uri = (board, .error (.invalidTarget uri))) := by
  subst huri
  refine ⟨fun zeros port hhost hport hpos hle hnamed => ?_, fun hfaulty => ?_⟩
  · have hknown : ∀ value ∈ written.transports, (namedTransport value).isSome = true :=
      fun value hvalue => isSome_namedTransport_iff.2 (hnamed value hvalue)
    have hnumber : written.port.number? = some port := by
      rw [hport, Port.number?_number, if_pos ⟨hpos, hle⟩]
    have hread := hwritten.parse_eq hbefore hbehind
    rw [if_pos (List.all_eq_true.2 hknown), hwritten.readAddress_address, if_neg hhost, hnumber,
      Option.map_some] at hread
    exact ⟨_, hread, rfl, rfl, Written.getLast_transports_iff hknown⟩
  · have hnone := hwritten.parse_of_faulty hfaulty hbefore hbehind
    refine ⟨hnone, fun board settings reach => ?_⟩
    unfold Switchboard.dialAnew
    rw [hnone]

/-- A target with delimiters of one part in another, and with two `transport` parameters. -/
def delimited (value : Nat) : Written where
  scheme := some "SIP:".toList
  user := some "a@b:[c]".toList
  bracketed := true
  host := "fe80::1".toList
  port := .number 2 value
  parameters := [.transport "Transport".toList "tcp".toList, .other "lr=a=b:1@c".toList,
    .other "transport".toList, .transport "transport".toList "TLS".toList]

lemma shaped_delimited {value : Nat} (hsolid : (delimited value).text.all (!isBlank ·) = true) :
    (delimited value).Shaped where
  scheme := by
    rintro _ ⟨⟩
    decide
  no_scheme := nofun
  user := by
    rintro _ ⟨⟩
    decide
  host := by
    have hall : (delimited value).host.all
        (fun c => c != '@' && c != ';' && c != '[' && c != ']') = true := rfl
    simpa [and_assoc] using List.all_eq_true.1 hall
  colon := nofun
  parameters := by
    intro parameter hparameter
    simp only [delimited, List.mem_cons, List.not_mem_nil, or_false] at hparameter
    rcases hparameter with rfl | rfl | rfl | rfl
    · exact Parameter.shaped_transport (by decide) (by decide)
    · exact Parameter.shaped_other (by decide) (by decide)
    · exact Parameter.shaped_other (by decide) (by decide)
    · exact Parameter.shaped_transport (by decide) (by decide)
  solid := by simpa using List.all_eq_true.1 hsolid

theorem parse_written_delimited :
    let uri := " SIP:a@b:[c]@[fe80::1]:005060;Transport=tcp;lr=a=b:1@c;transport;transport=TLS\n"
    let large := "SIP:a@b:[c]@[fe80::1]:0065536;Transport=tcp;lr=a=b:1@c;transport;transport=TLS"
    (delimited 5060).Shaped ∧ (delimited 65536).Shaped ∧
      uri = String.ofList ([' '] ++ (delimited 5060).text ++ ['\n']) ∧
      large = String.ofList ([] ++ (delimited 65536).text ++ []) ∧
      (∃ target, parse uri = some target ∧ target.host = "fe80::1" ∧ target.port = 5060 ∧
        target.transport = .tls) ∧
      parse large = none := by
  intro uri large
  have hshaped : (delimited 5060).Shaped := shaped_delimited (by decide)
  have hshaped' : (delimited 65536).Shaped := shaped_delimited (by decide)
  have huri : uri = String.ofList ([' '] ++ (delimited 5060).text ++ ['\n']) := by decide
  have hlarge : large = String.ofList ([] ++ (delimited 65536).text ++ []) := by decide
  obtain ⟨target, hparse, hhost, hport, htls⟩ :=
    (parse_written hshaped (List.forall_mem_singleton.2 rfl) (List.forall_mem_singleton.2 rfl)
      huri).1 2 5060 (by decide) rfl (by decide)
      (by decide) (by decide)
  have hfaulty : (delimited 65536).Faulty := .large 2 65536 rfl (by decide)
  exact ⟨hshaped, hshaped', huri, hlarge,
    ⟨target, hparse, hhost, hport, htls.2 ⟨"TLS".toList, by decide, by decide⟩⟩,
    ((parse_written hshaped' (by simp) (by simp) hlarge).2 hfaulty).1⟩

end Target

end CallDispatch
