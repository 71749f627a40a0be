import CallDispatch.Dial.Target
import Mathlib.Tactic.Lemma

/-!
# The transport of a dial target

The scheme of a uri stands for a transport, and each `transport` parameter behind the address puts
the one that it names in its place. So all of them have to name one, and the last of them decides
(`Target.foldlM_applyParameter`); the scheme does only where there is none. A uri that begins with
`sips:` is therefore dialed without TLS if its last `transport` parameter says so
(`Target.sips_over_plain`), and over TLS otherwise (`Target.transport_of_sips`).

## Main definitions

* `Target.IsSips`: a uri with the scheme `sips`.
* `Target.transportValues`: what the `transport` parameters of a uri say, in order.
-/

namespace CallDispatch

open Text

namespace Text

/-- A lead is dropped from any text that begins with its letters. -/
lemma dropLead_append {lead : String} {cs : List Char}
    (h : sameLetters (String.ofList cs) lead = true) (rest : List Char) :
    dropLead lead (cs ++ rest) = some rest := by
  have hletters : cs.map Char.toUpper = lead.toList.map Char.toUpper := by
    have hupper := congrArg String.toList (sameLetters_iff.1 h)
    rwa [toList_upper, toList_upper, String.toList_ofList] at hupper
  have hlength : lead.length = cs.length := by
    have hlengths := congrArg List.length hletters
    rw [List.length_map, List.length_map, String.length_toList] at hlengths
    exact hlengths.symm
  unfold dropLead
  dsimp only
  rw [hlength, List.take_left, List.drop_left, if_pos h]

end Text

namespace Target

/-! ## Parameters -/

/-- What a `transport` parameter says; any other parameter says nothing. -/
def transportValue? (parameter : List Char) : Option (List Char) :=
  match cutFirst '=' parameter with
  | some (name, value) => if sameLetters (String.ofList name) "transport" then some value else none
  | none => none

/-- The parameters behind the address of a uri. -/
def parameters (uri : String) : List (List Char) :=
  (pieces ';' (takeScheme (trimmed uri.toList)).2).tail

/-- What the `transport` parameters of a uri say, in order. -/
def transportValues (uri : String) : List (List Char) :=
  (parameters uri).filterMap transportValue?

/-- The uri begins with `sips:`, in any letter case and with blanks in front of it or without. -/
def IsSips (uri : String) : Prop :=
  ∃ scheme rest, trimmed uri.toList = scheme ++ rest ∧
    sameLetters (String.ofList scheme) "sips:" = true

variable {transport : Transport} {parameter value : List Char} {uri : String} {target : Target}

/-- A `transport` parameter names its own transport, and any other one leaves the transport alone.
-/
lemma applyParameter_eq (transport : Transport) (parameter : List Char) :
    applyParameter transport parameter =
      match transportValue? parameter with
      | none => some transport
      | some value => namedTransport value := by
  unfold applyParameter transportValue?
  cases cutFirst '=' parameter with
  | none => rfl
  | some pair =>
    by_cases hname : sameLetters (String.ofList pair.1) "transport" = true
    · simp only [if_pos hname]
    · simp only [if_neg hname]

/-- If each of the `transport` parameters names a transport, the last of these counts, and without
any the transport stays. -/
lemma foldlM_applyParameter (transport : Transport) (parameters : List (List Char)) :
    parameters.foldlM applyParameter transport =
      let values := parameters.filterMap transportValue?
      if values.all fun value => (namedTransport value).isSome then
        some ((values.getLast?.bind namedTransport).getD transport)
      else none := by
  -- the transport in force before a parameter matters only where none is named behind it
  induction parameters generalizing transport with
  | nil => rfl
  | cons parameter parameters ih =>
    dsimp only at ih ⊢
    rw [List.foldlM_cons, applyParameter_eq]
    cases hvalue : transportValue? parameter with
    | none =>
      rw [List.filterMap_cons_none hvalue]
      exact ih transport
    | some value =>
      rw [List.filterMap_cons_some hvalue, List.all_cons]
      show (namedTransport value).bind (fun named => parameters.foldlM applyParameter named) = _
      cases hnamed : namedTransport value with
      | none => rfl
      | some named =>
        rw [Option.bind_some, ih named, Option.isSome_some, Bool.true_and]
        refine ite_congr rfl (fun hall => ?_) fun _ => rfl
        rw [List.getLast?_cons, Option.bind_some]
        cases hlast : (parameters.filterMap transportValue?).getLast? with
        | none =>
          rw [Option.getD_none, hnamed]
          rfl
        | some last =>
          have hknown := List.all_eq_true.1 hall last (List.mem_of_getLast? hlast)
          obtain ⟨final, hfinal⟩ := Option.isSome_iff_exists.1 hknown
          rw [Option.getD_some, Option.bind_some, hfinal]
          rfl

/-- A transport is named by its text, in any letter case. -/
lemma namedTransport_eq_some_iff :
    namedTransport value = some transport ↔
      sameLetters (String.ofList value) transport.text = true := by
  have htls : upper "tls" = "TLS" := by decide
  have htcp : upper "tcp" = "TCP" := by decide
  rw [sameLetters_iff]
  unfold namedTransport
  cases transport with
  | plain =>
    rw [Transport.text, htcp]
    split <;> simp_all
  | tls =>
    rw [Transport.text, htls]
    split <;> simp_all

/-! ## Reading -/

/-- Reading the address does not change the transport. -/
lemma transport_of_readAddress {address : List Char}
    (h : readAddress address transport = some target) : target.transport = transport := by
  unfold readAddress at h
  obtain ⟨⟨host, port⟩, -, h⟩ := Option.bind_eq_some_iff.1 h
  obtain ⟨number, -, h⟩ := Option.bind_eq_some_iff.1 h
  split at h
  · cases h
  · cases h
    rfl

/-- The transport of a target is the last one that a parameter names, or else that of the scheme,
and no parameter names an unknown one. -/
lemma transport_of_parse (h : parse uri = some target) :
    (∀ value ∈ transportValues uri, (namedTransport value).isSome) ∧
      target.transport = ((transportValues uri).getLast?.bind namedTransport).getD
        (takeScheme (trimmed uri.toList)).1 := by
  unfold parse at h
  unfold transportValues parameters
  generalize takeScheme (trimmed uri.toList) = scheme at h ⊢
  obtain ⟨transport, rest⟩ := scheme
  cases hpieces : pieces ';' rest with
  | nil => exact absurd hpieces (pieces_ne_nil ';' rest)
  | cons address parameters =>
    simp only [hpieces, foldlM_applyParameter] at h
    obtain ⟨final, hfinal, haddress⟩ := Option.bind_eq_some_iff.1 h
    split at hfinal
    · next hall =>
      cases hfinal
      exact ⟨List.all_eq_true.1 hall, transport_of_readAddress haddress⟩
    · cases hfinal

/-- The scheme `sips` stands for TLS. -/
lemma takeScheme_of_isSips (h : IsSips uri) : (takeScheme (trimmed uri.toList)).1 = .tls := by
  obtain ⟨scheme, rest, htext, hscheme⟩ := h
  rw [htext, takeScheme, dropLead_append hscheme]

/-- **Secure targets.** A uri that begins with `sips:`, in any letter case, and is a target at all
is dialed over TLS exactly if its last `transport` parameter, if there is one, is `tls`, in any
letter case; otherwise it is dialed without. Nothing else matters: neither the user, nor the form of
the host, nor any other parameter. -/
theorem transport_of_sips {uri : String} (hsips : IsSips uri) {target : Target}
    (hparse : parse uri = some target) :
    (target.transport = .tls ↔ ∀ value, (transportValues uri).getLast? = some value →
        sameLetters (String.ofList value) "tls" = true) ∧
      (target.transport = .plain ↔ ∃ value, (transportValues uri).getLast? = some value ∧
        sameLetters (String.ofList value) "tcp" = true) := by
  obtain ⟨hknown, htransport⟩ := transport_of_parse hparse
  rw [takeScheme_of_isSips hsips] at htransport
  cases hlast : (transportValues uri).getLast? with
  | none =>
    rw [hlast] at htransport
    rw [htransport]
    simp
  | some last =>
    obtain ⟨named, hnamed⟩ := Option.isSome_iff_exists.1 (hknown last (List.mem_of_getLast? hlast))
    rw [hlast, Option.bind_some, hnamed, Option.getD_some] at htransport
    have hiff : ∀ transport : Transport, target.transport = transport ↔
        sameLetters (String.ofList last) transport.text = true := by
      intro transport
      rw [htransport, ← namedTransport_eq_some_iff, hnamed, Option.some_inj]
    refine ⟨(hiff .tls).trans ?_, (hiff .plain).trans ?_⟩
    · simp [Transport.text]
    · simp [Transport.text]

/-- Two `transport` parameters with another one between them: the last one decides. -/
theorem transport_of_sips_named_twice :
    let uri := " SIPS:app@[::1]:5061;transport=tcp;lr=tcp;Transport=TLS"
    IsSips uri ∧ parse uri = some ⟨"::1", 5061, .tls⟩ ∧
      transportValues uri = ["tcp".toList, "TLS".toList] ∧
      ∀ value, (transportValues uri).getLast? = some value →
        sameLetters (String.ofList value) "tls" = true := by
  intro uri
  have hsips : IsSips uri :=
    ⟨"SIPS:".toList, "app@[::1]:5061;transport=tcp;lr=tcp;Transport=TLS".toList, by decide,
      by decide⟩
  have hparse : parse uri = some ⟨"::1", 5061, .tls⟩ := by decide
  exact ⟨hsips, hparse, by decide, (transport_of_sips hsips hparse).1.1 rfl⟩

/-- **A downgrade.** A uri with the scheme `sips` that is dialed without TLS. -/
theorem sips_over_plain :
    let uri := "sips:10.0.0.7:5061;transport=tcp"
    IsSips uri ∧ ∃ target, parse uri = some target ∧ target.transport ≠ .tls := by
  intro uri
  have hparse : parse uri = some ⟨"10.0.0.7", 5061, .plain⟩ := by decide
  refine ⟨⟨"sips:".toList, "10.0.0.7:5061;transport=tcp".toList, by decide, by decide⟩, ?_⟩
  exact ⟨_, hparse, by decide⟩

end Target

end CallDispatch
