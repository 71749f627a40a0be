import CallDispatch.Config.Json
import CallDispatch.Proofs.Json.Decode
import CallDispatch.Proofs.Json.Printing
import CallDispatch.Proofs.Net.SocketAddress
import CallDispatch.Url.Parser
import Mathlib.Tactic.Lemma

/-!
# Saved configurations

A configuration that keeps to the rules survives being saved and loaded (`Config.load_print`), if
its numbers have 64 bits and no address has a flow label, for which its text has no place. Every
field is written, so that no default ever takes the place of what was saved.
-/

namespace CallDispatch

open Text

/-! ## Routes -/

lemma RouteConfig.printable_toJson (route : RouteConfig) : Json.Printable route.toJson := by
  refine .ofFields ?_
  simp only [List.forall_mem_cons]
  exact ⟨.ofText _, .ofText _, .ofText _, nofun⟩

lemma RouteConfig.ofJson?_toJson (route : RouteConfig) : ofJson? route.toJson = some route := by
  have hrecord : Json.Record.ofJson? ["sip_method", "http_method", "url"] false route.toJson =
      some ⟨_⟩ :=
    Json.Record.ofJson?_ofFields false rfl (by decide)
  rw [ofJson?, hrecord]
  simp [Json.Record.required, Json.Record.withDefault, List.lookup_cons]

namespace Config

variable {config : Config}

/-- The durations of a configuration. -/
def durations (config : Config) : List Nat :=
  [config.handshakeTimeout, config.dialTimeout, config.drainTimeout, config.resolverTimeout,
    config.livenessInterval]

/-- A configuration whose document says all there is: its durations and its capacity, a number of
the machine, have at most 64 bits, and no address has a flow label. -/
structure Portable (config : Config) : Prop where
  durations : ∀ ms ∈ config.durations, ms < 2 ^ 64
  capacity : config.channelCapacity < 2 ^ 64
  tcp : ∀ address ∈ config.tcpListen, address.flow = 0
  tls : ∀ address ∈ config.tlsListen, address.flow = 0

lemma printable_addressJson (address : Option SocketAddress) :
    Json.Printable (addressJson address) := by
  cases address with
  | none => exact .null
  | some address => exact .ofText _

lemma printable_toJson (config : Config) : Json.Printable config.toJson := by
  have hroutes : ∀ item ∈ config.routes.map RouteConfig.toJson, Json.Printable item := by
    intro item hitem
    obtain ⟨route, -, rfl⟩ := List.mem_map.1 hitem
    exact route.printable_toJson
  refine .ofFields ?_
  simp only [List.forall_mem_cons]
  exact ⟨printable_addressJson _, printable_addressJson _, .ofText _, .ofNat _, .ofNat _, .ofNat _,
    .ofNat _, .ofNat _, .array hroutes, .ofNat _, nofun⟩

/-- An address without a flow label is read back, and one that is absent stays absent. -/
lemma address?_addressJson {address : Option SocketAddress} (h : ∀ a ∈ address, a.flow = 0) :
    address? (addressJson address) = some address :=
  Json.nullable?_ofOption (fun _ => Json.noConfusion) fun a ha => SocketAddress.parse_text (h a ha)

lemma number?_durationJson {ms : Nat} (h : ms < 2 ^ 64) : number? (durationJson ms) = some ms := by
  have hmod : ms % Nat.pow 2 64 = ms := Nat.mod_eq_of_lt h
  rw [durationJson, hmod]
  exact Json.natural?_ofNat (Nat.le_of_lt_succ h)

/-- A configuration is read back from its document. -/
lemma ofJson?_toJson (h : config.Portable) : ofJson? config.toJson = some config := by
  have hdurations := h.durations
  simp only [durations, List.forall_mem_cons] at hdurations
  obtain ⟨hhandshake, hdial, hdrain, hresolver, hliveness, -⟩ := hdurations
  have hcapacity : number? (.ofNat config.channelCapacity) = some config.channelCapacity :=
    Json.natural?_ofNat (Nat.le_of_lt_succ h.capacity)
  have hroutes : Json.list? RouteConfig.ofJson? (.array (config.routes.map RouteConfig.toJson)) =
      some config.routes :=
    Json.list?_map fun route _ => route.ofJson?_toJson
  have hrecord : Json.Record.ofJson? fieldNames true config.toJson = some ⟨_⟩ :=
    Json.Record.ofJson?_ofFields true rfl (by decide)
  -- every field is present, so none of the defaults is asked for
  rw [ofJson?, hrecord]
  simp [Json.Record.withDefault, List.lookup_cons, address?_addressJson h.tcp,
    address?_addressJson h.tls, number?_durationJson hhandshake, number?_durationJson hdial,
    number?_durationJson hdrain, number?_durationJson hresolver, number?_durationJson hliveness,
    hroutes, hcapacity]

end Config

/-! ## The main result -/

/-- **Saved configurations.** A configuration that keeps to the rules, with durations and a capacity
of 64 bits and addresses without flow labels, is loaded from its own text as it was: an absent
address stays absent, and the routes stay in order. In which way the URLs of routes are read does
not matter, so that every configuration which is accepted is meant. -/
theorem Config.load_print {read : Url.Reader} {config : Config}
    (hvalid : config.validate read = .ok ()) (hportable : config.Portable) :
    load read config.toJson.print = .ok config := by
  rw [load, Json.parse_print config.printable_toJson, Option.bind_some, ofJson?_toJson hportable]
  simp only [hvalid]

/-- Only TLS, on an address with two runs of zeros and a scope; a secret with a quote, a backslash,
a control character and a character outside of the first plane; no time to drain, the largest
interval and capacity, and two routes for one method, one of them to a host outside ASCII. -/
theorem Config.load_print_onlyTls :
    let config : Config := {
      tcpListen := none
      tlsListen := some (.v6 ⟨#v[0xFE80, 0, 0, 1, 0, 0, 0, 0xA]⟩ 9023 7 0)
      secret := " \"q\\\x01🔑"
      drainTimeout := 0
      livenessInterval := 0xFFFFFFFFFFFFFFFF
      routes := [⟨"*", "GET", "http://bücher.example/"⟩, ⟨"*", "post", "https://b/?c"⟩]
      channelCapacity := 0xFFFFFFFFFFFFFFFF }
    config.validate Url.read = .ok () ∧ config.Portable ∧
      load Url.read config.toJson.print = .ok config := by
  intro config
  have hvalid : config.validate Url.read = .ok () := by decide +kernel
  have hportable : config.Portable := {
    durations := by decide
    capacity := by decide
    tcp := nofun
    tls := by simp [config, SocketAddress.flow] }
  exact ⟨hvalid, hportable, load_print hvalid hportable⟩

end CallDispatch
