import CallDispatch.Config.Basic
import CallDispatch.Proofs.Lookup
import CallDispatch.Url.Parser
import Mathlib.Data.List.Induction

/-!
# The last route for a method

Routes are added to a table, and sometimes it is cleared. Whether a route is accepted depends on the
route alone, and one that is refused leaves the table as it is; one that is accepted takes the place
of the route that was there for its method. So what the table holds for a method after any changes
is the route that was accepted last (`RouteTable.lookup_run_iff`), and a request is routed by it, or
else by the last route for `*` (`RouteTable.find_run_exact`).

## Main definitions

* `RouteTable.Change`, `RouteTable.run`: changes of a routing table, one after another.
* `RouteTable.LastAdded`: the last route that was accepted for a method since the table was cleared.
-/

namespace CallDispatch

open Text

namespace RouteTable

/-- A change of a routing table. -/
inductive Change
  | add (sipMethod httpMethod url : String)
  | clear
deriving DecidableEq

/-- Makes a change. -/
def Change.make (read : Url.Reader) (table : RouteTable) : Change → RouteTable
  | add sipMethod httpMethod url => (table.add read sipMethod httpMethod url).1
  | clear => table.clear

/-- Makes changes one after another. -/
def run (read : Url.Reader) (table : RouteTable) (changes : List Change) : RouteTable :=
  changes.foldl (Change.make read) table

/-- The route that a change adds for a SIP method, whatever the letter case of its name: none if the
change is for another method, or the route is refused. -/
def Change.added? (read : Url.Reader) (method : String) : Change → Option HttpRoute
  | add sipMethod httpMethod url =>
    if sameLetters sipMethod method then (readRoute read httpMethod url).toOption else none
  | clear => none

/-- The route was accepted for the method, and behind that the table was not cleared and no other
route was accepted for the method. -/
def LastAdded (read : Url.Reader) (changes : List Change) (method : String) (route : HttpRoute) :
    Prop :=
  ∃ before change behind, changes = before ++ change :: behind ∧
    change.added? read method = some route ∧
    ∀ later ∈ behind, later ≠ .clear ∧ later.added? read method = none

variable {read : Url.Reader} {table : RouteTable} {changes : List Change} {change : Change}
  {method sipMethod httpMethod url : String} {route : HttpRoute} {e : ResolverError}

/-! ## One change -/

/-- A route is accepted if the reader reads its URL, the URL has the scheme `http` or `https`, and
the HTTP method is one. -/
lemma readRoute_eq_ok_iff : readRoute read httpMethod url = .ok route ↔
    ∃ parsed, read url = .ok parsed ∧ (parsed.scheme = "http" ∨ parsed.scheme = "https") ∧
      isMethod httpMethod = true ∧ route = ⟨upper httpMethod, parsed⟩ := by
  unfold readRoute
  cases hread : read url with
  | error e => simp
  | ok parsed =>
    by_cases hscheme : parsed.scheme = "http" ∨ parsed.scheme = "https"
    · cases hmethod : isMethod httpMethod with
      | true =>
        simp only [List.mem_cons, List.not_mem_nil, or_false, List.contains_eq_mem, hscheme,
          decide_true, not_true_eq_false, if_false, if_true, Except.ok.injEq, exists_eq_left',
          true_and]
        exact eq_comm
      | false => simp [hscheme]
    · simp [hscheme]

/-- Whether a route is accepted does not depend on the table. -/
lemma add_snd (table : RouteTable) (sipMethod : String) {httpMethod url : String} :
    (table.add read sipMethod httpMethod url).2 =
      (readRoute read httpMethod url).map fun _ => () := by
  unfold add
  cases readRoute read httpMethod url <;> rfl

/-- A route that is refused changes nothing. -/
lemma add_of_error (table : RouteTable) (sipMethod : String)
    (h : readRoute read httpMethod url = .error e) :
    table.add read sipMethod httpMethod url = (table, .error e) := by
  unfold add
  rw [h]

/-- A route that is accepted is the one for its method from then on, and is none for any other. -/
lemma lookup_add_of_ok (table : RouteTable) (sipMethod key : String)
    (h : readRoute read httpMethod url = .ok route) :
    (table.add read sipMethod httpMethod url).1.routes.lookup key =
      if key = upper sipMethod then some route else table.routes.lookup key := by
  unfold add
  rw [h]
  dsimp only
  by_cases hkey : key = upper sipMethod
  · rw [if_pos hkey, hkey, List.lookup_cons_self]
  · rw [if_neg hkey, lookup_cons_of_ne hkey, lookup_filter_ne, if_neg hkey]

/-- After a change the table has the route that the change adds for a method, or else the one that
it had, unless it was cleared. -/
lemma lookup_make (table : RouteTable) (change : Change) (method : String) :
    (change.make read table).routes.lookup (upper method) =
      (change.added? read method).or
        (if change = .clear then none else table.routes.lookup (upper method)) := by
  cases change with
  | clear => rfl
  | add sipMethod httpMethod url =>
    have hsame : upper method = upper sipMethod ↔ sameLetters sipMethod method = true := by
      rw [sameLetters_iff, eq_comm]
    rw [if_neg (by simp), Change.make, Change.added?]
    cases hread : readRoute read httpMethod url with
    | error e =>
      rw [add_of_error table sipMethod hread]
      simp [Except.toOption]
    | ok route =>
      rw [lookup_add_of_ok table sipMethod (upper method) hread]
      by_cases hmethod : sameLetters sipMethod method = true
      · simp [hsame.2 hmethod, hmethod, Except.toOption]
      · simp [mt hsame.1 hmethod, hmethod]

/-! ## Any changes -/

lemma not_lastAdded_nil : ¬LastAdded read [] method route := by
  rintro ⟨before, change, behind, hchanges, -⟩
  simp at hchanges

/-- The route that was added last is the one that the last change adds, or else the one before. -/
lemma lastAdded_append_iff : LastAdded read (changes ++ [change]) method route ↔
    change.added? read method = some route ∨
      change.added? read method = none ∧ change ≠ .clear ∧
        LastAdded read changes method route := by
  constructor
  · rintro ⟨before, added, behind, hchanges, hadded, hbehind⟩
    -- either nothing stands behind the change that added the route, or the last change does
    rcases List.eq_nil_or_concat behind with rfl | ⟨rest, last, rfl⟩
    · obtain ⟨-, hlast⟩ := List.append_inj' hchanges rfl
      obtain rfl : change = added := List.singleton_inj.1 hlast
      exact Or.inl hadded
    · rw [List.concat_eq_append, ← List.cons_append, ← List.append_assoc] at hchanges
      obtain ⟨rfl, hlast⟩ := List.append_inj' hchanges rfl
      obtain rfl : change = last := List.singleton_inj.1 hlast
      rw [List.concat_eq_append] at hbehind
      obtain ⟨hkept, hnone⟩ := hbehind change (by simp)
      exact Or.inr ⟨hnone, hkept, before, added, rest, rfl, hadded, fun later hlater =>
        hbehind later (List.mem_append_left _ hlater)⟩
  · rintro (hadded | ⟨hnone, hkept, before, added, behind, rfl, hadded, hbehind⟩)
    · exact ⟨changes, change, [], rfl, hadded, by simp⟩
    · refine ⟨before, added, behind ++ [change], by simp, hadded, fun later hlater => ?_⟩
      rcases List.mem_append.1 hlater with hlater | hlater
      · exact hbehind later hlater
      · obtain rfl := List.mem_singleton.1 hlater
        exact ⟨hkept, hnone⟩

/-- The table holds for a method the route that was added last. -/
lemma lookup_run_iff :
    (run read {} changes).routes.lookup (upper method) = some route ↔
      LastAdded read changes method route := by
  induction changes using List.reverseRecOn with
  | nil => exact iff_of_false nofun not_lastAdded_nil
  | append_singleton changes change ih =>
    have hstep : run read {} (changes ++ [change]) = change.make read (run read {} changes) := by
      rw [run, List.foldl_append]
      rfl
    rw [lastAdded_append_iff, hstep, lookup_make]
    cases hadded : change.added? read method with
    | some added => simp
    | none =>
      by_cases hclear : change = .clear
      · simp [hclear]
      · simp [hclear, ih]

/-- The table holds no route for a method for which none was added. -/
lemma lookup_run_eq_none_iff : (run read {} changes).routes.lookup (upper method) = none ↔
    ¬∃ route, LastAdded read changes method route := by
  simp only [← lookup_run_iff, Option.eq_none_iff_forall_ne_some, not_exists, ne_eq]

end RouteTable

/-! ## Configured routes -/

/-- The change that adds a configured route. -/
def RouteConfig.change (route : RouteConfig) : RouteTable.Change :=
  .add route.sipMethod route.httpMethod route.url

namespace Config

/-- Routes are added up to the first that is refused, so that all are accepted or there is no
table. -/
lemma addRoutes_eq_ok_iff {read : Url.Reader} {table result : RouteTable}
    {routes : List RouteConfig} :
    addRoutes read table routes = .ok result ↔
      (∀ route ∈ routes, ∃ added,
        RouteTable.readRoute read route.httpMethod route.url = .ok added) ∧
        result = table.run read (routes.map RouteConfig.change) := by
  induction routes generalizing table with
  | nil => simp [addRoutes, RouteTable.run, eq_comm]
  | cons route routes ih =>
    rw [List.forall_mem_cons, List.map_cons]
    cases hread : RouteTable.readRoute read route.httpMethod route.url with
    | error e =>
      rw [addRoutes, RouteTable.add_of_error table route.sipMethod hread]
      simp
    | ok added =>
      have hadd : table.add read route.sipMethod route.httpMethod route.url =
          (route.change.make read table, .ok ()) := by
        refine Prod.ext rfl ?_
        rw [RouteTable.add_snd, hread]
        rfl
      rw [addRoutes, hadd]
      simp only [ih]
      simp [RouteTable.run]

/-- A configuration has a table exactly if all of its routes are accepted. -/
lemma exists_routeTable_iff {read : Url.Reader} {config : Config} :
    (∃ table, config.routeTable read = .ok table) ↔
      ∀ route ∈ config.routes, ∃ added,
        RouteTable.readRoute read route.httpMethod route.url = .ok added := by
  simp only [routeTable, addRoutes_eq_ok_iff, exists_and_left, exists_eq, and_true]

end Config

/-! ## The main result -/

/-- **The last word on a method.** Let URLs be read in whatever way. After any changes of a table,
whatever was refused among them, the route that is found for a method is the last one that was
accepted for the method, in any letter case, since the table was cleared; else the last one for `*`;
else there is none. A route is accepted if its URL is read and has the scheme `http` or `https` and
its HTTP method is one, and a route that is refused leaves the table as it is. A configuration has a
table exactly if each of its routes is accepted by an empty table, and then it is the one that comes
of adding them in order. -/
theorem RouteTable.find_run_exact (read : Url.Reader) :
    (∀ (changes : List Change) (method : String) (route : HttpRoute),
      (run read {} changes).find method = some route ↔
        LastAdded read changes method route ∨
          (¬∃ own, LastAdded read changes method own) ∧ LastAdded read changes "*" route) ∧
      (∀ (table : RouteTable) (sipMethod httpMethod url : String),
        (table.add read sipMethod httpMethod url).2 =
            (readRoute read httpMethod url).map (fun _ => ()) ∧
          ((table.add read sipMethod httpMethod url).2 = .ok () ↔
            ∃ parsed, read url = .ok parsed ∧
              (parsed.scheme = "http" ∨ parsed.scheme = "https") ∧
              isMethod httpMethod = true) ∧
          ∀ e, (table.add read sipMethod httpMethod url).2 = .error e →
            (table.add read sipMethod httpMethod url).1 = table) ∧
      ∀ config : Config,
        ((∃ table, config.routeTable read = .ok table) ↔
          ∀ route ∈ config.routes,
            (({} : RouteTable).add read route.sipMethod route.httpMethod route.url).2 = .ok ()) ∧
        ∀ table, config.routeTable read = .ok table →
          table = run read {} (config.routes.map fun route =>
            .add route.sipMethod route.httpMethod route.url) := by
  have haccepted : ∀ (table : RouteTable) (sipMethod httpMethod url : String),
      (table.add read sipMethod httpMethod url).2 = .ok () ↔
        ∃ route, readRoute read httpMethod url = .ok route := by
    intro table sipMethod httpMethod url
    rw [add_snd]
    cases readRoute read httpMethod url <;> simp [Except.map]
  refine ⟨fun changes method route => ?_, fun table sipMethod httpMethod url =>
    ⟨add_snd table sipMethod, ?_, fun e hrefused => ?_⟩,
    fun config => ⟨?_, fun table htable => (Config.addRoutes_eq_ok_iff.1 htable).2⟩⟩
  · have hstar : upper "*" = "*" := by decide
    rw [← lookup_run_eq_none_iff, ← lookup_run_iff, ← lookup_run_iff, find, hstar,
      Option.or_eq_some_iff]
  · rw [haccepted]
    simp only [readRoute_eq_ok_iff]
    constructor
    · rintro ⟨_, parsed, hread, hscheme, hmethod, -⟩
      exact ⟨parsed, hread, hscheme, hmethod⟩
    · rintro ⟨parsed, hread, hscheme, hmethod⟩
      exact ⟨_, parsed, hread, hscheme, hmethod, rfl⟩
  · cases hread : readRoute read httpMethod url with
    | error e => rw [add_of_error table sipMethod hread]
    | ok route =>
      rw [add_snd, hread] at hrefused
      cases hrefused
  · simp only [haccepted]
    exact Config.exists_routeTable_iff

/-- A route takes the place of one for the same method in other letters, other methods have the
route for `*`, and one that is refused changes nothing. -/
example :
    let changes : List RouteTable.Change :=
      [.add "INVITE" "GET" "http://a/", .add "*" "get" "http://b/",
        .add "invite" "POST" "https://c/", .add "Invite" "GET" "ftp://d/"]
    let table := RouteTable.run Url.read {} changes
    (["InViTe", "BYE"].map fun method => (table.find method).map fun route =>
        (route.method, route.url.text)) =
      [some ("POST", "https://c/"), some ("GET", "http://b/")] ∧
    (RouteTable.run Url.read {} (changes ++ [.clear])).find "BYE" = none := by
  decide +kernel

end CallDispatch
