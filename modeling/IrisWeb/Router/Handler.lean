import Mathlib.Data.List.Nodup
import IrisWeb.Router.Model.Route
import IrisWeb.Router.Trie.Search
/-!
# The router's request handler

`core/router/handler.go`: `routerHandler` keeps one trie per method and
subdomain, built from the registered routes by `Build`. `HandleRequest`
corrects a path with a trailing slash, then searches the first tree of the
request's method whose subdomain test passes, and stops there: a miss is a
405 when a tree of any method has the path and `FireMethodNotAllowed` is
on, and a 404 otherwise. `RouteExists` makes the same test over every tree
and stops at the first that has the path.

So the two part only where two trees of the request's method pass the
subdomain test. Where at most one does, a request is served iff
`RouteExists` says its route exists, and a 405 names another method
(`handleRequest_agrees_routeExists`); `Build` without subdomains leaves one
tree per method (`build_one_tree_per_method`). Both searches bind their
parameters in the context's own store (`routeExists_rebinds_params`).

`Build` sorts the routes with a `less` that is irreflexive and transitive
(`routeLess_strictOrder`) but whose incomparability is not transitive
(`routeLess_incomparable_not_transitive`), so the order `sort.Slice`
leaves is an input of `build`.

`netutil.IsLoopbackSubdomain` is declared outside src/ and is a parameter.
-/

namespace IrisWeb

namespace Router

open Context (RequestParams)

/-- `SubdomainWildcardIndicator`. -/
def subdomainWildcardIndicator : String := "*."

/-- `http.MethodGet`. -/
def methodGet : String := "GET"

/-- `http.MethodPost`. -/
def methodPost : String := "POST"

/-- `http.MethodPut`. -/
def methodPut : String := "PUT"

/-- `http.StatusMovedPermanently`. -/
def statusMovedPermanently : Nat := 301

/-- `http.StatusTemporaryRedirect`. -/
def statusTemporaryRedirect : Nat := 307

/-- `routerHandler`. A tree carries its method and subdomain. -/
structure RouterHandler (H : Type) where
  trees : List (Trie H) := []
  /-- Whether a route with a subdomain was built. -/
  hosts : Bool := false

/-- The configuration getters `HandleRequest` reads. -/
structure Configuration where
  disablePathCorrection : Bool := false
  disablePathCorrectionRedirection : Bool := false
  fireMethodNotAllowed : Bool := false
  vHost : String := ""
deriving DecidableEq, Repr

/-- A request as `HandleRequest` reads it: `ctx.Method()`, `ctx.Host()` and
`ctx.Path()`. -/
structure Request where
  method : String
  host : String
  path : String
deriving DecidableEq, Repr

/-- What `HandleRequest` does with a request. -/
inductive Response (H : Type)
  /-- `ctx.Redirect` to the corrected path with the code; `note` is the
short note a `GET` gets. -/
  | redirect (path : String) (code : Nat) (note : Bool)
  /-- `ctx.SetCurrentRouteName(n.RouteName)` and `ctx.Do(n.Handlers)`, with
the parameters the search bound. -/
  | serve (routeName : String) (handlers : List H) (params : RequestParams)
  /-- `405` with the `Allow` header. -/
  | methodNotAllowed (allow : String)
  /-- `404`. -/
  | notFound
deriving DecidableEq, Repr

/-- `"/" + strings.Trim(path, "/")`. -/
def trimSlashes (path : String) : String :=
  ⟨'/' :: ((path.data.dropWhile (· == '/')).reverse.dropWhile (· == '/')).reverse⟩

/-- `dotIdx > 0 && (slashIdx == -1 || slashIdx > dotIdx)`, with the first
`.` and `/` of the host. -/
def dotBeforeSlash (host : String) : Bool :=
  match host.data.indexOf? '.', host.data.indexOf? '/' with
  | some d, none => 0 < d
  | some d, some s => 0 < d && d < s
  | none, _ => false

namespace RouterHandler

variable {H : Type} (isLoopbackSubdomain : String → Bool)

/-! ## Serving -/

/-- The subdomain test, the same code in `HandleRequest`'s loop and in
`subdomainAndPathAndMethodExists`. A handler without hosts, or a tree
without a subdomain, passes. A loopback host fails; the wildcard subdomain
needs a host other than the server's with a `.` after its first character
and before any `/`; any other subdomain must begin the host. -/
def subdomainPasses (h : RouterHandler H) (cfg : Configuration) (host : String) (t : Trie H) :
    Bool :=
  if h.hosts && t.subdomain != "" then
    if isLoopbackSubdomain host then false
    else if t.subdomain = subdomainWildcardIndicator then
      cfg.vHost != host && dotBeforeSlash host
    else t.subdomain.data.isPrefixOf host.data
  else true

/-- `subdomainAndPathAndMethodExists`: the method, unless it is `""`, then
the subdomain test, then the search. The store is the one the search left;
`none` is a panic. -/
def subdomainAndPathAndMethodExists (h : RouterHandler H) (cfg : Configuration) (host : String)
    (t : Trie H) (method path : String) (params : RequestParams) : Option (Bool × RequestParams) :=
  if method ≠ "" ∧ method ≠ t.method then some (false, params)
  else if h.subdomainPasses isLoopbackSubdomain cfg host t then
    (t.search path params).map fun r => (r.1.isSome, r.2)
  else some (false, params)

/-- The loop of `RouteExists` and of `HandleRequest`'s search for a 405:
the first tree the test holds of, the store threaded through the tests. -/
def firstTree (test : Trie H → RequestParams → Option (Bool × RequestParams)) :
    List (Trie H) → RequestParams → Option (Option (Trie H) × RequestParams)
  | [], ps => some (none, ps)
  | t :: ts, ps =>
    (test t ps).bind fun r => if r.1 then some (some t, r.2) else firstTree test ts r.2

/-- `RouteExists`. -/
def routeExists (h : RouterHandler H) (cfg : Configuration) (host method path : String)
    (params : RequestParams) : Option (Bool × RequestParams) :=
  (firstTree (fun t => h.subdomainAndPathAndMethodExists isLoopbackSubdomain cfg host t method path)
    h.trees params).map fun r => (r.1.isSome, r.2)

/-- `HandleRequest`'s loop: trees of another method and trees failing the
subdomain test are skipped; the first other tree is searched, and the loop
ends there with the node found, if any. -/
def dispatch (h : RouterHandler H) (cfg : Configuration) (host method path : String) :
    List (Trie H) → RequestParams → Option (Option (Trie H × Addr) × RequestParams)
  | [], ps => some (none, ps)
  | t :: ts, ps =>
    if method ≠ t.method then h.dispatch cfg host method path ts ps
    else if h.subdomainPasses isLoopbackSubdomain cfg host t then
      (t.search path ps).map fun r => (r.1.map (t, ·), r.2)
    else h.dispatch cfg host method path ts ps

/-- Whether `HandleRequest` corrects the path: the correction is on and
the path is longer than `/` and ends in `/`. -/
def correctsPath (cfg : Configuration) (path : String) : Bool :=
  !cfg.disablePathCorrection && 1 < path.length && path.data.getLast? == some '/'

/-- What `HandleRequest` does once its loop ends: the node found is
served; on a miss, the 405 search runs when `FireMethodNotAllowed` is on,
with the store the loop left. -/
def respond (h : RouterHandler H) (cfg : Configuration) (host path : String) :
    Option (Trie H × Addr) × RequestParams → Option (Response H)
  | (some (t, a), ps) => some (.serve (t.node a).routeName (t.node a).handlers ps)
  | (none, ps) =>
    if cfg.fireMethodNotAllowed then
      (firstTree (fun t => h.subdomainAndPathAndMethodExists isLoopbackSubdomain cfg host t "" path)
          h.trees ps).map fun
        | (some t, _) => .methodNotAllowed t.method
        | (none, _) => .notFound
    else some .notFound

/-- `HandleRequest`. A corrected path is redirected to, `307` for `POST`
and `PUT`, `301` with a note for a `GET`, unless redirection is off; then
the loop, over the corrected path if there is one. -/
def handleRequest (h : RouterHandler H) (cfg : Configuration) (req : Request)
    (params : RequestParams) : Option (Response H) :=
  if correctsPath cfg req.path && !cfg.disablePathCorrectionRedirection then
    if req.method = methodPost ∨ req.method = methodPut then
      some (.redirect (trimSlashes req.path) statusTemporaryRedirect false)
    else some (.redirect (trimSlashes req.path) statusMovedPermanently (req.method = methodGet))
  else
    let path := if correctsPath cfg req.path then trimSlashes req.path else req.path
    (h.dispatch isLoopbackSubdomain cfg req.host req.method path h.trees params).bind
      (h.respond isLoopbackSubdomain cfg req.host path)

/-! ## Building -/

/-- `getTree`, as the tree's position. -/
def getTree (h : RouterHandler H) (method subdomain : String) : Option Nat :=
  h.trees.findIdx? fun t => t.method == method && t.subdomain == subdomain

/-- `addRoute`: the route is inserted into the tree of its method and
subdomain, a new one appended if there is none. -/
def addRoute (h : RouterHandler H) (r : Route H) : Option (RouterHandler H) :=
  match h.getTree r.method r.subdomain with
  | some i =>
    ((h.trees.getD i newTrie).insert r.path r.name r.handlers).map fun t =>
      { h with trees := h.trees.set i t }
  | none =>
    ({ (newTrie : Trie H) with method := r.method, subdomain := r.subdomain }.insert r.path r.name
        r.handlers).map fun t => { h with trees := h.trees ++ [t] }

/-- The `less` of `Build`'s `sort.Slice`. `hasParams` says whether a
route's parsed template has parameters; the template is not modelled. -/
def routeLess (hasParams : Route H → Bool) (first second : Route H) : Bool :=
  let lsub1 := first.subdomain.utf8ByteSize
  let lsub2 := second.subdomain.utf8ByteSize
  let firstSlashLen := first.path.data.count '/'
  let secondSlashLen := second.path.data.count '/'
  if lsub1 = lsub2 ∧ first.method = second.method then
    if secondSlashLen < firstSlashLen then true
    else if secondSlashLen = firstSlashLen then
      if !hasParams first then false
      else if !hasParams second then true
      else decide (lsub1 > lsub2)
    else decide (lsub1 > lsub2)
  else decide (lsub1 > lsub2)

/-- `GET /a/b`, `POST /c` and `GET /d` on the root domain: the first is less
than the third, and the second is comparable with neither, so
incomparability is not transitive and `routeLess` is no strict weak order. -/
theorem routeLess_incomparable_not_transitive :
    let a : Route Nat :=
      { name := "ab", method := "GET", methodBckp := "GET", subdomain := "", handlers := [0],
        path := "/a/b", formattedPath := "/a/b" }
    let b : Route Nat :=
      { name := "c", method := "POST", methodBckp := "POST", subdomain := "", handlers := [1],
        path := "/c", formattedPath := "/c" }
    let c : Route Nat :=
      { name := "d", method := "GET", methodBckp := "GET", subdomain := "", handlers := [2],
        path := "/d", formattedPath := "/d" }
    routeLess (fun _ => false) a c = true ∧
      routeLess (fun _ => false) a b = false ∧ routeLess (fun _ => false) b a = false ∧
      routeLess (fun _ => false) b c = false ∧ routeLess (fun _ => false) c b = false := by
  decide

/-- `routeLess` as a disjunction: a longer subdomain first; within one
subdomain length and method, more slashes first, and at equal slashes a
route with parameters before one without. -/
theorem routeLess_iff (hasParams : Route H → Bool) (a b : Route H) :
    routeLess hasParams a b = true ↔
      b.subdomain.utf8ByteSize < a.subdomain.utf8ByteSize ∨
        (a.subdomain.utf8ByteSize = b.subdomain.utf8ByteSize ∧ a.method = b.method ∧
          (b.path.data.count '/' < a.path.data.count '/' ∨
            (a.path.data.count '/' = b.path.data.count '/' ∧ hasParams a = true ∧
              hasParams b = false))) := by
  unfold routeLess
  by_cases hg : a.subdomain.utf8ByteSize = b.subdomain.utf8ByteSize ∧ a.method = b.method
  · rw [if_pos hg]
    obtain ⟨hl, hm⟩ := hg
    cases hasParams a <;> cases hasParams b <;> simp [hl, hm]
    all_goals omega
  · rw [if_neg hg, decide_eq_true_iff]
    exact ⟨Or.inl, fun h => h.resolve_right fun ⟨hl, hm, _⟩ => hg ⟨hl, hm⟩⟩

/-- **`Build`'s order is a strict partial order.** Whatever `hasParams`
says, `routeLess` is irreflexive and transitive; what `sort.Slice` also
needs, and does not get, is that incomparability be transitive. -/
theorem routeLess_strictOrder (hasParams : Route H → Bool) :
    (∀ a : Route H, routeLess hasParams a a = false) ∧
      ∀ a b c : Route H, routeLess hasParams a b = true → routeLess hasParams b c = true →
        routeLess hasParams a c = true := by
  refine ⟨fun a => Bool.eq_false_iff.mpr fun h => ?_, fun a b c hab hbc => ?_⟩
  · rcases (routeLess_iff hasParams a a).mp h with h | ⟨-, -, h | ⟨-, h₁, h₂⟩⟩
    · exact Nat.lt_irrefl _ h
    · exact Nat.lt_irrefl _ h
    · exact Bool.noConfusion (h₁.symm.trans h₂)
  · rw [routeLess_iff] at hab hbc ⊢
    rcases hab with h₁ | ⟨h₁, m₁, h₁'⟩ <;> rcases hbc with h₂ | ⟨h₂, m₂, h₂'⟩
    · exact Or.inl (h₂.trans h₁)
    · exact Or.inl (h₂ ▸ h₁)
    · exact Or.inl (h₁ ▸ h₂)
    · refine Or.inr ⟨h₁.trans h₂, m₁.trans m₂, ?_⟩
      rcases h₁' with h₁' | ⟨e₁, -, p₁⟩ <;> rcases h₂' with h₂' | ⟨e₂, p₂, -⟩
      · exact Or.inl (h₂'.trans h₁')
      · exact Or.inl (e₂ ▸ h₁')
      · exact Or.inl (e₁ ▸ h₂')
      · exact absurd (p₁.symm.trans p₂) Bool.false_ne_true

/-- One turn of `Build`'s loop: the route's handlers are built, `hosts` set
for a route with a subdomain, and the route added. -/
def buildRoute (h : RouterHandler H) (r : Route H) : Option (RouterHandler H) :=
  let r := r.buildHandlers
  let h := if r.subdomain ≠ "" then { h with hosts := true } else h
  h.addRoute r

/-- `Build`, over the routes in the order `sort.Slice` by `routeLess` left
them: `routeLess` is not a strict weak order, so that order is an input.
The trees are reset, `hosts` is not. -/
def build (h : RouterHandler H) (sorted : List (Route H)) : Option (RouterHandler H) :=
  sorted.foldlM buildRoute { h with trees := [] }

/-! ## Dispatch and `RouteExists` -/


/-- The trees `HandleRequest`'s loop may search for a method: those of the
method that pass the subdomain test, in order. -/
def candidates (h : RouterHandler H) (cfg : Configuration) (host method : String) : List (Trie H) :=
  h.trees.filter fun t => t.method == method && h.subdomainPasses isLoopbackSubdomain cfg host t

/-- A search for `path` as a test: whether it finds a node. -/
def searchTest (path : String) (t : Trie H) (ps : RequestParams) : Option (Bool × RequestParams) :=
  (t.search path ps).map fun r => (r.1.isSome, r.2)

theorem firstTree_filter (test test' : Trie H → RequestParams → Option (Bool × RequestParams))
    (keep : Trie H → Bool) (htest : ∀ t ps, test t ps = if keep t then test' t ps else some (false, ps))
    (ts : List (Trie H)) (ps : RequestParams) :
    firstTree test ts ps = firstTree test' (ts.filter keep) ps := by
  induction ts generalizing ps with
  | nil => rfl
  | cons t ts ih => by_cases hk : keep t <;> simp [firstTree, htest, hk, ih]

theorem firstTree_found {test : Trie H → RequestParams → Option (Bool × RequestParams)}
    {ts : List (Trie H)} {ps ps' : RequestParams} {t : Trie H}
    (h : firstTree test ts ps = some (some t, ps')) : t ∈ ts ∧ ∃ ps0, test t ps0 = some (true, ps') := by
  induction ts generalizing ps with
  | nil => cases h
  | cons t' ts ih =>
    obtain ⟨⟨b, ps1⟩, h1, h2⟩ := Option.bind_eq_some.mp h
    cases b with
    | true =>
      simp only [if_true, Option.some.injEq, Prod.mk.injEq] at h2
      obtain ⟨rfl, rfl⟩ := h2
      exact ⟨List.mem_cons_self _ _, ps, h1⟩
    | false =>
      obtain ⟨hm, hs⟩ := ih h2
      exact ⟨List.mem_cons_of_mem _ hm, hs⟩

section Loops

variable (h : RouterHandler H) (cfg : Configuration) (host method path : String)

/-- **The loop searches the first candidate.** -/
theorem dispatch_eq (ps : RequestParams) :
    h.dispatch isLoopbackSubdomain cfg host method path h.trees ps =
      match h.candidates isLoopbackSubdomain cfg host method with
      | [] => some (none, ps)
      | t :: _ => (t.search path ps).map fun r => (r.1.map (t, ·), r.2) := by
  unfold candidates
  induction h.trees with
  | nil => rfl
  | cons t ts ih =>
    by_cases hm : t.method = method
    · by_cases hg : h.subdomainPasses isLoopbackSubdomain cfg host t
      · simp [dispatch, hm, hg]
      · simp [dispatch, hm, hg, ih]
    · simp [dispatch, hm, Ne.symm hm, ih]

/-- **`RouteExists` for a method searches the candidates.** -/
theorem routeExists_eq (hm : method ≠ "") (ps : RequestParams) :
    h.routeExists isLoopbackSubdomain cfg host method path ps =
      (firstTree (searchTest path) (h.candidates isLoopbackSubdomain cfg host method) ps).map
        fun r => (r.1.isSome, r.2) := by
  unfold routeExists candidates
  rw [firstTree_filter _ _ _ fun t ps => ?_]
  by_cases ht : t.method = method
  · by_cases hg : h.subdomainPasses isLoopbackSubdomain cfg host t <;>
      simp [subdomainAndPathAndMethodExists, searchTest, ht, hg]
  · simp [subdomainAndPathAndMethodExists, ht, Ne.symm ht, hm]

end Loops

/-- A path with no trailing `/`, or `/` itself, is left as it is. -/
theorem correctsPath_eq_false {cfg : Configuration} {path : String}
    (hp : path.data.getLast? = some '/' → path = "/") : correctsPath cfg path = false := by
  unfold correctsPath
  cases hl : path.data.getLast? with
  | none => simp
  | some c =>
    by_cases hc : c = '/'
    · subst hc
      have h1 : ("/" : String).length = 1 := rfl
      simp [hp hl, h1]
    · simp [hc]

section Serving

variable {h : RouterHandler H} {cfg : Configuration} {host path : String}

theorem handleRequest_of_uncorrected {req : Request} {params : RequestParams}
    (hc : correctsPath cfg req.path = false) :
    h.handleRequest isLoopbackSubdomain cfg req params =
      (h.dispatch isLoopbackSubdomain cfg req.host req.method req.path h.trees params).bind
        (h.respond isLoopbackSubdomain cfg req.host req.path) := by
  simp [handleRequest, hc]

theorem respond_serve {x : Option (Trie H × Addr) × RequestParams} {rn : String} {hs : List H}
    {ps : RequestParams} (hr : h.respond isLoopbackSubdomain cfg host path x = some (.serve rn hs ps)) :
    ∃ t a, x = (some (t, a), ps) := by
  rcases x with ⟨_ | ⟨t, a⟩, ps'⟩
  · simp only [respond] at hr
    split at hr <;> [skip; cases hr]
    obtain ⟨⟨_ | _, _⟩, -, h2⟩ := Option.map_eq_some'.mp hr <;> cases h2
  · cases hr; exact ⟨t, a, rfl⟩

theorem respond_methodNotAllowed {x : Option (Trie H × Addr) × RequestParams} {allow : String}
    (hr : h.respond isLoopbackSubdomain cfg host path x = some (.methodNotAllowed allow)) :
    ∃ ps t ps', x = (none, ps) ∧
      firstTree (fun t => h.subdomainAndPathAndMethodExists isLoopbackSubdomain cfg host t "" path)
        h.trees ps = some (some t, ps') ∧ allow = t.method := by
  rcases x with ⟨_ | ⟨t, a⟩, ps⟩
  · simp only [respond] at hr
    split at hr <;> [skip; cases hr]
    obtain ⟨⟨_ | t, ps'⟩, h1, h2⟩ := Option.map_eq_some'.mp hr
    · cases h2
    · cases h2; exact ⟨ps, t, ps', rfl, h1, rfl⟩
  · cases hr

end Serving

theorem eq_singleton_of_mem {l : List (Trie H)} {t : Trie H} (ht : t ∈ l) (hl : l.length ≤ 1) :
    l = [t] := by
  match l, ht, hl with
  | [_], .head _, _ => rfl
  | [_], .tail _ h, _ => cases h
  | _ :: _ :: _, _, hl => simp at hl

/-- What a tree `subdomainAndPathAndMethodExists` holds of, for any
method, is: it passes the subdomain test and the search finds a node. -/
theorem anyMethod_found {h : RouterHandler H} {cfg : Configuration} {host path : String}
    {t : Trie H} {ps ps' : RequestParams}
    (ht : h.subdomainAndPathAndMethodExists isLoopbackSubdomain cfg host t "" path ps = some (true, ps')) :
    h.subdomainPasses isLoopbackSubdomain cfg host t = true ∧ ∃ a, t.search path ps = some (some a, ps') := by
  simp only [subdomainAndPathAndMethodExists, ne_eq, not_true_eq_false, false_and, if_false] at ht
  split at ht
  · obtain ⟨⟨_ | a, ps1⟩, hs, he⟩ := Option.map_eq_some'.mp ht <;> simp at he
    exact ⟨‹_›, a, he ▸ hs⟩
  · cases ht

section Agreement

variable {h : RouterHandler H} {cfg : Configuration} {host method path : String}
  {params : RequestParams}

/-- **What the loop serves, `RouteExists` finds**, leaving the same store. -/
theorem routeExists_of_dispatch (hm : method ≠ "") {t : Trie H} {a : Addr} {ps : RequestParams}
    (hd : h.dispatch isLoopbackSubdomain cfg host method path h.trees params = some (some (t, a), ps)) :
    h.routeExists isLoopbackSubdomain cfg host method path params = some (true, ps) := by
  rw [dispatch_eq] at hd
  rw [routeExists_eq _ _ _ _ _ _ hm]
  cases hcs : h.candidates isLoopbackSubdomain cfg host method with
  | nil => simp [hcs] at hd
  | cons t' rest =>
    rw [hcs] at hd
    rcases hs : t'.search path params with _ | ⟨_ | a', ps'⟩ <;> simp [hs] at hd
    simp [firstTree, searchTest, hs, hd.2]

/-- **With one candidate, what `RouteExists` finds the loop serves.** -/
theorem dispatch_of_routeExists (hm : method ≠ "")
    (hone : (h.candidates isLoopbackSubdomain cfg host method).length ≤ 1) {ps : RequestParams}
    (he : h.routeExists isLoopbackSubdomain cfg host method path params = some (true, ps)) :
    ∃ t a, h.dispatch isLoopbackSubdomain cfg host method path h.trees params = some (some (t, a), ps) := by
  rw [routeExists_eq _ _ _ _ _ _ hm] at he
  rw [dispatch_eq]
  match hcs : h.candidates isLoopbackSubdomain cfg host method, hone with
  | [], _ => simp [hcs, firstTree] at he
  | [t], _ =>
    rw [hcs] at he
    rcases hs : t.search path params with _ | ⟨_ | a, ps'⟩ <;>
      simp [hs, firstTree, searchTest] at he ⊢
    exact he
  | _ :: _ :: _, hl => simp at hl

/-- **With one candidate, a node found in it at any store is not a miss of
the loop.** -/
theorem dispatch_ne_miss (hone : (h.candidates isLoopbackSubdomain cfg host method).length ≤ 1)
    {t : Trie H} (ht : t ∈ h.candidates isLoopbackSubdomain cfg host method) {ps0 ps1 : RequestParams}
    {a : Addr} (hs : t.search path ps0 = some (some a, ps1)) (ps : RequestParams) :
    h.dispatch isLoopbackSubdomain cfg host method path h.trees params ≠ some (none, ps) := by
  have hn := Trie.search_node t path params ps0
  rw [hs] at hn
  obtain ⟨⟨n, ps'⟩, hs', rfl⟩ := Option.map_eq_some'.mp hn
  rw [dispatch_eq, eq_singleton_of_mem ht hone]
  simp [hs']

end Agreement

/-- Dispatch and `RouteExists`: whatever `HandleRequest` serves,
`RouteExists` finds, leaving the same parameter store. Where at most one
tree of the request's method passes the subdomain test, `RouteExists`
finding a route means `HandleRequest` serves one, and a 405 names another
method. The request has a method, as every HTTP request has, and a path
`HandleRequest` does not correct. -/
theorem handleRequest_agrees_routeExists (h : RouterHandler H) (cfg : Configuration) (req : Request)
    (params : RequestParams) (hm : req.method ≠ "")
    (hp : req.path.data.getLast? = some '/' → req.path = "/") :
    (∀ rn hs ps, h.handleRequest isLoopbackSubdomain cfg req params = some (.serve rn hs ps) →
      h.routeExists isLoopbackSubdomain cfg req.host req.method req.path params = some (true, ps)) ∧
    ((h.candidates isLoopbackSubdomain cfg req.host req.method).length ≤ 1 →
      (∀ ps, h.routeExists isLoopbackSubdomain cfg req.host req.method req.path params = some (true, ps) →
        ∃ rn hs, h.handleRequest isLoopbackSubdomain cfg req params = some (.serve rn hs ps)) ∧
      ∀ allow, h.handleRequest isLoopbackSubdomain cfg req params = some (.methodNotAllowed allow) →
        allow ≠ req.method) := by
  have hc : correctsPath cfg req.path = false := correctsPath_eq_false hp
  refine ⟨fun rn hs ps hr => ?_, fun hone => ⟨fun ps he => ?_, fun allow hr heq => ?_⟩⟩
  · rw [handleRequest_of_uncorrected isLoopbackSubdomain hc] at hr
    obtain ⟨x, hd, hx⟩ := Option.bind_eq_some.mp hr
    obtain ⟨t, a, rfl⟩ := respond_serve isLoopbackSubdomain hx
    exact routeExists_of_dispatch isLoopbackSubdomain hm hd
  · obtain ⟨t, a, hd⟩ := dispatch_of_routeExists isLoopbackSubdomain hm hone he
    rw [handleRequest_of_uncorrected isLoopbackSubdomain hc, hd]
    exact ⟨_, _, rfl⟩
  · rw [handleRequest_of_uncorrected isLoopbackSubdomain hc] at hr
    obtain ⟨x, hd, hx⟩ := Option.bind_eq_some.mp hr
    obtain ⟨ps, t, ps', rfl, hf, rfl⟩ := respond_methodNotAllowed isLoopbackSubdomain hx
    obtain ⟨hmem, ps0, ht⟩ := firstTree_found hf
    obtain ⟨hg, a, hs⟩ := anyMethod_found isLoopbackSubdomain ht
    exact dispatch_ne_miss isLoopbackSubdomain hone
      (List.mem_filter.mpr ⟨hmem, by simp [heq, hg]⟩) hs ps hd

/-- One `GET` route, no subdomain: the request for it has a method and a
path left as it is, and the one candidate. -/
theorem handleRequest_agrees_users :
    let h := (({} : RouterHandler Nat).build
      [{ name := "users", method := "GET", methodBckp := "GET", subdomain := "", handlers := [0],
         path := "/users", formattedPath := "/users" }]).getD {}
    let req : Request := ⟨"GET", "example.com", "/users"⟩
    req.method ≠ "" ∧ (req.path.data.getLast? = some '/' → req.path = "/") ∧
      (∀ rn hs ps, h.handleRequest (fun _ => false) {} req {} = some (.serve rn hs ps) →
        h.routeExists (fun _ => false) {} req.host req.method req.path {} = some (true, ps)) ∧
      ((h.candidates (fun _ => false) {} req.host req.method).length ≤ 1 →
        (∀ ps, h.routeExists (fun _ => false) {} req.host req.method req.path {} = some (true, ps) →
          ∃ rn hs, h.handleRequest (fun _ => false) {} req {} = some (.serve rn hs ps)) ∧
        ∀ allow, h.handleRequest (fun _ => false) {} req {} = some (.methodNotAllowed allow) →
          allow ≠ req.method) :=
  ⟨by decide, by decide, handleRequest_agrees_routeExists _ _ _ _ _ (by decide) (by decide)⟩

/-- A `GET` route on the subdomain `admin.` and a `GET /x` on the root
domain, in the order `routeLess` puts them. With a loopback test that, as
`netutil.IsLoopbackSubdomain`, does not hold of `admin.example.com`, a
`GET admin.example.com/x` is searched in the subdomain's tree only: a 405
naming `GET`, or a 404, while `RouteExists` finds `/x` in the root tree. -/
theorem handleRequest_admin_subdomain :
    let admin : Route Nat :=
      { name := "admin", method := "GET", methodBckp := "GET", subdomain := "admin.",
        handlers := [0], path := "/", formattedPath := "/" }
    let x : Route Nat :=
      { name := "x", method := "GET", methodBckp := "GET", subdomain := "", handlers := [1],
        path := "/x", formattedPath := "/x" }
    let h := (({} : RouterHandler Nat).build [admin, x]).getD {}
    let req : Request := ⟨"GET", "admin.example.com", "/x"⟩
    routeLess (fun _ => false) admin x = true ∧ routeLess (fun _ => false) x admin = false ∧
      h.handleRequest (fun _ => false) { fireMethodNotAllowed := true } req {} =
        some (.methodNotAllowed "GET") ∧
      h.handleRequest (fun _ => false) {} req {} = some .notFound ∧
      h.routeExists (fun _ => false) {} req.host req.method req.path {} = some (true, {}) := by
  decide

/-- Inside a handler of `GET /users/:id` serving `/users/1`, with `id`
bound to `1`: `RouteExists("GET", "/users/7")` searches with the context's
store and leaves `id` bound to `7`, and so does the 405 test
`subdomainAndPathAndMethodExists` with the method `""`. -/
theorem routeExists_rebinds_params :
    let h : RouterHandler Nat := (RouterHandler.build {}
      [{ name := "user", method := "GET", methodBckp := "GET", subdomain := "", handlers := [0],
         path := "/users/:id", formattedPath := "/users/%v" }]).getD {}
    let bound : RequestParams := ⟨[("id", "1")]⟩
    RouterHandler.routeExists (fun _ => false) h {} "example.com" "GET" "/users/7" bound =
        some (true, ⟨[("id", "7")]⟩) ∧
      h.trees.map (fun t => RouterHandler.subdomainAndPathAndMethodExists (fun _ => false) h {}
        "example.com" t "" "/users/7" bound) = [some (true, ⟨[("id", "7")]⟩)] := by
  decide

/-! ## The trees `Build` leaves -/


/-- A tree's method and subdomain, by which `getTree` finds it. -/
def treeKey (t : Trie H) : String × String := (t.method, t.subdomain)

/-- **`addRoute` adds a tree for a new method and subdomain only.** -/
theorem addRoute_keys {h h' : RouterHandler H} {r : Route H} (ha : h.addRoute r = some h') :
    h'.trees.map treeKey =
      (if (r.method, r.subdomain) ∈ h.trees.map treeKey then h.trees.map treeKey
        else h.trees.map treeKey ++ [(r.method, r.subdomain)]) ∧ h'.hosts = h.hosts := by
  unfold addRoute getTree at ha
  split at ha
  · rename_i i hi
    obtain ⟨hlt, hk, -⟩ := List.findIdx?_eq_some_iff_getElem.mp hi
    obtain ⟨t, ht, rfl⟩ := Option.map_eq_some'.mp ha
    obtain ⟨e1, e2⟩ := Trie.insert_keys ht
    simp only [List.getD_eq_getElem?_getD, List.getElem?_eq_getElem hlt, Option.getD_some] at e1 e2
    simp only [Bool.and_eq_true, beq_iff_eq] at hk
    have hmem : (r.method, r.subdomain) ∈ h.trees.map treeKey :=
      List.mem_map.mpr ⟨_, List.getElem_mem hlt, by simp [treeKey, hk]⟩
    refine ⟨?_, rfl⟩
    rw [if_pos hmem, List.map_set]
    exact List.ext_getElem (by simp) fun j _ _ => by
      rw [List.getElem_set]; split <;> simp_all [treeKey]
  · rename_i hi
    obtain ⟨t, ht, rfl⟩ := Option.map_eq_some'.mp ha
    obtain ⟨e1, e2⟩ := Trie.insert_keys ht
    have hmem : (r.method, r.subdomain) ∉ h.trees.map treeKey := by
      simp only [List.mem_map, not_exists, not_and]
      intro t' ht' hk
      have := List.findIdx?_eq_none_iff.mp hi t' ht'
      simp_all [treeKey]
    refine ⟨?_, rfl⟩
    simp [hmem, treeKey, e1, e2]

/-- One turn of `Build`'s loop: `addRoute`'s trees, and `hosts` set by a
route with a subdomain. -/
theorem buildRoute_keys {h h' : RouterHandler H} {r : Route H} (hb : h.buildRoute r = some h')
    (hnd : (h.trees.map treeKey).Nodup) :
    (h'.trees.map treeKey).Nodup ∧
      (∀ k, k ∈ h'.trees.map treeKey ↔ k ∈ h.trees.map treeKey ∨ (r.method, r.subdomain) = k) ∧
      h'.hosts = (h.hosts || decide (r.subdomain ≠ "")) := by
  unfold buildRoute at hb
  obtain ⟨hk, hh⟩ := addRoute_keys hb
  simp only [Route.buildHandlers_method, Route.buildHandlers_subdomain, apply_ite trees,
    apply_ite hosts, ite_self] at hk hh
  refine ⟨?_, fun k => ?_, ?_⟩
  · rw [hk]; split_ifs with hm
    · exact hnd
    · exact hnd.append (List.nodup_singleton _) (List.disjoint_singleton.mpr hm)
  · rw [hk]; split_ifs with hm
    · exact ⟨Or.inl, fun h => h.elim id (· ▸ hm)⟩
    · simp [eq_comm]
  · rw [hh]; split_ifs <;> simp_all

/-- `Build`'s loop, from any handler whose trees have distinct keys. -/
theorem foldlM_buildRoute_keys {rs : List (Route H)} {h h' : RouterHandler H}
    (hb : rs.foldlM buildRoute h = some h') (hnd : (h.trees.map treeKey).Nodup) :
    (h'.trees.map treeKey).Nodup ∧
      (∀ k, k ∈ h'.trees.map treeKey ↔ k ∈ h.trees.map treeKey ∨ ∃ r ∈ rs, (r.method, r.subdomain) = k) ∧
      h'.hosts = (h.hosts || rs.any fun r => r.subdomain ≠ "") := by
  induction rs generalizing h with
  | nil => cases hb; simp [hnd]
  | cons r rs ih =>
    obtain ⟨h1, h1b, hrest⟩ := Option.bind_eq_some.mp hb
    obtain ⟨hnd1, hk1, hh1⟩ := buildRoute_keys h1b hnd
    obtain ⟨hnd', hk', hh'⟩ := ih hrest hnd1
    refine ⟨hnd', fun k => ?_, by simp [hh', hh1, Bool.or_assoc]⟩
    rw [hk', hk1]
    simp only [List.mem_cons, exists_eq_or_imp, or_assoc]

/-- **`Build` leaves one tree per method and subdomain of its routes**, and
`hosts` set iff it was or a route has a subdomain. -/
theorem build_trees {rs : List (Route H)} {h h' : RouterHandler H} (hb : h.build rs = some h') :
    (h'.trees.map treeKey).Nodup ∧
      (∀ k, k ∈ h'.trees.map treeKey ↔ ∃ r ∈ rs, (r.method, r.subdomain) = k) ∧
      h'.hosts = (h.hosts || rs.any fun r => r.subdomain ≠ "") := by
  obtain ⟨hnd, hk, hh⟩ := foldlM_buildRoute_keys hb List.nodup_nil
  exact ⟨hnd, fun k => by simpa using hk k, hh⟩

/-- Three routes, two of them `GET` on the root domain: two trees. -/
theorem build_trees_users :
    let rs : List (Route Nat) :=
      [{ name := "users", method := "GET", methodBckp := "GET", subdomain := "", handlers := [0],
         path := "/users", formattedPath := "/users" },
       { name := "about", method := "GET", methodBckp := "GET", subdomain := "", handlers := [1],
         path := "/about", formattedPath := "/about" },
       { name := "admin", method := "POST", methodBckp := "POST", subdomain := "admin.",
         handlers := [2], path := "/", formattedPath := "/" }]
    let h' := (({} : RouterHandler Nat).build rs).getD {}
    ({} : RouterHandler Nat).build rs = some h' ∧ h'.trees.map treeKey = [("GET", ""), ("POST", "admin.")] ∧
      (h'.trees.map treeKey).Nodup ∧
      (∀ k, k ∈ h'.trees.map treeKey ↔ ∃ r ∈ rs, (r.method, r.subdomain) = k) ∧
      h'.hosts = (({} : RouterHandler Nat).hosts || rs.any fun r => r.subdomain ≠ "") :=
  ⟨rfl, by decide, build_trees rfl⟩

/-- **Without subdomains, one tree per method.** A build whose routes have
no subdomain leaves at most one tree a request's method can be searched
in. -/
theorem build_one_tree_per_method {rs : List (Route H)} {h h' : RouterHandler H}
    (hb : h.build rs = some h') (hsub : ∀ r ∈ rs, r.subdomain = "") (cfg : Configuration)
    (host method : String) : (h'.candidates isLoopbackSubdomain cfg host method).length ≤ 1 := by
  obtain ⟨hnd, hk, -⟩ := foldlM_buildRoute_keys hb List.nodup_nil
  let cs := h'.candidates isLoopbackSubdomain cfg host method
  have hnd' : (cs.map treeKey).Nodup := hnd.sublist ((List.filter_sublist _).map _)
  have hall : ∀ k ∈ cs.map treeKey, k = (method, "") := by
    simp only [List.mem_map]
    rintro _ ⟨t, ht, rfl⟩
    obtain ⟨ht', hm⟩ := List.mem_filter.mp ht
    obtain ⟨r, hr, he⟩ := ((hk (treeKey t)).mp (List.mem_map_of_mem _ ht')).resolve_left (by simp)
    simp only [Bool.and_eq_true, beq_iff_eq] at hm
    simp only [treeKey, Prod.mk.injEq] at he ⊢
    exact ⟨hm.1, he.2 ▸ hsub r hr⟩
  rw [List.eq_replicate_iff.mpr ⟨rfl, hall⟩, List.nodup_replicate] at hnd'
  simpa using hnd'

/-- Two `GET` routes and a `POST` one, none on a subdomain: one tree for
`GET`. -/
theorem build_one_tree_per_method_get :
    let rs : List (Route Nat) :=
      [{ name := "users", method := "GET", methodBckp := "GET", subdomain := "", handlers := [0],
         path := "/users", formattedPath := "/users" },
       { name := "about", method := "GET", methodBckp := "GET", subdomain := "", handlers := [1],
         path := "/about", formattedPath := "/about" },
       { name := "users", method := "POST", methodBckp := "POST", subdomain := "", handlers := [2],
         path := "/users", formattedPath := "/users" }]
    let h' := (({} : RouterHandler Nat).build rs).getD {}
    ({} : RouterHandler Nat).build rs = some h' ∧ (∀ r ∈ rs, r.subdomain = "") ∧
      (h'.candidates (fun _ => false) {} "example.com" "GET").length ≤ 1 := by
  intro rs h'
  exact ⟨rfl, by decide,
    @build_one_tree_per_method Nat (fun _ => false) rs {} h' rfl (by decide) {} "example.com" "GET"⟩

end RouterHandler

end Router

end IrisWeb
