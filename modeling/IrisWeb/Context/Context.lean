import IrisWeb.Context.ResponseWriter
import IrisWeb.Context.Store
import Mathlib.Data.List.Infix
/-!
# The context — request-scoped state

`context/context.go`: the pooled `context` and the calls that make up one
request's life on it — `BeginRequest`, the handlers' effects on its stores,
route name, cursor and writer, `String`, `EndRequest`. A context is reused
from request to request, so its history is any sequence of such calls from
`NewContext`, and the package-level `lastCapturedContextID` counter is
threaded along.

`BeginRequest` resets the handlers, the cursor, both stores, the request
and the writer, but keeps the route name and the cached id, so a recycled
context shows what its last request left (`beginRequest_keeps_route_and_id`).

`Exec(method, path)` serves `path` on the same context and then puts the
request back, but it sets `RequestURI` to the saved `URL.Path`, so a query
string the request had is lost. The chain it saves shares its array with
the empty chain the inner dispatch starts from, so an `AddHandler` there
writes over the saved handlers (`exec_sets_requestURI_to_path`).

`RemoteAddr` returns the first enabled header with a non-empty address in
the order `range` visits the configured map, an order Go leaves open: two
orders of one map can give two addresses (`remoteAddr_depends_on_map_order`),
and cannot when the enabled headers agree (`remoteAddr_perm_of_agree`).

`Subdomain` and `IsWWW` take the host's label before its first `.` and
drop it when the configured `VHost` contains it as a substring, not as a
label.
-/

namespace IrisWeb

/-- `context`, less its `app`, which no call modelled here reads. `H` is the
type of a handler, `R` of a request and `V` of a user value. -/
structure Context (H R V : Type) where
  /-- The cached id, `0` until `String` is first called. -/
  id : Nat := 0
  writer : Option Context.ResponseWriter := none
  request : Option R := none
  currentRouteName : String := ""
  params : Context.RequestParams := {}
  values : List (String × V) := []
  handlers : List H := []
  currentHandlerIndex : Int := 0
deriving DecidableEq, Repr

namespace Context

/-- `stopExecutionIndex`. -/
def stopExecutionIndex : Int := -1

variable {H R V : Type}

/-- `NewContext(app)`. -/
def newContext : Context H R V := {}

/-- `BeginRequest(w, r)`: no handlers, both stores emptied, the request and
a fresh base writer over `w` bound, the cursor at `0`. -/
def beginRequest (c : Context H R V) (w : NativeWriter) (r : R) : Context H R V :=
  { c with
    handlers := []
    values := []
    params := ⟨[]⟩
    request := some r
    currentHandlerIndex := 0
    writer := some (ResponseWriter.beginResponse w) }

/-- `SetCurrentRouteName`. -/
def setCurrentRouteName (c : Context H R V) (name : String) : Context H R V :=
  { c with currentRouteName := name }

/-- `String()`, with `lastCapturedContextID`: the first call takes the next
id from the counter and caches it. The id is what is returned; the remote
address, method and URI printed after it are not modelled. -/
def string (c : Context H R V) (last : Nat) : (Context H R V × Nat) × Nat :=
  if c.id = 0 then (({ c with id := last + 1 }, last + 1), last + 1) else ((c, last), c.id)

/-- `HandlerIndex(n)`: an index outside the handlers is ignored. -/
def handlerIndex (c : Context H R V) (n : Int) : Context H R V :=
  if n < 0 ∨ n > c.handlers.length - 1 then c else { c with currentHandlerIndex := n }

/-- `StopExecution`. -/
def stopExecution (c : Context H R V) : Context H R V :=
  { c with currentHandlerIndex := stopExecutionIndex }

/-- `EndRequest`: the writer is flushed. Firing the error code handlers runs
handlers, whose effects are calls of their own. -/
def endRequest (c : Context H R V) : Context H R V :=
  { c with writer := c.writer.map ResponseWriter.flushResponse }

/-- One call in a context's history. -/
inductive Event (H R V : Type)
  | beginRequest (w : NativeWriter) (r : R)
  | setCurrentRouteName (name : String)
  | string
  /-- `Params().Set(k, v)`. -/
  | setParam (k v : String)
  /-- `Values().Set(k, v)`. -/
  | setValue (k : String) (v : V)
  /-- `SetHandlers`, as `Do` calls it. -/
  | setHandlers (hs : List H)
  /-- `AddHandler(hs...)`. -/
  | addHandler (hs : List H)
  | handlerIndex (n : Int)
  | stopExecution
  /-- A write of `n` bytes through the context's writer. -/
  | write (n : Nat)
  | endRequest

/-- One call, with the `lastCapturedContextID` counter. -/
def step : Context H R V × Nat → Event H R V → Context H R V × Nat
  | (c, last), .beginRequest w r => (c.beginRequest w r, last)
  | (c, last), .setCurrentRouteName name => (c.setCurrentRouteName name, last)
  | (c, last), .string => (c.string last).1
  | (c, last), .setParam k v => ({ c with params := c.params.set k v }, last)
  | (c, last), .setValue k v => ({ c with values := storeSet c.values k v }, last)
  | (c, last), .setHandlers hs => ({ c with handlers := hs }, last)
  | (c, last), .addHandler hs => ({ c with handlers := c.handlers ++ hs }, last)
  | (c, last), .handlerIndex n => (c.handlerIndex n, last)
  | (c, last), .stopExecution => (c.stopExecution, last)
  | (c, last), .write n => ({ c with writer := c.writer.map fun w => (w.write n).1 }, last)
  | (c, last), .endRequest => (c.endRequest, last)

/-- A history. -/
def run (s : Context H R V × Nat) (es : List (Event H R V)) : Context H R V × Nat :=
  es.foldl step s

/-- A new context and one that served a request for route `"users"` and
printed itself: after `BeginRequest` on both, the second still has the
route name `"users"` and the id `1`, and `String()` shows `1` again. -/
theorem beginRequest_keeps_route_and_id :
    let fresh : Context Nat Nat Nat := (newContext : Context Nat Nat Nat).beginRequest {} 0
    let used : Context Nat Nat Nat := (run ((newContext : Context Nat Nat Nat), 0)
      [.beginRequest {} 0, .setCurrentRouteName "users", .string, .endRequest]).1.beginRequest {} 0
    fresh.currentRouteName = "" ∧ used.currentRouteName = "users" ∧ fresh.id = 0 ∧ used.id = 1 ∧
      (used.string 1).2 = 1 :=
  ⟨rfl, rfl, rfl, rfl, rfl⟩

/-! ## `Exec`

`ctx.handlers[0:]`, the chain `Exec` saves, and `ctx.handlers[0:0]`, the
empty chain the inner dispatch starts from, are two slices of one array.
`append` writes into that array while its capacity holds what is appended,
and moves to a new one otherwise; `SetHandlers`, as `Do` calls it, and
`BeginRequest` point `ctx.handlers` at another array. The saved chain comes
back with the handlers appended in place written over its first cells. -/

/-- The fields of an `*http.Request` that `Exec` saves and rewrites:
`Method`, `URL.Path` and `RequestURI`. -/
structure HttpRequest where
  method : String
  urlPath : String
  requestURI : String
deriving DecidableEq, Repr

/-- `arr` with `xs` written from index `i` on: the cells `append` fills in
place. -/
def overwrite (arr : List H) (i : Nat) (xs : List H) : List H :=
  arr.take i ++ xs ++ arr.drop (i + xs.length)

/-- The array `Exec` saved, after one call of the inner dispatch, with the
length of `ctx.handlers` while it is still a slice of that array of
capacity `cap`, and `none` once it is not. -/
def sharedStep (cap : Nat) : List H × Option Nat → Event H R V → List H × Option Nat
  | (arr, some len), .addHandler hs =>
    if len + hs.length ≤ cap then (overwrite arr len hs, some (len + hs.length)) else (arr, none)
  | (arr, _), .setHandlers _ => (arr, none)
  | (arr, _), .beginRequest _ _ => (arr, none)
  | s, _ => s

/-- `Exec(method, path)` on a context whose handlers slice has capacity
`cap`, the application's `ServeHTTPC` being the calls `inner` it makes on
the context. The request is the object the context points to, so its
three fields are set back on that object: `Method` and `URL.Path` as they
were, and `RequestURI` to the saved `URL.Path`. The saved chain is read
back from the shared array. `none` is the nil dereference of a context
with no request. -/
def exec (cap : Nat) (inner : List (Event H HttpRequest V)) (s : Context H HttpRequest V × Nat)
    (method path : String) : Option (Context H HttpRequest V × Nat) :=
  if path = "" then some s
  else
    let method := if method = "" then "GET" else method
    s.1.request.map fun req =>
      let backupHandlers := s.1.handlers
      let (c, last) := run ({ s.1 with
        request := some { req with requestURI := path, urlPath := path, method := method }
        handlers := []
        currentHandlerIndex := 0 }, s.2) inner
      let arr := (inner.foldl (sharedStep cap) (backupHandlers, some 0)).1
      ({ c with
        request := some { req with
          requestURI := req.urlPath, urlPath := req.urlPath, method := req.method }
        handlers := arr.take backupHandlers.length
        currentHandlerIndex := s.1.currentHandlerIndex }, last)

/-- The handlers the inner dispatch appends into the saved array, from a
chain of length `len`: those of each `AddHandler` until one no longer
fits in `cap`, or a `SetHandlers` or `BeginRequest` moves the chain to
another array. -/
def inPlaceAppends (cap : Nat) : Nat → List (Event H R V) → List H
  | _, [] => []
  | len, .addHandler hs :: es =>
    if len + hs.length ≤ cap then hs ++ inPlaceAppends cap (len + hs.length) es else []
  | _, .setHandlers _ :: _ => []
  | _, .beginRequest _ _ :: _ => []
  | len, _ :: es => inPlaceAppends cap len es

theorem overwrite_nil (arr : List H) (i : Nat) : overwrite arr i [] = arr := by
  simp [overwrite]

theorem overwrite_overwrite {arr : List H} {i : Nat} (hi : i ≤ arr.length) (xs ys : List H) :
    overwrite (overwrite arr i xs) (i + xs.length) ys = overwrite arr i (xs ++ ys) := by
  have hlen : (arr.take i ++ xs).length = i + xs.length := by
    rw [List.length_append, List.length_take_of_le hi]
  unfold overwrite
  rw [List.take_left' hlen, List.drop_append_eq_append_drop, List.drop_eq_nil_of_le (by omega),
    hlen, Nat.add_sub_cancel_left, List.drop_drop, List.length_append]
  simp only [List.append_assoc, List.nil_append, Nat.add_comm ys.length, Nat.add_assoc]

theorem length_overwrite_ge {arr : List H} {i : Nat} (hi : i ≤ arr.length) (xs : List H) :
    i + xs.length ≤ (overwrite arr i xs).length := by
  simp only [overwrite, List.length_append, List.length_take, List.length_drop]
  omega

theorem foldl_sharedStep_none (cap : Nat) (es : List (Event H R V)) (arr : List H) :
    es.foldl (sharedStep cap) (arr, none) = (arr, none) := by
  induction es with
  | nil => rfl
  | cons e es ih => cases e <;> exact ih

/-- **The run lemma of the shared array**: the inner dispatch leaves it
with the in-place appends written from the chain's length on. -/
theorem foldl_sharedStep (cap : Nat) : ∀ (es : List (Event H R V)) {arr : List H} {len : Nat},
    len ≤ arr.length →
      (es.foldl (sharedStep cap) (arr, some len)).1 = overwrite arr len (inPlaceAppends cap len es)
  | [], _, _, _ => (overwrite_nil _ _).symm
  | e :: es, arr, len, hlen => by
    cases e with
    | addHandler hs =>
      by_cases hfit : len + hs.length ≤ cap
      · simp only [List.foldl_cons, sharedStep, inPlaceAppends, if_pos hfit]
        rw [foldl_sharedStep cap es (length_overwrite_ge hlen hs), overwrite_overwrite hlen]
      · simp [sharedStep, inPlaceAppends, hfit, foldl_sharedStep_none, overwrite_nil]
    | setHandlers _ | beginRequest _ _ =>
      simp [sharedStep, inPlaceAppends, foldl_sharedStep_none, overwrite_nil]
    | _ => exact foldl_sharedStep cap es hlen

/-- `Exec`'s result: the inner dispatch's context and counter, with the
request's fields set back, the cursor saved, and the saved chain with the
in-place appends written over it. -/
theorem exec_eq (cap : Nat) (inner : List (Event H HttpRequest V)) {c : Context H HttpRequest V}
    {req : HttpRequest} (hreq : c.request = some req) (last : Nat) (method : String) {path : String}
    (hpath : path ≠ "") :
    exec cap inner (c, last) method path =
      let r := run ({ c with
        request := some { req with
          requestURI := path, urlPath := path, method := (if method = "" then "GET" else method) }
        handlers := []
        currentHandlerIndex := 0 }, last) inner
      some ({ r.1 with
        request := some { req with requestURI := req.urlPath }
        handlers := (inPlaceAppends cap 0 inner ++
          c.handlers.drop (inPlaceAppends cap 0 inner).length).take c.handlers.length
        currentHandlerIndex := c.currentHandlerIndex }, r.2) := by
  simp only [exec, if_neg hpath, hreq, Option.map_some', foldl_sharedStep cap inner (Nat.zero_le _),
    overwrite, List.take_zero, List.nil_append, Nat.zero_add]

/-- A request for `/a?x=1`, whose `RequestURI` holds the query, on the
chain `[7, 8]` at cursor `1`: whatever the inner dispatch does, after
`Exec("GET", "/b")` the method, the path and the cursor are back and
`RequestURI` is `/a`; and an inner dispatch that calls `AddHandler(9)` on
the saved array, of capacity `2`, leaves the chain `[9, 8]`. -/
theorem exec_sets_requestURI_to_path (cap : Nat) (inner : List (Event Nat HttpRequest Nat))
    (last : Nat) :
    let c : Context Nat HttpRequest Nat :=
      { request := some ⟨"POST", "/a", "/a?x=1"⟩, handlers := [7, 8], currentHandlerIndex := 1 }
    (exec cap inner (c, last) "GET" "/b").map (fun s => (s.1.request, s.1.currentHandlerIndex)) =
        some (some ⟨"POST", "/a", "/a"⟩, 1) ∧
      (exec 2 [.addHandler [9]] (c, last) "GET" "/b").map (fun s => s.1.handlers) = some [9, 8] := by
  intro c
  rw [exec_eq cap inner (c := c) rfl last "GET" (by decide),
    exec_eq 2 _ (c := c) rfl last "GET" (by decide)]
  exact ⟨rfl, rfl⟩

/-! ## `RemoteAddr` -/

/-- `unicode.IsSpace`. -/
def isSpace (c : Char) : Bool :=
  [0x09, 0x0a, 0x0b, 0x0c, 0x0d, 0x20, 0x85, 0xa0, 0x1680, 0x2028, 0x2029, 0x202f, 0x205f,
    0x3000].contains c.toNat || (0x2000 ≤ c.toNat && c.toNat ≤ 0x200a)

/-- `strings.TrimSpace`. -/
def trimSpace (s : String) : String :=
  ⟨((s.data.dropWhile isSpace).reverse.dropWhile isSpace).reverse⟩

/-- `xForwardedForHeaderKey`. -/
def xForwardedForHeaderKey : String := "X-Forwarded-For"

/-- The address an enabled header gives: its value, cut at the first `,`
for `X-Forwarded-For`, trimmed. `getHeader` is `ctx.GetHeader`. -/
def headerRealIP (getHeader : String → String) (headerName : String) : String :=
  let headerValue := getHeader headerName
  let headerValue :=
    if headerName = xForwardedForHeaderKey then ⟨headerValue.data.takeWhile (· ≠ ',')⟩
    else headerValue
  trimSpace headerValue

/-- What the loop returns at one entry of the map: the header's address if
the header is enabled and gives a non-empty one. -/
def remoteHeaderIP (getHeader : String → String) (entry : String × Bool) : Option String :=
  if entry.2 && headerRealIP getHeader entry.1 ≠ "" then some (headerRealIP getHeader entry.1)
  else none

/-- `ctx.RemoteAddr()`. `remoteHeaders` is the `RemoteAddrHeaders` map in
the order this `range` visits it, `requestRemoteAddr` the request's
`RemoteAddr`, and `splitHostPort` the host `net.SplitHostPort` returns,
`none` on its error. -/
def remoteAddr (getHeader : String → String) (splitHostPort : String → Option String)
    (remoteHeaders : List (String × Bool)) (requestRemoteAddr : String) : String :=
  match remoteHeaders.findSome? (remoteHeaderIP getHeader) with
  | some realIP => realIP
  | none =>
    let addr := trimSpace requestRemoteAddr
    if addr ≠ "" then (splitHostPort addr).getD addr else addr

/-- The configuration `X-Real-Ip` and `X-Forwarded-For`, both enabled, on a
request that carries both with different addresses: the two orders in
which `range` may visit the map give two addresses. -/
theorem remoteAddr_depends_on_map_order :
    remoteAddr
        (fun name => if name = "X-Real-Ip" then "1.1.1.1"
          else if name = "X-Forwarded-For" then "2.2.2.2, 3.3.3.3" else "")
        (fun _ => none) [("X-Real-Ip", true), ("X-Forwarded-For", true)] "" = "1.1.1.1" ∧
      remoteAddr
        (fun name => if name = "X-Real-Ip" then "1.1.1.1"
          else if name = "X-Forwarded-For" then "2.2.2.2, 3.3.3.3" else "")
        (fun _ => none) [("X-Forwarded-For", true), ("X-Real-Ip", true)] "" = "2.2.2.2" ∧
      [("X-Forwarded-For", true), ("X-Real-Ip", true)].Perm
        [("X-Real-Ip", true), ("X-Forwarded-For", true)] ∧
      (["X-Real-Ip", "X-Forwarded-For"] : List String).Nodup := by
  decide

theorem findSome?_eq_of_perm {α β : Type} {f : α → Option β} {l₁ l₂ : List α} (hp : l₁.Perm l₂)
    (hagree : ∀ x ∈ l₁, ∀ y ∈ l₁, ∀ a b, f x = some a → f y = some b → a = b) :
    l₁.findSome? f = l₂.findSome? f := by
  cases h₁ : l₁.findSome? f with
  | none =>
    exact (List.findSome?_eq_none_iff.mpr fun x hx =>
      List.findSome?_eq_none_iff.mp h₁ x (hp.mem_iff.mpr hx)).symm
  | some a =>
    obtain ⟨x, hx, hfx⟩ := List.exists_of_findSome?_eq_some h₁
    cases h₂ : l₂.findSome? f with
    | none => simp [List.findSome?_eq_none_iff.mp h₂ x (hp.mem_iff.mp hx)] at hfx
    | some b =>
      obtain ⟨y, hy, hfy⟩ := List.exists_of_findSome?_eq_some h₂
      rw [hagree x hx y (hp.mem_iff.mpr hy) a b hfx hfy]

/-- **When the enabled headers agree, the order does not matter**: if every
enabled header of the map that gives a non-empty address gives the same
one, any two orders of the map give the same `RemoteAddr`. -/
theorem remoteAddr_perm_of_agree (getHeader : String → String)
    (splitHostPort : String → Option String) {l₁ l₂ : List (String × Bool)} (hp : l₁.Perm l₂)
    (hagree : ∀ e₁ ∈ l₁, ∀ e₂ ∈ l₁, ∀ a b,
      remoteHeaderIP getHeader e₁ = some a → remoteHeaderIP getHeader e₂ = some b → a = b)
    (requestRemoteAddr : String) :
    remoteAddr getHeader splitHostPort l₁ requestRemoteAddr =
      remoteAddr getHeader splitHostPort l₂ requestRemoteAddr := by
  rw [remoteAddr, remoteAddr, findSome?_eq_of_perm hp hagree]

theorem remoteAddr_perm_of_agree_forwarded :
    let remoteHeaders : List (String × Bool) := [("X-Real-Ip", false), ("X-Forwarded-For", true)]
    let getHeader : String → String := fun name =>
      if name = "X-Real-Ip" then "1.1.1.1"
      else if name = "X-Forwarded-For" then "2.2.2.2, 3.3.3.3" else ""
    remoteHeaders.Perm remoteHeaders.reverse ∧
      (∀ e₁ ∈ remoteHeaders, ∀ e₂ ∈ remoteHeaders, ∀ a b,
        remoteHeaderIP getHeader e₁ = some a → remoteHeaderIP getHeader e₂ = some b → a = b) ∧
      remoteAddr getHeader (fun _ => none) remoteHeaders "" =
        remoteAddr getHeader (fun _ => none) remoteHeaders.reverse "" := by
  intro remoteHeaders getHeader
  have hp : remoteHeaders.Perm remoteHeaders.reverse := (List.reverse_perm _).symm
  have hagree : ∀ e₁ ∈ remoteHeaders, ∀ e₂ ∈ remoteHeaders, ∀ a b,
      remoteHeaderIP getHeader e₁ = some a → remoteHeaderIP getHeader e₂ = some b → a = b := by
    have hip : ∀ e ∈ remoteHeaders, remoteHeaderIP getHeader e ∈ [none, some "2.2.2.2"] := by
      decide
    intro e₁ h₁ e₂ h₂ a b ha hb
    have ha' := ha ▸ hip e₁ h₁
    have hb' := hb ▸ hip e₂ h₂
    simp_all
  exact ⟨hp, hagree, remoteAddr_perm_of_agree getHeader _ hp hagree ""⟩

/-! ## Host and subdomain -/

/-- `GetHost(r)`: the request URL's host, or the request's `Host` when that
is empty. -/
def getHost (urlHost host : String) : String := if urlHost = "" then host else urlHost

/-- `ctx.Subdomain()` on the host `ctx.Host()`, with the application's
`VHost`. `strings.IndexByte` is `none` here for its `-1`, and a `.` is one
byte, so the character and the byte index cut at the same place;
`strings.Contains(vhost, subdomain)` is a substring test, and a valid UTF-8
string is a byte substring of another exactly when it is a character
substring. -/
def subdomain (host vhost : String) : String :=
  let subdomain : String :=
    match host.data.indexOf? '.' with
    | some index => if index > 0 then ⟨host.data.take index⟩ else ""
    | none => ""
  if subdomain.data <:+: vhost.data then "" else subdomain

/-- `ctx.IsWWW()`. -/
def isWWW (host vhost : String) : Bool :=
  match host.data.indexOf? '.' with
  | some index =>
    if index > 0 then
      let subdomain : String := ⟨host.data.take index⟩
      if ¬ subdomain.data <:+: vhost.data then subdomain == "www" else false
    else false
  | none => false

end Context

end IrisWeb
