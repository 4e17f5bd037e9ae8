import IrisWeb.Errors.Reporter
import IrisWeb.Router.Router
/-!
# The router's build, refresh and downgrade

`core/router/router.go`, the fields behind `ServeHTTP`. `BuildRouter`
checks its request handler and pool, builds the request handler from the
routes provider, stores the three for `RefreshRouter`, and installs as
`mainHandler` a closure over the pool it was given, behind the wrapper
registered then. The closure hands each request to the request handler the
router holds when it runs. `Downgrade` replaces `mainHandler` by a handler
of the caller's, and `Downgraded` reports a main handler without a request
handler.

Every run keeps the pool and the request handler set together, and installs
the closure only with both (`run_inv`), so a reachable router fails to
serve only where its main handler is `nil` (`serveHTTP_run_isSome`). Over
that:

**`Downgraded` is false once a build succeeded**, whatever is called after
it, `Downgrade` included (`downgraded_run`): the request handler is never
reset.

**The router refines the wrapper model** of `Router.lean` (`toRouter_wrapRouter`,
`toRouter_buildRouter`), so a build after registering wrappers serves their
nest (`serveHTTP_wrapRouter_build`).

**With a non-empty `errors.Prefix` the default request handler never
builds** (`run_defaultBuild`): its `Build` returns `rp.Return()` of a
reporter nothing was added to, which is then an error, so every
`BuildRouter` and `RefreshRouter` with it fails.
-/

namespace IrisWeb

namespace Router

open Errors (Error Reporter newReporter)

variable {P RH RP W R A : Type}

/-- What `mainHandler` holds: the closure `BuildRouter` makes over its
pool, behind the wrapper registered at the build if any, or the handler
`Downgrade` was given. -/
inductive MainHandler (P W R A : Type)
  | pooled (cPool : P) (wrapperFunc : Option (WrapperFunc W R A))
  | custom (h : HandlerFunc W R A)

/-- `Router`, the "director", with every field its build, refresh,
downgrade, wrap and serve read or write; `none` is `nil`. -/
structure Director (P RH RP W R A : Type) where
  requestHandler : Option RH
  mainHandler : Option (MainHandler P W R A)
  wrapperFunc : Option (WrapperFunc W R A)
  cPool : Option P
  routesProvider : Option RP

namespace Director

/-- `NewRouter()`. -/
def newRouter : Director P RH RP W R A := ⟨none, none, none, none, none⟩

section Calls

-- the closure's body: acquire a context from the pool, `HandleRequest` of
-- the request handler, release the context
variable (handleRequest : P → RH → HandlerFunc W R A)

/-- The function `mainHandler` holds, read when `ServeHTTP` calls it: the
closure reads `router.requestHandler` then. `none` is a `nil` function, or
a closure with a `nil` request handler, which no run reaches (`run_inv`). -/
def handler (router : Director P RH RP W R A) : Option (HandlerFunc W R A) :=
  match router.mainHandler with
  | none => none
  | some (.custom h) => some h
  | some (.pooled cPool wrapperFunc) =>
    router.requestHandler.map fun rh =>
      (⟨none, wrapperFunc⟩ : Router W R A).wrapped (handleRequest cPool rh)

/-- `router.ServeHTTP(w, r)`; `none` is the call of a `nil` function. -/
def serveHTTP (router : Director P RH RP W R A) (w : W) (r : R) : Option (List A) :=
  (router.handler handleRequest).map fun h => h w r

/-- The wrapper model of `Router.lean` the director refines: the function
`mainHandler` holds, and the wrapper. -/
def toRouter (router : Director P RH RP W R A) : Router W R A :=
  ⟨router.handler handleRequest, router.wrapperFunc⟩

-- `requestHandler.Build(routesProvider)`: its error, if any
variable (build : RH → Option RP → Option Error)

-- `errors.Prefix`, the text `errors.New` puts in front of a message
variable (pref : String)

/-- The fields `BuildRouter` stores for `RefreshRouter`: all three when
forced, otherwise each only where it is still `nil`, the routes provider
only with a non-`nil` one. -/
def store (router : Director P RH RP W R A) (cPool : P) (requestHandler : RH)
    (routesProvider : Option RP) (force : Bool) : Director P RH RP W R A :=
  if force then
    { router with
      cPool := some cPool, requestHandler := some requestHandler, routesProvider := routesProvider }
  else
    { router with
      cPool := if router.cPool.isNone then some cPool else router.cPool
      requestHandler := if router.requestHandler.isNone then some requestHandler else router.requestHandler
      routesProvider :=
        if router.routesProvider.isNone && routesProvider.isSome then routesProvider
        else router.routesProvider }

/-- `router.BuildRouter(cPool, requestHandler, routesProvider, force)`:
its error, or the router after it. -/
def buildRouter (router : Director P RH RP W R A) (cPool : Option P) (requestHandler : Option RH)
    (routesProvider : Option RP) (force : Bool) : Except Error (Director P RH RP W R A) :=
  match requestHandler, cPool with
  | none, _ => .error { message := Error.new pref "router: request handler is nil" }
  | some _, none => .error { message := Error.new pref "router: context pool is nil" }
  | some rh, some p =>
    match build rh routesProvider with
    | some err => .error err
    | none =>
      .ok { router.store p rh routesProvider force with
        mainHandler := some (.pooled p router.wrapperFunc) }

/-- `router.RefreshRouter()`. -/
def refreshRouter (router : Director P RH RP W R A) : Except Error (Director P RH RP W R A) :=
  router.buildRouter build pref router.cPool router.requestHandler router.routesProvider true

/-- `router.Downgrade(newMainHandler)`. -/
def downgrade (router : Director P RH RP W R A) (newMainHandler : Option (HandlerFunc W R A)) :
    Director P RH RP W R A :=
  { router with mainHandler := newMainHandler.map .custom }

/-- `router.Downgraded()`. -/
def downgraded (router : Director P RH RP W R A) : Bool :=
  router.mainHandler.isSome && router.requestHandler.isNone

/-- `router.WrapRouter(wrapperFunc)`, whose composition is `Router.wrapRouter`'s. -/
def wrapRouter (router : Director P RH RP W R A) (wrapperFunc : Option (WrapperFunc W R A)) :
    Director P RH RP W R A :=
  { router with wrapperFunc := (Router.wrapRouter ⟨none, router.wrapperFunc⟩ wrapperFunc).wrapperFunc }

/-- The calls that write the router's fields. -/
inductive Call (P RH RP W R A : Type)
  | buildRouter (cPool : Option P) (requestHandler : Option RH) (routesProvider : Option RP)
      (force : Bool)
  | refreshRouter
  | downgrade (newMainHandler : Option (HandlerFunc W R A))
  | wrapRouter (wrapperFunc : Option (WrapperFunc W R A))

/-- The router after a build: one that returns an error has written no
field, so the router is as it was. -/
def orKeep (router : Director P RH RP W R A) : Except Error (Director P RH RP W R A) →
    Director P RH RP W R A
  | .ok router' => router'
  | .error _ => router

/-- One call. -/
def step (router : Director P RH RP W R A) : Call P RH RP W R A → Director P RH RP W R A
  | .buildRouter p rh rp force => router.orKeep (router.buildRouter build pref p rh rp force)
  | .refreshRouter => router.orKeep (router.refreshRouter build pref)
  | .downgrade h => router.downgrade h
  | .wrapRouter wf => router.wrapRouter wf

/-- A sequence of calls. -/
def run (router : Director P RH RP W R A) (cs : List (Call P RH RP W R A)) : Director P RH RP W R A :=
  cs.foldl (step build pref) router

/-! ## What one call writes -/

variable {build pref}

@[simp]
theorem store_requestHandler_isSome (router : Director P RH RP W R A) (p : P) (rh : RH)
    (rp : Option RP) (force : Bool) : (router.store p rh rp force).requestHandler.isSome := by
  cases force <;> cases h : router.requestHandler <;> simp [store, h]

@[simp]
theorem store_cPool_isSome (router : Director P RH RP W R A) (p : P) (rh : RH) (rp : Option RP)
    (force : Bool) : (router.store p rh rp force).cPool.isSome := by
  cases force <;> cases h : router.cPool <;> simp [store, h]

@[simp]
theorem store_wrapperFunc (router : Director P RH RP W R A) (p : P) (rh : RH) (rp : Option RP)
    (force : Bool) : (router.store p rh rp force).wrapperFunc = router.wrapperFunc := by
  cases force <;> rfl

/-- A successful build stored its fields and installed the closure over
its pool. -/
theorem buildRouter_ok {router router' : Director P RH RP W R A} {p : Option P} {rh : Option RH}
    {rp : Option RP} {force : Bool} (h : router.buildRouter build pref p rh rp force = .ok router') :
    ∃ p' rh', p = some p' ∧ rh = some rh' ∧ build rh' rp = none ∧
      router' = { router.store p' rh' rp force with
        mainHandler := some (.pooled p' router.wrapperFunc) } := by
  unfold buildRouter at h
  split at h
  · cases h
  · cases h
  · split at h
    · cases h
    · cases h
      exact ⟨_, _, rfl, rfl, ‹_›, rfl⟩

/-- What holds of the router and of every router a build returns holds
after the build. -/
theorem orKeep_of {Q : Director P RH RP W R A → Prop} {router : Director P RH RP W R A}
    {e : Except Error (Director P RH RP W R A)} (h : Q router) (hok : ∀ router', e = .ok router' → Q router') :
    Q (router.orKeep e) := by
  cases e with
  | error => exact h
  | ok router' => exact hok router' rfl

theorem buildRouter_requestHandler_isSome {router router' : Director P RH RP W R A} {p : Option P}
    {rh : Option RH} {rp : Option RP} {force : Bool}
    (h : router.buildRouter build pref p rh rp force = .ok router') : router'.requestHandler.isSome := by
  obtain ⟨_, _, _, _, _, rfl⟩ := buildRouter_ok h
  exact store_requestHandler_isSome ..

/-- A router whose request handler is set keeps one after every call. -/
theorem step_requestHandler_isSome {router : Director P RH RP W R A}
    (h : router.requestHandler.isSome) (c : Call P RH RP W R A) :
    (router.step build pref c).requestHandler.isSome := by
  cases c with
  | buildRouter => exact orKeep_of h fun _ => buildRouter_requestHandler_isSome
  | refreshRouter => exact orKeep_of h fun _ => buildRouter_requestHandler_isSome
  | downgrade _ => exact h
  | wrapRouter _ => exact h

theorem run_requestHandler_isSome {router : Director P RH RP W R A}
    (h : router.requestHandler.isSome) (cs : List (Call P RH RP W R A)) :
    (router.run build pref cs).requestHandler.isSome := by
  induction cs generalizing router with
  | nil => exact h
  | cons c cs ih => exact ih (step_requestHandler_isSome h c)

theorem downgraded_of_isSome {router : Director P RH RP W R A} (h : router.requestHandler.isSome) :
    router.downgraded = false := by
  cases hr : router.requestHandler <;> simp_all [downgraded]

/-- **`Downgraded` is false once a build succeeded.** After a successful
`BuildRouter`, no sequence of calls makes `Downgraded` true, a `Downgrade`
to a handler of the caller's included. -/
theorem downgraded_run {router router' : Director P RH RP W R A} {p : Option P} {rh : Option RH}
    {rp : Option RP} {force : Bool} (h : router.buildRouter build pref p rh rp force = .ok router')
    (cs : List (Call P RH RP W R A)) : (router'.run build pref cs).downgraded = false :=
  downgraded_of_isSome (run_requestHandler_isSome (buildRouter_requestHandler_isSome h) cs)

/-- A router built and then downgraded to a handler of the caller's does
not report itself downgraded. -/
theorem downgraded_run_downgrade :
    (newRouter : Director Nat Nat Nat Unit Unit Nat).buildRouter (fun _ _ => none) "" (some 0)
        (some 1) none false = .ok ⟨some 1, some (.pooled 0 none), none, some 0, none⟩ ∧
      ((⟨some 1, some (.pooled 0 none), none, some 0, none⟩ : Director Nat Nat Nat Unit Unit Nat).run
        (fun _ _ => none) "" [.downgrade (some fun _ _ => [7])]).downgraded = false :=
  ⟨rfl, downgraded_run (rfl : (newRouter : Director Nat Nat Nat Unit Unit Nat).buildRouter
    (fun _ _ => none) "" (some 0) (some 1) none false = _) _⟩

/-! ## What every run keeps -/

/-- The fields every run keeps consistent: the pool and the request handler
are set together, and the closure is installed only with a request
handler. -/
structure Inv (router : Director P RH RP W R A) : Prop where
  paired : router.cPool.isSome = router.requestHandler.isSome
  pooled_built : ∀ p wf, router.mainHandler = some (.pooled p wf) → router.requestHandler.isSome

theorem newRouter_inv : (newRouter : Director P RH RP W R A).Inv :=
  ⟨rfl, fun _ _ h => nomatch h⟩

/-- A successful build leaves the invariant, whatever the router was. -/
theorem inv_of_buildRouter {router router' : Director P RH RP W R A} {p : Option P} {rh : Option RH}
    {rp : Option RP} {force : Bool} (h : router.buildRouter build pref p rh rp force = .ok router') :
    router'.Inv := by
  have hrh := buildRouter_requestHandler_isSome h
  obtain ⟨_, _, _, _, _, rfl⟩ := buildRouter_ok h
  exact ⟨by simp only [store_cPool_isSome, hrh], fun _ _ _ => hrh⟩

theorem step_inv {router : Director P RH RP W R A} (hinv : router.Inv) (c : Call P RH RP W R A) :
    (router.step build pref c).Inv := by
  cases c with
  | buildRouter => exact orKeep_of hinv fun _ => inv_of_buildRouter
  | refreshRouter => exact orKeep_of hinv fun _ => inv_of_buildRouter
  | downgrade h => exact ⟨hinv.paired, fun _ _ hm => by cases h <;> cases hm⟩
  | wrapRouter _ => exact ⟨hinv.paired, hinv.pooled_built⟩

theorem run_inv {router : Director P RH RP W R A} (hinv : router.Inv) (cs : List (Call P RH RP W R A)) :
    (router.run build pref cs).Inv := by
  induction cs generalizing router with
  | nil => exact hinv
  | cons c cs ih => exact ih (step_inv hinv c)

/-- Under the invariant, the closure always finds a request handler. -/
theorem handler_isSome {router : Director P RH RP W R A} (hinv : router.Inv) :
    (router.handler handleRequest).isSome = router.mainHandler.isSome := by
  unfold handler
  cases hm : router.mainHandler with
  | none => rfl
  | some m =>
    cases m with
    | pooled p wf => simp [hinv.pooled_built p wf hm]
    | custom h => rfl

/-- **A reachable router serves unless its main handler is `nil`**: the
closure never meets a `nil` request handler, so `ServeHTTP` panics only
before any build or downgrade, or after `Downgrade(nil)`. -/
theorem serveHTTP_run_isSome (cs : List (Call P RH RP W R A)) (w : W) (r : R) :
    (((newRouter : Director P RH RP W R A).run build pref cs).serveHTTP handleRequest w r).isSome =
      ((newRouter : Director P RH RP W R A).run build pref cs).mainHandler.isSome := by
  rw [serveHTTP, Option.isSome_map', handler_isSome handleRequest (run_inv newRouter_inv cs)]

/-! ## The wrapper model -/

theorem serveHTTP_toRouter (router : Director P RH RP W R A) (w : W) (r : R) :
    router.serveHTTP handleRequest w r = (router.toRouter handleRequest).serveHTTP w r :=
  rfl

theorem toRouter_wrapRouter (router : Director P RH RP W R A) (wf : Option (WrapperFunc W R A)) :
    (router.wrapRouter wf).toRouter handleRequest = (router.toRouter handleRequest).wrapRouter wf := by
  rcases router with ⟨_, _, _ | _, _, _⟩ <;> rcases wf with _ | _ <;> rfl

/-- A successful build is the wrapper model's `BuildRouter` of the closure
over its pool and the request handler it stored. -/
theorem toRouter_buildRouter {router router' : Director P RH RP W R A} {p : Option P}
    {rh : Option RH} {rp : Option RP} {force : Bool}
    (h : router.buildRouter build pref p rh rp force = .ok router') :
    ∃ p' rh', p = some p' ∧ router'.requestHandler = some rh' ∧
      router'.toRouter handleRequest =
        (router.toRouter handleRequest).buildRouter (handleRequest p' rh') := by
  obtain ⟨rh', hrh⟩ := Option.isSome_iff_exists.mp (buildRouter_requestHandler_isSome h)
  obtain ⟨p', _, rfl, _, _, rfl⟩ := buildRouter_ok h
  refine ⟨p', rh', rfl, hrh, ?_⟩
  have hs : (router.store p' _ rp force).requestHandler = some rh' := hrh
  simp only [toRouter, handler, hs, Option.map_some', store_wrapperFunc, Router.buildRouter]
  rfl

theorem run_wrapRouter (router : Director P RH RP W R A) (ws : List (WrapperFunc W R A)) :
    (router.run build pref (ws.map fun wf => .wrapRouter (some wf))).toRouter handleRequest =
        (router.toRouter handleRequest).wrapAll ws ∧
      (router.run build pref (ws.map fun wf => .wrapRouter (some wf))).requestHandler =
        router.requestHandler := by
  induction ws generalizing router with
  | nil => exact ⟨rfl, rfl⟩
  | cons wf ws ih =>
    obtain ⟨h1, h2⟩ := ih (router.wrapRouter (some wf))
    exact ⟨h1.trans (congrArg (Router.wrapAll · ws) (toRouter_wrapRouter handleRequest router _)), h2⟩

/-- **Wrappers registered before a build serve as their nest.** From a new
router, `WrapRouter` of each of `ws` and a build whose request handler
builds serve each request through the wrappers nested
last-registered-first over the closure. -/
theorem serveHTTP_wrapRouter_build (ws : List (WrapperFunc W R A)) {p : P} {rh : RH} {rp : Option RP}
    (hb : build rh rp = none) (force : Bool) (w : W) (r : R) :
    ∃ router', ((newRouter : Director P RH RP W R A).run build pref
        (ws.map fun wf => .wrapRouter (some wf))).buildRouter build pref (some p) (some rh) rp force =
          .ok router' ∧
      router'.serveHTTP handleRequest w r = some (nest ws (handleRequest p rh) w r) := by
  let router := (newRouter : Director P RH RP W R A).run build pref (ws.map fun wf => .wrapRouter (some wf))
  obtain ⟨hto, hnil⟩ : router.toRouter handleRequest = Router.newRouter.wrapAll ws ∧
      router.requestHandler = none := run_wrapRouter handleRequest newRouter ws
  have hb' : router.buildRouter build pref (some p) (some rh) rp force =
      .ok { router.store p rh rp force with mainHandler := some (.pooled p router.wrapperFunc) } := by
    simp only [buildRouter, hb]
  refine ⟨_, hb', ?_⟩
  obtain ⟨_, rh', hp, hrh, hto'⟩ := toRouter_buildRouter handleRequest hb'
  cases Option.some.inj hp
  have : rh' = rh := by cases force <;> simp_all [store]
  subst this
  rw [serveHTTP_toRouter, hto', hto]
  simp only [Router.serveHTTP, Router.buildRouter, Option.map_some', wrapped_wrapAll]
  rfl

/-- One wrapper that tags the response, registered before a build with
pool `0` and request handler `1`. -/
theorem serveHTTP_wrapRouter_build_tagged :
    (fun _ _ => none : Nat → Option Nat → Option Error) 1 none = none ∧
      ∃ router', ((newRouter : Director Nat Nat Nat Unit Unit Nat).run (fun _ _ => none) ""
          ([fun w r next => 9 :: (next.map fun n => n w r).getD []].map fun wf => .wrapRouter (some wf))).buildRouter
            (fun _ _ => none) "" (some 0) (some 1) none false = .ok router' ∧
        router'.serveHTTP (fun p rh _ _ => [p, rh]) () () =
          some (nest [fun w r next => 9 :: (next.map fun n => n w r).getD []] ((fun p rh _ _ => [p, rh]) 0 1) () ()) :=
  ⟨rfl, serveHTTP_wrapRouter_build _ _ rfl false () ()⟩

/-! ## The default request handler -/

/-- A build that always fails leaves the request handler as it was. -/
theorem step_requestHandler_of_failing (hb : ∀ rh rp, (build rh rp).isSome)
    (router : Director P RH RP W R A) (c : Call P RH RP W R A) :
    (router.step build pref c).requestHandler = router.requestHandler := by
  have hfail : ∀ {p rh rp force} router',
      router.buildRouter build pref p rh rp force = .ok router' →
        router'.requestHandler = router.requestHandler := fun {_ _ rp _} _ h => by
    obtain ⟨_, rh', _, _, hbuild, _⟩ := buildRouter_ok h
    exact absurd (hb rh' rp) (by simp [hbuild])
  have hkeep := @orKeep_of P RH RP W R A (fun r => r.requestHandler = router.requestHandler) router
  cases c with
  | buildRouter => exact hkeep rfl hfail
  | refreshRouter => exact hkeep rfl hfail
  | downgrade _ => rfl
  | wrapRouter _ => rfl

end Calls

/-- `routerHandler.Build(provider)`'s error: `rp.Return()` of its reporter,
as the `Error` the reporter wraps. `addRoute` never returns an error, so
nothing is added to the reporter. -/
def defaultBuild (pref : String) (_ : RH) (_ : Option RP) : Option Error :=
  (newReporter pref).returnError.map Reporter.wrapper

/-- **With a non-empty `errors.Prefix` the default router never builds.**
From `NewRouter`, no sequence of `BuildRouter`, `RefreshRouter`,
`Downgrade` and `WrapRouter` calls with the default request handler's
`Build` stores a request handler: every build fails, and the router can
serve only through `Downgrade`. -/
theorem run_defaultBuild {pref : String} (hpref : pref ≠ "") (cs : List (Call P RH RP W R A)) :
    ((newRouter : Director P RH RP W R A).run (defaultBuild pref) pref cs).requestHandler = none := by
  have hb : ∀ (rh : RH) (rp : Option RP), (defaultBuild pref rh rp).isSome := fun _ _ => by
    cases h : (newReporter pref).returnError with
    | none => exact absurd ((Reporter.returnError_newReporter pref).mp h) hpref
    | some r => simp [defaultBuild, h]
  suffices ∀ (router : Director P RH RP W R A),
      (router.run (defaultBuild pref) pref cs).requestHandler = router.requestHandler from this _
  induction cs with
  | nil => exact fun _ => rfl
  | cons c cs ih => exact fun router => (ih _).trans (step_requestHandler_of_failing hb router c)

/-- With the prefix `iris: `, a build with a pool, a request handler and the
default `Build` leaves the router unbuilt. -/
theorem run_defaultBuild_prefixed :
    ("iris: " : String) ≠ "" ∧
      ((newRouter : Director Nat Nat Nat Unit Unit Nat).run (defaultBuild "iris: ") "iris: "
        [.buildRouter (some 0) (some 1) none false, .refreshRouter]).requestHandler = none :=
  ⟨by decide, run_defaultBuild (by decide) _⟩


end Director

end Router

end IrisWeb
