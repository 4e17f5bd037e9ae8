import Mathlib.Logic.Basic
set_option linter.dupNamespace false

/-!
# The router's wrappers

`core/router/router.go`: `WrapRouter` folds each new wrapper over the one
registered before it, and `BuildRouter` serves through the result. A
handler is modelled by the trace of actions it performs, and a wrapper by
the trace it performs given the `next` handler it may call.

**The composite forwards what it is given.** The closure `WrapRouter`
builds hands the previous wrapper the writer and request that the new one
passed to `next`, not the ones it received itself. So serving nests the
wrappers last-registered-first, each `next` taking its own arguments
(`serveHTTP_wrapped`); only when every wrapper calls `next` with the
writer and request it was given is each `next` a thunk over the served
request (`nest_eq_nestOnRequest`).
-/

namespace IrisWeb

namespace Router

variable {W R A : Type}

/-- `http.HandlerFunc`: the trace of actions it performs on a writer and a
request. -/
abbrev HandlerFunc (W R A : Type) := W → R → List A

/-- `WrapperFunc`: given the writer, the request and the `next` handler,
`nil` or not. -/
abbrev WrapperFunc (W R A : Type) := W → R → Option (HandlerFunc W R A) → List A

/-- `Router`, its two handler fields: `mainHandler`, `nil` until
`BuildRouter`, and `wrapperFunc`. -/
structure Router (W R A : Type) where
  mainHandler : Option (HandlerFunc W R A)
  wrapperFunc : Option (WrapperFunc W R A)

/-- `NewRouter()`. -/
def newRouter : Router W R A := ⟨none, none⟩

/-- `router.WrapRouter(wrapperFunc)`. -/
def Router.wrapRouter (router : Router W R A) : Option (WrapperFunc W R A) → Router W R A
  | none => router
  | some nextWrapper =>
    match router.wrapperFunc with
    | none => { router with wrapperFunc := some nextWrapper }
    | some prevWrapper =>
      { router with
        wrapperFunc := some fun w r next =>
          match next with
          | some next => nextWrapper w r (some fun w' r' => prevWrapper w' r' (some next))
          | none => [] }

/-- `NewWrapper(wrapperFunc, wrapped).ServeHTTP`. -/
def newWrapper (wrapperFunc : WrapperFunc W R A) (wrapped : HandlerFunc W R A) :
    HandlerFunc W R A :=
  fun w r => wrapperFunc w r (some wrapped)

/-- The handler `BuildRouter` serves through: the main handler, behind the
wrapper if one is registered. -/
def Router.wrapped (router : Router W R A) (mainHandler : HandlerFunc W R A) : HandlerFunc W R A :=
  match router.wrapperFunc with
  | some wrapperFunc => newWrapper wrapperFunc mainHandler
  | none => mainHandler

/-- `router.BuildRouter(...)` once its checks pass; `mainHandler` is the
closure that acquires a context and runs the request handler. -/
def Router.buildRouter (router : Router W R A) (mainHandler : HandlerFunc W R A) : Router W R A :=
  { router with mainHandler := some (router.wrapped mainHandler) }

/-- `router.ServeHTTP(w, r)`; `none` is the nil-function panic before
`BuildRouter`. -/
def Router.serveHTTP (router : Router W R A) (w : W) (r : R) : Option (List A) :=
  router.mainHandler.map fun h => h w r

/-- Registers the wrappers in order, each with `WrapRouter`. -/
def Router.wrapAll (router : Router W R A) (ws : List (WrapperFunc W R A)) : Router W R A :=
  ws.foldl (fun router wf => router.wrapRouter (some wf)) router

/-- The wrappers nested over a handler, the first registered innermost:
each one's `next` runs the nest below it on the writer and request it is
called with. -/
def nest (ws : List (WrapperFunc W R A)) (h : HandlerFunc W R A) : HandlerFunc W R A :=
  ws.foldl (fun h wf => newWrapper wf h) h

/-- One more wrapper wraps what is served in one more layer. -/
theorem wrapped_wrapRouter (router : Router W R A) (wf : WrapperFunc W R A)
    (h : HandlerFunc W R A) :
    (router.wrapRouter (some wf)).wrapped h = newWrapper wf (router.wrapped h) := by
  rcases router with ⟨_, _ | _⟩ <;> rfl

theorem wrapped_wrapAll (router : Router W R A) (ws : List (WrapperFunc W R A))
    (h : HandlerFunc W R A) :
    (router.wrapAll ws).wrapped h = nest ws (router.wrapped h) := by
  induction ws generalizing router with
  | nil => rfl
  | cons wf ws ih =>
    exact (ih (router.wrapRouter (some wf))).trans (congrArg (nest ws) (wrapped_wrapRouter router wf h))

/-- **Serving through registered wrappers**: after `WrapRouter` of each of
`ws` and `BuildRouter`, serving `(w, r)` runs the wrappers nested
last-registered-first over the main handler, each wrapper's `next` running
the ones registered before it on the writer and request it is given. -/
theorem serveHTTP_wrapped (ws : List (WrapperFunc W R A)) (mainHandler : HandlerFunc W R A)
    (w : W) (r : R) :
    ((newRouter.wrapAll ws).buildRouter mainHandler).serveHTTP w r =
      some (nest ws mainHandler w r) := by
  simp only [Router.serveHTTP, Router.buildRouter, Option.map_some', wrapped_wrapAll]
  rfl

/-- The nesting `wn(req, λ. w(n-1)(req, ... λ. w1(req, router) ...))` over
the served request, each `next` a thunk over the served writer and
request. -/
def nestOnRequest (ws : List (WrapperFunc W R A)) (h : HandlerFunc W R A) (w : W) (r : R) :
    List A :=
  ws.foldl (fun t wf => wf w r (some fun _ _ => t)) (h w r)

/-- A wrapper that calls `next` only on the writer and request it was given. -/
def Forwards (wf : WrapperFunc W R A) : Prop :=
  ∀ w r h, wf w r (some h) = wf w r (some fun _ _ => h w r)

/-- The two nestings differ in what the earlier wrappers see: a wrapper
that calls `next` on a new request shows it to the wrappers registered
before it, where the thunks over the served request show the old one. -/
theorem serveHTTP_next_request_differs :
    let logRequest : WrapperFunc Unit Nat Nat := fun w r next => r :: (next.map fun n => n w r).getD []
    let bumpRequest : WrapperFunc Unit Nat Nat := fun w r next => (next.map fun n => n w (r + 1)).getD []
    let mainHandler : HandlerFunc Unit Nat Nat := fun _ r => [r]
    ((newRouter.wrapAll [logRequest, bumpRequest]).buildRouter mainHandler).serveHTTP () 0 =
        some [1, 1] ∧
      nestOnRequest [logRequest, bumpRequest] mainHandler () 0 = [0, 0] :=
  ⟨rfl, rfl⟩

/-- **Forwarding wrappers nest over the served request**: when every
wrapper calls `next` on the writer and request it was given, each `next`
is the thunk of `nestOnRequest`. -/
theorem nest_eq_nestOnRequest (ws : List (WrapperFunc W R A)) (hws : ∀ wf ∈ ws, Forwards wf)
    (h : HandlerFunc W R A) (w : W) (r : R) :
    nest ws h w r = nestOnRequest ws h w r := by
  induction ws generalizing h with
  | nil => rfl
  | cons wf ws ih =>
    have hwf : newWrapper wf h w r = wf w r (some fun _ _ => h w r) := hws wf (.head _) w r h
    calc nest (wf :: ws) h w r = nestOnRequest ws (newWrapper wf h) w r :=
          ih (fun v hv => hws v (.tail _ hv)) _
      _ = nestOnRequest (wf :: ws) h w r := by simp only [nestOnRequest, List.foldl_cons, hwf]

theorem nest_eq_nestOnRequest_tagged :
    let tag : WrapperFunc Unit Nat Nat := fun w r next => 7 :: (next.map fun n => n w r).getD []
    (∀ wf ∈ [tag, tag], Forwards wf) ∧
      nest [tag, tag] (fun _ r => [r]) () 0 = nestOnRequest [tag, tag] (fun _ r => [r]) () 0 := by
  intro tag
  have htag : Forwards tag := fun _ _ _ => rfl
  have hfw : ∀ wf ∈ [tag, tag], Forwards wf := fun wf hwf => by
    rw [show wf = tag by simpa using hwf]
    exact htag
  exact ⟨hfw, nest_eq_nestOnRequest _ hfw _ _ _⟩

end Router

end IrisWeb
