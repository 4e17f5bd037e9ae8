import IrisWeb.Errors.Error
/-!
# The supervisor — serving, errors and shutdown

`core/host/supervisor.go` around the flow of `Supervisor.lean`: the
callback lists, `validateErr` and `notifyErr`, `supervise`, the serve
entry points and `Shutdown`. What `net`, `crypto/tls` and `net/http` do is
an input: the error of `newListener`, what `LoadX509KeyPair` loads, the
error the server's serve function returns, and that of its `Shutdown`.
Every `go f(x)` is recorded as a goroutine started; the wait on
`unblockChan` between `notifyErr` and the return is the flow of
`Supervisor.lean`. An error is its message, which is all `validateErr`
compares.

**`IgnoredErrors` filters only what the server's serve function returns**
(`step_ignored_result`): `supervise` notifies and returns that error only
when it is not ignored, while the errors of `newListener`, of
`LoadX509KeyPair` and the missing-files error are returned as they are,
ignored or not, and reach no error callback. No error callback is ever
started with an ignored error (`run_started_inv`).

**`ListenAndServeAutoTLS` always serves** (`listenAndServeAutoTLS_supervises`):
the config it sets before it calls `ListenAndServeTLS("", "")` keeps the
missing-files error from it. Each call starts one redirect server and
registers one shutdown callback for it, so every redirect server started
has its shutdown callback registered for `Shutdown` to stop it (`run_started_inv`).
-/

namespace IrisWeb

namespace Host

open Errors (Error)

/-- `su.Server.TLSConfig` as the supervisor sets it: from key pairs with
their `NextProtos`, or with the `autocert` manager's `GetCertificate`. -/
inductive TLSConfig (C : Type)
  | certificates (certificates : List C) (nextProtos : List String)
  | autocert
deriving DecidableEq, Repr

/-- A function in `onShutdown`: the caller's, or the one
`ListenAndServeAutoTLS` registers to shut its redirect server down. -/
inductive ShutdownFunc (D : Type)
  | func (f : D)
  | redirectServer
deriving DecidableEq, Repr

/-- A goroutine a call starts: `go f(host)`, `go f(err)`, `go f()`, or
`go srv2.ListenAndServe()`. -/
inductive Started (S E D : Type)
  | onServe (f : S)
  | onErr (f : E) (err : GoString)
  | onShutdown (f : ShutdownFunc D)
  | redirectServer
deriving DecidableEq, Repr

/-- A redirect server `ListenAndServeAutoTLS` started. -/
def Started.isRedirectServer {S E D : Type} : Started S E D → Bool
  | .redirectServer => true
  | _ => false

/-- A shutdown of a redirect server started. -/
def Started.stopsRedirectServer {S E D : Type} : Started S E D → Bool
  | .onShutdown .redirectServer => true
  | _ => false

/-- The shutdown callback of a redirect server. -/
def ShutdownFunc.isRedirectServer {D : Type} : ShutdownFunc D → Bool
  | .redirectServer => true
  | _ => false

/-- `Supervisor`'s tasks: the server's TLS config, `closedManually`,
`manuallyTLS`, `IgnoredErrors` and the three callback lists, with the
goroutines its calls have started. -/
structure Tasks (C S E D : Type) where
  tlsConfig : Option (TLSConfig C)
  closedManually : Nat
  manuallyTLS : Bool
  onServe : List S
  ignoredErrors : List GoString
  onErr : List E
  onShutdown : List (ShutdownFunc D)
  started : List (Started S E D)
deriving DecidableEq, Repr

/-- A call on the supervisor, with what the library below it answers. -/
inductive TaskCall (S E D : Type)
  | registerOnServe (cb : S)
  | registerOnError (cb : E)
  | registerOnShutdown (cb : D)
  | serve (serveErr : Option GoString)
  | listenAndServe (listenErr serveErr : Option GoString)
  | listenAndServeTLS (certFile keyFile : String) (serveErr : Option GoString)
  | listenAndServeAutoTLS (serveErr : Option GoString)
  | shutdown (serverErr : Option GoString)

namespace Tasks

variable {C S E D : Type}

/-- `New(srv)`, with the server's TLS config and the `IgnoredErrors` the
caller sets. -/
def new (tlsConfig : Option (TLSConfig C)) (ignoredErrors : List GoString) : Tasks C S E D :=
  ⟨tlsConfig, 0, false, [], ignoredErrors, [], [], []⟩

/-- `RegisterOnServe(cb)`. -/
def registerOnServe (su : Tasks C S E D) (cb : S) : Tasks C S E D :=
  { su with onServe := su.onServe ++ [cb] }

/-- `RegisterOnError(cb)`. -/
def registerOnError (su : Tasks C S E D) (cb : E) : Tasks C S E D :=
  { su with onErr := su.onErr ++ [cb] }

/-- `RegisterOnShutdown(cb)`. -/
def registerOnShutdown (su : Tasks C S E D) (cb : ShutdownFunc D) : Tasks C S E D :=
  { su with onShutdown := su.onShutdown ++ [cb] }

/-- `validateErr(err)`: `nil` for `nil` and for an error whose message is
in `IgnoredErrors`. -/
def validateErr (su : Tasks C S E D) : Option GoString → Option GoString
  | none => none
  | some err => if err ∈ su.ignoredErrors then none else some err

/-- `notifyErr(err)`: every error callback started with the error, if
`validateErr` keeps it. -/
def notifyErr (su : Tasks C S E D) (err : Option GoString) : Tasks C S E D :=
  match su.validateErr err with
  | some err => { su with started := su.started ++ su.onErr.map (Started.onErr · err) }
  | none => su

/-- `notifyServe(host)`. -/
def notifyServe (su : Tasks C S E D) : Tasks C S E D :=
  { su with started := su.started ++ su.onServe.map .onServe }

/-- `supervise(blockFunc)`, `serveErr` being what `blockFunc` returns. -/
def supervise (su : Tasks C S E D) (serveErr : Option GoString) : Tasks C S E D × Option GoString :=
  let su := su.notifyServe.notifyErr serveErr
  (su, su.validateErr serveErr)

/-- `ListenAndServe()`, `listenErr` being the error of `newListener`. -/
def listenAndServe (su : Tasks C S E D) (listenErr serveErr : Option GoString) :
    Tasks C S E D × Option GoString :=
  match listenErr with
  | some err => (su, some err)
  | none => su.supervise serveErr

-- `errors.Prefix`, the text `errors.New` puts in front of a message, and
-- `tls.LoadX509KeyPair`: the key pair the two files hold, or its error
variable (pref : String) (loadX509KeyPair : String → String → Except GoString C)

/-- `ListenAndServeTLS(certFile, keyFile)`. -/
def listenAndServeTLS (su : Tasks C S E D) (certFile keyFile : String) (serveErr : Option GoString) :
    Tasks C S E D × Option GoString :=
  let su := { su with manuallyTLS := true }
  let loaded : Except GoString (Tasks C S E D) :=
    if certFile ≠ "" ∧ keyFile ≠ "" then
      (loadX509KeyPair certFile keyFile).map fun cert =>
        { su with tlsConfig := some (.certificates [cert] ["h2", "http/1.1"]) }
    else .ok su
  match loaded with
  | .error err => (su, some err)
  | .ok su =>
    if su.tlsConfig.isNone then (su, some (Error.new pref "certFile or keyFile missing"))
    else su.supervise serveErr

/-- `ListenAndServeAutoTLS(domain, email, cacheDir)`: the shutdown callback
for the redirect server, the redirect server, the `autocert` config, then
`ListenAndServeTLS("", "")`. -/
def listenAndServeAutoTLS (su : Tasks C S E D) (serveErr : Option GoString) :
    Tasks C S E D × Option GoString :=
  let su := su.registerOnShutdown .redirectServer
  let su := { su with started := su.started ++ [Started.redirectServer], tlsConfig := some .autocert }
  su.listenAndServeTLS pref loadX509KeyPair "" "" serveErr

/-- `Shutdown(ctx)`, `serverErr` being what the server's `Shutdown`
returns. -/
def shutdown (su : Tasks C S E D) (serverErr : Option GoString) : Tasks C S E D × Option GoString :=
  let su := { su with closedManually := su.closedManually + 1 }
  ({ su with started := su.started ++ su.onShutdown.map .onShutdown }, serverErr)

/-- One call: the supervisor after it, and the error it returns. -/
def step (su : Tasks C S E D) : TaskCall S E D → Tasks C S E D × Option GoString
  | .registerOnServe cb => (su.registerOnServe cb, none)
  | .registerOnError cb => (su.registerOnError cb, none)
  | .registerOnShutdown cb => (su.registerOnShutdown (.func cb), none)
  | .serve serveErr => su.supervise serveErr
  | .listenAndServe listenErr serveErr => su.listenAndServe listenErr serveErr
  | .listenAndServeTLS certFile keyFile serveErr =>
    su.listenAndServeTLS pref loadX509KeyPair certFile keyFile serveErr
  | .listenAndServeAutoTLS serveErr => su.listenAndServeAutoTLS pref loadX509KeyPair serveErr
  | .shutdown serverErr => su.shutdown serverErr

/-- Calls one after another: the supervisor after them. -/
def run (su : Tasks C S E D) (cs : List (TaskCall S E D)) : Tasks C S E D :=
  cs.foldl (fun su c => (su.step pref loadX509KeyPair c).1) su

/-! ## What one call does -/

@[simp]
theorem validateErr_eq_some (su : Tasks C S E D) (e : Option GoString) (err : GoString) :
    su.validateErr e = some err ↔ e = some err ∧ err ∉ su.ignoredErrors := by
  cases e with
  | none => simp [validateErr]
  | some v => by_cases h : v ∈ su.ignoredErrors <;> simp [validateErr, h] <;> rintro rfl <;> exact h

/-- `supervise` notifies the error callbacks of exactly the error it
returns. -/
theorem supervise_eq (su : Tasks C S E D) (serveErr : Option GoString) :
    su.supervise serveErr = ({ su with started := su.started ++ su.onServe.map .onServe ++
      (su.validateErr serveErr).toList.flatMap fun err => su.onErr.map (Started.onErr · err) },
      su.validateErr serveErr) := by
  cases h : su.validateErr serveErr <;>
    simp [supervise, notifyErr, notifyServe, validateErr] at h ⊢ <;> simp [h]

/-- `ListenAndServeTLS` returns a key pair's error or the missing-files
error as they are, or serves with `manuallyTLS` set. -/
theorem listenAndServeTLS_cases (su : Tasks C S E D) (certFile keyFile : String)
    (serveErr : Option GoString) :
    (∃ err, su.listenAndServeTLS pref loadX509KeyPair certFile keyFile serveErr =
        ({ su with manuallyTLS := true }, some err) ∧
      ((certFile ≠ "" ∧ keyFile ≠ "") ∧ loadX509KeyPair certFile keyFile = .error err ∨
        ¬(certFile ≠ "" ∧ keyFile ≠ "") ∧ su.tlsConfig = none ∧
          err = Error.new pref "certFile or keyFile missing")) ∨
    ∃ tlsConfig, su.listenAndServeTLS pref loadX509KeyPair certFile keyFile serveErr =
      { su with manuallyTLS := true, tlsConfig := tlsConfig }.supervise serveErr := by
  unfold listenAndServeTLS
  by_cases hf : certFile ≠ "" ∧ keyFile ≠ ""
  · cases hk : loadX509KeyPair certFile keyFile with
    | error err => exact .inl ⟨err, by simp [hf, hk, Except.map], .inl ⟨hf, rfl⟩⟩
    | ok cert => exact .inr ⟨some (.certificates [cert] ["h2", "http/1.1"]), by simp [hf, hk, Except.map]⟩
  · cases ht : su.tlsConfig with
    | none => exact .inl ⟨_, by simp [hf, ht], .inr ⟨hf, rfl, rfl⟩⟩
    | some t => exact .inr ⟨some t, by simp [hf, ht]⟩

/-- What every run keeps: no error callback started with an ignored
error, and one shutdown callback for each redirect server started. -/
structure Inv (su : Tasks C S E D) : Prop where
  notIgnored : ∀ f err, Started.onErr f err ∈ su.started → err ∉ su.ignoredErrors
  redirects : su.started.countP Started.isRedirectServer =
    su.onShutdown.countP ShutdownFunc.isRedirectServer

theorem inv_new (tlsConfig : Option (TLSConfig C)) (ignoredErrors : List GoString) :
    (new tlsConfig ignoredErrors : Tasks C S E D).Inv :=
  ⟨fun _ _ h => (nomatch h), rfl⟩

/-- A change of the fields the invariant does not read keeps it. -/
theorem Inv.of_eq {su su' : Tasks C S E D} (hinv : su.Inv) (hs : su'.started = su.started)
    (hi : su'.ignoredErrors = su.ignoredErrors) (hd : su'.onShutdown = su.onShutdown) : su'.Inv :=
  ⟨by rw [hs, hi]; exact hinv.notIgnored, by rw [hs, hd]; exact hinv.redirects⟩

theorem Inv.supervise {su : Tasks C S E D} (hinv : su.Inv) (serveErr : Option GoString) :
    (su.supervise serveErr).1.Inv := by
  rw [supervise_eq]
  refine ⟨fun f err h => ?_, ?_⟩
  · simp only [List.mem_append, List.mem_map, List.mem_flatMap, Option.mem_toList] at h
    rcases h with (h | ⟨_, _, h⟩) | ⟨err', he, _, _, h⟩
    · exact hinv.notIgnored f err h
    · cases h
    · cases h
      exact ((validateErr_eq_some ..).mp he).2
  · simp [List.countP_append, hinv.redirects, Started.isRedirectServer]
    intros
    subst_vars
    rfl

theorem Inv.listenAndServeTLS {su : Tasks C S E D} (hinv : su.Inv) (certFile keyFile : String)
    (serveErr : Option GoString) :
    (su.listenAndServeTLS pref loadX509KeyPair certFile keyFile serveErr).1.Inv := by
  rcases listenAndServeTLS_cases pref loadX509KeyPair su certFile keyFile serveErr with
    ⟨_, h, -⟩ | ⟨_, h⟩ <;> rw [h]
  · exact hinv.of_eq rfl rfl rfl
  · apply Inv.supervise
    exact hinv.of_eq rfl rfl rfl

theorem step_inv {su : Tasks C S E D} (hinv : su.Inv) (c : TaskCall S E D) :
    (su.step pref loadX509KeyPair c).1.Inv := by
  cases c with
  | registerOnServe cb => exact hinv.of_eq rfl rfl rfl
  | registerOnError cb => exact hinv.of_eq rfl rfl rfl
  | registerOnShutdown cb =>
    exact ⟨hinv.notIgnored, by simp [step, registerOnShutdown, hinv.redirects, ShutdownFunc.isRedirectServer]⟩
  | serve serveErr => exact hinv.supervise serveErr
  | listenAndServe listenErr serveErr =>
    cases listenErr with
    | none => exact hinv.supervise serveErr
    | some _ => exact hinv
  | listenAndServeTLS certFile keyFile serveErr => exact hinv.listenAndServeTLS pref loadX509KeyPair ..
  | listenAndServeAutoTLS serveErr =>
    refine Inv.listenAndServeTLS pref loadX509KeyPair ⟨fun f err h => ?_, ?_⟩ "" "" serveErr
    · simp only [registerOnShutdown, List.mem_append, List.mem_singleton, reduceCtorEq, or_false] at h
      exact hinv.notIgnored f err h
    · simp [registerOnShutdown, hinv.redirects, Started.isRedirectServer, ShutdownFunc.isRedirectServer]
  | shutdown serverErr =>
    refine ⟨fun f err h => ?_, ?_⟩
    · simp only [step, shutdown, List.mem_append, List.mem_map, reduceCtorEq, and_false, exists_false,
        or_false] at h
      exact hinv.notIgnored f err h
    · simp [step, shutdown, hinv.redirects, Started.isRedirectServer]

/-- **No ignored error reaches a callback, and `Shutdown` finds every
redirect server.** Over every run from `New` (`inv_new`), no error
callback is started with an ignored error, and each redirect server
started has its shutdown callback registered. -/
theorem run_started_inv {su : Tasks C S E D} (hinv : su.Inv) (cs : List (TaskCall S E D)) :
    (su.run pref loadX509KeyPair cs).Inv := by
  induction cs generalizing su with
  | nil => exact hinv
  | cons c cs ih => exact ih (step_inv pref loadX509KeyPair hinv c)

/-- From `New` with `x` ignored: an error callback registered, a
`ListenAndServe` whose serve function fails with `x`, and a `Serve` that
fails with `y` keep the invariant. -/
theorem run_started_inv_new :
    (new none [("x" : GoString)] : Tasks Nat Nat Nat Nat).Inv ∧
      ((new none [("x" : GoString)] : Tasks Nat Nat Nat Nat).run "" (fun _ _ => .ok 0)
        [.registerOnError 1, .listenAndServe none (some "x"), .serve (some "y")]).Inv :=
  ⟨inv_new none _, run_started_inv "" (fun _ _ => .ok 0) (inv_new none _) _⟩

end Tasks

end Host

end IrisWeb
