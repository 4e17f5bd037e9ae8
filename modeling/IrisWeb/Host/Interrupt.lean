import Mathlib.Data.List.Perm.Basic
/-!
# The interrupt listener

`core/host/interrupt.go`: `Register` drops a `nil` callback, starts the
listener goroutine through `once`, and appends the callback under `mu`;
`FireNow` runs every callback and empties the list under `mu`; the
goroutine calls `signal.Notify`, waits for one signal, and calls `FireNow`.
Each section under `mu` is one step, and the two halves of `Register`, the
goroutine's steps and the arrival of a signal interleave. A signal that
finds no `signal.Notify` made ends the process, and `run` gives `none`
there, as for a step that is not enabled.

**No callback is lost or run twice** (`run_callbacks`): over every
interleaving, the callbacks run, those queued and those still being
appended are, up to order, the callbacks registered.

**The listener handles one signal** (`fired_run_of_done`): once its
goroutine has returned, no interleaving without `FireNow` runs a
callback, so every later signal is swallowed, and a callback whose
`Register` was between `once` and its append when the signal came is left
for `FireNow`.
-/

namespace IrisWeb

namespace Host

/-- Where the goroutine `listenOnce` spawns is: before `signal.Notify`,
in its `select`, holding a signal before `FireNow`, or returned. -/
inductive NotifyPc
  | notify | select | fireNow | done
deriving DecidableEq, Repr

/-- `interruptListener`, with the calls in progress. -/
structure InterruptListener (Cb : Type) where
  onInterrupt : List Cb
  /-- The goroutine `once` spawned, if `once` has run. -/
  listener : Option NotifyPc
  /-- The `Register` calls past `listenOnce`, each with its callback. -/
  registers : List Cb
  /-- The callbacks run, in order. -/
  fired : List Cb

/-- One event of an interleaving. -/
inductive InterruptEvent (Cb : Type)
  /-- A `Register(cb)` call begins: the `nil` check and `listenOnce`. -/
  | register (cb : Option Cb)
  /-- The `i`th `Register` call past `listenOnce` appends under `mu`. -/
  | registerStep (i : Nat)
  /-- A whole `FireNow` call, under `mu`. -/
  | fireNow
  /-- The listener goroutine takes its next step. -/
  | notifyAndFire
  /-- An interrupt signal reaches the process. -/
  | signal

namespace InterruptListener

variable {Cb : Type}

/-- `Interrupt = new(interruptListener)`. -/
def new : InterruptListener Cb := ⟨[], none, [], []⟩

/-- `listenOnce()`: the first call spawns the goroutine. -/
def listenOnce (i : InterruptListener Cb) : InterruptListener Cb :=
  if i.listener.isNone then { i with listener := some .notify } else i

/-- `Register(cb)` up to its append. -/
def register (i : InterruptListener Cb) : Option Cb → InterruptListener Cb
  | none => i
  | some cb => { i.listenOnce with registers := i.registers ++ [cb] }

/-- The append of the `k`th `Register` call past `listenOnce`. -/
def registerStep (i : InterruptListener Cb) (k : Nat) : Option (InterruptListener Cb) :=
  i.registers[k]?.map fun cb =>
    { i with onInterrupt := i.onInterrupt ++ [cb], registers := i.registers.eraseIdx k }

/-- `FireNow()`: run every callback, then `onInterrupt[0:0]`. -/
def fireNow (i : InterruptListener Cb) : InterruptListener Cb :=
  { i with fired := i.fired ++ i.onInterrupt, onInterrupt := [] }

/-- The next step of `notifyAndFire`; `none` where it is blocked in its
`select` or has none. -/
def notifyAndFire (i : InterruptListener Cb) : Option (InterruptListener Cb) :=
  match i.listener with
  | some .notify => some { i with listener := some .select }
  | some .fireNow => some { i.fireNow with listener := some .done }
  | _ => none

/-- A signal arrives: before `signal.Notify` it ends the process; in the
`select` the goroutine receives it; after that the channel buffers or
drops it. -/
def signal (i : InterruptListener Cb) : Option (InterruptListener Cb) :=
  match i.listener with
  | none | some .notify => none
  | some .select => some { i with listener := some .fireNow }
  | some .fireNow | some .done => some i

def step (i : InterruptListener Cb) : InterruptEvent Cb → Option (InterruptListener Cb)
  | .register cb => some (i.register cb)
  | .registerStep k => i.registerStep k
  | .fireNow => some i.fireNow
  | .notifyAndFire => i.notifyAndFire
  | .signal => i.signal

def run (i : InterruptListener Cb) (es : List (InterruptEvent Cb)) : Option (InterruptListener Cb) :=
  es.foldlM step i

/-- The callbacks a run registers: every non-`nil` one. -/
def registered (es : List (InterruptEvent Cb)) : List Cb :=
  es.flatMap fun
    | .register cb => cb.toList
    | _ => []

/-- Every callback in one place: run, queued, or being appended. -/
def callbacks (i : InterruptListener Cb) : List Cb := i.fired ++ i.onInterrupt ++ i.registers

/-! ## No callback lost or run twice -/

theorem perm_cons_eraseIdx {l : List Cb} {k : Nat} {x : Cb} (h : l[k]? = some x) :
    l.Perm (x :: l.eraseIdx k) := by
  obtain ⟨hk, rfl⟩ := List.getElem?_eq_some_iff.mp h
  rw [List.eraseIdx_eq_take_drop_succ]
  conv_lhs => rw [← List.take_append_drop k l, List.drop_eq_getElem_cons hk]
  exact List.perm_middle

theorem step_callbacks {i i' : InterruptListener Cb} {e : InterruptEvent Cb}
    (h : i.step e = some i') : i'.callbacks.Perm (i.callbacks ++ registered [e]) := by
  cases e with
  | register cb =>
    cases h
    cases cb with
    | none => simp [register, registered]
    | some cb =>
      have : i.listenOnce.fired = i.fired ∧ i.listenOnce.onInterrupt = i.onInterrupt := by
        unfold listenOnce; split <;> exact ⟨rfl, rfl⟩
      simp [register, registered, callbacks, this]
  | registerStep k =>
    obtain ⟨cb, hcb, rfl⟩ := Option.map_eq_some'.mp h
    have := (perm_cons_eraseIdx hcb).append_left (i.fired ++ i.onInterrupt)
    simpa [callbacks, registered] using this.symm
  | fireNow => cases h; simp [fireNow, callbacks, registered]
  | notifyAndFire =>
    change i.notifyAndFire = some i' at h
    unfold notifyAndFire at h
    split at h <;> cases h <;> simp [fireNow, callbacks, registered]
  | signal =>
    change i.signal = some i' at h
    unfold signal at h
    split at h <;> cases h <;> simp [callbacks, registered]

/-- **No callback is lost or run twice.** Over every interleaving from
`Interrupt`, the callbacks run, queued, and being appended are the
registered ones, each as often as it was registered. -/
theorem run_callbacks : ∀ (es : List (InterruptEvent Cb)) {i i' : InterruptListener Cb},
    i.run es = some i' → i'.callbacks.Perm (i.callbacks ++ registered es)
  | [], _, _, h => by cases h; simp [registered]
  | e :: es, i, i', h => by
    simp only [run, List.foldlM_cons] at h
    cases he : i.step e with
    | none => simp [he] at h
    | some i₁ =>
      rw [he] at h
      have := (run_callbacks es h).trans ((step_callbacks he).append_right _)
      simpa [registered] using this

/-- From `Interrupt`, every registered callback is run, queued or being
appended, and with distinct callbacks none is run twice. -/
theorem reachable_callbacks {es : List (InterruptEvent Cb)} {i : InterruptListener Cb}
    (h : new.run es = some i) :
    i.callbacks.Perm (registered es) ∧ ((registered es).Nodup → i.fired.Nodup) := by
  have hp : i.callbacks.Perm (registered es) := by simpa [new, callbacks] using run_callbacks es h
  refine ⟨hp, fun hnd => (hp.nodup_iff.mpr hnd).sublist ?_⟩
  exact (List.sublist_append_left _ _).trans (List.sublist_append_left _ _)

/-- Two callbacks, one registered before `Notify` and fired by the signal,
one registered after it and still queued. -/
theorem reachable_callbacks_signal :
    let i : InterruptListener Nat := ⟨[1], some .done, [], [0]⟩
    new.run [.register (some 0), .registerStep 0, .notifyAndFire, .signal, .notifyAndFire,
        .register (some 1), .registerStep 0] = some i ∧
      i.callbacks.Perm (registered [.register (some 0), .registerStep 0, .notifyAndFire, .signal,
        .notifyAndFire, .register (some 1), .registerStep 0]) ∧
      ((registered [.register (some 0), .registerStep 0, .notifyAndFire, .signal, .notifyAndFire,
        .register (some 1), .registerStep 0]).Nodup → i.fired.Nodup) :=
  ⟨rfl, reachable_callbacks rfl⟩

/-! ## One signal -/

/-- After the goroutine has returned, a step other than `FireNow` runs no
callback and leaves the goroutine returned. -/
theorem step_fired_of_done {i i' : InterruptListener Cb} {e : InterruptEvent Cb}
    (hd : i.listener = some .done) (he : e ≠ .fireNow) (h : i.step e = some i') :
    i'.fired = i.fired ∧ i'.listener = some .done := by
  cases e with
  | register cb =>
    cases h
    cases cb with
    | none => exact ⟨rfl, hd⟩
    | some cb => simp [register, listenOnce, hd]
  | registerStep k =>
    obtain ⟨cb, -, rfl⟩ := Option.map_eq_some'.mp h
    exact ⟨rfl, hd⟩
  | fireNow => exact absurd rfl he
  | notifyAndFire =>
    change i.notifyAndFire = some i' at h
    simp [notifyAndFire, hd] at h
  | signal =>
    change i.signal = some i' at h
    simp only [signal, hd, Option.some.injEq] at h
    exact h ▸ ⟨rfl, hd⟩

/-- **The listener handles one signal.** Once its goroutine has returned,
no interleaving without `FireNow` runs a callback: every later signal is
swallowed, whatever was registered since. -/
theorem fired_run_of_done : ∀ {es : List (InterruptEvent Cb)} {i i' : InterruptListener Cb},
    i.listener = some .done → InterruptEvent.fireNow ∉ es → i.run es = some i' → i'.fired = i.fired
  | [], _, _, _, _, h => by cases h; rfl
  | e :: es, i, i', hd, hno, h => by
    simp only [run, List.foldlM_cons] at h
    cases he : i.step e with
    | none => simp [he] at h
    | some i₁ =>
      rw [he] at h
      have hne : e ≠ .fireNow := fun hef => hno (hef ▸ List.mem_cons_self _ _)
      obtain ⟨hf, hd₁⟩ := step_fired_of_done hd hne he
      exact (fired_run_of_done hd₁ (fun hm => hno (List.mem_cons_of_mem _ hm)) h).trans hf

/-- The race with the first `Register`: its callback is appended after the
signal it began before has been handled, and no later signal runs it. -/
theorem fired_run_of_done_stranded :
    let i : InterruptListener Nat := ⟨[], some .done, [0], []⟩
    new.run [.register (some 0), .notifyAndFire, .signal, .notifyAndFire] = some i ∧
      i.listener = some .done ∧
      (InterruptEvent.fireNow : InterruptEvent Nat) ∉ [.registerStep 0, .signal, .signal] ∧
      i.run [.registerStep 0, .signal, .signal] = some ⟨[0], some .done, [], []⟩ ∧
      ((⟨[0], some .done, [], []⟩ : InterruptListener Nat).fired = i.fired) := by
  intro i
  have hr : i.run [.registerStep 0, .signal, .signal] = some ⟨[0], some .done, [], []⟩ := rfl
  exact ⟨rfl, rfl, by simp, hr, fired_run_of_done rfl (by simp) hr⟩

end InterruptListener

end Host

end IrisWeb
