import IrisWeb.Context.Context
/-!
# The handler chain — `Do`, `Next` and `Proceed`

`context/context.go`: how a chain of handlers runs on a context. `Do`
runs the first handler; a handler goes on by calling `ctx.Next()`
(`DefaultNext`), which runs the handler after the cursor unless the chain
was stopped. A handler is a Go closure; here it is one of three: a nil
handler, a raw handler given by what it does with the chain, and the
closure `ExecutionOptions.buildHandler` returns when `Force` is set, which
runs its handler through `Proceed` and calls `Next` when that handler did
not. A run is bounded by fuel, one unit per handler call.

The run of a chain of raw and forced handlers is `chainRun`
(`serve_chain`, `doHandlers_chain`): each handler runs once, in order, up to and
including the first that does not let the chain go on.

`NextOr` runs its alternative handlers through `Do` without moving the
cursor back to `0`, so from a cursor inside the chain it skips the first
alternatives; `Fire` calls `HandlerIndex(0)`, which an empty chain
ignores (`nextOr_runs_alternatives_from_cursor`).
-/

namespace IrisWeb

namespace Context

/-- What a raw handler does with the chain. -/
inductive Behaviour
  /-- It calls `ctx.Next()` once. -/
  | callsNext
  /-- It does not call `ctx.Next()`. -/
  | noNext
  /-- It calls `ctx.StopExecution()` and not `ctx.Next()`. -/
  | stops
deriving DecidableEq, Repr

/-- A handler, with labels of type `L` to tell the raw ones apart. -/
inductive Handler (L : Type)
  /-- A nil `func`: calling it panics. -/
  | nil
  /-- A raw handler. -/
  | raw (label : L) (b : Behaviour)
  /-- The closure `buildHandler(h)` returns for a rule with `Force` set. -/
  | forced (h : Handler L)
deriving DecidableEq, Repr

/-- The part of a context a chain reads and writes: the handlers and the
cursor, and the labels of the raw handlers called so far. -/
structure Chain (L : Type) where
  handlers : List (Handler L)
  currentHandlerIndex : Int
  ran : List L := []
deriving DecidableEq, Repr

namespace Chain

variable {L : Type}

/-- `IsStopped`. -/
def isStopped (s : Chain L) : Bool := s.currentHandlerIndex = stopExecutionIndex

/-- `DefaultNext`, given how a handler runs: unless stopped, the handler
after the cursor, if any, becomes current and runs. `none` is the panic
of `handlers[n]` at a negative `n`. -/
def next (serve : Handler L → Chain L → Option (Chain L)) (s : Chain L) : Option (Chain L) :=
  if s.isStopped then some s
  else
    let n := s.currentHandlerIndex + 1
    if n < s.handlers.length then
      match s.handlers[n.toNat]? with
      | some h => if 0 ≤ n then serve h { s with currentHandlerIndex := n } else none
      | none => none
    else some s

/-- `Proceed(h)`, given how a handler runs: `h` runs, and the answer is
whether it moved the cursor on without stopping. -/
def proceed (serve : Handler L → Chain L → Option (Chain L)) (h : Handler L) (s : Chain L) :
    Option (Chain L × Bool) :=
  (serve h s).map fun s' =>
    (s', decide (s'.currentHandlerIndex > s.currentHandlerIndex) && !s'.isStopped)

/-- `h(ctx)`. -/
def serve : Nat → Handler L → Chain L → Option (Chain L)
  | 0, _, _ => none
  | _ + 1, .nil, _ => none
  | fuel + 1, .raw l b, s =>
    let s := { s with ran := s.ran ++ [l] }
    match b with
    | .callsNext => next (serve fuel) s
    | .noNext => some s
    | .stops => some { s with currentHandlerIndex := stopExecutionIndex }
  | fuel + 1, .forced h, s => do
    let (s, ok) ← proceed (serve fuel) h s
    if ok then some s else next (serve fuel) s

/-- `Do(ctx, handlers)`: the handlers are set and the first one runs. -/
def doHandlers (fuel : Nat) (hs : List (Handler L)) (s : Chain L) : Option (Chain L) :=
  match hs with
  | [] => some s
  | h :: _ => serve fuel h { s with handlers := hs }

/-- `HandlerIndex(n)` on the chain: an index outside the handlers is
ignored. -/
def handlerIndex (s : Chain L) (n : Int) : Chain L :=
  if n < 0 ∨ n > s.handlers.length - 1 then s else { s with currentHandlerIndex := n }

/-- `NextHandler()`: `some none` is the `nil` it returns when the chain is
stopped, has no handler after the cursor, or holds a nil handler there;
`none` is the panic of `handlers[n]` at a negative `n`. -/
def nextHandler (s : Chain L) : Option (Option (Handler L)) :=
  if s.isStopped then some none
  else
    let n := s.currentHandlerIndex + 1
    if n < s.handlers.length then
      if 0 ≤ n then
        some (match s.handlers[n.toNat]? with
          | some .nil => none
          | h => h)
      else none
    else some none

/-- `NextOr(handlers...)`: a non-nil next handler runs with the cursor
where it is and is then skipped; otherwise no alternative is a 404 and a
stop, and alternatives are set and the first run by `Do`, from the cursor
as it is. The answer is whether a next handler ran. -/
def nextOr (fuel : Nat) (alt : List (Handler L)) (s : Chain L) : Option (Chain L × Bool) := do
  match ← s.nextHandler with
  | some next => (serve fuel next s).map fun s => (s.handlerIndex (s.currentHandlerIndex + 1), true)
  | none =>
    match alt with
    | [] => some ({ s with currentHandlerIndex := stopExecutionIndex }, false)
    | _ => (doHandlers fuel alt s).map (·, false)

/-- The chain part of `ErrorCodeHandler.Fire`: `HandlerIndex(0)`, then
`Do` with the error handlers. -/
def fire (fuel : Nat) (hs : List (Handler L)) (s : Chain L) : Option (Chain L) :=
  doHandlers fuel hs (s.handlerIndex 0)

/-- Two ways a chain `Do` installs does not run from its start. `NextOr`
from the last of two handlers, with three alternatives of which the first
calls `Next`: they run from the cursor `1`, so that `Next` runs the third
and the second never runs. `Fire` on a stopped context with no handlers:
`HandlerIndex(0)` is outside the empty chain, so the error handlers run
stopped and the first one's `Next` runs nothing. -/
theorem nextOr_runs_alternatives_from_cursor :
    let s : Chain Nat := { handlers := [.raw 0 .noNext, .raw 1 .noNext], currentHandlerIndex := 1 }
    let alt : List (Handler Nat) := [.raw 10 .callsNext, .raw 11 .noNext, .raw 12 .noNext]
    (nextOr 10 alt s).map (·.1.ran) = some [10, 12] ∧
      (fire 10 [.raw 20 .callsNext, .raw 21 .noNext]
        { handlers := [], currentHandlerIndex := stopExecutionIndex }).map (·.ran) = some [20] := by
  decide

end Chain

/-! ## Chains the execution rules build -/

/-- A raw handler's place in a built chain: whether a `Force` rule wraps
it, its label, and what it does. -/
structure ChainEntry (L : Type) where
  forced : Bool
  label : L
  behaviour : Behaviour
deriving DecidableEq, Repr

namespace ChainEntry

variable {L : Type}

/-- The handler at the entry's place. -/
def handler (e : ChainEntry L) : Handler L :=
  if e.forced then .forced (.raw e.label e.behaviour) else .raw e.label e.behaviour

/-- The entry lets the chain go on: it calls `Next`, or it is forced and
does not stop. -/
def passes (e : ChainEntry L) : Bool :=
  e.behaviour = .callsNext || (e.forced && e.behaviour ≠ .stops)

end ChainEntry

variable {L : Type}

/-- The raw handlers a run from the first entry calls, in order: each up to
and including the first entry that does not pass. -/
def runsUntil : List (ChainEntry L) → List L
  | [] => []
  | e :: es => e.label :: if e.passes then runsUntil es else []

/-- The run from the first entry, at position `i`: the labels called and
the cursor left, `-1` when a raw handler stopped the chain. Running no
entry leaves the cursor on the handler before. -/
def chainRun : List (ChainEntry L) → Int → List L × Int
  | [], i => ([], i - 1)
  | e :: es, i =>
    if e.passes then (e.label :: (chainRun es (i + 1)).1, (chainRun es (i + 1)).2)
    else ([e.label], if e.behaviour = .stops then stopExecutionIndex else i)

theorem chainRun_fst (es : List (ChainEntry L)) (i : Int) : (chainRun es i).1 = runsUntil es := by
  induction es generalizing i with
  | nil => rfl
  | cons e es ih =>
    unfold chainRun runsUntil
    by_cases hp : e.passes <;> simp [hp, ih]

/-- A run from position `i` leaves the cursor stopped, or on the handler
before `i` if it ran nothing, or later. -/
theorem chainRun_snd (es : List (ChainEntry L)) (i : Int) :
    (chainRun es i).2 = stopExecutionIndex ∨ (es = [] ∧ (chainRun es i).2 = i - 1) ∨
      i ≤ (chainRun es i).2 := by
  induction es generalizing i with
  | nil => simp [chainRun]
  | cons e es ih =>
    unfold chainRun
    by_cases hp : e.passes
    · rcases ih (i + 1) with h | ⟨-, h⟩ | h
      · simp [hp, h]
      · simp only [hp, if_true, h]; omega
      · simp only [hp, if_true]; omega
    · rw [if_neg hp]
      split_ifs <;> simp

namespace Chain

/-- What a run of `es` from position `i` leaves: the cursor, and the labels
called added to those before. -/
def after (s : Chain L) (es : List (ChainEntry L)) (i : Int) : Chain L :=
  { s with currentHandlerIndex := (chainRun es i).2, ran := s.ran ++ (chainRun es i).1 }

theorem next_of_stopped (f : Handler L → Chain L → Option (Chain L)) {s : Chain L}
    (h : s.isStopped) : s.next f = some s := by
  simp [next, h]

/-- `Next` at the last handler does nothing. -/
theorem next_of_last (f : Handler L → Chain L → Option (Chain L)) {s : Chain L}
    (h : ¬ s.isStopped) (hlen : s.handlers.length ≤ s.currentHandlerIndex + 1) :
    s.next f = some s := by
  rw [next, if_neg h]
  exact if_neg (Int.not_lt.mpr hlen)

/-- `Next` before the handler at `n` runs it at `n`. -/
theorem next_of_getElem? (f : Handler L → Chain L → Option (Chain L)) {s : Chain L}
    (h : ¬ s.isStopped) {n : Nat} (hn : s.currentHandlerIndex + 1 = n) {hd : Handler L}
    (hh : s.handlers[n]? = some hd) :
    s.next f = f hd { s with currentHandlerIndex := n } := by
  have hlt : n < s.handlers.length := (List.getElem?_eq_some_iff.mp hh).1
  rw [next, if_neg h]
  simp only [hn, Int.toNat_natCast, hh, Int.natCast_nonneg, if_true]
  exact if_pos (by omega)

theorem after_nil (s : Chain L) (i : Int) (hi : s.currentHandlerIndex = i) : s.after [] (i + 1) = s := by
  simp [after, chainRun, ← hi]

/-- `Next` from an entry of a built chain runs the rest of it, given how
the entry after it runs. -/
theorem next_after (f : Handler L → Chain L → Option (Chain L)) {s : Chain L}
    {pre : List (Handler L)} {e : ChainEntry L} {es : List (ChainEntry L)}
    (hc : s.handlers = pre ++ (e :: es).map ChainEntry.handler) (hi : s.currentHandlerIndex = pre.length)
    (hf : ∀ e' es', es = e' :: es' →
      f e'.handler { s with currentHandlerIndex := pre.length + 1 } = some (s.after es (pre.length + 1))) :
    s.next f = some (s.after es (pre.length + 1)) := by
  have hns : ¬ s.isStopped := by simp [isStopped, hi, stopExecutionIndex]
  cases es with
  | nil =>
    rw [after_nil s _ hi]
    exact next_of_last f hns (by simp [hc, hi])
  | cons e' es' =>
    have hh : s.handlers[pre.length + 1]? = some e'.handler := by
      rw [hc, List.getElem?_append_right (by omega)]
      simp
    rw [next_of_getElem? f hns (by simp [hi]) hh, ← hf e' es' rfl, Int.natCast_add, Int.ofNat_one]


/-- One entry of a built chain runs, given how `Next` after it runs the
rest. -/
theorem serve_entry {pre : List (Handler L)} {e : ChainEntry L} {es : List (ChainEntry L)}
    {s : Chain L} {fuel : Nat} (hc : s.handlers = pre ++ (e :: es).map ChainEntry.handler)
    (hi : s.currentHandlerIndex = pre.length) (hf : 2 * (es.length + 1) ≤ fuel)
    (hnext : ∀ g, 2 * es.length ≤ g → ∀ s' : Chain L, s'.handlers = s.handlers →
      s'.currentHandlerIndex = pre.length → s'.next (serve g) = some (s'.after es (pre.length + 1))) :
    serve fuel e.handler s = some (s.after (e :: es) pre.length) := by
  obtain ⟨f, rfl⟩ : ∃ f, fuel = f + 1 + 1 := ⟨fuel - 2, by omega⟩
  obtain ⟨forced, l, b⟩ := e
  have hrest : ∀ g, 2 * es.length ≤ g → ({ s with ran := s.ran ++ [l] } : Chain L).next (serve g) =
      some (({ s with ran := s.ran ++ [l] } : Chain L).after es (pre.length + 1)) :=
    fun g hg => hnext g hg _ rfl hi
  cases forced <;> cases b
  case false.callsNext =>
    show next (serve (f + 1)) _ = _
    rw [hrest (f + 1) (by omega)]
    simp [after, chainRun, ChainEntry.passes]
  case false.noNext => simp [ChainEntry.handler, serve, after, chainRun, ChainEntry.passes, hi]
  case false.stops => simp [ChainEntry.handler, serve, after, chainRun, ChainEntry.passes]
  case true.callsNext =>
    simp only [ChainEntry.handler, if_true, serve, proceed, hrest f (by omega), Option.map_some',
      Option.bind_eq_bind, Option.some_bind]
    have hts : ({ s with ran := s.ran ++ [l] } : Chain L).after es (pre.length + 1) =
        s.after (⟨true, l, .callsNext⟩ :: es) pre.length := by
      simp [after, chainRun, ChainEntry.passes]
    rw [hts]
    split_ifs with hok
    · rfl
    · rcases chainRun_snd es (pre.length + 1) with h | ⟨rfl, h⟩ | h
      · exact next_of_stopped _ (by simp [after, isStopped, chainRun, ChainEntry.passes, h])
      · exact next_of_last _ (by simp [after, isStopped, chainRun, ChainEntry.passes, h, stopExecutionIndex])
          (by simp [after, chainRun, ChainEntry.passes, hc])
      · exact absurd (by simp [after, isStopped, chainRun, ChainEntry.passes, hi, stopExecutionIndex]; omega) hok
  case true.noNext =>
    simp only [ChainEntry.handler, if_true, serve, proceed, Option.map_some', Option.bind_eq_bind,
      Option.some_bind]
    rw [if_neg (by simp), hrest (f + 1) (by omega)]
    simp [after, chainRun, ChainEntry.passes]
  case true.stops =>
    simp only [ChainEntry.handler, if_true, serve, proceed, Option.map_some', Option.bind_eq_bind,
      Option.some_bind]
    rw [if_neg (by simp [isStopped])]
    simp [next, isStopped, after, chainRun, ChainEntry.passes]

/-- **A built chain runs as `chainRun` says**, from any of its entries,
with fuel for two calls per entry from there on. -/
theorem serve_chain (es : List (ChainEntry L)) :
    ∀ (pre : List (Handler L)) (e : ChainEntry L) (s : Chain L) (fuel : Nat),
      s.handlers = pre ++ (e :: es).map ChainEntry.handler → s.currentHandlerIndex = pre.length →
      2 * (es.length + 1) ≤ fuel → serve fuel e.handler s = some (s.after (e :: es) pre.length) := by
  induction es with
  | nil =>
    exact fun pre e s fuel hc hi hf => serve_entry hc hi hf fun _ _ _ hs' hi' =>
      next_after _ (hs'.trans hc) hi' fun _ _ h => nomatch h
  | cons e' es ih =>
    intro pre e s fuel hc hi hf
    refine serve_entry hc hi hf fun g hg s' hs' hi' => next_after _ (hs'.trans hc) hi' ?_
    rintro _ _ ⟨⟩
    refine (ih (pre ++ [e.handler]) e' _ g (by simp [hs', hc]) (by simp) (by simp at hg; omega)).trans ?_
    simp [after]

/-- **`Do` on a built chain**: from cursor `0`, with fuel for two calls per
entry, the raw handlers run once each, in order, up to and including the
first entry that does not let the chain go on. -/
theorem doHandlers_chain (es : List (ChainEntry L)) (hes : es ≠ []) (s : Chain L)
    (hi : s.currentHandlerIndex = 0) (fuel : Nat) (hf : 2 * es.length ≤ fuel) :
    ((doHandlers fuel (es.map ChainEntry.handler) s).map (·.ran)) = some (s.ran ++ runsUntil es) := by
  obtain ⟨e, es, rfl⟩ := List.exists_cons_of_ne_nil hes
  simp only [doHandlers, List.map_cons]
  rw [serve_chain es [] e _ fuel (by simp) (by simpa using hi) (by simpa using hf)]
  simp [after, chainRun_fst]

end Chain

end Context

end IrisWeb
