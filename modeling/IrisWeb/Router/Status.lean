import Mathlib.Data.List.Nodup
/-!
# Error code handlers — the status-code registry

`core/router/status.go`: `ErrorCodeHandlers` keeps a list of entries, each
a status code with its handlers. `Register(c, hs...)` ignores a successful
code, appends an entry for a code it does not find and replaces the
handlers of the first entry it finds; `Fire` registers the status text for
a non-successful code it does not find before it runs the entry.

From `defaultErrorCodeHandlers()`, which registers 404, 405 and 500, any
run of the two keeps one entry per code, each non-successful (`run_inv`),
and `Get(c)` returns the handlers of the last registration of `c`, or the
status text where only `Fire` registered it (`get_run`).
-/

namespace IrisWeb

namespace Router

/-- `context.StatusCodeNotSuccessful`. -/
def statusCodeNotSuccessful (statusCode : Int) : Bool := statusCode < 200 || statusCode ≥ 400

/-- `statusCodeSuccessful`. -/
def statusCodeSuccessful (statusCode : Int) : Bool := !statusCodeNotSuccessful statusCode

/-- `ErrorCodeHandler`, less its mutex. -/
structure ErrorCodeHandler (H : Type) where
  statusCode : Int
  handlers : List H
deriving DecidableEq, Repr

namespace ErrorCodeHandlers

variable {H : Type}

/-- `Get(statusCode)`: the first entry with the code, `nil` if none. -/
def get (s : List (ErrorCodeHandler H)) (statusCode : Int) : Option (ErrorCodeHandler H) :=
  s.find? (·.statusCode = statusCode)

/-- `h.updateHandlers(handlers)` on the entry `Get` found: the first with
the code. -/
def updateHandlers (statusCode : Int) (handlers : List H) :
    List (ErrorCodeHandler H) → List (ErrorCodeHandler H)
  | [] => []
  | e :: es =>
    if e.statusCode = statusCode then { e with handlers := handlers } :: es
    else e :: updateHandlers statusCode handlers es

/-- `Register(statusCode, handlers...)`: the registry after it, and the
entry it returns, `nil` for a successful code. -/
def register (s : List (ErrorCodeHandler H)) (statusCode : Int) (handlers : List H) :
    List (ErrorCodeHandler H) × Option (ErrorCodeHandler H) :=
  if statusCodeSuccessful statusCode then (s, none)
  else
    match get s statusCode with
    | none => (s ++ [⟨statusCode, handlers⟩], some ⟨statusCode, handlers⟩)
    | some h => (updateHandlers statusCode handlers s, some { h with handlers := handlers })

/-! ### Lookup and update -/

/-- The codes of the registry, in order. -/
def codes (s : List (ErrorCodeHandler H)) : List Int := s.map (·.statusCode)

theorem get_eq_none_iff {s : List (ErrorCodeHandler H)} {c : Int} :
    get s c = none ↔ c ∉ codes s := by
  simp [get, codes, List.find?_eq_none]

@[simp] theorem codes_updateHandlers (c : Int) (hs : List H) (s : List (ErrorCodeHandler H)) :
    codes (updateHandlers c hs s) = codes s := by
  induction s with
  | nil => rfl
  | cons e es ih =>
    unfold updateHandlers
    split_ifs <;> simp_all [codes]

/-- Updating `c'` changes what `Get` finds for `c'` only. -/
theorem get_updateHandlers (c' : Int) (hs : List H) (s : List (ErrorCodeHandler H)) (c : Int) :
    (get (updateHandlers c' hs s) c).map (·.handlers) =
      if c' = c then (get s c').map fun _ => hs else (get s c).map (·.handlers) := by
  induction s with
  | nil => split_ifs <;> rfl
  | cons e es ih =>
    unfold updateHandlers
    rcases eq_or_ne c' c with rfl | hc
    · by_cases he : e.statusCode = c' <;> simp_all [get, List.find?_cons]
    · by_cases he' : e.statusCode = c' <;> by_cases he : e.statusCode = c <;>
        simp_all [get, List.find?_cons]

/-- Appending a fresh `c'` changes what `Get` finds for `c'` only. -/
theorem get_append_fresh {s : List (ErrorCodeHandler H)} {c' : Int} (hs : List H)
    (hfresh : get s c' = none) (c : Int) :
    (get (s ++ [⟨c', hs⟩]) c).map (·.handlers) =
      if c' = c then some hs else (get s c).map (·.handlers) := by
  by_cases hc : c' = c
  · subst hc
    simp only [get] at hfresh ⊢
    simp [List.find?_append, hfresh]
  · simp [get, List.find?_append, hc]

/- `statusText c`: the handler that writes `http.StatusText(c)`. -/
variable (statusText : Int → H)

/-- `Fire(ctx)`, for the context's status code: the registry after it, and
the entry whose `Fire` then runs. -/
def fire (s : List (ErrorCodeHandler H)) (statusCode : Int) :
    List (ErrorCodeHandler H) × Option (ErrorCodeHandler H) :=
  if statusCodeSuccessful statusCode then (s, none)
  else
    match get s statusCode with
    | some ch => (s, some ch)
    | none => register s statusCode [statusText statusCode]

/-- `defaultErrorCodeHandlers()`. -/
def defaultErrorCodeHandlers : List (ErrorCodeHandler H) :=
  [404, 405, 500].foldl (fun s c => (register s c [statusText c]).1) []

/-- A call on the registry. -/
inductive Call (H : Type)
  | register (statusCode : Int) (handlers : List H)
  | fire (statusCode : Int)

/-- One call. -/
def step (s : List (ErrorCodeHandler H)) : Call H → List (ErrorCodeHandler H)
  | .register c hs => (register s c hs).1
  | .fire c => (fire statusText s c).1

/-- A sequence of calls, one at a time. -/
def run (s : List (ErrorCodeHandler H)) (cs : List (Call H)) : List (ErrorCodeHandler H) :=
  cs.foldl (step statusText) s

/-- The registrations `defaultErrorCodeHandlers` makes, as calls. -/
def defaultCalls : List (Call H) := [404, 405, 500].map fun c => .register c [statusText c]

/-! ## One step -/

theorem register_eq_none_iff (s : List (ErrorCodeHandler H)) (c : Int) (hs : List H) :
    (register s c hs).2 = none ↔ statusCodeSuccessful c = true := by
  unfold register
  split_ifs with hc
  · simp [hc]
  · cases get s c <;> simp [hc]

/-- What `Register` does to the codes: nothing, or it appends a fresh
non-successful one. -/
theorem codes_register (s : List (ErrorCodeHandler H)) (c' : Int) (hs : List H) :
    codes (register s c' hs).1 = codes s ∨
      (statusCodeNotSuccessful c' = true ∧ c' ∉ codes s ∧
        codes (register s c' hs).1 = codes s ++ [c']) := by
  unfold register
  split_ifs with hc
  · exact .inl rfl
  · cases hg : get s c' with
    | none =>
      refine .inr ⟨by simpa [statusCodeSuccessful] using hc, get_eq_none_iff.mp hg, ?_⟩
      simp [codes]
    | some _ => exact .inl (codes_updateHandlers _ _ _)

theorem get_register (s : List (ErrorCodeHandler H)) (c' : Int) (hs : List H) (c : Int) :
    (get (register s c' hs).1 c).map (·.handlers) =
      if statusCodeSuccessful c' then (get s c).map (·.handlers)
      else if c' = c then some hs else (get s c).map (·.handlers) := by
  unfold register
  split_ifs with hc
  · rfl
  all_goals cases hg : get s c' <;> simp_all [get_append_fresh, get_updateHandlers]

theorem codes_fire (s : List (ErrorCodeHandler H)) (c' : Int) :
    codes (fire statusText s c').1 = codes s ∨
      (statusCodeNotSuccessful c' = true ∧ c' ∉ codes s ∧
        codes (fire statusText s c').1 = codes s ++ [c']) := by
  unfold fire
  split_ifs
  · exact .inl rfl
  · cases get s c'
    · exact codes_register _ _ _
    · exact .inl rfl

theorem get_fire (s : List (ErrorCodeHandler H)) (c' c : Int) :
    (get (fire statusText s c').1 c).map (·.handlers) =
      if statusCodeSuccessful c' then (get s c).map (·.handlers)
      else if c' = c then some (((get s c).map (·.handlers)).getD [statusText c])
      else (get s c).map (·.handlers) := by
  unfold fire
  split_ifs with hc
  · rfl
  all_goals cases hg : get s c' <;> simp_all [get_register]

/-! ## What the registry is for

The registry's purpose, stated apart from its list: after a history of
calls, the handlers of code `c` are those of its last registration, or the
status text where only a fire registered it; a successful code has none. -/

/-- The handlers a call registers for `c`, if it registers any. -/
def Call.registered (c : Int) : Call H → Option (List H)
  | .register c' hs => if c' = c then some hs else none
  | .fire _ => none

/-- Whether a call fires `c`. -/
def Call.fires (c : Int) : Call H → Bool
  | .register _ _ => false
  | .fire c' => c' = c

/-- The handlers of `c` after the calls `hist`. -/
def expectedHandlers (hist : List (Call H)) (c : Int) : Option (List H) :=
  if statusCodeSuccessful c then none
  else (hist.reverse.findSome? (Call.registered c)).or
    (if hist.any (Call.fires c) then some [statusText c] else none)

theorem expectedHandlers_register (hist : List (Call H)) (c' c : Int) (hs : List H) :
    expectedHandlers statusText (hist ++ [.register c' hs]) c =
      if statusCodeSuccessful c then none
      else if c' = c then some hs else expectedHandlers statusText hist c := by
  unfold expectedHandlers
  split_ifs <;> simp_all [Call.registered, Call.fires]

theorem expectedHandlers_fire (hist : List (Call H)) (c' c : Int) :
    expectedHandlers statusText (hist ++ [.fire c']) c =
      if statusCodeSuccessful c then none
      else if c' = c then some ((expectedHandlers statusText hist c).getD [statusText c])
      else expectedHandlers statusText hist c := by
  have hlast : (hist ++ [Call.fire c']).reverse.findSome? (Call.registered c) =
      hist.reverse.findSome? (Call.registered c) := by
    simp [Call.registered]
  unfold expectedHandlers
  rw [hlast]
  cases hist.reverse.findSome? (Call.registered c) <;> split_ifs <;> simp_all [Call.fires]

theorem expectedHandlers_successful (hist : List (Call H)) {c : Int}
    (hc : statusCodeSuccessful c = true) : expectedHandlers statusText hist c = none := by
  simp [expectedHandlers, hc]

/-! ## Every run -/

/-- **One entry per code**, each code non-successful. -/
structure Inv (s : List (ErrorCodeHandler H)) : Prop where
  nodup : (codes s).Nodup
  notSuccessful : ∀ c ∈ codes s, statusCodeNotSuccessful c = true

variable {s : List (ErrorCodeHandler H)}

theorem Inv.of_codes {s' : List (ErrorCodeHandler H)} {c' : Int} (hi : Inv s)
    (h : codes s' = codes s ∨
      (statusCodeNotSuccessful c' = true ∧ c' ∉ codes s ∧ codes s' = codes s ++ [c'])) :
    Inv s' := by
  rcases h with h | ⟨hc', hfresh, h⟩ <;> refine ⟨?_, ?_⟩ <;> rw [h]
  · exact hi.nodup
  · exact hi.notSuccessful
  · exact List.nodup_append.mpr ⟨hi.nodup, List.nodup_singleton _, by simpa using hfresh⟩
  · intro c hc
    rcases List.mem_append.mp hc with hc | hc
    · exact hi.notSuccessful c hc
    · rwa [List.mem_singleton.mp hc]

theorem step_inv (hi : Inv s) (x : Call H) : Inv (step statusText s x) := by
  cases x with
  | register c' hs => exact hi.of_codes (codes_register s c' hs)
  | fire c' => exact hi.of_codes (codes_fire statusText s c')

theorem run_inv (hi : Inv s) (cs : List (Call H)) : Inv (run statusText s cs) := by
  induction cs generalizing s with
  | nil => exact hi
  | cons x cs ih => exact ih (step_inv statusText hi x)

/-- The registry refines the spec: `Get` after one more call agrees with
the history extended by it. -/
theorem step_agrees {hist : List (Call H)}
    (h : ∀ c, (get s c).map (·.handlers) = expectedHandlers statusText hist c) (x : Call H) (c : Int) :
    (get (step statusText s x) c).map (·.handlers) = expectedHandlers statusText (hist ++ [x]) c := by
  cases x with
  | register c' hs =>
    rw [step, get_register, expectedHandlers_register, h]
    split_ifs <;> simp_all [expectedHandlers_successful]
  | fire c' =>
    rw [step, get_fire, expectedHandlers_fire, h]
    split_ifs <;> simp_all [expectedHandlers_successful]

theorem run_agrees {hist : List (Call H)}
    (h : ∀ c, (get s c).map (·.handlers) = expectedHandlers statusText hist c) (cs : List (Call H))
    (c : Int) :
    (get (run statusText s cs) c).map (·.handlers) = expectedHandlers statusText (hist ++ cs) c := by
  induction cs generalizing s hist with
  | nil => simpa using h c
  | cons x cs ih => simpa using ih (step_agrees statusText h x)

/-- The entry `Fire` runs has the handlers the spec gives `c` once the
fire is in the history. -/
theorem fire_agrees {hist : List (Call H)}
    (h : ∀ c, (get s c).map (·.handlers) = expectedHandlers statusText hist c) (c : Int) :
    (fire statusText s c).2.map (·.handlers) = expectedHandlers statusText (hist ++ [.fire c]) c := by
  rw [expectedHandlers_fire, ← h]
  unfold fire register
  split_ifs <;> cases get s c <;> simp_all

theorem defaultErrorCodeHandlers_inv : Inv (defaultErrorCodeHandlers statusText) :=
  run_inv statusText (show Inv ([] : List (ErrorCodeHandler H)) from ⟨List.nodup_nil, by simp [codes]⟩)
    (defaultCalls statusText)

theorem defaultErrorCodeHandlers_agrees (c : Int) :
    (get (defaultErrorCodeHandlers statusText) c).map (·.handlers) =
      expectedHandlers statusText (defaultCalls statusText) c := by
  have hnil : ∀ c, (get ([] : List (ErrorCodeHandler H)) c).map (·.handlers) =
      expectedHandlers statusText ([] : List (Call H)) c := by
    simp [get, expectedHandlers]
  exact run_agrees statusText hnil (defaultCalls statusText) c

example : codes (defaultErrorCodeHandlers fun c : Int => c) = [404, 405, 500] := by decide

/-- **The registry from `defaultErrorCodeHandlers()`**: after any calls of
`Register` and `Fire`, one entry per code, every code non-successful,
`Register` returning `nil` exactly for a successful code, and `Get(c)`
returning the handlers of the last registration of `c`, or the status text
where only `Fire` registered it. -/
theorem defaultErrorCodeHandlers_run (cs : List (Call H)) :
    let s : List (ErrorCodeHandler H) := run statusText (defaultErrorCodeHandlers statusText) cs
    (s.map (·.statusCode)).Nodup ∧
    (∀ e ∈ s, e.statusCode < 200 ∨ 400 ≤ e.statusCode) ∧
    (∀ c hs, (register s c hs).2 = none ↔ statusCodeSuccessful c = true) ∧
    ∀ c, (get s c).map (·.handlers) =
      expectedHandlers statusText (defaultCalls statusText ++ cs) c := by
  intro s
  have hi : Inv s := run_inv statusText (defaultErrorCodeHandlers_inv statusText) cs
  refine ⟨hi.nodup, fun e he => ?_, register_eq_none_iff s, ?_⟩
  · simpa [statusCodeNotSuccessful] using hi.notSuccessful _ (List.mem_map_of_mem _ he)
  · exact run_agrees statusText (defaultErrorCodeHandlers_agrees statusText) cs

/-- **What `Fire` runs**: after any calls from `defaultErrorCodeHandlers()`,
`Fire` on a non-successful code runs the handlers of its last registration,
or the status text if it has none, and nothing on a successful code. -/
theorem defaultErrorCodeHandlers_fire_runs (cs : List (Call H)) (c : Int) :
    (fire statusText (run statusText (defaultErrorCodeHandlers statusText) cs) c).2.map (·.handlers) =
      expectedHandlers statusText (defaultCalls statusText ++ cs ++ [.fire c]) c :=
  fire_agrees statusText (run_agrees statusText (defaultErrorCodeHandlers_agrees statusText) cs) c

end ErrorCodeHandlers

end Router

end IrisWeb
