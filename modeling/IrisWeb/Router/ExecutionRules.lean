import IrisWeb.Context.Handler
import IrisWeb.Router.Model.Route
/-!
# Execution rules

`core/router/handler_execution_rules.go`: a rule with `Force` set wraps
handlers with `buildHandler`, so that a handler that does not call
`ctx.Next()` still lets the chain go on. `applyExecutionRules` wraps a
route's begin, main and done handlers before `BuildHandlers` joins them:
the main ones with the main rule, or else all but the last with the begin
rule and the last with the done rule.

The chain this builds from raw handlers is `builtEntries`
(`applyExecutionRules_raw`), and `Do` runs it as `runsUntil` says
(`executionRules_run`).
-/

namespace IrisWeb

namespace Router

open Context (Handler Behaviour ChainEntry Chain runsUntil)

/-- `ExecutionOptions`. -/
structure ExecutionOptions where
  force : Bool := false
deriving DecidableEq, Repr

/-- `ExecutionRules`. -/
structure ExecutionRules where
  begin : ExecutionOptions := {}
  done : ExecutionOptions := {}
  main : ExecutionOptions := {}
deriving DecidableEq, Repr

variable {L : Type}

namespace ExecutionOptions

/-- `buildHandler`: with `Force`, the closure that runs `h` through
`Proceed` and calls `Next` when `h` did not. -/
def buildHandler (e : ExecutionOptions) (h : Handler L) : Handler L :=
  if e.force then .forced h else h

/-- `apply`: with `Force`, every handler but a nil one is wrapped, and the
answer is `true`, unless the only handler is nil. -/
def apply (e : ExecutionOptions) (hs : List (Handler L)) : List (Handler L) × Bool :=
  if !e.force then (hs, false)
  else
    match hs with
    | [.nil] => (hs, false)
    | _ => (hs.map fun h => match h with
        | .nil => .nil
        | h => e.buildHandler h, true)

end ExecutionOptions

/-- `applyExecutionRules(rules, &begin, &done, &main)`: the three lists it
leaves, in that order. When the main rule did not apply, the begin rule
wraps the main handlers but the last, and the done rule the last one.
`none` is the panic of `mainCp[lastIdx]` on an empty main list. -/
def applyExecutionRules (rules : ExecutionRules) (begin done main : List (Handler L)) :
    Option (List (Handler L) × List (Handler L) × List (Handler L)) :=
  if !rules.begin.force && !rules.done.force && !rules.main.force then some (begin, done, main)
  else
    let (begin, beginOK) := rules.begin.apply begin
    let (main, mainOK) := rules.main.apply main
    let (done, doneOK) := rules.done.apply done
    if mainOK then some (begin, done, main)
    else
      let lastIdx := main.length - 1
      let main := if beginOK && main.length > 1 then
        (main.take lastIdx).map rules.begin.buildHandler ++ main.drop lastIdx else main
      if doneOK then
        match main.getLast? with
        | none => none
        | some h => some (begin, done, main.set lastIdx (rules.done.buildHandler h))
      else some (begin, done, main)

/-- The chain the execution rules are to build from raw begin, main and
done handlers: a begin handler is forced by the begin rule, a done handler
by the done rule, and a main handler by the main rule, or by the begin rule
if it is not the last and by the done rule if it is. -/
def builtEntries (rules : ExecutionRules) (begin main done : List (L × Behaviour)) :
    List (ChainEntry L) :=
  begin.map (fun (l, b) => ⟨rules.begin.force, l, b⟩) ++
    main.dropLast.map (fun (l, b) => ⟨rules.main.force || rules.begin.force, l, b⟩) ++
    (main.getLast?.map fun (l, b) => ⟨rules.main.force || rules.done.force, l, b⟩).toList ++
    done.map (fun (l, b) => ⟨rules.done.force, l, b⟩)

/-- A raw handler. -/
def rawHandler (x : L × Behaviour) : Handler L := .raw x.1 x.2

namespace ExecutionOptions

theorem buildHandler_of_not_force {e : ExecutionOptions} (h : e.force = false) :
    e.buildHandler = (id : Handler L → Handler L) := by
  funext h'
  simp [buildHandler, h]

/-- `apply` on raw handlers wraps every one of them when `Force` is set. -/
theorem apply_raw (e : ExecutionOptions) (xs : List (L × Behaviour)) :
    e.apply (xs.map rawHandler) = (xs.map (e.buildHandler ∘ rawHandler), e.force) := by
  cases hf : e.force
  · simp [apply, hf, buildHandler_of_not_force hf]
  · match xs with
    | [] => simp [apply, hf]
    | [_] => simp [apply, hf, rawHandler]
    | _ :: _ :: _ => simp [apply, hf, rawHandler]

end ExecutionOptions

/-- **`applyExecutionRules` on raw handlers**, with the main ones split
into all but the last, and the last. -/
theorem applyExecutionRules_raw (rules : ExecutionRules) (begin init done : List (L × Behaviour))
    (last : L × Behaviour) :
    applyExecutionRules rules (begin.map rawHandler) (done.map rawHandler)
        ((init ++ [last]).map rawHandler) =
      some (begin.map (rules.begin.buildHandler ∘ rawHandler),
        done.map (rules.done.buildHandler ∘ rawHandler),
        if rules.main.force then (init ++ [last]).map (rules.main.buildHandler ∘ rawHandler)
        else init.map (rules.begin.buildHandler ∘ rawHandler) ++
          [rules.done.buildHandler (rawHandler last)]) := by
  obtain ⟨⟨bf⟩, ⟨df⟩, ⟨mf⟩⟩ := rules
  simp only [applyExecutionRules, ExecutionOptions.apply_raw]
  cases bf <;> cases df <;> cases mf <;> rcases init with _ | ⟨x, init⟩ <;>
    simp [ExecutionOptions.buildHandler_of_not_force, List.getLast?_cons]

/-- The chain `builtEntries` describes is the one `applyExecutionRules`
and `BuildHandlers` make. -/
theorem builtEntries_handler (rules : ExecutionRules) (begin init done : List (L × Behaviour))
    (last : L × Behaviour) :
    (builtEntries rules begin (init ++ [last]) done).map ChainEntry.handler =
      begin.map (rules.begin.buildHandler ∘ rawHandler) ++
        (if rules.main.force then (init ++ [last]).map (rules.main.buildHandler ∘ rawHandler)
        else init.map (rules.begin.buildHandler ∘ rawHandler) ++
          [rules.done.buildHandler (rawHandler last)]) ++
        done.map (rules.done.buildHandler ∘ rawHandler) := by
  obtain ⟨⟨bf⟩, ⟨df⟩, ⟨mf⟩⟩ := rules
  cases mf <;> simp [builtEntries, ChainEntry.handler, ExecutionOptions.buildHandler, rawHandler,
    Function.comp_def]

/-- **Execution rules make forced handlers advance on their own.** Take
raw begin, main (not empty) and done handlers, each calling `Next`, not
calling it, or stopping. After `applyExecutionRules` and `BuildHandlers`,
`Do` from cursor `0`, with fuel for two calls per handler, runs the raw
handlers of `builtEntries` in chain order, each once, up to and including
the first that neither calls `Next` nor is forced without stopping. -/
theorem executionRules_run (rules : ExecutionRules) (begin main done : List (L × Behaviour))
    (hmain : main ≠ []) (r : Route (Handler L)) (fuel : Nat)
    (hf : 2 * (begin.length + main.length + done.length) ≤ fuel) :
    ∃ begin' done' main',
      applyExecutionRules rules (begin.map rawHandler) (done.map rawHandler) (main.map rawHandler) =
        some (begin', done', main') ∧
      (Chain.doHandlers fuel
          { r with beginHandlers := begin', handlers := main', doneHandlers := done' }.buildHandlers.handlers
          ⟨[], 0, []⟩).map (·.ran) =
        some (runsUntil (builtEntries rules begin main done)) := by
  obtain ⟨init, last, rfl⟩ := List.eq_nil_or_concat main |>.resolve_left hmain
  rw [List.concat_eq_append] at hf ⊢
  refine ⟨_, _, _, applyExecutionRules_raw rules begin init done last, ?_⟩
  have hne : builtEntries rules begin (init ++ [last]) done ≠ [] := by simp [builtEntries]
  have hlen : 2 * (builtEntries rules begin (init ++ [last]) done).length ≤ fuel := by
    simp only [List.length_append, List.length_singleton] at hf
    simp [builtEntries]
    omega
  rw [Route.buildHandlers_handlers, ← builtEntries_handler]
  simpa using Chain.doHandlers_chain _ hne ⟨[], 0, []⟩ rfl fuel hlen

theorem executionRules_run_begin_forced :
    ∃ begin' done' main',
      applyExecutionRules { begin := ⟨true⟩ } ([(0, .noNext)].map rawHandler)
          ([(3, .noNext)].map rawHandler) ([(1, .noNext), (2, .callsNext)].map rawHandler) =
        some (begin', done', main') ∧
      (Chain.doHandlers 8
          { ({ name := "GET/", method := "GET", methodBckp := "GET", subdomain := "", handlers := [],
                path := "/", formattedPath := "/" } : Route (Handler Nat)) with
            beginHandlers := begin', handlers := main', doneHandlers := done' }.buildHandlers.handlers
          ⟨[], 0, []⟩).map (·.ran) =
        some (runsUntil (builtEntries { begin := ⟨true⟩ } [(0, .noNext)] [(1, .noNext), (2, .callsNext)]
          [(3, .noNext)])) :=
  executionRules_run _ _ _ _ (by decide) _ 8 (by decide)

end Router

end IrisWeb
