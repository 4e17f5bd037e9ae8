import Mathlib.Data.List.Basic
/-!
# The supervisor — deferred flow

`core/host/supervisor.go`: `DeferFlow`, `RestoreFlow`, and the end of
`supervise`, after its serve function has returned. Each call is a
goroutine, and each of its atomic steps (an atomic load or store of
`shouldWait`, `mu.Lock`, `mu.Unlock`, a send or a receive on
`unblockChan`) is one event, so a run is any interleaving of them. A step
that would block is not enabled: `step` gives `none` for it.

A second `RestoreFlow` with no `supervise` waiting finds the channel full
and blocks holding `mu`, and a token left over releases a later
`supervise` at once (`restoreFlow_blocks_and_stale_token`).
-/

namespace IrisWeb

namespace Host

/-- Where a `RestoreFlow` call is: before `isWaiting`, before the store of
`0`, before `mu.Lock`, before the send, before `mu.Unlock`, or returned. -/
inductive RestorePc
  | isWaiting | store | lock | send | unlock | done
deriving DecidableEq, Repr

/-- Where a `supervise` call is once its serve function has returned:
before `isWaiting`, blocked on the receive, or returned. -/
inductive SupervisePc
  | isWaiting | receive | done
deriving DecidableEq, Repr

/-- The supervisor's flow fields, and the calls in progress by goroutine. -/
structure Supervisor where
  /-- The `int32` flag; only `0` and `1` are ever stored. -/
  shouldWait : Int
  /-- The tokens buffered in `unblockChan`. -/
  unblockChan : Nat
  /-- `mu` is locked. -/
  mu : Bool
  restores : List RestorePc
  supervises : List SupervisePc
deriving DecidableEq, Repr

/-- `New(srv)`: `make(chan struct{}, 1)`, nothing waiting. -/
def Supervisor.new : Supervisor := ⟨0, 0, false, [], []⟩

/-- The capacity `New` gives `unblockChan`. -/
def unblockChanCap : Nat := 1

/-- One event of an interleaving. -/
inductive Event
  /-- A whole `DeferFlow` call: one atomic store. -/
  | deferFlow
  /-- A `RestoreFlow` call begins. -/
  | restoreFlow
  /-- A `supervise` call's serve function returns. -/
  | supervise
  /-- The `i`th `RestoreFlow` call takes its next step. -/
  | restoreStep (i : Nat)
  /-- The `i`th `supervise` call takes its next step. -/
  | superviseStep (i : Nat)
deriving DecidableEq, Repr

namespace Supervisor

/-- The next step of the `i`th `RestoreFlow` call. -/
def restoreStep (s : Supervisor) (i : Nat) : Option Supervisor :=
  match s.restores[i]? with
  | some .isWaiting =>
    some { s with restores := s.restores.set i (if s.shouldWait ≠ 0 then .store else .done) }
  | some .store => some { s with shouldWait := 0, restores := s.restores.set i .lock }
  | some .lock => if s.mu then none else some { s with mu := true, restores := s.restores.set i .send }
  | some .send =>
    if s.unblockChan < unblockChanCap then
      some { s with unblockChan := s.unblockChan + 1, restores := s.restores.set i .unlock }
    else none
  | some .unlock => some { s with mu := false, restores := s.restores.set i .done }
  | some .done | none => none

/-- The next step of the `i`th `supervise` call. -/
def superviseStep (s : Supervisor) (i : Nat) : Option Supervisor :=
  match s.supervises[i]? with
  | some .isWaiting =>
    some { s with supervises := s.supervises.set i (if s.shouldWait ≠ 0 then .receive else .done) }
  | some .receive =>
    if 0 < s.unblockChan then
      some { s with unblockChan := s.unblockChan - 1, supervises := s.supervises.set i .done }
    else none
  | some .done | none => none

/-- One event; `none` when it is not enabled. -/
def step (s : Supervisor) : Event → Option Supervisor
  | .deferFlow => some { s with shouldWait := 1 }
  | .restoreFlow => some { s with restores := s.restores ++ [.isWaiting] }
  | .supervise => some { s with supervises := s.supervises ++ [.isWaiting] }
  | .restoreStep i => s.restoreStep i
  | .superviseStep i => s.superviseStep i

/-- An interleaving; `none` when one of its events is not enabled. -/
def run (s : Supervisor) (es : List Event) : Option Supervisor := es.foldlM step s

/-- `DeferFlow`, `RestoreFlow`, `DeferFlow`, `RestoreFlow` with no
`supervise` waiting: the second `RestoreFlow` holds `mu` and cannot send,
the channel being full. And after `DeferFlow`, `RestoreFlow`, `DeferFlow`,
a `supervise` that waits is released at once by the token the first
`RestoreFlow` left. -/
theorem restoreFlow_blocks_and_stale_token :
    ((new.run [.deferFlow, .restoreFlow, .restoreStep 0, .restoreStep 0, .restoreStep 0,
        .restoreStep 0, .restoreStep 0, .deferFlow, .restoreFlow, .restoreStep 1,
        .restoreStep 1, .restoreStep 1]).map
      fun s => (s.restores, s.unblockChan, s.mu, s.step (.restoreStep 1))) =
        some ([.done, .send], 1, true, none) ∧
    ((new.run [.deferFlow, .restoreFlow, .restoreStep 0, .restoreStep 0, .restoreStep 0,
        .restoreStep 0, .restoreStep 0, .deferFlow, .supervise, .superviseStep 0]).map
      fun s => (s.supervises, s.unblockChan)) = some ([.receive], 1) ∧
    ((new.run [.deferFlow, .restoreFlow, .restoreStep 0, .restoreStep 0, .restoreStep 0,
        .restoreStep 0, .restoreStep 0, .deferFlow, .supervise, .superviseStep 0,
        .superviseStep 0]).map
      fun s => (s.supervises, s.unblockChan)) = some ([.done], 0) := by
  decide

end Supervisor

end Host

end IrisWeb
