import IrisWeb.Router.Model.Trie
/-!
# Routes — model

`core/router/route.go`: a registered route, the formatted path and
`ResolvePath`, the online/offline toggles and `BuildHandlers`. The parsed
template `tmpl` is not a field: nothing modelled here reads it. Paths are
handled as character lists, as in the trie.
-/

namespace IrisWeb

namespace Router

/-- `Route`, less its parsed template. `H` is the type of a handler. -/
structure Route (H : Type) where
  name : String
  method : String
  /-- `methodBckp`: the method before the last `ChangeMethod`. -/
  methodBckp : String
  subdomain : String
  beginHandlers : List H := []
  handlers : List H
  mainHandlerName : String := ""
  doneHandlers : List H := []
  path : String
  formattedPath : String
deriving DecidableEq, Repr

/-- The placeholder `formatPath` writes for a parameter. -/
def formatVerb : List Char := ['%', 'v']

/-- A part of the path as `formatPath` writes it: a named or wildcard part
is the placeholder. -/
def formatPart (part : List Char) : List Char :=
  if part.head? = some ':' ∨ part.head? = some '*' then formatVerb else part

/-- `formatPath`: a path with a `:` or a `*` is rewritten part by part, empty
parts dropped; any other path is returned as it is. -/
def formatPath (path : String) : String :=
  if ':' ∈ path.data ∨ '*' ∈ path.data then
    ⟨'/' :: ['/'].intercalate (((path.data.splitOn '/').filter (· ≠ [])).map formatPart)⟩
  else path

/-- `strings.Replace(s, "%v", new, 1)`: the first placeholder is replaced. -/
def replaceVerb : List Char → List Char → List Char
  | '%' :: 'v' :: rest, new => new ++ rest
  | c :: rest, new => c :: replaceVerb rest new
  | [], _ => []

/-- `fmt.Sprintf(format, arg)` on a format whose verbs are `%v`: the first
prints `arg`, any later one `%!v(MISSING)`, and an argument no verb took is
reported at the end. Other verbs are not modelled: a formatted path has
none unless a static part holds a `%`. -/
def sprintfVerb : List Char → Option (List Char) → List Char
  | '%' :: 'v' :: rest, some a => a ++ sprintfVerb rest none
  | '%' :: 'v' :: rest, none => "%!v(MISSING)".data ++ sprintfVerb rest none
  | c :: rest, a => c :: sprintfVerb rest a
  | [], some a => "%!(EXTRA string=".data ++ a ++ [')']
  | [], none => []

namespace Route

variable {H : Type}

/-- `Route.ResolvePath`. A path that differs from its formatted path and
ends in `*` gets all arguments joined by `/` in its placeholder; otherwise
each argument in turn replaces the first placeholder left. `none` is the
panic of `rpath[len(rpath)-1]` on an empty path. -/
def resolvePath (r : Route H) (args : List String) : Option String :=
  if r.path = r.formattedPath then some r.path
  else
    match r.path.data.getLast? with
    | none => none
    | some c =>
      if c = '*' then
        some ⟨sprintfVerb r.formattedPath.data (some (['/'].intercalate (args.map String.data)))⟩
      else some ⟨args.foldl (fun f s => replaceVerb f s.data) r.formattedPath.data⟩

/-- A wildcard route with a named wildcard: `/files/*file` does not end in
`*`, so `ResolvePath("a", "b")` takes the placeholder-by-placeholder branch,
and `"b"` is dropped. Fed back to a trie holding the route, the wildcard
binds `"a"`. -/
theorem resolvePath_named_wildcard :
    ({ name := "files", method := "GET", methodBckp := "GET", subdomain := "", handlers := [0],
        path := "/files/*file", formattedPath := formatPath "/files/*file" } :
        Route Nat).resolvePath ["a", "b"] = some "/files/a" ∧
      ((newTrie : Trie Nat).insert "/files/*file" "files" [0]).bind
          (fun t => (t.search "/files/a" {}).map fun r => (r.1.map fun a => (t.node a).key, r.2)) =
        some (some "/files/*file", ⟨[("file", "a")]⟩) := by
  decide

/-- `Route.ChangeMethod`: a different method is taken, and the old one kept
in `methodBckp`. -/
def changeMethod (r : Route H) (newMethod : String) : Bool × Route H :=
  if newMethod ≠ r.method then (true, { r with methodBckp := r.method, method := newMethod })
  else (false, r)

/-- `Route.SetStatusOffline`. `MethodNone`, the sentinel method of an
offline route, is declared outside src/ and is a parameter here. -/
def setStatusOffline (methodNone : String) (r : Route H) : Bool × Route H :=
  r.changeMethod methodNone

/-- `Route.RestoreStatus`. -/
def restoreStatus (r : Route H) : Bool × Route H := r.changeMethod r.methodBckp

/-- `Route.IsOnline`. -/
def isOnline (methodNone : String) (r : Route H) : Bool := r.method ≠ methodNone

/-- `GET /users` as `NewRoute` makes it, with the `MethodNone` of iris,
`"NONE"`: `SetStatusOffline` and `RestoreStatus` bring it back online with
`MethodNone` as its backup, so a second `RestoreStatus` takes it offline. -/
theorem restoreStatus_twice_takes_route_offline :
    let r : Route Nat :=
      { name := "users", method := "GET", methodBckp := "GET", subdomain := "", handlers := [0],
        path := "/users", formattedPath := "/users" }
    let restored := (r.setStatusOffline "NONE").2.restoreStatus.2
    restored.isOnline "NONE" = true ∧ restored.methodBckp = "NONE" ∧
      restored.restoreStatus.2.isOnline "NONE" = false := by
  decide

/-! ## Runs of status changes -/

/-- A status change of a registered route. -/
inductive StatusChange
  | changeMethod (m : String)
  | setStatusOffline
  | restoreStatus
deriving DecidableEq, Repr

/-- One status change. -/
def StatusChange.apply (methodNone : String) (r : Route H) : StatusChange → Route H
  | .changeMethod m => (r.changeMethod m).2
  | .setStatusOffline => (r.setStatusOffline methodNone).2
  | .restoreStatus => r.restoreStatus.2

/-- What every run keeps: the method and its backup are not both
`MethodNone`. -/
def StatusInv (methodNone : String) (r : Route H) : Prop :=
  r.method ≠ methodNone ∨ r.methodBckp ≠ methodNone

theorem changeMethod_statusInv {methodNone m : String} {r : Route H} (h : StatusInv methodNone r)
    (hm : m ≠ r.method → m ≠ methodNone ∨ r.method ≠ methodNone) :
    StatusInv methodNone (r.changeMethod m).2 := by
  unfold changeMethod
  split_ifs with hne
  · exact hm hne
  · exact h

/-- **One status change keeps the invariant**, unless it is a
`ChangeMethod(MethodNone)`. -/
theorem StatusChange.apply_statusInv {methodNone : String} {r : Route H}
    (h : StatusInv methodNone r) {c : StatusChange} (hc : c ≠ .changeMethod methodNone) :
    StatusInv methodNone (c.apply methodNone r) := by
  cases c with
  | changeMethod m => exact changeMethod_statusInv h fun _ => .inl fun hm => hc (hm ▸ rfl)
  | setStatusOffline => exact changeMethod_statusInv h fun hne => .inr (Ne.symm hne)
  | restoreStatus =>
    refine changeMethod_statusInv h fun hne => (em (r.methodBckp = methodNone)).elim (fun hb => .inr ?_) .inl
    rw [← hb]
    exact Ne.symm hne

theorem statusInv_run {methodNone : String} (cs : List StatusChange)
    (hcs : StatusChange.changeMethod methodNone ∉ cs) {r : Route H} (h : StatusInv methodNone r) :
    StatusInv methodNone (cs.foldl (StatusChange.apply methodNone) r) := by
  induction cs generalizing r with
  | nil => exact h
  | cons c cs ih =>
    simp only [List.mem_cons, not_or] at hcs
    exact ih hcs.2 (StatusChange.apply_statusInv h (Ne.symm hcs.1))

/-- **`RestoreStatus` brings an offline route back online**, after any run
of status changes from an online route in which no `ChangeMethod` names
`MethodNone`. Right after a `SetStatusOffline` that took an online route
offline, it restores the method in force before. -/
theorem restoreStatus_brings_online (methodNone : String) (r : Route H) (hr : r.method ≠ methodNone)
    (cs : List StatusChange) (hcs : StatusChange.changeMethod methodNone ∉ cs) :
    let r' := cs.foldl (StatusChange.apply methodNone) r
    (r'.isOnline methodNone = false → r'.restoreStatus.2.isOnline methodNone = true) ∧
      (r'.isOnline methodNone = true →
        ((r'.setStatusOffline methodNone).2.restoreStatus.2).method = r'.method) := by
  intro r'
  have hinv : StatusInv methodNone r' := statusInv_run cs hcs (.inl hr)
  constructor
  · intro hoff
    have hm : r'.method = methodNone := by simpa [isOnline] using hoff
    have hb : r'.methodBckp ≠ methodNone := hinv.resolve_left (not_not.mpr hm)
    simp [isOnline, restoreStatus, changeMethod, hm, hb]
  · intro hon
    have hm : r'.method ≠ methodNone := by simpa [isOnline] using hon
    simp [setStatusOffline, restoreStatus, changeMethod, Ne.symm hm, hm]

/-- The route `GET /users` after `SetStatusOffline`, `RestoreStatus`,
`RestoreStatus`, which leave it offline: one more `RestoreStatus` brings it
back. -/
theorem restoreStatus_brings_online_users :
    let r : Route Nat :=
      { name := "users", method := "GET", methodBckp := "GET", subdomain := "", handlers := [0],
        path := "/users", formattedPath := "/users" }
    let cs := [StatusChange.setStatusOffline, .restoreStatus, .restoreStatus]
    r.method ≠ "NONE" ∧ StatusChange.changeMethod "NONE" ∉ cs ∧
      let r' := cs.foldl (StatusChange.apply "NONE") r
      (r'.isOnline "NONE" = false → r'.restoreStatus.2.isOnline "NONE" = true) ∧
        (r'.isOnline "NONE" = true →
          ((r'.setStatusOffline "NONE").2.restoreStatus.2).method = r'.method) :=
  by
  intro r cs
  exact ⟨by decide, by decide, restoreStatus_brings_online "NONE" r (by decide) cs (by decide)⟩

/-- `Route.use`: begin handlers are appended. -/
def use (r : Route H) (hs : List H) : Route H :=
  if hs.isEmpty then r else { r with beginHandlers := r.beginHandlers ++ hs }

/-- `Route.done`: done handlers are appended. -/
def done (r : Route H) (hs : List H) : Route H :=
  if hs.isEmpty then r else { r with doneHandlers := r.doneHandlers ++ hs }

/-- `Route.BuildHandlers`: begin handlers go before the main ones and done
handlers after them, and both temporary lists are emptied. -/
def buildHandlers (r : Route H) : Route H :=
  let r := if !r.beginHandlers.isEmpty then
    { r with handlers := r.beginHandlers ++ r.handlers, beginHandlers := [] } else r
  if !r.doneHandlers.isEmpty then
    { r with handlers := r.handlers ++ r.doneHandlers, doneHandlers := [] } else r

@[simp] theorem buildHandlers_handlers (r : Route H) :
    r.buildHandlers.handlers = r.beginHandlers ++ r.handlers ++ r.doneHandlers := by
  obtain ⟨_, _, _, _, _ | ⟨b, bs⟩, _, _, _ | ⟨d, ds⟩, _, _⟩ := r <;> simp [buildHandlers]

@[simp] theorem buildHandlers_method (r : Route H) : r.buildHandlers.method = r.method := by
  simp only [buildHandlers]; split_ifs <;> rfl

@[simp] theorem buildHandlers_subdomain (r : Route H) : r.buildHandlers.subdomain = r.subdomain := by
  simp only [buildHandlers]; split_ifs <;> rfl

end Route

end Router

end IrisWeb
