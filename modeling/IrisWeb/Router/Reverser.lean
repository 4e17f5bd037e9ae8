import IrisWeb.Router.CleanPath
import IrisWeb.Router.Handler
/-!
# Subdomains of party paths, and the path reverser

`core/router/handler_execution_rules.go`, its other half: `hasSubdomain` and
`splitSubdomainAndPath`, which read a subdomain off the front of a party
path, and `RoutePathReverser`, whose `Path` and `URL` resolve a named
route with the arguments `toStringSlice` makes of its parameters.

**`toStringSlice` fills one slot per argument and appends the rest.** It
makes a slice of one empty slot per argument; a string, int or bool fills
its slot, a `[]string` its first element, and the other elements of a
`[]string` are appended after all the slots (`toStringSlice_eq`). So a
`[]string` of two or more elements is not flattened in place, and an empty
one leaves its slot empty (`path_moves_slice_tail_to_end`).

**`splitSubdomainAndPath` cuts at the first `/`, and panics without one.**
`strings.IndexByte` gives `-1` for a path without a `/`, and `s[0:-1]`
panics; `hasSubdomain` accepts such a path when it ends in `.`
(`splitSubdomainAndPath_panics_without_slash`).

Go indexes bytes and the model characters. The cut is at the first `/`,
one byte, and the tests compare ASCII bytes at either end of the path, so
the two agree.
-/

namespace IrisWeb

namespace Router

/-! ## Subdomain and path -/

/-- `SubdomainPrefix`. -/
def subdomainPrefix : String := "./"

/-- `strings.IndexByte(s, c)`: `-1` when `c` is absent. -/
def indexByte (s : List Char) (c : Char) : Int :=
  match s.indexOf? c with
  | some i => i
  | none => -1

/-- `hasSubdomain(s)`. -/
def hasSubdomain (s : String) : Bool :=
  if s = "" then false
  else
    let slashIdx := indexByte s.data '/'
    slashIdx > 0 || s.data.head? = subdomainPrefix.data.head? ||
      (s.length ≥ 2 && s.data.take 2 = subdomainWildcardIndicator.data) ||
      (s.length ≥ 2 && slashIdx ≠ 0 && s.data.getLast? = some '.')

/-- `splitSubdomainAndPath(fullUnparsedPath)`: `none` is the panic of
`s[0:slashIdx]` at `slashIdx = -1`. -/
def splitSubdomainAndPath (fullUnparsedPath : String) : Option (String × String) :=
  let s := fullUnparsedPath
  if s = "" ∨ s = "/" then some ("", "/")
  else
    let slashIdx := indexByte s.data '/'
    if slashIdx = 0 then (cleanPath s).map fun path => ("", path)
    else if slashIdx < 0 then none
    else do
      let subdomain ← sliceTo s.data slashIdx.toNat
      let rest ← sliceFrom s.data slashIdx.toNat
      let path ← cleanPath ⟨rest⟩
      some (⟨subdomain⟩, path)

/-- `admin.`, a party path `hasSubdomain` accepts by its trailing `.`, has
no `/`: `IndexByte` is `-1`, and `splitSubdomainAndPath` panics. -/
theorem splitSubdomainAndPath_panics_without_slash :
    hasSubdomain "admin." = true ∧ splitSubdomainAndPath "admin." = none := by
  decide

/-! ## The path reverser -/

/-- A parameter of `Path` or `URL`, by its dynamic type: the four that
`toStringSlice` converts, and any other. -/
inductive Arg
  | string (s : String)
  | int (n : Int)
  | bool (b : Bool)
  | strings (arr : List String)
  | other
deriving DecidableEq, Repr

/-- `strconv.Itoa`. -/
def itoa (n : Int) : String := toString n

/-- `strconv.FormatBool`. -/
def formatBool (b : Bool) : String := if b then "true" else "false"

/-- One turn of the loop of `toStringSlice`, at argument `v` of index `i`. -/
def toStringSliceTurn (argsString : List String) (i : Nat) : Arg → List String
  | .string s => argsString.set i s
  | .int num => argsString.set i (itoa num)
  | .bool b => argsString.set i (formatBool b)
  | .strings arr =>
    match arr with
    | [] => argsString
    | a :: rest => argsString.set i a ++ rest
  | .other => argsString

/-- The loop of `toStringSlice`, from index `i` over the arguments left. -/
def toStringSliceLoop (argsString : List String) (i : Nat) : List Arg → List String
  | [] => argsString
  | v :: vs => toStringSliceLoop (toStringSliceTurn argsString i v) (i + 1) vs

/-- `toStringSlice(args)`: one empty slot per argument, then the loop. -/
def toStringSlice (args : List Arg) : List String :=
  toStringSliceLoop (List.replicate args.length "") 0 args

/-- The string an argument puts in its own slot. -/
def Arg.slot : Arg → String
  | .string s => s
  | .int n => itoa n
  | .bool b => formatBool b
  | .strings (a :: _) => a
  | .strings [] => ""
  | .other => ""

/-- The strings an argument appends after the slots. -/
def Arg.tail : Arg → List String
  | .strings (_ :: rest) => rest
  | _ => []

theorem toStringSliceTurn_eq (done extras : List String) (n : Nat) (v : Arg) :
    toStringSliceTurn (done ++ "" :: (List.replicate n "" ++ extras)) done.length v =
      (done ++ [v.slot]) ++ (List.replicate n "" ++ (extras ++ v.tail)) := by
  cases v with
  | strings arr => cases arr <;> simp [toStringSliceTurn, Arg.slot, Arg.tail, List.set_append_right]
  | _ => simp [toStringSliceTurn, Arg.slot, Arg.tail, List.set_append_right]

theorem toStringSliceLoop_eq (args : List Arg) (done extras : List String) :
    toStringSliceLoop (done ++ (List.replicate args.length "" ++ extras)) done.length args =
      done ++ args.map Arg.slot ++ extras ++ (args.map Arg.tail).flatten := by
  induction args generalizing done extras with
  | nil => simp [toStringSliceLoop]
  | cons v vs ih =>
    have hlen : done.length + 1 = (done ++ [v.slot]).length := by simp
    simp only [List.length_cons, List.replicate_succ, List.cons_append, toStringSliceLoop,
      toStringSliceTurn_eq, hlen, ih]
    simp

/-- **What `toStringSlice` returns**: each argument's slot in argument
order, then the appended elements of every `[]string` after the first, in
argument order. -/
theorem toStringSlice_eq (args : List Arg) :
    toStringSlice args = args.map Arg.slot ++ (args.map Arg.tail).flatten := by
  simpa using toStringSliceLoop_eq args [] []

/-- The arguments' string forms in order, every element of a `[]string` in
its place, and the empty string the code leaves for an argument of another
type. -/
def flattenArgs (args : List Arg) : List String :=
  args.flatMap fun
    | .strings arr => arr
    | v => [v.slot]

/-- `RoutePathReverser`: its provider's `GetRoute`, and `vhost` and
`vscheme`, empty unless an option set them. -/
structure RoutePathReverser (H : Type) where
  getRoute : String → Option (Route H)
  vhost : String := ""
  vscheme : String := ""

namespace RoutePathReverser

variable {H : Type}

/-- `ps.Path(routeName, paramValues...)`; `none` is the panic of
`ResolvePath` on an empty path. -/
def path (ps : RoutePathReverser H) (routeName : String) (paramValues : List Arg) :
    Option String :=
  match ps.getRoute routeName with
  | none => some ""
  | some r => if paramValues.isEmpty then some r.path else r.resolvePath (toStringSlice paramValues)

/-- `ps.URL(routeName, paramValues...)`: on a route of the wildcard
subdomain the first argument is the subdomain. -/
def url (ps : RoutePathReverser H) (routeName : String) (paramValues : List Arg) :
    Option String :=
  if ps.vhost = "" ∨ ps.vscheme = "" then some "not supported"
  else
    match ps.getRoute routeName with
    | none => some ""
    | some r =>
      let (host, args) :=
        match toStringSlice paramValues with
        | subdomain :: rest =>
          if r.subdomain = subdomainWildcardIndicator then (subdomain ++ "." ++ ps.vhost, rest)
          else (ps.vhost, subdomain :: rest)
        | [] => (ps.vhost, [])
      (r.resolvePath args).map fun parsedPath =>
        if parsedPath ≠ "" then ps.vscheme ++ "://" ++ host ++ parsedPath else ""

end RoutePathReverser

/-- `Path(name, []string{"1", "2"}, "3")` on `/a/:x/:y/:z`: the slice's
second element goes after `"3"`, so the route resolves to `/a/1/3/2`, where
the arguments in order give `/a/1/2/3`. -/
theorem path_moves_slice_tail_to_end :
    let r : Route Nat :=
      { name := "a", method := "GET", methodBckp := "GET", subdomain := "", handlers := [0],
        path := "/a/:x/:y/:z", formattedPath := formatPath "/a/:x/:y/:z" }
    let ps : RoutePathReverser Nat := { getRoute := fun _ => some r }
    let args := [Arg.strings ["1", "2"], .string "3"]
    toStringSlice args = ["1", "3", "2"] ∧ flattenArgs args = ["1", "2", "3"] ∧
      ps.path "a" args = some "/a/1/3/2" ∧ r.resolvePath (flattenArgs args) = some "/a/1/2/3" := by
  decide

end Router

end IrisWeb
