import IrisWeb.Context.Store
/-!
# The route trie — model

`core/router/trie.go`: the trie the router keeps per `(method, subdomain)`.
A node's `parent` and `children` pointers are not fields here. A node is
named by its *address*, the keys of the `children` maps on the way to it
from the root, nearest first: the child of `a` under `s` is `s :: a`, and
the parent of `s :: a` is `a`. The trie holds a partial map from addresses
to node records. `addChild` never replaces a child and sets `parent` only
there, so this map is the pointer graph the code builds.

Go strings are `String`s, and an index into one counts characters. The
characters the trie looks for (`/`, `:`, `*`) are ASCII, so on ASCII input
this is Go's byte indexing. A Go runtime panic (an index out of range, a
nil dereference) is `none`.
-/

namespace IrisWeb

namespace Router

open Context (RequestParams)

/-- `ParamStart`. -/
def paramStart : String := ":"

/-- `WildcardParamStart`. -/
def wildcardParamStart : String := "*"

/-- `pathSep`. -/
def pathSep : String := "/"

/-- `trieNode`, less its `parent` and `children` pointers, which the node's
address carries. `H` is the type of a handler. -/
structure TrieNode (H : Type) where
  hasDynamicChild : Bool := false
  childNamedParameter : Bool := false
  childWildcardParameter : Bool := false
  paramKeys : List String := []
  /-- `end`: a complete path stops here. -/
  isEnd : Bool := false
  key : String := ""
  staticKey : String := ""
  handlers : List H := []
  routeName : String := ""
deriving DecidableEq, Repr

/-- A node's address: the child keys from the root to it, nearest first.
The root is `[]`. -/
abbrev Addr := List String

/-- `trie`: its nodes by address. -/
structure Trie (H : Type) where
  nodes : Addr → Option (TrieNode H)
  hasRootWildcard : Bool := false
  hasRootSlash : Bool := false
  method : String := ""
  subdomain : String := ""

/-- `newTrie()`: a root and nothing under it. -/
def newTrie {H : Type} : Trie H where
  nodes a := if a = [] then some {} else none

/-- `slowPathSplit`: `"/"` is one segment, any other path is split at every
`/` and the part before the first one is dropped. -/
def slowPathSplit (path : String) : List String :=
  if path = pathSep then [pathSep] else ((path.data.splitOn '/').drop 1).map String.mk

/-- The static part of a path, as `insert` computes `n.staticKey`: up to the
first `:`, or where there is none up to the first `*`. -/
def staticKeyOf (path : String) : String :=
  if ':' ∈ path.data then ⟨path.data.takeWhile (· ≠ ':')⟩ else ⟨path.data.takeWhile (· ≠ '*')⟩

namespace Trie

variable {H : Type}

/-- The record of the node at `a`; a fresh `newTrieNode()` where there is
none. -/
def node (t : Trie H) (a : Addr) : TrieNode H := (t.nodes a).getD {}

/-- `getChild`: the child of `n` under the key `s`, or `nil`. -/
def getChild (t : Trie H) (n : Addr) (s : String) : Option Addr :=
  if (t.nodes (s :: n)).isSome then some (s :: n) else none

/-- `hasChild`. -/
def hasChild (t : Trie H) (n : Addr) (s : String) : Bool := (t.getChild n s).isSome

/-- An assignment to fields of the node at `a` through its pointer. -/
def update (t : Trie H) (a : Addr) (f : TrieNode H → TrieNode H) : Trie H :=
  { t with nodes := fun b => if b = a then (t.nodes a).map f else t.nodes b }

/-- `addChild(s, newTrieNode())` on `n`: a child that exists is kept. -/
def addChild (t : Trie H) (n : Addr) (s : String) : Trie H :=
  if t.hasChild n s then t
  else { t with nodes := fun b => if b = s :: n then some {} else t.nodes b }

/-- `findClosestParentWildcardNode`: the wildcard child of the nearest
proper ancestor that has one. The root's `parent` is `nil`. -/
def findClosestParentWildcardNode (t : Trie H) : Addr → Option Addr
  | [] => none
  | _ :: p =>
    if (t.node p).childWildcardParameter then t.getChild p wildcardParamStart
    else t.findClosestParentWildcardNode p

/-! ## Insertion -/

/-- One turn of `insert`'s loop, at node `n` for segment `s`. A named or
wildcard segment sets `n`'s dynamic flags (a wildcard at the root also the
trie's `hasRootWildcard`), records its name `s[1:]` and is stored under
the sentinel key. The walk moves to the child, created if missing. `none`
is the panic of `s[0]` on an empty segment. -/
def insertSegment (t : Trie H) (n : Addr) (s : String) :
    Option (Trie H × Addr × List String) :=
  match s.data with
  | [] => none
  | c :: rest =>
    let (t, s, paramKey) :=
      if c = ':' then
        (t.update n fun nd => { nd with hasDynamicChild := true, childNamedParameter := true },
          paramStart, [String.mk rest])
      else if c = '*' then
        let t := t.update n fun nd =>
          { nd with hasDynamicChild := true, childWildcardParameter := true }
        (if n = [] then { t with hasRootWildcard := true } else t, wildcardParamStart,
          [String.mk rest])
      else (t, s, [])
    let t := if t.hasChild n s then t else t.addChild n s
    some (t, s :: n, paramKey)

/-- `insert`'s loop over the segments, from node `n` with the parameter keys
recorded so far. -/
def insertLoop (t : Trie H) (n : Addr) (paramKeys : List String) :
    List String → Option (Trie H × Addr × List String)
  | [] => some (t, n, paramKeys)
  | s :: input => do
    let (t, n, keys) ← t.insertSegment n s
    t.insertLoop n (paramKeys ++ keys) input

/-- `trie.insert`: walk the segments, then mark the last node complete with
the route's name, handlers, parameter keys, path and static prefix. -/
def insert (t : Trie H) (path routeName : String) (handlers : List H) : Option (Trie H) := do
  let t := if path = pathSep then { t with hasRootSlash := true } else t
  let (t, n, paramKeys) ← t.insertLoop [] [] (slowPathSplit path)
  pure <| t.update n fun nd => { nd with
    routeName := routeName, handlers := handlers, paramKeys := paramKeys, key := path,
    isEnd := true, staticKey := staticKeyOf path }

/-! ## Search -/

/-- The step `search`'s loop takes at a segment boundary of node `a`. -/
inductive Move
  /-- A child under the segment itself. -/
  | literal (c : Addr)
  /-- Through the named child (`nil` if it is missing). -/
  | named (c : Option Addr)
  /-- Through the wildcard child (`nil` if it is missing). -/
  | wildcard (c : Option Addr)
  /-- None of the three. -/
  | deadEnd

/-- The order of `search`'s tests: literal, then named, then wildcard. -/
def move (t : Trie H) (a : Addr) (seg : String) : Move :=
  match t.getChild a seg with
  | some c => .literal c
  | none =>
    if (t.node a).childNamedParameter then .named (t.getChild a paramStart)
    else if (t.node a).childWildcardParameter then .wildcard (t.getChild a wildcardParamStart)
    else .deadEnd

/-- How `search`'s loop ends. -/
inductive Scan
  /-- By `break`: at the node reached, with the parameter values. -/
  | reached (n : Option Addr) (paramValues : List String)
  /-- By the dead-end `return`, with the back-off node. -/
  | backedOff (n : Option Addr)
  /-- By a nil dereference. -/
  | panicked

/-- `search`'s loop over `q[1:]`. `n` is the current node, `seg` the
characters `q[start:i]` of the current segment, `pvs` the parameter values
and the last argument `q[i:]`. A boundary is `q[i] == '/'` or the end. -/
def scan (t : Trie H) : Option Addr → List Char → List String → List Char → Scan
  | n, seg, pvs, [] =>
    match n with
    | none => .panicked
    | some a =>
      match t.move a ⟨seg⟩ with
      | .literal c => .reached (some c) pvs
      | .named c => .reached c (pvs ++ [⟨seg⟩])
      | .wildcard c => .reached c (pvs ++ [⟨seg⟩])
      | .deadEnd => .backedOff (t.findClosestParentWildcardNode a)
  | n, seg, pvs, c :: cs =>
    if c = '/' then
      match n with
      | none => .panicked
      | some a =>
        match t.move a ⟨seg⟩ with
        | .literal c' => t.scan (some c') [] pvs cs
        | .named c' => t.scan c' [] (pvs ++ [⟨seg⟩]) cs
        | .wildcard c' => .reached c' (pvs ++ [⟨seg ++ c :: cs⟩])
        | .deadEnd => .backedOff (t.findClosestParentWildcardNode a)
    else t.scan n (seg ++ [c]) pvs cs

/-- `params.Set(n.paramKeys[0], q[len(n.staticKey):])`, how both back-offs
bind the wildcard node `w`. `none` is the panic of an empty `paramKeys` or
of a static prefix longer than `q`. -/
def setWildcardParam (t : Trie H) (q : String) (params : RequestParams) (w : Addr) :
    Option (Option Addr × RequestParams) :=
  match (t.node w).paramKeys with
  | [] => none
  | k :: _ =>
    if (t.node w).staticKey.length ≤ q.length then
      some (some w, params.set k ⟨q.data.drop (t.node w).staticKey.length⟩)
    else none

/-- The last resort of `search`: the root wildcard takes `q[1:]`. -/
def rootWildcard (t : Trie H) (q : String) (params : RequestParams) :
    Option (Option Addr × RequestParams) :=
  if t.hasRootWildcard then
    match t.getChild [] wildcardParamStart with
    | none => none
    | some w =>
      match (t.node w).paramKeys with
      | [] => none
      | k :: _ => some (some w, params.set k ⟨q.data.drop 1⟩)
  else some (none, params)

/-- What `search` does after its loop breaks at `n`: a complete node binds
its parameter keys to the values in order; otherwise the back-off, then
the root wildcard. -/
def searchEnd (t : Trie H) (q : String) (params : RequestParams) :
    Option Addr → List String → Option (Option Addr × RequestParams)
  | some a, paramValues =>
    if (t.node a).isEnd then
      some (some a, ((t.node a).paramKeys.zip paramValues).foldl (fun ps kv => ps.set kv.1 kv.2) params)
    else
      match t.findClosestParentWildcardNode a with
      | some w => t.setWildcardParam q params w
      | none => t.rootWildcard q params
  | none, _ => t.rootWildcard q params

/-- `trie.search`: the node found for `q` (`nil` as `none`) and the
parameter store after the call; `none` is a panic. -/
def search (t : Trie H) (q : String) (params : RequestParams) :
    Option (Option Addr × RequestParams) :=
  if q.data = [] ∨ q.data = ['/'] then
    some (if t.hasRootSlash then t.getChild [] pathSep
      else if t.hasRootWildcard then t.getChild [] wildcardParamStart else none, params)
  else
    match t.scan (some []) [] [] (q.data.drop 1) with
    | .panicked => none
    | .backedOff none => some (none, params)
    | .backedOff (some w) => t.setWildcardParam q params w
    | .reached n paramValues => t.searchEnd q params n paramValues

/-- The back-off after a named segment: `/a/1/b/d` falls back to
`/a/:x/*rest`, whose first key `x` gets `q` from its static key `/a/` on;
`rest` gets nothing. -/
theorem search_backOff_binds_first_key :
    ((newTrie : Trie Nat).insert "/a/:x/*rest" "rest" [1] >>= fun t =>
        t.insert "/a/:x/b/c" "c" [2]).bind
      (fun t => (t.search "/a/1/b/d" {}).map fun r => (r.1.map fun a => (t.node a).key, r.2)) =
      some (some "/a/:x/*rest", ⟨[("x", "1/b/d")]⟩) := by
  decide

end Trie

end Router

end IrisWeb
