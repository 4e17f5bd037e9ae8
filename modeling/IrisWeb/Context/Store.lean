import Mathlib.Data.List.Basic
/-!
# Parameter and value stores — model

The context's path-parameter store `RequestParams` and its user-value
store, both over `memstore.Store`, whose source is not under src/. The
spec describes both as ordered key/value pairs with unique keys.
-/

namespace IrisWeb

namespace Context

/-- Modelled from the spec: `memstore.Store.Set` (and `SetImmutable`, which
`RequestParams.Set` calls). A key already present has its value replaced in
place; a new key is appended. -/
def storeSet {V : Type} : List (String × V) → String → V → List (String × V)
  | [], k, v => [(k, v)]
  | (k', v') :: rest, k, v => if k' = k then (k, v) :: rest else (k', v') :: storeSet rest k v

/-- Modelled from the spec: `context.RequestParams`, "a path-parameter
store (ordered key/value pairs, keys unique per request)". -/
structure RequestParams where
  store : List (String × String) := []
deriving DecidableEq, Repr

/-- Modelled from the spec: `RequestParams.Set`. -/
def RequestParams.set (ps : RequestParams) (k v : String) : RequestParams :=
  ⟨storeSet ps.store k v⟩

end Context

end IrisWeb
