import IrisWeb.Router.Model.Trie
/-!
# The route trie — what an insertion does

`insert` walks from the root and writes to the nodes it passes. This file
states that write *pointwise*: what a node holds after the insertion of a
route depends only on what it held before and on its address
(`Entry.effect`). A run of insertions is then a fold at every address
(`insertAll_eq`), which the order and static-route results read.

The segments of a path must be non-empty (`SegmentsNonempty`), or `s[0]`
panics; the router's callers only insert cleaned paths, which have none.
-/

namespace IrisWeb

namespace Router

variable {H : Type}

/-- The key a segment is stored under in its parent's `children`: the
sentinel `:` for a named parameter, `*` for a wildcard, the segment itself
otherwise. -/
def segmentKey (s : String) : String :=
  match s.data with
  | ':' :: _ => paramStart
  | '*' :: _ => wildcardParamStart
  | _ => s

/-- The parameter name a segment declares, `s[1:]`, if it declares one. -/
def paramKeyOf (s : String) : List String :=
  match s.data with
  | ':' :: rest => [⟨rest⟩]
  | '*' :: rest => [⟨rest⟩]
  | _ => []

/-- The keys of the nodes on the way to a path's complete node. -/
def pathKeys (path : String) : List String := (slowPathSplit path).map segmentKey

/-- The parameter keys `insert` records for a path. -/
def paramNames (path : String) : List String := (slowPathSplit path).flatMap paramKeyOf

/-- No segment is empty, so `insert` does not panic on `s[0]`. -/
def SegmentsNonempty (path : String) : Prop := ∀ s ∈ slowPathSplit path, s.data ≠ []

/-- The arguments of one `trie.insert` call. -/
structure Entry (H : Type) where
  path : String
  routeName : String
  handlers : List H

/-- The flags a child under key `k` sets on its parent. -/
def setFlags (k : String) (nd : TrieNode H) : TrieNode H :=
  if k = paramStart then { nd with hasDynamicChild := true, childNamedParameter := true }
  else if k = wildcardParamStart then
    { nd with hasDynamicChild := true, childWildcardParameter := true }
  else nd

/-- What `insert` writes at the complete node of an entry. -/
def Entry.complete (r : Entry H) (nd : TrieNode H) : TrieNode H :=
  { nd with
    routeName := r.routeName
    handlers := r.handlers
    paramKeys := paramNames r.path
    key := r.path
    isEnd := true
    staticKey := staticKeyOf r.path }

/-- One turn of the walk, at address `b`: the parent `n` gets its flags and
the child `k :: n` is created if missing. -/
def stepAt (k : String) (n b : Addr) (o : Option (TrieNode H)) : Option (TrieNode H) :=
  if b = n then o.map (setFlags k) else if b = k :: n then some (o.getD {}) else o

/-- The whole walk for keys `ks` from node `n`, at address `b`. -/
def walkAt : List String → Addr → Addr → Option (TrieNode H) → Option (TrieNode H)
  | [], _, _, o => o
  | k :: ks, n, b, o => walkAt ks (k :: n) b (stepAt k n b o)

/-- **What one insertion does at address `b`**: the walk, then the complete
node's data. -/
def Entry.effect (r : Entry H) (b : Addr) (o : Option (TrieNode H)) : Option (TrieNode H) :=
  let o := walkAt (pathKeys r.path) [] b o
  if b = (pathKeys r.path).reverse then o.map r.complete else o

/-- Whether a path's first key is the wildcard, so that `insert` sets
`hasRootWildcard`. -/
def rootWildcardOf (path : String) : Bool := (pathKeys path).head? == some wildcardParamStart

namespace Trie

/-- A run of `insert` calls; the first panic ends it. -/
def insertAll (t : Trie H) (rs : List (Entry H)) : Option (Trie H) :=
  rs.foldlM (fun t r => t.insert r.path r.routeName r.handlers) t

/-- The trie a run of insertions leaves, address by address. -/
def inserted (t : Trie H) (rs : List (Entry H)) : Trie H :=
  { t with
    nodes := fun b => rs.foldl (fun o r => r.effect b o) (t.nodes b)
    hasRootSlash := t.hasRootSlash || rs.any fun r => r.path = pathSep
    hasRootWildcard := t.hasRootWildcard || rs.any fun r => rootWildcardOf r.path }

attribute [ext] Trie

@[simp] theorem update_nodes (t : Trie H) (a : Addr) (f : TrieNode H → TrieNode H) (b : Addr) :
    (t.update a f).nodes b = if b = a then (t.nodes a).map f else t.nodes b := rfl

@[simp] theorem update_hasRootWildcard (t : Trie H) (a : Addr) (f : TrieNode H → TrieNode H) :
    (t.update a f).hasRootWildcard = t.hasRootWildcard := rfl

@[simp] theorem update_hasRootSlash (t : Trie H) (a : Addr) (f : TrieNode H → TrieNode H) :
    (t.update a f).hasRootSlash = t.hasRootSlash := rfl

@[simp] theorem update_method (t : Trie H) (a : Addr) (f : TrieNode H → TrieNode H) :
    (t.update a f).method = t.method := rfl

@[simp] theorem update_subdomain (t : Trie H) (a : Addr) (f : TrieNode H → TrieNode H) :
    (t.update a f).subdomain = t.subdomain := rfl

theorem hasChild_eq (t : Trie H) (n : Addr) (s : String) :
    t.hasChild n s = (t.nodes (s :: n)).isSome := by
  unfold hasChild getChild
  split <;> simp_all

/-- Creating a child where it is missing is `getD {}` at the child's
address. -/
theorem ensureChild_nodes (t : Trie H) (n : Addr) (s : String) :
    (if t.hasChild n s then t else t.addChild n s) =
      { t with nodes := fun b => if b = s :: n then some ((t.nodes (s :: n)).getD {}) else t.nodes b } := by
  ext b <;> simp only [addChild, hasChild_eq]
  · cases h : t.nodes (s :: n) <;> by_cases hb : b = s :: n <;> simp_all
  all_goals split <;> rfl

/-- **One turn of the loop, pointwise.** A segment writes its flags at
`n` and creates its child; `hasRootWildcard` is set by a wildcard at the
root. -/
theorem insertSegment_eq (t : Trie H) (n : Addr) (s : String) (hs : s.data ≠ []) :
    t.insertSegment n s = some ({ t with
      nodes := fun b => stepAt (segmentKey s) n b (t.nodes b)
      hasRootWildcard := t.hasRootWildcard || (n == [] && segmentKey s == wildcardParamStart) },
      segmentKey s :: n, paramKeyOf s) := by
  obtain ⟨c, rest, hcs⟩ : ∃ c rest, s.data = c :: rest := List.exists_cons_of_ne_nil hs
  have hstep : ∀ k (f : TrieNode H → TrieNode H) (b : Addr), f = setFlags k →
      (if b = k :: n then some (((t.update n f).nodes (k :: n)).getD {}) else (t.update n f).nodes b) =
        stepAt k n b (t.nodes b) := by
    rintro k f b rfl
    by_cases hb : b = k :: n
    · subst hb; simp [stepAt, List.cons_ne_self]
    · by_cases hn : b = n <;> simp [stepAt, hb, hn]
  by_cases h1 : c = ':'
  · subst h1
    simp only [insertSegment, hcs, ensureChild_nodes, segmentKey, paramKeyOf, if_true, Option.some.injEq, Prod.mk.injEq, and_true]
    refine Trie.ext (funext fun b => hstep _ _ _ (by funext nd; simp [setFlags])) ?_ rfl rfl rfl
    simp [paramStart, wildcardParamStart]
  by_cases h2 : c = '*'
  · subst h2
    simp only [insertSegment, hcs, ensureChild_nodes, segmentKey, paramKeyOf, if_true, h1, if_false, Option.some.injEq, Prod.mk.injEq, and_true]
    by_cases hn : n = []
    · subst hn
      simp only [if_true]
      refine Trie.ext (funext fun b => hstep _ _ _ (by funext nd; simp [setFlags, paramStart, wildcardParamStart])) ?_ rfl rfl rfl
      simp
    · simp only [hn, if_false]
      refine Trie.ext (funext fun b => hstep _ _ _ (by funext nd; simp [setFlags, paramStart, wildcardParamStart])) ?_ rfl rfl rfl
      simp [hn]
  · have hk : segmentKey s = s := by simp [segmentKey, hcs, h1, h2]
    simp only [insertSegment, hcs, ensureChild_nodes, paramKeyOf, h1, h2, if_false, hk, Option.some.injEq, Prod.mk.injEq, and_true]
    have hs1 : s ≠ paramStart := fun h => h1 (by simp [h, paramStart] at hcs; exact hcs.1.symm)
    have hs2 : s ≠ wildcardParamStart := fun h => h2 (by simp [h, wildcardParamStart] at hcs; exact hcs.1.symm)
    refine ⟨Trie.ext (funext fun b => ?_) (by simp [hs2]) rfl rfl rfl, trivial, by split <;> simp_all⟩
    by_cases hb : b = s :: n
    · subst hb; simp [stepAt, List.cons_ne_self]
    · have hflag : setFlags s = (id : TrieNode H → TrieNode H) := by
        funext nd; simp [setFlags, hs1, hs2]
      by_cases hn : b = n <;> simp [stepAt, hb, hn, hflag]

/-- **The insertion loop, pointwise**: the walk for the segments' keys,
ending at the node those keys lead to. -/
theorem insertLoop_eq (t : Trie H) (n : Addr) (pk ss : List String)
    (hs : ∀ s ∈ ss, s.data ≠ []) :
    t.insertLoop n pk ss = some ({ t with
      nodes := fun b => walkAt (ss.map segmentKey) n b (t.nodes b)
      hasRootWildcard := t.hasRootWildcard ||
        (n == [] && (ss.map segmentKey).head? == some wildcardParamStart) },
      (ss.map segmentKey).reverse ++ n, pk ++ ss.flatMap paramKeyOf) := by
  induction ss generalizing t n pk with
  | nil => simp [insertLoop, walkAt]
  | cons s ss ih =>
    simp only [insertLoop, insertSegment_eq t n s (hs s (List.mem_cons_self _ _)), Option.bind_eq_bind,
      Option.some_bind, ih _ _ _ (fun s' h => hs s' (List.mem_cons_of_mem _ h))]
    simp [walkAt, Bool.or_assoc]

/-- **An insertion, pointwise.** -/
theorem insert_eq (t : Trie H) (r : Entry H) (hr : SegmentsNonempty r.path) :
    t.insert r.path r.routeName r.handlers = some ({ t with
      nodes := fun b => r.effect b (t.nodes b)
      hasRootSlash := t.hasRootSlash || r.path = pathSep
      hasRootWildcard := t.hasRootWildcard || rootWildcardOf r.path }) := by
  simp only [insert, insertLoop_eq _ [] [] _ hr, Option.bind_eq_bind, Option.some_bind, pure]
  refine congrArg some (Trie.ext (funext fun b => ?_) ?_ ?_ ?_ ?_)
  · simp only [update_nodes, Entry.effect, pathKeys, List.append_nil]
    split_ifs <;> subst_vars <;> rfl
  all_goals by_cases hp : r.path = pathSep <;> simp [rootWildcardOf, pathKeys, hp]

/-- **A run of insertions is a fold at every address.** -/
theorem insertAll_eq (t : Trie H) (rs : List (Entry H)) (hrs : ∀ r ∈ rs, SegmentsNonempty r.path) :
    t.insertAll rs = some (t.inserted rs) := by
  induction rs generalizing t with
  | nil => simp [insertAll, inserted]
  | cons r rs ih =>
    simp only [insertAll, List.foldlM_cons, insert_eq t r (hrs r (List.mem_cons_self _ _)),
      Option.bind_eq_bind, Option.some_bind]
    rw [← insertAll, ih _ (fun r' h => hrs r' (List.mem_cons_of_mem _ h))]
    simp [inserted, Bool.or_assoc]

/-! An insertion keeps the trie's method and subdomain, whatever the path. -/

theorem insertSegment_keys {t t' : Trie H} {n n' : Addr} {s : String} {ks : List String}
    (h : t.insertSegment n s = some (t', n', ks)) :
    t'.method = t.method ∧ t'.subdomain = t.subdomain := by
  simp only [insertSegment] at h
  split at h
  · cases h
  · split_ifs at h <;> (simp only [Option.some.injEq, Prod.mk.injEq] at h; obtain ⟨rfl, -, -⟩ := h) <;>
      simp [addChild] <;> split <;> simp

theorem insertLoop_keys {t t' : Trie H} {n n' : Addr} {pk pk' ss : List String}
    (h : t.insertLoop n pk ss = some (t', n', pk')) :
    t'.method = t.method ∧ t'.subdomain = t.subdomain := by
  induction ss generalizing t n pk with
  | nil => cases h; exact ⟨rfl, rfl⟩
  | cons s ss ih =>
    obtain ⟨⟨t1, n1, k1⟩, h1, h2⟩ := Option.bind_eq_some.mp h
    obtain ⟨e1, e2⟩ := insertSegment_keys h1
    obtain ⟨e3, e4⟩ := ih h2
    exact ⟨e3.trans e1, e4.trans e2⟩

theorem insert_keys {t t' : Trie H} {path routeName : String} {hs : List H}
    (h : t.insert path routeName hs = some t') :
    t'.method = t.method ∧ t'.subdomain = t.subdomain := by
  obtain ⟨⟨t1, n1, k1⟩, h1, h2⟩ := Option.bind_eq_some.mp h
  cases h2
  have := insertLoop_keys h1
  split_ifs at this <;> exact this

end Trie

end Router

end IrisWeb
