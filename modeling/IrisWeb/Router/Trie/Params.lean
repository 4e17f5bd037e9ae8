import IrisWeb.Router.Trie.Refinement
/-!
# The route trie — the parameters a search binds

`search` collects a value at every named key its walk takes and, at a
wildcard key, the rest of the request; at a complete node it binds the
node's parameter keys to them in order. Over the routes alone, the values
are `paramValues` of the route's keys and the request's segments
(`descend_inserted_values`), and so a search that ends at the complete node
of route `r` binds `r`'s parameter names to them (`search_binds_params`).

**A request segment equal to a key is read literally.** Where a request
segment is `:` at a named key, or `*` at a wildcard key, the trie's step
takes the child under the segment itself, and no value is collected there:
the later values shift one name to the left.
-/

namespace IrisWeb

namespace Router

open Context (RequestParams)

variable {H : Type}

/-- The values a walk along route keys `ks` collects from request segments:
a segment at a named key, the segments from a wildcard key on, joined by
`/`, and nothing where the key is the segment itself. -/
def paramValues : List String → List String → List String
  | k :: ks, s :: ss =>
    if k = s then paramValues ks ss
    else if k = paramStart then s :: paramValues ks ss
    else if k = wildcardParamStart then [⟨['/'].intercalate ((s :: ss).map String.data)⟩]
    else paramValues ks ss
  | _, _ => []

section Walk

variable (rs : List (Entry H))

/-- **The trie's loop collects `paramValues`.** Where the greedy walk
reaches a node, `descend` reaches it with the values of the walk's keys
appended to those it had. -/
theorem descend_inserted_values : ∀ (rest : List (List Char)) (a : Addr) (pvs : List String)
    (seg : List Char) (c : Addr), greedyWalk rs a (⟨seg⟩ :: rest.map String.mk) = .inl c →
    ∃ ks, c = ks.reverse ++ a ∧ ((newTrie : Trie H).inserted rs).descend (some a) pvs seg rest =
      .reached (some c) (pvs ++ paramValues ks (⟨seg⟩ :: rest.map String.mk))
  | rest, a, pvs, seg, c, h => by
    cases hk : greedyKey rs a ⟨seg⟩ with
    | none => cases rest <;> simp [greedyWalk, hk] at h
    | some k =>
      have hk' : k = ⟨seg⟩ ∨ k = paramStart ∨ k = wildcardParamStart := by
        simpa using List.mem_of_find?_eq_some hk
      by_cases h1 : k = ⟨seg⟩
      · -- the literal key: nothing is collected
        subst h1
        cases rest with
        | nil =>
          simp only [List.map_nil, greedyWalk, hk, ne_eq, not_true_eq_false, false_and, if_false,
            Sum.inl.injEq] at h
          subst h
          refine ⟨[⟨seg⟩], rfl, ?_⟩
          simp [Trie.descend, inserted_move_greedyKey, hk, paramValues]
        | cons next rest =>
          simp only [List.map_cons, greedyWalk, hk, ne_eq, not_true_eq_false, false_and,
            if_false] at h
          obtain ⟨ks, rfl, hd⟩ := descend_inserted_values rest (⟨seg⟩ :: a) pvs next c h
          refine ⟨⟨seg⟩ :: ks, by simp, ?_⟩
          simp [Trie.descend, inserted_move_greedyKey, hk, hd, paramValues]
      · by_cases h2 : k = wildcardParamStart
        · -- the wildcard key: the rest of the request is one value
          subst h2
          have hw : greedyWalk rs a (⟨seg⟩ :: rest.map String.mk) = .inl (wildcardParamStart :: a) := by
            cases rest <;> simp [greedyWalk, hk, h1]
          rw [hw, Sum.inl.injEq] at h
          subst h
          refine ⟨[wildcardParamStart], rfl, ?_⟩
          have hne : wildcardParamStart ≠ paramStart := by decide
          cases rest with
          | nil => simp [Trie.descend, inserted_move_greedyKey, hk, h1, paramValues, hne, List.intercalate]
          | cons next rest =>
            simp [Trie.descend, inserted_move_greedyKey, hk, h1, paramValues, hne,
              intercalate_cons_cons, Function.comp_def]
        · -- the named key: the segment is collected
          have h3 : k = paramStart := by tauto
          subst h3
          cases rest with
          | nil =>
            simp only [List.map_nil, greedyWalk, hk, ne_eq, h1, not_false_eq_true, h2, and_false,
              if_false, Sum.inl.injEq] at h
            subst h
            refine ⟨[paramStart], rfl, ?_⟩
            simp [Trie.descend, inserted_move_greedyKey, hk, h1, h2, paramValues, Ne.symm h1]
          | cons next rest =>
            simp only [List.map_cons, greedyWalk, hk, ne_eq, h1, not_false_eq_true, h2, and_false,
              if_false] at h
            obtain ⟨ks, rfl, hd⟩ := descend_inserted_values rest (paramStart :: a) (pvs ++ [⟨seg⟩])
              next c h
            refine ⟨paramStart :: ks, by simp, ?_⟩
            simp [Trie.descend, inserted_move_greedyKey, hk, h1, h2, hd, paramValues, Ne.symm h1]

/-- **The parameters a search binds.** Where the greedy walk over a
request's segments reaches the complete node of route `r`, `search`
answers that node and binds `r`'s parameter names, in order, to the
values the walk collects. -/
theorem search_binds_params {q : String} (hq : q.data.head? = some '/') (hqs : q ≠ pathSep)
    {c : Addr} (hwalk : greedyWalk rs [] (slowPathSplit q) = .inl c) {r : Entry H}
    (hr : lastOfShape rs c = some r) (params : RequestParams) :
    ((newTrie : Trie H).inserted rs).search q params =
      some (some c, ((paramNames r.path).zip (paramValues (pathKeys r.path) (slowPathSplit q))).foldl
        (fun ps kv => ps.set kv.1 kv.2) params) := by
  obtain ⟨qrest, hqd⟩ := List.head?_eq_some_iff.mp hq
  obtain ⟨h, tl, hsplit⟩ := List.exists_cons_of_ne_nil (List.splitOnP_ne_nil (· == '/') qrest)
  have hcs : qrest.splitOn '/' = h :: tl := hsplit
  have hsegs : slowPathSplit q = ⟨h⟩ :: tl.map String.mk := by
    rw [slowPathSplit_of_cons hqd hqs, hcs]; rfl
  rw [hsegs] at hwalk ⊢
  obtain ⟨ks, rfl, hd⟩ := descend_inserted_values rs tl [] [] h c hwalk
  rw [List.append_nil] at hr
  have hkeys : pathKeys r.path = ks := by simpa using (lastOfShape_spec rs hr).2
  rw [Trie.search, if_neg (walks_of_ne_sep hq hqs), hqd]
  simp only [List.drop_one, List.tail_cons, Trie.scan_eq_descend, hcs, List.headD_cons,
    List.nil_append, List.append_nil] at hd ⊢
  rw [hd]
  simp only [Trie.searchEnd, inserted_node, shapeNode_isEnd, hr, Option.isSome_some, if_true]
  rw [shapeNode_of_lastOfShape rs hr, hkeys]
  rfl

end Walk

/-- `/users/42` against `/users/:id`: the walk takes `users` and the named
key, and the search binds `id` to `42`. -/
theorem search_binds_params_users :
    let rs : List (Entry Nat) := [⟨"/users/:id", "user", [0]⟩]
    ("/users/42" : String).data.head? = some '/' ∧ ("/users/42" : String) ≠ pathSep ∧
      greedyWalk rs [] (slowPathSplit "/users/42") = .inl [paramStart, "users"] ∧
      lastOfShape rs [paramStart, "users"] = some ⟨"/users/:id", "user", [0]⟩ ∧
      ((newTrie : Trie Nat).inserted rs).search "/users/42" {} =
        some (some [paramStart, "users"], ((paramNames "/users/:id").zip
          (paramValues (pathKeys "/users/:id") (slowPathSplit "/users/42"))).foldl
            (fun ps kv => ps.set kv.1 kv.2) {}) := by
  intro rs
  have hq : ("/users/42" : String).data.head? = some '/' := by decide
  have hqs : ("/users/42" : String) ≠ pathSep := by decide
  have hwalk : greedyWalk rs [] (slowPathSplit "/users/42") = .inl [paramStart, "users"] := by decide
  have hr : lastOfShape rs [paramStart, "users"] = some ⟨"/users/:id", "user", [0]⟩ := rfl
  exact ⟨hq, hqs, hwalk, hr, search_binds_params rs hq hqs hwalk hr {}⟩

end Router

end IrisWeb
