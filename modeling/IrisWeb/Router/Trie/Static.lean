import IrisWeb.Router.Trie.Search
import IrisWeb.Router.Trie.Shape
/-!
# The route trie — static routes

Where no route has a parameter, the trie is a finite map from paths to the
last route inserted at each (`search_static`). The trie such routes build
is `staticNode` at every address: the root, a fresh node on the way to a
path, and the complete node of the last route inserted at a path.
-/

namespace IrisWeb

namespace Router

open Context (RequestParams)

variable {H : Type}

/-- A static route path: `/`, or `/` then non-empty segments none of which
starts with `:` or `*`. -/
def StaticPath (path : String) : Prop :=
  path = pathSep ∨
    (path.data.head? = some '/' ∧
      ∀ s ∈ slowPathSplit path, s.data ≠ [] ∧ s.data.head? ≠ some ':' ∧ s.data.head? ≠ some '*')

instance : DecidablePred StaticPath := fun _ => inferInstanceAs (Decidable (_ ∨ _))

/-- The last of the insertions at path `q`. -/
def lastInsertion (rs : List (Entry H)) (q : String) : Option (Entry H) :=
  rs.reverse.find? (·.path = q)

/-- The node the static routes `rs` leave at `b`. -/
def staticNode (rs : List (Entry H)) (b : Addr) : Option (TrieNode H) :=
  if b = [] then some {}
  else if rs.any (fun r => b.reverse <+: pathKeys r.path) then
    some (((rs.reverse.find? fun r => pathKeys r.path = b.reverse).map (·.complete {})).getD {})
  else none

theorem segmentKey_of_static {s : String} (h1 : s.data.head? ≠ some ':')
    (h2 : s.data.head? ≠ some '*') : segmentKey s = s := by
  unfold segmentKey
  split <;> simp_all

/-- A static path's keys are its segments. -/
theorem pathKeys_of_static {path : String} (h : StaticPath path) :
    pathKeys path = slowPathSplit path := by
  rcases h with rfl | ⟨-, h⟩
  · rfl
  · exact (List.map_congr_left fun s hs => segmentKey_of_static (h s hs).2.1 (h s hs).2.2).trans
      (List.map_id _)

/-- A path that starts with `/` and is not `/` splits into the pieces of
the rest. -/
theorem slowPathSplit_of_cons {path : String} {rest : List Char} (h : path.data = '/' :: rest)
    (hp : path ≠ pathSep) : slowPathSplit path = (rest.splitOn '/').map String.mk := by
  have hs : ('/' :: rest).splitOn '/' = [] :: rest.splitOn '/' := by
    unfold List.splitOn; rw [List.splitOnP_cons]; simp
  rw [slowPathSplit, if_neg hp, h, hs, List.drop_one, List.tail_cons]

/-- A request path that starts with `/` and is not `/` takes the search's
segment walk. -/
theorem walks_of_ne_sep {q : String} (hq : q.data.head? = some '/') (hqs : q ≠ pathSep) :
    ¬ (q.data = [] ∨ q.data = ['/']) := by
  rintro (h | h)
  · simp [h] at hq
  · exact hqs (String.ext h)

theorem slowPathSplit_ne_nil {path : String} (h : path.data.head? = some '/') :
    slowPathSplit path ≠ [] := by
  by_cases hp : path = pathSep
  · simp [slowPathSplit, hp]
  · obtain ⟨rest, hr⟩ := List.head?_eq_some_iff.mp h
    rw [slowPathSplit_of_cons hr hp]
    simpa using List.splitOnP_ne_nil _ rest

/-- Keys of a static path are no sentinel. -/
theorem key_of_static {path k : String} (h : StaticPath path) (hk : k ∈ pathKeys path) :
    k ≠ paramStart ∧ k ≠ wildcardParamStart := by
  rw [pathKeys_of_static h] at hk
  rcases h with rfl | ⟨-, h⟩
  · simp [slowPathSplit, pathSep] at hk; simp [hk, pathSep, paramStart, wildcardParamStart]
  · obtain ⟨-, h1, h2⟩ := h k hk
    constructor <;> rintro rfl <;> simp_all [paramStart, wildcardParamStart]

/-- So static routes go on past no node with a parameter key. -/
theorem continuesAt_of_static {rs : List (Entry H)} (hrs : ∀ r ∈ rs, StaticPath r.path) (b : Addr)
    {k : String} (hk : k = paramStart ∨ k = wildcardParamStart) : continuesAt rs b k = false := by
  simp only [continuesAt, List.any_eq_false, beq_iff_eq]
  intro r hr he
  have hmem : k ∈ pathKeys r.path := by
    unfold nextKey at he
    split_ifs at he
    exact List.getElem?_mem he
  have := key_of_static (hrs r hr) hmem
  rcases hk with rfl | rfl <;> simp_all

theorem StaticPath.head {path : String} (h : StaticPath path) : path.data.head? = some '/' := by
  rcases h with rfl | ⟨h, -⟩
  · rfl
  · exact h

/-- **The trie static routes build**, address by address: the case of
`inserted_nodes` where no node has a parameter child. -/
theorem inserted_static (rs : List (Entry H)) (hrs : ∀ r ∈ rs, StaticPath r.path) (b : Addr) :
    ((newTrie : Trie H).inserted rs).nodes b = staticNode rs b := by
  have hnode : shapeNode rs b = ((lastOfShape rs b).map (·.complete {})).getD {} := by
    simp only [shapeNode, continuesAt_of_static hrs b (.inl rfl),
      continuesAt_of_static hrs b (.inr rfl)]
    cases lastOfShape rs b <;> rfl
  rw [inserted_nodes, staticNode, hnode, lastOfShape]
  by_cases hb : b = []
  · have hnone : rs.reverse.find? (fun r => pathKeys r.path = []) = none := by
      simp only [List.find?_eq_none, List.mem_reverse, decide_eq_true_eq]
      intro r hr
      simpa [pathKeys] using slowPathSplit_ne_nil (hrs r hr).head
    simp [hb, hnone]
  · simp [hb]

/-! ## Search on the static trie -/

/-- Different request paths split differently. -/
theorem slowPathSplit_inj {p q : String} (hp : p.data.head? = some '/')
    (hq : q.data.head? = some '/') (h : slowPathSplit p = slowPathSplit q) : p = q := by
  have hsep : ∀ {x : String}, x ≠ pathSep → slowPathSplit x ≠ slowPathSplit pathSep := by
    intro x hne h
    have hmem : pathSep ∈ slowPathSplit x := by rw [h]; simp [slowPathSplit]
    exact slash_not_mem_of_mem_slowPathSplit hne hmem (by decide)
  by_cases hps : p = pathSep <;> by_cases hqs : q = pathSep
  · rw [hps, hqs]
  · exact absurd (hps ▸ h).symm (hsep hqs)
  · exact absurd (hqs ▸ h) (hsep hps)
  · obtain ⟨rp, hrp⟩ := List.head?_eq_some_iff.mp hp
    obtain ⟨rq, hrq⟩ := List.head?_eq_some_iff.mp hq
    rw [slowPathSplit_of_cons hrp hps, slowPathSplit_of_cons hrq hqs] at h
    have hsplit := List.map_injective_iff.mpr (fun a b h => congrArg String.data h) h
    apply String.ext
    rw [hrp, hrq, ← List.intercalate_splitOn rp '/', ← List.intercalate_splitOn rq '/', hsplit]

/-- The last insertion at `q` is the last route whose keys are `q`'s
segments. -/
theorem find_keys_eq_lastInsertion {rs : List (Entry H)} (hrs : ∀ r ∈ rs, StaticPath r.path)
    {q : String} (hq : q.data.head? = some '/') :
    rs.reverse.find? (fun r => pathKeys r.path = (slowPathSplit q).reverse.reverse) =
      lastInsertion rs q := by
  have hiff : ∀ r ∈ rs.reverse, pathKeys r.path = slowPathSplit q ↔ r.path = q := by
    intro r hr
    have hs := hrs r (List.mem_reverse.mp hr)
    rw [pathKeys_of_static hs]
    exact ⟨slowPathSplit_inj hs.head hq, fun h => h ▸ rfl⟩
  unfold lastInsertion
  rw [List.reverse_reverse]
  generalize rs.reverse = l at hiff
  induction l with
  | nil => rfl
  | cons r l ih =>
    simp only [List.find?_cons, hiff r (List.mem_cons_self r l),
      ih fun r' h => hiff r' (List.mem_cons_of_mem r h)]

theorem lastInsertion_isSome (rs : List (Entry H)) (q : String) :
    (lastInsertion rs q).isSome = rs.any (·.path = q) := by
  rw [Bool.eq_iff_iff, lastInsertion, List.find?_isSome, List.any_eq_true]
  simp

section StaticTrie

variable {rs : List (Entry H)}

/-- At the address of a request path's segments the static trie holds the
complete node of the last route inserted there, if any; and if there is
one, the node exists. -/
theorem staticNode_at_path (hrs : ∀ r ∈ rs, StaticPath r.path) {q : String} (hq : q.data.head? = some '/') :
    (staticNode rs (slowPathSplit q).reverse).getD {} =
        ((lastInsertion rs q).map (·.complete {})).getD {} ∧
      ((lastInsertion rs q).isSome → (staticNode rs (slowPathSplit q).reverse).isSome) := by
  have hne : (slowPathSplit q).reverse ≠ [] := by simpa using slowPathSplit_ne_nil hq
  unfold staticNode
  rw [if_neg hne, find_keys_eq_lastInsertion hrs hq, List.reverse_reverse]
  split_ifs with hany
  · simp
  · have hnone : lastInsertion rs q = none := by
      rw [← Option.not_isSome_iff_eq_none, lastInsertion_isSome]
      intro h
      obtain ⟨r, hr, hrq⟩ := List.any_eq_true.mp h
      exact hany (List.any_eq_true.mpr ⟨r, hr, by
        simp only [decide_eq_true_eq] at hrq
        rw [← hrq, pathKeys_of_static (hrs r hr)]; simp⟩)
    simp [hnone]

theorem staticTrie_node (hrs : ∀ r ∈ rs, StaticPath r.path) (b : Addr) :
    ((newTrie : Trie H).inserted rs).node b = (staticNode rs b).getD {} := by
  rw [Trie.node, inserted_static rs hrs]

theorem staticTrie_noParams (hrs : ∀ r ∈ rs, StaticPath r.path) : ((newTrie : Trie H).inserted rs).NoParams :=
  fun b => by simp [continuesAt_of_static hrs b]

theorem staticTrie_prefixClosed (hrs : ∀ r ∈ rs, StaticPath r.path) : ((newTrie : Trie H).inserted rs).PrefixClosed := by
  intro s b h
  rw [inserted_static rs hrs] at h ⊢
  unfold staticNode at h ⊢
  by_cases hb : b = []
  · simp [hb]
  obtain ⟨r, hr, hpre⟩ : ∃ r ∈ rs, b.reverse ++ [s] <+: pathKeys r.path := by simpa using h
  have hany : rs.any (fun r => b.reverse <+: pathKeys r.path) :=
    List.any_eq_true.mpr ⟨r, hr, by simpa using (List.prefix_append b.reverse [s]).trans hpre⟩
  simp [hb, hany]

theorem staticTrie_hasRootWildcard (hrs : ∀ r ∈ rs, StaticPath r.path) :
    ((newTrie : Trie H).inserted rs).hasRootWildcard = false := by
  simp only [Trie.inserted, newTrie, Bool.false_or, List.any_eq_false]
  intro r hr
  rw [rootWildcardOf, pathKeys_of_static (hrs r hr)]
  rcases hrs r hr with h | ⟨-, h⟩
  · simp [h, slowPathSplit, pathSep, wildcardParamStart]
  · cases hs : slowPathSplit r.path with
    | nil => simp
    | cons s _ =>
      have hs' := (h s (by simp [hs])).2.2
      simp only [List.head?_cons, beq_iff_eq, Option.some.injEq]
      rintro rfl
      exact hs' rfl

theorem staticTrie_hasRootSlash :
    ((newTrie : Trie H).inserted rs).hasRootSlash = rs.any (·.path = pathSep) := by
  simp [Trie.inserted, newTrie]

/-- **Search on the static trie** finds the address of `q`'s segments when
a route was inserted at `q`, and nothing otherwise; it leaves the parameters
as they were. -/
theorem staticTrie_search (hrs : ∀ r ∈ rs, StaticPath r.path) {q : String}
    (hq : q.data.head? = some '/') (params : RequestParams) :
    ((newTrie : Trie H).inserted rs).search q params =
      some ((lastInsertion rs q).map fun _ => (slowPathSplit q).reverse, params) := by
  have hat := staticNode_at_path hrs hq
  by_cases hqs : q = pathSep
  · subst hqs
    have hsplit : slowPathSplit pathSep = [pathSep] := by simp [slowPathSplit]
    rw [hsplit, List.reverse_singleton] at hat
    simp only [Trie.search, show pathSep.data = ['/'] from rfl, or_true, if_true,
      staticTrie_hasRootSlash, staticTrie_hasRootWildcard hrs, ← lastInsertion_isSome, hsplit]
    cases hl : lastInsertion rs pathSep with
    | none => simp
    | some r => simp [Trie.getChild, inserted_static rs hrs, hat.2 (by simp [hl])]
  · obtain ⟨rest, hr⟩ := List.head?_eq_some_iff.mp hq
    have hne := walks_of_ne_sep hq hqs
    obtain ⟨h, tl, hsplit⟩ := List.exists_cons_of_ne_nil (List.splitOnP_ne_nil (· == '/') rest)
    have hcs : rest.splitOn '/' = h :: tl := hsplit
    have hsegs : (h :: tl).map String.mk = slowPathSplit q := by
      rw [slowPathSplit_of_cons hr hqs, hcs]
    have hroot : (((newTrie : Trie H).inserted rs).nodes []).isSome := by
      simp [inserted_static rs hrs, staticNode]
    rw [Trie.search, if_neg hne, hr]
    simp only [List.drop_one, List.tail_cons, Trie.scan_eq_descend,
      hcs, List.headD_cons, List.nil_append, Trie.descend_of_noParams (staticTrie_noParams hrs),
      Trie.follow_eq (staticTrie_prefixClosed hrs) _ _ hroot, hsegs, List.append_nil]
    by_cases hc : (((newTrie : Trie H).inserted rs).nodes (slowPathSplit q).reverse).isSome
    · have hnode := staticTrie_node hrs (slowPathSplit q).reverse
      rw [hat.1] at hnode
      simp only [hc, if_true, Trie.searchEnd, hnode,
        Trie.findClosest_of_noParams (staticTrie_noParams hrs), Trie.rootWildcard,
        staticTrie_hasRootWildcard hrs]
      cases lastInsertion rs q <;> simp [Entry.complete]
    · have hl : lastInsertion rs q = none := by
        rw [← Option.not_isSome_iff_eq_none]
        intro hl
        exact hc (by rw [inserted_static rs hrs]; exact hat.2 hl)
      simp [hc, hl]

theorem staticTrie_node_of_lastInsertion (hrs : ∀ r ∈ rs, StaticPath r.path) {q : String}
    (hq : q.data.head? = some '/') {r : Entry H} (h : lastInsertion rs q = some r) :
    ((newTrie : Trie H).inserted rs).node (slowPathSplit q).reverse = r.complete {} := by
  rw [staticTrie_node hrs, (staticNode_at_path hrs hq).1, h]
  rfl

end StaticTrie

/-- **For static routes the trie is a finite map.** Any run of `trie.insert`
calls with static paths succeeds, and searching the trie for a request path
`q` finds nothing if no route was inserted at `q`; otherwise it finds the
node of the last route inserted at `q`, with key `q`, that route's name and
handlers, and the parameters untouched. -/
theorem search_static {rs : List (Entry H)} (hrs : ∀ r ∈ rs, StaticPath r.path) {q : String}
    (hq : q.data.head? = some '/') (params : RequestParams) :
    ∃ t, (newTrie : Trie H).insertAll rs = some t ∧
      match lastInsertion rs q with
      | none => t.search q params = some (none, params)
      | some r => ∃ a, t.search q params = some (some a, params) ∧
          (t.node a).key = q ∧ (t.node a).routeName = r.routeName ∧ (t.node a).handlers = r.handlers := by
  refine ⟨_, Trie.insertAll_eq _ rs fun r hr => ?_, ?_⟩
  · rcases hrs r hr with h | ⟨-, h⟩
    · simp [SegmentsNonempty, h, slowPathSplit, pathSep]
    · exact fun s hs => (h s hs).1
  · rw [staticTrie_search hrs hq]
    cases hl : lastInsertion rs q with
    | none => rfl
    | some r =>
      have hkey : r.path = q := by
        simpa using List.find?_some hl
      refine ⟨_, rfl, ?_⟩
      simp [staticTrie_node_of_lastInsertion hrs hq hl, Entry.complete, hkey]

theorem search_static_users :
    (∀ r ∈ ([⟨"/", "root", [0]⟩, ⟨"/users", "users", [1]⟩, ⟨"/users", "users2", [2]⟩] :
        List (Entry Nat)), StaticPath r.path) ∧
      ("/users" : String).data.head? = some '/' ∧
      ∃ t, (newTrie : Trie Nat).insertAll
          [⟨"/", "root", [0]⟩, ⟨"/users", "users", [1]⟩, ⟨"/users", "users2", [2]⟩] = some t ∧
        match lastInsertion
          [(⟨"/", "root", [0]⟩ : Entry Nat), ⟨"/users", "users", [1]⟩, ⟨"/users", "users2", [2]⟩]
          "/users" with
        | none => t.search "/users" {} = some (none, {})
        | some r => ∃ a, t.search "/users" {} = some (some a, {}) ∧
            (t.node a).key = "/users" ∧ (t.node a).routeName = r.routeName ∧
              (t.node a).handlers = r.handlers :=
  ⟨by decide, rfl, @search_static Nat
    [⟨"/", "root", [0]⟩, ⟨"/users", "users", [1]⟩, ⟨"/users", "users2", [2]⟩] (by decide) "/users"
    rfl {}⟩


end Router

end IrisWeb