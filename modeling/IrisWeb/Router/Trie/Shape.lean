import IrisWeb.Router.Trie.Order
/-!
# The route trie — the trie any routes build

The trie any routes build from `newTrie()` has a closed form
(`inserted_nodes`). There is a node at the root and wherever a route's
keys lead, and its record is `shapeNode`: the dynamic-child flags of the
keys routes go on with past it, and the complete node of the last route
whose keys end there. So the trie's step, `move`, reads the routes only
(`inserted_move`).
-/

namespace IrisWeb

namespace Router

variable {H : Type}

/-- Some route's keys go on past address `b` with key `k`. -/
def continuesAt (rs : List (Entry H)) (b : Addr) (k : String) : Bool :=
  rs.any fun r => nextKey (pathKeys r.path) b == some k

/-- The last route inserted whose keys are those of address `b`. -/
def lastOfShape (rs : List (Entry H)) (b : Addr) : Option (Entry H) :=
  rs.reverse.find? fun r => pathKeys r.path = b.reverse

/-- The record routes `rs` leave at address `b`: the flags of the keys
that go on past it, and the complete node of the last route that ends
there. -/
def shapeNode (rs : List (Entry H)) (b : Addr) : TrieNode H :=
  let nd : TrieNode H :=
    { hasDynamicChild := continuesAt rs b paramStart || continuesAt rs b wildcardParamStart
      childNamedParameter := continuesAt rs b paramStart
      childWildcardParameter := continuesAt rs b wildcardParamStart }
  match lastOfShape rs b with
  | some r => r.complete nd
  | none => nd

theorem nextKey_eq_some_iff {ks : List String} {b : Addr} {k : String} :
    nextKey ks b = some k ↔ (k :: b).reverse <+: ks := by
  rw [List.reverse_cons]
  unfold nextKey
  constructor
  · intro h
    split_ifs at h with hp
    obtain ⟨t, rfl⟩ := hp
    rw [List.getElem?_append_right (by simp), List.length_reverse, Nat.sub_self] at h
    cases t with
    | nil => simp at h
    | cons x t => simp only [List.getElem?_cons_zero, Option.some.injEq] at h; subst h; exact ⟨t, by simp⟩
  · rintro ⟨t, rfl⟩
    rw [if_pos ⟨[k] ++ t, by simp⟩]
    simp [List.getElem?_append_right, List.getElem_append_right]

@[simp] theorem continuesAt_append (l : List (Entry H)) (r : Entry H) (b : Addr) (k : String) :
    continuesAt (l ++ [r]) b k = (continuesAt l b k || nextKey (pathKeys r.path) b == some k) := by
  simp [continuesAt, List.any_append]

theorem lastOfShape_append (l : List (Entry H)) (r : Entry H) (b : Addr) :
    lastOfShape (l ++ [r]) b = if pathKeys r.path = b.reverse then some r else lastOfShape l b := by
  simp only [lastOfShape, List.reverse_append, List.reverse_singleton, List.singleton_append,
    List.find?_cons]
  split_ifs <;> simp_all

/-- **One more insertion, on the record.** -/
theorem nodeFn_shapeNode (l : List (Entry H)) (r : Entry H) (b : Addr) :
    r.nodeFn b (shapeNode l b) = shapeNode (l ++ [r]) b := by
  unfold Entry.nodeFn flagsAt
  by_cases hend : b = (pathKeys r.path).reverse
  · have hk : nextKey (pathKeys r.path) b = none := by
      simp [nextKey, hend]
    have hs : pathKeys r.path = b.reverse := by rw [hend, List.reverse_reverse]
    simp only [if_pos hend, hk, Function.comp_apply, id]
    simp only [shapeNode, continuesAt_append, hk, lastOfShape_append, if_pos hs]
    cases lastOfShape l b <;> simp [Entry.complete]
  · have hs : ¬ pathKeys r.path = b.reverse := fun h => hend (by rw [h, List.reverse_reverse])
    simp only [if_neg hend, shapeNode, lastOfShape_append, if_neg hs, continuesAt_append]
    cases hk : nextKey (pathKeys r.path) b with
    | none => simp
    | some k =>
      by_cases h1 : k = paramStart
      · subst h1
        cases lastOfShape l b <;> simp [setFlags, Entry.complete, paramStart, wildcardParamStart]
      · by_cases h2 : k = wildcardParamStart
        · subst h2
          cases lastOfShape l b <;> simp [setFlags, Entry.complete, paramStart, wildcardParamStart]
        · have e1 : (k == paramStart) = false := by simpa using h1
          have e2 : (k == wildcardParamStart) = false := by simpa using h2
          cases lastOfShape l b <;> simp [setFlags, h1, h2, e1, e2]


/-- Off every route's way, nothing is recorded. -/
theorem shapeNode_of_off {rs : List (Entry H)} {b : Addr}
    (h : ∀ r ∈ rs, ¬ b.reverse <+: pathKeys r.path) : shapeNode rs b = {} := by
  have hc : ∀ k, continuesAt rs b k = false := fun k => by
    simp only [continuesAt, List.any_eq_false, beq_iff_eq, nextKey_eq_some_iff]
    intro r hr hp
    exact h r hr ((List.prefix_append _ [k]).trans (by simpa using hp))
  have hl : lastOfShape rs b = none := by
    simp only [lastOfShape, List.find?_eq_none, List.mem_reverse, decide_eq_true_eq]
    intro r hr he
    exact h r hr (he ▸ List.prefix_refl _)
  simp [shapeNode, hc, hl]

/-- **The trie any routes build**, address by address: a node at the root
and on every route's way, holding `shapeNode`. -/
theorem inserted_nodes (rs : List (Entry H)) (b : Addr) :
    ((newTrie : Trie H).inserted rs).nodes b =
      if b = [] ∨ rs.any (fun r => b.reverse <+: pathKeys r.path) then some (shapeNode rs b)
      else none := by
  induction rs using List.reverseRecOn with
  | nil => by_cases hb : b = [] <;> simp [Trie.inserted, newTrie, hb, shapeNode, continuesAt, lastOfShape]
  | append_singleton l r ih =>
    simp only [Trie.inserted, List.foldl_append, List.foldl_cons, List.foldl_nil] at ih ⊢
    rw [ih, effect_eq, ← nodeFn_shapeNode]
    by_cases hb : b = []
    · simp [hb]
    by_cases hr : b.reverse <+: pathKeys r.path
    · have hl : (if b = [] ∨ l.any (fun r => b.reverse <+: pathKeys r.path) then some (shapeNode l b)
          else none).getD {} = shapeNode l b := by
        split_ifs with h
        · rfl
        · exact (shapeNode_of_off fun r' hr' hp => h (Or.inr (List.any_eq_true.mpr ⟨r', hr', by simpa using hp⟩))).symm
      rw [if_pos ⟨hb, hr⟩, hl]
      simp [hb, hr, List.any_append]
    · rw [nodeFn_off_way r hr]
      simp [hb, hr, List.any_append]

section Built

variable (rs : List (Entry H))

@[simp] theorem shapeNode_childNamedParameter (b : Addr) :
    (shapeNode rs b).childNamedParameter = continuesAt rs b paramStart := by
  unfold shapeNode; cases lastOfShape rs b <;> rfl

@[simp] theorem shapeNode_childWildcardParameter (b : Addr) :
    (shapeNode rs b).childWildcardParameter = continuesAt rs b wildcardParamStart := by
  unfold shapeNode; cases lastOfShape rs b <;> rfl

@[simp] theorem shapeNode_isEnd (b : Addr) : (shapeNode rs b).isEnd = (lastOfShape rs b).isSome := by
  unfold shapeNode; cases lastOfShape rs b <;> rfl

/-- A complete node holds the last route of its shape. -/
theorem shapeNode_of_lastOfShape {b : Addr} {r : Entry H} (h : lastOfShape rs b = some r) :
    shapeNode rs b = r.complete (shapeNode rs b) := by
  unfold shapeNode; rw [h]; rfl

theorem any_prefix_iff_continuesAt (a : Addr) (k : String) :
    (rs.any fun r => (k :: a).reverse <+: pathKeys r.path) = continuesAt rs a k := by
  simp only [continuesAt]
  congr 1
  funext r
  rw [Bool.eq_iff_iff]
  simp [nextKey_eq_some_iff]

@[simp] theorem inserted_node (b : Addr) : ((newTrie : Trie H).inserted rs).node b = shapeNode rs b := by
  simp only [Trie.node, inserted_nodes]
  split_ifs with h
  · rfl
  · refine (shapeNode_of_off fun r hr hp => h (Or.inr ?_)).symm
    exact List.any_eq_true.mpr ⟨r, hr, by simpa using hp⟩

theorem inserted_getChild (a : Addr) (k : String) :
    ((newTrie : Trie H).inserted rs).getChild a k = if continuesAt rs a k then some (k :: a) else none := by
  simp only [Trie.getChild, inserted_nodes, List.cons_ne_nil, false_or, any_prefix_iff_continuesAt]
  split_ifs <;> simp_all

@[simp] theorem inserted_hasRootWildcard :
    ((newTrie : Trie H).inserted rs).hasRootWildcard = continuesAt rs [] wildcardParamStart := by
  simp [Trie.inserted, newTrie, continuesAt, rootWildcardOf, nextKey, List.head?_eq_getElem?]

@[simp] theorem inserted_hasRootSlash :
    ((newTrie : Trie H).inserted rs).hasRootSlash = rs.any (·.path = pathSep) := by
  simp [Trie.inserted, newTrie]

/-- The trie's step: the literal key if a route goes on with it, else the
named one, else the wildcard one. -/
theorem inserted_move (a : Addr) (seg : String) :
    ((newTrie : Trie H).inserted rs).move a seg =
      if continuesAt rs a seg then .literal (seg :: a)
      else if continuesAt rs a paramStart then .named (some (paramStart :: a))
      else if continuesAt rs a wildcardParamStart then .wildcard (some (wildcardParamStart :: a))
      else .deadEnd := by
  simp only [Trie.move, inserted_getChild, inserted_node, shapeNode_childNamedParameter,
    shapeNode_childWildcardParameter]
  split_ifs <;> simp_all

end Built

end Router

end IrisWeb
