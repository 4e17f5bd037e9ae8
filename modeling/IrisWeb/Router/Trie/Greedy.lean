import IrisWeb.Router.Trie.Static
/-!
# The route trie — the greedy search

What `search` does on the trie any routes build, said over the routes
alone. Segment by segment it follows the literal key if a route goes on
with the segment, else the named key, else the wildcard key, which takes
the rest; it never goes back to try another (`greedyWalk`). A complete
node reached holds the answer; otherwise, or where no key goes on, the
answer is the wildcard node of the nearest node back up the walk
(`wildcardBack`). `greedySearch` is that answer, as the last route of its
shape.

The trie's step and loop are the walk's (`inserted_move_greedyKey`,
`descend_inserted`); the walk's keys agree with the request's segments
(`greedyWalk_agree`), and where it reaches a node its keys match them
(`greedyWalk_inl_match`).
-/

namespace IrisWeb

namespace Router

variable {H : Type}

/-! ## The greedy search, over the routes -/

section Greedy

variable (rs : List (Entry H))

/-- The key the greedy search follows from node `a` at request segment
`seg`: the segment itself if a route goes on with it, else the named key,
else the wildcard key. -/
def greedyKey (a : Addr) (seg : String) : Option String :=
  [seg, paramStart, wildcardParamStart].find? (continuesAt rs a)

/-- The greedy walk from node `a` over request segments. It ends `.inl` at
the node it reaches, after the last segment or at a wildcard key, which
takes every segment left, and `.inr` at the node no key goes on from. It
never goes back to try another key. -/
def greedyWalk : Addr → List String → Addr ⊕ Addr
  | a, [] => .inl a
  | a, seg :: segs =>
    match greedyKey rs a seg with
    | none => .inr a
    | some k => if k ≠ seg ∧ k = wildcardParamStart then .inl (k :: a) else greedyWalk (k :: a) segs

/-- The wildcard node under the nearest proper ancestor of `a` that a
route goes on from with a wildcard key. -/
def wildcardBack : Addr → Option Addr
  | [] => none
  | _ :: p => if continuesAt rs p wildcardParamStart then some (wildcardParamStart :: p) else wildcardBack p

/-- **The greedy search.** `/` gets the last route `/`, else the last root
wildcard route. Any other path gets the last route of the node the greedy
walk reaches; where there is none, or the walk stopped, the last route of
the nearest wildcard back up the walk. -/
def greedySearch (q : String) : Option (Entry H) :=
  if q.data = [] ∨ q.data = ['/'] then lastOfShape rs [pathSep] <|> lastOfShape rs [wildcardParamStart]
  else
    match greedyWalk rs [] (slowPathSplit q) with
    | .inl a => lastOfShape rs a <|> (wildcardBack rs a).bind (lastOfShape rs)
    | .inr a => (wildcardBack rs a).bind (lastOfShape rs)

end Greedy

/-- Whether a route's keys match a request's segments: a literal key its
segment, a named key any one segment, a wildcard key, the last, one
segment or more. -/
def keysMatch : List String → List String → Bool
  | [], [] => true
  | k :: ks, s :: ss =>
    (k == wildcardParamStart && ks.isEmpty) || ((k == s || k == paramStart) && keysMatch ks ss)
  | _, _ => false

/-- A route path matches a request path. -/
def matchesPath (path q : String) : Bool := keysMatch (pathKeys path) (slowPathSplit q)

/-- A route path the router registers: well formed, with parameter names
free of `:`, as the macro templates' identifiers are. -/
def RoutePath (path : String) : Prop := WellFormedPath path ∧ ∀ n ∈ paramNames path, ':' ∉ n.data

instance : DecidablePred RoutePath := fun _ => inferInstanceAs (Decidable (_ ∧ _))

/-- Keys agree with request segments: each is its segment, the named key
or the wildcard key. -/
def KeysAgree : List String → List String → Prop
  | [], _ => True
  | k :: ks, s :: ss => (k = s ∨ k = paramStart ∨ k = wildcardParamStart) ∧ KeysAgree ks ss
  | _ :: _, [] => False

/-! ## The trie's step and loop -/

section Refinement

variable (rs : List (Entry H))

theorem inserted_move_greedyKey (a : Addr) (seg : String) :
    ((newTrie : Trie H).inserted rs).move a seg =
      match greedyKey rs a seg with
      | none => .deadEnd
      | some k => if k = seg then .literal (k :: a)
        else if k = wildcardParamStart then .wildcard (some (k :: a)) else .named (some (k :: a)) := by
  rw [inserted_move]
  simp only [greedyKey, List.find?_cons, List.find?_nil]
  by_cases h1 : continuesAt rs a seg
  · simp [h1]
  have hpw : paramStart ≠ wildcardParamStart := by decide
  by_cases h2 : continuesAt rs a paramStart
  · have hne : paramStart ≠ seg := fun h => h1 (h ▸ h2)
    simp [h1, h2, hne, hpw]
  by_cases h3 : continuesAt rs a wildcardParamStart
  · have hne : wildcardParamStart ≠ seg := fun h => h1 (h ▸ h3)
    simp [h1, h2, h3, hne]
  · simp [h1, h2, h3]

theorem inserted_findClosest (a : Addr) :
    ((newTrie : Trie H).inserted rs).findClosestParentWildcardNode a = wildcardBack rs a := by
  induction a with
  | nil => rfl
  | cons x p ih =>
    simp only [Trie.findClosestParentWildcardNode, wildcardBack, inserted_node,
      shapeNode_childWildcardParameter, inserted_getChild, ih]
    split_ifs <;> rfl

/-- **The trie's loop is the greedy walk.** -/
theorem descend_inserted : ∀ (rest : List (List Char)) (a : Addr) (pvs : List String) (seg : List Char),
    match greedyWalk rs a (⟨seg⟩ :: rest.map String.mk) with
    | .inl c => ∃ pvs', ((newTrie : Trie H).inserted rs).descend (some a) pvs seg rest = .reached (some c) pvs'
    | .inr b => ((newTrie : Trie H).inserted rs).descend (some a) pvs seg rest = .backedOff (wildcardBack rs b)
  | [], a, pvs, seg => by
    simp only [List.map_nil, greedyWalk, Trie.descend, inserted_move_greedyKey, inserted_findClosest]
    cases greedyKey rs a ⟨seg⟩ with
    | none => rfl
    | some k =>
      by_cases h1 : k = ⟨seg⟩
      · simp [h1]
      · by_cases h2 : k = wildcardParamStart
        · subst h2; simp [h1]
        · simp [h1, h2]
  | next :: rest, a, pvs, seg => by
    simp only [List.map_cons, greedyWalk, Trie.descend, inserted_move_greedyKey, inserted_findClosest]
    cases greedyKey rs a ⟨seg⟩ with
    | none => rfl
    | some k =>
      by_cases h1 : k = ⟨seg⟩
      · simpa [h1] using descend_inserted rest (⟨seg⟩ :: a) pvs next
      · by_cases h2 : k = wildcardParamStart
        · subst h2; simp [h1]
        · simpa [h1, h2] using descend_inserted rest (k :: a) (pvs ++ [⟨seg⟩]) next

end Refinement

/-! ## The walk's invariant -/

theorem KeysAgree.length_le : ∀ {ks ss : List String}, KeysAgree ks ss → ks.length ≤ ss.length
  | [], _, _ => Nat.zero_le _
  | _ :: _, _ :: _, h => Nat.succ_le_succ h.2.length_le
  | _ :: _, [], h => h.elim

theorem KeysAgree.shorten : ∀ {ks ks' ss : List String}, KeysAgree ks ss → ks' <+: ks → KeysAgree ks' ss
  | _, [], _, _, _ => trivial
  | [], _ :: _, _, _, hp => by simp at hp
  | _ :: _, _ :: _, _ :: _, h, hp => by
    obtain ⟨rfl, hp'⟩ := List.cons_prefix_cons.mp hp
    exact ⟨h.1, h.2.shorten hp'⟩
  | _ :: _, _ :: _, [], h, _ => h.elim

theorem keysMatch_back : ∀ {ks segs : List String}, KeysAgree ks segs → wildcardParamStart ∉ ks →
    ks.length < segs.length → keysMatch (ks ++ [wildcardParamStart]) segs = true
  | [], s :: ss, _, _, _ => by simp [keysMatch]
  | [], [], _, _, h => by simp at h
  | k :: ks, s :: ss, hag, hw, hlen => by
    have hk : k = s ∨ k = paramStart := by
      rcases hag.1 with h1 | h1 | rfl
      exacts [.inl h1, .inr h1, absurd (List.mem_cons_self _ _) hw]
    have ih := keysMatch_back hag.2 (fun h => hw (List.mem_cons_of_mem _ h)) (by simpa using hlen)
    rcases hk with h1 | h1 <;> simp [keysMatch, h1, ih]
  | _ :: _, [], hag, _, _ => hag.elim

section Walk

variable (rs : List (Entry H))

/-- **The walk's keys agree with the segments**: it stops short of the
last segment, or reaches a node past the start. -/
theorem greedyWalk_agree : ∀ (segs : List String) (a : Addr),
    match greedyWalk rs a segs with
    | .inl c => ∃ ks, c = ks.reverse ++ a ∧ KeysAgree ks segs ∧ (segs ≠ [] → ks ≠ [])
    | .inr b => ∃ ks, b = ks.reverse ++ a ∧ KeysAgree ks segs ∧ ks.length < segs.length
  | [], a => ⟨[], rfl, trivial, fun h => (h rfl).elim⟩
  | seg :: segs, a => by
    cases hk : greedyKey rs a seg with
    | none => simp only [greedyWalk, hk]; exact ⟨[], rfl, trivial, by simp⟩
    | some k =>
      simp only [greedyWalk, hk]
      have hk' : k = seg ∨ k = paramStart ∨ k = wildcardParamStart := by
        simpa using List.mem_of_find?_eq_some hk
      split_ifs with hw
      · exact ⟨[k], rfl, ⟨hk', trivial⟩, fun _ => List.cons_ne_nil _ _⟩
      · have ih := greedyWalk_agree segs (k :: a)
        rcases hg : greedyWalk rs (k :: a) segs with c | b <;> rw [hg] at ih
        · obtain ⟨ks, rfl, hag, -⟩ := ih
          exact ⟨k :: ks, by simp, ⟨hk', hag⟩, fun _ => List.cons_ne_nil _ _⟩
        · obtain ⟨ks, rfl, hag, hlen⟩ := ih
          exact ⟨k :: ks, by simp, ⟨hk', hag⟩, by simpa using hlen⟩

theorem greedyWalk_inl_match : ∀ (segs : List String) (a c : Addr), greedyWalk rs a segs = .inl c →
    ∃ ks, c = ks.reverse ++ a ∧ keysMatch ks segs = true
  | [], a, c, h => by cases h; exact ⟨[], rfl, rfl⟩
  | seg :: segs, a, c, h => by
    cases hk : greedyKey rs a seg with
    | none => simp [greedyWalk, hk] at h
    | some k =>
      have hk' : k = seg ∨ k = paramStart ∨ k = wildcardParamStart := by
        simpa using List.mem_of_find?_eq_some hk
      simp only [greedyWalk, hk] at h
      split_ifs at h with hw
      · cases h
        exact ⟨[k], rfl, by simp [keysMatch, hw.2]⟩
      · obtain ⟨ks, rfl, hm⟩ := greedyWalk_inl_match segs (k :: a) c h
        refine ⟨k :: ks, by simp, ?_⟩
        have hks : k = seg ∨ k = paramStart := by
          rcases hk' with h1 | h1 | h1
          exacts [.inl h1, .inr h1, .inl (not_not.mp fun hs => hw ⟨hs, h1⟩)]
        rcases hks with h1 | h1 <;> simp [keysMatch, h1, hm]

theorem wildcardBack_eq_some : ∀ {a w : Addr}, wildcardBack rs a = some w →
    ∃ x p, x ≠ [] ∧ a = x ++ p ∧ w = wildcardParamStart :: p ∧ continuesAt rs p wildcardParamStart = true
  | [], _, h => by cases h
  | y :: p, w, h => by
    simp only [wildcardBack] at h
    split_ifs at h with hc
    · cases h; exact ⟨[y], p, List.cons_ne_nil _ _, rfl, rfl, hc⟩
    · obtain ⟨x, p', -, rfl, rfl, hc'⟩ := wildcardBack_eq_some h
      exact ⟨y :: x, p', List.cons_ne_nil _ _, rfl, rfl, hc'⟩

/-- The wildcard the walk backs off to hangs below a node the walk passed:
the keys down to that node agree with the segments and stop short of them. -/
theorem wildcardBack_agree {ks segs : List String} (hag : KeysAgree ks segs) {w : Addr}
    (hw : wildcardBack rs ks.reverse = some w) :
    ∃ p, w = wildcardParamStart :: p ∧ continuesAt rs p wildcardParamStart = true ∧
      KeysAgree p.reverse segs ∧ p.reverse.length < segs.length := by
  obtain ⟨x, p, hx, hkp, rfl, hc⟩ := wildcardBack_eq_some rs hw
  have hks : ks = p.reverse ++ x.reverse := by rw [← List.reverse_append, ← hkp, List.reverse_reverse]
  have hx0 : 0 < x.length := List.length_pos.mpr hx
  have hle := hag.length_le
  rw [hks, List.length_append, List.length_reverse, List.length_reverse] at hle
  exact ⟨p, rfl, hc, hag.shorten ⟨x.reverse, hks.symm⟩, by rw [List.length_reverse]; omega⟩

theorem wildcardBack_eq_none : ∀ {a : Addr}, wildcardBack rs a = none → a ≠ [] →
    continuesAt rs [] wildcardParamStart = false
  | [], _, h => (h rfl).elim
  | y :: p, hn, _ => by
    simp only [wildcardBack] at hn
    split_ifs at hn with hc
    cases p with
    | nil => simpa using hc
    | cons z p => exact wildcardBack_eq_none hn (List.cons_ne_nil _ _)

end Walk

end Router

end IrisWeb
