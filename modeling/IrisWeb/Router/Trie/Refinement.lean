import IrisWeb.Router.Trie.Greedy
/-!
# The route trie — search is the greedy search

**The trie's search is the greedy search** (`search_inserted`) for routes
the router registers, and the route it answers with matches the request
(`greedySearch_matches`). Neither panic of the back-off can happen: the
wildcard node holds a route with a parameter key, and its static key
begins the request (`staticKey_begins_request`), so `q[len(n.staticKey):]` is in
range. The static key is the path up to its first `:`, so a parameter name
must not hold one (`RoutePath`).
-/

namespace IrisWeb

namespace Router

open Context (RequestParams)

variable {H : Type}

/-! ## The static key of a wildcard route -/

/-- The literal segments of a route path before its first parameter, each
with the `/` after it. -/
def staticPart : List (List Char) → List Char
  | [] => []
  | t :: ts => if t.head? = some ':' ∨ t.head? = some '*' then [] else t ++ '/' :: staticPart ts

theorem intercalate_cons_cons (a b : List Char) (l : List (List Char)) :
    ['/'].intercalate (a :: b :: l) = a ++ '/' :: ['/'].intercalate (b :: l) := by
  simp [List.intercalate, List.intersperse_cons_cons]

theorem segmentKey_of_literal {t : List Char} (h1 : t.head? ≠ some ':') (h2 : t.head? ≠ some '*') :
    segmentKey ⟨t⟩ = ⟨t⟩ := by
  unfold segmentKey
  split <;> simp_all

theorem segmentKey_eq_wildcard {t : List Char} (h : segmentKey ⟨t⟩ = wildcardParamStart) :
    ∃ name, t = '*' :: name := by
  unfold segmentKey at h
  split at h
  · simp [paramStart, wildcardParamStart] at h
  · exact ⟨_, ‹_›⟩
  · exact ⟨[], congrArg String.data h⟩

/-- A take-while that fails on what follows `l₁`, or already inside it,
stops within `l₁`. -/
theorem takeWhile_append_stops {p : Char → Bool} {l₁ l₂ : List Char}
    (h : l₂.takeWhile p = [] ∨ ∃ x ∈ l₁, p x = false) : (l₁ ++ l₂).takeWhile p <+: l₁ := by
  rw [List.takeWhile_append]
  split_ifs with hlen
  · rcases h with h | ⟨x, hx, hpx⟩
    · simp [h]
    · have htw : l₁.takeWhile p <+: l₁ := List.takeWhile_prefix p
      have hall := htw.eq_of_length hlen
      have hx' : x ∈ l₁.takeWhile p := by rwa [hall]
      simp [List.mem_takeWhile_imp hx'] at hpx
  · exact List.takeWhile_prefix p

/-- **Where the static part ends.** The segments of a path whose keys end
in the wildcard, and hold no other: after the static part comes the first
parameter's `:`, or the wildcard segment. -/
theorem intercalate_eq_staticPart : ∀ (ks : List String) (ts : List (List Char)),
    ts.map (fun t => segmentKey ⟨t⟩) = ks ++ [wildcardParamStart] → wildcardParamStart ∉ ks →
    ∃ c more, ['/'].intercalate ts = staticPart ts ++ c :: more ∧
      (c = ':' ∨ (c = '*' ∧ '*' :: more ∈ ts))
  | [], ts, h, _ => by
    obtain ⟨t, _, rfl, ht, hnil⟩ := List.map_eq_cons_iff.mp h
    obtain ⟨name, rfl⟩ := segmentKey_eq_wildcard ht
    rw [List.map_eq_nil_iff.mp hnil]
    exact ⟨'*', name, by simp [staticPart, List.intercalate], Or.inr ⟨rfl, by simp⟩⟩
  | k :: ks, [], h, _ => by simp at h
  | k :: ks, t :: ts, h, hw => by
    simp only [List.map_cons, List.cons_append, List.cons.injEq] at h
    obtain ⟨hk, hts⟩ := h
    have hts0 : ts ≠ [] := by rintro rfl; simp at hts
    obtain ⟨t', ts', rfl⟩ := List.exists_cons_of_ne_nil hts0
    by_cases hlit : t.head? = some ':' ∨ t.head? = some '*'
    · rcases hlit with h1 | h1
      · obtain ⟨rest, rfl⟩ := List.head?_eq_some_iff.mp h1
        exact ⟨':', rest ++ '/' :: ['/'].intercalate (t' :: ts'), by simp [staticPart, intercalate_cons_cons],
          Or.inl rfl⟩
      · obtain ⟨rest, rfl⟩ := List.head?_eq_some_iff.mp h1
        exact absurd (hk ▸ List.mem_cons_self _ _ : segmentKey ⟨'*' :: rest⟩ ∈ k :: ks)
          (by simpa [segmentKey] using hw)
    · push_neg at hlit
      obtain ⟨c, more, he, hc⟩ := intercalate_eq_staticPart ks (t' :: ts') hts (fun h => hw (by simp [h]))
      refine ⟨c, more, ?_, hc.imp_right fun h => ⟨h.1, List.mem_cons_of_mem _ h.2⟩⟩
      have hsp : staticPart (t :: t' :: ts') = t ++ '/' :: staticPart (t' :: ts') :=
        if_neg (by simpa using hlit)
      rw [intercalate_cons_cons, he, hsp]
      simp

theorem literal_ne_key {t : List Char} (h1 : t.head? ≠ some ':') (h2 : t.head? ≠ some '*') :
    (⟨t⟩ : String) ≠ paramStart ∧ (⟨t⟩ : String) ≠ wildcardParamStart := by
  constructor <;> intro h <;> have := congrArg String.data h <;>
    simp_all [paramStart, wildcardParamStart]

/-- **The static part of a route that agrees with a request begins it**,
when the request has a segment past the route's static keys. -/
theorem staticPart_begins : ∀ (ks : List String) (ts ss : List (List Char)),
    ts.map (fun t => segmentKey ⟨t⟩) = ks ++ [wildcardParamStart] →
    KeysAgree ks (ss.map String.mk) → ks.length < ss.length →
    staticPart ts <+: ['/'].intercalate ss
  | [], ts, ss, h, _, _ => by
    obtain ⟨t, _, rfl, ht, -⟩ := List.map_eq_cons_iff.mp h
    obtain ⟨name, rfl⟩ := segmentKey_eq_wildcard ht
    simp [staticPart]
  | k :: ks, [], _, h, _, _ => by simp at h
  | k :: ks, _, [], _, _, hlen => by simp at hlen
  | k :: ks, t :: ts, s :: ss, h, hag, hlen => by
    simp only [List.map_cons, List.cons_append, List.cons.injEq] at h
    obtain ⟨hk, hts⟩ := h
    by_cases hlit : t.head? = some ':' ∨ t.head? = some '*'
    · simp [staticPart, hlit]
    · push_neg at hlit
      have hss : ss ≠ [] := by rintro rfl; simp at hlen
      obtain ⟨s', ss', rfl⟩ := List.exists_cons_of_ne_nil hss
      have hkt : k = ⟨t⟩ := hk.symm.trans (segmentKey_of_literal hlit.1 hlit.2)
      have hne := literal_ne_key hlit.1 hlit.2
      have hts_eq : t = s := by
        rcases hag.1 with h1 | h1 | h1
        · exact congrArg String.data (hkt.symm.trans h1)
        · exact absurd (hkt.symm.trans h1) hne.1
        · exact absurd (hkt.symm.trans h1) hne.2
      have hsp : staticPart (t :: ts) = t ++ '/' :: staticPart ts := if_neg (by simpa using hlit)
      rw [hsp, intercalate_cons_cons, hts_eq, List.prefix_append_right_inj, List.cons_prefix_cons]
      exact ⟨rfl, staticPart_begins ks ts (s' :: ss') hts hag.2 (by simpa using hlen)⟩

/-- A wildcard key is a route's last. -/
theorem wildcard_not_mem_dropLast {path : String} (h : WellFormedPath path) :
    wildcardParamStart ∉ (pathKeys path).dropLast := by
  rcases h with rfl | ⟨-, -, h, -⟩
  · simp [pathKeys, slowPathSplit, segmentKey, pathSep]
  · simp only [pathKeys, ← List.map_dropLast, List.mem_map, not_exists, not_and]
    exact fun s hs hk => h s hs hk

/-- **The static key of a wildcard route that agrees with a request begins
the request**, so `q[len(n.staticKey):]` does not panic. -/
theorem staticKey_begins_request {path : String} (hr : RoutePath path) {ks : List String}
    (hkeys : pathKeys path = ks ++ [wildcardParamStart]) {q : String} (hq : q.data.head? = some '/')
    (hqs : q ≠ pathSep) (hag : KeysAgree ks (slowPathSplit q)) (hlen : ks.length < (slowPathSplit q).length) :
    (staticKeyOf path).data <+: q.data := by
  obtain ⟨hwf, hplain⟩ := hr
  have hps : path ≠ pathSep := by
    rintro rfl
    have := congrArg List.getLast? hkeys
    simp [pathKeys, slowPathSplit, segmentKey, pathSep, wildcardParamStart] at this
  have hw : wildcardParamStart ∉ ks := by
    simpa [hkeys] using wildcard_not_mem_dropLast hwf
  obtain ⟨prest, hp⟩ := List.head?_eq_some_iff.mp (hwf.resolve_left hps).1
  obtain ⟨qrest, hqd⟩ := List.head?_eq_some_iff.mp hq
  have hpsplit := slowPathSplit_of_cons hp hps
  have hqsplit := slowPathSplit_of_cons hqd hqs
  have hts : (prest.splitOn '/').map (fun t => segmentKey ⟨t⟩) = ks ++ [wildcardParamStart] := by
    rw [← hkeys, pathKeys, hpsplit, List.map_map]; rfl
  obtain ⟨c, more, hdec, hc⟩ := intercalate_eq_staticPart ks _ hts hw
  have hsp := staticPart_begins ks _ (qrest.splitOn '/') hts (hqsplit ▸ hag) (by simpa [hqsplit] using hlen)
  have hpd : path.data = ('/' :: staticPart (prest.splitOn '/')) ++ c :: more := by
    rw [hp, List.cons_append, ← hdec, List.intercalate_splitOn]
  have hstat : (staticKeyOf path).data <+: '/' :: staticPart (prest.splitOn '/') := by
    unfold staticKeyOf
    split_ifs with hcolon
    · rw [hpd]
      apply takeWhile_append_stops
      rcases hc with rfl | ⟨rfl, hmem⟩
      · left; simp
      · right
        have hname : ':' ∉ more := hplain ⟨more⟩ (List.mem_flatMap.mpr
          ⟨⟨'*' :: more⟩, by rw [hpsplit]; exact List.mem_map_of_mem _ hmem, by simp [paramKeyOf]⟩)
        rw [hpd] at hcolon
        rcases List.mem_append.mp hcolon with h | h
        · exact ⟨':', h, by simp⟩
        · simp [hname] at h
    · rw [hpd]
      apply takeWhile_append_stops
      left
      rcases hc with rfl | ⟨rfl, -⟩
      · exact absurd (by rw [hpd]; simp) hcolon
      · simp
  rw [hqd, ← List.intercalate_splitOn qrest '/']
  exact hstat.trans (List.cons_prefix_cons.mpr ⟨rfl, hsp⟩)

/-! ## No panic, and the search's answer -/

section Answer

variable (rs : List (Entry H))

theorem paramNames_ne_nil {path : String} (h : wildcardParamStart ∈ pathKeys path) : paramNames path ≠ [] := by
  obtain ⟨s, hs, hk⟩ := List.mem_map.mp h
  obtain ⟨name, hname⟩ := segmentKey_eq_wildcard (show segmentKey ⟨s.data⟩ = wildcardParamStart from hk)
  have hmem : (⟨name⟩ : String) ∈ paramNames path :=
    List.mem_flatMap.mpr ⟨s, hs, by simp [paramKeyOf, hname]⟩
  exact List.ne_nil_of_mem hmem

/-- Under well-formed routes a wildcard key ends its route, so the
wildcard node holds one. -/
theorem lastOfShape_wildcard (hrs : ∀ r ∈ rs, WellFormedPath r.path) {p : Addr}
    (h : continuesAt rs p wildcardParamStart = true) :
    ∃ r, lastOfShape rs (wildcardParamStart :: p) = some r := by
  obtain ⟨r, hr, hk⟩ := List.any_eq_true.mp h
  rw [beq_iff_eq, nextKey_eq_some_iff] at hk
  obtain ⟨t, ht⟩ := hk
  have ht0 : t = [] := by
    by_contra hne
    apply wildcard_not_mem_dropLast (hrs r hr)
    rw [← ht, List.dropLast_append_of_ne_nil _ hne]
    simp
  apply Option.isSome_iff_exists.mp
  simp only [lastOfShape, List.find?_isSome, List.mem_reverse, decide_eq_true_eq]
  exact ⟨r, hr, by rw [← ht, ht0, List.append_nil]⟩

theorem lastOfShape_spec {b : Addr} {r : Entry H} (h : lastOfShape rs b = some r) :
    r ∈ rs ∧ pathKeys r.path = b.reverse := by
  have hmem := List.mem_reverse.mp (List.mem_of_find?_eq_some h)
  have hp := List.find?_some h
  exact ⟨hmem, by simpa using hp⟩

/-- **The back-off binds without panicking.** The wildcard node the walk
backs off to holds a route, with a parameter key and a static key that
begins the request. -/
theorem setWildcardParam_back (hrs : ∀ r ∈ rs, RoutePath r.path) {q : String}
    (hq : q.data.head? = some '/') (hqs : q ≠ pathSep) {ks : List String}
    (hag : KeysAgree ks (slowPathSplit q)) {w : Addr} (hw : wildcardBack rs ks.reverse = some w)
    (params : RequestParams) :
    ∃ r ps, lastOfShape rs w = some r ∧
      ((newTrie : Trie H).inserted rs).setWildcardParam q params w = some (some w, ps) := by
  obtain ⟨p, rfl, hc, hagp, hlen⟩ := wildcardBack_agree rs hag hw
  obtain ⟨r, hr⟩ := lastOfShape_wildcard rs (fun r h => (hrs r h).1) hc
  obtain ⟨hmem, hkeys⟩ := lastOfShape_spec rs hr
  rw [List.reverse_cons] at hkeys
  have hstat := staticKey_begins_request (hrs r hmem) hkeys hq hqs hagp hlen
  have hnode := shapeNode_of_lastOfShape rs hr
  have hpk : paramNames r.path ≠ [] := paramNames_ne_nil (by rw [hkeys]; simp)
  obtain ⟨k, ks', hks⟩ := List.exists_cons_of_ne_nil hpk
  refine ⟨r, params.set k ⟨q.data.drop (staticKeyOf r.path).length⟩, hr, ?_⟩
  simp only [Trie.setWildcardParam, inserted_node]
  rw [hnode]
  simp only [Entry.complete, hks]
  rw [if_pos (by simpa using hstat.length_le)]

theorem continuesAt_of_lastOfShape {k : String} {a : Addr} {r : Entry H}
    (h : lastOfShape rs (k :: a) = some r) : continuesAt rs a k = true :=
  List.any_eq_true.mpr ⟨r, (lastOfShape_spec rs h).1, by
    simp [nextKey_eq_some_iff, (lastOfShape_spec rs h).2]⟩

/-- The request `/`: the last route `/`, else the root wildcard's. -/
theorem search_inserted_root (hrs : ∀ r ∈ rs, RoutePath r.path) (params : RequestParams) :
    match lastOfShape rs [pathSep] <|> lastOfShape rs [wildcardParamStart] with
    | none => ((newTrie : Trie H).inserted rs).search pathSep params = some (none, params)
    | some r => ∃ a ps, ((newTrie : Trie H).inserted rs).search pathSep params = some (some a, ps) ∧
        lastOfShape rs a = some r := by
  have hsearch : ((newTrie : Trie H).inserted rs).search pathSep params =
      some (if rs.any (·.path = pathSep) then ((newTrie : Trie H).inserted rs).getChild [] pathSep
        else if continuesAt rs [] wildcardParamStart then
          ((newTrie : Trie H).inserted rs).getChild [] wildcardParamStart
        else none, params) := by
    simp [Trie.search, show pathSep.data = ['/'] from rfl]
  have hslash : lastOfShape rs [pathSep] = rs.reverse.find? (·.path = pathSep) := by
    simp only [lastOfShape, List.reverse_singleton, pathKeys_eq_sep_iff]
  rw [hsearch]
  cases hr : lastOfShape rs [pathSep] with
  | some r =>
    have hany : rs.any (·.path = pathSep) := by
      rw [hslash] at hr
      exact List.any_eq_true.mpr ⟨r, List.mem_reverse.mp (List.mem_of_find?_eq_some hr), by
        simpa using List.find?_some hr⟩
    simp only [Option.some_orElse, hany, if_true, inserted_getChild, continuesAt_of_lastOfShape rs hr]
    exact ⟨_, _, rfl, hr⟩
  | none =>
    have hany : rs.any (·.path = pathSep) = false := by
      rw [hslash, ← Option.not_isSome_iff_eq_none, List.find?_isSome] at hr
      simpa using hr
    simp only [Option.none_orElse, hany]
    cases hc : continuesAt rs [] wildcardParamStart with
    | true =>
      obtain ⟨r, hw⟩ := lastOfShape_wildcard rs (fun r h => (hrs r h).1) hc
      simp only [hw, inserted_getChild, hc, if_true]
      exact ⟨_, _, rfl, hw⟩
    | false =>
      cases hw : lastOfShape rs [wildcardParamStart] with
      | none => simp
      | some r => exact absurd (continuesAt_of_lastOfShape rs hw) (by simp [hc])

/-- **The trie's search is the greedy search**, for routes the router
registers and a request path that starts with `/`. -/
theorem search_inserted (hrs : ∀ r ∈ rs, RoutePath r.path) {q : String}
    (hq : q.data.head? = some '/') (params : RequestParams) :
    match greedySearch rs q with
    | none => ((newTrie : Trie H).inserted rs).search q params = some (none, params)
    | some r => ∃ a ps, ((newTrie : Trie H).inserted rs).search q params = some (some a, ps) ∧
        lastOfShape rs a = some r := by
  by_cases hqs : q = pathSep
  · subst hqs
    simpa [greedySearch, show pathSep.data = ['/'] from rfl] using search_inserted_root rs hrs params
  obtain ⟨qrest, hqd⟩ := List.head?_eq_some_iff.mp hq
  have hne := walks_of_ne_sep hq hqs
  obtain ⟨h, tl, hsplit⟩ := List.exists_cons_of_ne_nil (List.splitOnP_ne_nil (· == '/') qrest)
  have hcs : qrest.splitOn '/' = h :: tl := hsplit
  have hsegs : slowPathSplit q = ⟨h⟩ :: tl.map String.mk := by
    rw [slowPathSplit_of_cons hqd hqs, hcs]; rfl
  have hloop := descend_inserted rs tl [] [] h
  have hagree := greedyWalk_agree rs (slowPathSplit q) []
  simp only [greedySearch, if_neg hne]
  rw [Trie.search, if_neg hne, hqd]
  simp only [List.drop_one, List.tail_cons, Trie.scan_eq_descend, hcs, List.headD_cons, List.nil_append]
  rw [hsegs] at hagree ⊢
  cases hg : greedyWalk rs [] (⟨h⟩ :: tl.map String.mk) with
  | inl c =>
    rw [hg] at hloop hagree
    obtain ⟨pvs, hd⟩ := hloop
    obtain ⟨ks, rfl, hag, hks⟩ := hagree
    rw [List.append_nil] at hd ⊢
    simp only [hd, Trie.searchEnd, inserted_node, shapeNode_isEnd, inserted_findClosest]
    cases hl : lastOfShape rs ks.reverse with
    | some r => exact ⟨_, _, rfl, hl⟩
    | none =>
      simp only [Option.isSome_none, Bool.false_eq_true, if_false, Option.none_orElse]
      cases hw : wildcardBack rs ks.reverse with
      | some w =>
        obtain ⟨r, ps, hr, hs⟩ := setWildcardParam_back rs hrs hq hqs (hsegs ▸ hag) hw params
        simp only [hs, Option.some_bind, hr]
        exact ⟨_, _, rfl, hr⟩
      | none =>
        have hroot := wildcardBack_eq_none rs hw (by simpa using hks (List.cons_ne_nil _ _))
        simp [Trie.rootWildcard, hroot]
  | inr b =>
    rw [hg] at hloop hagree
    obtain ⟨ks, rfl, hag, -⟩ := hagree
    rw [List.append_nil] at hloop ⊢
    rw [hloop]
    cases hw : wildcardBack rs ks.reverse with
    | none => simp [hw]
    | some w =>
      obtain ⟨r, ps, hr, hs⟩ := setWildcardParam_back rs hrs hq hqs (hsegs ▸ hag) hw params
      simp only [hw, hs, Option.some_bind, hr]
      exact ⟨_, _, rfl, hr⟩

/-- The route of the wildcard the walk backs off to matches the request. -/
theorem matches_back (hrs : ∀ r ∈ rs, RoutePath r.path) {q : String} {ks : List String}
    (hag : KeysAgree ks (slowPathSplit q)) {w : Addr} (hw : wildcardBack rs ks.reverse = some w)
    {r : Entry H} (hr : lastOfShape rs w = some r) : matchesPath r.path q = true := by
  obtain ⟨p, rfl, -, hagp, hlen⟩ := wildcardBack_agree rs hag hw
  obtain ⟨hmem, hkeys⟩ := lastOfShape_spec rs hr
  rw [List.reverse_cons] at hkeys
  have hnw : wildcardParamStart ∉ p.reverse := by
    simpa [hkeys] using wildcard_not_mem_dropLast (hrs r hmem).1
  rw [matchesPath, hkeys]
  exact keysMatch_back hagp hnw hlen

/-- **Soundness**: the route the greedy search answers with matches the
request. -/
theorem greedySearch_matches (hrs : ∀ r ∈ rs, RoutePath r.path) {q : String}
    (hq : q.data.head? = some '/') {r : Entry H} (h : greedySearch rs q = some r) :
    matchesPath r.path q = true := by
  by_cases hqs : q = pathSep
  · subst hqs
    have hsplit : slowPathSplit pathSep = [pathSep] := by simp [slowPathSplit]
    simp only [greedySearch, show pathSep.data = ['/'] from rfl, or_true, if_true] at h
    cases h1 : lastOfShape rs [pathSep] with
    | some r1 =>
      rw [h1, Option.some_orElse, Option.some.injEq] at h
      subst h
      simp [matchesPath, hsplit, (lastOfShape_spec rs h1).2, keysMatch]
    | none =>
      rw [h1, Option.none_orElse] at h
      simp [matchesPath, hsplit, (lastOfShape_spec rs h).2, keysMatch]
  · have hne := walks_of_ne_sep hq hqs
    have hagree := greedyWalk_agree rs (slowPathSplit q) []
    simp only [greedySearch, if_neg hne] at h
    cases hg : greedyWalk rs [] (slowPathSplit q) with
    | inl c =>
      rw [hg] at h hagree
      obtain ⟨ks, rfl, hag, -⟩ := hagree
      rw [List.append_nil] at h
      dsimp only at h
      cases hl : lastOfShape rs ks.reverse with
      | some r1 =>
        rw [hl, Option.some_orElse, Option.some.injEq] at h
        subst h
        obtain ⟨ks', hc, hm⟩ := greedyWalk_inl_match rs _ [] _ hg
        have hc' : ks = ks' := List.reverse_injective (by simpa using hc)
        rw [matchesPath, (lastOfShape_spec rs hl).2, List.reverse_reverse, hc']
        exact hm
      | none =>
        rw [hl, Option.none_orElse] at h
        obtain ⟨w, hw, hr⟩ := Option.bind_eq_some.mp h
        exact matches_back rs hrs hag hw hr
    | inr b =>
      rw [hg] at h hagree
      obtain ⟨ks, rfl, hag, -⟩ := hagree
      rw [List.append_nil] at h
      dsimp only at h
      obtain ⟨w, hw, hr⟩ := Option.bind_eq_some.mp h
      exact matches_back rs hrs hag hw hr

end Answer

/-- **The trie's search is the greedy search, and answers with a route
that matches.** Routes the router registers, inserted into a new trie in
any order, and a request path that starts with `/`: `search` answers `nil`
where the greedy search has no route, and otherwise the complete node of
the route it picks, the last inserted of its shape, whose path matches the
request. -/
theorem search_greedy {rs : List (Entry H)} (hrs : ∀ r ∈ rs, RoutePath r.path) {q : String}
    (hq : q.data.head? = some '/') (params : RequestParams) :
    ∃ t, (newTrie : Trie H).insertAll rs = some t ∧
      match greedySearch rs q with
      | none => t.search q params = some (none, params)
      | some r => matchesPath r.path q = true ∧ ∃ a ps, t.search q params = some (some a, ps) ∧
          (t.node a).key = r.path ∧ (t.node a).routeName = r.routeName ∧
          (t.node a).handlers = r.handlers := by
  refine ⟨_, Trie.insertAll_eq _ rs fun r hr => (hrs r hr).1.segmentsNonempty, ?_⟩
  have hs := search_inserted rs hrs hq params
  cases hg : greedySearch rs q with
  | none => rw [hg] at hs; exact hs
  | some r =>
    rw [hg] at hs
    obtain ⟨a, ps, hsearch, hl⟩ := hs
    refine ⟨greedySearch_matches rs hrs hq hg, a, ps, hsearch, ?_⟩
    rw [inserted_node, shapeNode_of_lastOfShape rs hl]
    exact ⟨rfl, rfl, rfl⟩

/-- `/a/b/c`, `/a/:x/d` and the root wildcard `/*rest`: `/a/b/d` follows
`b` and stops, and backs off to the root wildcard. -/
theorem search_greedy_backs_off :
    let rs : List (Entry Nat) :=
      [⟨"/a/b/c", "abc", [1]⟩, ⟨"/a/:x/d", "axd", [2]⟩, ⟨"/*rest", "rest", [3]⟩]
    (∀ r ∈ rs, RoutePath r.path) ∧ ("/a/b/d" : String).data.head? = some '/' ∧
      ∃ t, (newTrie : Trie Nat).insertAll rs = some t ∧
        match greedySearch rs "/a/b/d" with
        | none => t.search "/a/b/d" {} = some (none, {})
        | some r => matchesPath r.path "/a/b/d" = true ∧ ∃ a ps, t.search "/a/b/d" {} = some (some a, ps) ∧
            (t.node a).key = r.path ∧ (t.node a).routeName = r.routeName ∧
            (t.node a).handlers = r.handlers := by
  intro rs
  exact ⟨by decide, rfl, @search_greedy Nat rs (by decide) "/a/b/d" rfl {}⟩

/-- The search does not go back: with `/a/b/c` and `/a/:x/d`, `/a/b/d`
follows `b`, stops, and answers `nil`, though `/a/:x/d` matches it. With
the root wildcard `/*rest` as well, it answers `/*rest`, though
`/a/:x/d` is more specific. -/
theorem search_no_backtrack :
    let rs : List (Entry Nat) := [⟨"/a/b/c", "abc", [1]⟩, ⟨"/a/:x/d", "axd", [2]⟩]
    matchesPath "/a/:x/d" "/a/b/d" = true ∧
      ((newTrie : Trie Nat).insertAll rs).bind (fun t => (t.search "/a/b/d" {}).map (·.1)) = some none ∧
      ((newTrie : Trie Nat).insertAll (rs ++ [⟨"/*rest", "rest", [3]⟩])).bind
          (fun t => (t.search "/a/b/d" {}).map fun r => r.1.map fun a => (t.node a).key) =
        some (some "/*rest") := by
  decide

/-- Why a parameter name must not hold a `:`. The well-formed `/a/*x:y`
gets the static key `/a/*x`, cut at the `:` in its wildcard's name. With
`/a/b/c` beside it, `/a/b` stops at the node `b`, which is not complete,
and backs off to the wildcard, whose static key is longer than `/a/b`: the
binding `q[len(n.staticKey):]` panics. -/
theorem search_wildcard_colon_panics :
    let rs : List (Entry Nat) := [⟨"/a/*x:y", "w", [1]⟩, ⟨"/a/b/c", "c", [2]⟩]
    (∀ r ∈ rs, WellFormedPath r.path) ∧ ((newTrie : Trie Nat).insertAll rs).isSome ∧
      ((newTrie : Trie Nat).insertAll rs).bind (fun t => t.search "/a/b" {}) = none := by
  decide

end Router

end IrisWeb
