import IrisWeb.Router.Trie.Params
import IrisWeb.Router.Model.Route
/-!
# The route trie — reverse routing

`Route.ResolvePath` fills a route's formatted path with arguments, and the
trie's `search` reads them back. For a route with named parameters and no
`*`, the loop of `ResolvePath` puts the arguments in the placeholders of
the formatted parts, in order (`resolvePath_fill`); the greedy walk over
the resolved path takes the route's own keys and collects the arguments
(`greedyWalk_fill`). So a trie that holds the route, the only one of its
shape, answers the resolved path with the route's node and binds the
route's parameter names to the arguments (`search_resolvePath`).

**What the round trip needs of an argument.** It must not be empty, hold a
`/` or a `%v`, or be a key of any route: the walk prefers a static key, so
an argument that is one is read as that route's static part.
-/

namespace IrisWeb

namespace Router

open Context (RequestParams)

/-! ## Placeholders -/

/-- Whether `%v` occurs in a path. -/
def hasVerb : List Char → Bool
  | '%' :: 'v' :: _ => true
  | _ :: rest => hasVerb rest
  | [] => false

theorem replaceVerb_cons_cons {c d : Char} (h : ¬(c = '%' ∧ d = 'v')) (rest new : List Char) :
    replaceVerb (c :: d :: rest) new = c :: replaceVerb (d :: rest) new := by
  by_cases hc : c = '%'
  · subst hc
    have hd : d ≠ 'v' := fun hd => h ⟨rfl, hd⟩
    simp [replaceVerb, hd]
  · simp [replaceVerb, hc]

theorem hasVerb_cons_cons {c d : Char} {rest : List Char} :
    hasVerb (c :: d :: rest) = ((c = '%' ∧ d = 'v') || hasVerb (d :: rest)) := by
  by_cases hc : c = '%'
  · subst hc; by_cases hd : d = 'v' <;> simp [hasVerb, hd]
  · simp [hasVerb, hc]

@[simp] theorem hasVerb_singleton (c : Char) : hasVerb [c] = false := by
  by_cases hc : c = '%' <;> simp [hasVerb, hc]

/-- Appending what does not start with `v` adds no placeholder across the
seam. -/
theorem hasVerb_append : ∀ (a b : List Char), b.head? ≠ some 'v' →
    hasVerb (a ++ b) = (hasVerb a || hasVerb b)
  | [], b, _ => by simp [hasVerb]
  | [c], [], _ => by simp [hasVerb]
  | [c], d :: b, hb => by
    have hd : d ≠ 'v' := fun h => hb (by simp [h])
    simp [hasVerb_cons_cons, hd]
  | c :: d :: a, b, hb => by
    rw [List.cons_append, List.cons_append, hasVerb_cons_cons, ← List.cons_append,
      hasVerb_append (d :: a) b hb, hasVerb_cons_cons, Bool.or_assoc]

/-- `strings.Replace` skips a prefix without a placeholder, when no
placeholder straddles the seam. -/
theorem replaceVerb_append : ∀ (a b new : List Char), hasVerb a = false →
    (a.getLast? = some '%' → b.head? ≠ some 'v') →
    replaceVerb (a ++ b) new = a ++ replaceVerb b new
  | [], b, new, _, _ => rfl
  | [c], [], new, _, _ => by by_cases hc : c = '%' <;> simp [replaceVerb, hc]
  | [c], d :: b, new, _, hl => by
    rw [List.singleton_append, replaceVerb_cons_cons]
    · rfl
    · rintro ⟨rfl, rfl⟩; exact hl rfl rfl
  | c :: d :: a, b, new, ha, hl => by
    rw [hasVerb_cons_cons] at ha
    simp only [Bool.or_eq_false_iff, decide_eq_false_iff_not] at ha
    rw [List.cons_append, List.cons_append, replaceVerb_cons_cons ha.1, ← List.cons_append,
      replaceVerb_append (d :: a) b new ha.2 (by simpa using hl)]
    rfl

@[simp] theorem replaceVerb_formatVerb (rest new : List Char) :
    replaceVerb (formatVerb ++ rest) new = new ++ rest := by
  simp [formatVerb, replaceVerb]

theorem replaceVerb_of_hasVerb (a new : List Char) (h : hasVerb a = false) : replaceVerb a new = a := by
  simpa [replaceVerb] using replaceVerb_append a [] new h (by simp)

/-! ## The loop of `ResolvePath` -/

/-- The formatted parts with each placeholder in turn replaced by the next
argument: what the loop of `ResolvePath` makes of them. -/
def fillVerbs : List (List Char) → List String → List (List Char)
  | [], _ => []
  | p :: ps, [] => p :: ps
  | p :: ps, a :: as =>
    if p = formatVerb then a.data :: fillVerbs ps as else p :: fillVerbs ps (a :: as)

@[simp] theorem length_fillVerbs : ∀ (parts : List (List Char)) (args : List String),
    (fillVerbs parts args).length = parts.length
  | [], _ => rfl
  | _ :: _, [] => rfl
  | p :: ps, a :: as => by
    unfold fillVerbs
    split_ifs <;> simp [length_fillVerbs]

theorem intercalate_cons_of_ne_nil (a : List Char) {l : List (List Char)} (hl : l ≠ []) :
    ['/'].intercalate (a :: l) = a ++ '/' :: ['/'].intercalate l := by
  obtain ⟨b, l, rfl⟩ := List.exists_cons_of_ne_nil hl
  exact intercalate_cons_cons a b l

/-- The loop of `ResolvePath` over a path without placeholders. -/
theorem foldl_replaceVerb_of_hasVerb (args : List String) (a : List Char) (h : hasVerb a = false) :
    args.foldl (fun f s => replaceVerb f s.data) a = a := by
  induction args with
  | nil => rfl
  | cons x xs ih => rw [List.foldl_cons, replaceVerb_of_hasVerb a x.data h, ih]

theorem foldl_replaceVerb_append (args : List String) (a b : List Char) (ha : hasVerb a = false)
    (hl : a.getLast? ≠ some '%') :
    args.foldl (fun f s => replaceVerb f s.data) (a ++ b) =
      a ++ args.foldl (fun f s => replaceVerb f s.data) b := by
  induction args generalizing b with
  | nil => rfl
  | cons x xs ih => rw [List.foldl_cons, replaceVerb_append a b x.data ha (absurd · hl), ih]; rfl

/-- A filled part and the `/` after it hold no placeholder. -/
theorem hasVerb_append_sep {a : List Char} (h : hasVerb a = false) : hasVerb (a ++ ['/']) = false := by
  rw [hasVerb_append a ['/'] (by simp), h]; rfl

/-- **The loop of `ResolvePath` fills the placeholders in order**, when no
other part and no argument holds one. -/
theorem foldl_replaceVerb_intercalate : ∀ (parts : List (List Char)) (args : List String),
    (∀ p ∈ parts, p = formatVerb ∨ hasVerb p = false) → (∀ x ∈ args, hasVerb x.data = false) →
    args.foldl (fun f s => replaceVerb f s.data) (['/'].intercalate parts) =
      ['/'].intercalate (fillVerbs parts args)
  | [], args, _, _ => foldl_replaceVerb_of_hasVerb args [] rfl
  | _ :: _, [], _, _ => rfl
  | p :: ps, x :: xs, hp, hx => by
    have hxs : ∀ y ∈ xs, hasVerb y.data = false := fun y hy => hx y (.tail _ hy)
    have hps : ∀ q ∈ ps, q = formatVerb ∨ hasVerb q = false := fun q hq => hp q (.tail _ hq)
    by_cases hne : ps = []
    · -- the last part
      subst hne
      by_cases hv : p = formatVerb
      · subst hv
        simp [fillVerbs, List.intercalate, replaceVerb, formatVerb,
          foldl_replaceVerb_of_hasVerb xs x.data (hx x (.head _))]
      · have hp' : hasVerb p = false := (hp p (.head _)).resolve_left hv
        simp [fillVerbs, hv, List.intercalate, replaceVerb_of_hasVerb p x.data hp',
          foldl_replaceVerb_of_hasVerb xs p hp']
    · have hne' : ∀ as, fillVerbs ps as ≠ [] := fun as h => hne (by simpa using congrArg List.length h)
      rw [intercalate_cons_of_ne_nil p hne]
      by_cases hv : p = formatVerb
      · -- a placeholder takes the next argument
        subst hv
        have hxv := hx x (.head _)
        rw [fillVerbs, if_pos rfl, intercalate_cons_of_ne_nil _ (hne' xs), List.foldl_cons,
          replaceVerb_formatVerb, ← List.singleton_append, ← List.append_assoc,
          foldl_replaceVerb_append xs _ _ (hasVerb_append_sep hxv) (by simp),
          foldl_replaceVerb_intercalate ps xs hps hxs]
        simp
      · -- a static part is kept
        have hp' : hasVerb p = false := (hp p (.head _)).resolve_left hv
        rw [fillVerbs, if_neg hv, intercalate_cons_of_ne_nil _ (hne' _)]
        have hsplit : p ++ '/' :: ['/'].intercalate ps = (p ++ ['/']) ++ ['/'].intercalate ps := by simp
        rw [hsplit, foldl_replaceVerb_append _ _ _ (hasVerb_append_sep hp') (by simp),
          foldl_replaceVerb_intercalate ps (x :: xs) hps hx]
        simp

/-! ## The formatted path -/

theorem splitOn_sep_cons (rest : List Char) : ('/' :: rest).splitOn '/' = [] :: rest.splitOn '/' := by
  unfold List.splitOn; rw [List.splitOnP_cons]; simp

theorem mem_intercalate {x : Char} : ∀ {l : List (List Char)} {s : List Char}, s ∈ l → x ∈ s →
    x ∈ ['/'].intercalate l
  | a :: l, s, hs, hx => by
    by_cases hl : l = []
    · subst hl
      simpa [List.intercalate, List.mem_singleton.mp hs] using hx
    rw [intercalate_cons_of_ne_nil a hl]
    rcases List.mem_cons.mp hs with rfl | hs
    · exact List.mem_append_left _ hx
    · exact List.mem_append_right _ (List.mem_cons_of_mem _ (mem_intercalate hs hx))

theorem mem_of_mem_splitOn {x : Char} {l s : List Char} (hs : s ∈ l.splitOn '/') (hx : x ∈ s) :
    x ∈ l := by
  simpa only [List.intercalate_splitOn] using mem_intercalate hs hx

/-- **`formatPath` part by part**: on a path with a `:` or a `*`, whose
parts are not empty. -/
theorem formatPath_data {path : String} {rest : List Char} (hp : path.data = '/' :: rest)
    (hne : ∀ s ∈ rest.splitOn '/', s ≠ []) (hc : ':' ∈ path.data ∨ '*' ∈ path.data) :
    (formatPath path).data = '/' :: ['/'].intercalate ((rest.splitOn '/').map formatPart) := by
  rw [formatPath, if_pos hc, hp, splitOn_sep_cons, List.filter_cons_of_neg (by simp),
    List.filter_eq_self.mpr (by simpa using hne)]

theorem formatPart_piece {t : List Char} (hne : t ≠ []) (hsep : '/' ∉ t) :
    formatPart t ≠ [] ∧ '/' ∉ formatPart t := by
  unfold formatPart
  split_ifs
  · simp [formatVerb]
  · exact ⟨hne, hsep⟩

/-- A formatted part is a placeholder, or a part with none. -/
theorem formatPart_verb {t : List Char} (h : t.head? ≠ some ':' → hasVerb t = false) :
    formatPart t = formatVerb ∨ hasVerb (formatPart t) = false := by
  unfold formatPart
  split_ifs with hv
  · exact .inl rfl
  · exact .inr (h (not_or.mp hv).1)

/-- A path with a named part is not its own format: the part becomes `%v`. -/
theorem formatPath_ne_self {path : String} {rest : List Char} (hp : path.data = '/' :: rest)
    (hne : ∀ s ∈ rest.splitOn '/', s ≠ []) {s : List Char} (hs : s ∈ rest.splitOn '/')
    (hs' : s.head? = some ':') : formatPath path ≠ path := by
  intro h
  have hcolon : ':' ∈ path.data := by
    rw [hp]; exact List.mem_cons_of_mem _ (mem_of_mem_splitOn hs (List.mem_of_mem_head? hs'))
  have hrest : ['/'].intercalate ((rest.splitOn '/').map formatPart) = rest := by
    have h' := congrArg String.data h
    rw [formatPath_data hp hne (.inl hcolon), hp] at h'
    exact (List.cons.inj h').2
  have hsplit := congrArg (·.splitOn '/') hrest
  simp only at hsplit
  rw [List.splitOn_intercalate _ _ (by
      simp only [List.mem_map]
      rintro _ ⟨t, ht, rfl⟩
      exact (formatPart_piece (hne t ht) (not_mem_of_mem_splitOn ht)).2)
    (by simpa using List.ne_nil_of_mem hs)] at hsplit
  have hfix : formatPart s = s := List.map_eq_map_iff.mp (hsplit.trans (List.map_id _).symm) s hs
  rw [show formatPart s = formatVerb by simp [formatPart, hs']] at hfix
  rw [← hfix] at hs'
  exact absurd hs' (by decide)

variable {H : Type}

/-- **What `ResolvePath` returns for a route with a named parameter and no
`*`**: the formatted parts with the placeholders filled in order, when no
static part and no argument holds a `%v`. -/
theorem resolvePath_fill (r : Route H) (hfmt : r.formattedPath = formatPath r.path) {rest : List Char}
    (hp : r.path.data = '/' :: rest) (hne : ∀ s ∈ rest.splitOn '/', s ≠ [])
    {s : List Char} (hs : s ∈ rest.splitOn '/') (hs' : s.head? = some ':') (hwild : '*' ∉ r.path.data)
    (hlit : ∀ s ∈ rest.splitOn '/', s.head? ≠ some ':' → hasVerb s = false)
    (args : List String) (hargs : ∀ x ∈ args, hasVerb x.data = false) :
    r.resolvePath args =
      some ⟨'/' :: ['/'].intercalate (fillVerbs ((rest.splitOn '/').map formatPart) args)⟩ := by
  have hcolon : ':' ∈ r.path.data := by
    rw [hp]; exact List.mem_cons_of_mem _ (mem_of_mem_splitOn hs (List.mem_of_mem_head? hs'))
  have hdiff : r.path ≠ r.formattedPath := fun h =>
    formatPath_ne_self hp hne hs hs' (hfmt ▸ h).symm
  unfold Route.resolvePath
  rw [if_neg hdiff]
  rcases hc : r.path.data.getLast? with _ | c
  · simp [hp] at hc
  · have hc' : c ≠ '*' := fun h => hwild (h ▸ List.mem_of_getLast?_eq_some hc)
    simp only
    rw [if_neg hc', hfmt, formatPath_data hp hne (.inl hcolon), ← List.singleton_append,
      foldl_replaceVerb_append args ['/'] _ rfl (by simp), foldl_replaceVerb_intercalate _ _ ?_ hargs]
    · rfl
    simp only [List.mem_map]
    rintro _ ⟨t, ht, rfl⟩
    exact formatPart_verb (hlit t ht)

/-- `/users/:id` with `7`: the placeholder of the second part takes it. -/
theorem resolvePath_fill_users :
    let r : Route Nat :=
      { name := "user", method := "GET", methodBckp := "GET", subdomain := "", handlers := [0],
        path := "/users/:id", formattedPath := formatPath "/users/:id" }
    r.formattedPath = formatPath r.path ∧ r.path.data = '/' :: "users/:id".data ∧
      (∀ s ∈ "users/:id".data.splitOn '/', s ≠ []) ∧ ":id".data ∈ "users/:id".data.splitOn '/' ∧
      ":id".data.head? = some ':' ∧ '*' ∉ r.path.data ∧
      (∀ s ∈ "users/:id".data.splitOn '/', s.head? ≠ some ':' → hasVerb s = false) ∧
      (∀ x ∈ ["7"], hasVerb x.data = false) ∧
      r.resolvePath ["7"] =
        some ⟨'/' :: ['/'].intercalate (fillVerbs (("users/:id".data.splitOn '/').map formatPart) ["7"])⟩ := by
  intro r
  have hp : r.path.data = '/' :: "users/:id".data := rfl
  have hne : ∀ s ∈ "users/:id".data.splitOn '/', s ≠ [] := by decide
  have hs : ":id".data ∈ "users/:id".data.splitOn '/' := by decide
  have hs' : ":id".data.head? = some ':' := rfl
  have hwild : '*' ∉ r.path.data := by decide
  have hlit : ∀ s ∈ "users/:id".data.splitOn '/', s.head? ≠ some ':' → hasVerb s = false := by decide
  have hargs : ∀ x ∈ ["7"], hasVerb x.data = false := by decide
  exact ⟨rfl, hp, hne, hs, hs', hwild, hlit, hargs, resolvePath_fill r rfl hp hne hs hs' hwild hlit ["7"] hargs⟩

/-! ## The walk over a resolved path -/

theorem fillVerbs_nil_right : ∀ parts : List (List Char), fillVerbs parts [] = parts
  | [] => rfl
  | _ :: _ => rfl

theorem fillVerbs_cons_of_ne {p : List Char} (h : p ≠ formatVerb) (ps : List (List Char))
    (args : List String) : fillVerbs (p :: ps) args = p :: fillVerbs ps args := by
  cases args with
  | nil => simp [fillVerbs, fillVerbs_nil_right]
  | cons x xs => simp [fillVerbs, h]

section Walk

variable (rs : List (Entry H))

theorem continuesAt_of_prefix {e : Entry H} (he : e ∈ rs) {a : Addr} {k : String}
    (h : a.reverse ++ [k] <+: pathKeys e.path) : continuesAt rs a k = true := by
  rw [← any_prefix_iff_continuesAt]
  exact List.any_eq_true.mpr ⟨e, he, by simpa using h⟩

theorem continuesAt_fresh {x : String} (h : ∀ e ∈ rs, x ∉ pathKeys e.path) (a : Addr) :
    continuesAt rs a x = false := by
  rw [← any_prefix_iff_continuesAt, List.any_eq_false]
  intro e he hp
  exact h e he ((of_decide_eq_true hp).subset (by simp))

/-- **The greedy walk over a resolved path follows the route**, and
collects the arguments the placeholders took. -/
theorem greedyWalk_fill {e : Entry H} (he : e ∈ rs) : ∀ (segs : List (List Char)) (args : List String)
    (a : Addr), a.reverse ++ segs.map (fun s => segmentKey ⟨s⟩) = pathKeys e.path →
    (∀ s ∈ segs, s.head? ≠ some '*' ∧ (s.head? ≠ some ':' → hasVerb s = false)) →
    (segs.flatMap fun s => paramKeyOf ⟨s⟩).length ≤ args.length →
    (∀ x ∈ args, ∀ e ∈ rs, x ∉ pathKeys e.path) →
    greedyWalk rs a ((fillVerbs (segs.map formatPart) args).map String.mk) =
        .inl ((segs.map fun s => segmentKey ⟨s⟩).reverse ++ a) ∧
      paramValues (segs.map fun s => segmentKey ⟨s⟩) ((fillVerbs (segs.map formatPart) args).map String.mk) =
        args.take (segs.flatMap fun s => paramKeyOf ⟨s⟩).length
  | [], args, a, _, _, _, _ => by cases args <;> simp [fillVerbs, greedyWalk, paramValues]
  | t :: segs, args, a, hkeys, hsegs, hlen, hfresh => by
    have hcont : continuesAt rs a (segmentKey ⟨t⟩) = true :=
      continuesAt_of_prefix rs he ⟨segs.map fun s => segmentKey ⟨s⟩, by rw [← hkeys]; simp⟩
    have hkeys' : (segmentKey ⟨t⟩ :: a).reverse ++ segs.map (fun s => segmentKey ⟨s⟩) = pathKeys e.path := by
      rw [← hkeys]; simp
    obtain ⟨hstar, hlit⟩ := hsegs t (.head _)
    have hsegs' := fun s hs => hsegs s (List.mem_cons_of_mem t hs)
    by_cases hnamed : t.head? = some ':'
    · -- a named parameter takes the next argument
      obtain ⟨name, rfl⟩ : ∃ name, t = ':' :: name := by
        cases t with
        | nil => simp at hnamed
        | cons c name => simp at hnamed; exact ⟨name, by rw [hnamed]⟩
      obtain ⟨x, xs, rfl⟩ : ∃ x xs, args = x :: xs := by
        cases args with
        | nil => simp [paramKeyOf] at hlen
        | cons x xs => exact ⟨x, xs, rfl⟩
      have hk : segmentKey ⟨':' :: name⟩ = paramStart := rfl
      have hx : continuesAt rs a x = false := continuesAt_fresh rs (hfresh x (.head _)) a
      have hxp : paramStart ≠ x := fun h => by
        simp [hk, h, hx] at hcont
      have hgreedy : greedyKey rs a x = some paramStart := by
        simp [greedyKey, List.find?_cons, hx, ← hk, hcont]
      obtain ⟨ih1, ih2⟩ := greedyWalk_fill he segs xs (paramStart :: a) (by rw [← hk]; exact hkeys') hsegs'
        (by simpa [paramKeyOf] using hlen) (fun y hy => hfresh y (.tail _ hy))
      have hpw : paramStart ≠ wildcardParamStart := by decide
      refine ⟨?_, ?_⟩
      · simp [formatPart, fillVerbs, greedyWalk, hgreedy, hxp, hpw, ih1, hk]
      · simp [formatPart, fillVerbs, paramValues, hxp, ih2, hk, paramKeyOf]
    · -- a static part is its own key
      have hk : segmentKey ⟨t⟩ = ⟨t⟩ := segmentKey_of_literal hnamed hstar
      have hfp : formatPart t = t := by simp [formatPart, hnamed, hstar]
      have hv : t ≠ formatVerb := by rintro rfl; simp [formatVerb, hasVerb] at hlit
      have hpk : paramKeyOf ⟨t⟩ = [] := by
        unfold paramKeyOf; split <;> simp_all
      rw [hk] at hcont hkeys'
      have hgreedy : greedyKey rs a ⟨t⟩ = some ⟨t⟩ := by
        simp [greedyKey, List.find?_cons, hcont]
      obtain ⟨ih1, ih2⟩ := greedyWalk_fill he segs args (⟨t⟩ :: a) hkeys' hsegs'
        (by simpa [hpk] using hlen) hfresh
      refine ⟨?_, ?_⟩
      · simp [hfp, fillVerbs_cons_of_ne hv, greedyWalk, hgreedy, ih1, hk]
      · simp [hfp, fillVerbs_cons_of_ne hv, paramValues, ih2, hk, hpk]

theorem lastOfShape_of_only {e : Entry H} (he : e ∈ rs) (honly : ∀ e' ∈ rs, SameShape e' e → e' = e) :
    lastOfShape rs (pathKeys e.path).reverse = some e := by
  unfold lastOfShape
  rcases h : rs.reverse.find? fun r => pathKeys r.path = (pathKeys e.path).reverse.reverse with _ | e'
  · simpa using List.find?_eq_none.mp h e (List.mem_reverse.mpr he)
  · have hs : SameShape e' e := by simpa using List.find?_some h
    rw [h, honly e' (List.mem_reverse.mp (List.mem_of_find?_eq_some h)) hs]

end Walk

theorem mem_fillVerbs : ∀ {parts : List (List Char)} {args : List String} {f : List Char},
    f ∈ fillVerbs parts args → f ∈ parts ∨ ∃ x ∈ args, f = x.data
  | [], _, _, h => by simp [fillVerbs] at h
  | _ :: _, [], _, h => .inl h
  | p :: ps, x :: xs, f, h => by
    unfold fillVerbs at h
    split_ifs at h
    · rcases List.mem_cons.mp h with rfl | h
      · exact .inr ⟨x, .head _, rfl⟩
      · rcases mem_fillVerbs h with h | ⟨y, hy, rfl⟩
        · exact .inl (.tail _ h)
        · exact .inr ⟨y, .tail _ hy, rfl⟩
    · rcases List.mem_cons.mp h with rfl | h
      · exact .inl (.head _)
      · rcases mem_fillVerbs h with h | h
        · exact .inl (.tail _ h)
        · exact .inr h

theorem zip_take_length {α β : Type} : ∀ (l : List α) (m : List β), l.zip (m.take l.length) = l.zip m
  | [], _ => rfl
  | _ :: _, [] => rfl
  | _ :: l, _ :: m => by simp [zip_take_length l m]

/-- A path whose parts declare a parameter and hold no `*` has a named part. -/
theorem exists_named_part {parts : List (List Char)} (hstar : ∀ s ∈ parts, s.head? ≠ some '*')
    (h : (parts.flatMap fun s => paramKeyOf ⟨s⟩) ≠ []) : ∃ s ∈ parts, s.head? = some ':' := by
  obtain ⟨s, hs, hk⟩ : ∃ s ∈ parts, paramKeyOf ⟨s⟩ ≠ [] := by
    simpa [List.flatMap_eq_nil_iff] using h
  refine ⟨s, hs, ?_⟩
  have hs2 := hstar s hs
  revert hk hs2
  unfold paramKeyOf
  split <;> simp_all

/-- Every part of a filled path is a non-empty segment without `/`. -/
theorem fill_piece {rest : List Char} (hne : ∀ s ∈ rest.splitOn '/', s ≠ []) {args : List String}
    (hargs : ∀ x ∈ args, x.data ≠ [] ∧ '/' ∉ x.data) {f : List Char}
    (hf : f ∈ fillVerbs ((rest.splitOn '/').map formatPart) args) : f ≠ [] ∧ '/' ∉ f := by
  rcases mem_fillVerbs hf with hf | ⟨x, hx, rfl⟩
  · obtain ⟨t, ht, rfl⟩ := List.mem_map.mp hf
    exact formatPart_piece (hne t ht) (not_mem_of_mem_splitOn ht)
  · exact hargs x hx

/-- The segments of a path joined from non-empty parts without `/` are
those parts. -/
theorem slowPathSplit_intercalate {F : List (List Char)} (hF : ∀ f ∈ F, f ≠ [] ∧ '/' ∉ f)
    (hFne : F ≠ []) :
    (⟨'/' :: ['/'].intercalate F⟩ : String) ≠ pathSep ∧
      slowPathSplit ⟨'/' :: ['/'].intercalate F⟩ = F.map String.mk := by
  have hFsplit : (['/'].intercalate F).splitOn '/' = F :=
    List.splitOn_intercalate F '/' (fun f hf => (hF f hf).2) hFne
  have hqsep : (⟨'/' :: ['/'].intercalate F⟩ : String) ≠ pathSep := by
    intro h
    have hI : ['/'].intercalate F = [] := (List.cons.inj (congrArg String.data h)).2
    rw [hI] at hFsplit
    exact (hF [] (by rw [← hFsplit]; simp [List.splitOn_nil])).1 rfl
  exact ⟨hqsep, by rw [slowPathSplit_of_cons rfl hqsep, hFsplit]⟩

theorem keys_of_cons {path : String} {rest : List Char} (hp : path.data = '/' :: rest)
    (hsep : path ≠ pathSep) :
    pathKeys path = (rest.splitOn '/').map (fun s => segmentKey ⟨s⟩) ∧
      paramNames path = (rest.splitOn '/').flatMap fun s => paramKeyOf ⟨s⟩ := by
  rw [pathKeys, paramNames, slowPathSplit_of_cons hp hsep, List.map_map, List.flatMap_map]
  exact ⟨rfl, rfl⟩

/-- An argument `ResolvePath` can put in a segment and a search reads
back: not empty, without `/` or `%v`, and no route's key. -/
def ResolvableArg (rs : List (Entry H)) (x : String) : Prop :=
  x.data ≠ [] ∧ '/' ∉ x.data ∧ hasVerb x.data = false ∧ ∀ e ∈ rs, x ∉ pathKeys e.path

instance (rs : List (Entry H)) (x : String) : Decidable (ResolvableArg rs x) :=
  inferInstanceAs (Decidable (_ ∧ _ ∧ _ ∧ ∀ e ∈ rs, x ∉ pathKeys e.path))

/-- **Reverse routing round trip.** A route with named parameters and no
`*`, the only one of its shape among the routes a trie is built from,
resolves the arguments to a path that the trie's search answers with the
route's node, binding the route's parameter names to the arguments in
order. -/
theorem search_resolvePath (rs : List (Entry H)) (hrs : ∀ e ∈ rs, WellFormedPath e.path)
    (r : Route H) (hfmt : r.formattedPath = formatPath r.path)
    (he : ⟨r.path, r.name, r.handlers⟩ ∈ rs)
    (honly : ∀ e ∈ rs, SameShape e ⟨r.path, r.name, r.handlers⟩ → e = ⟨r.path, r.name, r.handlers⟩)
    (hnamed : paramNames r.path ≠ []) (hwild : '*' ∉ r.path.data)
    (hlit : ∀ s ∈ slowPathSplit r.path, s.data.head? ≠ some ':' → hasVerb s.data = false)
    (args : List String) (hlen : (paramNames r.path).length ≤ args.length)
    (hargs : ∀ x ∈ args, ResolvableArg rs x) (params : RequestParams) :
    ∃ q t a, r.resolvePath args = some q ∧ (newTrie : Trie H).insertAll rs = some t ∧
      t.search q params =
        some (some a, ((paramNames r.path).zip args).foldl (fun ps kv => ps.set kv.1 kv.2) params) ∧
      (t.node a).routeName = r.name ∧ (t.node a).handlers = r.handlers := by
  have hsep : r.path ≠ pathSep := fun h => hnamed (by rw [h]; rfl)
  obtain ⟨hhead, hne, -, -⟩ := (hrs _ he).resolve_left hsep
  obtain ⟨rest, hp⟩ := List.head?_eq_some_iff.mp hhead
  have hsplit := slowPathSplit_of_cons hp hsep
  obtain ⟨hkeys, hnames⟩ := keys_of_cons hp hsep
  have hne' : ∀ s ∈ rest.splitOn '/', s ≠ [] := fun s hs =>
    hne ⟨s⟩ (by rw [hsplit]; exact List.mem_map_of_mem _ hs)
  have hstar : ∀ s ∈ rest.splitOn '/', s.head? ≠ some '*' := fun s hs h =>
    hwild (by rw [hp]; exact List.mem_cons_of_mem _ (mem_of_mem_splitOn hs (List.mem_of_mem_head? h)))
  have hlit' : ∀ s ∈ rest.splitOn '/', s.head? ≠ some ':' → hasVerb s = false := fun s hs =>
    hlit ⟨s⟩ (by rw [hsplit]; exact List.mem_map_of_mem _ hs)
  obtain ⟨s, hs, hs'⟩ := exists_named_part hstar (by rwa [hnames] at hnamed)
  have hres := resolvePath_fill r hfmt hp hne' hs hs' hwild hlit' args fun x hx => (hargs x hx).2.2.1
  -- the resolved path's segments are the filled parts
  set F := fillVerbs ((rest.splitOn '/').map formatPart) args with hF
  have hFne : F ≠ [] := by
    rw [hF, ← List.length_pos, length_fillVerbs, List.length_map]
    exact List.length_pos.mpr (List.ne_nil_of_mem hs)
  obtain ⟨hqsep, hqsplit⟩ := slowPathSplit_intercalate
    (fun f hf => fill_piece hne' (fun x hx => ⟨(hargs x hx).1, (hargs x hx).2.1⟩) hf) hFne
  -- the walk, the route's node and the search
  obtain ⟨hwalk, hvals⟩ := greedyWalk_fill rs he (rest.splitOn '/') args [] (by rw [hkeys]; rfl)
    (fun t ht => ⟨hstar t ht, hlit' t ht⟩) (by rwa [← hnames]) fun x hx => (hargs x hx).2.2.2
  rw [← hkeys, List.append_nil, ← hF, ← hqsplit] at hwalk
  rw [← hkeys, ← hF, ← hqsplit, ← hnames] at hvals
  have hlast := lastOfShape_of_only rs he honly
  refine ⟨_, _, (pathKeys r.path).reverse, hres,
    Trie.insertAll_eq newTrie rs fun e he => (hrs e he).segmentsNonempty, ?_, ?_, ?_⟩
  · rw [search_binds_params rs (show (⟨'/' :: ['/'].intercalate F⟩ : String).data.head? = some '/' from rfl)
      hqsep hwalk hlast params]
    simp only [hvals, zip_take_length]
  all_goals rw [inserted_node, shapeNode_of_lastOfShape rs hlast]; rfl

theorem search_resolvePath_users :
    let rs : List (Entry Nat) :=
      [⟨"/users/:id/posts/:post", "post", [0]⟩, ⟨"/users/new/posts/:post", "newPost", [1]⟩]
    let r : Route Nat :=
      { name := "post", method := "GET", methodBckp := "GET", subdomain := "", handlers := [0],
        path := "/users/:id/posts/:post", formattedPath := formatPath "/users/:id/posts/:post" }
    let args := ["7", "hello"]
    (∀ e ∈ rs, WellFormedPath e.path) ∧ r.formattedPath = formatPath r.path ∧
      ⟨r.path, r.name, r.handlers⟩ ∈ rs ∧
      (∀ e ∈ rs, SameShape e ⟨r.path, r.name, r.handlers⟩ → e = ⟨r.path, r.name, r.handlers⟩) ∧
      paramNames r.path ≠ [] ∧ '*' ∉ r.path.data ∧
      (∀ s ∈ slowPathSplit r.path, s.data.head? ≠ some ':' → hasVerb s.data = false) ∧
      (paramNames r.path).length ≤ args.length ∧ (∀ x ∈ args, ResolvableArg rs x) ∧
      ∃ q t a, r.resolvePath args = some q ∧ (newTrie : Trie Nat).insertAll rs = some t ∧
        t.search q {} = some (some a, ((paramNames r.path).zip args).foldl (fun ps kv => ps.set kv.1 kv.2) {}) ∧
        (t.node a).routeName = r.name ∧ (t.node a).handlers = r.handlers := by
  intro rs r args
  have hrs : ∀ e ∈ rs, WellFormedPath e.path := by decide
  have honly : ∀ e ∈ rs, SameShape e ⟨r.path, r.name, r.handlers⟩ → e = ⟨r.path, r.name, r.handlers⟩ := by
    intro e he hs
    simp only [rs, List.mem_cons, List.mem_singleton, List.not_mem_nil, or_false] at he
    rcases he with rfl | rfl
    · rfl
    · exact absurd hs (by decide)
  have hnamed : paramNames r.path ≠ [] := by decide
  have hwild : '*' ∉ r.path.data := by decide
  have hlit : ∀ s ∈ slowPathSplit r.path, s.data.head? ≠ some ':' → hasVerb s.data = false := by decide
  have hlen : (paramNames r.path).length ≤ args.length := by decide
  have hargs : ∀ x ∈ args, ResolvableArg rs x := by decide
  exact ⟨hrs, rfl, .head _, honly, hnamed, hwild, hlit, hlen, hargs,
    search_resolvePath rs hrs r rfl (.head _) honly hnamed hwild hlit args hlen hargs {}⟩

end Router

end IrisWeb
