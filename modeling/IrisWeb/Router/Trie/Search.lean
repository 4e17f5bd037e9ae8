import IrisWeb.Router.Trie.Path
/-!
# The route trie — search, a segment at a time

`scan` reads `q[1:]` a character at a time. `descend` is the same loop
read a segment at a time, over the pieces of `q[1:]` split at `/`:
`scan_eq_descend` is the equation between the two, and every later
result about `search` goes through it.
-/

namespace IrisWeb

namespace Router

variable {H : Type}

namespace Trie

/-- `search`'s loop over the segments of `q[1:]`: `seg` is the current one
and `rest` those after it. At a wildcard the parameter value is `q[start:]`,
the current segment and everything after it. -/
def descend (t : Trie H) : Option Addr → List String → List Char → List (List Char) → Scan
  | n, pvs, seg, [] =>
    match n with
    | none => .panicked
    | some a =>
      match t.move a ⟨seg⟩ with
      | .literal c => .reached (some c) pvs
      | .named c => .reached c (pvs ++ [⟨seg⟩])
      | .wildcard c => .reached c (pvs ++ [⟨seg⟩])
      | .deadEnd => .backedOff (t.findClosestParentWildcardNode a)
  | n, pvs, seg, next :: rest =>
    match n with
    | none => .panicked
    | some a =>
      match t.move a ⟨seg⟩ with
      | .literal c => t.descend (some c) pvs next rest
      | .named c => t.descend c (pvs ++ [⟨seg⟩]) next rest
      | .wildcard c => .reached c (pvs ++ [⟨seg ++ '/' :: ['/'].intercalate (next :: rest)⟩])
      | .deadEnd => .backedOff (t.findClosestParentWildcardNode a)

/-- **The loop, a segment at a time.** -/
theorem scan_eq_descend (t : Trie H) (cs : List Char) :
    ∀ (n : Option Addr) (seg : List Char) (pvs : List String),
      t.scan n seg pvs cs =
        t.descend n pvs (seg ++ (cs.splitOn '/').headD []) (cs.splitOn '/').tail := by
  induction cs with
  | nil =>
    intro n seg pvs
    simp only [List.splitOn_nil, List.headD_cons, List.tail_cons, List.append_nil]
    cases n <;> rfl
  | cons c cs ih =>
    intro n seg pvs
    obtain ⟨h, tl, hsplit⟩ := List.exists_cons_of_ne_nil (List.splitOnP_ne_nil (· == '/') cs)
    have hcs : cs.splitOn '/' = h :: tl := hsplit
    by_cases hc : c = '/'
    · subst hc
      have hs : ('/' :: cs).splitOn '/' = [] :: h :: tl := by
        unfold List.splitOn; rw [List.splitOnP_cons, hsplit]; simp
      have hjoin : ['/'].intercalate (h :: tl) = cs := by
        rw [← hcs]; exact List.intercalate_splitOn cs '/'
      simp only [hs, scan, if_true, List.headD_cons, List.tail_cons, List.append_nil, descend]
      rcases n with _ | a
      · rfl
      · cases hm : t.move a ⟨seg⟩ <;>
          simp only [hm, ih, hcs, List.headD_cons, List.tail_cons, List.nil_append, hjoin]
    · have hs : (c :: cs).splitOn '/' = (c :: h) :: tl := by
        unfold List.splitOn; rw [List.splitOnP_cons, hsplit]; simp [hc]
      simp only [hs, scan, if_neg hc, ih, hcs]
      simp

/-! ## Tries without parameters -/

/-- The walk through children under the segments themselves. -/
def follow (t : Trie H) : Addr → List (List Char) → Option Addr
  | a, [] => some a
  | a, s :: ss => (t.getChild a ⟨s⟩).bind fun c => t.follow c ss

/-- No node has a named or a wildcard child. -/
def NoParams (t : Trie H) : Prop :=
  ∀ b, (t.node b).childNamedParameter = false ∧ (t.node b).childWildcardParameter = false

/-- Every node's parent is a node. -/
def PrefixClosed (t : Trie H) : Prop := ∀ s b, (t.nodes (s :: b)).isSome → (t.nodes b).isSome

theorem move_of_noParams {t : Trie H} (h : t.NoParams) (a : Addr) (seg : String) :
    t.move a seg = match t.getChild a seg with
      | some c => .literal c
      | none => .deadEnd := by
  unfold move
  cases t.getChild a seg <;> simp [(h a).1, (h a).2]

theorem findClosest_of_noParams {t : Trie H} (h : t.NoParams) :
    ∀ a, t.findClosestParentWildcardNode a = none
  | [] => rfl
  | _ :: p => by simp [findClosestParentWildcardNode, (h p).2, findClosest_of_noParams h p]

/-- **Without parameters the loop is a walk through literal children**: it
reaches the node the segments lead to, or finds a dead end and no
back-off. -/
theorem descend_of_noParams {t : Trie H} (h : t.NoParams) (pvs : List String) :
    ∀ (rest : List (List Char)) (a : Addr) (seg : List Char),
      t.descend (some a) pvs seg rest = match t.follow a (seg :: rest) with
        | some c => .reached (some c) pvs
        | none => .backedOff none
  | [], a, seg => by
    simp only [descend, move_of_noParams h, follow]
    cases t.getChild a ⟨seg⟩ <;> simp [findClosest_of_noParams h]
  | next :: rest, a, seg => by
    simp only [descend, move_of_noParams h, follow]
    cases t.getChild a ⟨seg⟩ with
    | none => simp [findClosest_of_noParams h]
    | some c => simpa [follow] using descend_of_noParams h pvs rest c next

theorem PrefixClosed.of_append {t : Trie H} (h : t.PrefixClosed) :
    ∀ (x b : Addr), (t.nodes (x ++ b)).isSome → (t.nodes b).isSome
  | [], _, hb => hb
  | s :: x, b, hb => PrefixClosed.of_append h x b (h s (x ++ b) hb)

/-- In a prefix-closed trie the literal walk reaches the node the segments
name, if there is one. -/
theorem follow_eq {t : Trie H} (h : t.PrefixClosed) :
    ∀ (ss : List (List Char)) (a : Addr), (t.nodes a).isSome →
      t.follow a ss = if (t.nodes ((ss.map String.mk).reverse ++ a)).isSome
        then some ((ss.map String.mk).reverse ++ a) else none
  | [], a, ha => by simp [follow, ha]
  | s :: ss, a, _ => by
    by_cases hs : (t.nodes (⟨s⟩ :: a)).isSome
    · simp only [follow, getChild, hs, if_true, Option.some_bind,
        follow_eq h ss _ hs, List.map_cons, List.reverse_cons, List.append_assoc, List.singleton_append]
    · have hdeep : ¬ (t.nodes ((ss.map String.mk).reverse ++ ⟨s⟩ :: a)).isSome :=
        fun hd => hs (h.of_append _ _ hd)
      simp [follow, getChild, hs, hdeep]

/-! ## The parameter store is only written

`search` never reads the store it is given: the node it finds, and
whether it panics, are the same for every store. -/

section Store

variable (t : Trie H) (q : String) (p p' : Context.RequestParams)

theorem setWildcardParam_node (w : Addr) :
    (t.setWildcardParam q p w).map Prod.fst = (t.setWildcardParam q p' w).map Prod.fst := by
  unfold setWildcardParam
  split <;> [rfl; split <;> rfl]

theorem rootWildcard_node :
    (t.rootWildcard q p).map Prod.fst = (t.rootWildcard q p').map Prod.fst := by
  unfold rootWildcard
  split <;> [split <;> [rfl; split <;> rfl]; rfl]

theorem searchEnd_node (n : Option Addr) (pvs : List String) :
    (t.searchEnd q p n pvs).map Prod.fst = (t.searchEnd q p' n pvs).map Prod.fst := by
  cases n with
  | none => exact rootWildcard_node t q p p'
  | some a =>
    simp only [searchEnd]
    split
    · rfl
    · split
      · exact setWildcardParam_node t q p p' _
      · exact rootWildcard_node t q p p'

/-- **The node found does not depend on the store.** -/
theorem search_node :
    (t.search q p).map Prod.fst = (t.search q p').map Prod.fst := by
  unfold search
  split
  · rfl
  · split
    · rfl
    · rfl
    · exact setWildcardParam_node t q p p' _
    · exact searchEnd_node t q p p' _ _

end Store

end Trie

end Router

end IrisWeb
