import IrisWeb.Router.Trie.Path
import Mathlib.Data.List.Pairwise
/-!
# The route trie — insertion order

What a walk leaves at an address has a closed form (`walkAt_eq`): a node
on the way is created if missing and gets the flags of the key after it.
So an insertion acts on a node record by one function, `Entry.nodeFn`,
creating the node first when it lies on the way. Flags are only ever set,
and the complete node's data is written only at the end of the way, so two
insertions of different shapes commute (`effect_comm`), and a later
insertion of the same shape overwrites an earlier one (`effect_absorb`).
-/

namespace IrisWeb

namespace Router

variable {H : Type}

/-- The key that follows the node at `b` on the way along keys `ks`, if `b`
lies on it. -/
def nextKey (ks : List String) (b : Addr) : Option String :=
  if b.reverse <+: ks then ks[b.length]? else none

/-- What a walk along `ks` does to the node record at `b`. -/
def flagsAt (ks : List String) (b : Addr) : TrieNode H → TrieNode H :=
  match nextKey ks b with
  | some k => setFlags k
  | none => id

/-- What an insertion does to the node record at `b`: the walk's flags, then
the complete node's data where the way ends. -/
def Entry.nodeFn (r : Entry H) (b : Addr) : TrieNode H → TrieNode H :=
  if b = (pathKeys r.path).reverse then r.complete ∘ flagsAt (pathKeys r.path) b
  else flagsAt (pathKeys r.path) b

/-- Two entries have the same shape: the same keys, so the same complete
node. -/
def SameShape (r r' : Entry H) : Prop := pathKeys r.path = pathKeys r'.path

instance (r r' : Entry H) : Decidable (SameShape r r') :=
  inferInstanceAs (Decidable (pathKeys r.path = pathKeys r'.path))

/-! ## The walk in closed form -/

/-- A walk from `n` never touches an address outside the subtree of `n`. -/
theorem walkAt_of_ne (ks : List String) (n b : Addr) (o : Option (TrieNode H))
    (h : ∀ x, b ≠ x ++ n) : walkAt ks n b o = o := by
  induction ks generalizing n o with
  | nil => rfl
  | cons k ks ih =>
    have h0 : b ≠ n := h []
    have h1 : b ≠ k :: n := h [k]
    rw [walkAt, stepAt, if_neg h0, if_neg h1]
    exact ih (k :: n) o fun x hx => h (x ++ [k]) (by simpa using hx)

/-- A node strictly below `n` is not `n`. -/
theorem append_cons_ne (x : Addr) (k : String) (n : Addr) : x ++ k :: n ≠ n :=
  ne_of_apply_ne List.length (by simp only [List.length_append, List.length_cons]; omega)

/-- **The walk in closed form.** At the node `x` below the start, the walk
creates it if it lies on the way and is not the start, and sets the flags
of the key after it. -/
theorem walkAt_append (ks : List String) (n x : Addr) (o : Option (TrieNode H)) :
    walkAt ks n (x ++ n) o =
      (if x ≠ [] ∧ x.reverse <+: ks then some (o.getD {}) else o).map (flagsAt ks x) := by
  induction ks generalizing n x o with
  | nil =>
    rcases x.eq_nil_or_concat with rfl | ⟨y, z, rfl⟩ <;> simp [walkAt, flagsAt, nextKey]
  | cons k ks ih =>
    rcases x.eq_nil_or_concat with rfl | ⟨y, z, rfl⟩
    · rw [List.nil_append, walkAt, stepAt, if_pos rfl,
        walkAt_of_ne ks (k :: n) n _ fun x h => append_cons_ne x k n h.symm]
      simp [flagsAt, nextKey]
    · rw [List.concat_eq_append, walkAt]
      by_cases hz : z = k
      · subst hz
        have hstep := ih (z :: n) y (stepAt z n (y ++ [z] ++ n) o)
        rw [List.append_assoc, List.singleton_append] at hstep ⊢
        rw [hstep]
        rcases y.eq_nil_or_concat with rfl | ⟨y', z', rfl⟩
        · simp [stepAt, flagsAt, nextKey]
        · rw [List.concat_eq_append] at hstep ⊢
          have hn : y' ++ z' :: z :: n ≠ n := by simpa using append_cons_ne (y' ++ [z']) z n
          simp [stepAt, hn, append_cons_ne y' z' (z :: n), flagsAt, nextKey]
      · have hoff : ∀ x', y ++ [z] ++ n ≠ x' ++ k :: n := fun x' hx => by
          rw [List.append_assoc, List.singleton_append] at hx
          exact hz (List.cons.inj (List.append_inj' hx (by simp)).2).1
        have hn : y ++ [z] ++ n ≠ n := by simpa using append_cons_ne y z n
        rw [walkAt_of_ne ks (k :: n) _ _ hoff, stepAt, if_neg hn, if_neg (by simpa using hoff [])]
        simp [flagsAt, nextKey, hz]

/-- From the root. -/
theorem walkAt_eq (ks : List String) (b : Addr) (o : Option (TrieNode H)) :
    walkAt ks [] b o =
      (if b ≠ [] ∧ b.reverse <+: ks then some (o.getD {}) else o).map (flagsAt ks b) := by
  simpa using walkAt_append ks [] b o

/-! ## One insertion at one address -/

/-- **An insertion at one address**: the node is created when it lies on
the way below the root, and `nodeFn` is applied to it. -/
theorem effect_eq (r : Entry H) (b : Addr) (o : Option (TrieNode H)) :
    r.effect b o =
      (if b ≠ [] ∧ b.reverse <+: pathKeys r.path then some (o.getD {}) else o).map (r.nodeFn b) := by
  rw [Entry.effect, walkAt_eq, Entry.nodeFn]
  split_ifs <;> simp [Option.map_map]

/-- Off the way, an insertion leaves the node alone. -/
theorem nodeFn_off_way (r : Entry H) {b : Addr} (h : ¬ b.reverse <+: pathKeys r.path) :
    r.nodeFn b = id := by
  have hb : b ≠ (pathKeys r.path).reverse := fun hb => h (by simp [hb])
  simp [Entry.nodeFn, hb, flagsAt, nextKey, h]

theorem setFlags_comm (k k' : String) (nd : TrieNode H) :
    setFlags k (setFlags k' nd) = setFlags k' (setFlags k nd) := by
  unfold setFlags; split_ifs <;> rfl

theorem setFlags_idem (k : String) (nd : TrieNode H) : setFlags k (setFlags k nd) = setFlags k nd := by
  unfold setFlags; split_ifs <;> rfl

theorem complete_setFlags (r : Entry H) (k : String) (nd : TrieNode H) :
    r.complete (setFlags k nd) = setFlags k (r.complete nd) := by
  unfold setFlags; split_ifs <;> rfl

theorem flagsAt_comm (ks ks' : List String) (b : Addr) (nd : TrieNode H) :
    flagsAt ks b (flagsAt ks' b nd) = flagsAt ks' b (flagsAt ks b nd) := by
  unfold flagsAt; cases nextKey ks b <;> cases nextKey ks' b <;> simp [setFlags_comm]

theorem flagsAt_idem (ks : List String) (b : Addr) (nd : TrieNode H) :
    flagsAt ks b (flagsAt ks b nd) = flagsAt ks b nd := by
  unfold flagsAt; cases nextKey ks b <;> simp [setFlags_idem]

theorem complete_flagsAt (r : Entry H) (ks : List String) (b : Addr) (nd : TrieNode H) :
    r.complete (flagsAt ks b nd) = flagsAt ks b (r.complete nd) := by
  unfold flagsAt; cases nextKey ks b <;> simp [complete_setFlags]

/-- Two complete-node writes: the later one wins. -/
@[simp] theorem complete_complete (r r' : Entry H) (nd : TrieNode H) :
    r.complete (r'.complete nd) = r.complete nd := rfl

/-- Different shapes have different complete nodes, so their record
updates commute. -/
theorem nodeFn_comm {r r' : Entry H} (h : ¬ SameShape r r') (b : Addr) (nd : TrieNode H) :
    r.nodeFn b (r'.nodeFn b nd) = r'.nodeFn b (r.nodeFn b nd) := by
  unfold Entry.nodeFn
  split_ifs with h1 h2 h2
  · exact absurd (List.reverse_inj.mp (h1.symm.trans h2)) h
  all_goals simp [flagsAt_comm, complete_flagsAt]

/-- The same shape: the later update wins. -/
theorem nodeFn_absorb {r r' : Entry H} (h : SameShape r r') (b : Addr) (nd : TrieNode H) :
    r.nodeFn b (r'.nodeFn b nd) = r.nodeFn b nd := by
  unfold SameShape at h
  unfold Entry.nodeFn
  rw [h]
  split_ifs <;> simp [flagsAt_idem, complete_flagsAt]

/-- **Insertions of different shapes commute** at every address. -/
theorem effect_comm {r r' : Entry H} (h : ¬ SameShape r r') (b : Addr) (o : Option (TrieNode H)) :
    r.effect b (r'.effect b o) = r'.effect b (r.effect b o) := by
  simp only [effect_eq]
  by_cases hb : b = []
  · simp [hb, Option.map_map, Function.comp_def, nodeFn_comm h]
  by_cases h1 : b.reverse <+: pathKeys r.path <;> by_cases h2 : b.reverse <+: pathKeys r'.path <;>
    simp [hb, h1, h2, nodeFn_comm h, nodeFn_off_way]

/-- **A later insertion of the same shape overwrites an earlier one.** -/
theorem effect_absorb {r r' : Entry H} (h : SameShape r r') (b : Addr) (o : Option (TrieNode H)) :
    r.effect b (r'.effect b o) = r.effect b o := by
  have hk : pathKeys r'.path = pathKeys r.path := h.symm
  simp only [effect_eq, hk]
  split_ifs <;> simp [Option.map_map, Function.comp_def, nodeFn_absorb h]

/-- An insertion shadowed by a later one of the same shape, with any
insertions between, leaves the same nodes as if it had not been made. -/
theorem foldl_effect_shadow {r' r : Entry H} (h : SameShape r' r) (b : Addr) :
    ∀ (l : List (Entry H)) (z : Option (TrieNode H)),
      (l ++ [r]).foldl (fun o e => e.effect b o) (r'.effect b z) =
        (l ++ [r]).foldl (fun o e => e.effect b o) z
  | [], z => effect_absorb (Eq.symm h) b z
  | e :: l, z => by
    by_cases he : SameShape e r'
    · simp [effect_absorb he]
    · simp only [List.cons_append, List.foldl_cons]
      rw [effect_comm he]
      exact foldl_effect_shadow h b l _

namespace Trie

/-- **Insertion order does not matter.** Two runs of insertions of
well-formed paths that are permutations of each other build the same trie,
so `search` answers alike for every request path, provided no two of the
paths have the same shape. And an insertion followed later by one of the
same shape is as if it had never been made. -/
theorem insertAll_perm (t : Trie H) :
    (∀ rs₁ rs₂ : List (Entry H), rs₁.Perm rs₂ → (∀ r ∈ rs₁, WellFormedPath r.path) →
      rs₁.Pairwise (fun r r' => ¬ SameShape r r') → t.insertAll rs₁ = t.insertAll rs₂) ∧
    (∀ (l₁ l₂ l₃ : List (Entry H)) (r' r : Entry H),
      (∀ e ∈ l₁ ++ r' :: l₂ ++ r :: l₃, WellFormedPath e.path) → SameShape r' r →
      t.insertAll (l₁ ++ r' :: l₂ ++ r :: l₃) = t.insertAll (l₁ ++ l₂ ++ r :: l₃)) := by
  constructor
  · intro rs₁ rs₂ hp hwf hshape
    rw [insertAll_eq t rs₁ fun r hr => (hwf r hr).segmentsNonempty,
      insertAll_eq t rs₂ fun r hr => (hwf r (hp.mem_iff.mpr hr)).segmentsNonempty]
    have hany : ∀ f : Entry H → Bool, rs₁.any f = rs₂.any f := fun f => by
      simp only [List.any_eq, hp.mem_iff]
    refine congrArg some (Trie.ext (funext fun b => ?_) ?_ ?_ rfl rfl)
    · refine hp.foldl_eq' (fun x hx y hy z => ?_) _
      by_cases hxy : x = y
      · rw [hxy]
      · exact effect_comm (hshape.forall (fun _ _ h => Ne.symm h) hy hx (Ne.symm hxy)) b z
    · simp only [inserted, hany]
    · simp only [inserted, hany]
  · intro l₁ l₂ l₃ r' r hwf h
    rw [insertAll_eq t _ fun e he => (hwf e he).segmentsNonempty,
      insertAll_eq t _ fun e he => (hwf e (by simp at he ⊢; tauto)).segmentsNonempty]
    have hsep : (r'.path = pathSep) = (r.path = pathSep) := by
      rw [← pathKeys_eq_sep_iff, ← pathKeys_eq_sep_iff, show pathKeys r'.path = pathKeys r.path from h]
    have hroot : rootWildcardOf r'.path = rootWildcardOf r.path := by
      simp only [rootWildcardOf, show pathKeys r'.path = pathKeys r.path from h]
    refine congrArg some (Trie.ext (funext fun b => ?_) ?_ ?_ rfl rfl)
    · have := foldl_effect_shadow h b l₂ (l₁.foldl (fun o e => e.effect b o) (t.nodes b))
      simp only [List.foldl_append, List.foldl_cons, List.foldl_nil] at this
      simp only [inserted, List.append_assoc, List.foldl_append, List.foldl_cons, this]
    · cases h' : rootWildcardOf r.path <;> simp [inserted, hroot, h']
    · by_cases h' : r.path = pathSep <;> simp [inserted, hsep, h']

/-- Two routes of different shapes, inserted in either order. -/
theorem insertAll_swap_static_named :
    (newTrie : Trie Nat).insertAll [⟨"/a/b", "ab", [1]⟩, ⟨"/a/:x", "ax", [2]⟩] =
      newTrie.insertAll [⟨"/a/:x", "ax", [2]⟩, ⟨"/a/b", "ab", [1]⟩] :=
  (insertAll_perm newTrie).1 _ _ (List.Perm.swap _ _ _) (by decide) (by decide)

end Trie

end Router

end IrisWeb
