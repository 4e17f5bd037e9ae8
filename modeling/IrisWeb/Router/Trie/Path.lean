import IrisWeb.Router.Trie.Insert
/-!
# Route paths

How `slowPathSplit` cuts a path, and the well-formed route paths: `/`, or
`/`-separated non-empty segments, each a literal, a named parameter
`:name` or a wildcard `*name`, with the wildcard only last and the
parameter names distinct (the route invariants of the spec's data model).
-/

namespace IrisWeb

namespace Router

/-- A piece of `splitOn c` never holds `c`. -/
theorem not_mem_of_mem_splitOn {c : Char} : ∀ {l s : List Char}, s ∈ l.splitOn c → c ∉ s
  | [], s, h => by simp_all [List.splitOn_nil]
  | x :: xs, s, h => by
    have ih : ∀ s ∈ xs.splitOn c, c ∉ s := fun s hs => not_mem_of_mem_splitOn hs
    unfold List.splitOn at h ih
    rw [List.splitOnP_cons] at h
    split_ifs at h with hx
    · rcases List.mem_cons.mp h with rfl | h
      · simp
      · exact ih s h
    · obtain ⟨hd, tl, heq⟩ := List.exists_cons_of_ne_nil (List.splitOnP_ne_nil (· == c) xs)
      rw [heq] at h ih
      rcases List.mem_cons.mp h with rfl | h
      · have : x ≠ c := by simpa using hx
        simpa [Ne.symm this] using ih hd (List.mem_cons_self _ _)
      · exact ih s (List.mem_cons_of_mem _ h)

/-- No segment of a path other than `/` holds a `/`. -/
theorem slash_not_mem_of_mem_slowPathSplit {path s : String} (hp : path ≠ pathSep)
    (hs : s ∈ slowPathSplit path) : '/' ∉ s.data := by
  rw [slowPathSplit, if_neg hp] at hs
  obtain ⟨l, hl, rfl⟩ := List.mem_map.mp hs
  exact not_mem_of_mem_splitOn (List.mem_of_mem_drop hl)

/-- Only `/` has the single key `/`. -/
theorem pathKeys_eq_sep_iff {path : String} : pathKeys path = [pathSep] ↔ path = pathSep := by
  constructor
  · intro h
    by_contra hp
    obtain ⟨s, hs, hk⟩ : ∃ s ∈ slowPathSplit path, segmentKey s = pathSep := by
      have : pathSep ∈ pathKeys path := by simp [h]
      simpa [pathKeys] using this
    have hslash := slash_not_mem_of_mem_slowPathSplit hp hs
    revert hk hslash
    unfold segmentKey
    split <;> simp_all [paramStart, wildcardParamStart, pathSep]
  · rintro rfl
    rfl

/-- **A well-formed route path.** -/
def WellFormedPath (path : String) : Prop :=
  path = pathSep ∨
    (path.data.head? = some '/' ∧ SegmentsNonempty path ∧
      (∀ s ∈ (slowPathSplit path).dropLast, segmentKey s ≠ wildcardParamStart) ∧
      (paramNames path).Nodup)

instance (path : String) : Decidable (SegmentsNonempty path) :=
  inferInstanceAs (Decidable (∀ s ∈ slowPathSplit path, s.data ≠ []))

instance (path : String) : Decidable (WellFormedPath path) :=
  inferInstanceAs (Decidable (path = pathSep ∨ (path.data.head? = some '/' ∧ SegmentsNonempty path ∧
    (∀ s ∈ (slowPathSplit path).dropLast, segmentKey s ≠ wildcardParamStart) ∧ (paramNames path).Nodup)))

theorem WellFormedPath.segmentsNonempty {path : String} (h : WellFormedPath path) :
    SegmentsNonempty path := by
  rcases h with rfl | ⟨-, h, -⟩
  · simp [SegmentsNonempty, slowPathSplit, pathSep]
  · exact h

end Router

end IrisWeb
