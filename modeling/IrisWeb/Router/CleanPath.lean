import IrisWeb.Router.Model.Trie
import IrisWeb.Go.Strings
/-!
# `cleanPath`

`core/router`'s `cleanPath`, which `NewRoute` applies to every
route path before the trie sees it. Its doc comment promises repeated
slashes collapsed, backslashes turned into slashes, macros `{...}` left
alone, a leading `/` and no trailing one; the spec's normal form
`normalizedPath` says the same.

The loop edits the path while it indexes it. After collapsing `//` it
moves two places on in the shortened path, so the next separator is not
looked at; the trailing `/` is cut once before the loop; and a double
backslash loses the `/` put in its place. So `//a//b` comes out as
`/a//b`, on which `trie.insert` panics (`cleanPath_keeps_double_slash`).
The loop never panics, and what it returns starts with `/`
(`cleanPath_total`).

The loop runs over the path's bytes, as Go's does: the index moves on by
bytes, so after a collapse it can land inside a character of several
bytes, and `/a//é//b` gives `/a/é/b`. It only removes or rewrites ASCII
bytes, and its result is read back as characters.
-/

namespace IrisWeb

namespace Router

variable {s : List UInt8} {i : Nat}

/-- `s[:b]`: `none` is the panic of a bound past the end. -/
def sliceTo {α : Type} (s : List α) (b : Nat) : Option (List α) :=
  if b ≤ s.length then some (s.take b) else none

/-- `s[a:]`: `none` is the panic of a bound past the end. -/
def sliceFrom {α : Type} (s : List α) (a : Nat) : Option (List α) :=
  if a ≤ s.length then some (s.drop a) else none

/-- The `//` case at index `i`: the path up to `i`, one `/`, and the rest
after the second `/`; the index moves on two. -/
def collapseSlashes (s : List UInt8) (i : Nat) : Option (List UInt8 × Nat) := do
  let bckp := s
  let s := (← sliceTo bckp i) ++ ['/'.toUInt8]
  let i := i + 2
  let s ← if i < bckp.length then (sliceFrom bckp i).map (s ++ ·) else pure s
  return (s, i)

theorem collapseSlashes_eq (h : i + 1 < s.length) :
    collapseSlashes s i = some (s.take i ++ '/'.toUInt8 :: s.drop (i + 2), i + 2) := by
  by_cases h2 : i + 2 < s.length
  · simp [collapseSlashes, sliceTo, sliceFrom, h2, h2.le, (by omega : i ≤ s.length)]
  · simp [collapseSlashes, sliceTo, sliceFrom, h2, (by omega : i ≤ s.length),
      List.drop_eq_nil_of_le (by omega : s.length ≤ i + 2)]

/-- The second `if` of the backslash case, at the index the first part
left: a backslash there is cut, and with it the `/` before it when more
follows. -/
def cutBackslash (s : List UInt8) (i : Nat) : Option (List UInt8 × Nat) :=
  if i + 1 < s.length ∧ s[i]? = some '\\'.toUInt8 then do
    let bckp := s
    let s ← sliceTo bckp i
    if i + 2 < bckp.length then
      let front ← if i = 0 then none else sliceTo bckp (i - 1)
      return (front ++ (← sliceFrom bckp (i + 1)), i + 1)
    return (s, i)
  else return (s, i)

theorem cutBackslash_of_short (h : s.length ≤ i + 1) : cutBackslash s i = some (s, i) := by
  rw [cutBackslash, if_neg (by omega)]; rfl

/-- Past the start, the cut does not panic, and it keeps the path before
`i - 1`. -/
theorem cutBackslash_ok (h : 0 < i) :
    ∃ r, cutBackslash s i = some r ∧ r.1.length ≤ s.length ∧ i ≤ r.2 ∧ s.take (i - 1) <+: r.1 := by
  by_cases h1 : i + 1 < s.length ∧ s[i]? = some '\\'.toUInt8
  · rw [cutBackslash, if_pos h1]
    by_cases h2 : i + 2 < s.length
    · simp [sliceTo, sliceFrom, h2, (by omega : i ≤ s.length), (by omega : i + 1 ≤ s.length),
        (by omega : i ≤ s.length + 1), h.ne']
      omega
    · simp [sliceTo, h2, (by omega : i ≤ s.length), List.take_prefix_take_left s (Nat.sub_le i 1)]
  · rw [cutBackslash, if_neg h1]
    exact ⟨_, rfl, le_rfl, le_rfl, List.take_prefix _ _⟩

/-- The backslash case at index `i`: the backslash becomes `/`, and the
index moves on one if there is more. -/
def replaceBackslash (s : List UInt8) (i : Nat) : Option (List UInt8 × Nat) := do
  let bckp := s
  let s := (← sliceTo bckp i) ++ ['/'.toUInt8]
  let (s, i) ← if i + 1 < bckp.length then (sliceFrom bckp (i + 1)).map (s ++ ·, i + 1)
    else pure (s, i)
  cutBackslash s i

theorem replaceBackslash_eq (h : i < s.length) :
    replaceBackslash s i =
      if i + 1 < s.length then cutBackslash (s.take i ++ '/'.toUInt8 :: s.drop (i + 1)) (i + 1)
      else cutBackslash (s.take i ++ ['/'.toUInt8]) i := by
  split_ifs with h1
  · simp [replaceBackslash, sliceTo, sliceFrom, h.le, h1, h1.le]
  · simp [replaceBackslash, sliceTo, h.le, h1]

theorem head_of_take_prefix {t : List UInt8} (hi : 0 < i) (hs : s.head? = some '/'.toUInt8)
    (hp : s.take i <+: t) : t.head? = some '/'.toUInt8 := by
  obtain ⟨u, rfl⟩ := hp
  simp [List.head?_take, hi.ne', hs]

/-- One turn of `cleanPath`'s loop at index `i`: the path, the index and
`insideMacro` at its `continue`. `len(s)-1 >= j` is read `j < len(s)`;
`none` is a panic. -/
def cleanTurn (s : List UInt8) (i : Nat) (insideMacro : Bool) : Option (List UInt8 × Nat × Bool) := do
  let c ← s[i]?
  if c = '{'.toUInt8 then return (s, i, true)
  if c = '}'.toUInt8 then return (s, i, false)
  if insideMacro then return (s, i, insideMacro)
  if c = '/'.toUInt8 then
    if s[i + 1]? = some '/'.toUInt8 then
      let (s, i) ← collapseSlashes s i
      return (s, i, insideMacro)
    return (s, i, insideMacro)
  if c = '\\'.toUInt8 then
    let (s, i) ← replaceBackslash s i
    return (s, i, insideMacro)
  return (s, i, insideMacro)

/-- **A turn never panics.** On a path that starts with `/`, a turn at an
index inside it leaves a path no longer that still starts with `/`, and an
index not before `i`. -/
theorem cleanTurn_ok (m : Bool) (hi : i < s.length) (hs : s.head? = some '/'.toUInt8) :
    ∃ s' i' m', cleanTurn s i m = some (s', i', m') ∧ s'.length ≤ s.length ∧ i ≤ i' ∧
      s'.head? = some '/'.toUInt8 := by
  simp only [cleanTurn, List.getElem?_eq_getElem hi, Option.pure_def, Option.bind_eq_bind,
    Option.some_bind, bind_pure_comp, pure_bind]
  split_ifs with h₁ h₂ h₃ h₄ h₅ h₆
  all_goals try exact ⟨_, _, _, rfl, le_rfl, le_rfl, hs⟩
  · -- `//`
    obtain ⟨h1, -⟩ := List.getElem?_eq_some_iff.mp h₅
    rw [collapseSlashes_eq h1]
    have hlen : (s.take i ++ '/'.toUInt8 :: s.drop (i + 2)).length ≤ s.length := by
      simp only [List.length_append, List.length_take, List.length_cons, List.length_drop]; omega
    refine ⟨_, _, _, rfl, hlen, by omega, ?_⟩
    rcases Nat.eq_zero_or_pos i with rfl | h0
    · rfl
    · exact head_of_take_prefix h0 hs (List.prefix_append _ _)
  · -- a backslash, never the leading character
    have h0 : 0 < i := Nat.pos_of_ne_zero fun h => by
      subst h; rw [List.head?_eq_getElem?, List.getElem?_eq_getElem hi] at hs; simp_all
    rw [replaceBackslash_eq hi]
    split_ifs with h1
    · obtain ⟨r, hr, hlen, hidx, hp⟩ :=
        @cutBackslash_ok (s.take i ++ '/'.toUInt8 :: s.drop (i + 1)) (i + 1) i.succ_pos
      have htake : (s.take i ++ '/'.toUInt8 :: s.drop (i + 1)).take (i + 1 - 1) = s.take i :=
        List.take_left' (by simp only [List.length_take]; omega)
      rw [hr]
      simp only [List.length_append, List.length_take, List.length_cons, List.length_drop] at hlen
      exact ⟨r.1, r.2, m, rfl, by omega, by omega, head_of_take_prefix h0 hs (htake ▸ hp)⟩
    · have hlen : (s.take i ++ ['/'.toUInt8]).length = i + 1 := by
        simp only [List.length_append, List.length_take, List.length_singleton]; omega
      rw [cutBackslash_of_short hlen.le]
      exact ⟨_, _, _, rfl, show (s.take i ++ ['/'.toUInt8]).length ≤ s.length by omega, le_rfl,
        head_of_take_prefix h0 hs (List.prefix_append _ _)⟩

/-- The loop from index `i`, the value after its `i++`, one unit of fuel a
turn; `none` is a panic, or the fuel running out. -/
def cleanLoop : Nat → List UInt8 → Nat → Bool → Option (List UInt8)
  | 0, _, _, _ => none
  | fuel + 1, s, i, insideMacro =>
    if s.length ≤ i then some s
    else do
      let (s, i, insideMacro) ← cleanTurn s i insideMacro
      cleanLoop fuel s (i + 1) insideMacro

/-- With fuel above the length left to scan, the loop returns, and what it
returns starts with `/` if the path did. -/
theorem cleanLoop_ok : ∀ (fuel : Nat) (s : List UInt8) (i : Nat) (m : Bool), s.head? = some '/'.toUInt8 →
    s.length - i < fuel → ∃ r, cleanLoop fuel s i m = some r ∧ r.head? = some '/'.toUInt8
  | 0, _, _, _, _, hf => absurd hf (Nat.not_lt_zero _)
  | fuel + 1, s, i, m, hs, hf => by
    unfold cleanLoop
    split_ifs with hi
    · exact ⟨s, rfl, hs⟩
    · obtain ⟨s', i', m', ht, hl, hi', hh⟩ := cleanTurn_ok m (Nat.lt_of_not_le hi) hs
      simpa [ht] using cleanLoop_ok fuel s' (i' + 1) m' hh (by omega)

/-- `cleanPath(s)`: `""` and `"."` are `/`; otherwise a trailing `/` is cut,
a leading one added, and the loop runs from the start, over the bytes. -/
def cleanPath (s : String) : Option String :=
  if s = "" ∨ s = "." then some "/"
  else do
    let s := (GoString.ofString s).bytes
    let lidx := s.length - 1
    let s := if (← s[lidx]?) = '/'.toUInt8 then s.take lidx else s
    let s := if ['/'.toUInt8].isPrefixOf s then s else '/'.toUInt8 :: s
    (cleanLoop (s.length + 1) s 0 false).map fun r => GoString.toString ⟨r⟩

theorem head_of_slash_added (t : List UInt8) :
    (if ['/'.toUInt8].isPrefixOf t then t else '/'.toUInt8 :: t).head? = some '/'.toUInt8 := by
  cases t with
  | nil => rfl
  | cons c t =>
    by_cases hc : c = '/'.toUInt8
    · subst hc; split <;> rfl
    · simp [List.isPrefixOf, Ne.symm hc]

/-- **`cleanPath` is total.** On every string it returns, without a panic,
a path that starts with `/`. -/
theorem cleanPath_total (s : String) : ∃ p, cleanPath s = some p ∧ p.data.head? = some '/' := by
  unfold cleanPath
  split_ifs with h
  · exact ⟨"/", rfl, rfl⟩
  · have hne : (GoString.ofString s).bytes ≠ [] := fun hb =>
      h (.inl (GoString.ofString_eq_empty_iff.mp (congrArg GoString.mk hb)))
    set bs := (GoString.ofString s).bytes
    have hlen : bs.length - 1 < bs.length := Nat.sub_lt (List.length_pos.mpr hne) Nat.one_pos
    obtain ⟨r, hr, hh⟩ := cleanLoop_ok _ _ 0 false (head_of_slash_added
      (if bs[bs.length - 1] = '/'.toUInt8 then bs.take (bs.length - 1) else bs)) (Nat.lt_succ_self _)
    obtain ⟨r', rfl⟩ := List.head?_eq_some_iff.mp hh
    simp only [List.getElem?_eq_getElem hlen, Option.pure_def, Option.bind_eq_bind, Option.some_bind]
    exact ⟨_, congrArg (Option.map _) hr, by
      simp only [GoString.toString, GoString.decodeGo_ascii (by decide : '/'.toUInt8 < 0x80)]; rfl⟩

example : cleanPath "/a//é//b" = some "/a/é/b" := by decide

/-- The separators of the normal form `cleanPath`'s doc comment describes:
outside `{...}`, a maximal run of `/` and `\` is one `/`. -/
def collapseSeparators : Bool → Bool → List Char → List Char
  | _, _, [] => []
  | insideMacro, afterSep, c :: cs =>
    if c = '{' then c :: collapseSeparators true false cs
    else if c = '}' then c :: collapseSeparators false false cs
    else if !insideMacro ∧ (c = '/' ∨ c = '\\') then
      if afterSep then collapseSeparators insideMacro true cs
      else '/' :: collapseSeparators insideMacro true cs
    else c :: collapseSeparators insideMacro false cs

/-- The normal form `cleanPath`'s doc comment describes: `""` and `"."` are
`/`; otherwise the separators collapsed, a leading `/` added if missing,
and a trailing `/` dropped unless the result is `/`. -/
def normalizedPath (s : String) : String :=
  if s = "" ∨ s = "." then "/"
  else
    let t := collapseSeparators false false s.data
    let t := if t.head? = some '/' then t else '/' :: t
    if t ≠ ['/'] ∧ t.getLast? = some '/' then ⟨t.dropLast⟩ else ⟨t⟩

/-- Where `cleanPath` leaves what the normal form removes: `//a//b` keeps
its second `//`, and cleaning it again removes it; `/a//` keeps a trailing
`/`; `/a` and two backslashes before `bc` lose the separator. A route
path `/a//b` makes `trie.insert` panic on its empty segment. -/
theorem cleanPath_keeps_double_slash :
    cleanPath "//a//b" = some "/a//b" ∧ normalizedPath "//a//b" = "/a/b" ∧
      cleanPath "/a//b" = some "/a/b" ∧
      cleanPath "/a//" = some "/a/" ∧ normalizedPath "/a//" = "/a" ∧
      cleanPath "/a\\\\bc" = some "/abc" ∧ normalizedPath "/a\\\\bc" = "/a/bc" ∧
      ((newTrie : Trie Nat).insert "/a//b" "ab" [0]).isNone := by
  decide

end Router

end IrisWeb
