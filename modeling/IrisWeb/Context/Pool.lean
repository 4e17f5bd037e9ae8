import Mathlib.Data.List.Nodup
import Mathlib.Data.List.Perm.Basic
import Mathlib.Logic.Function.Basic
/-!
# Pooled objects — contexts, response writers and gzip writers

`Pool.Acquire` and `Pool.Release` (`unnamed/part_000`), with the writers a
request takes from and gives back to the `sync.Pool`s `rpool` and `gzpool`:
`BeginRequest` acquires a response writer, `ctx.GzipResponseWriter()` a gzip
writer over it, and `EndRequest` ends the context's writer with
`EndResponse`. Requests are goroutines, so a run is any interleaving of their
steps, and `Get` returns any object put back, or a new one.

**A gzip writer is put back before its field is read.**
`GzipResponseWriter.EndResponse` calls `releaseGzipResponseWriter(w)` and
then `w.ResponseWriter.EndResponse()`. A request that takes `w` from
`gzpool` in between sets that field to its own response writer, which the
first request then puts in `rpool` while the second still serves through
it, and the next `Acquire` can take it (`races`).

**Without that race every object is in one place.** In every interleaving
in which no request takes a gzip writer that another is between the two
steps of releasing, each context, response writer and gzip writer is in its
pool or held by one request (`reachable_tracked`), by one invariant that
every other step keeps (`step_inv`).
-/

namespace IrisWeb

namespace Context

/-- `sync.Pool.Get`: an object put in the pool, or a new one from `New`;
objects are numbered in the order they are made. `none` asks for a new one. -/
def syncPoolGet (pool : List Nat) (fresh : Nat) : Option Nat → Option (Nat × List Nat × Nat)
  | none => some (fresh, pool, fresh + 1)
  | some x => if x ∈ pool then some (x, pool.erase x, fresh) else none

theorem syncPoolGet_eq_some {pool pool' : List Nat} {fresh x fresh' : Nat} {o : Option Nat}
    (h : syncPoolGet pool fresh o = some (x, pool', fresh')) :
    (o = none ∧ x = fresh ∧ pool' = pool ∧ fresh' = fresh + 1) ∨
      (o = some x ∧ x ∈ pool ∧ pool' = pool.erase x ∧ fresh' = fresh) := by
  cases o with
  | none =>
    simp only [syncPoolGet, Option.some.injEq, Prod.mk.injEq] at h
    obtain ⟨rfl, rfl, rfl⟩ := h
    exact .inl ⟨rfl, rfl, rfl, rfl⟩
  | some y =>
    simp only [syncPoolGet] at h
    split_ifs at h with hy
    simp only [Option.some.injEq, Prod.mk.injEq] at h
    obtain ⟨rfl, rfl, rfl⟩ := h
    exact .inr ⟨rfl, hy, rfl, rfl⟩

/-- The writer a context serves through: the `*responseWriter` that
`BeginRequest` acquired, or a `*GzipResponseWriter` over it. -/
inductive PooledWriter
  | plain (rw : Nat)
  | gzip (g : Nat)
deriving DecidableEq, Repr

/-- Where a request's goroutine is between `Pool.Acquire` and the end of
`Pool.Release`. -/
inductive RequestPhase
  | serving (ctx : Nat) (w : PooledWriter)
  /-- Inside `GzipResponseWriter.EndResponse`, after
  `releaseGzipResponseWriter(w)` and before `w.ResponseWriter.EndResponse()`. -/
  | endingGzip (ctx g : Nat)
  | done
deriving DecidableEq, Repr

/-- The context pool, `rpool` and `gzpool`, the `ResponseWriter` field of
every gzip writer, the next object `New` makes, and the requests. -/
structure Pools where
  contexts : List Nat
  rpool : List Nat
  gzpool : List Nat
  /-- Each gzip writer's embedded `ResponseWriter`, which
  `BeginGzipResponse` sets before anything reads it. -/
  underline : Nat → Nat
  fresh : Nat
  requests : List RequestPhase

/-- One step of one goroutine. -/
inductive PoolEvent
  /-- `Pool.Acquire`: `Get` of a context, then `BeginRequest`'s
  `AcquireResponseWriter`. -/
  | acquire (ctx rw : Option Nat)
  /-- The `i`th request calls `ctx.GzipResponseWriter()`. -/
  | gzipResponseWriter (i : Nat) (g : Option Nat)
  /-- The `i`th request calls `Pool.Release`: `EndRequest` ends the writer,
  up to `releaseGzipResponseWriter` on a gzip writer. -/
  | release (i : Nat)
  /-- The rest of a gzip writer's `EndResponse`, `w.ResponseWriter.EndResponse()`,
  and `Release`'s `Put` of the context. -/
  | endUnderline (i : Nat)
  /-- The `i`th request calls `Pool.ReleaseLight`. -/
  | releaseLight (i : Nat)
deriving DecidableEq, Repr

namespace Pools

/-- Empty pools and no request. -/
def init : Pools := ⟨[], [], [], fun _ => 0, 0, []⟩

/-- `Pool.Acquire(w, r)`. -/
def acquire (s : Pools) (ctx rw : Option Nat) : Option Pools :=
  (syncPoolGet s.contexts s.fresh ctx).bind fun (c, contexts, fresh) =>
    (syncPoolGet s.rpool fresh rw).map fun (w, rpool, fresh) =>
      { s with contexts, rpool, fresh, requests := s.requests ++ [.serving c (.plain w)] }

/-- `ctx.GzipResponseWriter()`: a gzip writer from `gzpool` over the
context's writer, or the context's gzip writer if it has one. -/
def gzipResponseWriter (s : Pools) (i : Nat) (g : Option Nat) : Option Pools :=
  match s.requests[i]? with
  | some (.serving c (.plain rw)) =>
    (syncPoolGet s.gzpool s.fresh g).map fun (g, gzpool, fresh) =>
      { s with gzpool, fresh, underline := Function.update s.underline g rw,
               requests := s.requests.set i (.serving c (.gzip g)) }
  | some (.serving _ (.gzip _)) => some s
  | _ => none

/-- `Pool.Release(ctx)`: `EndRequest` ends the writer. A response writer
goes back to `rpool` and the context to its pool; a gzip writer's
`EndResponse` first puts the gzip writer back in `gzpool`. -/
def release (s : Pools) (i : Nat) : Option Pools :=
  match s.requests[i]? with
  | some (.serving c (.plain rw)) =>
    some { s with rpool := rw :: s.rpool, contexts := c :: s.contexts, requests := s.requests.set i .done }
  | some (.serving c (.gzip g)) =>
    some { s with gzpool := g :: s.gzpool, requests := s.requests.set i (.endingGzip c g) }
  | _ => none

/-- `w.ResponseWriter.EndResponse()`, read from the gzip writer now, then
the context's `Put`. -/
def endUnderline (s : Pools) (i : Nat) : Option Pools :=
  match s.requests[i]? with
  | some (.endingGzip c g) =>
    some { s with rpool := s.underline g :: s.rpool, contexts := c :: s.contexts,
                  requests := s.requests.set i .done }
  | _ => none

/-- `Pool.ReleaseLight(ctx)`: the context goes back, and nothing ends its
writer. -/
def releaseLight (s : Pools) (i : Nat) : Option Pools :=
  match s.requests[i]? with
  | some (.serving c _) => some { s with contexts := c :: s.contexts, requests := s.requests.set i .done }
  | _ => none

def step (s : Pools) : PoolEvent → Option Pools
  | .acquire ctx rw => s.acquire ctx rw
  | .gzipResponseWriter i g => s.gzipResponseWriter i g
  | .release i => s.release i
  | .endUnderline i => s.endUnderline i
  | .releaseLight i => s.releaseLight i

/-- An interleaving; `none` when one of its events is not enabled. -/
def run (s : Pools) (es : List PoolEvent) : Option Pools := es.foldlM step s

end Pools

/-! ## Where each object is -/

namespace RequestPhase

/-- The context a request holds. -/
def contexts : RequestPhase → List Nat
  | .serving c _ => [c]
  | .endingGzip c _ => [c]
  | .done => []

/-- The gzip writer a request holds. -/
def gzipWriters : RequestPhase → List Nat
  | .serving _ (.gzip g) => [g]
  | _ => []

/-- The gzip writer a request has put back and will still read. -/
def endingWriters : RequestPhase → List Nat
  | .endingGzip _ g => [g]
  | _ => []

/-- The response writer a request holds: its own, or the one its gzip
writer's field names. -/
def writers (underline : Nat → Nat) : RequestPhase → List Nat
  | .serving _ (.plain rw) => [rw]
  | .serving _ (.gzip g) => [underline g]
  | .endingGzip _ g => [underline g]
  | .done => []

theorem writers_update {p : RequestPhase} {u : Nat → Nat} {g : Nat} (h1 : g ∉ p.gzipWriters)
    (h2 : g ∉ p.endingWriters) (v : Nat) : p.writers (Function.update u g v) = p.writers u := by
  cases p with
  | serving c w =>
    cases w with
    | plain rw => rfl
    | gzip g' =>
      have hg : g' ≠ g := by simpa [gzipWriters, eq_comm] using h1
      simp [writers, Function.update_noteq hg]
  | endingGzip c g' =>
    have hg : g' ≠ g := by simpa [endingWriters, eq_comm] using h2
    simp [writers, Function.update_noteq hg]
  | done => rfl

theorem flatMap_writers_update {l : List RequestPhase} {u : Nat → Nat} {g : Nat}
    (h1 : g ∉ l.flatMap gzipWriters) (h2 : g ∉ l.flatMap endingWriters) (v : Nat) :
    l.flatMap (writers (Function.update u g v)) = l.flatMap (writers u) := by
  induction l with
  | nil => rfl
  | cons p l ih =>
    simp only [List.flatMap_cons, List.mem_append, not_or] at h1 h2 ⊢
    rw [writers_update h1.1 h2.1, ih h1.2 h2.2]

end RequestPhase

/-- Changing one request's phase changes the places it holds, and no other. -/
theorem flatMap_set_perm {α β : Type} : ∀ {l : List α} {i : Nat} {p : α}, l[i]? = some p → ∀ (p' : α)
    (f : α → List β), ((l.set i p').flatMap f ++ f p).Perm (l.flatMap f ++ f p')
  | a :: l, 0, p, h, p', f => by
    obtain rfl : a = p := by simpa using h
    simp only [List.set_cons_zero, List.flatMap_cons, List.append_assoc]
    exact List.perm_append_comm.trans ((List.perm_append_comm.append_right _).trans
      (List.Perm.of_eq (List.append_assoc _ _ _)))
  | a :: l, i + 1, p, h, p', f => by
    simp only [List.set_cons_succ, List.flatMap_cons, List.append_assoc]
    exact (flatMap_set_perm (by simpa using h) p' f).append_left _

/-- A request's new phase moves the places it holds, of every kind. -/
theorem places_set {l : List RequestPhase} {i : Nat} {p : RequestPhase} (hi : l[i]? = some p)
    (p' : RequestPhase) (u : Nat → Nat) :
    ((l.set i p').flatMap RequestPhase.contexts ++ p.contexts).Perm
        (l.flatMap RequestPhase.contexts ++ p'.contexts) ∧
      ((l.set i p').flatMap (RequestPhase.writers u) ++ p.writers u).Perm
        (l.flatMap (RequestPhase.writers u) ++ p'.writers u) ∧
      ((l.set i p').flatMap RequestPhase.gzipWriters ++ p.gzipWriters).Perm
        (l.flatMap RequestPhase.gzipWriters ++ p'.gzipWriters) ∧
      ((l.set i p').flatMap RequestPhase.endingWriters ++ p.endingWriters).Perm
        (l.flatMap RequestPhase.endingWriters ++ p'.endingWriters) :=
  ⟨flatMap_set_perm hi p' _, flatMap_set_perm hi p' _, flatMap_set_perm hi p' _, flatMap_set_perm hi p' _⟩

/-- Every object in one place at most, and made already. -/
def Tracked (places : List Nat) (fresh : Nat) : Prop := places.Nodup ∧ ∀ x ∈ places, x < fresh

theorem Tracked.subperm {L L' : List Nat} {f f' : Nat} (h : Tracked L f) (hp : L'.Subperm L) (hf : f ≤ f') :
    Tracked L' f' := by
  obtain ⟨l, hpl, hsl⟩ := hp
  exact ⟨hpl.nodup_iff.mp (hsl.nodup h.1),
    fun x hx => lt_of_lt_of_le (h.2 x (hsl.subset (hpl.symm.subset hx))) hf⟩

theorem Tracked.perm {L L' : List Nat} {f f' : Nat} (h : Tracked L f) (hp : L'.Perm L) (hf : f ≤ f') :
    Tracked L' f' :=
  h.subperm hp.subperm hf

/-- **`Get` moves an object out of the pool, or makes a new one.** -/
theorem Tracked.get {pool H pool' : List Nat} {f x f' : Nat} {o : Option Nat} (h : Tracked (pool ++ H) f)
    (hg : syncPoolGet pool f o = some (x, pool', f')) :
    Tracked (pool' ++ (H ++ [x])) f' ∧ f ≤ f' ∧ x ∉ H := by
  rcases syncPoolGet_eq_some hg with ⟨-, hx, hp, hf⟩ | ⟨-, hx, hp, hf⟩
  · -- `New`
    subst x pool' f'
    have hx : f ∉ pool ++ H := fun hx => lt_irrefl _ (h.2 _ hx)
    rw [← List.append_assoc]
    refine ⟨⟨(List.perm_append_singleton f _).nodup_iff.mpr (List.nodup_cons.mpr ⟨hx, h.1⟩), ?_⟩,
      Nat.le_succ _, fun hx' => hx (List.mem_append_right _ hx')⟩
    intro y hy
    rcases List.mem_append.mp hy with hy | hy
    · exact Nat.lt_succ_of_lt (h.2 y hy)
    · rw [List.mem_singleton.mp hy]; exact Nat.lt_succ_self _
  · -- an object put back earlier
    subst pool' f'
    have hp : (pool.erase x ++ (H ++ [x])).Perm (pool ++ H) :=
      ((List.Perm.of_eq (List.append_assoc _ _ _).symm).trans (List.perm_append_singleton _ _)).trans
        ((List.perm_cons_erase hx).symm.append_right H)
    exact ⟨h.perm hp le_rfl, le_rfl, List.disjoint_of_nodup_append h.1 hx⟩

theorem mem_of_syncPoolGet {pool pool' : List Nat} {f x f' : Nat} {o : Option Nat}
    (hg : syncPoolGet pool f o = some (x, pool', f')) {y : Nat} (hy : y ∈ pool) (hyx : y ≠ x) :
    y ∈ pool' := by
  rcases syncPoolGet_eq_some hg with ⟨-, -, hp, -⟩ | ⟨-, -, hp, -⟩ <;> subst pool'
  · exact hy
  · exact (List.mem_erase_of_ne hyx).mpr hy

/-- Putting `x` in a pool while the holders' list loses it. -/
theorem perm_put {P X Y : List Nat} {x : Nat} (h : (X ++ [x]).Perm Y) : (x :: P ++ X).Perm (P ++ Y) :=
  ((List.perm_append_singleton x (P ++ X)).symm.trans (List.Perm.of_eq (List.append_assoc _ _ _))).trans
    (h.append_left P)

/-- Dropping what a request held. -/
theorem subperm_drop {P X Y F : List Nat} (h : (X ++ Y).Perm (F ++ [])) : (P ++ X).Subperm (P ++ F) :=
  (List.sublist_append_left (P ++ X) Y).subperm.trans
    ((List.Perm.of_eq (List.append_assoc _ _ _)).trans
      ((h.trans (List.Perm.of_eq (List.append_nil _))).append_left P)).subperm

namespace Pools

/-- Where the contexts are: in the pool, or held by a request. -/
def contextPlaces (s : Pools) : List Nat := s.contexts ++ s.requests.flatMap RequestPhase.contexts

/-- Where the response writers are. -/
def writerPlaces (s : Pools) : List Nat :=
  s.rpool ++ s.requests.flatMap (RequestPhase.writers s.underline)

/-- Where the gzip writers are. -/
def gzipPlaces (s : Pools) : List Nat := s.gzpool ++ s.requests.flatMap RequestPhase.gzipWriters

/-- The gzip writers requests have put back and will still read. -/
def endingWriters (s : Pools) : List Nat := s.requests.flatMap RequestPhase.endingWriters

/-- What the pools keep while no gzip writer is taken from `gzpool` by one
request between the two steps of another's `EndResponse`: every object in
one place, and a gzip writer put back still in `gzpool` until its
`ResponseWriter` has been read. -/
structure Inv (s : Pools) : Prop where
  contexts : Tracked s.contextPlaces s.fresh
  writers : Tracked s.writerPlaces s.fresh
  gzipWriters : Tracked s.gzipPlaces s.fresh
  ending_pooled : ∀ g ∈ s.endingWriters, g ∈ s.gzpool

theorem init_inv : init.Inv :=
  ⟨⟨List.nodup_nil, by simp [init, contextPlaces]⟩, ⟨List.nodup_nil, by simp [init, writerPlaces]⟩,
    ⟨List.nodup_nil, by simp [init, gzipPlaces]⟩, by simp [init, endingWriters]⟩

variable {s s' : Pools}

theorem acquire_inv {ctx rw : Option Nat} (h : s.acquire ctx rw = some s') (hs : s.Inv) : s'.Inv := by
  unfold acquire at h
  obtain ⟨⟨c, contexts, f₁⟩, h₁, h⟩ := Option.bind_eq_some.mp h
  obtain ⟨⟨w, rpool, f₂⟩, h₂, rfl⟩ := Option.map_eq_some'.mp h
  obtain ⟨hC, hf₁, -⟩ := hs.contexts.get h₁
  obtain ⟨hW, hf₂, -⟩ := (hs.writers.perm (List.Perm.refl _) hf₁).get h₂
  refine ⟨hC.perm ?_ hf₂, hW.perm ?_ le_rfl, hs.gzipWriters.perm ?_ (hf₁.trans hf₂), ?_⟩
  · simp [contextPlaces, RequestPhase.contexts]
  · simp [writerPlaces, RequestPhase.writers]
  · simp [gzipPlaces, RequestPhase.gzipWriters]
  · simpa [endingWriters, RequestPhase.endingWriters] using hs.ending_pooled

/-- `GzipResponseWriter()` keeps the invariant unless it takes from `gzpool`
a gzip writer that another request is between the two steps of
releasing. -/
theorem gzipResponseWriter_inv {i : Nat} {o : Option Nat} (h : s.gzipResponseWriter i o = some s')
    (hs : s.Inv) (hr : ∀ g, o = some g → g ∉ s.endingWriters) : s'.Inv := by
  unfold gzipResponseWriter at h
  split at h
  · rename_i c rw hi
    obtain ⟨⟨g, gzpool, f'⟩, hg, rfl⟩ := Option.map_eq_some'.mp h
    obtain ⟨hG, hf, hgH⟩ := hs.gzipWriters.get hg
    -- no other request reads the gzip writer's field
    have hgE : g ∉ s.endingWriters := by
      rcases syncPoolGet_eq_some hg with ⟨-, rfl, -, -⟩ | ⟨rfl, -, -, -⟩
      · exact fun hE => lt_irrefl _ (hs.gzipWriters.2 _ (List.mem_append_left _ (hs.ending_pooled _ hE)))
      · exact hr _ rfl
    obtain ⟨hC, hW, hG', hE⟩ := places_set hi (.serving c (.gzip g)) (Function.update s.underline g rw)
    simp only [RequestPhase.contexts, RequestPhase.writers, RequestPhase.gzipWriters,
      RequestPhase.endingWriters, Function.update_same, List.append_nil, List.perm_append_right_iff] at hC hW hG' hE
    rw [RequestPhase.flatMap_writers_update hgH hgE] at hW
    refine ⟨hs.contexts.perm (hC.append_left _) hf, hs.writers.perm (hW.append_left _) hf,
      hG.perm (hG'.append_left _) le_rfl, fun g' hg' => ?_⟩
    have hg's : g' ∈ s.gzpool := hs.ending_pooled g' (hE.subset hg')
    exact mem_of_syncPoolGet hg hg's fun e => hgE (e ▸ hE.subset hg')
  · cases h; exact hs
  · cases h

theorem release_inv {i : Nat} (h : s.release i = some s') (hs : s.Inv) : s'.Inv := by
  unfold release at h
  split at h
  · -- a response writer and the context go back
    rename_i c rw hi
    cases h
    obtain ⟨hC, hW, hG, hE⟩ := places_set hi .done s.underline
    simp only [RequestPhase.contexts, RequestPhase.writers, RequestPhase.gzipWriters,
      RequestPhase.endingWriters, List.append_nil] at hC hW hG hE
    exact ⟨hs.contexts.perm (perm_put hC) le_rfl, hs.writers.perm (perm_put hW) le_rfl,
      hs.gzipWriters.perm (hG.append_left _) le_rfl, fun g hg => hs.ending_pooled g (hE.subset hg)⟩
  · -- the gzip writer goes back first
    rename_i c g hi
    cases h
    obtain ⟨hC, hW, hG, hE⟩ := places_set hi (.endingGzip c g) s.underline
    simp only [RequestPhase.contexts, RequestPhase.writers, RequestPhase.gzipWriters,
      RequestPhase.endingWriters, List.append_nil, List.perm_append_right_iff] at hC hW hG hE
    refine ⟨hs.contexts.perm (hC.append_left _) le_rfl, hs.writers.perm (hW.append_left _) le_rfl,
      hs.gzipWriters.perm (perm_put hG) le_rfl, fun g' hg' => ?_⟩
    rcases List.mem_append.mp (hE.subset hg') with hg' | hg'
    · exact List.mem_cons_of_mem _ (hs.ending_pooled g' hg')
    · rw [List.mem_singleton.mp hg']; exact List.mem_cons_self _ _
  · cases h

theorem endUnderline_inv {i : Nat} (h : s.endUnderline i = some s') (hs : s.Inv) : s'.Inv := by
  unfold endUnderline at h
  split at h
  · rename_i c g hi
    cases h
    obtain ⟨hC, hW, hG, hE⟩ := places_set hi .done s.underline
    simp only [RequestPhase.contexts, RequestPhase.writers, RequestPhase.gzipWriters,
      RequestPhase.endingWriters, List.append_nil] at hC hW hG hE
    exact ⟨hs.contexts.perm (perm_put hC) le_rfl, hs.writers.perm (perm_put hW) le_rfl,
      hs.gzipWriters.perm (hG.append_left _) le_rfl,
      fun g' hg' => hs.ending_pooled g' (hE.subset (List.mem_append_left _ hg'))⟩
  · cases h

theorem releaseLight_inv {i : Nat} (h : s.releaseLight i = some s') (hs : s.Inv) : s'.Inv := by
  unfold releaseLight at h
  split at h
  · rename_i c w hi
    cases h
    obtain ⟨hC, hW, hG, hE⟩ := places_set hi .done s.underline
    simp only [RequestPhase.contexts, RequestPhase.endingWriters, List.append_nil] at hC hW hG hE
    -- the writers it holds are dropped
    exact ⟨hs.contexts.perm (perm_put hC) le_rfl, hs.writers.subperm (subperm_drop hW) le_rfl,
      hs.gzipWriters.subperm (subperm_drop hG) le_rfl, fun g' hg' => hs.ending_pooled g' (hE.subset hg')⟩
  · cases h

/-- A `GzipResponseWriter()` call that takes from `gzpool` a gzip writer
whose last holder is between the two steps of its `EndResponse`. -/
def races (s : Pools) : PoolEvent → Bool
  | .gzipResponseWriter _ (some g) => g ∈ s.endingWriters
  | _ => false

/-- An interleaving with no such call. -/
def raceFree : Pools → List PoolEvent → Bool
  | _, [] => true
  | s, e :: es => !s.races e && match s.step e with
    | some s' => raceFree s' es
    | none => true

/-- **One event keeps the invariant**, unless it is the race. -/
theorem step_inv {e : PoolEvent} (h : s.step e = some s') (hs : s.Inv) (hr : s.races e = false) :
    s'.Inv := by
  cases e with
  | acquire ctx rw => exact acquire_inv h hs
  | gzipResponseWriter i o =>
    refine gzipResponseWriter_inv h hs fun g hg => ?_
    subst hg
    simpa [races] using hr
  | release i => exact release_inv h hs
  | endUnderline i => exact endUnderline_inv h hs
  | releaseLight i => exact releaseLight_inv h hs

theorem run_inv : ∀ (es : List PoolEvent) {s s' : Pools}, s.run es = some s' → s.raceFree es = true →
    s.Inv → s'.Inv
  | [], _, _, h, _, hs => by cases h; exact hs
  | e :: es, s, s', h, hr, hs => by
    simp only [run, List.foldlM_cons] at h
    cases he : s.step e with
    | none => simp [he] at h
    | some s₁ =>
      simp only [raceFree, he, Bool.and_eq_true, Bool.not_eq_true'] at hr
      rw [he] at h
      exact run_inv es h hr.2 (step_inv he hs hr.1)

/-- **Every object in one place.** In every interleaving from empty pools
in which no request takes a gzip writer that another is between the two
steps of releasing, each context, response writer and gzip writer is in
its pool or held by one request, never two. -/
theorem reachable_tracked {es : List PoolEvent} {s : Pools} (h : init.run es = some s)
    (hr : init.raceFree es = true) :
    s.contextPlaces.Nodup ∧ s.writerPlaces.Nodup ∧ s.gzipPlaces.Nodup :=
  let hs := run_inv es h hr init_inv
  ⟨hs.contexts.1, hs.writers.1, hs.gzipWriters.1⟩

/-- One request with a gzip writer ends, and the next reuses its context,
response writer and gzip writer. -/
theorem reachable_tracked_reused :
    let es := [PoolEvent.acquire none none, .gzipResponseWriter 0 none, .release 0, .endUnderline 0,
      .acquire (some 0) (some 1), .gzipResponseWriter 1 (some 2)]
    let s : Pools := ⟨[], [], [], Function.update (Function.update (fun _ => 0) 2 1) 2 1, 3,
      [.done, .serving 0 (.gzip 2)]⟩
    init.run es = some s ∧ init.raceFree es = true ∧
      s.contextPlaces.Nodup ∧ s.writerPlaces.Nodup ∧ s.gzipPlaces.Nodup := by
  intro es s
  have h : init.run es = some s := rfl
  have hr : init.raceFree es = true := by decide
  exact ⟨h, hr, reachable_tracked h hr⟩

end Pools

end Context

end IrisWeb
