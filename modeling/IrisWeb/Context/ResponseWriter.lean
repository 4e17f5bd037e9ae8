import Mathlib.Data.Int.Defs
/-!
# The response writer — base and gzip layers

`context/response_writer.go` and `context/gzip_response_writer.go`: the
base `responseWriter` over the native `http.ResponseWriter`, and the
`GzipResponseWriter` over the base. A body is known by its length: what is
written does not matter here, how many bytes and through which calls does.

The native writer behaves as net/http's `response`: its first
`WriteHeader`, `Write` or `Flush` commits the status, `200` when
`WriteHeader` came second or not at all. It also counts the `WriteHeader`
calls the code makes and the bytes its `Write`s accept.

Over every sequence of calls, the code calls the native `WriteHeader` at
most once, and `Written()` is `-1` or the native byte count
(`writeHeader_at_most_once`). `Flush` commits the status without the base writer knowing:
the status committed is then `200` whatever was recorded.
-/

namespace IrisWeb

namespace Context

/-- The native writer: whether the status is committed and which, the
`WriteHeader` calls made on it, and the bytes its `Write`s accepted. -/
structure NativeWriter where
  wroteHeader : Bool := false
  status : Int := 0
  writeHeaderCalls : Nat := 0
  bodyBytes : Nat := 0
deriving DecidableEq, Repr

/-- `http.StatusOK`, the status committed when none was sent. -/
def statusOK : Int := 200

namespace NativeWriter

/-- `WriteHeader(code)`: commits `code`; once committed, a call is
superfluous and ignored. -/
def writeHeader (w : NativeWriter) (code : Int) : NativeWriter :=
  if w.wroteHeader then { w with writeHeaderCalls := w.writeHeaderCalls + 1 }
  else { w with wroteHeader := true, status := code, writeHeaderCalls := w.writeHeaderCalls + 1 }

/-- The implicit `WriteHeader(http.StatusOK)` of a first `Write` or `Flush`. -/
def commit (w : NativeWriter) : NativeWriter :=
  if w.wroteHeader then w else { w with wroteHeader := true, status := statusOK }

/-- `Write` of `n` bytes: commits, and accepts them all. -/
def write (w : NativeWriter) (n : Nat) : NativeWriter × Nat :=
  ({ w.commit with bodyBytes := w.bodyBytes + n }, n)

/-- `Flush`: commits. -/
def flush (w : NativeWriter) : NativeWriter := w.commit

end NativeWriter

/-- `defaultStatusCode`. -/
def defaultStatusCode : Int := statusOK

/-- `NoWritten`. -/
def noWritten : Int := -1

/-- `StatusCodeWritten`. -/
def statusCodeWritten : Int := 0

/-- A call a before-flush callback makes on the writer. A callback is user
code; one that calls `FlushResponse` or `SetBeforeFlush` is not modelled. -/
inductive CallbackCall
  | writeHeader (code : Int)
  | write (n : Nat)
  | flush
deriving DecidableEq, Repr

/-- `responseWriter`: the native writer, the recorded status, the written
count, and the before-flush callback. -/
structure ResponseWriter where
  native : NativeWriter
  statusCode : Int
  written : Int
  beforeFlush : Option (List CallbackCall)
deriving DecidableEq, Repr

namespace ResponseWriter

/-- `BeginResponse(underline)`. -/
def beginResponse (underline : NativeWriter) : ResponseWriter :=
  ⟨underline, defaultStatusCode, noWritten, none⟩

/-- `WriteHeader`: the status is only recorded. -/
def writeHeader (w : ResponseWriter) (statusCode : Int) : ResponseWriter :=
  { w with statusCode := statusCode }

/-- `tryWriteHeader`: before the first write, once, the recorded status is
sent. -/
def tryWriteHeader (w : ResponseWriter) : ResponseWriter :=
  if w.written = noWritten then
    { w with written := statusCodeWritten, native := w.native.writeHeader w.statusCode }
  else w

/-- `Write`, and `WriteString` through `io.WriteString`, and `Writef`
through `fmt.Fprintf`, which writes the formatted bytes in one `Write`. -/
def write (w : ResponseWriter) (n : Nat) : ResponseWriter × Nat :=
  let w := w.tryWriteHeader
  let (native, k) := w.native.write n
  ({ w with native := native, written := w.written + k }, k)

/-- `Flush`: the native flusher is called directly. -/
def flush (w : ResponseWriter) : ResponseWriter := { w with native := w.native.flush }

/-- `SetBeforeFlush`. -/
def setBeforeFlush (w : ResponseWriter) (cb : Option (List CallbackCall)) : ResponseWriter :=
  { w with beforeFlush := cb }

/-- A before-flush callback's calls. -/
def runCallback (w : ResponseWriter) : List CallbackCall → ResponseWriter
  | [] => w
  | .writeHeader code :: cs => (w.writeHeader code).runCallback cs
  | .write n :: cs => (w.write n).1.runCallback cs
  | .flush :: cs => w.flush.runCallback cs

/-- `FlushResponse`: the callback, then `tryWriteHeader`. -/
def flushResponse (w : ResponseWriter) : ResponseWriter :=
  (match w.beforeFlush with
    | some cb => w.runCallback cb
    | none => w).tryWriteHeader


/-! ## The count of sends and bytes -/

/-- What every sequence of calls keeps: before the commit nothing has
reached the native writer; after it, one `WriteHeader` has, and
`Written()` is the native byte count. -/
def Inv (w : ResponseWriter) : Prop :=
  (w.written = noWritten ∧ w.native.writeHeaderCalls = 0 ∧ w.native.bodyBytes = 0) ∨
    (w.written = w.native.bodyBytes ∧ w.native.writeHeaderCalls = 1)

theorem inv_beginResponse : (beginResponse {}).Inv := Or.inl ⟨rfl, rfl, rfl⟩

/-- After `tryWriteHeader` the writer is committed. -/
theorem tryWriteHeader_committed {w : ResponseWriter} (h : w.Inv) :
    w.tryWriteHeader.written = w.tryWriteHeader.native.bodyBytes ∧
      w.tryWriteHeader.native.writeHeaderCalls = 1 := by
  unfold tryWriteHeader
  rcases h with ⟨hw, hc, hb⟩ | ⟨hw, hc⟩
  · have hcommit : (w.native.writeHeader w.statusCode).writeHeaderCalls = 1 ∧
        (w.native.writeHeader w.statusCode).bodyBytes = 0 := by
      unfold NativeWriter.writeHeader; split_ifs <;> simp [hc, hb]
    simp only [hw, if_true, hcommit, statusCodeWritten]
    simp
  · have hne : w.written ≠ noWritten := by rw [hw, noWritten]; omega
    simp only [hne, if_false]
    exact ⟨hw, hc⟩

theorem write_inv {w : ResponseWriter} (h : w.Inv) (n : Nat) : (w.write n).1.Inv := by
  obtain ⟨hw, hc⟩ := tryWriteHeader_committed h
  have hb : (w.tryWriteHeader.native.commit).bodyBytes = w.tryWriteHeader.native.bodyBytes ∧
      (w.tryWriteHeader.native.commit).writeHeaderCalls = w.tryWriteHeader.native.writeHeaderCalls := by
    unfold NativeWriter.commit; split_ifs <;> simp
  refine Or.inr ⟨?_, ?_⟩
  · simp [write, NativeWriter.write, hw, hb.1]
  · simp [write, NativeWriter.write, hb.2, hc]

theorem flush_inv {w : ResponseWriter} (h : w.Inv) : w.flush.Inv := by
  have hb : (w.native.commit).bodyBytes = w.native.bodyBytes ∧
      (w.native.commit).writeHeaderCalls = w.native.writeHeaderCalls := by
    unfold NativeWriter.commit; split_ifs <;> simp
  simpa [Inv, flush, NativeWriter.flush, hb.1, hb.2] using h

theorem runCallback_inv : ∀ (cs : List CallbackCall) {w : ResponseWriter}, w.Inv →
    (w.runCallback cs).Inv
  | [], _, h => h
  | .writeHeader _ :: cs, _, h => runCallback_inv cs h
  | .write n :: cs, _, h => runCallback_inv cs (write_inv h n)
  | .flush :: cs, _, h => runCallback_inv cs (flush_inv h)

theorem flushResponse_inv {w : ResponseWriter} (h : w.Inv) : w.flushResponse.Inv := by
  have h' : (match w.beforeFlush with
      | some cb => w.runCallback cb
      | none => w).Inv := by
    cases w.beforeFlush with
    | none => exact h
    | some cb => exact runCallback_inv cb h
  exact Or.inr (tryWriteHeader_committed h')

end ResponseWriter

/-- `GzipResponseWriter`: the length of the buffered chunks, and whether
compression is off. -/
structure GzipResponseWriter where
  chunks : Nat := 0
  disabled : Bool := false
deriving DecidableEq, Repr

/-- A call on the writers. -/
inductive Call
  | writeHeader (code : Int)
  /-- `Write`, `WriteString` or `Writef` on the base writer. -/
  | write (n : Nat)
  | flushResponse
  | flush
  | setBeforeFlush (cb : Option (List CallbackCall))
  /-- `Write`, `WriteString` or `Writef` on the gzip writer. -/
  | gzipWrite (n : Nat)
  | gzipWriteNow (n : Nat)
  | gzipResetBody
  | gzipDisable
  | gzipFlushResponse
deriving DecidableEq, Repr

/-- A base writer and a gzip writer over it. -/
structure Writers where
  base : ResponseWriter
  gzip : GzipResponseWriter := {}
deriving DecidableEq, Repr

namespace Writers

/- `gzipOut n`: what the gzip writer sends for `n` bytes, the lengths of the
`Write`s `writeGzip` makes on the base writer through the gzip writer's
`Write`, `Flush` and `Close`. The compressor is a parameter. -/
variable (gzipOut : Nat → List Nat)

/-- `GzipResponseWriter.WriteNow`: plain through the base writer when
disabled, compressed otherwise. -/
def gzipWriteNow (gz : GzipResponseWriter) (w : ResponseWriter) (n : Nat) : ResponseWriter :=
  if gz.disabled then (w.write n).1
  else (gzipOut n).foldl (fun w k => (w.write k).1) w

/-- One call. -/
def step (s : Writers) : Call → Writers
  | .writeHeader code => { s with base := s.base.writeHeader code }
  | .write n => { s with base := (s.base.write n).1 }
  | .flushResponse => { s with base := s.base.flushResponse }
  | .flush => { s with base := s.base.flush }
  | .setBeforeFlush cb => { s with base := s.base.setBeforeFlush cb }
  | .gzipWrite n => { s with gzip := { s.gzip with chunks := s.gzip.chunks + n } }
  | .gzipWriteNow n => { s with base := gzipWriteNow gzipOut s.gzip s.base n }
  | .gzipResetBody => { s with gzip := { s.gzip with chunks := 0 } }
  | .gzipDisable => { s with gzip := { s.gzip with disabled := true } }
  | .gzipFlushResponse =>
    { s with base := (gzipWriteNow gzipOut s.gzip s.base s.gzip.chunks).flushResponse }

/-- A sequence of calls. -/
def run (s : Writers) (cs : List Call) : Writers := cs.foldl (step gzipOut) s

/-- After `BeginResponse` on a fresh native writer. -/
def begin : Writers := { base := ResponseWriter.beginResponse {} }

/-- `BeginResponse`, `WriteHeader(404)`, `Flush()`: the native writer has
committed `200`, the base writer still records `404`, and `Written()` is
`-1`. A `Write` after it sends `404` to a native writer that ignores it. -/
theorem flush_commits_default_status :
    (begin.run gzipOut [.writeHeader 404, .flush]).base =
        ⟨⟨true, 200, 0, 0⟩, 404, -1, none⟩ ∧
      (begin.run gzipOut [.writeHeader 404, .flush, .write 5]).base.native = ⟨true, 200, 1, 5⟩ :=
  ⟨rfl, rfl⟩

theorem gzipWriteNow_inv (gz : GzipResponseWriter) {w : ResponseWriter} (h : w.Inv) (n : Nat) :
    (gzipWriteNow gzipOut gz w n).Inv := by
  unfold gzipWriteNow
  split_ifs
  · exact ResponseWriter.write_inv h n
  · induction gzipOut n generalizing w with
    | nil => exact h
    | cons k ks ih => exact ih (ResponseWriter.write_inv h k)

/-- **One call keeps the invariant.** -/
theorem step_inv {s : Writers} (h : s.base.Inv) (c : Call) : (step gzipOut s c).base.Inv := by
  cases c with
  | writeHeader code => exact h
  | write n => exact ResponseWriter.write_inv h n
  | flushResponse => exact ResponseWriter.flushResponse_inv h
  | flush => exact ResponseWriter.flush_inv h
  | setBeforeFlush cb => exact h
  | gzipWrite n => exact h
  | gzipWriteNow n => exact gzipWriteNow_inv gzipOut s.gzip h n
  | gzipResetBody => exact h
  | gzipDisable => exact h
  | gzipFlushResponse =>
    exact ResponseWriter.flushResponse_inv (gzipWriteNow_inv gzipOut s.gzip h _)

/-- Every sequence of calls keeps the invariant. -/
theorem run_inv (cs : List Call) {s : Writers} (h : s.base.Inv) : (s.run gzipOut cs).base.Inv := by
  induction cs generalizing s with
  | nil => exact h
  | cons c cs ih => exact ih (step_inv gzipOut h c)

/-- **At most one status send, and exact byte counts.** After
`BeginResponse` and any sequence of calls on the base writer and a gzip
writer over it, the code has called the native `WriteHeader` once or not
at all; `Written()` is `-1` while it has not, and the sum of the native
`Write` counts once it has. -/
theorem writeHeader_at_most_once (cs : List Call) :
    let w := (begin.run gzipOut cs).base
    (w.written = -1 ∧ w.native.writeHeaderCalls = 0 ∧ w.native.bodyBytes = 0) ∨
      (w.written = w.native.bodyBytes ∧ w.native.writeHeaderCalls = 1) :=
  run_inv gzipOut cs ResponseWriter.inv_beginResponse

end Writers

end Context

end IrisWeb
