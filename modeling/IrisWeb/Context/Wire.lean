import IrisWeb.Context.ResponseWriter
import Mathlib.Data.List.Infix
/-!
# The response on the wire — headers and native calls

`context/response_writer.go` and `context/gzip_response_writer.go` once
more, with what `Writers` leaves out: the header map that handlers and
writers change through `Header()`, and the calls the code makes on the
native writer, in order, each with the header as it stands when it is
made. A `Wire` run projects onto the `Writers` run of its writer calls
(`run_toWriters`).

The gzip writer's `WriteNow` adds `Vary` and `Content-Encoding: gzip`
before its compressed bytes and leaves `Content-Length` alone (its `Del`
is commented out): each compressed write carries `Content-Encoding: gzip`
and the `Content-Length` that the handler's header calls left
(`gzip_write_keeps_content_length`), a stale one included
(`gzipFlushResponse_sends_content_length`).

The base `FlushResponse` runs the before-flush callback before any native
call it makes. The gzip `FlushResponse` writes the buffered body before it
calls the base one, so under gzip the status and the body are sent before
the callback runs (`gzipFlushResponse_runs_callback_last`).

`ClientSupportsGzip` splits `Accept-Encoding` on `;` and looks for `gzip`
in each part; as `gzip` has no `;`, that is looking for it in the whole
value (`clientSupportsGzip_iff`).
-/

namespace IrisWeb

namespace Context

/-- `http.Header`, as its entries in the order they were made. Keys are
taken canonical, as every key the code uses is. -/
abbrev Header := List (String × String)

namespace Header

/-- `h[key]`: the values under `key`, `nil` when there are none. -/
def get (h : Header) (key : String) : List String := (h.filter (·.1 = key)).map (·.2)

/-- `Set(key, value)`. -/
def set (h : Header) (key value : String) : Header := h.filter (·.1 ≠ key) ++ [(key, value)]

/-- `Add(key, value)`. -/
def add (h : Header) (key value : String) : Header := h ++ [(key, value)]

/-- `Del(key)`. -/
def del (h : Header) (key : String) : Header := h.filter (·.1 ≠ key)

theorem get_filter_ne (h : Header) (key k : String) :
    get (h.filter (·.1 ≠ key)) k = if key = k then [] else h.get k := by
  unfold get
  split_ifs with hk
  · subst hk; simp [List.filter_filter]
  · simp only [List.filter_filter]
    congr 1
    exact List.filter_congr fun p _ => by by_cases hp : p.1 = k <;> simp [hp, Ne.symm hk]

@[simp] theorem get_set (h : Header) (key value k : String) :
    (h.set key value).get k = if key = k then [value] else h.get k := by
  rw [set, get, List.filter_append, List.map_append, ← get, get_filter_ne]
  split_ifs with hk <;> simp [hk]

@[simp] theorem get_add (h : Header) (key value k : String) :
    (h.add key value).get k = if key = k then h.get k ++ [value] else h.get k := by
  split_ifs with hk <;> simp [add, get, hk]

@[simp] theorem get_del (h : Header) (key k : String) :
    (h.del key).get k = if key = k then [] else h.get k :=
  get_filter_ne h key k

end Header

/-- `ContentTypeHeaderKey`. -/
def contentTypeHeaderKey : String := "Content-Type"

/-- `ContentTextHeaderValue`. -/
def contentTextHeaderValue : String := "text/plain"

/-- `ContentLengthHeaderKey`. -/
def contentLengthHeaderKey : String := "Content-Length"

/-- `ContentEncodingHeaderKey`. -/
def contentEncodingHeaderKey : String := "Content-Encoding"

/-- `GzipHeaderValue`. -/
def gzipHeaderValue : String := "gzip"

/-- `VaryHeaderKey`. -/
def varyHeaderKey : String := "Vary"

/-- `AcceptEncodingHeaderKey`. -/
def acceptEncodingHeaderKey : String := "Accept-Encoding"

/-! ## Whether the client takes gzip -/

/-- `ClientSupportsGzip()`, of the request's `Accept-Encoding` value as
`GetHeader` gives it: some `;`-separated part contains `gzip`. -/
def clientSupportsGzip (acceptEncoding : String) : Bool :=
  if acceptEncoding ≠ "" then
    (acceptEncoding.data.splitOn ';').any fun v => decide (gzipHeaderValue.data <:+: v)
  else false

theorem prefix_of_prefix_append_cons {w a b : List Char} {c : Char} (hc : c ∉ w)
    (h : w <+: a ++ c :: b) : w <+: a := by
  induction a generalizing w with
  | nil =>
    cases w with
    | nil => exact List.nil_prefix
    | cons x w => obtain ⟨rfl, -⟩ := List.cons_prefix_cons.mp h; simp at hc
  | cons y a ih =>
    cases w with
    | nil => exact List.nil_prefix
    | cons x w =>
      obtain ⟨rfl, h'⟩ := List.cons_prefix_cons.mp h
      exact List.cons_prefix_cons.mpr ⟨rfl, ih (fun hm => hc (List.mem_cons_of_mem _ hm)) h'⟩

/-- A word without `c` inside `a ++ c :: b` lies inside `a` or inside `b`. -/
theorem infix_append_cons {w b : List Char} {c : Char} (hc : c ∉ w) :
    ∀ {a : List Char}, w <:+: a ++ c :: b → w <:+: a ∨ w <:+: b
  | [], h => (List.infix_cons_iff.mp h).imp_left fun h => (prefix_of_prefix_append_cons hc h).isInfix
  | _ :: _, h => (List.infix_cons_iff.mp h).elim
      (fun h => .inl (prefix_of_prefix_append_cons hc h).isInfix)
      fun h => (infix_append_cons hc h).imp_left List.infix_cons

/-- A word without the separator is inside the joined parts exactly when it
is inside one of them. -/
theorem infix_intercalate_iff {w : List Char} {c : Char} (hc : c ∉ w) :
    ∀ {ps : List (List Char)}, ps ≠ [] → (w <:+: [c].intercalate ps ↔ ∃ v ∈ ps, w <:+: v)
  | [p], _ => by simp [List.intercalate]
  | p :: q :: ps, _ => by
    have hcat : [c].intercalate (p :: q :: ps) = p ++ c :: [c].intercalate (q :: ps) := by
      simp [List.intercalate, List.intersperse_cons_cons]
    rw [hcat, List.exists_mem_cons_iff, ← infix_intercalate_iff hc (List.cons_ne_nil q ps)]
    exact ⟨infix_append_cons hc, fun h => h.elim (fun h => h.trans (List.prefix_append _ _).isInfix)
      fun h => h.trans ((List.infix_cons List.infix_rfl).trans (List.suffix_append p _).isInfix)⟩

/-- **The split on `;` changes nothing.** As `gzip` has no `;`, the client
takes gzip exactly when its `Accept-Encoding` value contains `gzip`
anywhere, in a `q=` parameter or a longer token such as `x-gzip` too. -/
theorem clientSupportsGzip_iff (acceptEncoding : String) :
    clientSupportsGzip acceptEncoding = true ↔ gzipHeaderValue.data <:+: acceptEncoding.data := by
  unfold clientSupportsGzip
  split
  · have h := infix_intercalate_iff (show ';' ∉ gzipHeaderValue.data by decide)
      (show acceptEncoding.data.splitOn ';' ≠ [] from List.splitOnP_ne_nil _ _)
    rw [List.intercalate_splitOn] at h
    simpa using h.symm
  · rename_i h
    rw [not_not.mp h]
    decide

example : clientSupportsGzip "deflate;q=0.5, x-gzip" = true := by decide

/-- A call the code makes on the native writer, with the header as it
stands then, or the run of the before-flush callback. -/
inductive NativeCall
  | writeHeader (code : Int) (header : Header)
  /-- `Write` of `n` bytes, gzip-compressed or not. -/
  | write (n : Nat) (compressed : Bool) (header : Header)
  | flush (header : Header)
  | beforeFlush
deriving DecidableEq, Repr

/-- The base writer and the native calls made through it. -/
structure Line where
  base : ResponseWriter
  log : List NativeCall := []
deriving DecidableEq, Repr

namespace Line

/-! ## The base writer, with its native calls

None of the base writer's calls changes the header, so each takes it as
`hd`. -/

/-- `tryWriteHeader`, with the native `WriteHeader` it makes. -/
def tryWriteHeader (hd : Header) (l : Line) : Line :=
  if l.base.written = noWritten then
    ⟨l.base.tryWriteHeader, l.log ++ [.writeHeader l.base.statusCode hd]⟩
  else l

/-- `Write` of `n` bytes, compressed when the gzip writer makes it. -/
def write (hd : Header) (compressed : Bool) (l : Line) (n : Nat) : Line :=
  ⟨(l.base.write n).1, (l.tryWriteHeader hd).log ++ [.write n compressed hd]⟩

/-- `Flush`. -/
def flush (hd : Header) (l : Line) : Line := ⟨l.base.flush, l.log ++ [.flush hd]⟩

/-- A before-flush callback's calls. -/
def runCallback (hd : Header) (l : Line) : List CallbackCall → Line
  | [] => l
  | .writeHeader code :: cs => runCallback hd ⟨l.base.writeHeader code, l.log⟩ cs
  | .write n :: cs => runCallback hd (l.write hd false n) cs
  | .flush :: cs => runCallback hd (l.flush hd) cs

/-- `FlushResponse`: the callback, then `tryWriteHeader`. -/
def flushResponse (hd : Header) (l : Line) : Line :=
  (match l.base.beforeFlush with
    | some cb => runCallback hd ⟨l.base, l.log ++ [NativeCall.beforeFlush]⟩ cb
    | none => l).tryWriteHeader hd

@[simp] theorem tryWriteHeader_base (hd : Header) (l : Line) :
    (l.tryWriteHeader hd).base = l.base.tryWriteHeader := by
  unfold tryWriteHeader ResponseWriter.tryWriteHeader
  split_ifs <;> rfl

@[simp] theorem runCallback_base (hd : Header) :
    ∀ (l : Line) (cs : List CallbackCall), (l.runCallback hd cs).base = l.base.runCallback cs
  | _, [] => rfl
  | _, .writeHeader _ :: cs => runCallback_base hd _ cs
  | _, .write _ :: cs => runCallback_base hd _ cs
  | _, .flush :: cs => runCallback_base hd _ cs

@[simp] theorem flushResponse_base (hd : Header) (l : Line) :
    (l.flushResponse hd).base = l.base.flushResponse := by
  unfold flushResponse ResponseWriter.flushResponse
  cases l.base.beforeFlush <;> simp

/-! ## What the native calls appended may be -/

/-- A compressed write, if `e` is one, is made with a header satisfying
`P`. -/
def CompressedWith (P : Header → Prop) (e : NativeCall) : Prop :=
  ∀ n hd, e = .write n true hd → P hd

/-- A native call that is not the callback's run, and, if a compressed
write, is made with a header satisfying `P`. -/
def Allowed (P : Header → Prop) (e : NativeCall) : Prop :=
  e ≠ .beforeFlush ∧ CompressedWith P e

/-- `l'` is `l` with native calls appended, each satisfying `Q`. -/
def Appends (Q : NativeCall → Prop) (l l' : Line) : Prop :=
  ∃ new, l'.log = l.log ++ new ∧ ∀ e ∈ new, Q e

variable {Q : NativeCall → Prop} {P : Header → Prop} {hd : Header}

theorem Appends.refl (l : Line) : Appends Q l l := ⟨[], by simp, by simp⟩

theorem Appends.trans {l₁ l₂ l₃ : Line} (h₁ : Appends Q l₁ l₂) (h₂ : Appends Q l₂ l₃) :
    Appends Q l₁ l₃ := by
  obtain ⟨n₁, e₁, a₁⟩ := h₁
  obtain ⟨n₂, e₂, a₂⟩ := h₂
  exact ⟨n₁ ++ n₂, by rw [e₂, e₁, List.append_assoc], fun e he =>
    (List.mem_append.mp he).elim (a₁ e) (a₂ e)⟩

theorem Appends.mono {Q' : NativeCall → Prop} {l l' : Line} (h : Appends Q l l')
    (hq : ∀ e, Q e → Q' e) : Appends Q' l l' :=
  let ⟨new, hlog, hnew⟩ := h
  ⟨new, hlog, fun e he => hq e (hnew e he)⟩

theorem tryWriteHeader_appends (l : Line) : Appends (Allowed P) l (l.tryWriteHeader hd) := by
  unfold tryWriteHeader
  split_ifs
  · exact ⟨_, rfl, by simp [Allowed, CompressedWith]⟩
  · exact Appends.refl l

/-- A write appends what `P` allows if it is plain, or if `P` holds of the
header it is made with. -/
theorem write_appends (l : Line) (c : Bool) (n : Nat) (h : c = true → P hd) :
    Appends (Allowed P) l (l.write hd c n) :=
  (tryWriteHeader_appends l).trans
    ⟨_, rfl, by simp only [List.mem_singleton]; rintro _ rfl; simpa [Allowed, CompressedWith] using h⟩

theorem flush_appends (l : Line) : Appends (Allowed P) l (l.flush hd) :=
  ⟨_, rfl, by simp [Allowed, CompressedWith]⟩

theorem runCallback_appends :
    ∀ (l : Line) (cs : List CallbackCall), Appends (Allowed P) l (l.runCallback hd cs)
  | l, [] => .refl l
  | _, .writeHeader _ :: cs => runCallback_appends _ cs
  | l, .write n :: cs => (write_appends l false n nofun).trans (runCallback_appends _ cs)
  | l, .flush :: cs => (flush_appends l).trans (runCallback_appends _ cs)

/-- `FlushResponse` appends the callback's run, if there is a callback, and
then native calls that are not. -/
theorem flushResponse_log (l : Line) :
    ∃ new, (l.flushResponse hd).log =
      l.log ++ (if l.base.beforeFlush.isSome then [.beforeFlush] else []) ++ new ∧
      ∀ e ∈ new, Allowed P e := by
  unfold flushResponse
  cases hb : l.base.beforeFlush with
  | none => simpa using @tryWriteHeader_appends P hd l
  | some cb =>
    obtain ⟨new, hlog, hnew⟩ :=
      (@runCallback_appends P hd ⟨l.base, l.log ++ [.beforeFlush]⟩ cb).trans
        (@tryWriteHeader_appends P hd _)
    exact ⟨new, by simpa using hlog, hnew⟩

theorem flushResponse_sends (l : Line) : Appends (CompressedWith P) l (l.flushResponse hd) := by
  obtain ⟨new, hlog, hnew⟩ := @flushResponse_log P hd l
  refine ⟨_, by rw [hlog, List.append_assoc], fun e he => ?_⟩
  rcases List.mem_append.mp he with he | he
  · split_ifs at he <;> simp_all [CompressedWith]
  · exact (hnew e he).2

theorem write_foldl_appends (h : P hd) :
    ∀ (ks : List Nat) (l : Line), Appends (Allowed P) l (ks.foldl (write hd true) l)
  | [], l => .refl l
  | k :: ks, l => (write_appends l true k fun _ => h).trans (write_foldl_appends h ks _)

theorem write_foldl_base (c : Bool) :
    ∀ (ks : List Nat) (l : Line),
      (ks.foldl (write hd c) l).base = ks.foldl (fun w k => (w.write k).1) l.base
  | [], _ => rfl
  | _ :: ks, _ => write_foldl_base c ks _

end Line

/-- A base writer and its native calls, a gzip writer over it, and the
header map they share. -/
structure Wire where
  line : Line
  gzip : GzipResponseWriter := {}
  header : Header := []
deriving DecidableEq, Repr

/-- A call on the wire: a handler's change through `Header()`, the gzip
writer's `WriteString` or `Writef`, or a call of `Writers`, where
`gzipWrite` is the gzip writer's `Write`. -/
inductive WireCall
  | headerSet (key value : String)
  | headerAdd (key value : String)
  | headerDel (key : String)
  /-- `WriteString` or `Writef` of `n` bytes on the gzip writer. -/
  | gzipWriteString (n : Nat)
  | call (c : Call)
deriving DecidableEq, Repr

namespace WireCall

/-- What a handler's header call does to the header. -/
def applyHeader (h : Header) : WireCall → Header
  | .headerSet k v => h.set k v
  | .headerAdd k v => h.add k v
  | .headerDel k => h.del k
  | _ => h

theorem applyHeader_get_congr {h₁ h₂ : Header} {k : String} (he : h₁.get k = h₂.get k) :
    ∀ c : WireCall, (c.applyHeader h₁).get k = (c.applyHeader h₂).get k
  | .headerSet _ _ | .headerAdd _ _ | .headerDel _ => by simp [applyHeader, he]
  | .gzipWriteString _ | .call _ => he

end WireCall

namespace Wire

/-- `AddGzipHeaders`: `Vary: Accept-Encoding` and `Content-Encoding: gzip`
added. -/
def addGzipHeaders (h : Header) : Header :=
  (h.add varyHeaderKey acceptEncodingHeaderKey).add contentEncodingHeaderKey gzipHeaderValue

/- `gzipOut n`: the lengths of the compressed writes for `n` bytes, as in
`Writers`. -/
variable (gzipOut : Nat → List Nat)

/-- `GzipResponseWriter.WriteNow`: plain through the base writer when
disabled; otherwise the gzip headers, then the compressed writes. -/
def gzipWriteNow (t : Wire) (n : Nat) : Wire :=
  if t.gzip.disabled then { t with line := t.line.write t.header false n }
  else
    let header := addGzipHeaders t.header
    { t with header := header, line := (gzipOut n).foldl (Line.write header true) t.line }

/-- `GzipResponseWriter.FlushResponse`: `WriteNow` of the chunks, then the
base `FlushResponse`. -/
def gzipFlushResponse (t : Wire) : Wire :=
  let t := gzipWriteNow gzipOut t t.gzip.chunks
  { t with line := t.line.flushResponse t.header }

/-- One call. The gzip writer's `WriteString` and `Writef` buffer, then set
`Content-Type: text/plain` when the header has none. -/
def step (t : Wire) : WireCall → Wire
  | .headerSet k v => { t with header := t.header.set k v }
  | .headerAdd k v => { t with header := t.header.add k v }
  | .headerDel k => { t with header := t.header.del k }
  | .gzipWriteString n =>
    let t := { t with gzip := { t.gzip with chunks := t.gzip.chunks + n } }
    if (t.header.get contentTypeHeaderKey).isEmpty then
      { t with header := t.header.set contentTypeHeaderKey contentTextHeaderValue }
    else t
  | .call (.writeHeader code) => { t with line := { t.line with base := t.line.base.writeHeader code } }
  | .call (.write n) => { t with line := t.line.write t.header false n }
  | .call .flushResponse => { t with line := t.line.flushResponse t.header }
  | .call .flush => { t with line := t.line.flush t.header }
  | .call (.setBeforeFlush cb) => { t with line := { t.line with base := t.line.base.setBeforeFlush cb } }
  | .call (.gzipWrite n) => { t with gzip := { t.gzip with chunks := t.gzip.chunks + n } }
  | .call (.gzipWriteNow n) => gzipWriteNow gzipOut t n
  | .call .gzipResetBody => { t with gzip := { t.gzip with chunks := 0 } }
  | .call .gzipDisable => { t with gzip := { t.gzip with disabled := true } }
  | .call .gzipFlushResponse => gzipFlushResponse gzipOut t

/-- A sequence of calls. -/
def run (t : Wire) (cs : List WireCall) : Wire := cs.foldl (step gzipOut) t

/-- After `BeginResponse` on a fresh native writer, with an empty header. -/
def begin : Wire := { line := { base := ResponseWriter.beginResponse {} } }

/-! ## The projection onto `Writers` -/

@[simp] theorem gzipWriteNow_base (t : Wire) (n : Nat) :
    (gzipWriteNow gzipOut t n).line.base = Writers.gzipWriteNow gzipOut t.gzip t.line.base n := by
  unfold gzipWriteNow Writers.gzipWriteNow
  split_ifs
  · rfl
  · exact Line.write_foldl_base true _ _

@[simp] theorem gzipWriteNow_gzip (t : Wire) (n : Nat) : (gzipWriteNow gzipOut t n).gzip = t.gzip := by
  unfold gzipWriteNow; split_ifs <;> rfl

/-- What a compressed write's header must hold: `Content-Encoding: gzip`,
and the `Content-Length` of `h`. -/
def CarriesGzip (h hd : Header) : Prop :=
  gzipHeaderValue ∈ hd.get contentEncodingHeaderKey ∧
    hd.get contentLengthHeaderKey = h.get contentLengthHeaderKey

theorem addGzipHeaders_carriesGzip (h : Header) : CarriesGzip h (addGzipHeaders h) := by
  simp [CarriesGzip, addGzipHeaders, varyHeaderKey, contentEncodingHeaderKey, contentLengthHeaderKey]

theorem gzipWriteNow_contentLength (t : Wire) (n : Nat) :
    (gzipWriteNow gzipOut t n).header.get contentLengthHeaderKey = t.header.get contentLengthHeaderKey := by
  unfold gzipWriteNow
  split_ifs
  · rfl
  · exact (addGzipHeaders_carriesGzip t.header).2

/-- No writer call changes `Content-Length`: after a call it is what the
call's own header change, if any, made it. -/
theorem step_contentLength (t : Wire) (c : WireCall) :
    (step gzipOut t c).header.get contentLengthHeaderKey =
      (c.applyHeader t.header).get contentLengthHeaderKey := by
  cases c with
  | gzipWriteString n =>
    simp only [step, WireCall.applyHeader]
    split_ifs <;> simp [contentTypeHeaderKey, contentLengthHeaderKey]
  | call c =>
    cases c <;> simp only [step, gzipFlushResponse, WireCall.applyHeader, gzipWriteNow_contentLength]
  | _ => rfl

theorem run_contentLength (cs : List WireCall) (t : Wire) (h : Header)
    (he : t.header.get contentLengthHeaderKey = h.get contentLengthHeaderKey) :
    (run gzipOut t cs).header.get contentLengthHeaderKey =
      (cs.foldl WireCall.applyHeader h).get contentLengthHeaderKey := by
  induction cs generalizing t h with
  | nil => exact he
  | cons c cs ih =>
    exact ih _ _ ((step_contentLength gzipOut t c).trans (WireCall.applyHeader_get_congr he c))

theorem gzipWriteNow_sends (t : Wire) (n : Nat) :
    Line.Appends (Line.CompressedWith (CarriesGzip t.header)) t.line
      (gzipWriteNow gzipOut t n).line := by
  unfold gzipWriteNow
  split_ifs
  · exact (Line.write_appends _ false n nofun).mono fun _ h => h.2
  · exact (Line.write_foldl_appends (addGzipHeaders_carriesGzip t.header) _ _).mono fun _ h => h.2

/-- **One call's compressed writes carry gzip and the header's
`Content-Length`.** -/
theorem step_sends (t : Wire) (c : WireCall) :
    Line.Appends (Line.CompressedWith (CarriesGzip t.header)) t.line (step gzipOut t c).line := by
  have hsame : ∀ l : Line, l.log = t.line.log →
      Line.Appends (Line.CompressedWith (CarriesGzip t.header)) t.line l :=
    fun l hl => ⟨[], by simp [hl], by simp⟩
  cases c with
  | gzipWriteString n =>
    simp only [step]
    split_ifs <;> exact hsame _ rfl
  | call c =>
    cases c with
    | write n => exact (Line.write_appends _ false n nofun).mono fun _ h => h.2
    | flushResponse => exact Line.flushResponse_sends _
    | flush => exact (Line.flush_appends _).mono fun _ h => h.2
    | gzipWriteNow n => exact gzipWriteNow_sends gzipOut t n
    | gzipFlushResponse => exact (gzipWriteNow_sends gzipOut t _).trans (Line.flushResponse_sends _)
    | _ => exact hsame _ rfl
  | _ => exact hsame _ rfl

/-- **Compressed writes carry `Content-Encoding: gzip` and the handler's
`Content-Length`.** After any calls `pre` from any state, the next call
appends its native calls to the log, and each compressed write among them
is made with a header that holds `Content-Encoding: gzip` and exactly the
`Content-Length` values that the handler's header calls in `pre` left on
the starting header: the writers never remove or change it. -/
theorem gzip_write_keeps_content_length (t : Wire) (pre : List WireCall) (c : WireCall) :
    ∃ new, (step gzipOut (run gzipOut t pre) c).line.log = (run gzipOut t pre).line.log ++ new ∧
      ∀ n hd, NativeCall.write n true hd ∈ new →
        gzipHeaderValue ∈ hd.get contentEncodingHeaderKey ∧
          hd.get contentLengthHeaderKey =
            (pre.foldl WireCall.applyHeader t.header).get contentLengthHeaderKey := by
  obtain ⟨new, hlog, hnew⟩ := step_sends gzipOut (run gzipOut t pre) c
  refine ⟨new, hlog, fun n hd he => ?_⟩
  obtain ⟨hgz, hcl⟩ := hnew _ he n hd rfl
  exact ⟨hgz, hcl.trans (run_contentLength gzipOut pre t t.header rfl)⟩

/-- A handler sets `Content-Length: 5` and writes five bytes through the
gzip writer, which the compressor makes 25: they go out with
`Content-Encoding: gzip` and the stale `Content-Length: 5`. -/
theorem gzipFlushResponse_sends_content_length :
    (run (fun n => [n + 20]) begin
        [.headerSet "Content-Length" "5", .call (.gzipWrite 5), .call .gzipFlushResponse]).line.log =
      [.writeHeader 200 [("Content-Length", "5"), ("Vary", "Accept-Encoding"), ("Content-Encoding", "gzip")],
        .write 25 true [("Content-Length", "5"), ("Vary", "Accept-Encoding"), ("Content-Encoding", "gzip")]] := by
  decide

/-! ## The before-flush callback -/

/-- A gzip writer with a callback registered and three bytes buffered, which
the compressor makes 23: its `FlushResponse` sends the status and the
compressed body before the callback runs. -/
theorem gzipFlushResponse_runs_callback_last :
    (run (fun n => [n + 20]) begin
        [.call (.setBeforeFlush (some [])), .call (.gzipWrite 3), .call .gzipFlushResponse]).line.log =
      [.writeHeader 200 [("Vary", "Accept-Encoding"), ("Content-Encoding", "gzip")],
        .write 23 true [("Vary", "Accept-Encoding"), ("Content-Encoding", "gzip")], .beforeFlush] := by
  decide

end Wire

end Context

end IrisWeb
