import Mathlib.Data.List.Basic
/-!
# Go strings

A Go `string` is a sequence of bytes: `len`, indexing, slicing and
`strings.HasSuffix` count and compare bytes. `GoString` is that sequence,
and a `String` of the model stands for its UTF-8 bytes (`GoString.ofString`,
a coercion), as Go stores a literal, so the texts the source writes read
as it writes them.

Where the code cuts a string at a byte, as `omitNewLine` does, what it
keeps need not be UTF-8 and stays a `GoString`. Where it only removes or
rewrites ASCII bytes, as `cleanPath` does, its bytes are read back as
characters (`GoString.toString`).
-/

namespace IrisWeb

/-- A Go string: its bytes. -/
structure GoString where
  bytes : List UInt8
deriving DecidableEq, Repr

namespace GoString

/-- The bytes of a text: its UTF-8 encoding. -/
@[coe] def ofString (s : String) : GoString := ⟨s.data.flatMap String.utf8EncodeChar⟩

instance : Coe String GoString := ⟨ofString⟩

instance : Append GoString := ⟨fun a b => ⟨a.bytes ++ b.bytes⟩⟩

/-- `len(s)`. -/
def length (s : GoString) : Nat := s.bytes.length

@[simp] theorem bytes_append (a b : GoString) : (a ++ b).bytes = a.bytes ++ b.bytes := rfl

theorem ofString_eq_empty_iff {s : String} : ofString s = ofString "" ↔ s = "" := by
  constructor
  · intro h
    have hnil : s.data.flatMap String.utf8EncodeChar = [] := congrArg GoString.bytes h
    rw [List.flatMap_eq_nil_iff] at hnil
    obtain ⟨cs⟩ := s
    cases cs with
    | nil => rfl
    | cons c cs =>
      have := congrArg List.length (hnil c (List.mem_cons_self c cs))
      simp [c.utf8Size_pos.ne'] at this
  · rintro rfl; rfl

theorem append_ofString_empty (a : GoString) : a ++ ofString "" = a :=
  congrArg GoString.mk (List.append_nil a.bytes)

/-- UTF-8 decoding, a byte at a time: `acc` is the code point read so far
and `more` the continuation bytes it still expects; a continuation byte
gives its low six bits. On valid UTF-8, which is all it reads here, this
is `utf8.DecodeRune` byte by byte. -/
def decodeGo : List UInt8 → Nat → Nat → List Char
  | [], _, _ => []
  | b :: bs, acc, 1 => Char.ofNat (acc * 64 + b.toNat % 64) :: decodeGo bs 0 0
  | b :: bs, acc, more + 2 => decodeGo bs (acc * 64 + b.toNat % 64) (more + 1)
  | b :: bs, _, 0 =>
    if b < 0x80 then Char.ofNat b.toNat :: decodeGo bs 0 0
    else if b < 0xE0 then decodeGo bs (b.toNat % 32) 1
    else if b < 0xF0 then decodeGo bs (b.toNat % 16) 2
    else decodeGo bs (b.toNat % 8) 3

/-- A Go string's bytes read as characters. -/
def toString (s : GoString) : String := ⟨decodeGo s.bytes 0 0⟩

theorem decodeGo_ascii {b : UInt8} (hb : b < 0x80) (bs : List UInt8) :
    decodeGo (b :: bs) 0 0 = Char.ofNat b.toNat :: decodeGo bs 0 0 := by
  simp [decodeGo, hb]

/-! ## Runes

`fmt` reads the verb after a `%` as a rune, with `utf8.DecodeRuneInString`,
and writes it back with `WriteRune`: a valid sequence as it was, and a byte
that starts none as `RuneError`. -/

/-- The size and the range of the second byte that `utf8`'s tables `first`
and `acceptRanges` give a lead byte, `none` for a byte that starts no
sequence. -/
def leadRange (b : UInt8) : Option (Nat × UInt8 × UInt8) :=
  if b < 0xC2 then none
  else if b < 0xE0 then some (2, 0x80, 0xBF)
  else if b = 0xE0 then some (3, 0xA0, 0xBF)
  else if b = 0xED then some (3, 0x80, 0x9F)
  else if b < 0xF0 then some (3, 0x80, 0xBF)
  else if b = 0xF0 then some (4, 0x90, 0xBF)
  else if b < 0xF4 then some (4, 0x80, 0xBF)
  else if b = 0xF4 then some (4, 0x80, 0x8F)
  else none

/-- The size of the valid sequence `utf8.DecodeRuneInString` reads at the
head of a non-ASCII `s`, `none` when it returns `RuneError` of size one. -/
def runeSize : List UInt8 → Option Nat
  | b :: s1 :: rest =>
    match leadRange b with
    | some (sz, lo, hi) =>
      if lo ≤ s1 ∧ s1 ≤ hi ∧ sz - 2 ≤ rest.length ∧
          (rest.take (sz - 2)).all fun c => 0x80 ≤ c ∧ c ≤ 0xBF then some sz
      else none
    | none => none
  | _ => none

/-- `utf8.RuneError`'s bytes. -/
def runeErrorBytes : List UInt8 := [0xEF, 0xBF, 0xBD]

/-- The rune at the head of `s` as `WriteRune` writes it back, and the
bytes after it. -/
def readRune : List UInt8 → List UInt8 × List UInt8
  | [] => ([], [])
  | b :: s =>
    if b < 0x80 then ([b], s)
    else
      match runeSize (b :: s) with
      | some sz => ((b :: s).take sz, (b :: s).drop sz)
      | none => (runeErrorBytes, s)

end GoString

end IrisWeb
