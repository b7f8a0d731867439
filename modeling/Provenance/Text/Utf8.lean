/-!
# Text — Utf8

UTF-8: the encoding of a text, and a decoder that names the first flaw of bytes that encode no text.
A character is a lead byte and up to three continuation bytes. The range of the first continuation
byte depends on the lead byte, which rules out overlong forms, surrogates and values above the last
code point.
-/

namespace Provenance.Text.Utf8

/-! ## Encoding -/

/-- The bytes of a character. -/
def encodeChar (c : Char) : List UInt8 :=
  let n := c.toNat
  if n < 0x80 then [.ofNat n]
  else if n < 0x800 then [.ofNat (0xc0 + n / 64), .ofNat (0x80 + n % 64)]
  else if n < 0x10000 then
    [.ofNat (0xe0 + n / 4096), .ofNat (0x80 + n / 64 % 64), .ofNat (0x80 + n % 64)]
  else
    [.ofNat (0xf0 + n / 262144), .ofNat (0x80 + n / 4096 % 64), .ofNat (0x80 + n / 64 % 64),
      .ofNat (0x80 + n % 64)]

/-- The bytes of a text. -/
def encode (cs : List Char) : List UInt8 := cs.flatMap encodeChar

/-! ## Decoding -/

/-- What is wrong with bytes that encode no text. -/
inductive Flaw where
  /-- A byte that begins no character. -/
  | start
  /-- A byte that cannot continue the character before it. -/
  | continuation
  /-- The bytes end within a character. -/
  | truncated
  deriving DecidableEq

/-- A flaw in words. -/
def Flaw.reason : Flaw → String
  | .start => "invalid start byte"
  | .continuation => "invalid continuation byte"
  | .truncated => "unexpected end of data"

/-- What a lead byte announces. -/
structure Lead where
  /-- The count of continuation bytes. -/
  count : Nat
  /-- The range of the first continuation byte. -/
  low : Nat
  high : Nat
  /-- The high bits of the code point. -/
  bits : Nat

/-- What a byte announces as the first of a character. -/
def lead? (b : UInt8) : Option Lead :=
  let n := b.toNat
  if n < 0x80 then some ⟨0, 0x80, 0xbf, n⟩
  else if n < 0xc2 then none
  else if n < 0xe0 then some ⟨1, 0x80, 0xbf, n - 0xc0⟩
  else if n = 0xe0 then some ⟨2, 0xa0, 0xbf, 0⟩
  else if n = 0xed then some ⟨2, 0x80, 0x9f, 13⟩
  else if n < 0xf0 then some ⟨2, 0x80, 0xbf, n - 0xe0⟩
  else if n = 0xf0 then some ⟨3, 0x90, 0xbf, 0⟩
  else if n < 0xf4 then some ⟨3, 0x80, 0xbf, n - 0xf0⟩
  else if n = 0xf4 then some ⟨3, 0x80, 0x8f, 4⟩
  else none

/-- Reads continuation bytes, the first within the given range, and adds their bits. -/
def continued : Nat → Nat → Nat → Nat → List UInt8 → Except Flaw (Nat × List UInt8)
  | 0, _, _, bits, bs => .ok (bits, bs)
  | _ + 1, _, _, _, [] => .error .truncated
  | count + 1, low, high, bits, b :: bs =>
    if low ≤ b.toNat ∧ b.toNat ≤ high then
      continued count 0x80 0xbf (bits * 64 + b.toNat % 64) bs
    else .error .continuation

/-- Continuation bytes are taken from the front. -/
theorem length_of_continued {count low high bits n : Nat} {bs rest : List UInt8}
    (h : continued count low high bits bs = .ok (n, rest)) : rest.length ≤ bs.length := by
  induction count generalizing low high bits bs with
  | zero =>
    simp only [continued, Except.ok.injEq, Prod.mk.injEq] at h
    simp [h.2]
  | succ count ih =>
    cases bs with
    | nil => simp [continued] at h
    | cons b bs =>
      simp only [continued] at h
      split at h
      · exact Nat.le_succ_of_le (ih h)
      · simp at h

/-- The text that bytes encode, or the first flaw. -/
def decode (bs : List UInt8) : Except Flaw (List Char) :=
  match bs with
  | [] => .ok []
  | b :: bs =>
    match lead? b with
    | none => .error .start
    | some l =>
      match h : continued l.count l.low l.high l.bits bs with
      | .error flaw => .error flaw
      | .ok (n, rest) =>
        have := length_of_continued h
        (decode rest).map (Char.ofNat n :: ·)
termination_by bs.length

/-! ## The byte-order mark -/

/-- The bytes without one byte-order mark at their start. -/
def dropMark : List UInt8 → List UInt8
  | 0xef :: 0xbb :: 0xbf :: bs => bs
  | bs => bs

end Provenance.Text.Utf8
