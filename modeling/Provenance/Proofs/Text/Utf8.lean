import Provenance.Text.Utf8

/-!
# Proofs — Text — Utf8

Which bytes are well-formed is said by a grammar (`IsCharacter`, `IsWellFormed`), apart from encoder
and decoder. The bytes of a character belong to it and spell the code point
(`isCharacter_encodeChar`); whatever belongs to it is the encoding of the character that it spells
(`IsCharacter.encodeChar_eq`). The decoder takes such a character in one step, and nothing else
(`continued_of_isCharacter`, `isCharacter_of_continued`). So decoding undoes encoding and encoding
undoes decoding (`decode_eq_ok_iff`), and exactly the well-formed bytes can be decoded
(`isWellFormed_iff`). A byte-order mark is dropped from the bytes of a text as it is from the text
(`dropMark_encode`).
-/

namespace Provenance.Text.Utf8

/-! ## Well-formed bytes -/

/-- A byte that lies between two bounds. -/
def Within (low high : Nat) (b : UInt8) : Prop := low ≤ b.toNat ∧ b.toNat ≤ high

/-- A byte that continues a character. -/
def IsTail (b : UInt8) : Prop := Within 0x80 0xbf b

/-- The bytes of one character. No character is spelled with more bytes than it needs, none is a
surrogate, and none lies above the last code point. -/
inductive IsCharacter : List UInt8 → Prop
  | one {a : UInt8} (ha : Within 0x00 0x7f a) : IsCharacter [a]
  | two {a b : UInt8} (ha : Within 0xc2 0xdf a) (hb : IsTail b) : IsCharacter [a, b]
  | three {a b c : UInt8} (ha : Within 0xe0 0xef a) (hb : IsTail b) (hc : IsTail c)
    (hshort : a.toNat = 0xe0 → 0xa0 ≤ b.toNat) (hsurrogate : a.toNat = 0xed → b.toNat ≤ 0x9f) :
    IsCharacter [a, b, c]
  | four {a b c d : UInt8} (ha : Within 0xf0 0xf4 a) (hb : IsTail b) (hc : IsTail c)
    (hd : IsTail d) (hshort : a.toNat = 0xf0 → 0x90 ≤ b.toNat)
    (hlast : a.toNat = 0xf4 → b.toNat ≤ 0x8f) : IsCharacter [a, b, c, d]

/-- Bytes that are characters one after another. -/
inductive IsWellFormed : List UInt8 → Prop
  | nil : IsWellFormed []
  | append {bytes rest : List UInt8} (hcharacter : IsCharacter bytes) (later : IsWellFormed rest) :
    IsWellFormed (bytes ++ rest)

/-- The code point that the bytes of a character spell. -/
def codePoint : List UInt8 → Nat
  | [a] => a.toNat
  | [a, b] => (a.toNat - 0xc0) * 64 + b.toNat % 64
  | [a, b, c] => ((a.toNat - 0xe0) * 64 + b.toNat % 64) * 64 + c.toNat % 64
  | [a, b, c, d] =>
    (((a.toNat - 0xf0) * 64 + b.toNat % 64) * 64 + c.toNat % 64) * 64 + d.toNat % 64
  | _ => 0

/-! ## Encoding -/

theorem encodeChar_one {c : Char} (h : c.toNat < 0x80) : encodeChar c = [.ofNat c.toNat] := by
  rw [encodeChar]
  exact if_pos h

theorem encodeChar_two {c : Char} (hlow : 0x80 ≤ c.toNat) (h : c.toNat < 0x800) :
    encodeChar c = [.ofNat (0xc0 + c.toNat / 64), .ofNat (0x80 + c.toNat % 64)] := by
  rw [encodeChar]
  rw [if_neg (by omega), if_pos h]

theorem encodeChar_three {c : Char} (hlow : 0x800 ≤ c.toNat) (h : c.toNat < 0x10000) :
    encodeChar c = [.ofNat (0xe0 + c.toNat / 4096), .ofNat (0x80 + c.toNat / 64 % 64),
      .ofNat (0x80 + c.toNat % 64)] := by
  rw [encodeChar]
  rw [if_neg (by omega), if_neg (by omega), if_pos h]

theorem encodeChar_four {c : Char} (hlow : 0x10000 ≤ c.toNat) :
    encodeChar c = [.ofNat (0xf0 + c.toNat / 262144), .ofNat (0x80 + c.toNat / 4096 % 64),
      .ofNat (0x80 + c.toNat / 64 % 64), .ofNat (0x80 + c.toNat % 64)] := by
  rw [encodeChar]
  rw [if_neg (by omega), if_neg (by omega), if_neg (by omega)]

theorem ofNat_eq {n : Nat} {b : UInt8} (h : n = b.toNat) : UInt8.ofNat n = b := by
  rw [h, UInt8.ofNat_toNat]

/-- A character is a code point, and no surrogate. -/
theorem toNat_bounds (c : Char) :
    c.toNat < 0xd800 ∨ 0xdfff < c.toNat ∧ c.toNat < 0x110000 := c.valid

/-- The encoding is that of the standard library. -/
theorem encodeChar_eq_utf8EncodeChar (c : Char) : encodeChar c = String.utf8EncodeChar c := by
  have hbounds := toNat_bounds c
  simp only [encodeChar, String.utf8EncodeChar, Char.toNat] at *
  generalize c.val.toNat = n at *
  -- The high bits of a code point fit into the lead byte.
  have htwo : n < 0x800 → n / 64 % 32 = n / 64 := by omega
  have hthree : n < 0x10000 → n / 4096 % 16 = n / 4096 := by omega
  have hfour : n / 262144 % 8 = n / 262144 := by omega
  grind

/-- **The bytes of a character are a character of the grammar, and spell its code point.** -/
theorem isCharacter_encodeChar (c : Char) :
    IsCharacter (encodeChar c) ∧ codePoint (encodeChar c) = c.toNat := by
  have hbounds := toNat_bounds c
  rcases Nat.lt_or_ge c.toNat 0x80 with hone | hone
  · rw [encodeChar_one hone]
    refine ⟨.one ?_, ?_⟩ <;> simp only [Within, codePoint, UInt8.toNat_ofNat'] <;> omega
  rcases Nat.lt_or_ge c.toNat 0x800 with htwo | htwo
  · rw [encodeChar_two hone htwo]
    refine ⟨.two ?_ ?_, ?_⟩ <;> simp only [IsTail, Within, codePoint, UInt8.toNat_ofNat'] <;> omega
  rcases Nat.lt_or_ge c.toNat 0x10000 with hthree | hthree
  · rw [encodeChar_three htwo hthree]
    refine ⟨.three ?_ ?_ ?_ ?_ ?_, ?_⟩ <;>
      simp only [IsTail, Within, codePoint, UInt8.toNat_ofNat'] <;> omega
  · rw [encodeChar_four hthree]
    refine ⟨.four ?_ ?_ ?_ ?_ ?_ ?_, ?_⟩ <;>
      simp only [IsTail, Within, codePoint, UInt8.toNat_ofNat'] <;> omega

/-- A number in those bounds is the code point of a character. -/
theorem toNat_ofNat {n : Nat} (h : n < 0xd800 ∨ 0xdfff < n ∧ n < 0x110000) :
    (Char.ofNat n).toNat = n := by
  rw [Char.ofNat, dif_pos h]
  rfl

/-- **A character of the grammar is the encoding of the character that it spells.** -/
theorem IsCharacter.encodeChar_eq {bytes : List UInt8} (h : IsCharacter bytes) :
    encodeChar (Char.ofNat (codePoint bytes)) = bytes := by
  cases h with
  | @one a ha =>
    rw [Within] at ha
    rw [codePoint]
    have hn : (Char.ofNat a.toNat).toNat = a.toNat := toNat_ofNat (by omega)
    rw [encodeChar_one (by omega), hn, ofNat_eq rfl]
  | @two a b ha hb =>
    rw [IsTail, Within] at *
    rw [codePoint]
    generalize hpoint : (a.toNat - 0xc0) * 64 + b.toNat % 64 = n
    have hn : (Char.ofNat n).toNat = n := toNat_ofNat (by omega)
    rw [encodeChar_two (by omega) (by omega), hn, ofNat_eq (b := a) (by omega),
      ofNat_eq (b := b) (by omega)]
  | @three a b c ha hb hc hshort hsurrogate =>
    rw [IsTail, Within] at *
    rw [codePoint]
    generalize hpoint : ((a.toNat - 0xe0) * 64 + b.toNat % 64) * 64 + c.toNat % 64 = n
    have hn : (Char.ofNat n).toNat = n := toNat_ofNat (by omega)
    rw [encodeChar_three (by omega) (by omega), hn, ofNat_eq (b := a) (by omega),
      ofNat_eq (b := b) (by omega), ofNat_eq (b := c) (by omega)]
  | @four a b c d ha hb hc hd hshort hlast =>
    rw [IsTail, Within] at *
    rw [codePoint]
    generalize hpoint :
      (((a.toNat - 0xf0) * 64 + b.toNat % 64) * 64 + c.toNat % 64) * 64 + d.toNat % 64 = n
    have hn : (Char.ofNat n).toNat = n := toNat_ofNat (by omega)
    rw [encodeChar_four (by omega), hn, ofNat_eq (b := a) (by omega),
      ofNat_eq (b := b) (by omega), ofNat_eq (b := c) (by omega), ofNat_eq (b := d) (by omega)]

theorem encode_cons (c : Char) (cs : List Char) : encode (c :: cs) = encodeChar c ++ encode cs :=
  List.flatMap_cons

/-- A text encodes as well-formed bytes. -/
theorem isWellFormed_encode (cs : List Char) : IsWellFormed (encode cs) := by
  induction cs with
  | nil => exact .nil
  | cons c cs ih =>
    rw [encode_cons]
    exact .append (isCharacter_encodeChar c).1 ih

/-! ## Decoding one character -/

theorem lead?_one {a : UInt8} (h : Within 0x00 0x7f a) :
    lead? a = some ⟨0, 0x80, 0xbf, a.toNat⟩ := by
  rw [Within] at h
  simp only [lead?]
  rw [if_pos (by omega)]

theorem lead?_two {a : UInt8} (h : Within 0xc2 0xdf a) :
    lead? a = some ⟨1, 0x80, 0xbf, a.toNat - 0xc0⟩ := by
  rw [Within] at h
  simp only [lead?]
  rw [if_neg (by omega), if_neg (by omega), if_pos (by omega)]

theorem lead?_three {a : UInt8} (h : Within 0xe0 0xef a) :
    lead? a = some ⟨2, if a.toNat = 0xe0 then 0xa0 else 0x80,
      if a.toNat = 0xed then 0x9f else 0xbf, a.toNat - 0xe0⟩ := by
  rw [Within] at h
  simp only [lead?]
  grind

theorem lead?_four {a : UInt8} (h : Within 0xf0 0xf4 a) :
    lead? a = some ⟨3, if a.toNat = 0xf0 then 0x90 else 0x80,
      if a.toNat = 0xf4 then 0x8f else 0xbf, a.toNat - 0xf0⟩ := by
  rw [Within] at h
  simp only [lead?]
  grind

/-- Only a byte of those ranges begins a character. -/
theorem within_of_lead? {a : UInt8} {l : Lead} (h : lead? a = some l) :
    Within 0x00 0x7f a ∨ Within 0xc2 0xdf a ∨ Within 0xe0 0xef a ∨ Within 0xf0 0xf4 a := by
  simp only [lead?] at h
  simp only [Within]
  grind

theorem continued_zero_iff {low high bits n : Nat} {bs rest : List UInt8} :
    continued 0 low high bits bs = .ok (n, rest) ↔ bits = n ∧ bs = rest := by
  simp [continued]

theorem continued_succ_iff {count low high bits n : Nat} {bs rest : List UInt8} :
    continued (count + 1) low high bits bs = .ok (n, rest) ↔
      ∃ b later, bs = b :: later ∧ Within low high b ∧
        continued count 0x80 0xbf (bits * 64 + b.toNat % 64) later = .ok (n, rest) := by
  constructor
  · intro h
    cases bs with
    | nil => simp [continued] at h
    | cons b later =>
      rw [continued] at h
      split at h
      · exact ⟨b, later, rfl, ‹_›, h⟩
      · cases h
  · rintro ⟨b, later, rfl, hb, h⟩
    rw [continued, if_pos (by exact hb), h]

/-- The range of the first byte after the lead byte is that of every such byte, narrowed behind some
lead bytes. -/
theorem within_ite_iff {p q : Prop} [Decidable p] [Decidable q] {low high : Nat} {b : UInt8}
    (hlow : 0x80 ≤ low) (hhigh : high ≤ 0xbf) :
    Within (if p then low else 0x80) (if q then high else 0xbf) b ↔
      IsTail b ∧ (p → low ≤ b.toNat) ∧ (q → b.toNat ≤ high) := by
  simp only [IsTail, Within]
  grind

/-- **What the decoder takes from the front of a text is a character of the grammar**, with its code
point. -/
theorem isCharacter_of_continued {a : UInt8} {bs rest : List UInt8} {l : Lead} {n : Nat}
    (hlead : lead? a = some l)
    (hread : continued l.count l.low l.high l.bits bs = .ok (n, rest)) :
    ∃ bytes, a :: bs = bytes ++ rest ∧ IsCharacter bytes ∧ codePoint bytes = n := by
  rcases within_of_lead? hlead with ha | ha | ha | ha
  · rw [lead?_one ha] at hlead
    cases hlead
    obtain ⟨rfl, rfl⟩ := continued_zero_iff.mp hread
    exact ⟨[a], rfl, .one ha, rfl⟩
  · rw [lead?_two ha] at hlead
    cases hlead
    obtain ⟨b, _, rfl, hb, hread⟩ := continued_succ_iff.mp hread
    obtain ⟨rfl, rfl⟩ := continued_zero_iff.mp hread
    exact ⟨[a, b], rfl, .two ha hb, rfl⟩
  · rw [lead?_three ha] at hlead
    cases hlead
    obtain ⟨b, _, rfl, hfirst, hread⟩ := continued_succ_iff.mp hread
    obtain ⟨c, _, rfl, hc, hread⟩ := continued_succ_iff.mp hread
    obtain ⟨rfl, rfl⟩ := continued_zero_iff.mp hread
    obtain ⟨hb, hshort, hsurrogate⟩ := (within_ite_iff (by decide) (by decide)).mp hfirst
    exact ⟨[a, b, c], rfl, .three ha hb hc hshort hsurrogate, rfl⟩
  · rw [lead?_four ha] at hlead
    cases hlead
    obtain ⟨b, _, rfl, hfirst, hread⟩ := continued_succ_iff.mp hread
    obtain ⟨c, _, rfl, hc, hread⟩ := continued_succ_iff.mp hread
    obtain ⟨d, _, rfl, hd, hread⟩ := continued_succ_iff.mp hread
    obtain ⟨rfl, rfl⟩ := continued_zero_iff.mp hread
    obtain ⟨hb, hshort, hlast⟩ := (within_ite_iff (by decide) (by decide)).mp hfirst
    exact ⟨[a, b, c, d], rfl, .four ha hb hc hd hshort hlast, rfl⟩

/-- **The decoder takes every character of the grammar from the front of a text.** -/
theorem continued_of_isCharacter {a : UInt8} {bytes : List UInt8} (h : IsCharacter (a :: bytes))
    (rest : List UInt8) :
    ∃ l, lead? a = some l ∧ continued l.count l.low l.high l.bits (bytes ++ rest) =
      .ok (codePoint (a :: bytes), rest) := by
  cases h with
  | one ha => exact ⟨_, lead?_one ha, rfl⟩
  | two ha hb => exact ⟨_, lead?_two ha, continued_succ_iff.mpr ⟨_, _, rfl, hb, rfl⟩⟩
  | three ha hb hc hshort hsurrogate =>
    have hfirst := (within_ite_iff (by decide) (by decide)).mpr ⟨hb, hshort, hsurrogate⟩
    exact ⟨_, lead?_three ha, continued_succ_iff.mpr ⟨_, _, rfl, hfirst,
      continued_succ_iff.mpr ⟨_, _, rfl, hc, rfl⟩⟩⟩
  | four ha hb hc hd hshort hlast =>
    have hfirst := (within_ite_iff (by decide) (by decide)).mpr ⟨hb, hshort, hlast⟩
    exact ⟨_, lead?_four ha, continued_succ_iff.mpr ⟨_, _, rfl, hfirst,
      continued_succ_iff.mpr ⟨_, _, rfl, hc, continued_succ_iff.mpr ⟨_, _, rfl, hd, rfl⟩⟩⟩⟩

/-! ## Decoding a text -/

theorem decode_nil : decode [] = .ok [] := by
  rw [decode]

theorem decode_cons {a : UInt8} {bs rest : List UInt8} {l : Lead} {n : Nat}
    (hlead : lead? a = some l)
    (hread : continued l.count l.low l.high l.bits bs = .ok (n, rest)) :
    decode (a :: bs) = (decode rest).map (Char.ofNat n :: ·) := by
  rw [decode]
  split
  · simp_all
  · rename_i l' hlead'
    obtain rfl : l' = l := Option.some.inj (hlead'.symm.trans hlead)
    split <;> simp_all

/-- **The decoder takes a character from the front of a text, and goes on behind it.** -/
theorem IsCharacter.decode_append {bytes : List UInt8} (h : IsCharacter bytes)
    (rest : List UInt8) :
    decode (bytes ++ rest) = (decode rest).map (Char.ofNat (codePoint bytes) :: ·) := by
  cases bytes with
  | nil => cases h
  | cons a bs =>
    obtain ⟨l, hlead, hread⟩ := continued_of_isCharacter h rest
    exact decode_cons hlead hread

theorem decode_encodeChar_append (c : Char) (rest : List UInt8) :
    decode (encodeChar c ++ rest) = (decode rest).map (c :: ·) := by
  obtain ⟨hcharacter, hpoint⟩ := isCharacter_encodeChar c
  rw [hcharacter.decode_append, hpoint, Char.ofNat_toNat]

theorem exists_of_map_eq_ok {decoded : Except Flaw (List Char)} {f : List Char → List Char}
    {cs : List Char} (h : decoded.map f = .ok cs) :
    ∃ later, decoded = .ok later ∧ cs = f later := by
  cases decoded with
  | error flaw => cases h
  | ok later =>
    cases h
    exact ⟨later, rfl, rfl⟩

/-- Bytes that can be decoded begin with a character. -/
theorem exists_of_decode_cons {a : UInt8} {bs : List UInt8} {cs : List Char}
    (h : decode (a :: bs) = .ok cs) :
    ∃ bytes rest later, a :: bs = bytes ++ rest ∧ IsCharacter bytes ∧
      decode rest = .ok later ∧ cs = Char.ofNat (codePoint bytes) :: later := by
  rw [decode] at h
  split at h
  · cases h
  · rename_i l hlead
    split at h
    · cases h
    · rename_i n rest hread
      obtain ⟨bytes, hsplit, hcharacter, rfl⟩ := isCharacter_of_continued hlead hread
      obtain ⟨later, hlater, hcs⟩ := exists_of_map_eq_ok h
      exact ⟨bytes, rest, later, hsplit, hcharacter, hlater, hcs⟩

/-- **Decoding undoes encoding.** -/
theorem decode_encode (cs : List Char) : decode (encode cs) = .ok cs := by
  induction cs with
  | nil => exact decode_nil
  | cons c cs ih =>
    rw [encode_cons, decode_encodeChar_append, ih]
    rfl

/-- **Encoding undoes decoding.** -/
theorem encode_of_decode {bs : List UInt8} {cs : List Char} (h : decode bs = .ok cs) :
    encode cs = bs := by
  induction cs generalizing bs with
  | nil =>
    cases bs with
    | nil => rfl
    | cons a bs =>
      obtain ⟨_, _, _, _, _, _, hcs⟩ := exists_of_decode_cons h
      cases hcs
  | cons c cs ih =>
    cases bs with
    | nil =>
      rw [decode_nil] at h
      cases h
    | cons a bs =>
      obtain ⟨bytes, rest, later, hsplit, hcharacter, hlater, hcs⟩ := exists_of_decode_cons h
      cases hcs
      rw [encode_cons, hcharacter.encodeChar_eq, ih hlater, hsplit]

theorem decode_eq_ok_iff {bs : List UInt8} {cs : List Char} :
    decode bs = .ok cs ↔ encode cs = bs := by
  constructor
  · exact encode_of_decode
  · rintro rfl
    exact decode_encode cs

/-- A text whose bytes begin with those of a character begins with that character. -/
theorem exists_of_encode_eq_append {c : Char} {cs : List Char} {rest : List UInt8}
    (h : encode cs = encodeChar c ++ rest) : ∃ later, cs = c :: later ∧ encode later = rest := by
  have hdecode := decode_encode cs
  rw [h, decode_encodeChar_append] at hdecode
  obtain ⟨later, hlater, hcs⟩ := exists_of_map_eq_ok hdecode
  exact ⟨later, hcs, encode_of_decode hlater⟩

/-- **The decoder reads exactly the well-formed bytes.** -/
theorem isWellFormed_iff {bs : List UInt8} : IsWellFormed bs ↔ ∃ cs, decode bs = .ok cs := by
  constructor
  · intro h
    induction h with
    | nil => exact ⟨[], decode_nil⟩
    | append hcharacter _ ih =>
      obtain ⟨later, hlater⟩ := ih
      rw [hcharacter.decode_append, hlater]
      exact ⟨_, rfl⟩
  · rintro ⟨cs, h⟩
    rw [← encode_of_decode h]
    exact isWellFormed_encode cs

/-! ## Zero bytes and byte-order marks -/

theorem IsCharacter.zero_mem_iff {bytes : List UInt8} (h : IsCharacter bytes) :
    0 ∈ bytes ↔ codePoint bytes = 0 := by
  have hzero (b : UInt8) : 0 = b ↔ b.toNat = 0 := by
    rw [eq_comm, ← UInt8.toNat_inj]
    rfl
  cases h <;> simp only [IsTail, Within] at * <;>
    simp only [codePoint, List.mem_cons, List.not_mem_nil, or_false, hzero] <;> omega

/-- A zero byte encodes a zero character, and nothing else. -/
theorem zero_mem_encode_iff (cs : List Char) : 0 ∈ encode cs ↔ '\x00' ∈ cs := by
  have hchar (c : Char) : 0 ∈ encodeChar c ↔ c = '\x00' := by
    obtain ⟨hcharacter, hpoint⟩ := isCharacter_encodeChar c
    rw [hcharacter.zero_mem_iff, hpoint, ← Char.toNat_inj]
    rfl
  simp [encode, List.mem_flatMap, hchar]

/-- The bytes of a byte-order mark. -/
def mark : List UInt8 := encodeChar '\ufeff'

/-- One mark goes from the front of the bytes, and nothing from bytes that begin otherwise. -/
theorem dropMark_cases (bs : List UInt8) :
    bs = mark ++ dropMark bs ∨ dropMark bs = bs ∧ ¬mark <+: bs := by
  rw [dropMark.eq_def]
  split
  · exact .inl rfl
  · rename_i hbs
    refine .inr ⟨rfl, ?_⟩
    rintro ⟨rest, rfl⟩
    exact hbs rest rfl

/-- The text without one byte-order mark at its start. -/
def withoutMark (cs : List Char) : List Char := if cs.head? = some '\ufeff' then cs.tail else cs

theorem zero_mem_withoutMark_iff {cs : List Char} : '\x00' ∈ withoutMark cs ↔ '\x00' ∈ cs := by
  cases cs with
  | nil => rfl
  | cons c cs =>
    by_cases hc : c = '\ufeff' <;> simp [withoutMark, hc]

/-- **Dropping the mark from the bytes of a text drops it from the text.** -/
theorem dropMark_encode (cs : List Char) : dropMark (encode cs) = encode (withoutMark cs) := by
  rcases dropMark_cases (encode cs) with hbytes | ⟨hsame, hnone⟩
  · obtain ⟨later, rfl, hlater⟩ := exists_of_encode_eq_append hbytes
    rw [← hlater]
    rfl
  · have hhead : cs.head? ≠ some '\ufeff' := by
      intro hcs
      obtain ⟨later, rfl⟩ := List.head?_eq_some_iff.mp hcs
      exact hnone ⟨encode later, rfl⟩
    rw [hsame, withoutMark, if_neg hhead]

end Provenance.Text.Utf8
