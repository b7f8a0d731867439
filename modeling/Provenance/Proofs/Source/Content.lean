import Provenance.Analysis
import Provenance.Proofs.Text.Utf8

/-!
# Proofs — Source — Content

Content as bytes and content as text give the same source. The bytes of a text are read as the text
behind its byte-order mark (`source_encode`), and any bytes have one of three fates: a zero byte
makes them binary, what is not well-formed behind the mark is unreadable, and all else is the text
that it encodes (`readsBytes`).
-/

namespace Provenance

open Text Text.Utf8

namespace Content

theorem source_text (path : String) (cs : List Char) :
    (text cs).source path =
      if '\x00' ∈ cs then .error (.unsupported path Failure.binaryContent) else .ok cs := by
  simp [source]

theorem source_bytes_of_zero {bs : List UInt8} (h : 0 ∈ bs) (path : String) :
    (bytes bs).source path = .error (.unsupported path Failure.binaryContent) := by
  rw [source, if_pos (List.contains_iff_mem.2 h)]

theorem source_bytes_of_decode {bs : List UInt8} {cs : List Char} (hzero : 0 ∉ bs)
    (h : decode (dropMark bs) = .ok cs) (path : String) : (bytes bs).source path = .ok cs := by
  rw [source, if_neg (fun hb => hzero (List.contains_iff_mem.1 hb)), h]

theorem source_bytes_of_flaw {bs : List UInt8} {flaw : Flaw} (hzero : 0 ∉ bs)
    (h : decode (dropMark bs) = .error flaw) (path : String) :
    (bytes bs).source path = .error (.unreadable path (flawReason flaw)) := by
  rw [source, if_neg (fun hb => hzero (List.contains_iff_mem.1 hb)), h]

/-- The bytes of a text are read as the text behind its mark. -/
theorem source_encode (path : String) (cs : List Char) :
    (bytes (encode cs)).source path = (text (withoutMark cs)).source path := by
  rw [source_text]
  by_cases hzero : '\x00' ∈ cs
  · rw [if_pos (zero_mem_withoutMark_iff.mpr hzero)]
    exact source_bytes_of_zero ((zero_mem_encode_iff cs).mpr hzero) path
  · have hbytes : 0 ∉ encode cs := fun h => hzero ((zero_mem_encode_iff cs).mp h)
    rw [if_neg (fun h => hzero (zero_mem_withoutMark_iff.mp h))]
    refine source_bytes_of_decode hbytes ?_ path
    rw [dropMark_encode, decode_encode]

/-- What becomes of bytes. A zero byte is looked for first, and what follows the byte-order mark is
unreadable exactly if it is not well-formed. -/
structure ReadsBytes (path : String) (bs : List UInt8) : Prop where
  binary : (bytes bs).source path = .error (.unsupported path Failure.binaryContent) ↔ 0 ∈ bs
  unreadable : (∃ flaw, (bytes bs).source path = .error (.unreadable path (flawReason flaw))) ↔
    0 ∉ bs ∧ ¬IsWellFormed (dropMark bs)
  readable : 0 ∉ bs → IsWellFormed (dropMark bs) →
    ∃ cs, (bytes bs).source path = .ok cs ∧ encode cs = dropMark bs

theorem readsBytes (path : String) (bs : List UInt8) : ReadsBytes path bs := by
  by_cases hzero : 0 ∈ bs
  · have hsource := source_bytes_of_zero hzero path
    exact ⟨by simp [hsource, hzero], by simp [hsource, hzero], fun h => absurd hzero h⟩
  cases hdecode : decode (dropMark bs) with
  | error flaw =>
    have hflawed : ¬IsWellFormed (dropMark bs) := by simp [isWellFormed_iff, hdecode]
    have hsource := source_bytes_of_flaw hzero hdecode path
    exact ⟨by simp [hsource, hzero], ⟨fun _ => ⟨hzero, hflawed⟩, fun _ => ⟨flaw, hsource⟩⟩,
      fun _ h => absurd h hflawed⟩
  | ok cs =>
    have hwell : IsWellFormed (dropMark bs) := isWellFormed_iff.mpr ⟨cs, hdecode⟩
    have hsource := source_bytes_of_decode hzero hdecode path
    exact ⟨by simp [hsource, hzero], by simp [hsource, hwell],
      fun _ _ => ⟨cs, hsource, encode_of_decode hdecode⟩⟩

end Content

/-- An analysis depends on content by its source only. -/
theorem analyzeFile_congr (settings : Settings) {path : String} {content other : Content}
    (h : content.source path = other.source path) :
    analyzeFile settings path content = analyzeFile settings path other := by
  rw [analyzeFile, analyzeFile, h]

/-- **Bytes and text agree.** The bytes of a text without a zero character are read as that text
without one byte-order mark at its front, and are analysed as it is. Any bytes are refused as binary
exactly if there is a zero byte among them; otherwise they are unreadable exactly if they are not
well-formed behind an optional byte-order mark, and else the text is read that they encode there. -/
theorem bytes_and_text_agree (settings : Settings) (path : String) :
    (∀ cs : List Char, '\x00' ∉ cs →
      (Content.bytes (encode cs)).source path = .ok (withoutMark cs) ∧
      analyzeFile settings path (.bytes (encode cs)) =
        analyzeFile settings path (.text (withoutMark cs))) ∧
      ∀ bs : List UInt8, Content.ReadsBytes path bs := by
  refine ⟨fun cs hzero => ⟨?_, ?_⟩, Content.readsBytes path⟩
  · rw [Content.source_encode, Content.source_text,
      if_neg (fun h => hzero (zero_mem_withoutMark_iff.mp h))]
  · exact analyzeFile_congr settings (Content.source_encode path cs)

/-- A letter behind a mark, and the bytes of a surrogate. -/
theorem bytes_and_text_agree_behind_mark :
    '\x00' ∉ ['\ufeff', 'é'] ∧
      analyzeFile .standard "a.py" (.bytes [0xef, 0xbb, 0xbf, 0xc3, 0xa9]) =
        analyzeFile .standard "a.py" (.text ['é']) ∧
      ∃ flaw, (Content.bytes [0xed, 0xa0, 0x80]).source "a.py" =
        .error (.unreadable "a.py" (Content.flawReason flaw)) := by
  have hzero : '\x00' ∉ ['\ufeff', 'é'] := by decide
  have hbytes : encode ['\ufeff', 'é'] = [0xef, 0xbb, 0xbf, 0xc3, 0xa9] := by decide
  have htext : withoutMark ['\ufeff', 'é'] = ['é'] := by decide
  have hflaw : decode [0xed, 0xa0, 0x80] = .error .continuation := by
    rw [decode]
    rfl
  have hsurrogate : ¬IsWellFormed [0xed, 0xa0, 0x80] := by simp [isWellFormed_iff, hflaw]
  obtain ⟨hagree, hreads⟩ := bytes_and_text_agree .standard "a.py"
  obtain ⟨_, hsame⟩ := hagree _ hzero
  rw [hbytes, htext] at hsame
  exact ⟨hzero, hsame, (hreads [0xed, 0xa0, 0x80]).unreadable.mpr ⟨by decide, hsurrogate⟩⟩

end Provenance
