import Walkthrough.Proofs.LooseInt.Value

/-! # Lists of integers in braces

A list in braces is cut at its commas, and every piece is read as an integer.  The blanks around a
piece do not count: those in front are left out in any case, and what comes behind the digits is
never read (`LooseInt.readChars_trim`).

* `LooseInt.readList_eq` reads a list piece by piece.
* `LooseInt.Padded` is a number with blanks around it, `LooseInt.braced` a written list of them;
  `LooseInt.readList_braced` reads it back.
* `LooseInt.readList_reads_pieces` puts together what follows. -/

namespace Walkthrough.LooseInt

open Text

/-! ### Blanks around a piece -/

theorem mem_head?_of_isPrefix {cs ds : List Char} (h : cs <+: ds) {c : Char} (hc : c ∈ cs.head?) :
    c ∈ ds.head? := by
  obtain ⟨es, rfl⟩ := h
  rw [List.head?_append, Option.mem_def.mp hc]
  rfl

/-- The parts of a text that lacks the leading blanks, and of what follows the digits an end. -/
theorem Layout.Of.shorten {p : Layout} {cs rest : List Char} (h : p.Of cs)
    (hrest : rest <+: p.rest) :
    ({ p with blanks := [], rest := rest } : Layout).Of
      (p.sign ++ (p.mark ++ (p.digits ++ rest))) := by
  have hbody : p.digits ++ rest <+: p.body := (List.prefix_append_right_inj _).mpr hrest
  have hunsigned : p.mark ++ (p.digits ++ rest) <+: p.unsigned :=
    (List.prefix_append_right_inj _).mpr hbody
  have hsigned : p.sign ++ (p.mark ++ (p.digits ++ rest)) <+: p.signed :=
    (List.prefix_append_right_inj _).mpr hunsigned
  exact
    { text := rfl
      blanks := List.forall_mem_nil _
      signed := fun c hc => h.signed c (mem_head?_of_isPrefix hsigned hc)
      sign := h.sign.imp_left fun hs =>
        ⟨hs.1, fun c hc => hs.2 c (mem_head?_of_isPrefix hunsigned hc)⟩
      mark := h.mark.imp_left fun hm =>
        ⟨hm.1, fun hx => hm.2.1 (hx.trans hbody), fun hX => hm.2.2 (hX.trans hbody)⟩
      digits := h.digits
      rest := fun c hc => h.rest c (mem_head?_of_isPrefix hrest hc) }

theorem Layout.Of.not_blank {p : Layout} {cs : List Char} (h : p.Of cs) :
    ∀ c ∈ p.sign ++ p.mark ++ p.digits, isBlank c = false := by
  intro c hc
  rw [List.mem_append, List.mem_append] at hc
  rcases hc with (hc | hc) | hc
  · rcases h.sign with ⟨hs, -⟩ | hs | hs <;> rw [hs] at hc
    · cases hc
    · obtain rfl := List.mem_singleton.mp hc
      rfl
    · obtain rfl := List.mem_singleton.mp hc
      rfl
  · rcases h.mark with ⟨hm, -⟩ | hm | hm <;> rw [hm] at hc
    · cases hc
    · rcases List.mem_pair.mp hc with rfl | rfl <;> rfl
    · rcases List.mem_pair.mp hc with rfl | rfl <;> rfl
  · obtain ⟨i, hi, rfl⟩ := List.mem_iff_getElem.mp hc
    have hd := h.digits.get hi (h.digits.length_eq ▸ hi)
    exact not_isBlank_of_isDigit Layout.radix_le hd

theorem readChars_trim (cs : List Char) : readChars (trim cs) = readChars cs := by
  obtain ⟨p, h⟩ := exists_layout cs
  have htrim : trim cs = p.sign ++ (p.mark ++ (p.digits ++ trimRight p.rest)) := by
    rw [trim, h.trimLeft_eq]
    change trimRight (p.sign ++ (p.mark ++ (p.digits ++ p.rest))) = _
    simp only [← List.append_assoc]
    exact trimRight_append_of_not_blank h.not_blank p.rest
  rw [htrim, readChars_of_layout (h.shorten (isPrefix_trimRight p.rest)), readChars_of_layout h]
  rfl

/-! ### The pieces -/

theorem readList_eq {s : String} {first last : Char} {interior : List Char}
    (h : s.toList = first :: (interior ++ [last])) :
    readList s = (cutAt (· == ',') interior).map readChars := by
  rw [readList, readListChars, h, List.drop_succ_cons, List.drop_zero, List.dropLast_concat]
  exact List.map_congr_left fun p _ => readChars_trim p

/-- A number in a list, with any blanks in front and behind. -/
structure Padded where
  before : List Char
  number : Int64
  after : List Char
  blank_before : ∀ c ∈ before, isBlank c = true
  blank_after : ∀ c ∈ after, isBlank c = true

/-- The number is written in decimal. -/
def Padded.text (e : Padded) : String :=
  String.ofList e.before ++ toString e.number.toInt ++ String.ofList e.after

/-- A list of numbers with commas between them, in braces. -/
def braced (es : List Padded) : String :=
  "\x7b" ++ String.intercalate "," (es.map Padded.text) ++ "\x7d"

theorem Padded.toList_text (e : Padded) :
    e.text.toList = e.before ++ (toString e.number.toInt).toList ++ e.after := by
  simp [text]

theorem Padded.comma_not_mem_text (e : Padded) : ',' ∉ e.text.toList := by
  have hblank {cs : List Char} (h : ∀ c ∈ cs, isBlank c = true) : ',' ∉ cs :=
    fun hc => absurd (h ',' hc) (by decide)
  rw [toList_text, toList_toString, List.mem_append, List.mem_append, List.mem_append]
  rintro ((h | h | h) | h)
  · exact hblank e.blank_before h
  · split at h
    · exact absurd h (by decide)
    · cases h
  · exact absurd (toNat_of_isDigit (isDigit_of_mem_toDigits h)) (by decide)
  · exact hblank e.blank_after h

theorem Padded.readChars_text (e : Padded) : readChars e.text.toList = .number e.number.toInt := by
  rw [← readChars_trim, e.toList_text, trim_append_append e.blank_before e.blank_after,
    readChars_trim, readChars_toString]

/-- **A written list is read back.** -/
theorem readList_braced {es : List Padded} (hne : es ≠ []) :
    readList (braced es) = es.map fun e => .number e.number.toInt := by
  have htext : (braced es).toList =
      '\x7b' :: ([','].intercalate (es.map fun e => e.text.toList) ++ ['\x7d']) := by
    simp [braced, Function.comp_def]
  have hcut : cutAt (· == ',') ([','].intercalate (es.map fun e => e.text.toList)) =
      es.map fun e => e.text.toList := by
    apply cutAt_intercalate
    · simpa using hne
    · exact List.forall_mem_map.mpr fun e _ => e.comma_not_mem_text
  rw [readList_eq htext, hcut, List.map_map]
  exact List.map_congr_left fun e _ => e.readChars_text

/-- **A list in braces is read piece by piece.**  Numbers that are written in decimal, with any
blanks around them and commas between them, in braces, are read back in their order.  And of any
text of two characters or more, what stands between the first and the last one is cut at its commas
into pieces; there is one entry for each, so one more than there are commas, and it is what is read
of that piece, trimmed or not. -/
theorem readList_reads_pieces :
    (∀ es : List Padded, es ≠ [] →
      readList (braced es) = es.map fun e => .number e.number.toInt) ∧
    (∀ s : String, 2 ≤ s.length → ∃ first interior last,
      s.toList = first :: (interior ++ [last]) ∧
      (readList s).length = interior.count ',' + 1 ∧
      ∃ pieces, [','].intercalate pieces = interior ∧ (∀ p ∈ pieces, ',' ∉ p) ∧
        readList s = pieces.map fun p => read (String.ofList p)) ∧
    ∀ piece, read (String.ofList (trim piece)) = read (String.ofList piece) := by
  have hread (p : List Char) : read (String.ofList p) = readChars p := by
    rw [read, String.toList_ofList]
  refine ⟨fun es hne => readList_braced hne, fun s hs => ?_, fun piece => ?_⟩
  · rw [← String.length_toList] at hs
    have hpos : 0 < s.toList.length := by omega
    obtain ⟨first, rest, hrest⟩ := List.exists_cons_of_length_pos hpos
    have hne : rest ≠ [] := by
      rintro rfl
      rw [hrest] at hs
      simp at hs
    have hs : s.toList = first :: (rest.dropLast ++ [rest.getLast hne]) := by
      rw [hrest, List.dropLast_append_getLast]
    refine ⟨first, rest.dropLast, rest.getLast hne, hs, ?_, cutAt (· == ',') rest.dropLast,
      intercalate_cutAt _ _, fun p hp => not_mem_of_mem_cutAt hp, ?_⟩
    · rw [readList_eq hs, List.length_map, length_cutAt]
      rfl
    · rw [readList_eq hs]
      exact List.map_congr_left fun p _ => (hread p).symm
  · rw [hread, hread, readChars_trim]

/-- The least signed word and another number, with blanks around them. -/
def samplePadded : List Padded :=
  [⟨[' '], Int64.minValue, ['\n'], List.forall_mem_singleton.mpr rfl,
      List.forall_mem_singleton.mpr rfl⟩,
    ⟨[], 7, ['\u3000'], List.forall_mem_nil _, List.forall_mem_singleton.mpr rfl⟩]

/-- The numbers are read back; a lone zero in front of blanks is one entry, what follows another. -/
theorem samplePadded_read :
    samplePadded ≠ [] ∧ readList (braced samplePadded) = [.number (-2 ^ 63), .number 7] ∧
      2 ≤ "«0 , x»".length ∧ ∃ first interior last,
        "«0 , x»".toList = first :: (interior ++ [last]) ∧
          (readList "«0 , x»").length = interior.count ',' + 1 := by
  have hne : samplePadded ≠ [] := List.cons_ne_nil _ _
  have hlength : 2 ≤ "«0 , x»".length := by decide
  obtain ⟨first, interior, last, htext, hcount, -⟩ := readList_reads_pieces.2.1 _ hlength
  exact ⟨hne, (readList_reads_pieces.1 _ hne).trans (by decide), hlength, first, interior, last,
    htext, hcount⟩

end Walkthrough.LooseInt
