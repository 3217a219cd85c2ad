/-! # Text in bytes

The UTF-8 form of a text, and the way back.

* `encode` writes the characters out; `decode?` reads bytes as characters, if they are the form of
  a text (`decode?_eq_some_iff`);
* `eq_append_of_encode_eq_append`: a cut before a byte that can begin a character is a cut
  between two characters;
* so a text in front of bytes or behind them does not change whether and how these are decoded
  (`decode?_encode_append`, `decode?_append_encode`). -/

namespace Walkthrough.Text

/-- The bytes of a text. -/
def encode (cs : List Char) : List UInt8 := cs.flatMap String.utf8EncodeChar

/-- The text that bytes stand for. -/
def decode? (bytes : List UInt8) : Option (List Char) :=
  (String.fromUTF8? ⟨bytes.toArray⟩).map String.toList

theorem encode_cons (c : Char) (cs : List Char) :
    encode (c :: cs) = String.utf8EncodeChar c ++ encode cs := List.flatMap_cons

@[simp] theorem encode_append (cs ds : List Char) : encode (cs ++ ds) = encode cs ++ encode ds :=
  List.flatMap_append

theorem utf8Encode_eq (cs : List Char) : cs.utf8Encode = ⟨(encode cs).toArray⟩ := by
  apply ByteArray.ext
  exact List.data_toByteArray

/-- What is decoded is what was encoded, and nothing else. -/
theorem decode?_eq_some_iff {bytes : List UInt8} {cs : List Char} :
    decode? bytes = some cs ↔ encode cs = bytes := by
  unfold decode?
  rw [Option.map_eq_some_iff]
  constructor
  · rintro ⟨s, hs, rfl⟩
    unfold String.fromUTF8? at hs
    split at hs
    · obtain rfl := Option.some.inj hs
      have h := String.utf8Encode_toList (b := String.fromUTF8 ⟨bytes.toArray⟩ ‹_›)
      rw [utf8Encode_eq] at h
      have hd := congrArg (fun b => b.data.toList) h
      exact hd
    · cases hs
  · rintro rfl
    refine ⟨String.ofList cs, ?_, String.toList_ofList⟩
    have hv : ByteArray.IsValidUTF8 ⟨(encode cs).toArray⟩ :=
      utf8Encode_eq cs ▸ ByteArray.isValidUTF8_utf8Encode
    unfold String.fromUTF8?
    rw [dif_pos hv]
    congr 1
    apply String.toByteArray_inj.mp
    rw [String.toByteArray_ofList, utf8Encode_eq]
    rfl

theorem decode?_encode (cs : List Char) : decode? (encode cs) = some cs :=
  decode?_eq_some_iff.mpr rfl

/-- Only the first byte of a character can begin one. -/
theorem eq_nil_of_utf8EncodeChar_eq_append {c : Char} {before after : List UInt8} {b : UInt8}
    (hb : b.IsUTF8FirstByte) (h : String.utf8EncodeChar c = before ++ b :: after) :
    before = [] := by
  have hlt : before.length < (String.utf8EncodeChar c).length := by
    rw [h]
    simp
  have hget : (String.utf8EncodeChar c)[before.length] = b := by
    simp [h]
  exact List.length_eq_zero_iff.mp (UInt8.isUTF8FirstByte_getElem_utf8EncodeChar.mp (hget ▸ hb))

/-- **A cut before a byte that can begin a character is a cut between two characters.** -/
theorem eq_append_of_encode_eq_append {cs : List Char} {before after : List UInt8}
    (hafter : ∀ b ∈ after.head?, b.IsUTF8FirstByte) (h : encode cs = before ++ after) :
    ∃ ds es, cs = ds ++ es ∧ encode ds = before ∧ encode es = after := by
  induction cs generalizing before with
  | nil =>
      obtain ⟨rfl, rfl⟩ := List.append_eq_nil_iff.mp h.symm
      exact ⟨[], [], rfl, rfl, rfl⟩
  | cons c cs ih =>
      rw [encode_cons, List.append_eq_append_iff] at h
      -- The cut lies behind the first character, or within it; then it lies at its beginning.
      rcases h with ⟨tail, rfl, htail⟩ | ⟨tail, hc, rfl⟩
      · obtain ⟨ds, es, rfl, rfl, rfl⟩ := ih htail
        exact ⟨c :: ds, es, rfl, encode_cons c ds, rfl⟩
      · cases tail with
        | nil =>
            rw [List.append_nil] at hc
            exact ⟨[c], cs, rfl, by rw [← hc]; simp [encode], rfl⟩
        | cons b tail =>
            obtain rfl := eq_nil_of_utf8EncodeChar_eq_append (hafter b rfl) hc
            exact ⟨[], c :: cs, rfl, rfl, by rw [encode_cons, hc]; rfl⟩

theorem isUTF8FirstByte_of_mem_head?_encode {cs : List Char} {b : UInt8}
    (h : b ∈ (encode cs).head?) : b.IsUTF8FirstByte := by
  cases cs with
  | nil => cases h
  | cons c cs =>
      have hpos : 0 < (String.utf8EncodeChar c).length := by simp [c.utf8Size_pos]
      rw [encode_cons, List.head?_append, List.head?_eq_getElem?, List.getElem?_eq_getElem hpos,
        Option.some_or] at h
      obtain rfl := Option.some.inj h
      exact UInt8.isUTF8FirstByte_getElem_zero_utf8EncodeChar

theorem decode?_append_encode (bytes : List UInt8) (cs : List Char) :
    decode? (bytes ++ encode cs) = (decode? bytes).map (· ++ cs) := by
  cases h : decode? bytes with
  | some ds =>
      rw [Option.map_some, decode?_eq_some_iff, encode_append, decode?_eq_some_iff.mp h]
  | none =>
      rw [Option.map_none, Option.eq_none_iff_forall_ne_some]
      intro es hes
      obtain ⟨ds, -, -, hds, -⟩ := eq_append_of_encode_eq_append
        (fun b => isUTF8FirstByte_of_mem_head?_encode) (decode?_eq_some_iff.mp hes)
      rw [decode?_eq_some_iff.mpr hds] at h
      cases h

/-- A text that begins like another one begins with its characters. -/
theorem isPrefix_of_encode_eq_append {cs es : List Char} {bytes : List UInt8}
    (h : encode es = encode cs ++ bytes) : cs <+: es := by
  apply List.isPrefix_of_utf8Encode_append_eq_utf8Encode ⟨bytes.toArray⟩
  rw [utf8Encode_eq, utf8Encode_eq, h]
  apply ByteArray.ext
  rw [ByteArray.data_append]
  exact List.append_toArray _ _

theorem decode?_encode_append (cs : List Char) (bytes : List UInt8) :
    decode? (encode cs ++ bytes) = (decode? bytes).map (cs ++ ·) := by
  cases h : decode? bytes with
  | some ds =>
      rw [Option.map_some, decode?_eq_some_iff, encode_append, decode?_eq_some_iff.mp h]
  | none =>
      rw [Option.map_none, Option.eq_none_iff_forall_ne_some]
      intro es hes
      have he := decode?_eq_some_iff.mp hes
      obtain ⟨ds, rfl⟩ := isPrefix_of_encode_eq_append he
      rw [encode_append] at he
      rw [decode?_eq_some_iff.mpr (List.append_cancel_left he)] at h
      cases h

end Walkthrough.Text
