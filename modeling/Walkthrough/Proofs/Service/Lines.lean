import Mathlib.Data.List.Basic
import Walkthrough.Service.Session
import Walkthrough.Text.Cut

/-! # The lines of a stream

A stream is cut at its newlines; a last piece without a newline is a line if it is not empty.

* `streamLines` are the lines, without their newlines; `stream_induction` goes through a stream
  line by line.
* `streamLines_append`: the lines of a stream that ends with a newline are followed by those of
  the next one.
* `streamLines_flatMap`: lines that are sent one by one are received one by one.
* `isSome_decode?_of_mem_streamLines`: the lines of a text are texts. -/

namespace Walkthrough

open Text

/-- The lines of a stream, without the newlines that end them. -/
def streamLines (bytes : List UInt8) : List (List UInt8) :=
  let pieces := cutAt (· == newlineByte) bytes
  if pieces.getLast? = some [] then pieces.dropLast else pieces

@[simp] theorem streamLines_nil : streamLines [] = [] := rfl

theorem streamLines_of_not_mem {line : List UInt8} (h : newlineByte ∉ line) (hne : line ≠ []) :
    streamLines line = [line] := by
  simp [streamLines, cutAt_of_not_mem h, hne]

theorem streamLines_append_newline (a b : List UInt8) :
    streamLines (a ++ newlineByte :: b) = cutAt (· == newlineByte) a ++ streamLines b := by
  have hne := cutAt_ne_nil (· == newlineByte) b
  simp only [streamLines, cutAt_append_cons]
  -- Whether the last piece counts is decided behind the newline.
  rw [List.getLast?_append_of_ne_nil _ hne, List.dropLast_append_of_ne_nil hne]
  split <;> rfl

theorem streamLines_line {line : List UInt8} (h : newlineByte ∉ line) (rest : List UInt8) :
    streamLines (line ++ newlineByte :: rest) = line :: streamLines rest := by
  rw [streamLines_append_newline, cutAt_of_not_mem h]
  rfl

/-- The lines of a stream that ends with a newline come before those of what follows. -/
theorem streamLines_append {a : List UInt8} (ha : a.getLast? = some newlineByte)
    (b : List UInt8) : streamLines (a ++ b) = streamLines a ++ streamLines b := by
  obtain ⟨c, rfl⟩ := List.getLast?_eq_some_iff.mp ha
  rw [List.append_assoc, List.singleton_append, streamLines_append_newline,
    streamLines_append_newline, streamLines_nil, List.append_nil]

theorem streamLines_flatMap {lines : List (List UInt8)} (h : ∀ l ∈ lines, newlineByte ∉ l) :
    streamLines (lines.flatMap (· ++ [newlineByte])) = lines := by
  induction lines with
  | nil => rfl
  | cons l lines ih =>
      rw [List.flatMap_cons, List.append_assoc, List.singleton_append,
        streamLines_line (h l List.mem_cons_self),
        ih fun m hm => h m (List.mem_cons_of_mem l hm)]

/-- A stream is empty, or a last line without a newline, or a line before another stream. -/
theorem stream_induction {P : List UInt8 → Prop} (nil : P [])
    (last : ∀ line, newlineByte ∉ line → line ≠ [] → P line)
    (line : ∀ line rest, newlineByte ∉ line → P rest → P (line ++ newlineByte :: rest))
    (bytes : List UInt8) : P bytes := by
  induction hn : bytes.length using Nat.strongRecOn generalizing bytes with
  | ind n ih =>
      subst hn
      by_cases hmem : newlineByte ∈ bytes
      · obtain ⟨first, rest, rfl, hfirst⟩ := List.eq_append_cons_of_mem hmem
        exact line first rest hfirst (ih rest.length (by simp; omega) rest rfl)
      · by_cases hne : bytes = []
        · exact hne ▸ nil
        · exact last bytes hmem hne

/-! ### Reading -/

theorem readLine?_line {line : List UInt8} (h : newlineByte ∉ line) (rest : List UInt8) :
    readLine? (line ++ newlineByte :: rest) = some (line ++ [newlineByte], rest) := by
  induction line with
  | nil => rfl
  | cons b line ih =>
      rw [List.mem_cons, not_or] at h
      rw [List.cons_append, readLine?, if_neg (Ne.symm h.1), ih h.2]
      rfl

theorem readLine?_last {line : List UInt8} (h : newlineByte ∉ line) (hne : line ≠ []) :
    readLine? line = some (line, []) := by
  induction line with
  | nil => exact absurd rfl hne
  | cons b line ih =>
      rw [List.mem_cons, not_or] at h
      rw [readLine?, if_neg (Ne.symm h.1)]
      cases line with
      | nil => rfl
      | cons c line => rw [ih h.2 (List.cons_ne_nil c line)]

/-! ### Texts -/

theorem encode_newline : encode ['\n'] = [newlineByte] := rfl

/-- A newline among the bytes of a text is a newline of the text. -/
theorem eq_append_newline_of_encode_eq {cs : List Char} {before after : List UInt8}
    (h : encode cs = before ++ newlineByte :: after) :
    ∃ ds es, cs = ds ++ '\n' :: es ∧ encode ds = before ∧ encode es = after := by
  have hfirst : ∀ b ∈ (newlineByte :: after).head?, b.IsUTF8FirstByte := by
    intro b hb
    obtain rfl := Option.some.inj hb
    decide
  obtain ⟨ds, es, rfl, hds, hes⟩ := eq_append_of_encode_eq_append hfirst h
  rw [← List.singleton_append, ← encode_newline] at hes
  obtain ⟨fs, rfl⟩ := isPrefix_of_encode_eq_append hes
  rw [encode_append] at hes
  exact ⟨ds, fs, rfl, hds, List.append_cancel_left hes⟩

theorem isSome_decode?_of_mem_streamLines {bytes line : List UInt8}
    (h : (decode? bytes).isSome) (hline : line ∈ streamLines bytes) : (decode? line).isSome := by
  induction bytes using stream_induction with
  | nil => simp at hline
  | last l hl hne =>
      rw [streamLines_of_not_mem hl hne, List.mem_singleton] at hline
      exact hline ▸ h
  | line l rest hl ih =>
      obtain ⟨cs, hcs⟩ := Option.isSome_iff_exists.mp h
      obtain ⟨ds, es, -, rfl, rfl⟩ :=
        eq_append_newline_of_encode_eq (decode?_eq_some_iff.mp hcs)
      rw [streamLines_line hl, List.mem_cons] at hline
      rcases hline with rfl | hline
      · exact Option.isSome_of_eq_some (decode?_encode ds)
      · exact ih (Option.isSome_of_eq_some (decode?_encode es)) hline

theorem newlineByte_not_mem_encode {cs : List Char} (h : '\n' ∉ cs) :
    newlineByte ∉ encode cs := by
  intro hmem
  obtain ⟨before, after, hsplit⟩ := List.append_of_mem hmem
  obtain ⟨ds, es, rfl, -, -⟩ := eq_append_newline_of_encode_eq hsplit
  exact h (List.mem_append_right ds List.mem_cons_self)

end Walkthrough
