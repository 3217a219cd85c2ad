import Mathlib.Data.List.TakeWhile
import Walkthrough.Proofs.Json.OneLine
import Walkthrough.Proofs.Service.Lines

/-! # Sessions answer line by line

What a session answers is told from the trimmed texts of its lines: it stops before the first line
that is no text and behind the first request for a shutdown, and what it answers in between depends
on one text at a time.

* `streamTexts` are the trimmed texts of the lines of a stream; `spoken` are those before the first
  line that is no text, without the blank ones, and `heard` those of them that are answered.
* `Service.session_eq_answers`: a session answers what is heard, each text by `Service.respond`, and
  it ends by `ending`; `Service.answers_cons` is its step, one line at a time.
* `Respaced` relates lines to the same lines with blanks around them and blank lines between them.
* `Service.session_line_by_line` puts together what follows. -/

namespace Walkthrough

open Text

/-! ### What is heard -/

/-- The text of a line without the blanks around it, if the line is a text. -/
def trimmed? (line : List UInt8) : Option (List Char) := (decode? line).map trim

/-- The trimmed texts of the lines of a stream. -/
def streamTexts (bytes : List UInt8) : List (Option (List Char)) :=
  (streamLines bytes).map trimmed?

/-- The texts before the first line that is no text, without the blank ones. -/
def spoken (texts : List (Option (List Char))) : List (List Char) :=
  ((texts.takeWhile Option.isSome).filterMap id).filter (· ≠ [])

/-- The elements up to the first one that passes a test, and this one. -/
def takeThrough {α : Type} (p : α → Bool) : List α → List α
  | [] => []
  | a :: as => if p a then [a] else a :: takeThrough p as

/-- The text is a request for a shutdown. -/
def AsksShutdown (text : List Char) : Prop :=
  ∃ r, Request.read? text = some r ∧ r.command = "SHUTDOWN"

theorem isShutdown_read?_iff {text : List Char} :
    Service.isShutdown (Request.read? text) = true ↔ AsksShutdown text := by
  unfold AsksShutdown Service.isShutdown
  cases Request.read? text <;> simp

instance : DecidablePred AsksShutdown := fun _ => decidable_of_iff _ isShutdown_read?_iff

/-- The texts that are answered: up to a request for a shutdown, and this one. -/
def heard (texts : List (Option (List Char))) : List (List Char) :=
  takeThrough (AsksShutdown ·) (spoken texts)

/-- How a session ends: by a request for a shutdown, or else by a line that is no text, or else
with its stream. -/
def ending (texts : List (Option (List Char))) : SessionEnd :=
  if ∃ text ∈ spoken texts, AsksShutdown text then .shutdown
  else if texts.any Option.isNone then .broken
  else .exhausted

theorem spoken_some {text : List Char} (h : text ≠ []) (texts : List (Option (List Char))) :
    spoken (some text :: texts) = text :: spoken texts := by
  simp [spoken, h]

theorem exists_mem_iff_getLast?_takeThrough {α : Type} {p : α → Prop} [DecidablePred p]
    {as : List α} : (∃ a ∈ as, p a) ↔ ∃ a, (takeThrough (p ·) as).getLast? = some a ∧ p a := by
  induction as with
  | nil => simp [takeThrough]
  | cons a as ih =>
      rw [List.exists_mem_cons_iff, takeThrough]
      by_cases h : p a
      · simp [h]
      · rw [ih, decide_eq_false h, if_neg Bool.false_ne_true, List.getLast?_cons]
        cases (takeThrough (p ·) as).getLast? with
        | none => simp [h]
        | some b => simp [h]

/-! ### Lines -/

theorem trimmed?_append_append {ws ws' : List Char} (h : ∀ c ∈ ws, isBlank c = true)
    (h' : ∀ c ∈ ws', isBlank c = true) (line : List UInt8) :
    trimmed? (encode ws ++ line ++ encode ws') = trimmed? line := by
  unfold trimmed?
  rw [decode?_append_encode, decode?_encode_append, Option.map_map, Option.map_map]
  apply congrArg (Option.map · _)
  funext cs
  exact trim_append_append h h' cs

theorem trimmed?_nil : trimmed? [] = some [] := congrArg (Option.map trim) (decode?_encode [])

theorem trimmed?_of_blank {ws : List Char} (h : ∀ c ∈ ws, isBlank c = true) :
    trimmed? (encode ws) = some [] :=
  (@trimmed?_append_append [] ws (by simp) h []).trans trimmed?_nil

theorem trimmed?_newline (line : List UInt8) :
    trimmed? (line ++ [newlineByte]) = trimmed? line :=
  @trimmed?_append_append [] ['\n'] (by simp) (List.forall_mem_singleton.mpr (by decide)) line

theorem streamTexts_last {line : List UInt8} (h : newlineByte ∉ line) (hne : line ≠ []) :
    streamTexts line = [trimmed? line] := by
  rw [streamTexts, streamLines_of_not_mem h hne]
  rfl

theorem streamTexts_line {line : List UInt8} (h : newlineByte ∉ line) (rest : List UInt8) :
    streamTexts (line ++ newlineByte :: rest) = trimmed? line :: streamTexts rest := by
  rw [streamTexts, streamLines_line h]
  rfl

/-- The second lines are the first ones with blanks around them, among them the carriage return at
the end of a line, and with blank lines between them. -/
inductive Respaced : List (List UInt8) → List (List UInt8) → Prop
  | nil : Respaced [] []
  | blank {ws : List Char} {lines lines' : List (List UInt8)} (hw : ∀ c ∈ ws, isBlank c = true)
      (h : Respaced lines lines') : Respaced lines (encode ws :: lines')
  | padded {ws ws' : List Char} {line : List UInt8} {lines lines' : List (List UInt8)}
      (hw : ∀ c ∈ ws, isBlank c = true) (hw' : ∀ c ∈ ws', isBlank c = true)
      (h : Respaced lines lines') :
      Respaced (line :: lines) ((encode ws ++ line ++ encode ws') :: lines')

/-- What a session comes to if it begins with a line that leads to this, and goes on as given. -/
def LineOutcome.andThen (rest : List Response × SessionEnd) :
    LineOutcome → List Response × SessionEnd
  | silent => rest
  | answer r => (r :: rest.1, rest.2)
  | farewell r => ([r], .shutdown)
  | broken => ([], .broken)

namespace Service

variable (s : Service) (files : Store)

/-- What a line with the given trimmed text leads to. -/
def outcome : Option (List Char) → LineOutcome
  | none => .broken
  | some text => s.textLine files text

/-- The answers to lines with the given trimmed texts, and how the session ends. -/
def answers (texts : List (Option (List Char))) : List Response × SessionEnd :=
  ((heard texts).map (s.respond files), ending texts)

theorem textLine_eq {text : List Char} (h : text ≠ []) :
    s.textLine files text =
      if AsksShutdown text then .farewell (s.respond files text)
      else .answer (s.respond files text) := by
  unfold textLine
  rw [if_neg (by simpa using h)]
  by_cases hshutdown : AsksShutdown text
  · rw [isShutdown_read?_iff.mpr hshutdown, if_pos hshutdown]
    rfl
  · rw [Bool.eq_false_iff.mpr (mt isShutdown_read?_iff.mp hshutdown), if_neg hshutdown]
    rfl

/-- **One line at a time**: the first line leads to what its own text says, and if the session does
not end there, it goes on with the others as if they came first. -/
theorem answers_cons (text : Option (List Char)) (texts : List (Option (List Char))) :
    s.answers files (text :: texts) =
      (s.outcome files text).andThen (s.answers files texts) := by
  cases text with
  | none => rfl
  | some text =>
      by_cases h : text = []
      · subst h
        rfl
      · rw [outcome, textLine_eq s files h]
        unfold answers heard ending
        rw [spoken_some h, takeThrough]
        simp only [List.exists_mem_cons_iff]
        by_cases hshutdown : AsksShutdown text
        · simp only [hshutdown, true_or, if_true, decide_true]
          rfl
        · simp only [hshutdown, false_or, if_false, decide_false, Bool.false_eq_true]
          rfl

theorem line_eq_outcome (line : List UInt8) :
    s.line files line = s.outcome files (trimmed? line) := by
  unfold Service.line trimmed?
  cases decode? line <;> rfl

theorem session_of_readLine? {bytes line rest : List UInt8}
    (h : readLine? bytes = some (line, rest)) :
    s.session files bytes =
      (s.outcome files (trimmed? line)).andThen (s.session files rest) := by
  rw [session]
  split
  · rename_i hn
    rw [hn] at h
    cases h
  · rename_i hs
    rw [hs] at h
    cases h
    rw [← line_eq_outcome]
    cases s.line files line <;> rfl

theorem session_nil : s.session files [] = ([], .exhausted) := by
  rw [session]
  rfl

/-- **What is heard is answered**: the loop over the stream gives the answers to its lines. -/
theorem session_eq_answers (bytes : List UInt8) :
    s.session files bytes = s.answers files (streamTexts bytes) := by
  induction bytes using stream_induction with
  | nil => exact s.session_nil files
  | last line h hne =>
      rw [s.session_of_readLine? files (readLine?_last h hne), streamTexts_last h hne,
        answers_cons, session_nil]
      rfl
  | line line rest h ih =>
      rw [s.session_of_readLine? files (readLine?_line h rest), streamTexts_line h,
        answers_cons, trimmed?_newline, ih]

/-! ### What follows -/

theorem outcome_eq_silent_or_answer {text : List Char} (h : ¬ AsksShutdown text) :
    s.outcome files (some text) = .silent ∨
      s.outcome files (some text) = .answer (s.respond files text) := by
  by_cases hb : text = []
  · subst hb
    exact .inl rfl
  · rw [outcome, textLine_eq s files hb, if_neg h]
    exact .inr rfl

theorem answers_append {texts : List (Option (List Char))}
    (h : ∀ t ∈ texts, ∃ text, t = some text ∧ ¬ AsksShutdown text)
    (more : List (Option (List Char))) :
    s.answers files (texts ++ more) =
      ((s.answers files texts).1 ++ (s.answers files more).1, (s.answers files more).2) := by
  induction texts with
  | nil => rfl
  | cons t texts ih =>
      have ih := ih fun u hu => h u (List.mem_cons_of_mem t hu)
      obtain ⟨text, rfl, hgo⟩ := h t List.mem_cons_self
      rw [List.cons_append, answers_cons, answers_cons, ih]
      rcases s.outcome_eq_silent_or_answer files hgo with ho | ho
      · rw [ho]
        rfl
      · rw [ho]
        rfl

/-- **Behind complete lines, a session starts afresh.** -/
theorem session_append {a : List UInt8} (hend : a.getLast? = some newlineByte)
    (htext : (decode? a).isSome)
    (hgo : ∀ line ∈ streamLines a, ∀ text, trimmed? line = some text → ¬ AsksShutdown text)
    (b : List UInt8) :
    s.session files (a ++ b) =
      ((s.session files a).1 ++ (s.session files b).1, (s.session files b).2) := by
  simp only [session_eq_answers]
  rw [streamTexts, streamLines_append hend, List.map_append]
  apply answers_append
  intro t ht
  obtain ⟨line, hline, rfl⟩ := List.mem_map.mp ht
  obtain ⟨cs, hcs⟩ := Option.isSome_iff_exists.mp (isSome_decode?_of_mem_streamLines htext hline)
  have ht : trimmed? line = some (trim cs) := by rw [trimmed?, hcs, Option.map_some]
  exact ⟨trim cs, ht, hgo line hline _ ht⟩

/-- **Blanks make no difference**: not around a line, nor on lines of their own. -/
theorem session_eq_of_respaced {a b : List UInt8} (h : Respaced (streamLines a) (streamLines b)) :
    s.session files b = s.session files a := by
  rw [session_eq_answers, session_eq_answers, streamTexts, streamTexts]
  generalize streamLines a = lines at h
  generalize streamLines b = lines' at h
  induction h with
  | nil => rfl
  | blank hw _ ih =>
      rw [List.map_cons, trimmed?_of_blank hw, answers_cons, ih]
      rfl
  | padded hw hw' _ ih =>
      rw [List.map_cons, List.map_cons, trimmed?_append_append hw hw', answers_cons, ih,
        answers_cons]

theorem not_asksShutdown_of_error {text : List Char} {message : String}
    (h : s.respond files text = .error message) : ¬ AsksShutdown text := by
  rintro ⟨r, hread, hcommand⟩
  unfold respond handle at h
  rw [hread] at h
  simp [perform, hcommand] at h

/-- **Only a shutdown ends the service**: it ends with a session exactly if the last text that is
answered asks for that. -/
theorem session_shutdown_iff (bytes : List UInt8) :
    (s.session files bytes).2 = .shutdown ↔
      ∃ text, (heard (streamTexts bytes)).getLast? = some text ∧ AsksShutdown text := by
  rw [session_eq_answers, heard, ← exists_mem_iff_getLast?_takeThrough, answers, ending]
  split
  · simp [*]
  · split <;> simp [*]

theorem newlineByte_not_mem_line (r : Response) : newlineByte ∉ encode r.line.toList :=
  newlineByte_not_mem_encode r.toJson.newline_not_mem_compact

theorem session_line {line : List UInt8} {text : List Char} (hline : newlineByte ∉ line)
    (htext : trimmed? line = some text) (hne : text ≠ []) (hgo : ¬ AsksShutdown text)
    (rest : List UInt8) :
    s.session files (line ++ newlineByte :: rest) =
      (s.respond files text :: (s.session files rest).1, (s.session files rest).2) := by
  rw [s.session_of_readLine? files (readLine?_line hline rest), trimmed?_newline, htext, outcome,
    textLine_eq s files hne, if_neg hgo]
  rfl

/-- **Every answer is one line**: the lines that a session sends are its answers. -/
theorem streamLines_output (bytes : List UInt8) :
    streamLines (s.output files bytes) =
      (s.session files bytes).1.map fun r => encode r.line.toList := by
  have hwritten : s.output files bytes =
      ((s.session files bytes).1.map fun r => encode r.line.toList).flatMap
        (· ++ [newlineByte]) := by
    rw [List.flatMap_map]
    rfl
  rw [hwritten]
  apply streamLines_flatMap
  intro l hl
  obtain ⟨r, -, rfl⟩ := List.mem_map.mp hl
  exact newlineByte_not_mem_line r

/-- **A session answers line by line.**  What it answers, and how it ends, is told from the trimmed
texts of its lines: the answers are those to what is heard, each of them told from its own text.
So streams of complete lines without a request for a shutdown are answered one after the other,
blanks around lines and blank lines make no difference, and an error does not keep later lines from
their answers.  The lines that are sent are the answers, one line for each, and the service ends
exactly if the last of them answers a request for a shutdown. -/
theorem session_line_by_line :
    (∀ bytes, s.session files bytes =
      ((heard (streamTexts bytes)).map (s.respond files), ending (streamTexts bytes))) ∧
    (∀ a b, a.getLast? = some newlineByte → (decode? a).isSome →
      (∀ line ∈ streamLines a, ∀ text, trimmed? line = some text → ¬ AsksShutdown text) →
      s.session files (a ++ b) =
        ((s.session files a).1 ++ (s.session files b).1, (s.session files b).2)) ∧
    (∀ a b, Respaced (streamLines a) (streamLines b) → s.session files b = s.session files a) ∧
    (∀ line text message rest, newlineByte ∉ line → trimmed? line = some text → text ≠ [] →
      s.respond files text = .error message →
      s.session files (line ++ newlineByte :: rest) =
        (.error message :: (s.session files rest).1, (s.session files rest).2)) ∧
    (∀ bytes, streamLines (s.output files bytes) =
      (s.session files bytes).1.map fun r => encode r.line.toList) ∧
    ∀ bytes, (s.session files bytes).2 = .shutdown ↔
      ∃ text, (heard (streamTexts bytes)).getLast? = some text ∧ AsksShutdown text := by
  refine ⟨s.session_eq_answers files, ?_, ?_, ?_, s.streamLines_output files,
    s.session_shutdown_iff files⟩
  · intro a b hend htext hgo
    exact s.session_append files hend htext hgo b
  · intro a b h
    exact s.session_eq_of_respaced files h
  · intro line text message rest hline htext hne h
    rw [← h]
    exact s.session_line files hline htext hne (s.not_asksShutdown_of_error files h) rest

end Service

end Walkthrough
