import Walkthrough.Service.Answer
import Walkthrough.Text.Blank
import Walkthrough.Text.Utf8

/-! # Sessions

A session reads a stream of bytes line by line and answers each line before it reads the next.
Blank lines have no answer; a line that is no text ends the session, and so does the answer to a
shutdown.

* `readLine?` reads the next line off a stream; the last one may come without a newline;
* `Service.line` is what one line leads to, `Service.session` what a whole stream does;
* `Response.written` are the bytes of an answer, `Service.output` those of a session. -/

namespace Walkthrough

/-- The byte that ends a line. -/
def newlineByte : UInt8 := 10

/-- Reads a line: the bytes up to the first newline and with it, or all that are left, and what
comes after.  There is no line where nothing is left. -/
def readLine? : List UInt8 → Option (List UInt8 × List UInt8)
  | [] => none
  | b :: bytes =>
    if b = newlineByte then some ([b], bytes)
    else
      match readLine? bytes with
      | none => some ([b], [])
      | some (line, rest) => some (b :: line, rest)

theorem eq_nil_of_readLine?_eq_none {bytes : List UInt8} (h : readLine? bytes = none) :
    bytes = [] := by
  cases bytes with
  | nil => rfl
  | cons b bytes =>
      rw [readLine?] at h
      split at h
      · cases h
      · split at h <;> cases h

/-- What is read is taken off the stream. -/
theorem append_of_readLine? {bytes line rest : List UInt8}
    (h : readLine? bytes = some (line, rest)) : line ≠ [] ∧ bytes = line ++ rest := by
  induction bytes generalizing line with
  | nil => cases h
  | cons b bytes ih =>
      rw [readLine?] at h
      split at h
      · cases h
        exact ⟨List.cons_ne_nil _ _, rfl⟩
      · split at h
        · rename_i hr
          cases h
          rw [eq_nil_of_readLine?_eq_none hr]
          exact ⟨List.cons_ne_nil _ _, rfl⟩
        · rename_i hr
          cases h
          exact ⟨List.cons_ne_nil _ _, congrArg (b :: ·) (ih hr).2⟩

theorem length_lt_of_readLine? {bytes line rest : List UInt8}
    (h : readLine? bytes = some (line, rest)) : rest.length < bytes.length := by
  obtain ⟨hne, rfl⟩ := append_of_readLine? h
  rw [List.length_append]
  have := List.length_pos_iff.mpr hne
  omega

/-- What a line of a session leads to. -/
inductive LineOutcome where
  /-- nothing -/
  | silent
  /-- an answer -/
  | answer (r : Response)
  /-- an answer, and the end of the service -/
  | farewell (r : Response)
  /-- the end of the session -/
  | broken

/-- How a session ends. -/
inductive SessionEnd where
  | exhausted
  | broken
  | shutdown
deriving DecidableEq, Repr

namespace Service

/-- What a line leads to that holds a text, without the blanks around it. -/
def textLine (s : Service) (files : Store) (text : List Char) : LineOutcome :=
  if text.isEmpty then .silent
  else
    let response := s.respond files text
    if isShutdown (Request.read? text) then .farewell response else .answer response

/-- What a line leads to. -/
def line (s : Service) (files : Store) (bytes : List UInt8) : LineOutcome :=
  match Text.decode? bytes with
  | none => .broken
  | some text => s.textLine files (Text.trim text)

/-- The answers to a stream of bytes, and how the session ends. -/
def session (s : Service) (files : Store) (bytes : List UInt8) : List Response × SessionEnd :=
  match _h : readLine? bytes with
  | none => ([], .exhausted)
  | some (bytes, rest) =>
    match s.line files bytes with
    | .silent => s.session files rest
    | .answer r =>
      let (rs, last) := s.session files rest
      (r :: rs, last)
    | .farewell r => ([r], .shutdown)
    | .broken => ([], .broken)
termination_by bytes.length
decreasing_by all_goals exact length_lt_of_readLine? _h

end Service

/-- The bytes of an answer: its line and the newline that ends it. -/
def Response.written (r : Response) : List UInt8 := Text.encode r.line.toList ++ [newlineByte]

/-- The bytes that a session sends. -/
def Service.output (s : Service) (files : Store) (bytes : List UInt8) : List UInt8 :=
  (s.session files bytes).1.flatMap Response.written

end Walkthrough
