import Mathlib.Algebra.Group.Int.Defs
import Mathlib.Algebra.Group.Nat.Defs
import Mathlib.Data.List.Basic
import Mathlib.Logic.Function.Basic
import Iso21177.Lib.Run

/-!
# The Event Log

`FileLogger` writes events into files that are named after the second in which they were
opened. A file that has been in use for four hours is closed and another is opened, and
closing the log closes the file; the next event opens one again. Every file starts with a
record that holds its own name, which is written by the function that opened the file
calling back the one that writes events.

An event is lost when a file is opened under a name that was used before, since that
empties it: closing the log and writing to it within a second is enough. A file does not
start with its name if four hours pass between opening it and writing that record, and the
numbers of the records wrap around. Otherwise the log is complete, whatever the clocks say
(`log_complete`).

The clocks are any sequences of readings, and whether a file is too old is any test of the
difference of two of them. A file can be created and written to.

## Main definitions

* `LogEvents`, `Info`, `LogRecord`, `LogCall`: What is logged.
* `LogEnv`: The clocks.
* `FileLogger`: The state of the logger.
* `FileLogger.append`, `FileLogger.create`, `openLogFile`, `checkAge`, `writeRecord`,
  `logEvent`, `closeLogFile`, `logStep`: The logger.
* `Numbered`, `Headed`, `LoggedOnce`, `Complete`: The log as it should be.
* `OpenOk`, `opened`, `AgeOk`, `CallOk`, `LogCallOk`: A call that loses nothing.
* `FilesOk`, `LogInv`: What holds between the lines, and between the calls.
* `settled`: The logger when a line is about to be written.
* `tickingClock`, `spreadCalls`, `stillClock`, `hastyCalls`: Two logs.

## Theorems

* `numbered_append`, `headed_append`, `loggedOnce_append`: A line is added.
* `filesOk_create`, `filesOk_append`, `filesOk_own`, `filesOk_call`: What the lines keep.
* `openLogFile_active`, `openLogFile_none`, `checkAge_young`, `checkAge_open`,
  `openLogFile_eq`, `logEvent_eq`: A call that loses nothing, without the recursion.
* `logInv_opened`, `logInv_checkAge`, `logInv_settled`, `active_writeRecord`, `logStep_spec`:
  What the steps of a call keep.
* `made_of_run`: The calls are noted.
* `log_complete`, `log_complete_spread`, `event_lost`: The log is complete.
-/

namespace Iso21177

/-- The kinds of events. -/
inductive LogEvents
  | undefined
  | systemStart
  | systemStop
  | gps
  | appVersion
  | exception
  | carModel
  | carSpeed
  | carHwLocation
  | vin
  | lifecycleInfo
  | gpsInit
  | fullFilename
  | closingFile
  deriving DecidableEq

/-- What is logged with an event: a text, or a position. -/
inductive Info (π : Type)
  | text (s : String)
  | position (p : π)
  deriving DecidableEq

/-- A line of a file. The call that asked for it is noted here and not in the file; the
    logger's own lines have none. -/
structure LogRecord (τ π : Type) where
  sequenceNumber : Int
  time : τ
  event : LogEvents
  info : Info π
  call : Option Nat
  deriving DecidableEq

/-- The calls to the logger. -/
inductive LogCall (π : Type)
  | logEvent (event : LogEvents) (info : Info π)
  | closeLogFile (reason : String)
  deriving DecidableEq

/-- The readings of the two clocks, the name of a file opened at a time and its path, and
    whether a time between two readings is more than four hours. -/
structure LogEnv (τ ν : Type) where
  now : Nat → τ
  nanoTime : Nat → Int
  fileName : τ → ν
  path : ν → String
  expired : Int → Bool

/-- The static variables of the logger, the files, how often the clocks were read, and the
    calls so far. -/
structure FileLogger (τ ν π : Type) where
  activePrintWriter : Option ν
  nanoTickLogStarted : Int
  sequenceNumber : Int
  files : ν → List (LogRecord τ π)
  nows : Nat
  nanos : Nat
  made : List (LogCall π)

section Model

variable {τ ν π : Type} [DecidableEq ν]

/-- The logger when the program starts. -/
def FileLogger.init : FileLogger τ ν π := ⟨none, 0, 0, fun _ => [], 0, 0, []⟩

/-- Nothing sets `mAppVersion`. -/
def mAppVersion : Option String := none

/-- A line is added to a file. -/
def FileLogger.append (s : FileLogger τ ν π) (file : ν) (r : LogRecord τ π) : FileLogger τ ν π :=
  { s with files := Function.update s.files file (s.files file ++ [r]) }

/-- A file is opened: it is empty then, whatever it was before. -/
def FileLogger.create (env : LogEnv τ ν) (s : FileLogger τ ν π) : FileLogger τ ν π :=
  let file := env.fileName (env.now s.nows)
  { s with
    activePrintWriter := some file
    files := Function.update s.files file []
    sequenceNumber := 0
    nanoTickLogStarted := env.nanoTime s.nanos
    nows := s.nows + 1
    nanos := s.nanos + 1 }

/-- `openLogFile`, given how an event is logged. -/
def openLogFile (env : LogEnv τ ν)
    (logEvent : LogEvents → Info π → FileLogger τ ν π → Option (FileLogger τ ν π))
    (s : FileLogger τ ν π) : Option (FileLogger τ ν π) :=
  match s.activePrintWriter with
  | some _ => some s
  | none =>
    let file := env.fileName (env.now s.nows)
    let s := s.create env
    match mAppVersion with
    | some v =>
      (logEvent .appVersion (.text v) s).bind (logEvent .fullFilename (.text (env.path file)))
    | none => logEvent .fullFilename (.text (env.path file)) s

/-- A file that is too old gets a last line, which does not count, and is closed. The clock
    is not read if the file was opened at zero. -/
def checkAge (env : LogEnv τ ν) (now : τ) (s : FileLogger τ ν π) : FileLogger τ ν π :=
  match s.activePrintWriter with
  | none => s
  | some file =>
    if s.nanoTickLogStarted ≠ 0 then
      let t := { s with nanos := s.nanos + 1 }
      if env.expired (env.nanoTime s.nanos - s.nanoTickLogStarted) then
        { t.append file ⟨s.sequenceNumber, now, .closingFile, .text "Time exceeded", none⟩ with
          activePrintWriter := none }
      else t
    else s

/-- The line of an event is written. The number is an `int`. -/
def writeRecord (call : Option Nat) (event : LogEvents) (info : Info π) (now : τ)
    (s : FileLogger τ ν π) : Option (FileLogger τ ν π) :=
  match s.activePrintWriter with
  | none => none
  | some file =>
    some { s.append file ⟨s.sequenceNumber, now, event, info, call⟩ with
      sequenceNumber := (s.sequenceNumber + 1).bmod (2 ^ 32) }

/-- `logEvent`, to a depth of calls. -/
def logEvent (env : LogEnv τ ν) : Nat → Option Nat → LogEvents → Info π → FileLogger τ ν π →
    Option (FileLogger τ ν π)
  | 0, _, _, _, _ => none
  | depth + 1, call, event, info, s =>
    match openLogFile env (logEvent env depth none) s with
    | none => none
    | some s =>
      let now := env.now s.nows
      match openLogFile env (logEvent env depth none)
          (checkAge env now { s with nows := s.nows + 1 }) with
      | none => none
      | some s => writeRecord call event info now s

/-- `closeLogFile`. -/
def closeLogFile (env : LogEnv τ ν) (depth : Nat) (reason : String) (s : FileLogger τ ν π) :
    Option (FileLogger τ ν π) :=
  match s.activePrintWriter with
  | none => some s
  | some _ =>
    (logEvent env depth none .closingFile (.text reason) s).map
      (fun s => { s with activePrintWriter := none })

/-- One call. -/
def logStep (env : LogEnv τ ν) (depth : Nat) (s : FileLogger τ ν π) (c : LogCall π) :
    Option (FileLogger τ ν π) :=
  let r :=
    match c with
    | .logEvent event info => logEvent env depth (some s.made.length) event info s
    | .closeLogFile reason => closeLogFile env depth reason s
  r.map (fun t => { t with made := s.made ++ [c] })

/-- The lines are numbered from zero on. -/
def Numbered (l : List (LogRecord τ π)) : Prop :=
  ∀ (k : Nat) (r : LogRecord τ π), l[k]? = some r → r.sequenceNumber = k

/-- A file that has lines starts with the one that the logger writes when it opens it. -/
def Headed (l : List (LogRecord τ π)) : Prop :=
  ∀ r, l.head? = some r → r.event = .fullFilename ∧ r.call = none

/-- The call is in one file, on one line. -/
def LoggedOnce (files : ν → List (LogRecord τ π)) (i : Nat) (event : LogEvents) (info : Info π) :
    Prop :=
  ∃ file r, (files file).filter (fun x => x.call = some i) = [r] ∧ r.event = event ∧
    r.info = info ∧ ∀ other, other ≠ file → ∀ x ∈ files other, x.call ≠ some i

/-- Every event that was logged is in the log once, and every file is numbered and starts
    with its name. -/
structure Complete (calls : List (LogCall π)) (files : ν → List (LogRecord τ π)) : Prop where
  once : ∀ (i : Nat) (event : LogEvents) (info : Info π),
    calls[i]? = some (.logEvent event info) → LoggedOnce files i event info
  numbered : ∀ file, Numbered (files file)
  headed : ∀ file, Headed (files file)

/-- The file that is opened next holds no event, and the four hours are not over when its
    first line is written. -/
def OpenOk (env : LogEnv τ ν) (s : FileLogger τ ν π) : Prop :=
  (∀ r ∈ s.files (env.fileName (env.now s.nows)), r.call = none) ∧
    (env.nanoTime s.nanos = 0 ∨
      env.expired (env.nanoTime (s.nanos + 1) - env.nanoTime s.nanos) = false)

/-- The logger after a file was opened and has its first line. -/
def opened (env : LogEnv τ ν) (s : FileLogger τ ν π) : FileLogger τ ν π :=
  let file := env.fileName (env.now s.nows)
  { s with
    activePrintWriter := some file
    files := Function.update s.files file
      [⟨0, env.now (s.nows + 1), .fullFilename, .text (env.path file), none⟩]
    sequenceNumber := 1
    nanoTickLogStarted := env.nanoTime s.nanos
    nows := s.nows + 2
    nanos := if env.nanoTime s.nanos = 0 then s.nanos + 1 else s.nanos + 2 }

/-- The open file has room for one more number, and if it is too old, another can be
    opened. -/
def AgeOk (env : LogEnv τ ν) (s : FileLogger τ ν π) : Prop :=
  (∀ file ∈ s.activePrintWriter, (s.files file).length < 2 ^ 31) ∧
    ((checkAge env (env.now s.nows) { s with nows := s.nows + 1 }).activePrintWriter = none →
      OpenOk env (checkAge env (env.now s.nows) { s with nows := s.nows + 1 }))

/-- An event can be logged without loss. -/
def CallOk (env : LogEnv τ ν) (s : FileLogger τ ν π) : Prop :=
  (s.activePrintWriter = none → OpenOk env s ∧ AgeOk env (opened env s)) ∧
    (s.activePrintWriter ≠ none → AgeOk env s)

/-- A call loses nothing. Closing a log that is not open does nothing. -/
def LogCallOk (env : LogEnv τ ν) (s : FileLogger τ ν π) : LogCall π → Prop
  | .logEvent _ _ => CallOk env s
  | .closeLogFile _ => s.activePrintWriter ≠ none → CallOk env s

instance (env : LogEnv τ ν) (s : FileLogger τ ν π) : Decidable (OpenOk env s) :=
  inferInstanceAs (Decidable (_ ∧ _))

instance (env : LogEnv τ ν) (s : FileLogger τ ν π) : Decidable (AgeOk env s) :=
  inferInstanceAs (Decidable (_ ∧ _))

instance (env : LogEnv τ ν) (s : FileLogger τ ν π) : Decidable (CallOk env s) :=
  inferInstanceAs (Decidable (_ ∧ _))

instance (env : LogEnv τ ν) (s : FileLogger τ ν π) : DecidablePred (LogCallOk env s)
  | .logEvent _ _ => inferInstanceAs (Decidable (CallOk env s))
  | .closeLogFile _ => inferInstanceAs (Decidable (_ → _))

/-- What holds of the files between the lines: they are complete for the calls so far, and
    know of no others. -/
structure FilesOk (calls : List (LogCall π)) (files : ν → List (LogRecord τ π)) : Prop extends
    Complete calls files where
  fresh : ∀ file, ∀ r ∈ files file, ∀ i, r.call = some i → i < calls.length

theorem numbered_append {l : List (LogRecord τ π)} (h : Numbered l) {r : LogRecord τ π}
    (hr : r.sequenceNumber = l.length) : Numbered (l ++ [r]) := by
  intro k x hx
  by_cases hk : k < l.length
  · rw [List.getElem?_append_left hk] at hx
    exact h k x hx
  · rw [List.getElem?_append_right (Nat.le_of_not_lt hk)] at hx
    rcases List.getElem?_eq_some_iff.mp hx with ⟨hlt, rfl⟩
    rw [List.length_singleton, Nat.lt_one_iff] at hlt
    have heq : k = l.length := by omega
    simp only [heq, Nat.sub_self, List.getElem_cons_zero]
    exact hr

theorem headed_append {l : List (LogRecord τ π)} (h : Headed l) (hl : l ≠ []) (r : LogRecord τ π) :
    Headed (l ++ [r]) := by
  intro x hx
  rw [List.head?_append_of_ne_nil l hl] at hx
  exact h x hx

/-- A line for another call does not hide one. -/
theorem loggedOnce_append {files : ν → List (LogRecord τ π)} {i : Nat} {event : LogEvents}
    {info : Info π} (h : LoggedOnce files i event info) (file : ν) {r : LogRecord τ π}
    (hr : r.call ≠ some i) :
    LoggedOnce (Function.update files file (files file ++ [r])) i event info := by
  rcases h with ⟨f, x, hx, he, hi, hother⟩
  -- The added line belongs to another call, so no count changes.
  refine ⟨f, x, ?_, he, hi, fun other hne y hy => ?_⟩
  · by_cases hf : f = file
    · subst hf
      rw [Function.update_self, List.filter_append, hx, List.filter_singleton]
      simp only [hr, decide_false, cond_false, List.append_nil]
    · rw [Function.update_of_ne hf]
      exact hx
  · by_cases hf : other = file
    · subst hf
      rw [Function.update_self, List.mem_append, List.mem_singleton] at hy
      rcases hy with hy | rfl
      · exact hother other hne y hy
      · exact hr
    · rw [Function.update_of_ne hf] at hy
      exact hother other hne y hy

/-- A file that holds no event may be started anew. -/
theorem filesOk_create {calls : List (LogCall π)} {files : ν → List (LogRecord τ π)}
    (h : FilesOk calls files) {file : ν} (hfile : ∀ r ∈ files file, r.call = none)
    {r : LogRecord τ π} (hseq : r.sequenceNumber = 0) (hevent : r.event = .fullFilename)
    (hcall : r.call = none) : FilesOk calls (Function.update files file [r]) := by
  refine ⟨⟨fun i event info hi => ?_, fun f => ?_, fun f => ?_⟩, fun f x hx i hi => ?_⟩
  · -- The line of an event is in another file, since this one has none.
    rcases h.once i event info hi with ⟨g, x, hx, he, hinfo, hother⟩
    have hmem : x ∈ (files g).filter (fun y => y.call = some i) := by
      rw [hx]
      exact List.mem_cons_self ..
    rw [List.mem_filter, decide_eq_true_eq] at hmem
    have hg : g ≠ file := by
      rintro rfl
      rw [hfile x hmem.1] at hmem
      exact absurd hmem.2 (by simp only [reduceCtorEq, not_false_eq_true])
    refine ⟨g, x, by rw [Function.update_of_ne hg]; exact hx, he, hinfo, fun other hne y hy => ?_⟩
    by_cases hf : other = file
    · subst hf
      rw [Function.update_self, List.mem_singleton] at hy
      rw [hy, hcall]
      simp only [ne_eq, reduceCtorEq, not_false_eq_true]
    · rw [Function.update_of_ne hf] at hy
      exact hother other hne y hy
  · by_cases hf : f = file
    · subst hf
      rw [Function.update_self]
      exact numbered_append (l := []) (fun k x hx => absurd hx (by simp only [List.getElem?_nil,
        reduceCtorEq, not_false_eq_true])) hseq
    · rw [Function.update_of_ne hf]
      exact h.numbered f
  · by_cases hf : f = file
    · subst hf
      rw [Function.update_self]
      intro x hx
      rw [List.head?_cons, Option.some.injEq] at hx
      rw [← hx]
      exact ⟨hevent, hcall⟩
    · rw [Function.update_of_ne hf]
      exact h.headed f
  · by_cases hf : f = file
    · subst hf
      rw [Function.update_self, List.mem_singleton] at hx
      rw [hx, hcall] at hi
      exact absurd hi (by simp only [reduceCtorEq, not_false_eq_true])
    · rw [Function.update_of_ne hf] at hx
      exact h.fresh f x hx i hi

/-- A line is added to a file that has some. -/
theorem filesOk_append {calls calls' : List (LogCall π)} {files : ν → List (LogRecord τ π)}
    (h : FilesOk calls files) {file : ν} (hfile : files file ≠ []) {r : LogRecord τ π}
    (hseq : r.sequenceNumber = (files file).length) (hle : calls.length ≤ calls'.length)
    (hcall : ∀ i, r.call = some i → i < calls'.length)
    (honce : ∀ i event info, calls'[i]? = some (.logEvent event info) →
      LoggedOnce (Function.update files file (files file ++ [r])) i event info) :
    FilesOk calls' (Function.update files file (files file ++ [r])) := by
  -- Only the file that is written differs; the others are as before.
  refine ⟨⟨honce, fun f => ?_, fun f => ?_⟩, fun f x hx i hi => ?_⟩
  · by_cases hf : f = file
    · subst hf
      rw [Function.update_self]
      exact numbered_append (h.numbered f) hseq
    · rw [Function.update_of_ne hf]
      exact h.numbered f
  · by_cases hf : f = file
    · subst hf
      rw [Function.update_self]
      exact headed_append (h.headed f) hfile r
    · rw [Function.update_of_ne hf]
      exact h.headed f
  · by_cases hf : f = file
    · subst hf
      rw [Function.update_self, List.mem_append, List.mem_singleton] at hx
      rcases hx with hx | rfl
      · exact Nat.lt_of_lt_of_le (h.fresh f x hx i hi) hle
      · exact hcall i hi
    · rw [Function.update_of_ne hf] at hx
      exact Nat.lt_of_lt_of_le (h.fresh f x hx i hi) hle

/-- A line of the logger's own. -/
theorem filesOk_own {calls : List (LogCall π)} {files : ν → List (LogRecord τ π)}
    (h : FilesOk calls files) {file : ν} (hfile : files file ≠ []) {r : LogRecord τ π}
    (hseq : r.sequenceNumber = (files file).length) (hcall : r.call = none) :
    FilesOk calls (Function.update files file (files file ++ [r])) := by
  refine filesOk_append h hfile hseq (Nat.le_refl _) (fun i hi => ?_) (fun i event info hi => ?_)
  · rw [hcall] at hi
    exact absurd hi (by simp only [reduceCtorEq, not_false_eq_true])
  · refine loggedOnce_append (h.once i event info hi) file ?_
    rw [hcall]
    simp only [ne_eq, reduceCtorEq, not_false_eq_true]

/-- The line of the next call. -/
theorem filesOk_call {calls : List (LogCall π)} {files : ν → List (LogRecord τ π)}
    (h : FilesOk calls files) {file : ν} (hfile : files file ≠ []) {r : LogRecord τ π}
    (hseq : r.sequenceNumber = (files file).length) (hcall : r.call = some calls.length) :
    FilesOk (calls ++ [.logEvent r.event r.info])
      (Function.update files file (files file ++ [r])) := by
  refine filesOk_append h hfile hseq ?_ (fun i hi => ?_) (fun i event info hi => ?_)
  · rw [List.length_append]
    omega
  · rw [hcall, Option.some.injEq] at hi
    rw [← hi, List.length_append]
    exact Nat.lt_succ_self _
  · by_cases hlt : i < calls.length
    · rw [List.getElem?_append_left hlt] at hi
      refine loggedOnce_append (h.once i event info hi) file ?_
      rw [hcall, ne_eq, Option.some.injEq]
      omega
    · rcases List.getElem?_eq_some_iff.mp hi with ⟨hlen, -⟩
      rw [List.length_append, List.length_singleton] at hlen
      have hi' : i = calls.length := by omega
      subst hi'
      rw [List.getElem?_append_right (Nat.le_refl _), Nat.sub_self, List.getElem?_cons_zero,
        Option.some.injEq, LogCall.logEvent.injEq] at hi
      -- No line was for this call before.
      have hnew : ∀ f, ∀ x ∈ files f, x.call ≠ some calls.length :=
        fun f x hx heq => absurd (h.fresh f x hx _ heq) (Nat.lt_irrefl _)
      refine ⟨file, r, ?_, hi.1, hi.2, fun other hne y hy => ?_⟩
      · rw [Function.update_self, List.filter_append, List.filter_eq_nil_iff.mpr, List.nil_append,
          List.filter_singleton]
        · simp only [hcall, decide_true, cond_true]
        · intro x hx
          rw [decide_eq_true_eq]
          exact hnew file x hx
      · rw [Function.update_of_ne hne] at hy
        exact hnew other y hy

/-- What holds between the calls: besides, the number of the next line of the open file is
    right, as far as the numbers go. -/
structure LogInv (calls : List (LogCall π)) (s : FileLogger τ ν π) : Prop where
  files : FilesOk calls s.files
  active : ∀ file, s.activePrintWriter = some file → s.files file ≠ [] ∧
    ((s.files file).length < 2 ^ 31 → s.sequenceNumber = (s.files file).length)

theorem openLogFile_active {env : LogEnv τ ν}
    {log : LogEvents → Info π → FileLogger τ ν π → Option (FileLogger τ ν π)}
    {s : FileLogger τ ν π} (h : s.activePrintWriter ≠ none) : openLogFile env log s = some s := by
  unfold openLogFile
  cases hs : s.activePrintWriter with
  | none => exact absurd hs h
  | some file => rfl

theorem openLogFile_none {env : LogEnv τ ν}
    {log : LogEvents → Info π → FileLogger τ ν π → Option (FileLogger τ ν π)}
    {s : FileLogger τ ν π} (h : s.activePrintWriter = none) :
    openLogFile env log s =
      log .fullFilename (.text (env.path (env.fileName (env.now s.nows)))) (s.create env) := by
  simp only [openLogFile, h, mAppVersion]

/-- A file that is not too old stays open. -/
theorem checkAge_young {env : LogEnv τ ν} {s : FileLogger τ ν π}
    (h : s.nanoTickLogStarted = 0 ∨
      env.expired (env.nanoTime s.nanos - s.nanoTickLogStarted) = false)
    (hs : s.activePrintWriter ≠ none) (now : τ) :
    checkAge env now s =
      { s with nanos := if s.nanoTickLogStarted = 0 then s.nanos else s.nanos + 1 } := by
  unfold checkAge
  cases hf : s.activePrintWriter with
  | none => exact absurd hf hs
  | some file =>
      simp only
      by_cases hzero : s.nanoTickLogStarted = 0
      · simp only [hzero, ne_eq, not_true_eq_false, if_false, if_true]
        rw [← hzero, ← hf]
      · rw [if_pos hzero, h.resolve_left hzero, if_neg hzero, ← hf]
        rfl

/-- If the file stays open, nothing was written to it. -/
theorem checkAge_open {env : LogEnv τ ν} {s : FileLogger τ ν π} {now : τ}
    (h : (checkAge env now s).activePrintWriter ≠ none) :
    (checkAge env now s).activePrintWriter = s.activePrintWriter ∧
      (checkAge env now s).files = s.files := by
  unfold checkAge at h ⊢
  split at h
  · exact ⟨rfl, rfl⟩
  · split at h
    · simp only at h
      split at h
      · exact absurd rfl h
      · rename_i file hs hstart hold
        simp only [if_pos hstart, if_neg hold]
        exact ⟨trivial, trivial⟩
    · rename_i file hs hstart
      simp only [if_neg hstart]
      exact ⟨trivial, trivial⟩

/-- A file is opened and gets its first line. -/
theorem openLogFile_eq {env : LogEnv τ ν} {s : FileLogger τ ν π}
    (hs : s.activePrintWriter = none) (hok : OpenOk env s) (depth : Nat) :
    openLogFile env (logEvent env (depth + 1) none) s = some (opened env s) := by
  have hnew : (s.create env).activePrintWriter ≠ none := by
    simp only [FileLogger.create, ne_eq, reduceCtorEq, not_false_eq_true]
  -- The line is written by the function that opened the file, and finds it open and new.
  have hage := checkAge_young (s := { s.create env with nows := (s.create env).nows + 1 }) hok.2
    hnew (env.now (s.create env).nows)
  rw [openLogFile_none hs, logEvent, openLogFile_active hnew]
  simp only
  rw [hage, openLogFile_active (by exact hnew)]
  simp only [writeRecord, FileLogger.create, FileLogger.append, opened, Function.update_self,
    Function.update_idem, List.nil_append, Option.some.injEq, FileLogger.mk.injEq, true_and,
    and_true]
  exact ⟨rfl, rfl⟩

/-- Opening a file that can be opened keeps what holds. -/
theorem logInv_opened {env : LogEnv τ ν} {calls : List (LogCall π)} {s : FileLogger τ ν π}
    (h : FilesOk calls s.files) (hok : OpenOk env s) : LogInv calls (opened env s) := by
  refine ⟨filesOk_create h hok.1 rfl rfl rfl, fun file hf => ?_⟩
  have heq : env.fileName (env.now s.nows) = file := by
    simpa only [opened, Option.some.injEq] using hf
  subst heq
  simp only [opened, Function.update_self]
  exact ⟨List.cons_ne_nil _ _, fun _ => rfl⟩

/-- So does the check of the age of a file that has a number left. -/
theorem logInv_checkAge {env : LogEnv τ ν} {calls : List (LogCall π)} {s : FileLogger τ ν π}
    (h : LogInv calls s)
    (hroom : ∀ file ∈ s.activePrintWriter, (s.files file).length < 2 ^ 31) (now : τ) :
    LogInv calls (checkAge env now s) := by
  unfold checkAge
  split
  · exact h
  · rename_i file hs
    split
    · simp only
      split
      · rcases h.active file hs with ⟨hne, hseq⟩
        refine ⟨filesOk_own h.files hne (hseq (hroom file hs)) rfl, fun f hf => ?_⟩
        simp only [reduceCtorEq] at hf
      · exact ⟨h.files, h.active⟩
    · exact h

/-- The logger when the line of an event is about to be written, and the time on the line. -/
def settled (env : LogEnv τ ν) (s : FileLogger τ ν π) : τ × FileLogger τ ν π :=
  let s := if s.activePrintWriter = none then opened env s else s
  let now := env.now s.nows
  let t := checkAge env now { s with nows := s.nows + 1 }
  (now, if t.activePrintWriter = none then opened env t else t)

/-- An event that can be logged without loss, without the recursion. -/
theorem logEvent_eq {env : LogEnv τ ν} {s : FileLogger τ ν π} (hok : CallOk env s) {depth : Nat}
    (hd : 2 ≤ depth) (call : Option Nat) (event : LogEvents) (info : Info π) :
    logEvent env depth call event info s =
      writeRecord call event info (settled env s).1 (settled env s).2 := by
  obtain ⟨d, rfl⟩ : ∃ d, depth = d + 2 := ⟨depth - 2, by omega⟩
  -- The file that is open after the first look, and after its age was checked.
  have hfirst : openLogFile env (logEvent env (d + 1) none) s =
      some (if s.activePrintWriter = none then opened env s else s) := by
    by_cases hs : s.activePrintWriter = none
    · rw [if_pos hs]
      exact openLogFile_eq hs (hok.1 hs).1 d
    · rw [if_neg hs]
      exact openLogFile_active hs
  have hage : AgeOk env (if s.activePrintWriter = none then opened env s else s) := by
    by_cases hs : s.activePrintWriter = none
    · rw [if_pos hs]
      exact (hok.1 hs).2
    · rw [if_neg hs]
      exact hok.2 hs
  rw [logEvent, hfirst]
  simp only [settled]
  by_cases ht : (checkAge env
      (env.now (if s.activePrintWriter = none then opened env s else s).nows)
      { (if s.activePrintWriter = none then opened env s else s) with
        nows := (if s.activePrintWriter = none then opened env s else s).nows + 1
        }).activePrintWriter = none
  · rw [openLogFile_eq ht (hage.2 ht) d, if_pos ht]
  · rw [openLogFile_active ht, if_neg ht]

/-- The logger is then ready: what holds holds, a file is open, and it has a number left. -/
theorem logInv_settled {env : LogEnv τ ν} {calls : List (LogCall π)} {s : FileLogger τ ν π}
    (h : LogInv calls s) (hok : CallOk env s) :
    LogInv calls (settled env s).2 ∧
      ∃ file, (settled env s).2.activePrintWriter = some file ∧
        ((settled env s).2.files file).length < 2 ^ 31 := by
  -- The file that is open after the first look.
  have hfirst : LogInv calls (if s.activePrintWriter = none then opened env s else s) ∧
      AgeOk env (if s.activePrintWriter = none then opened env s else s) := by
    by_cases hs : s.activePrintWriter = none
    · rw [if_pos hs]
      exact ⟨logInv_opened h.files (hok.1 hs).1, (hok.1 hs).2⟩
    · rw [if_neg hs]
      exact ⟨h, hok.2 hs⟩
  simp only [settled]
  generalize (if s.activePrintWriter = none then opened env s else s) = u at hfirst
  rcases hfirst with ⟨hinv, hage⟩
  have hchecked : LogInv calls (checkAge env (env.now u.nows) { u with nows := u.nows + 1 }) :=
    logInv_checkAge (s := { u with nows := u.nows + 1 }) ⟨hinv.files, hinv.active⟩ hage.1 _
  by_cases ht : (checkAge env (env.now u.nows) { u with nows := u.nows + 1 }).activePrintWriter =
      none
  · rw [if_pos ht]
    refine ⟨logInv_opened hchecked.files (hage.2 ht), _, rfl, ?_⟩
    simp only [opened, Function.update_self, List.length_singleton]
    decide
  · rw [if_neg ht]
    rcases checkAge_open ht with ⟨hact, hfiles⟩
    refine ⟨hchecked, ?_⟩
    rw [hfiles, hact]
    rw [hact] at ht
    cases hf : u.activePrintWriter with
    | none => exact absurd hf ht
    | some file => exact ⟨file, rfl, hage.1 file (by rw [hf]; rfl)⟩

/-- Writing a line keeps what holds of the open file. -/
theorem active_writeRecord {s t : FileLogger τ ν π} {file : ν} {call : Option Nat}
    {event : LogEvents} {info : Info π} {now : τ} (hs : s.activePrintWriter = some file)
    (hseq : s.sequenceNumber = (s.files file).length)
    (ht : writeRecord call event info now s = some t) :
    t.files = Function.update s.files file
        (s.files file ++ [⟨s.sequenceNumber, now, event, info, call⟩]) ∧
      ∀ f, t.activePrintWriter = some f → t.files f ≠ [] ∧
        ((t.files f).length < 2 ^ 31 → t.sequenceNumber = (t.files f).length) := by
  simp only [writeRecord, hs, FileLogger.append, Option.some.injEq] at ht
  subst ht
  refine ⟨rfl, fun f hf => ?_⟩
  simp only [Option.some.injEq] at hf
  subst hf
  simp only [Function.update_self]
  refine ⟨List.append_ne_nil_of_right_ne_nil _ (List.cons_ne_nil _ _), fun hlt => ?_⟩
  rw [List.length_append, List.length_singleton] at hlt ⊢
  rw [hseq, Int.bmod_eq_of_le (by omega) (by omega)]
  rfl

/-- A call that loses nothing succeeds and keeps what holds. -/
theorem logStep_spec {env : LogEnv τ ν} {depth : Nat} (hd : 2 ≤ depth) {s : FileLogger τ ν π}
    {c : LogCall π} (hok : LogCallOk env s c) (h : LogInv s.made s) :
    ∃ t, logStep env depth s c = some t ∧ LogInv t.made t := by
  have hwrite : CallOk env s → ∀ call event info, ∃ file v now,
      logEvent env depth call event info s = some v ∧
      v.files = Function.update (settled env s).2.files file
        ((settled env s).2.files file ++
          [⟨((settled env s).2.files file).length, now, event, info, call⟩]) ∧
      (settled env s).2.files file ≠ [] ∧ FilesOk s.made (settled env s).2.files ∧
      ∀ f, v.activePrintWriter = some f → v.files f ≠ [] ∧
        ((v.files f).length < 2 ^ 31 → v.sequenceNumber = (v.files f).length) := by
    intro hs call event info
    rcases logInv_settled h hs with ⟨hset, file, hfile, hroom⟩
    rcases hset.active file hfile with ⟨hne, hseq⟩
    rw [logEvent_eq hs hd]
    cases hv : writeRecord call event info (settled env s).1 (settled env s).2 with
    | none => simp only [writeRecord, hfile, reduceCtorEq] at hv
    | some v =>
        rcases active_writeRecord hfile (hseq hroom) hv with ⟨hfiles, hact⟩
        rw [hseq hroom] at hfiles
        exact ⟨file, v, _, rfl, hfiles, hne, hset.files, hact⟩
  cases c with
  | logEvent event info =>
      rcases hwrite hok (some s.made.length) event info with
        ⟨file, v, now, hv, hfiles, hne, hset, hact⟩
      refine ⟨{ v with made := s.made ++ [.logEvent event info] }, ?_, ⟨?_, hact⟩⟩
      · simp only [logStep, hv, Option.map_some]
      · simp only [hfiles]
        exact filesOk_call (r := ⟨((settled env s).2.files file).length, now, event, info,
          some s.made.length⟩) hset hne rfl rfl
  | closeLogFile reason =>
      -- A call that logs no event leaves nothing to be found.
      have hnone : ∀ files : ν → List (LogRecord τ π), FilesOk s.made files →
          FilesOk (s.made ++ [.closeLogFile reason]) files := by
        intro files hfiles
        refine ⟨⟨fun i event info hi => ?_, hfiles.numbered, hfiles.headed⟩, fun f x hx i hi => ?_⟩
        · by_cases hlt : i < s.made.length
          · rw [List.getElem?_append_left hlt] at hi
            exact hfiles.once i event info hi
          · rw [List.getElem?_append_right (Nat.le_of_not_lt hlt)] at hi
            have hmem := List.mem_of_getElem? hi
            simp only [List.mem_singleton, reduceCtorEq] at hmem
        · rw [List.length_append]
          exact Nat.lt_of_lt_of_le (hfiles.fresh f x hx i hi) (Nat.le_add_right _ _)
      cases hs : s.activePrintWriter with
      | none =>
          refine ⟨{ s with made := s.made ++ [.closeLogFile reason] }, ?_,
            ⟨hnone _ h.files, h.active⟩⟩
          simp only [logStep, closeLogFile, hs, Option.map_some]
      | some f =>
          have hopen : s.activePrintWriter ≠ none := by
            rw [hs]
            simp only [ne_eq, reduceCtorEq, not_false_eq_true]
          rcases hwrite (hok hopen) none .closingFile (.text reason) with
            ⟨file, v, now, hv, hfiles, hne, hset, -⟩
          refine ⟨{ v with
            activePrintWriter := none
            made := s.made ++ [.closeLogFile reason] }, ?_, ⟨?_, fun g hg => ?_⟩⟩
          · simp only [logStep, closeLogFile, hs, hv, Option.map_some]
          · simp only [hfiles]
            exact hnone _ (filesOk_own hset hne rfl rfl)
          · simp only [reduceCtorEq] at hg

/-- The calls are noted in their order. -/
theorem made_of_run {env : LogEnv τ ν} {depth : Nat} {calls : List (LogCall π)}
    {s t : FileLogger τ ν π} (h : run (logStep env depth) s calls = some t) :
    t.made = s.made ++ calls := by
  induction calls generalizing s with
  | nil =>
      rw [run, Option.some.injEq] at h
      rw [← h, List.append_nil]
  | cons c calls ih =>
      rw [run] at h
      split at h
      · exact absurd h (by simp only [reduceCtorEq, not_false_eq_true])
      · rename_i u hu
        rcases Option.map_eq_some_iff.mp hu with ⟨v, -, rfl⟩
        rw [ih h, List.append_assoc, List.singleton_append]

/-- A log whose calls all lose nothing is complete once it is closed. -/
theorem log_complete {env : LogEnv τ ν} {depth : Nat} (hd : 2 ≤ depth) {calls : List (LogCall π)}
    {reason : String}
    (hok : Along (logStep env depth) (LogCallOk env) FileLogger.init
      (calls ++ [.closeLogFile reason])) :
    ∃ t, run (logStep env depth) FileLogger.init (calls ++ [.closeLogFile reason]) = some t ∧
      Complete (calls ++ [.closeLogFile reason]) t.files := by
  have hinit : LogInv ([] : List (LogCall π)) (FileLogger.init : FileLogger τ ν π) := by
    refine ⟨⟨⟨fun i event info hi => ?_, fun file k r hr => ?_, fun file r hr => ?_⟩,
      fun file r hr => ?_⟩, fun file hf => ?_⟩
    · simp only [List.getElem?_nil, reduceCtorEq] at hi
    · simp only [FileLogger.init, List.getElem?_nil, reduceCtorEq] at hr
    · simp only [FileLogger.init, List.head?_nil, reduceCtorEq] at hr
    · exact absurd hr List.not_mem_nil
    · simp only [FileLogger.init, reduceCtorEq] at hf
  -- Every call keeps the invariant and succeeds, so the run does.
  rcases run_succeeds_along (logStep env depth) (LogCallOk env) (fun s => LogInv s.made s)
    (fun s c hc hs => logStep_spec hd hc hs) _ _ hok hinit with ⟨t, hrun, hinv⟩
  refine ⟨t, hrun, ?_⟩
  have hmade : t.made = calls ++ [.closeLogFile reason] := made_of_run hrun
  rw [hmade] at hinv
  exact hinv.files.toComplete

end Model

/-- A clock that moves on by a second with each reading, and one that counts hours. -/
def tickingClock : LogEnv Nat Nat where
  now k := 1000 * k
  nanoTime k := 1 + 3600000000000 * k
  fileName t := t / 1000
  path _ := "log.csv"
  expired d := 14400000000000 < d

/-- An event, and three more after the log was closed. -/
def spreadCalls : List (LogCall Unit) :=
  [.logEvent .vin (.text "a"), .closeLogFile "b", .logEvent .gps (.position ()),
    .logEvent .vin (.text "c"), .logEvent .vin (.text "d")]

/-- The events are in two files. When the log is closed the second is too old, so a third is
    opened to note that. -/
theorem log_complete_spread :
    ∃ t, run (logStep tickingClock 2) FileLogger.init (spreadCalls ++ [.closeLogFile "e"]) =
        some t ∧
      Complete (spreadCalls ++ [.closeLogFile "e"]) t.files := by
  have hok := along_of_check (logStep tickingClock 2)
    (fun s c => decide (LogCallOk tickingClock s c)) (spreadCalls ++ [.closeLogFile "e"])
    FileLogger.init (by decide)
  simp only [decide_eq_true_eq] at hok
  exact log_complete (Nat.le_refl 2) hok

/-- Clocks that stand still, with files named after the second of a minute. -/
def stillClock : LogEnv Nat (Fin 60) where
  now _ := 5000
  nanoTime _ := 1
  fileName t := Fin.ofNat 60 (t / 1000)
  path _ := "log.csv"
  expired d := 14400000000000 < d

/-- Two events within a second, with the log closed between them. -/
def hastyCalls : List (LogCall Unit) :=
  [.logEvent .vin (.text "a"), .closeLogFile "b", .logEvent .vin (.text "c")]

/-- The second file has the name of the first, so the first event is gone. -/
theorem event_lost :
    ¬ ∀ (env : LogEnv Nat (Fin 60)) (calls : List (LogCall Unit)) (reason : String), ∃ depth t,
      run (logStep env depth) FileLogger.init (calls ++ [.closeLogFile reason]) = some t ∧
        Complete (calls ++ [.closeLogFile reason]) t.files := by
  intro hall
  rcases hall stillClock hastyCalls "d" with ⟨depth, t, hrun, hcomplete⟩
  -- Two calls are as deep as it goes, and with fewer there is no log.
  have htwo : run (logStep stillClock 2) FileLogger.init (hastyCalls ++ [.closeLogFile "d"]) =
      some t := by
    match depth, hrun with
    | 0, hrun => exact absurd hrun nofun
    | 1, hrun => exact absurd hrun nofun
    | d + 2, hrun => exact hrun
  have hnone : ∀ file, (run (logStep stillClock 2) FileLogger.init
      (hastyCalls ++ [.closeLogFile "d"])).map
        (fun t => (t.files file).filter (fun r => r.call = some 0)) = some [] := by
    decide
  rcases hcomplete.once 0 .vin (.text "a") rfl with ⟨file, r, hr, -⟩
  have hfile := hnone file
  rw [htwo, Option.map_some, Option.some.injEq, hr] at hfile
  exact absurd hfile (List.cons_ne_nil _ _)

end Iso21177
