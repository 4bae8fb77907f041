import Iso21177.Lib.Packet

/-!
# Reading HTTP Headers

`HttpHeaders` collects the header lines of a reply from chunks as they arrive. A line ends
at a line feed, carriage returns are dropped, and an empty line ends the header: `add_data`
then hands back the rest of the chunk. The header is complete once an empty line was seen
and there is a header line.

These two conditions are kept apart, and that makes the parser depend on the chunks. An
empty line before any header line does not complete the header, but it ends the chunk, and
what the chunk still held is gone. `chunking_iff` says for which streams this matters:
those that start with an empty line and have a line with something in it behind that.

## Main definitions

* `HttpHeaders`, `addData`, `isComplete`: The parser.
* `feed`: Chunks are fed until the header is complete.
* `tolower`, `iequals`, `split`, `SplitEnds`, `stoi`: Texts.
* `NoReturn`: How a call does not return.
* `getReplyProtocol`, `getReplyStatus`, `getContentLength`: Fields of the header.
* `outcome`: How the feeding ends.
* `blankFirst`, `Lineless`: The stream starts with an empty line, and has nothing else.
* `ChunkSafe`: The stream has no line that chunks could hide.
* `afterBlankLine`: What follows the first empty line of a stream.
* `Started`, `NoLine`: Where the parser is in its stream.

## Theorems

* `addData_append`: Feeding two chunks as one.
* `blankFirst_cr`, `blankFirst_lf`, `not_blankFirst`, `addData_blankFirst`: An empty line at
  the start.
* `started_addData`, `feed_of_isComplete`, `isComplete_of_not_flag`, `feed_started`: A stream
  that does not start with an empty line.
* `lineless_of_sublist`, `noLine_addData`, `feed_noLine`: A stream that has no line at all.
* `not_lineless_cons`, `feed_singles`: Octets fed one by one.
* `chunking_iff`, `chunking_dependent`: When the chunks do not matter.
* `addData_afterBlankLine`: The surplus is what follows the empty line.
-/

namespace Iso21177

open Packet

/-- A line feed. -/
def lf : UInt8 := 10

/-- A carriage return. -/
def cr : UInt8 := 13

/-- What can be thrown: a text, or one of the exceptions of `std::stoi`. -/
inductive Thrown
  | text (s : String)
  | invalidArgument
  | outOfRange
  deriving DecidableEq

/-- How a call does not return: it throws, or it goes on without an end. -/
inductive NoReturn
  | thrown (e : Thrown)
  | endless
  deriving DecidableEq

/-- The parser of header lines. -/
structure HttpHeaders where
  headerlines : List Bytes
  line : Bytes
  hdrIsComplete : Bool
  deriving DecidableEq

namespace HttpHeaders

/-- `clear`, which the constructor calls. -/
def clear : HttpHeaders := ⟨[], [], false⟩

/-- `add_data`. The octets behind an empty line are handed back. -/
def addData (h : HttpHeaders) : Bytes → HttpHeaders × Bytes
  | [] => (h, [])
  | b :: bs =>
    if b = lf then
      if h.line = [] then ({ h with hdrIsComplete := true }, bs)
      else addData { h with headerlines := h.headerlines ++ [h.line], line := [] } bs
    else if b = cr then addData h bs
    else addData { h with line := h.line ++ [b] } bs

/-- `is_complete`. -/
def isComplete (h : HttpHeaders) : Bool := !h.headerlines.isEmpty && h.hdrIsComplete

/-- `tolower`. -/
def tolower (b : UInt8) : UInt8 := if 65 ≤ b ∧ b ≤ 90 then b + 32 else b

/-- `iequals`. -/
def iequals (a b : Bytes) : Bool := a.map tolower = b.map tolower

/-- `split`, with the part so far. A separator at the end starts no further part. -/
def splitFrom (delims : Bytes) (part : Bytes) : Bytes → List Bytes
  | [] => if part = [] then [] else [part]
  | b :: bs =>
    if b ∈ delims then part :: splitFrom delims [] bs else splitFrom delims (part ++ [b]) bs

def split (str delims : Bytes) : List Bytes := splitFrom delims [] str

def splitOnSpace (str : Bytes) : List Bytes := split str [32]

/-- The index of `split` has 32 bits. It reaches the end of the text: it is short enough, or
    the last octet is a separator and it is shorter than 2^32. -/
def SplitEnds (str delims : Bytes) : Prop :=
  str.length < 2 ^ 32 - 1 ∨
    str.length = 2 ^ 32 - 1 ∧ str.getD (str.length - 1) 0 ∈ delims

instance (str delims : Bytes) : Decidable (SplitEnds str delims) :=
  inferInstanceAs (Decidable (_ ∨ _))

/-- `isspace`. -/
def isspace (b : UInt8) : Bool := b = 32 || (9 ≤ b && b ≤ 13)

def isdigit (b : UInt8) : Bool := 48 ≤ b && b ≤ 57

/-- `std::stoi`: white space, a sign, digits, and anything behind them. -/
def stoi (str : Bytes) : Except NoReturn Int :=
  let str := str.dropWhile isspace
  let negative := str.head? = some 45
  let digits := (if negative || str.head? = some 43 then str.tail else str).takeWhile isdigit
  if digits = [] then .error (.thrown .invalidArgument)
  else
    let n : Int := digits.foldl (fun n b => 10 * n + (b.toNat - 48)) 0
    let n := if negative then -n else n
    if n < -2 ^ 31 ∨ 2 ^ 31 ≤ n then .error (.thrown .outOfRange) else .ok n

/-- The words of the first line of a reply, of which there have to be two. A line too long
    for the index of `split` has none. -/
def replyParts (h : HttpHeaders) : Except NoReturn (Bytes × Bytes) :=
  if !h.isComplete then .error (.thrown (.text "Header is not complete"))
  else if ¬ SplitEnds (h.headerlines.headD []) [32] then .error .endless
  else
    match splitOnSpace (h.headerlines.headD []) with
    | protocol :: status :: _ => .ok (protocol, status)
    | _ => .error (.thrown (.text "First header line does not have 2 or more components"))

/-- `get_reply_protocol`. -/
def getReplyProtocol (h : HttpHeaders) : Except NoReturn Bytes := h.replyParts.map Prod.fst

/-- `get_reply_status`. -/
def getReplyStatus (h : HttpHeaders) : Except NoReturn Int :=
  match h.replyParts with
  | .error e => .error e
  | .ok (_, status) => stoi status

/-- The octets of `Content-Length:`. -/
def contentLengthTag : Bytes :=
  [67, 111, 110, 116, 101, 110, 116, 45, 76, 101, 110, 103, 116, 104, 58]

/-- `get_content_length`. The first line with the tag counts. -/
def getContentLength (h : HttpHeaders) : Except NoReturn Int :=
  match h.headerlines.find?
      (fun l => iequals contentLengthTag (l.take contentLengthTag.length)) with
  | none => .ok (-1)
  | some l => stoi (l.drop contentLengthTag.length)

/-- The loop that feeds chunks to a parser until it is complete, and keeps what the last call
    handed back. -/
def feed (h : HttpHeaders) (remaining : Bytes) : List Bytes → HttpHeaders × Bytes × List Bytes
  | [] => (h, remaining, [])
  | c :: cs =>
    if h.isComplete then (h, remaining, c :: cs)
    else feed (h.addData c).1 (h.addData c).2 cs

end HttpHeaders

open HttpHeaders

/-- How feeding the chunks ends: the header lines, whether they are complete, and the body
    if they are. -/
def outcome (chunks : List Bytes) : List Bytes × Bool × Option Bytes :=
  let r := feed clear [] chunks
  (r.1.headerlines, r.1.isComplete, if r.1.isComplete then some (r.2.1 ++ r.2.2.flatten) else none)

/-- The first line feed of the stream has nothing but carriage returns before it. -/
def blankFirst (S : Bytes) : Prop := (S.dropWhile (· = cr)).head? = some lf

instance (S : Bytes) : Decidable (blankFirst S) := inferInstanceAs (Decidable (_ = _))

/-- No octet of a text is followed by a line feed. -/
def Lineless (S : Bytes) : Prop := ∀ b, b ≠ cr → b ≠ lf → ¬ List.Sublist [b, lf] S

/-- The stream does not start with an empty line, or has nothing but empty lines. -/
def ChunkSafe (S : Bytes) : Prop := blankFirst S → Lineless S

/-- What follows the first empty line, if the line so far is empty or not. -/
def afterBlankLine : Bytes → Bool → Option Bytes
  | [], _ => none
  | b :: bs, blank =>
    if b = lf then if blank then some bs else afterBlankLine bs true
    else afterBlankLine bs (blank && b = cr)

/-- Feeding two chunks as one, if the first does not end the header. -/
theorem addData_append {h : HttpHeaders} (hf : h.hdrIsComplete = false) (c d : Bytes) :
    h.addData (c ++ d) =
      if (h.addData c).1.hdrIsComplete then ((h.addData c).1, (h.addData c).2 ++ d)
      else (h.addData c).1.addData d := by
  induction c generalizing h with
  | nil => simp only [List.nil_append, addData, hf, Bool.false_eq_true, if_false]
  -- Up to a blank line both sides take the same octet in the same way.
  | cons b bs ih =>
      rw [List.cons_append, addData, addData]
      by_cases hb : b = lf
      · rw [if_pos hb, if_pos hb]
        by_cases hl : h.line = []
        · simp only [if_pos hl, if_true]
        · rw [if_neg hl, if_neg hl]
          exact ih hf
      · rw [if_neg hb, if_neg hb]
        by_cases hc : b = cr
        · rw [if_pos hc, if_pos hc]
          exact ih hf
        · rw [if_neg hc, if_neg hc]
          exact ih hf

theorem blankFirst_cr {S : Bytes} : blankFirst (cr :: S) ↔ blankFirst S := by
  unfold blankFirst
  rw [List.dropWhile_cons_of_pos (by decide)]

theorem blankFirst_lf (S : Bytes) : blankFirst (lf :: S) := by
  unfold blankFirst
  rw [List.dropWhile_cons_of_neg (by decide), List.head?_cons]

theorem not_blankFirst {b : UInt8} {S : Bytes} (hb : b ≠ lf) (hc : b ≠ cr) :
    ¬ blankFirst (b :: S) := by
  unfold blankFirst
  rw [List.dropWhile_cons_of_neg (by simp only [hc, decide_false, Bool.false_eq_true,
    not_false_eq_true]), List.head?_cons, Option.some.injEq]
  exact hb

/-- The parser is inside the header of a stream that does not start with an empty line. -/
def Started (h : HttpHeaders) (S : Bytes) : Prop :=
  h.hdrIsComplete = false ∧ (h.headerlines = [] → h.line = [] → ¬ blankFirst S)

/-- A chunk of such a stream either completes the header, which then has a line, or leaves
    the parser inside it. -/
theorem started_addData {h : HttpHeaders} {c d : Bytes} (hs : Started h (c ++ d)) :
    ((h.addData c).1.hdrIsComplete = true → (h.addData c).1.headerlines ≠ []) ∧
      ((h.addData c).1.hdrIsComplete = false → Started (h.addData c).1 d) := by
  -- The parser changes with every octet, so the induction is on the chunk.
  induction c generalizing h with
  | nil =>
      refine ⟨fun hflag => ?_, fun _ => hs⟩
      rw [addData, hs.1] at hflag
      exact absurd hflag (by decide)
  | cons b bs ih =>
      rw [List.cons_append] at hs
      rw [addData]
      by_cases hb : b = lf
      · subst hb
        rw [if_pos rfl]
        by_cases hl : h.line = []
        · -- An empty line completes the header. Without lines before it the stream would
          -- start with it.
          rw [if_pos hl]
          refine ⟨fun _ hnil => hs.2 hnil hl (blankFirst_lf _), fun hflag => ?_⟩
          exact absurd hflag (by simp only [Bool.true_eq_false, not_false_eq_true])
        · rw [if_neg hl]
          -- From here on there is a line.
          refine ih ⟨hs.1, fun hnil => ?_⟩
          exact absurd hnil (by simp only [List.append_eq_nil_iff, List.cons_ne_self, and_false,
            not_false_eq_true])
      · rw [if_neg hb]
        by_cases hc : b = cr
        · -- A carriage return is dropped, here and in front of an empty line.
          subst hc
          rw [if_pos rfl]
          exact ih ⟨hs.1, fun hnil hl hblank => hs.2 hnil hl (blankFirst_cr.mpr hblank)⟩
        · rw [if_neg hc]
          -- From here on the current line is not empty.
          refine ih ⟨hs.1, fun _ hl => ?_⟩
          exact absurd hl (by simp only [List.append_eq_nil_iff, List.cons_ne_self, and_false,
            not_false_eq_true])

theorem feed_of_isComplete {h : HttpHeaders} (hc : h.isComplete = true) (remaining : Bytes)
    (cs : List Bytes) : feed h remaining cs = (h, remaining, cs) := by
  cases cs with
  | nil => rfl
  | cons c cs => rw [feed, if_pos hc]

theorem isComplete_of_not_flag {h : HttpHeaders} (hf : h.hdrIsComplete = false) :
    h.isComplete = false := by
  rw [isComplete, hf, Bool.and_false]

/-- The chunks of such a stream are parsed like the stream. -/
theorem feed_started {h : HttpHeaders} (remaining : Bytes) {cs : List Bytes}
    (hs : Started h cs.flatten) :
    (feed h remaining cs).1 = (h.addData cs.flatten).1 ∧
      ((feed h remaining cs).1.isComplete = true →
        (feed h remaining cs).2.1 ++ (feed h remaining cs).2.2.flatten =
          (h.addData cs.flatten).2) := by
  induction cs generalizing h remaining with
  | nil =>
      refine ⟨rfl, fun hc => ?_⟩
      rw [feed, isComplete_of_not_flag hs.1] at hc
      exact absurd hc (by decide)
  | cons c cs ih =>
      rw [List.flatten_cons] at hs ⊢
      have hstep := started_addData hs
      rw [feed, isComplete_of_not_flag hs.1, addData_append hs.1]
      simp only [Bool.false_eq_true, if_false]
      cases hflag : (h.addData c).1.hdrIsComplete with
      | false =>
          simp only [Bool.false_eq_true, if_false]
          exact ih _ (hstep.2 hflag)
      | true =>
          -- The header has a line, so the loop sees that it is complete.
          have hc : (h.addData c).1.isComplete = true := by
            rw [isComplete, hflag, Bool.and_true, Bool.not_eq_true', List.isEmpty_eq_false_iff]
            exact hstep.1 hflag
          rw [feed_of_isComplete hc]
          exact ⟨rfl, fun _ => rfl⟩

/-- No line is ahead: what is on the line now is not ended, and nothing that comes is. -/
def NoLine (h : HttpHeaders) (S : Bytes) : Prop :=
  h.headerlines = [] ∧ (h.line ≠ [] → lf ∉ S) ∧ Lineless S

theorem lineless_of_sublist {S T : Bytes} (h : Lineless S) (hst : List.Sublist T S) :
    Lineless T :=
  fun b hc hb hsub => h b hc hb (hsub.trans hst)

theorem noLine_addData {h : HttpHeaders} {c d : Bytes} (hn : NoLine h (c ++ d)) :
    NoLine (h.addData c).1 d := by
  induction c generalizing h with
  | nil => exact hn
  | cons b bs ih =>
      rw [List.cons_append] at hn
      rcases hn with ⟨hnil, hline, hless⟩
      have hless' : Lineless (bs ++ d) := lineless_of_sublist hless (List.sublist_cons_self _ _)
      rw [addData]
      by_cases hb : b = lf
      · subst hb
        rw [if_pos rfl]
        by_cases hl : h.line = []
        · rw [if_pos hl]
          exact ⟨hnil, fun hne => absurd hl hne,
            lineless_of_sublist hless' (List.sublist_append_right bs d)⟩
        · -- A line feed behind a begun line would complete it.
          exact absurd (List.mem_cons_self ..) (hline hl)
      · rw [if_neg hb]
        by_cases hc : b = cr
        · rw [if_pos hc]
          exact ih ⟨hnil, fun hl hmem => hline hl (List.mem_cons_of_mem b hmem), hless'⟩
        · rw [if_neg hc]
          refine ih ⟨hnil, fun _ hmem => hless b hc hb ?_, hless'⟩
          exact List.Sublist.cons_cons b (List.singleton_sublist.mpr hmem)

theorem feed_noLine {h : HttpHeaders} (remaining : Bytes) {cs : List Bytes}
    (hn : NoLine h cs.flatten) : (feed h remaining cs).1.headerlines = [] := by
  induction cs generalizing h remaining with
  | nil => exact hn.1
  | cons c cs ih =>
      rw [List.flatten_cons] at hn
      rw [feed]
      split
      · exact hn.1
      · exact ih _ (noLine_addData hn)

/-- An empty line at the start ends the chunk. -/
theorem addData_blankFirst {h : HttpHeaders} (hl : h.line = []) {S : Bytes} (hb : blankFirst S) :
    (h.addData S).1 = { h with hdrIsComplete := true } := by
  induction S with
  | nil => exact absurd hb (by decide)
  | cons b bs ih =>
      rw [addData]
      by_cases hlf : b = lf
      · rw [if_pos hlf, if_pos hl]
      · rw [if_neg hlf]
        by_cases hc : b = cr
        · subst hc
          rw [if_pos rfl]
          exact ih (blankFirst_cr.mp hb)
        · exact absurd hb (not_blankFirst hlf hc)

/-- A line is in the rest, or ends there after the first octet. -/
theorem not_lineless_cons {b : UInt8} {bs : Bytes} (h : ¬ Lineless (b :: bs)) :
    ¬ Lineless bs ∨ (b ≠ cr ∧ b ≠ lf ∧ lf ∈ bs) := by
  by_contra hno
  rw [not_or, not_not] at hno
  refine h (fun x hxc hxl hsub => ?_)
  rcases List.sublist_cons_iff.mp hsub with hsub | ⟨r, hr, hsub⟩
  · exact hno.1 x hxc hxl hsub
  · rw [List.cons.injEq] at hr
    rw [← hr.2, List.singleton_sublist] at hsub
    exact hno.2 ⟨hr.1 ▸ hxc, hr.1 ▸ hxl, hsub⟩

/-- Octets fed one by one lose nothing to an empty line, so a line behind it completes the
    header. -/
theorem feed_singles {h : HttpHeaders} (remaining : Bytes) {S : Bytes}
    (hnil : h.headerlines = [])
    (hflag : h.hdrIsComplete = true ∨ (h.line = [] ∧ blankFirst S))
    (hline : (h.line ≠ [] ∧ lf ∈ S) ∨ ¬ Lineless S) :
    (feed h remaining (S.map (fun b => [b]))).1.isComplete = true := by
  -- The flag stays set while the octets of a line come in, and the end of the line then
  -- completes the header.
  induction S generalizing h remaining with
  | nil =>
      rcases hline with ⟨-, hmem⟩ | hless
      · exact absurd hmem List.not_mem_nil
      · refine absurd (fun b _ _ hsub => ?_) hless
        exact absurd (List.sublist_nil.mp hsub) (List.cons_ne_nil _ _)
  | cons b bs ih =>
      have hnot : h.isComplete = false := by
        rw [isComplete, hnil, List.isEmpty_nil, Bool.not_true, Bool.false_and]
      rw [List.map_cons, feed, hnot]
      simp only [Bool.false_eq_true, if_false, addData]
      by_cases hb : b = lf
      · simp only [if_pos hb]
        by_cases hl : h.line = []
        · simp only [if_pos hl]
          refine ih _ hnil (Or.inl rfl) (Or.inr ?_)
          rcases hline with ⟨hne, -⟩ | hless
          · exact absurd hl hne
          · rcases not_lineless_cons hless with hless | ⟨-, hne, -⟩
            · exact hless
            · exact absurd hb hne
        · simp only [if_neg hl]
          have hset : h.hdrIsComplete = true := by
            rcases hflag with hset | ⟨hl', -⟩
            · exact hset
            · exact absurd hl' hl
          -- The line that ends here is the first one, behind an empty line.
          rw [feed_of_isComplete (by rw [isComplete, hset, hnil]; rfl)]
          rw [isComplete, hset, hnil]
          rfl
      · simp only [if_neg hb]
        have hmem : lf ∈ b :: bs → lf ∈ bs := by
          intro hmem
          rcases List.mem_cons.mp hmem with heq | hmem
          · exact absurd heq.symm hb
          · exact hmem
        by_cases hc : b = cr
        · simp only [if_pos hc]
          refine ih _ hnil ?_ ?_
          · rcases hflag with hset | ⟨hl, hblank⟩
            · exact Or.inl hset
            · rw [hc] at hblank
              exact Or.inr ⟨hl, blankFirst_cr.mp hblank⟩
          · rcases hline with ⟨hne, hm⟩ | hless
            · exact Or.inl ⟨hne, hmem hm⟩
            · rcases not_lineless_cons hless with hless | ⟨hne, -⟩
              · exact Or.inr hless
              · exact absurd hc hne
        · simp only [if_neg hc]
          have hset : h.hdrIsComplete = true := by
            rcases hflag with hset | ⟨-, hblank⟩
            · exact hset
            · exact absurd hblank (not_blankFirst hb hc)
          refine ih _ hnil (Or.inl hset) ?_
          have hne : h.line ++ [b] ≠ [] := by
            simp only [ne_eq, List.append_eq_nil_iff, List.cons_ne_self, and_false,
              not_false_eq_true]
          rcases hline with ⟨-, hm⟩ | hless
          · exact Or.inl ⟨hne, hmem hm⟩
          · rcases not_lineless_cons hless with hless | ⟨-, -, hm⟩
            · exact Or.inr hless
            · exact Or.inl ⟨hne, hm⟩

/-- The chunks of a stream do not matter exactly if the stream does not start with an empty
    line or has nothing but empty lines. -/
theorem chunking_iff (S : Bytes) :
    (∀ cs cs' : List Bytes, [] ∉ cs → [] ∉ cs' → cs.flatten = S → cs'.flatten = S →
      outcome cs = outcome cs') ↔ ChunkSafe S := by
  constructor
  · intro hall hblank
    by_contra hless
    have hne : S ≠ [] := by
      rintro rfl
      exact absurd hblank (by decide)
    -- In one piece the line is lost; octet by octet it is seen.
    have hsame := hall [S] (S.map (fun b => [b])) (by simpa using hne.symm)
      (by simp only [List.mem_map, List.cons_ne_self, and_false, exists_false,
        not_false_eq_true]) List.flatten_singleton (List.flatMap_singleton' S)
    have hsingles : (outcome (S.map (fun b => [b]))).2.1 = true :=
      feed_singles [] rfl (Or.inr ⟨rfl, hblank⟩) (Or.inr hless)
    have hwhole : (outcome [S]).2.1 = false := by
      have hparse : (clear.addData S).1 = { clear with hdrIsComplete := true } :=
        addData_blankFirst rfl hblank
      simp only [outcome, feed, hparse]
      rfl
    rw [← hsame, hwhole] at hsingles
    exact absurd hsingles (by decide)
  · intro hsafe cs cs' _ _ hcs hcs'
    by_cases hblank : blankFirst S
    · have hnone : ∀ c : List Bytes, c.flatten = S → outcome c = ([], false, none) := by
        intro c hc
        have hn : NoLine clear c.flatten :=
          ⟨rfl, fun hl => absurd rfl hl, by rw [hc]; exact hsafe hblank⟩
        have hlines := feed_noLine [] hn
        simp only [outcome, isComplete, hlines, List.isEmpty_nil, Bool.not_true, Bool.false_and,
          Bool.false_eq_true, if_false]
      rw [hnone cs hcs, hnone cs' hcs']
    · have hsome : ∀ c : List Bytes, c.flatten = S → outcome c =
          ((clear.addData S).1.headerlines, (clear.addData S).1.isComplete,
            if (clear.addData S).1.isComplete then some (clear.addData S).2 else none) := by
        intro c hc
        have hs : Started clear c.flatten := ⟨rfl, fun _ _ => by rw [hc]; exact hblank⟩
        rcases feed_started [] hs with ⟨hstate, hbody⟩
        rw [hc] at hstate hbody
        simp only [outcome, hstate]
        by_cases hcomp : (clear.addData S).1.isComplete = true
        · rw [if_pos hcomp, if_pos hcomp, hbody (by rw [hstate]; exact hcomp)]
        · rw [if_neg hcomp, if_neg hcomp]
      rw [hsome cs hcs, hsome cs' hcs']

/-- An empty line, then `a` and two line feeds: in one chunk the header is never complete,
    with a chunk border behind the empty line it is. -/
theorem chunking_dependent :
    ¬ ∀ (S : Bytes) (cs cs' : List Bytes), [] ∉ cs → [] ∉ cs' → cs.flatten = S →
      cs'.flatten = S → outcome cs = outcome cs' := by
  intro h
  exact absurd (h [10, 97, 10, 10] [[10, 97, 10, 10]] [[10], [97, 10, 10]] (by decide) (by decide)
    (by decide) (by decide)) (by decide)

/-- The parser hands back what follows the first empty line. -/
theorem addData_afterBlankLine {h : HttpHeaders} (hf : h.hdrIsComplete = false) (S : Bytes) :
    afterBlankLine S (h.line = []) =
      if (h.addData S).1.hdrIsComplete then some (h.addData S).2 else none := by
  -- The flag of the plain function says whether the current line is still empty.
  induction S generalizing h with
  | nil => simp only [addData, hf, Bool.false_eq_true, if_false, afterBlankLine]
  | cons b bs ih =>
      rw [afterBlankLine, addData]
      by_cases hb : b = lf
      · rw [if_pos hb, if_pos hb]
        by_cases hl : h.line = []
        · simp only [hl, decide_true, if_true]
        · simp only [hl, decide_false, Bool.false_eq_true, if_false]
          exact ih (h := { h with headerlines := h.headerlines ++ [h.line], line := [] }) hf
      · rw [if_neg hb, if_neg hb]
        by_cases hc : b = cr
        · simp only [hc, decide_true, Bool.and_true]
          exact ih hf
        · rw [if_neg hc, ← ih (h := { h with line := h.line ++ [b] }) hf]
          simp only [hc, decide_false, Bool.and_false, List.append_eq_nil_iff, List.cons_ne_self,
            and_false]

end Iso21177
