import Mathlib.Data.List.TakeWhile
import Mathlib.Data.Nat.Digits.Defs
import Iso21177.Client.Split
import Iso21177.Client.HttpGet

/-!
# The Text of a Reply

What `http_get` makes of a reply, told by the octets it reads and not by its parser.

A text has lines that are ended by a line feed, and one that is not. Carriage returns do
not belong to a line. Of each chunk the octets up to the end of the first empty line are
taken, and the header has ended when an empty line was taken and one with octets in it.
`taken_addData` is what one chunk does to the parser, and `headerReads_iff` follows the loop
for the header from chunk to chunk.

The fields of the header can be had exactly if its first line has two words, and a number
stands where one is looked for (`replyFields_ok_iff`). A first line that is too long for
the index of `split` has no words that are ever returned (`replyParts_endless_iff`).

## Main definitions

* `endedLines`, `openLine`: The lines of a text.
* `taken`, `headerText`: What is taken of a chunk, and of all of them.
* `HeaderEnded`, `headerLines`: The header, in the text that was taken.
* `decimalValue`, `Number`, `IntText`: A text with a number that an `int` holds.
* `HasTag`, `FieldsReadable`: Header lines with the fields that are asked for.
* `Unended`: The header had not ended before.
* `Taken`: Where the parser is in the text.

## Theorems

* `endedLines_nil`, `endedLines_lf`, `openLine_lf`, `splitOn_concat`, `endedLines_octet`,
  `openLine_octet`: The lines of a text that grows.
* `taken_clear`, `taken_addData`, `isComplete_iff`: The parser.
* `unended_cons`, `headerReads_iff`, `taken_headerReads`: The loop for the header.
* `foldl_digits`, `stoi_number`, `exists_digits`, `exists_number`, `stoi_ok_iff`: Numbers.
* `exists_of_split`, `replyParts_ok_iff`, `replyParts_endless_iff`, `getContentLength_ok_iff`,
  `replyFields_ok_iff`: Fields.
-/

namespace Iso21177

open Packet HttpHeaders

/-- The ended lines of a text, without their carriage returns. -/
def endedLines (t : Bytes) : List Bytes := (t.splitOn lf).dropLast.map (List.filter (· ≠ cr))

/-- What stands behind the last line feed of a text, without carriage returns. -/
def openLine (t : Bytes) : Bytes := ((t.splitOn lf).getLastD []).filter (· ≠ cr)

/-- What is taken of a chunk that comes behind a text: its octets up to a line feed that ends
    an empty line. -/
def taken (t : Bytes) : Bytes → Bytes
  | [] => []
  | b :: bs => if b = lf ∧ openLine t = [] then [b] else b :: taken (t ++ [b]) bs

/-- What is taken of all chunks that were read, behind a text. -/
def headerText (t : Bytes) (hdr : List ReadResult) : Bytes :=
  hdr.foldl (fun t r => t ++ taken t r.bytes) t

/-- The lines of a header: the lines of its text that have octets in them. -/
def headerLines (t : Bytes) : List Bytes := (endedLines t).filter (· ≠ [])

/-- An empty line was taken, and one with octets in it. -/
def HeaderEnded (t : Bytes) : Prop := [] ∈ endedLines t ∧ headerLines t ≠ []

/-- The number that digits stand for. -/
def decimalValue (digits : Bytes) : Nat :=
  Nat.ofDigits 10 (digits.reverse.map (fun b => b.toNat - 48))

/-- White space, perhaps a sign, all digits that follow, and anything behind them. -/
structure Number (spaces sign digits rest : Bytes) : Prop where
  spaces : ∀ b ∈ spaces, isspace b = true
  sign : sign = [] ∨ sign = [43] ∨ sign = [45]
  nonempty : digits ≠ []
  digits : ∀ b ∈ digits, isdigit b = true
  rest : ∀ b, rest.head? = some b → isdigit b = false

/-- A text starts with a number that an `int` holds. -/
def IntText (w : Bytes) : Prop :=
  ∃ spaces sign digits rest, w = spaces ++ (sign ++ (digits ++ rest)) ∧
    Number spaces sign digits rest ∧
    (decimalValue digits < 2 ^ 31 ∨ sign = [45] ∧ decimalValue digits = 2 ^ 31)

/-- A header line starts with `Content-Length:`, in letters of either case. -/
def HasTag (l : Bytes) : Prop :=
  (l.take contentLengthTag.length).map tolower = contentLengthTag.map tolower

/-- The first line has two words, and is short enough for `split`; the second word starts
    with a number, and so does the text behind the first `Content-Length:`. -/
def FieldsReadable (lines : List Bytes) : Prop :=
  (∃ protocol rest, lines.head? = some (protocol ++ 32 :: rest) ∧ 32 ∉ protocol ∧ rest ≠ [] ∧
    SplitEnds (protocol ++ 32 :: rest) [32] ∧ IntText (rest.takeWhile (· ≠ 32))) ∧
  ∀ before l after, lines = before ++ l :: after → (∀ x ∈ before, ¬ HasTag x) → HasTag l →
    IntText (l.drop contentLengthTag.length)

/-- Before the last of the results the header had not ended. -/
def Unended (t : Bytes) (hdr : List ReadResult) : Prop :=
  ∀ past tl, hdr = past ++ tl → tl ≠ [] → ¬ HeaderEnded (headerText t past)

/-- The parser has taken a text. -/
structure Taken (t : Bytes) (h : HttpHeaders) : Prop where
  lines : h.headerlines = headerLines t
  line : h.line = openLine t
  flag : h.hdrIsComplete = true ↔ [] ∈ endedLines t

theorem endedLines_nil : endedLines [] = [] := rfl

/-- A line feed ends the line. -/
theorem endedLines_lf (t : Bytes) : endedLines (t ++ [lf]) = endedLines t ++ [openLine t] := by
  have hlast := List.dropLast_append_getLast (List.splitOn_ne_nil lf t)
  rw [endedLines, List.splitOn_append_cons_self, List.splitOn_nil, List.dropLast_concat, endedLines,
    openLine, List.getLastD_eq_getLast?, List.getLast?_eq_some_getLast (List.splitOn_ne_nil lf t),
    Option.getD_some, ← List.map_singleton, ← List.map_append, hlast]

/-- After a line break the open line is the empty one. -/
theorem openLine_lf (t : Bytes) : openLine (t ++ [lf]) = [] := by
  rw [openLine, List.splitOn_append_cons_self, List.splitOn_nil, List.getLastD_concat]
  rfl

/-- Another octet goes to the last line. -/
theorem splitOn_concat {b : UInt8} (hb : b ≠ lf) (t : Bytes) :
    (t ++ [b]).splitOn lf = (t.splitOn lf).dropLast ++ [(t.splitOn lf).getLastD [] ++ [b]] := by
  have hone : ([b] : Bytes).splitOn lf = [[b]] :=
    List.splitOn_eq_singleton (fun h => hb (List.mem_singleton.mp h).symm)
  -- The induction is on the line feeds of the text: up to the first one nothing is split.
  induction t with
  | nil => exact hone
  | cons a t ih =>
      rcases List.exists_cons_of_ne_nil (List.splitOn_ne_nil lf t) with ⟨l, ls, hls⟩
      rw [List.cons_append, List.splitOn_cons_eq_if_modifyHead,
        List.splitOn_cons_eq_if_modifyHead, ih, hls]
      by_cases ha : a = lf
      · simp only [ha, beq_self_eq_true, if_true]
        rfl
      · have hne : (a == lf) = false := beq_eq_false_iff_ne.mpr ha
        simp only [hne, Bool.false_eq_true, if_false, List.modifyHead_cons]
        cases ls with
        | nil => rfl
        | cons l' ls => rfl

/-- Another octet ends no line. -/
theorem endedLines_octet {b : UInt8} (hb : b ≠ lf) (t : Bytes) :
    endedLines (t ++ [b]) = endedLines t := by
  rw [endedLines, splitOn_concat hb, List.dropLast_concat, endedLines]

/-- Another octet is added to the open line. -/
theorem openLine_octet {b : UInt8} (hb : b ≠ lf) (t : Bytes) :
    openLine (t ++ [b]) = if b = cr then openLine t else openLine t ++ [b] := by
  rw [openLine, splitOn_concat hb, List.getLastD_concat, List.filter_append, openLine]
  by_cases hc : b = cr
  · rw [if_pos hc, hc]
    exact List.append_nil _
  · rw [if_neg hc, List.filter_cons_of_pos (by simpa only [decide_eq_true_eq] using hc),
      List.filter_nil]

/-- A parser that was cleared has taken nothing. -/
theorem taken_clear : Taken [] clear :=
  ⟨rfl, rfl, by simp only [clear, Bool.false_eq_true, endedLines_nil, List.not_mem_nil]⟩

/-- One chunk: the parser takes what is taken of it. -/
theorem taken_addData {t : Bytes} {h : HttpHeaders} (ht : Taken t h) (c : Bytes) :
    Taken (t ++ taken t c) (h.addData c).1 := by
  induction c generalizing t h with
  | nil =>
      rw [taken, List.append_nil]
      exact ht
  | cons b bs ih =>
      rw [taken, addData]
      by_cases hb : b = lf
      · subst hb
        by_cases hl : openLine t = []
        · -- The empty line is the last thing taken of the chunk.
          rw [if_pos ⟨rfl, hl⟩, if_pos rfl, if_pos (ht.line.trans hl)]
          refine ⟨?_, ?_, ?_⟩
          · rw [headerLines, endedLines_lf, hl, List.filter_append]
            exact ht.lines.trans (List.append_nil _).symm
          · rw [openLine_lf]
            exact ht.line.trans hl
          · rw [endedLines_lf, hl]
            exact iff_of_true rfl (List.mem_append_right _ (List.mem_singleton.mpr rfl))
        · rw [if_neg (fun hand => hl hand.2), if_pos rfl,
            if_neg (fun hnil => hl (ht.line.symm.trans hnil)), List.append_cons]
          refine ih ⟨?_, (openLine_lf t).symm, ?_⟩
          · rw [headerLines, endedLines_lf, List.filter_append,
              List.filter_cons_of_pos (by simpa only [decide_eq_true_eq] using hl), List.filter_nil,
              ← ht.line]
            exact congrArg (· ++ [h.line]) ht.lines
          · rw [endedLines_lf, List.mem_append, List.mem_singleton, ht.flag]
            exact ⟨Or.inl, fun hor => hor.resolve_right (fun hnil => hl hnil.symm)⟩
      · rw [if_neg (fun hand => hb hand.1), if_neg hb, List.append_cons]
        have hlines : headerLines (t ++ [b]) = headerLines t := by
          rw [headerLines, endedLines_octet hb, headerLines]
        have hline := openLine_octet hb t
        by_cases hc : b = cr
        · -- A carriage return is taken, and is no part of the line.
          rw [if_pos hc] at hline ⊢
          refine ih ⟨ht.lines.trans hlines.symm, ht.line.trans hline.symm, ?_⟩
          rw [endedLines_octet hb]
          exact ht.flag
        · rw [if_neg hc] at hline ⊢
          refine ih ⟨ht.lines.trans hlines.symm, ?_, ?_⟩
          · rw [hline, ← ht.line]
          · rw [endedLines_octet hb]
            exact ht.flag

/-- A parser is complete when the octets it was given are. -/
theorem isComplete_iff {t : Bytes} {h : HttpHeaders} (ht : Taken t h) :
    h.isComplete = true ↔ HeaderEnded t := by
  rw [isComplete, Bool.and_eq_true, ht.flag, Bool.not_eq_true', List.isEmpty_eq_false_iff, ht.lines,
    HeaderEnded, and_comm]

/-- What does not end with its first piece taken away did not end before. -/
theorem unended_cons {t : Bytes} {r : ReadResult} {hdr : List ReadResult} :
    Unended t (r :: hdr) ↔ ¬ HeaderEnded t ∧ Unended (t ++ taken t r.bytes) hdr := by
  constructor
  · intro h
    refine ⟨h [] (r :: hdr) rfl (List.cons_ne_nil r hdr), fun past tl heq htl => ?_⟩
    exact h (r :: past) tl (by rw [heq, List.cons_append]) htl
  · rintro ⟨hfirst, hrest⟩ past tl heq htl
    cases past with
    | nil => exact hfirst
    | cons r' past =>
        rw [List.cons_append, List.cons.injEq] at heq
        rw [← heq.1]
        exact hrest past tl heq.2 htl

/-- The loop for the header goes through results that may be tried again while the header has
    not ended. -/
theorem headerReads_iff {t : Bytes} {h : HttpHeaders} (ht : Taken t h) (remaining : Bytes)
    (hdr : List ReadResult) :
    (∃ h' remaining', HeaderReads h remaining hdr h' remaining') ↔
      (∀ r ∈ hdr, r.Retry) ∧ Unended t hdr := by
  induction hdr generalizing t h remaining with
  | nil =>
      refine iff_of_true ⟨h, remaining, headerReads_nil h remaining⟩
        ⟨fun r hr => absurd hr List.not_mem_nil, fun past tl heq htl => absurd ?_ htl⟩
      exact (List.append_eq_nil_iff.mp heq.symm).2
  | cons r hdr ih =>
      simp only [headerReads_cons, exists_and_left, ih (taken_addData ht r.bytes),
        List.forall_mem_cons, unended_cons, ← isComplete_iff ht, Bool.not_eq_true]
      tauto

/-- Where the loop has got to. -/
theorem taken_headerReads {t : Bytes} {h h' : HttpHeaders} (ht : Taken t h)
    {remaining remaining' : Bytes} {hdr : List ReadResult}
    (hreads : HeaderReads h remaining hdr h' remaining') : Taken (headerText t hdr) h' := by
  induction hdr generalizing t h remaining with
  | nil =>
      have hparsed := hreads.parsed
      rw [List.map_nil, feed, Prod.mk.injEq] at hparsed
      exact hparsed.1 ▸ ht
  | cons r hdr ih =>
      rcases headerReads_cons.mp hreads with ⟨-, -, hrest⟩
      exact ih (taken_addData ht r.bytes) hrest

/-- The loop over the digits. -/
theorem foldl_digits {digits : Bytes} (hd : ∀ b ∈ digits, isdigit b = true) :
    digits.foldl (fun (n : Int) b => 10 * n + (b.toNat - 48)) 0 = decimalValue digits := by
  -- The last digit is the lowest one, so the induction takes it off the end.
  induction digits using List.reverseRecOn with
  | nil => rfl
  | append_singleton ds d ih =>
      have hlow : 48 ≤ d.toNat := by
        have hdig := hd d (List.mem_append_right _ (List.mem_singleton.mpr rfl))
        simp only [isdigit, Bool.and_eq_true, decide_eq_true_eq] at hdig
        exact UInt8.le_iff_toNat_le.mp hdig.1
      -- Backwards the last digit is the first, which is what `ofDigits` begins with.
      have hvalue : decimalValue (ds ++ [d]) = d.toNat - 48 + 10 * decimalValue ds := by
        rw [decimalValue, List.reverse_append, List.reverse_singleton, List.singleton_append,
          List.map_cons, Nat.ofDigits_cons, decimalValue]
      rw [List.foldl_append, ih (fun b hb => hd b (List.mem_append_left _ hb)), hvalue]
      simp only [List.foldl_cons, List.foldl_nil]
      omega

/-- `stoi` of a text that starts with a number. -/
theorem stoi_number {spaces sign digits rest : Bytes} (hn : Number spaces sign digits rest) :
    stoi (spaces ++ (sign ++ (digits ++ rest))) =
      let n : Int := if sign = [45] then -decimalValue digits else decimalValue digits
      if n < -2 ^ 31 ∨ 2 ^ 31 ≤ n then .error (.thrown .outOfRange) else .ok n := by
  rcases List.exists_cons_of_ne_nil hn.nonempty with ⟨d, ds, hcons⟩
  have hd : isdigit d = true := hn.digits d (hcons ▸ List.mem_cons_self)
  have hbounds : 48 ≤ d.toNat ∧ d.toNat ≤ 57 := by
    simp only [isdigit, Bool.and_eq_true, decide_eq_true_eq] at hd
    exact ⟨UInt8.le_iff_toNat_le.mp hd.1, UInt8.le_iff_toNat_le.mp hd.2⟩
  have hne : ∀ k : UInt8, k.toNat < 48 → d ≠ k := by
    rintro k hk rfl
    omega
  -- Neither a sign nor a digit is white space, so the text in front is all there is of it.
  have hspace : isspace d = false := by
    simp only [isspace, Bool.or_eq_false_iff, decide_eq_false_iff_not, Bool.and_eq_false_iff]
    exact ⟨hne 32 (by decide), Or.inr (fun hle => absurd (UInt8.le_iff_toNat_le.mp hle)
      (by rw [show (13 : UInt8).toNat = 13 from rfl]; omega))⟩
  have htake : (digits ++ rest).takeWhile isdigit = digits := by
    rw [List.takeWhile_append_of_pos hn.digits]
    have hrest : rest.takeWhile isdigit = [] := by
      cases rest with
      | nil => rfl
      | cons b bs => exact List.takeWhile_cons_of_neg (by rw [hn.rest b rfl]; decide)
    rw [hrest, List.append_nil]
  rw [stoi, List.dropWhile_append_of_pos hn.spaces]
  -- Without a sign the first digit is looked at for one; a sign is left behind.
  rcases hn.sign with rfl | rfl | rfl
  · have hdrop : (digits ++ rest).dropWhile isspace = digits ++ rest := by
      rw [hcons, List.cons_append, List.dropWhile_cons_of_neg (by rw [hspace]; decide)]
    have hhead : (digits ++ rest).head? = some d := by rw [hcons]; rfl
    simp only [List.nil_append, hdrop, hhead, Option.some.injEq, hne 45 (by decide),
      hne 43 (by decide), decide_false, Bool.or_false, Bool.false_eq_true, if_false, htake,
      hn.nonempty, foldl_digits hn.digits, List.ne_cons_self]
  · have hplus : ¬ isspace 43 = true := by decide
    have hdiff : ¬ (43 : UInt8) = 45 := by decide
    simp only [List.singleton_append, List.dropWhile_cons_of_neg hplus, List.head?_cons,
      Option.some.injEq, List.tail_cons, htake, hn.nonempty, if_false, foldl_digits hn.digits,
      List.cons.injEq, and_true, hdiff, decide_false, decide_true, Bool.or_true, if_true]
  · have hminus : ¬ isspace 45 = true := by decide
    simp only [List.singleton_append, List.dropWhile_cons_of_neg hminus, List.head?_cons,
      Option.some.injEq, List.tail_cons, htake, hn.nonempty, if_false, foldl_digits hn.digits,
      decide_true, Bool.true_or, if_true]

/-- A text that starts with a digit: all digits there are, and the rest. -/
theorem exists_digits {s : Bytes} (hs : s.takeWhile isdigit ≠ []) :
    ∃ digits rest, s = digits ++ rest ∧ digits ≠ [] ∧ (∀ b ∈ digits, isdigit b = true) ∧
      ∀ b, rest.head? = some b → isdigit b = false := by
  refine ⟨s.takeWhile isdigit, s.dropWhile isdigit, List.takeWhile_append_dropWhile.symm, hs,
    fun b hb => List.mem_takeWhile_imp hb, fun b hb => ?_⟩
  have hnot := List.head?_dropWhile_not isdigit s
  rw [hb] at hnot
  exact hnot

/-- Only such a text has a number. -/
theorem exists_number {w : Bytes} {n : Int} (h : stoi w = .ok n) :
    ∃ spaces sign digits rest, w = spaces ++ (sign ++ (digits ++ rest)) ∧
      Number spaces sign digits rest := by
  have hspaces : ∀ b ∈ w.takeWhile isspace, isspace b = true :=
    fun b hb => List.mem_takeWhile_imp hb
  have hw : w = w.takeWhile isspace ++ w.dropWhile isspace := List.takeWhile_append_dropWhile.symm
  have hdigits : (if (decide ((w.dropWhile isspace).head? = some 45) ||
      decide ((w.dropWhile isspace).head? = some 43)) = true then (w.dropWhile isspace).tail
      else w.dropWhile isspace).takeWhile isdigit ≠ [] := by
    intro hnil
    rw [stoi] at h
    simp only [hnil, if_true, reduceCtorEq] at h
  -- The octet behind the white space tells if there is a sign.
  cases hs : w.dropWhile isspace with
  | nil =>
      rw [hs] at hdigits
      exact absurd rfl hdigits
  | cons b s =>
      rw [hs] at hw hdigits
      simp only [List.head?_cons, List.tail_cons, Option.some.injEq] at hdigits
      by_cases hminus : b = 45
      · rw [if_pos (by simp only [hminus, decide_true, Bool.true_or])] at hdigits
        rcases exists_digits hdigits with ⟨digits, rest, rfl, hne, hd, hr⟩
        exact ⟨_, [45], digits, rest, hminus ▸ hw, hspaces, Or.inr (Or.inr rfl), hne, hd, hr⟩
      · by_cases hplus : b = 43
        · rw [if_pos (by simp only [hplus, decide_true, Bool.or_true])] at hdigits
          rcases exists_digits hdigits with ⟨digits, rest, rfl, hne, hd, hr⟩
          exact ⟨_, [43], digits, rest, hplus ▸ hw, hspaces, Or.inr (Or.inl rfl), hne, hd, hr⟩
        · rw [if_neg (by simp only [hminus, hplus, decide_false, Bool.or_false, Bool.false_eq_true,
            not_false_eq_true])] at hdigits
          rcases exists_digits hdigits with ⟨digits, rest, heq, hne, hd, hr⟩
          exact ⟨_, [], digits, rest, heq ▸ hw, hspaces, Or.inl rfl, hne, hd, hr⟩

/-- `stoi` returns exactly if the text starts with a number that an `int` holds. -/
theorem stoi_ok_iff (w : Bytes) : (∃ n, stoi w = .ok n) ↔ IntText w := by
  have hfits : ∀ (sign : Bytes) (v : Nat),
      (∃ n : Int, (let n : Int := if sign = [45] then -v else v
        if n < -2 ^ 31 ∨ 2 ^ 31 ≤ n then Except.error (NoReturn.thrown .outOfRange)
        else .ok n) = .ok n) ↔ (v < 2 ^ 31 ∨ sign = [45] ∧ v = 2 ^ 31) := by
    intro sign v
    by_cases hs : sign = [45]
    · simp only [hs, if_true, true_and]
      split
      · exact iff_of_false (by simp only [reduceCtorEq, exists_false, not_false_eq_true]) (by omega)
      · exact iff_of_true ⟨_, rfl⟩ (by omega)
    · simp only [hs, if_false, false_and, or_false]
      split
      · exact iff_of_false (by simp only [reduceCtorEq, exists_false, not_false_eq_true]) (by omega)
      · exact iff_of_true ⟨_, rfl⟩ (by omega)
  constructor
  · rintro ⟨n, hok⟩
    rcases exists_number hok with ⟨spaces, sign, digits, rest, rfl, hn⟩
    rw [stoi_number hn] at hok
    exact ⟨spaces, sign, digits, rest, rfl, hn, (hfits sign _).mp ⟨n, hok⟩⟩
  · rintro ⟨spaces, sign, digits, rest, rfl, hn, hv⟩
    rw [stoi_number hn]
    exact (hfits sign _).mpr hv

example : stoi [32, 45, 50, 48, 120] = .ok (-20) := by decide

/-- The parts of a text are at least two if something stands behind a separator. -/
theorem exists_of_split {d : UInt8} {str a s : Bytes} {parts : List Bytes}
    (h : split str [d] = a :: s :: parts) :
    ∃ rest, str = a ++ d :: rest ∧ d ∉ a ∧ rest ≠ [] ∧ s = rest.takeWhile (· ≠ d) := by
  have hfree : ∀ b ∈ str.takeWhile (· ≠ d), b ∉ [d] := by
    intro b hb hmem
    have hne := List.mem_takeWhile_imp hb
    exact of_decide_eq_true hne (List.mem_singleton.mp hmem)
  have hstr : str.takeWhile (· ≠ d) ++ str.dropWhile (· ≠ d) = str :=
    List.takeWhile_append_dropWhile
  have hfirst := splitFrom_append hfree [] (str.dropWhile (· ≠ d))
  rw [hstr, List.nil_append] at hfirst
  rw [split, hfirst] at h
  cases hdrop : str.dropWhile (· ≠ d) with
  | nil =>
      -- Without a separator there is one part, or none.
      rw [hdrop, splitFrom] at h
      split at h
      · exact absurd h (List.cons_ne_nil _ _).symm
      · rw [List.cons.injEq] at h
        exact absurd h.2 (List.cons_ne_nil _ _).symm
  | cons b rest =>
      have hb : b = d := by
        have hnot := List.head?_dropWhile_not (fun x => decide (x ≠ d)) str
        rw [hdrop] at hnot
        simpa only [List.head?_cons, ne_eq, decide_not, Bool.not_eq_false', decide_eq_true_eq]
          using hnot
      rw [hdrop, hb, splitFrom, if_pos (List.mem_singleton.mpr rfl), List.cons.injEq] at h
      have hrest : rest ≠ [] := by
        rintro rfl
        exact absurd h.2 (List.cons_ne_nil _ _).symm
      -- Behind the separator the next part is what comes before another one.
      rcases @splitFrom_head d [] rest (Or.inr hrest) with ⟨parts', hparts⟩
      rw [hparts, List.nil_append, List.cons.injEq] at h
      refine ⟨rest, ?_, fun hmem => ?_, hrest, h.2.1.symm⟩
      · rw [hb] at hdrop
        rw [← h.1, ← hdrop, hstr]
      · exact hfree d (h.1 ▸ hmem) (List.mem_singleton.mpr rfl)

section Fields

variable {h : HttpHeaders}

/-- The words of the first line can be had. -/
theorem replyParts_ok_iff (hc : h.isComplete = true) {a s : Bytes} :
    h.replyParts = .ok (a, s) ↔
      ∃ rest, h.headerlines.head? = some (a ++ 32 :: rest) ∧ 32 ∉ a ∧ rest ≠ [] ∧
        SplitEnds (a ++ 32 :: rest) [32] ∧ s = rest.takeWhile (· ≠ 32) := by
  constructor
  · intro hparts
    rw [replyParts, hc] at hparts
    simp only [Bool.not_true, Bool.false_eq_true, if_false] at hparts
    split at hparts
    · exact absurd hparts (by simp only [reduceCtorEq, not_false_eq_true])
    · rename_i hends
      rw [Decidable.not_not] at hends
      split at hparts
      · rename_i protocol status parts hsplit
        rw [Except.ok.injEq, Prod.mk.injEq] at hparts
        rcases exists_of_split hsplit with ⟨rest, hline, ha, hrest, hs⟩
        rw [hparts.1] at hline ha
        refine ⟨rest, ?_, ha, hrest, hline ▸ hends, hparts.2.symm.trans hs⟩
        -- The first line is not empty, so there is one.
        cases hlines : h.headerlines with
        | nil =>
            rw [hlines] at hline
            exact absurd hline.symm (List.append_ne_nil_of_right_ne_nil _ (List.cons_ne_nil _ _))
        | cons l ls =>
            rw [hlines] at hline
            exact congrArg some hline
      · exact absurd hparts (by simp only [reduceCtorEq, not_false_eq_true])
  · -- A line of this form is split where it says.
    rintro ⟨rest, hline, ha, hrest, hends, rfl⟩
    exact replyParts_eq hc hline hends ha hrest

/-- They are waited for without an end if `split` does not return. -/
theorem replyParts_endless_iff (hc : h.isComplete = true) :
    h.replyParts = .error .endless ↔
      ∀ parts, ¬ SplitReturns (h.headerlines.headD []) [32] parts := by
  simp only [splitReturns_iff, not_and, replyParts, hc, Bool.not_true,
    Bool.false_eq_true, if_false]
  by_cases hends : SplitEnds (h.headerlines.headD []) [32]
  · rw [if_neg (fun hno => hno hends)]
    refine iff_of_false ?_ (fun hall => hall _ hends rfl)
    split
    · simp only [reduceCtorEq, not_false_eq_true]
    · simp only [Except.error.injEq, reduceCtorEq, not_false_eq_true]
  · rw [if_pos hends]
    exact iff_of_true rfl (fun parts hno => absurd hno hends)

/-- The length of the body can be had. -/
theorem getContentLength_ok_iff :
    (∃ n, h.getContentLength = .ok n) ↔
      ∀ before l after, h.headerlines = before ++ l :: after → (∀ x ∈ before, ¬ HasTag x) →
        HasTag l → IntText (l.drop contentLengthTag.length) := by
  have htag : ∀ l : Bytes, iequals contentLengthTag (l.take contentLengthTag.length) = true ↔
      HasTag l := by
    intro l
    rw [iequals, decide_eq_true_eq, HasTag, eq_comm]
  rw [getContentLength]
  cases hfind : h.headerlines.find?
      (fun l => iequals contentLengthTag (l.take contentLengthTag.length)) with
  | none =>
      -- Without the tag the length is -1, and nothing is converted.
      refine iff_of_true ⟨-1, rfl⟩ (fun before l after heq _ hl => ?_)
      have hnone := List.find?_eq_none.mp hfind l
        (heq ▸ List.mem_append_right _ (List.mem_cons_self ..))
      exact absurd ((htag l).mpr hl) hnone
  | some l =>
      rcases List.find?_eq_some_iff_append.mp hfind with ⟨hl, before, after, heq, hbefore⟩
      have hnone : ∀ x ∈ before, ¬ HasTag x := by
        intro x hx hx'
        have hno := hbefore x hx
        rw [(htag x).mpr hx'] at hno
        exact absurd hno (by decide)
      constructor
      · intro hok before' l' after' heq' hnone' hl'
        -- The first line with the tag is the one that was found.
        have hfind' : h.headerlines.find?
            (fun l => iequals contentLengthTag (l.take contentLengthTag.length)) = some l' := by
          refine List.find?_eq_some_iff_append.mpr
            ⟨(htag l').mpr hl', before', after', heq', fun x hx => ?_⟩
          rw [Bool.not_eq_true', ← Bool.not_eq_true, htag]
          exact hnone' x hx
        rw [hfind, Option.some.injEq] at hfind'
        rw [← hfind']
        exact (stoi_ok_iff _).mp hok
      · intro hall
        exact (stoi_ok_iff _).mpr (hall before l after heq hnone ((htag l).mp hl))

/-- The accessors return exactly if the fields of the header can be had. -/
theorem replyFields_ok_iff (hc : h.isComplete = true) :
    (∃ status, replyFields h = .ok status) ↔ FieldsReadable h.headerlines := by
  rw [FieldsReadable, ← getContentLength_ok_iff, replyFields, getReplyProtocol, getReplyStatus]
  cases hparts : h.replyParts with
  -- Without the words no accessor returns.
  | error e =>
      refine iff_of_false ?_ ?_
      · simp only [Except.map, reduceCtorEq, exists_false, not_false_eq_true]
      · rintro ⟨⟨protocol, rest, hline, hp, hrest, hends, -⟩, -⟩
        rw [(replyParts_ok_iff hc).mpr ⟨rest, hline, hp, hrest, hends, rfl⟩] at hparts
        exact absurd hparts (by simp only [reduceCtorEq, not_false_eq_true])
  | ok words =>
      rcases words with ⟨a, s⟩
      -- With the words, what stands behind the first one is looked at for a number.
      have hwords : (∃ protocol rest, h.headerlines.head? = some (protocol ++ 32 :: rest) ∧
          32 ∉ protocol ∧ rest ≠ [] ∧ SplitEnds (protocol ++ 32 :: rest) [32] ∧
          IntText (rest.takeWhile (· ≠ 32))) ↔ ∃ n, stoi s = .ok n := by
        rw [stoi_ok_iff]
        constructor
        · rintro ⟨protocol, rest, hline, hp, hrest, hends, hint⟩
          rw [(replyParts_ok_iff hc).mpr ⟨rest, hline, hp, hrest, hends, rfl⟩, Except.ok.injEq,
            Prod.mk.injEq] at hparts
          exact hparts.2 ▸ hint
        · intro hint
          rcases (replyParts_ok_iff hc).mp hparts with ⟨rest, hline, ha, hrest, hends, hs⟩
          exact ⟨a, rest, hline, ha, hrest, hends, hs ▸ hint⟩
      rw [hwords]
      simp only [Except.map]
      cases stoi s with
      | error e => simp only [reduceCtorEq, exists_false, false_and]
      | ok n =>
          simp only [Except.ok.injEq, exists_eq', true_and]
          cases h.getContentLength with
          | error e => simp only [reduceCtorEq, exists_false]
          | ok m => simp only [Except.ok.injEq, exists_eq']

end Fields

end Iso21177
